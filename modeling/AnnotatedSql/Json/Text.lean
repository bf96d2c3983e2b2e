import AnnotatedSql.Json.Reading
import AnnotatedSql.Piece

/-!
# JSON strings

A string is written between double quotes with the quote, the backslash and the controls below U+0020 escaped and
every other character as it is.  Reading accepts more spellings: any character may be written as `\u` and four
hexadecimal digits, and those beyond U+FFFF as two such escapes, a surrogate pair.  A string whose content is of
no interest is only skipped, without a look at surrogates.
-/

namespace AnnotatedSql.Json

/-! ### Writing -/

/-- The letter that stands behind a backslash for the character. -/
def escapeLetter? (c : Char) : Option Char :=
  if c = '"' ∨ c = '\\' then some c
  else if c = '\x08' then some 'b'
  else if c = '\x0c' then some 'f'
  else if c = '\n' then some 'n'
  else if c = '\r' then some 'r'
  else if c = '\t' then some 't'
  else none

/-- One character of a string. -/
def encodeChar (c : Char) : List Char :=
  match escapeLetter? c with
  | some letter => ['\\', letter]
  | none =>
    if c.toNat < 0x20 then ['\\', 'u', '0', '0', Nat.digitChar (c.toNat / 16), Nat.digitChar (c.toNat % 16)]
    else [c]

/-- The text as a string. -/
def encode (text : List Char) : List Char := '"' :: (text.flatMap encodeChar ++ ['"'])

/-! ### Escapes -/

/-- The character that a letter behind a backslash stands for. -/
def unescapeLetter? (letter : Char) : Option Char :=
  if letter = '"' ∨ letter = '\\' ∨ letter = '/' then some letter
  else if letter = 'b' then some '\x08'
  else if letter = 'f' then some '\x0c'
  else if letter = 'n' then some '\n'
  else if letter = 'r' then some '\r'
  else if letter = 't' then some '\t'
  else none

/-- The value of a hexadecimal digit. -/
def hexDigit? (c : Char) : Option Nat :=
  if '0' ≤ c ∧ c ≤ '9' then some (c.toNat - '0'.toNat)
  else if 'a' ≤ c ∧ c ≤ 'f' then some (c.toNat - 'a'.toNat + 10)
  else if 'A' ≤ c ∧ c ≤ 'F' then some (c.toNat - 'A'.toNat + 10)
  else none

/-- The value of four hexadecimal digits. -/
def hexUnit? (a b c d : Char) : Option Nat := do
  return ((((← hexDigit? a) * 16 + (← hexDigit? b)) * 16 + (← hexDigit? c)) * 16 + (← hexDigit? d))

/-- Four hexadecimal digits.  Four bytes are looked at, whatever they are. -/
def readUnit : Reader Nat := fun text =>
  if Piece.byteWidth text < 4 then .error (.before .endInString [])
  else match text with
    | a :: b :: c :: d :: rest =>
      match hexUnit? a b c d with
      | some unit => .ok (unit, rest)
      | none => .error ⟨.invalidEscape, text, 4⟩
    | _ => .error ⟨.invalidEscape, text, 4⟩

/-- The first of the two units that spell a character beyond U+FFFF. -/
def IsLead (unit : Nat) : Prop := 0xD800 ≤ unit ∧ unit ≤ 0xDBFF

/-- The second of the two units that spell a character beyond U+FFFF. -/
def IsTrail (unit : Nat) : Prop := 0xDC00 ≤ unit ∧ unit ≤ 0xDFFF

instance (unit : Nat) : Decidable (IsLead unit) := inferInstanceAs (Decidable (_ ∧ _))

instance (unit : Nat) : Decidable (IsTrail unit) := inferInstanceAs (Decidable (_ ∧ _))

/-- The character that two units spell. -/
def pairedChar (lead trail : Nat) : Char :=
  Char.ofNat (0x10000 + (lead - 0xD800) * 0x400 + (trail - 0xDC00))

/-- The given character, which a surrogate pair needs in its middle. -/
def readInPair (wanted : Char) : List Char → Except Stop (List Char)
  | [] => .error (.on .endInString [])
  | c :: rest => if c = wanted then .ok rest else .error (.on .brokenPair (c :: rest))

/-- The second half of a surrogate pair. -/
def readTrail (lead : Nat) : Reader Char := fun text => do
  let text ← readInPair '\\' text
  let text ← readInPair 'u' text
  let (trail, text) ← readUnit text
  if IsTrail trail then .ok (pairedChar lead trail, text) else .error (.before .loneSurrogate text)

/-- The character of an escape whose backslash has been read. -/
def readEscape : Reader Char
  | [] => .error (.on .endInString [])
  | 'u' :: text => do
    let (unit, text) ← readUnit text
    if IsTrail unit then .error (.before .loneSurrogate text)
    else if IsLead unit then readTrail unit text
    else .ok (Char.ofNat unit, text)
  | letter :: text =>
    match unescapeLetter? letter with
    | some c => .ok (c, text)
    | none => .error (.on .invalidEscape (letter :: text))

/-- Skips an escape whose backslash has been read. -/
def skipEscape : List Char → Except Stop (List Char)
  | [] => .error (.on .endInString [])
  | 'u' :: text => do
    let (_, text) ← readUnit text
    .ok text
  | letter :: text =>
    match unescapeLetter? letter with
    | some _ => .ok text
    | none => .error (.on .invalidEscape (letter :: text))

/-! ### Escapes leave less text -/

theorem length_of_readUnit {text rest : List Char} {unit : Nat} (h : readUnit text = .ok (unit, rest)) :
    rest.length < text.length := by
  unfold readUnit at h
  repeat' split at h
  all_goals simp_all
  omega

theorem length_of_readInPair {wanted : Char} {text rest : List Char}
    (h : readInPair wanted text = .ok rest) : rest.length < text.length := by
  unfold readInPair at h
  repeat' split at h
  all_goals simp_all

theorem length_of_readTrail {lead : Nat} {text rest : List Char} {c : Char}
    (h : readTrail lead text = .ok (c, rest)) : rest.length < text.length := by
  obtain ⟨_, backslash, h⟩ := bind_eq_ok_iff.1 h
  obtain ⟨_, letter, h⟩ := bind_eq_ok_iff.1 h
  obtain ⟨⟨_, _⟩, unit, h⟩ := bind_eq_ok_iff.1 h
  have := length_of_readInPair backslash
  have := length_of_readInPair letter
  have := length_of_readUnit unit
  simp only at h
  split at h
  · simp only [Except.ok.injEq, Prod.mk.injEq] at h
    obtain ⟨-, rfl⟩ := h
    omega
  · cases h

theorem length_of_readEscape {text rest : List Char} {c : Char} (h : readEscape text = .ok (c, rest)) :
    rest.length < text.length := by
  unfold readEscape at h
  split at h
  · cases h
  · obtain ⟨⟨unit, _⟩, read, h⟩ := bind_eq_ok_iff.1 h
    have := length_of_readUnit read
    rw [List.length_cons]
    simp only at h
    split at h
    · cases h
    · split at h
      · have := length_of_readTrail h
        omega
      · cases h
        omega
  · split at h
    · cases h; simp
    · cases h

theorem length_of_skipEscape {text rest : List Char} (h : skipEscape text = .ok rest) :
    rest.length < text.length := by
  unfold skipEscape at h
  split at h
  · cases h
  · obtain ⟨⟨_, _⟩, read, h⟩ := bind_eq_ok_iff.1 h
    cases h
    have := length_of_readUnit read
    rw [List.length_cons]
    omega
  · split at h
    · cases h; simp
    · cases h

/-! ### Reading and skipping -/

/-- The content of a string whose opening quote has been read. -/
def readString : Reader (List Char)
  | [] => .error (.on .endInString [])
  | '"' :: text => .ok ([], text)
  | '\\' :: text =>
    match _left : readEscape text with
    | .error stop => .error stop
    | .ok (c, rest) => do
      let (content, rest) ← readString rest
      .ok (c :: content, rest)
  | c :: text =>
    if c.toNat < 0x20 then .error (.on .controlCharacter (c :: text))
    else do
      let (content, rest) ← readString text
      .ok (c :: content, rest)
termination_by text => text.length
decreasing_by
  · have := length_of_readEscape _left; simp; omega
  · simp

theorem readString_backslash (text : List Char) :
    readString ('\\' :: text) = (do
      let (c, rest) ← readEscape text
      let (content, rest) ← readString rest
      .ok (c :: content, rest)) := by
  rw [readString]
  split <;> rename_i e <;> rw [e] <;> rfl

theorem readString_cons {c : Char} (quote : c ≠ '"') (backslash : c ≠ '\\') (control : ¬ c.toNat < 0x20)
    (text : List Char) :
    readString (c :: text) = (do
      let (content, rest) ← readString text
      .ok (c :: content, rest)) := by
  rw [readString.eq_def]
  split
  · simp_all
  · simp_all
  · simp_all
  · rename_i e
    cases e
    rw [if_neg control]

theorem length_of_readString {text rest content : List Char} (h : readString text = .ok (content, rest)) :
    rest.length < text.length := by
  fun_induction readString text generalizing content with
  | case1 => cases h
  | case2 => cases h; simp
  | case3 => cases h
  | case4 text c next left ih =>
    obtain ⟨⟨_, _⟩, read, h⟩ := bind_eq_ok_iff.1 h
    cases h
    have := ih read
    have := length_of_readEscape left
    rw [List.length_cons]
    omega
  | case5 => cases h
  | case6 c text _ _ _ ih =>
    obtain ⟨⟨_, _⟩, read, h⟩ := bind_eq_ok_iff.1 h
    cases h
    have := ih read
    rw [List.length_cons]
    omega

/-- Skips a string whose opening quote has been read.  A control character is noticed before it is passed. -/
def skipString : List Char → Except Stop (List Char)
  | [] => .error (.on .endInString [])
  | '"' :: text => .ok text
  | '\\' :: text =>
    match _left : skipEscape text with
    | .error stop => .error stop
    | .ok rest => skipString rest
  | c :: text => if c.toNat < 0x20 then .error (.before .controlCharacter (c :: text)) else skipString text
termination_by text => text.length
decreasing_by
  · have := length_of_skipEscape _left; simp; omega
  · simp

theorem skipString_backslash (text : List Char) :
    skipString ('\\' :: text) = (do
      let rest ← skipEscape text
      skipString rest) := by
  rw [skipString]
  split <;> rename_i e <;> rw [e] <;> rfl

theorem length_of_skipString {text rest : List Char} (h : skipString text = .ok rest) :
    rest.length < text.length := by
  fun_induction skipString text with
  | case1 => cases h
  | case2 => cases h; simp
  | case3 => cases h
  | case4 text next left ih =>
    have := ih h
    have := length_of_skipEscape left
    rw [List.length_cons]
    omega
  | case5 => cases h
  | case6 c text _ _ _ ih =>
    have := ih h
    rw [List.length_cons]
    omega

end AnnotatedSql.Json
