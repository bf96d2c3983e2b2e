import AnnotatedSql.Json.Text

/-!
# Spellings of a JSON string

The ways to write a text between the quotes of a JSON string: a character stands for itself, or is spelled by a
letter behind a backslash, or by its code in one or two groups of four hexadecimal digits.  Reading finds the
text whatever the spelling, and what is written is one of the spellings.

* `readString_spelled`: reading a string gives the text that it spells and stops behind the closing quote;
* `spelled_encode`: a text is written as one of its spellings.
-/

namespace AnnotatedSql.Json

/-- The letters that may stand behind a backslash, each with the character that it stands for. -/
def letterEscapes : List (Char × Char) :=
  [('"', '"'), ('\\', '\\'), ('/', '/'), ('b', '\x08'), ('f', '\x0c'), ('n', '\n'), ('r', '\r'), ('t', '\t')]

/-- The character is the hexadecimal digit for `n`, in upper or lower case. -/
def IsHexDigit (n : Nat) (c : Char) : Prop := n < 16 ∧ (c = Nat.digitChar n ∨ c = (Nat.digitChar n).toUpper)

instance (n : Nat) (c : Char) : Decidable (IsHexDigit n c) := inferInstanceAs (Decidable (_ ∧ _))

/-- The text is the number in four hexadecimal digits. -/
inductive IsHex : Nat → List Char → Prop
  | mk {i j k l : Nat} {a b c d : Char} : IsHexDigit i a → IsHexDigit j b → IsHexDigit k c → IsHexDigit l d →
      IsHex (((i * 16 + j) * 16 + k) * 16 + l) [a, b, c, d]

/-- The character is spelled by the given text between the quotes of a string. -/
inductive Spelling : Char → List Char → Prop
  | raw {c : Char} : c ≠ '"' → c ≠ '\\' → 0x20 ≤ c.toNat → Spelling c [c]
  | letter {c letter : Char} : (letter, c) ∈ letterEscapes → Spelling c ['\\', letter]
  | unit {c : Char} {digits : List Char} : IsHex c.toNat digits → Spelling c ('\\' :: 'u' :: digits)
  /-- A character beyond U+FFFF, by the two halves of a surrogate pair. -/
  | pair {c : Char} {digits digits' : List Char} : 0x10000 ≤ c.toNat →
      IsHex (0xD800 + (c.toNat - 0x10000) / 0x400) digits → IsHex (0xDC00 + (c.toNat - 0x10000) % 0x400) digits' →
      Spelling c ('\\' :: 'u' :: (digits ++ '\\' :: 'u' :: digits'))

/-- The first text is spelled, character by character, by the second one. -/
inductive Spelled : List Char → List Char → Prop
  | nil : Spelled [] []
  | cons {c : Char} {content piece text : List Char} : Spelling c piece → Spelled content text →
      Spelled (c :: content) (piece ++ text)

/-- The second text is a string, quotes included, with the first one as its content. -/
inductive IsString : List Char → List Char → Prop
  | mk {content body : List Char} : Spelled content body → IsString content ('"' :: (body ++ ['"']))

/-! ### Escapes -/

private theorem hexDigit?_digitChar :
    ∀ n < 16, hexDigit? (Nat.digitChar n) = some n ∧ hexDigit? (Nat.digitChar n).toUpper = some n := by decide

theorem IsHexDigit.hexDigit?_eq {n : Nat} {c : Char} (h : IsHexDigit n c) : hexDigit? c = some n := by
  obtain ⟨hn, rfl | rfl⟩ := h
  · exact (hexDigit?_digitChar n hn).1
  · exact (hexDigit?_digitChar n hn).2

theorem readUnit_append {unit : Nat} {digits : List Char} (h : IsHex unit digits) (text : List Char) :
    readUnit (digits ++ text) = .ok (unit, text) := by
  obtain ⟨ha, hb, hc, hd⟩ := h
  rename_i i j k l a b c d
  have value : hexUnit? a b c d = some (((i * 16 + j) * 16 + k) * 16 + l) := by
    rw [hexUnit?, ha.hexDigit?_eq, hb.hexDigit?_eq, hc.hexDigit?_eq, hd.hexDigit?_eq]
    rfl
  have width : ¬ Piece.byteWidth (a :: b :: c :: d :: text) < 4 := by
    have := a.utf8Size_pos
    have := b.utf8Size_pos
    have := c.utf8Size_pos
    have := d.utf8Size_pos
    simp only [Piece.byteWidth]
    omega
  simp only [List.cons_append, List.nil_append, readUnit, if_neg width, value]

theorem unescapeLetter?_of_mem : ∀ escape ∈ letterEscapes, unescapeLetter? escape.1 = some escape.2 := by decide

private theorem ne_u_of_mem : ∀ escape ∈ letterEscapes, escape.1 ≠ 'u' := by decide

theorem readEscape_letter {c letter : Char} (h : (letter, c) ∈ letterEscapes) (text : List Char) :
    readEscape (letter :: text) = .ok (c, text) := by
  have hu : letter ≠ 'u' := ne_u_of_mem _ h
  unfold readEscape
  split
  · simp_all
  · simp_all
  · rename_i e
    cases e
    rw [unescapeLetter?_of_mem _ h]

theorem skipEscape_letter {c letter : Char} (h : (letter, c) ∈ letterEscapes) (text : List Char) :
    skipEscape (letter :: text) = .ok text := by
  have hu : letter ≠ 'u' := ne_u_of_mem _ h
  unfold skipEscape
  split
  · simp_all
  · simp_all
  · rename_i e
    cases e
    rw [unescapeLetter?_of_mem _ h]

/-- No character is a half of a surrogate pair. -/
theorem not_surrogate (c : Char) : ¬ IsTrail c.toNat ∧ ¬ IsLead c.toNat := by
  have valid : c.toNat.isValidChar := c.valid
  unfold Nat.isValidChar at valid
  unfold IsTrail IsLead
  omega

theorem readEscape_unit {c : Char} {digits : List Char} (h : IsHex c.toNat digits) (text : List Char) :
    readEscape ('u' :: (digits ++ text)) = .ok (c, text) := by
  obtain ⟨trail, lead⟩ := not_surrogate c
  simp only [readEscape, readUnit_append h, bind, Except.bind, if_neg trail, if_neg lead, Char.ofNat_toNat]

theorem readEscape_pair {c : Char} {digits digits' : List Char} (h : 0x10000 ≤ c.toNat)
    (hd : IsHex (0xD800 + (c.toNat - 0x10000) / 0x400) digits)
    (hd' : IsHex (0xDC00 + (c.toNat - 0x10000) % 0x400) digits') (text : List Char) :
    readEscape ('u' :: (digits ++ '\\' :: 'u' :: (digits' ++ text))) = .ok (c, text) := by
  have valid : c.toNat.isValidChar := c.valid
  unfold Nat.isValidChar at valid
  generalize lead_eq : 0xD800 + (c.toNat - 0x10000) / 0x400 = lead at hd
  generalize trail_eq : 0xDC00 + (c.toNat - 0x10000) % 0x400 = trail at hd'
  have isLead : IsLead lead ∧ ¬ IsTrail lead := by
    unfold IsLead IsTrail
    omega
  have isTrail : IsTrail trail := by
    unfold IsTrail
    omega
  have paired : pairedChar lead trail = c := by
    have : 0x10000 + (lead - 0xD800) * 0x400 + (trail - 0xDC00) = c.toNat := by omega
    rw [pairedChar, this, Char.ofNat_toNat]
  simp only [readEscape, readTrail, readInPair, readUnit_append hd, readUnit_append hd', bind, Except.bind,
    if_neg isLead.2, if_pos isLead.1, if_pos isTrail, if_true, paired]

/-! ### Every spelling is read -/

/-- Reading past one character, however it is spelled. -/
theorem readString_spelling {c : Char} {piece : List Char} (h : Spelling c piece) (text : List Char) :
    readString (piece ++ text) = (readString text).map fun (content, rest) => (c :: content, rest) := by
  -- an escape is read as a whole, and the string goes on behind it
  have escape {letters : List Char} (h : readEscape letters = .ok (c, text)) :
      readString ('\\' :: letters) = (readString text).map fun (content, rest) => (c :: content, rest) := by
    rw [readString_backslash, h]
    simp only [bind, Except.bind]
    cases readString text <;> rfl
  cases h with
  | raw quote backslash control =>
    rw [List.singleton_append, readString_cons quote backslash (Nat.not_lt.2 control)]
    cases readString text <;> rfl
  | letter h => exact escape (readEscape_letter h text)
  | unit h => exact escape (readEscape_unit h text)
  | pair h hd hd' =>
    simp only [List.cons_append, List.append_assoc]
    exact escape (readEscape_pair h hd hd' text)

/-- Reading a string gives the text that it spells and stops behind the closing quote. -/
theorem readString_spelled {content text : List Char} (h : Spelled content text) (rest : List Char) :
    readString (text ++ '"' :: rest) = .ok (content, rest) := by
  induction h with
  | nil => simp [readString]
  | cons piece _ ih =>
    rw [List.append_assoc, readString_spelling piece, ih]
    rfl

/-! ### What is written is a spelling -/

theorem mem_letterEscapes {c letter : Char} (h : escapeLetter? c = some letter) : (letter, c) ∈ letterEscapes := by
  unfold escapeLetter? at h
  repeat' split at h
  case isTrue hc =>
    cases h
    rcases hc with rfl | rfl <;> decide
  all_goals cases h
  all_goals
    rename_i hc
    subst hc
    decide

theorem spelling_encodeChar (c : Char) : Spelling c (encodeChar c) := by
  unfold encodeChar
  split
  · rename_i letter h
    exact .letter (mem_letterEscapes h)
  · rename_i plain
    split
    · rename_i control
      have zero : IsHexDigit 0 '0' := by decide
      have high : IsHexDigit (c.toNat / 16) (Nat.digitChar (c.toNat / 16)) := ⟨by omega, .inl rfl⟩
      have low : IsHexDigit (c.toNat % 16) (Nat.digitChar (c.toNat % 16)) := ⟨by omega, .inl rfl⟩
      have hex := IsHex.mk zero zero high low
      have value : ((0 * 16 + 0) * 16 + c.toNat / 16) * 16 + c.toNat % 16 = c.toNat := by omega
      rw [value] at hex
      exact .unit hex
    · rename_i control
      refine .raw ?_ ?_ (Nat.not_lt.1 control)
      · rintro rfl
        simp [escapeLetter?] at plain
      · rintro rfl
        simp [escapeLetter?] at plain

theorem spelled_encode (text : List Char) : Spelled text (text.flatMap encodeChar) := by
  induction text with
  | nil => exact .nil
  | cons c text ih => exact .cons (spelling_encodeChar c) ih

theorem isString_encode (text : List Char) : IsString text (encode text) := .mk (spelled_encode text)

/-- Reading a string that was written gives its text and stops behind the closing quote. -/
theorem readString_encode (text rest : List Char) :
    readString (text.flatMap encodeChar ++ '"' :: rest) = .ok (text, rest) :=
  readString_spelled (spelled_encode text) rest

end AnnotatedSql.Json
