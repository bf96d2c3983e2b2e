import AnnotatedSql.Json.Numeral
import AnnotatedSql.Json.Text

/-!
# JSON values that are not kept

Two readers pass over a value.  `readFound` says what a value is that stands where another kind was wanted: it
reads a scalar to its end, with all checks, and stops in front of a container.  `skipValue` passes over a value of
any kind and any depth and keeps nothing of it, so that neither the range of its numbers nor the surrogates of its
strings matter.
-/

namespace AnnotatedSql.Json

/-- What stands at the front of the text. -/
def readFound : Reader Found
  | 'n' :: text => do
    let rest ← readWord ['u', 'l', 'l'] text
    .ok (.null, rest)
  | 't' :: text => do
    let rest ← readWord ['r', 'u', 'e'] text
    .ok (.boolean true, rest)
  | 'f' :: text => do
    let rest ← readWord ['a', 'l', 's', 'e'] text
    .ok (.boolean false, rest)
  | '"' :: text => do
    let (content, rest) ← readString text
    .ok (.string (String.ofList content), rest)
  | '[' :: text => .ok (.array, '[' :: text)
  | '{' :: text => .ok (.object, '{' :: text)
  | text =>
    if text.head?.any fun c => c = '-' || c.isDigit then do
      let (numeral, rest) ← Numeral.read .endInValue text
      match numeral.found? with
      | some found => .ok (found, rest)
      | none => .error (.before .numberOutOfRange (numeral.surplus ++ rest))
    else .error (.onOrEnd .endInValue .expectedValue text)

/-- The fault of a value of the wrong kind, or the first fault within it. -/
def wrongKind (expected : String) (text : List Char) : Stop :=
  match readFound text with
  | .ok (found, rest) => .before (.wrongKind found expected) rest
  | .error stop => stop

/-! ### Skipping -/

/-- A container that has been entered. -/
inductive Container where
  | array
  | object
deriving DecidableEq, Repr

namespace Container

/-- The bracket that ends the container. -/
def close : Container → Char
  | array => ']'
  | object => '}'

/-- The fault of a text that ends within the container. -/
def atEnd : Container → Cause
  | array => .endInArray
  | object => .endInObject

/-- The fault of an item that is followed by neither a comma nor the closing bracket. -/
def atItemEnd : Container → Cause
  | array => .expectedItemEnd
  | object => .expectedMemberEnd

/-- Passes over what stands in front of a value in the container: in an object, a key and a colon. -/
def skipKey : Container → List Char → Except Stop (List Char)
  | array, text => .ok text
  | object, text =>
    match skipGap text with
    | '"' :: text => do
      let text ← skipString text
      match skipGap text with
      | ':' :: text => .ok text
      | text => .error (.onOrEnd .endInObject .expectedColon text)
    | text => .error (.onOrEnd .endInObject .expectedKey text)

end Container

/-- A text with the containers, innermost first, that are open at its front.  With an open container the front is
where a value is due; without one nothing more is. -/
abbrev Pending : Type := List Container × List Char

/-- Behind a value: closes what ends here and goes on to the next value, if one is due. -/
def afterValue : List Container → List Char → Except Stop Pending
  | [], text => .ok ([], text)
  | c :: outer, text =>
    match skipGap text with
    | [] => .error (.on c.atEnd [])
    | d :: rest =>
      if d = ',' then do
        let rest ← c.skipKey rest
        .ok (c :: outer, rest)
      else if d = c.close then afterValue outer rest
      else .error (.on c.atItemEnd (d :: rest))

/-- Behind an opening bracket: goes on to the first value, or behind the container when it is empty. -/
def afterOpen (c : Container) (outer : List Container) (text : List Char) : Except Stop Pending :=
  match skipGap text with
  | [] => .error (.on c.atEnd [])
  | d :: rest =>
    if d = c.close then afterValue outer rest
    else do
      let rest ← c.skipKey (d :: rest)
      .ok (c :: outer, rest)

/-- Passes over a scalar or an opening bracket, and over all that follows up to the next value. -/
def skipItem (containers : List Container) (text : List Char) : Except Stop Pending :=
  match skipGap text with
  | 'n' :: text => do afterValue containers (← readWord ['u', 'l', 'l'] text)
  | 't' :: text => do afterValue containers (← readWord ['r', 'u', 'e'] text)
  | 'f' :: text => do afterValue containers (← readWord ['a', 'l', 's', 'e'] text)
  | '"' :: text => do afterValue containers (← skipString text)
  | '[' :: text => afterOpen .array containers text
  | '{' :: text => afterOpen .object containers text
  | text =>
    if text.head?.any fun c => c = '-' || c.isDigit then do
      let (_, rest) ← Numeral.read .invalidNumber text
      afterValue containers rest
    else .error (.onOrEnd .endInValue .expectedValue text)

/-! ### An item leaves less text -/

private theorem length_of_readWord {word text rest : List Char} (h : readWord word text = .ok rest) :
    rest.length ≤ text.length := by
  rw [readWord_eq_ok_iff] at h; simp [h]

theorem length_of_skipKey {c : Container} {text rest : List Char} (h : c.skipKey text = .ok rest) :
    rest.length ≤ text.length := by
  have gap := length_skipGap_le text
  unfold Container.skipKey at h
  split at h
  · cases h; exact Nat.le_refl _
  · split at h
    · rename_i key e
      obtain ⟨behind, skipped, h⟩ := bind_eq_ok_iff.1 h
      have := length_of_skipString skipped
      have := length_skipGap_le behind
      split at h
      · rename_i e'
        cases h
        simp only [e, e', List.length_cons] at *
        omega
      · cases h
    · cases h

theorem length_of_afterValue {containers : List Container} {text : List Char} {next : Pending}
    (h : afterValue containers text = .ok next) : next.2.length ≤ text.length := by
  induction containers generalizing text with
  | nil => cases h; exact Nat.le_refl _
  | cons c outer ih =>
    have gap := length_skipGap_le text
    unfold afterValue at h
    split at h
    · cases h
    · rename_i d rest e
      rw [e, List.length_cons] at gap
      split at h
      · obtain ⟨_, key, h⟩ := bind_eq_ok_iff.1 h
        cases h
        have := length_of_skipKey key
        simp only
        omega
      · split at h
        · have := ih h
          omega
        · cases h

theorem length_of_afterOpen {c : Container} {outer : List Container} {text : List Char} {next : Pending}
    (h : afterOpen c outer text = .ok next) : next.2.length ≤ text.length := by
  have gap := length_skipGap_le text
  unfold afterOpen at h
  split at h
  · cases h
  · rename_i d rest e
    rw [e, List.length_cons] at gap
    split at h
    · have := length_of_afterValue h
      omega
    · obtain ⟨_, key, h⟩ := bind_eq_ok_iff.1 h
      cases h
      have := length_of_skipKey key
      simp only [List.length_cons] at *
      omega

theorem length_of_skipItem {containers : List Container} {text : List Char} {next : Pending}
    (h : skipItem containers text = .ok next) : next.2.length < text.length := by
  have gap := length_skipGap_le text
  unfold skipItem at h
  split at h
  case h_1 | h_2 | h_3 =>
    rename_i e
    obtain ⟨_, word, h⟩ := bind_eq_ok_iff.1 h
    have := length_of_readWord word
    have := length_of_afterValue h
    rw [e, List.length_cons] at gap
    omega
  case h_4 =>
    rename_i e
    obtain ⟨_, skipped, h⟩ := bind_eq_ok_iff.1 h
    have := length_of_skipString skipped
    have := length_of_afterValue h
    rw [e, List.length_cons] at gap
    omega
  case h_5 | h_6 =>
    rename_i e
    have := length_of_afterOpen h
    rw [e, List.length_cons] at gap
    omega
  case h_7 =>
    split at h
    · obtain ⟨⟨_, _⟩, read, h⟩ := bind_eq_ok_iff.1 h
      have := Numeral.length_of_read read
      have := length_of_afterValue h
      omega
    · cases h

/-- Passes over the value that is due and over all that is due after it in the open containers. -/
def skipPending (containers : List Container) (text : List Char) : Except Stop (List Char) :=
  match _left : skipItem containers text with
  | .error stop => .error stop
  | .ok ([], rest) => .ok rest
  | .ok (c :: containers, rest) => skipPending (c :: containers) rest
termination_by text.length
decreasing_by exact length_of_skipItem _left

theorem skipPending_eq (containers : List Container) (text : List Char) :
    skipPending containers text = (do
      match ← skipItem containers text with
      | ([], rest) => .ok rest
      | (c :: containers, rest) => skipPending (c :: containers) rest) := by
  rw [skipPending]
  split <;> rename_i e <;> rw [e] <;> rfl

theorem length_of_skipPending {containers : List Container} {text rest : List Char}
    (h : skipPending containers text = .ok rest) : rest.length < text.length := by
  fun_induction skipPending containers text with
  | case1 => cases h
  | case2 _ _ _ item => cases h; exact length_of_skipItem item
  | case3 _ _ _ _ _ item ih =>
    have := length_of_skipItem item
    have := ih h
    simp only at *
    omega

/-- Passes over one value. -/
def skipValue (text : List Char) : Except Stop (List Char) := skipPending [] text

end AnnotatedSql.Json
