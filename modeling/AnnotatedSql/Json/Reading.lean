import AnnotatedSql.Json.Fault

/-!
# Reading a JSON text

A reader takes a value off the front of a text and gives what is left, or stops.  Where it stops follows from what
is left unread, so that readers need not count.
-/

namespace AnnotatedSql.Json

/-- Why reading stopped, with the text that was left and the number of its bytes that the fault takes in. -/
structure Stop where
  cause : Cause
  unread : List Char
  ahead : Nat
deriving DecidableEq, Repr

namespace Stop

/-- A fault noticed in front of the unread text. -/
def before (cause : Cause) (unread : List Char) : Stop := ⟨cause, unread, 0⟩

/-- A fault of the next byte. -/
def on (cause : Cause) (unread : List Char) : Stop := ⟨cause, unread, 1⟩

/-- A fault of the next byte, or of the end of the text when nothing is left. -/
def onOrEnd (atEnd cause : Cause) (unread : List Char) : Stop :=
  on (if unread.isEmpty then atEnd else cause) unread

/-- The fault of the whole text. -/
def fault (text : List Char) (s : Stop) : Fault :=
  let read := text.take (text.length - s.unread.length)
  ⟨s.cause, (read.foldl Place.past Place.start).pastBytes s.ahead s.unread⟩

end Stop

/-- Takes something off the front of a text. -/
abbrev Reader (α : Type) : Type := List Char → Except Stop (α × List Char)

/-- Two readings in a row succeed when both do. -/
theorem bind_eq_ok_iff {α β : Type} {x : Except Stop α} {f : α → Except Stop β} {b : β} :
    (x >>= f) = .ok b ↔ ∃ a, x = .ok a ∧ f a = .ok b := by
  cases x <;> simp [bind, Except.bind]

/-- The four characters that may stand between the parts of a text. -/
def isGap (c : Char) : Bool := c = ' ' || c = '\t' || c = '\n' || c = '\r'

/-- The text without the gap at its front. -/
def skipGap (text : List Char) : List Char := text.dropWhile isGap

theorem length_skipGap_le (text : List Char) : (skipGap text).length ≤ text.length :=
  (List.dropWhile_sublist _).length_le

/-- The rest of a word whose first letter has been read. -/
def readWord : List Char → List Char → Except Stop (List Char)
  | [], text => .ok text
  | _ :: _, [] => .error (.on .endInValue [])
  | w :: word, c :: text => if c = w then readWord word text else .error (.on .expectedWord (c :: text))

theorem readWord_eq_ok_iff {word text rest : List Char} :
    readWord word text = .ok rest ↔ text = word ++ rest := by
  induction word generalizing text with
  | nil => simp [readWord]
  | cons w word ih =>
    cases text with
    | nil => simp [readWord]
    | cons c text =>
      by_cases h : c = w <;> simp [readWord, h, ih]

end AnnotatedSql.Json
