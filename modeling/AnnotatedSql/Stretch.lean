import AnnotatedSql.Text.Words
import AnnotatedSql.Token

/-!
# Stretches of text

A stretch is a text with the position of its first character.  Cutting a stretch keeps both in step: what is cut
off on the left moves the position to the right by as many columns.  Everything that takes lines and tokens apart
is built from these cuts.
-/

namespace AnnotatedSql

/-- A text and the position of its first character. -/
structure Stretch where
  text : List Char
  position : Position
deriving DecidableEq, Repr

namespace Stretch

def take (s : Stretch) (n : Nat) : Stretch := { s with text := s.text.take n }

def drop (s : Stretch) (n : Nat) : Stretch := ⟨s.text.drop n, s.position.right n⟩

/-- The stretch without the blank run it opens with. -/
def trimStart (s : Stretch) : Stretch := s.drop (Words.blankWidth s.text)

/-- The stretch without the blank run it ends with. -/
def trimEnd (s : Stretch) : Stretch := { s with text := Words.trimEnd s.text }

def trim (s : Stretch) : Stretch := s.trimStart.trimEnd

/-- The token with the whole stretch as its payload. -/
def toToken (s : Stretch) (tag : Tag) : Token := ⟨tag, some (String.ofList s.text), s.position⟩

/-- The token of an optional component: the payload is absent when the stretch is empty. -/
def toOptionalToken (s : Stretch) (tag : Tag) : Token :=
  ⟨tag, if s.text.isEmpty then none else some (String.ofList s.text), s.position⟩

end Stretch

/-- The stretch that a token covers, if it has a payload. -/
def Token.stretch? (t : Token) : Option Stretch := t.payload?.map fun text => ⟨text.toList, t.position⟩

namespace Stretch

@[simp] theorem stretch?_toToken (s : Stretch) (tag : Tag) : (s.toToken tag).stretch? = some s := by
  simp [toToken, Token.stretch?]

@[simp] theorem take_position (s : Stretch) (n : Nat) : (s.take n).position = s.position := rfl

@[simp] theorem drop_position (s : Stretch) (n : Nat) : (s.drop n).position = s.position.right n := rfl

theorem drop_drop (s : Stretch) (m n : Nat) : (s.drop m).drop n = s.drop (m + n) := by
  simp [drop, List.drop_drop]

theorem trimStart_text (s : Stretch) : s.trimStart.text = s.text.dropWhile isBlank := by
  simp [trimStart, drop, Words.drop_blankWidth]

end Stretch

end AnnotatedSql
