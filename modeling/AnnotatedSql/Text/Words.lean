import AnnotatedSql.Text.Blank

/-!
# Blank runs and words

Text is cut at blank characters.  It opens with a blank run of `blankWidth` characters, possibly none, or with a
word of `wordWidth` characters, a maximal run without blanks.  A directive word is a word of at least two
characters that opens with the sigil.  All widths count characters.
-/

namespace AnnotatedSql.Words

/-- Number of blank characters that the text opens with. -/
def blankWidth (text : List Char) : Nat := (text.takeWhile isBlank).length

/-- Number of characters of the word that the text opens with, 0 if there is none. -/
def wordWidth (text : List Char) : Nat := (text.takeWhile fun c => !isBlank c).length

/-- Number of characters of the directive word that the text opens with: the sigil and at least one more
character that is not blank. -/
def directiveWidth? (sigil : Char) : List Char → Option Nat
  | [] => none
  | c :: rest => if c = sigil ∧ wordWidth rest ≠ 0 then some (wordWidth rest + 1) else none

/-- The text without the blank characters at its end. -/
def trimEnd (text : List Char) : List Char := (text.reverse.dropWhile isBlank).reverse

/-! ### What is cut off and what is left -/

theorem take_blankWidth (text : List Char) : text.take (blankWidth text) = text.takeWhile isBlank := by
  conv => lhs; arg 2; rw [← List.takeWhile_append_dropWhile (p := isBlank) (l := text)]
  exact List.take_left' rfl

theorem drop_blankWidth (text : List Char) : text.drop (blankWidth text) = text.dropWhile isBlank := by
  conv => lhs; arg 2; rw [← List.takeWhile_append_dropWhile (p := isBlank) (l := text)]
  exact List.drop_left' rfl

theorem take_wordWidth (text : List Char) :
    text.take (wordWidth text) = text.takeWhile fun c => !isBlank c := by
  conv => lhs; arg 2; rw [← List.takeWhile_append_dropWhile (p := fun c => !isBlank c) (l := text)]
  exact List.take_left' rfl

theorem drop_wordWidth (text : List Char) :
    text.drop (wordWidth text) = text.dropWhile fun c => !isBlank c := by
  conv => lhs; arg 2; rw [← List.takeWhile_append_dropWhile (p := fun c => !isBlank c) (l := text)]
  exact List.drop_left' rfl

end AnnotatedSql.Words
