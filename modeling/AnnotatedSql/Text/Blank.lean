import AnnotatedSql.Text.CodeRange

/-!
# Blank characters

The characters of the Unicode property `White_Space`.  They separate words, are trimmed from the ends of a line
and may not occur in a comment marker.  Format characters such as the zero width space are not blank, nor are the
separators U+001C to U+001F.
-/

namespace AnnotatedSql

/-- The 25 characters of the Unicode property `White_Space`. -/
def blankRanges : List CodeRange :=
  [⟨0x09, 0x0D⟩, ⟨0x20, 0x20⟩, ⟨0x85, 0x85⟩, ⟨0xA0, 0xA0⟩, ⟨0x1680, 0x1680⟩, ⟨0x2000, 0x200A⟩,
   ⟨0x2028, 0x2029⟩, ⟨0x202F, 0x202F⟩, ⟨0x205F, 0x205F⟩, ⟨0x3000, 0x3000⟩]

/-- A character that separates words. -/
def isBlank (c : Char) : Bool := CodeRange.covers blankRanges c

/-- Every character that core calls white space is blank. -/
theorem isBlank_of_isWhitespace {c : Char} (h : c.isWhitespace = true) : isBlank c = true := by
  simp only [Char.isWhitespace, Bool.or_eq_true, decide_eq_true_eq] at h
  rcases h with ((h | h) | h) | h <;> subst h <;> decide

@[simp] theorem isBlank_newline : isBlank '\n' = true := by decide

@[simp] theorem isBlank_return : isBlank '\r' = true := by decide

@[simp] theorem isBlank_space : isBlank ' ' = true := by decide

end AnnotatedSql
