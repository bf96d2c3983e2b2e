/-!
# Lines of a source

A source is cut into lines at its line feeds and nowhere else, so a carriage return stays at the end of its line.
A source with `n` line feeds has `n + 1` lines: the empty source is one empty line, and a line feed at the end
leaves an empty line behind it.  Lines are handed out one at a time; `toList` are those to come, and
`toList_eq_cons_of_next?` says that they come in order.
-/

namespace AnnotatedSql

/-- The lines of a source that have not been handed out. -/
structure Lines where
  /-- The text that is left, starting at the next line; `none` after the last line. -/
  rest? : Option (List Char)
deriving DecidableEq, Repr

namespace Lines

def ofSource (source : String) : Lines := ⟨some source.toList⟩

/-- The text behind the line feed that ends the first line of the text, if there is one. -/
def afterBreak? (text : List Char) : Option (List Char) :=
  match text.dropWhile (· ≠ '\n') with
  | [] => none
  | _ :: rest => some rest

def next? (l : Lines) : Option (List Char × Lines) :=
  l.rest?.map fun text => (text.takeWhile (· ≠ '\n'), ⟨afterBreak? text⟩)

/-- The number of lines that are left. -/
def remaining (l : Lines) : Nat := l.rest?.elim 0 fun text => text.count '\n' + 1

/-- Asks for a line `n` times: each line in turn, then nothing for as often as is asked after the last one. -/
def pull : Nat → Lines → List (Option String)
  | 0, _ => []
  | n + 1, l =>
    match l.next? with
    | none => none :: pull n l
    | some (line, l) => some (String.ofList line) :: pull n l

/-! ### The lines to come -/

def cut : List Char → List (List Char)
  | [] => [[]]
  | c :: text => if c = '\n' then [] :: cut text else (cut text).modifyHead (c :: ·)

def toList (l : Lines) : List (List Char) := l.rest?.elim [] cut

theorem toList_ofSource (source : String) : (ofSource source).toList = cut source.toList := rfl

/-- A text has the line in front of its first line feed, and the lines of what stands behind it. -/
theorem cut_eq_cons (text : List Char) :
    cut text = text.takeWhile (· ≠ '\n') :: (⟨afterBreak? text⟩ : Lines).toList := by
  induction text with
  | nil => rfl
  | cons c text ih =>
    by_cases h : c = '\n'
    · subst h; simp [cut, afterBreak?, toList]
    · have e : afterBreak? (c :: text) = afterBreak? text := by simp [afterBreak?, h]
      rw [cut, if_neg h, ih, e]
      simp [h]

theorem length_cut (text : List Char) : (cut text).length = text.count '\n' + 1 := by
  induction text with
  | nil => rfl
  | cons c text ih =>
    by_cases h : c = '\n'
    · subst h; simp [cut, ih]
    · simp [cut, h, ih]

@[simp] theorem length_toList (l : Lines) : l.toList.length = l.remaining := by
  rcases l with ⟨_ | text⟩
  · rfl
  · exact length_cut text

theorem next?_eq_none_iff {l : Lines} : l.next? = none ↔ l.toList = [] := by
  rcases l with ⟨_ | text⟩
  · simp [next?, toList]
  · simp [next?, toList, cut_eq_cons text]

theorem toList_eq_cons_of_next? {l l' : Lines} {line : List Char} (h : l.next? = some (line, l')) :
    l.toList = line :: l'.toList := by
  rcases l with ⟨_ | text⟩
  · cases h
  · cases h; exact cut_eq_cons text

theorem remaining_of_next? {l l' : Lines} {line : List Char} (h : l.next? = some (line, l')) :
    l.remaining = l'.remaining + 1 := by
  rw [← length_toList, toList_eq_cons_of_next? h, List.length_cons, length_toList]

end Lines

end AnnotatedSql
