/-!
# Positions in a source

A position names a source, a line and a column.  Line 0 is the place before the first line; columns count
characters from 1.  A position is kept with the number of characters to its left, its `offset`, so that no
position has column 0.  A move changes the line or the column: a move to a later line starts that line anew.
-/

namespace AnnotatedSql

/-- A place in a named source. -/
structure Position where
  /-- The name of the source, such as the path of a file. -/
  source : String
  /-- The line, counted from 1; 0 before the first line is read. -/
  line : Nat
  /-- The number of characters to the left on the line. -/
  offset : Nat
deriving DecidableEq, Repr

namespace Position

def column (p : Position) : Nat := p.offset + 1

/-- The position at a column counted from 1; column 0 stands for the first. -/
def ofColumn (source : String) (line column : Nat) : Position := ⟨source, line, column - 1⟩

/-- The place before the first line of a source. -/
def start (source : String) : Position := ⟨source, 0, 0⟩

/-- The place before the first line of a text that has no name. -/
def literal : Position := start "<literal>"

instance : Inhabited Position := ⟨literal⟩

def right (p : Position) (columns : Nat) : Position := { p with offset := p.offset + columns }

/-- Moves `lines` lines down to the first column there, or `columns` to the right when there are no lines to
move. -/
def advance (p : Position) (lines columns : Nat) : Position :=
  if lines = 0 then p.right columns else { p with line := p.line + lines, offset := 0 }

/-- Moves `lines` lines down; no lines leave the column as it is. -/
def down (p : Position) (lines : Nat) : Position := p.advance lines 0

def toText (p : Position) : String := p.source ++ ":" ++ toString p.line ++ ":" ++ toString p.column

@[simp] theorem column_ofColumn (source : String) (line column : Nat) :
    (ofColumn source line column).column = max column 1 := by
  simp only [Position.column, ofColumn]; omega

@[simp] theorem right_zero (p : Position) : p.right 0 = p := rfl

@[simp] theorem right_right (p : Position) (a b : Nat) : (p.right a).right b = p.right (a + b) := by
  simp [right, Nat.add_assoc]

@[simp] theorem column_right (p : Position) (columns : Nat) :
    (p.right columns).column = p.column + columns := by
  simp only [column, right]; omega

theorem advance_zero (p : Position) (columns : Nat) : p.advance 0 columns = p.right columns := rfl

theorem advance_succ (p : Position) (lines columns : Nat) :
    p.advance (lines + 1) columns = ⟨p.source, p.line + (lines + 1), 0⟩ := rfl

@[simp] theorem line_advance (p : Position) (lines columns : Nat) :
    (p.advance lines columns).line = p.line + lines := by
  unfold advance; split <;> simp_all [right]

@[simp] theorem source_advance (p : Position) (lines columns : Nat) :
    (p.advance lines columns).source = p.source := by
  unfold advance; split <;> rfl

/-! ### Runs of moves -/

inductive Move where
  /-- Lines down, or columns to the right when there are no lines. -/
  | advance (lines columns : Nat)
  | down (lines : Nat)
  | right (columns : Nat)
deriving DecidableEq, Repr

def move (p : Position) : Move → Position
  | .advance lines columns => p.advance lines columns
  | .down lines => p.down lines
  | .right columns => p.right columns

/-- The position followed by the position after each move. -/
def trail (p : Position) : List Move → List Position
  | [] => [p]
  | m :: moves => p :: (p.move m).trail moves

theorem length_trail (p : Position) (moves : List Move) : (p.trail moves).length = moves.length + 1 := by
  induction moves generalizing p with
  | nil => rfl
  | cons m moves ih => simp [trail, ih]

end Position

end AnnotatedSql
