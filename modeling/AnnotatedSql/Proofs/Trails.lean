import AnnotatedSql.Position
import Mathlib.Algebra.Ring.Nat
import Mathlib.Data.List.Chain
import Mathlib.Data.List.DropRight
import Mathlib.Data.Prod.Lex

/-!
# Trails of positions

A run of moves adds up its lines.  Its columns add up only from the last move to another line on, which starts that
line anew, so the end of a run depends on where that move stands.  No move leads back in a source.

* `move_eq`: what one move does;
* `source_foldl`, `line_foldl`, `column_foldl`: where a run of moves ends;
* `le_move`, `isChain_trail`: the positions on the way are in order;
* `trail_ends`: the trail from a given line and column.
-/

namespace AnnotatedSql.Position

namespace Move

/-- The lines that the move asks for. -/
def lines : Move → Nat
  | advance lines _ => lines
  | down lines => lines
  | right _ => 0

/-- The columns that the move asks for. -/
def columns : Move → Nat
  | advance _ columns => columns
  | down _ => 0
  | right columns => columns

end Move

/-! ### One move -/

theorem move_eq (p : Position) (m : Move) : p.move m = p.advance m.lines m.columns := by
  cases m <;> rfl

theorem column_advance (p : Position) (lines columns : Nat) :
    (p.advance lines columns).column = if lines = 0 then p.column + columns else 1 := by
  unfold advance
  split
  · exact column_right p columns
  · rfl

/-- A move leads to a later place, in the order of lines and then of columns. -/
theorem le_move (p : Position) (m : Move) : toLex (p.line, p.column) ≤ toLex ((p.move m).line, (p.move m).column) := by
  rw [Prod.Lex.toLex_le_toLex, move_eq, line_advance, column_advance]
  by_cases h : m.lines = 0
  · right
    simp [h]
  · left
    dsimp only
    omega

/-! ### Runs of moves -/

theorem trail_eq_scanl (p : Position) (moves : List Move) : p.trail moves = moves.scanl move p := by
  induction moves generalizing p with
  | nil => rfl
  | cons m moves ih => rw [trail, ih, List.scanl_cons]

theorem source_foldl (p : Position) (moves : List Move) : (moves.foldl move p).source = p.source := by
  induction moves generalizing p with
  | nil => rfl
  | cons m moves ih => rw [List.foldl_cons, ih, move_eq, source_advance]

theorem line_foldl (p : Position) (moves : List Move) :
    (moves.foldl move p).line = p.line + (moves.map Move.lines).sum := by
  induction moves generalizing p with
  | nil => rfl
  | cons m moves ih => rw [List.foldl_cons, ih, move_eq, line_advance, List.map_cons, List.sum_cons, Nat.add_assoc]

/-- The columns of the moves behind the last one to another line count from column 1; without such a move all count,
from the column where the run starts. -/
theorem column_foldl (p : Position) (moves : List Move) :
    (moves.foldl move p).column =
      if ∀ m ∈ moves, m.lines = 0 then p.column + (moves.map Move.columns).sum
      else 1 + ((moves.rtakeWhile fun m => m.lines = 0).map Move.columns).sum := by
  -- the induction takes moves off the end, where the last move to another line is looked for
  induction moves using List.reverseRecOn with
  | nil => rfl
  | append_singleton moves m ih =>
    rw [List.foldl_concat, move_eq, column_advance, ih]
    by_cases h : m.lines = 0
    · have stays : (∀ m' ∈ moves ++ [m], m'.lines = 0) ↔ ∀ m' ∈ moves, m'.lines = 0 := by
        simp [or_imp, forall_and, h]
      rw [if_pos h, List.rtakeWhile_concat_pos _ _ _ (by simpa using h)]
      simp only [stays, List.map_append, List.sum_append]
      split <;> simp [Nat.add_assoc]
    · have leaves : ¬∀ m' ∈ moves ++ [m], m'.lines = 0 := fun all => h (all m (by simp))
      rw [if_neg h, if_neg leaves, List.rtakeWhile_concat_neg _ _ _ (by simpa using h)]
      rfl

/-- The positions on the way are in order. -/
theorem isChain_trail (p : Position) (moves : List Move) :
    (p.trail moves).IsChain fun q r => toLex (q.line, q.column) ≤ toLex (r.line, r.column) := by
  induction moves generalizing p with
  | nil => exact .singleton _
  | cons m moves ih =>
    rw [trail, List.isChain_cons]
    refine ⟨?_, ih _⟩
    intro q hq
    obtain rfl : p.move m = q := by
      cases moves <;> exact Option.some.inj hq
    exact p.le_move m

/-- A run of moves from a given line and column stays in its source and ends as many lines further down as its moves
ask for.  Without a move to another line it ends as many columns further to the right; otherwise the columns of the
moves behind the last such move count from column 1.  No position on the way has column 0 or lies in front of the one
before it. -/
theorem trail_ends (source : String) (line column : Nat) (moves : List Move) :
    let start := ofColumn source line column
    (∃ final, (start.trail moves).getLast? = some final ∧
      final.source = source ∧
      final.line = line + (moves.map Move.lines).sum ∧
      final.column =
        if ∀ m ∈ moves, m.lines = 0 then max column 1 + (moves.map Move.columns).sum
        else 1 + ((moves.rtakeWhile fun m => m.lines = 0).map Move.columns).sum) ∧
      (∀ p ∈ start.trail moves, 1 ≤ p.column) ∧
      (start.trail moves).IsChain fun p q => toLex (p.line, p.column) ≤ toLex (q.line, q.column) := by
  intro start
  refine ⟨⟨moves.foldl move start, ?_, source_foldl start moves, line_foldl start moves, ?_⟩, ?_,
    isChain_trail start moves⟩
  · rw [trail_eq_scanl, List.getLast?_scanl]
  · rw [column_foldl, column_ofColumn]
  · intro p _
    exact Nat.le_add_left 1 p.offset

/-- Moves within a line from column 0, and moves that change the line twice. -/
theorem trail_ends_of_mixed :
    let within : List Move := [.right 3, .down 0, .advance 0 2]
    let across : List Move := [.right 3, .advance 2 9, .advance 0 4, .down 1, .advance 0 5, .down 0, .right 2]
    (∃ final, ((ofColumn "q" 4 0).trail within).getLast? = some final ∧ final.line = 4 ∧ final.column = 6) ∧
      ∃ final, ((ofColumn "q" 4 0).trail across).getLast? = some final ∧ final.line = 7 ∧ final.column = 8 := by
  intro within across
  obtain ⟨⟨final, last, -, line, column⟩, -, -⟩ := trail_ends "q" 4 0 within
  obtain ⟨⟨final', last', -, line', column'⟩, -, -⟩ := trail_ends "q" 4 0 across
  exact ⟨⟨final, last, line.trans (by decide), column.trans (by decide)⟩, final', last', line'.trans (by decide),
    column'.trans (by decide)⟩

end AnnotatedSql.Position
