/-!
# Raw pieces of a source

A source is a sequence of line feeds and runs of other text.  The pieces tile the source: each carries the byte
offsets, in UTF-8, of its first character and of what follows it.
-/

namespace AnnotatedSql

/-- A line feed, or a run of text without one. -/
inductive PieceKind where
  | lineBreak
  | text
deriving DecidableEq, Repr

structure Piece where
  kind : PieceKind
  text : List Char
  /-- Byte offset of the first character. -/
  start : Nat
  /-- Byte offset of what follows. -/
  stop : Nat
deriving DecidableEq, Repr

namespace Piece

def byteWidth : List Char → Nat
  | [] => 0
  | c :: text => c.utf8Size + byteWidth text

/-- Cuts the text into single line feeds and maximal runs of other characters. -/
def runs (text : List Char) : List (List Char) := text.splitBy fun a b => a ≠ '\n' && b ≠ '\n'

/-- Lays the runs out one behind the other from a byte offset. -/
def layOut (start : Nat) : List (List Char) → List Piece
  | [] => []
  | run :: runs =>
    let stop := start + byteWidth run
    ⟨if run = ['\n'] then .lineBreak else .text, run, start, stop⟩ :: layOut stop runs

def ofSource (source : String) : List Piece := layOut 0 (runs source.toList)

theorem map_text_layOut (start : Nat) (runs : List (List Char)) :
    (layOut start runs).map Piece.text = runs := by
  induction runs generalizing start with
  | nil => rfl
  | cons run runs ih => simp [layOut, ih]

end Piece

end AnnotatedSql
