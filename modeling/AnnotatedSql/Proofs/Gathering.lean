import AnnotatedSql.Proofs.LineTokens
import AnnotatedSql.Proofs.Tiling

/-!
# Lines gathered from pieces

The lines of a source can be gathered from its pieces: a run is kept until a line feed or the end of the source shows
that the line is complete, and behind the last line nothing is handed out any more.  Since no two runs are neighbours
no text is lost in this way, and the lines are those of `Lines.next?`.  They are the only texts without line feeds that
make up the source when they are joined with line feeds.

* `gathers_iff`: what is gathered for one line, and what is left of the pieces;
* `answers_iff`: the answers to any number of requests are those of `Lines.pull`;
* `pull_eq`: these are the lines in order, and then nothing;
* `yields_iff_join`: splitting into lines and joining them again.
-/

namespace AnnotatedSql.Lines

open Piece

/-! ### One line -/

/-- The rounds in which one line is gathered.  With a line so far and the pieces to come, a line feed or the end of the
pieces completes the line, and a run takes the place of the line so far.  Behind a line feed other pieces are left,
behind the end of the pieces there is nothing left to ask for. -/
inductive Gathers : List Char → List Piece → List Char → Option (List Piece) → Prop
  | stop {line : List Char} : Gathers line [] line none
  | lineBreak {line : List Char} {piece : Piece} {pieces : List Piece} :
      piece.kind = .lineBreak → Gathers line (piece :: pieces) line (some pieces)
  | text {line found : List Char} {piece : Piece} {pieces : List Piece} {left? : Option (List Piece)} :
      piece.kind = .text → Gathers piece.text pieces found left? → Gathers line (piece :: pieces) found left?

/-- The pieces of the lines that are left, which start at a byte offset. -/
def pieces? (l : Lines) (start : Nat) : Option (List Piece) := l.rest?.map fun text => layOut start (runs text)

variable {line found text more : List Char} {left? : Option (List Piece)} {start : Nat}

theorem gathers_nil_iff : Gathers line [] found left? ↔ found = line ∧ left? = none := by
  constructor
  · rintro ⟨⟩
    exact ⟨rfl, rfl⟩
  · rintro ⟨rfl, rfl⟩
    exact .stop

theorem gathers_lineBreak_iff {piece : Piece} {pieces : List Piece} (h : piece.kind = .lineBreak) :
    Gathers line (piece :: pieces) found left? ↔ found = line ∧ left? = some pieces := by
  constructor
  · intro g
    cases g with
    | lineBreak => exact ⟨rfl, rfl⟩
    | text h' => cases h.symm.trans h'
  · rintro ⟨rfl, rfl⟩
    exact .lineBreak h

theorem gathers_text_iff {piece : Piece} {pieces : List Piece} (h : piece.kind = .text) :
    Gathers line (piece :: pieces) found left? ↔ Gathers piece.text pieces found left? := by
  constructor
  · intro g
    cases g with
    | lineBreak h' => cases h.symm.trans h'
    | text _ g => exact g
  · exact .text h

/-- Where no run follows, the line so far is complete. -/
theorem gathers_complete_iff (h : ∀ c ∈ more.head?, c = '\n') :
    Gathers line (layOut start (runs more)) found left? ↔
      found = line ∧ left? = (⟨afterBreak? more⟩ : Lines).pieces? (start + 1) := by
  cases more with
  | nil => exact gathers_nil_iff
  | cons c more =>
    obtain rfl : c = '\n' := h c rfl
    have first : LongestMatch (['\n'] ++ more) .lineBreak ['\n'] := .newline more
    rw [← List.singleton_append, layOut_runs_append first, gathers_lineBreak_iff rfl]
    rfl

/-- What is gathered for one line is the text in front of the first line feed, and what is left are the pieces of the
text behind it. -/
theorem gathers_iff :
    Gathers [] (layOut start (runs text)) found left? ↔
      found = text.takeWhile (· ≠ '\n') ∧
        left? = (⟨afterBreak? text⟩ : Lines).pieces? (start + byteWidth found + 1) := by
  cases text with
  | nil => exact gathers_nil_iff
  | cons c text =>
    by_cases hc : c = '\n'
    · subst hc
      rw [gathers_complete_iff (by simp)]
      refine and_congr_right ?_
      rintro rfl
      simp [byteWidth]
    · have h := LongestMatch.takeWhile hc text
      obtain ⟨more, e⟩ := h.isPrefix
      have rest : afterBreak? (c :: text) = afterBreak? more := by
        have dropped := List.append_cancel_left (List.takeWhile_append_dropWhile.trans e.symm)
        rw [afterBreak?, afterBreak?, ← dropped, List.dropWhile_idempotent]
      generalize (c :: text).takeWhile (· ≠ '\n') = run at *
      rw [← e] at h
      rw [rest, ← e, layOut_runs_append h, gathers_text_iff rfl, gathers_complete_iff h.head?_of_text]
      refine and_congr_right ?_
      rintro rfl
      rfl

/-! ### Any number of requests -/

/-- The answers to requests for a line, with the pieces that are left; `none` when all lines are handed out. -/
inductive Answers : Option (List Piece) → List (Option String) → Prop
  | nil {left? : Option (List Piece)} : Answers left? []
  | finished {answers : List (Option String)} : Answers none answers → Answers none (none :: answers)
  | line {pieces : List Piece} {found : List Char} {left? : Option (List Piece)} {answers : List (Option String)} :
      Gathers [] pieces found left? → Answers left? answers →
      Answers (some pieces) (some (String.ofList found) :: answers)

@[simp] theorem length_pull (n : Nat) (l : Lines) : (pull n l).length = n := by
  induction n generalizing l with
  | zero => rfl
  | succ n ih =>
    unfold pull
    split <;> simp [ih]

theorem answers_cons_iff {l : Lines} {answer : Option String} {answers : List (Option String)} :
    Answers (l.pieces? start) (answer :: answers) ↔
      match l.next? with
      | none => answer = none ∧ Answers (l.pieces? start) answers
      | some (line, l) => answer = some (String.ofList line) ∧
        Answers (l.pieces? (start + byteWidth line + 1)) answers := by
  obtain ⟨_ | text⟩ := l
  · constructor
    · intro h
      cases h with
      | finished h => exact ⟨rfl, h⟩
    · rintro ⟨rfl, h⟩
      exact .finished h
  · constructor
    · intro h
      cases h with
      | line g h =>
        obtain ⟨rfl, rfl⟩ := gathers_iff.1 g
        exact ⟨rfl, h⟩
    · rintro ⟨rfl, h⟩
      exact .line (gathers_iff.2 ⟨rfl, rfl⟩) h

/-- Gathering lines from pieces answers every request, and answers like `pull`. -/
theorem answers_iff {l : Lines} {answers : List (Option String)} :
    Answers (l.pieces? start) answers ↔ answers = pull answers.length l := by
  induction answers generalizing l start with
  | nil => exact ⟨fun _ => rfl, fun _ => .nil⟩
  | cons answer answers ih =>
    rw [answers_cons_iff, List.length_cons, pull]
    cases l.next? with
    | none => simp only [List.cons.injEq, ih]
    | some next => simp only [List.cons.injEq, ih]

/-! ### Lines and the text they make up -/

/-- Requests for lines of the source are answered with the lines in order, and then with nothing, however often one
asks. -/
def Yields (source : String) (lines : List String) : Prop :=
  ∀ n, pull n (ofSource source) = (lines.map some).take n ++ List.replicate (n - lines.length) none

theorem pull_eq (n : Nat) (l : Lines) :
    pull n l = (l.toList.map fun line => some (String.ofList line)).take n ++
      List.replicate (n - l.toList.length) none := by
  induction n generalizing l with
  | zero => simp [pull]
  | succ n ih =>
    rw [pull]
    cases read : l.next? with
    | none =>
      simp only [ih, next?_eq_none_iff.1 read]
      simp [List.replicate_succ]
    | some next =>
      simp only [ih, toList_eq_cons_of_next? read]
      simp

/-- The lines among the answers. -/
theorem filterMap_answers (lines : List String) (n : Nat) :
    ((lines.map some).take n ++ List.replicate (n - lines.length) none).filterMap id = lines.take n := by
  rw [List.filterMap_append, ← List.map_take, List.filterMap_map]
  simp

theorem yields_iff {source : String} {lines : List String} :
    Yields source lines ↔ lines = (cut source.toList).map String.ofList := by
  generalize hc : (cut source.toList).map String.ofList = others
  have answered (n : Nat) :
      pull n (ofSource source) = (others.map some).take n ++ List.replicate (n - others.length) none := by
    rw [pull_eq, toList_ofSource, ← hc, List.map_map, List.length_map]
    rfl
  constructor
  · intro h
    have same (n : Nat) : lines.take n = others.take n := by
      rw [← filterMap_answers, ← h n, answered n, filterMap_answers]
    -- asked often enough, both lists are handed out whole
    have := same (max lines.length others.length)
    rwa [List.take_of_length_le (Nat.le_max_left ..), List.take_of_length_le (Nat.le_max_right ..)] at this
  · rintro rfl
    exact answered

/-- The lines of a source are the only texts without line feeds that make it up, joined with line feeds. -/
theorem eq_map_cut_iff {source : String} {lines : List String} :
    lines = (cut source.toList).map String.ofList ↔
      lines ≠ [] ∧ (∀ line ∈ lines, '\n' ∉ line.toList) ∧ String.intercalate "\n" lines = source := by
  have joined (lines : List (List Char)) :
      String.intercalate "\n" (lines.map String.ofList) = String.ofList (['\n'].intercalate lines) := by
    rw [← String.toList_inj, String.toList_intercalate, String.toList_ofList, List.map_map]
    simp
  constructor
  · rintro rfl
    refine ⟨?_, ?_, ?_⟩
    · rw [ne_eq, List.map_eq_nil_iff, ← List.length_eq_zero_iff, length_cut]
      exact Nat.succ_ne_zero _
    · intro line hl
      obtain ⟨text, ht, rfl⟩ := List.mem_map.1 hl
      rw [String.toList_ofList]
      exact newline_not_mem_of_mem_cut ht
    · rw [joined, cut_eq_splitOn, List.intercalate_splitOn, String.ofList_toList]
  · rintro ⟨hne, hn, rfl⟩
    have e : lines = (lines.map String.toList).map String.ofList := by simp
    have parts : ∀ text ∈ lines.map String.toList, '\n' ∉ text := by simpa using hn
    conv => rhs; rw [e, joined, String.toList_ofList, cut_eq_splitOn,
      List.splitOn_intercalate _ parts (by simpa using hne)]
    exact e

/-- Splitting a source into lines undoes joining lines, and joining undoes splitting.  Every source has lines, which are
handed out in order before requests are answered with nothing.  They are at least one, have no line feed and make up
the source when they are joined with line feeds, and no other lines do.  Gathering them from the pieces of the source
comes to an end for every request, and gives the same answers. -/
theorem yields_iff_join (source : String) :
    (∃ lines, Yields source lines) ∧
      (∀ lines, Yields source lines ↔
        lines ≠ [] ∧ (∀ line ∈ lines, '\n' ∉ line.toList) ∧ String.intercalate "\n" lines = source) ∧
      ∀ n answers, answers.length = n ∧ Answers (some (Piece.ofSource source)) answers ↔
        answers = pull n (ofSource source) := by
  refine ⟨⟨_, yields_iff.2 rfl⟩, fun lines => yields_iff.trans eq_map_cut_iff, ?_⟩
  intro n answers
  rw [show some (Piece.ofSource source) = (ofSource source).pieces? 0 from rfl, answers_iff]
  constructor
  · rintro ⟨rfl, e⟩
    exact e
  · rintro rfl
    rw [length_pull]
    exact ⟨rfl, rfl⟩

/-- A line that ends with a carriage return, empty lines, and two requests behind the last one. -/
theorem yields_iff_join_of_breaks :
    Yields "\na\r\n" ["", "a\r", ""] ∧
      Answers (some (Piece.ofSource "\na\r\n")) [some "", some "a\r", some "", none, none] := by
  obtain ⟨-, yields, gathered⟩ := yields_iff_join "\na\r\n"
  exact ⟨(yields _).2 (by decide), ((gathered 5 _).2 (by decide)).2⟩

end AnnotatedSql.Lines
