import AnnotatedSql.Piece
import Mathlib.Data.List.SplitBy

/-!
# Pieces tile their source

A scanner that knows the two kinds of pieces, and takes the longest one that the text opens with time after time,
comes to the end of every source and finds the pieces of `Piece.ofSource`.  So what is known about one longest match
carries over to all pieces, by an induction that takes one match off the text.

* `LongestMatch.exists_of_ne_nil`: every text that is not empty opens with a piece;
* `layOut_runs_append`: the longest match is the first piece;
* `scan_iff`: scanning gives the pieces, and no errors;
* `exists_span`: each piece is cut out of the text, at the offsets that it says;
* `ofSource_tiles`: the pieces lie one behind the other from the first byte of the source to the last.
-/

namespace AnnotatedSql

/-- The texts that make up a piece of the kind: one line feed, or a run of other characters. -/
def PieceKind.Matches : PieceKind → List Char → Prop
  | .lineBreak, run => run = ['\n']
  | .text, run => run ≠ [] ∧ '\n' ∉ run

theorem PieceKind.Matches.ne_nil {kind : PieceKind} {run : List Char} (h : kind.Matches run) : run ≠ [] := by
  cases kind with
  | lineBreak =>
    obtain rfl : run = ['\n'] := h
    simp
  | text => exact h.1

namespace Piece

/-! ### Widths in bytes -/

@[simp] theorem byteWidth_append (a b : List Char) : byteWidth (a ++ b) = byteWidth a + byteWidth b := by
  induction a with
  | nil => simp [byteWidth]
  | cons c a ih => simp [byteWidth, ih, Nat.add_assoc]

theorem byteWidth_pos {text : List Char} (h : text ≠ []) : 0 < byteWidth text := by
  cases text with
  | nil => exact absurd rfl h
  | cons c text =>
    have := c.utf8Size_pos
    rw [byteWidth]
    omega

theorem utf8ByteSize_ofList (text : List Char) : (String.ofList text).utf8ByteSize = byteWidth text := by
  induction text with
  | nil => rfl
  | cons c text ih =>
    rw [← List.singleton_append, String.ofList_append, String.utf8ByteSize_append, ih, byteWidth_append]
    simp [byteWidth]

/-! ### The longest match -/

/-- The text opens with `found`, which is of the kind, and with nothing longer of any kind. -/
structure LongestMatch (text : List Char) (kind : PieceKind) (found : List Char) : Prop where
  isPrefix : found <+: text
  isMatch : kind.Matches found
  longest : ∀ kind' found', found' <+: text → PieceKind.Matches kind' found' → found'.length ≤ found.length

namespace LongestMatch

variable {text found more : List Char} {kind : PieceKind}

theorem kind_eq (h : LongestMatch text kind found) : kind = if found = ['\n'] then .lineBreak else .text := by
  cases kind with
  | lineBreak =>
    obtain rfl : found = ['\n'] := h.isMatch
    rfl
  | text =>
    rw [if_neg]
    rintro rfl
    exact h.isMatch.2 (by simp)

theorem newline (text : List Char) : LongestMatch ('\n' :: text) .lineBreak ['\n'] where
  isPrefix := ⟨text, rfl⟩
  isMatch := by rw [PieceKind.Matches]
  longest := by
    intro kind found opens isMatch
    cases kind with
    | lineBreak =>
      obtain rfl : found = ['\n'] := isMatch
      exact Nat.le_refl _
    | text =>
      -- a run cannot open with the line feed
      obtain ⟨more, e⟩ := opens
      cases found with
      | nil => simp
      | cons c found =>
        cases e
        exact absurd (List.mem_cons_self ..) isMatch.2

theorem takeWhile {c : Char} (h : c ≠ '\n') (text : List Char) :
    LongestMatch (c :: text) .text ((c :: text).takeWhile (· ≠ '\n')) where
  isPrefix := List.takeWhile_prefix _
  isMatch := by
    refine ⟨by simp [h], fun hm => ?_⟩
    have := List.all_eq_true.1 List.all_takeWhile _ hm
    simp at this
  longest := by
    intro kind found opens isMatch
    obtain ⟨more, e⟩ := opens
    cases kind with
    | lineBreak =>
      obtain rfl : found = ['\n'] := isMatch
      cases e
      exact absurd rfl h
    | text =>
      have run : ∀ d ∈ found, decide (d ≠ '\n') = true := by
        intro d hd
        simpa using fun e : d = '\n' => isMatch.2 (e ▸ hd)
      rw [← e, List.takeWhile_append_of_pos run]
      simp

/-- There is no place in a text where nothing matches. -/
theorem exists_of_ne_nil (h : text ≠ []) : ∃ kind found, LongestMatch text kind found := by
  cases text with
  | nil => exact absurd rfl h
  | cons c text =>
    by_cases hc : c = '\n'
    · subst hc
      exact ⟨_, _, newline text⟩
    · exact ⟨_, _, takeWhile hc text⟩

/-- Nothing can be added to a run, so a line feed follows if anything does. -/
theorem head?_of_text (h : LongestMatch (found ++ more) .text found) : ∀ c ∈ more.head?, c = '\n' := by
  intro c hc
  cases more with
  | nil => cases hc
  | cons d more =>
    cases hc
    by_contra hne
    have longer : PieceKind.Matches .text (found ++ [c]) := by
      refine ⟨by simp, ?_⟩
      simp [h.isMatch.2, Ne.symm hne]
    have := h.longest .text (found ++ [c]) ⟨more, by simp⟩ longer
    rw [List.length_append, List.length_singleton] at this
    omega

/-- Takes one longest match after the other off the text, until nothing is left. -/
@[elab_as_elim]
theorem induction {motive : List Char → Prop} (nil : motive [])
    (append : ∀ kind found more, LongestMatch (found ++ more) kind found → motive more → motive (found ++ more))
    (text : List Char) : motive text := by
  generalize hn : text.length = n
  induction n using Nat.strongRecOn generalizing text with
  | ind n ih =>
    by_cases hne : text = []
    · exact hne ▸ nil
    · obtain ⟨kind, found, h⟩ := exists_of_ne_nil hne
      obtain ⟨more, rfl⟩ := id h.isPrefix
      have shorter : more.length < n := by
        have := List.length_pos_iff.2 h.isMatch.ne_nil
        rw [← hn, List.length_append]
        omega
      exact append kind found more h (ih _ shorter more rfl)

end LongestMatch

/-! ### The first piece and the others -/

variable {kind : PieceKind} {found more text : List Char} {start : Nat}

theorem runs_append (h : LongestMatch (found ++ more) kind found) : runs (found ++ more) = found :: runs more := by
  have apart : ∀ x ∈ found.getLast?, ∀ y ∈ more.head?, (decide (x ≠ '\n') && decide (y ≠ '\n')) = false := by
    intro x hx y hy
    cases kind with
    | lineBreak =>
      obtain rfl : found = ['\n'] := h.isMatch
      cases hx
      rfl
    | text => simp [h.head?_of_text y hy]
  have single : runs found = [found] := by
    cases kind with
    | lineBreak =>
      obtain rfl : found = ['\n'] := h.isMatch
      rfl
    | text =>
      have run {x : Char} (hx : x ∈ found) : x ≠ '\n' := fun e => h.isMatch.2 (e ▸ hx)
      refine List.splitBy_of_isChain h.isMatch.ne_nil (List.pairwise_of_forall_mem_list ?_).isChain
      intro x hx y hy
      simp [run hx, run hy]
  rw [runs, List.splitBy_append apart]
  exact congrArg (· ++ runs more) single

theorem layOut_runs_append (h : LongestMatch (found ++ more) kind found) (start : Nat) :
    layOut start (runs (found ++ more)) =
      ⟨kind, found, start, start + byteWidth found⟩ :: layOut (start + byteWidth found) (runs more) := by
  rw [runs_append h, layOut, ← h.kind_eq]

/-! ### Scanning -/

/-- What a scanner reports that takes the longest match each time, from a byte offset on.  Where nothing matches it
reports an error, which is `none` here, and passes over one character. -/
inductive Scan : Nat → List Char → List (Option Piece) → Prop
  | done {start : Nat} : Scan start [] []
  | piece {start : Nat} {kind : PieceKind} {found more : List Char} {items : List (Option Piece)} :
      LongestMatch (found ++ more) kind found → Scan (start + byteWidth found) more items →
      Scan start (found ++ more) (some ⟨kind, found, start, start + byteWidth found⟩ :: items)
  | error {start : Nat} {c : Char} {text : List Char} {items : List (Option Piece)} :
      (∀ kind found, found <+: c :: text → ¬PieceKind.Matches kind found) → Scan (start + c.utf8Size) text items →
      Scan start (c :: text) (none :: items)

/-- Scanning a text gives its pieces and no errors. -/
theorem scan_iff {items : List (Option Piece)} :
    Scan start text items ↔ items = (layOut start (runs text)).map some := by
  constructor
  · intro h
    induction h with
    | done => rfl
    | piece h _ ih => rw [layOut_runs_append h, ih, List.map_cons]
    | @error _ c text _ nothing =>
      obtain ⟨kind, found, h⟩ := LongestMatch.exists_of_ne_nil (List.cons_ne_nil c text)
      exact absurd h.isMatch (nothing kind found h.isPrefix)
  · rintro rfl
    induction text using LongestMatch.induction generalizing start with
    | nil => exact .done
    | append kind found more h ih =>
      rw [layOut_runs_append h, List.map_cons]
      exact .piece h ih

/-! ### The tiling -/

/-- A piece is cut out of the text behind as many bytes as its start says, and stops as many bytes further on as its own
text takes. -/
theorem exists_span {p : Piece} (hp : p ∈ layOut start (runs text)) :
    ∃ before after, text = before ++ (p.text ++ after) ∧ p.start = start + byteWidth before ∧
      p.stop = p.start + byteWidth p.text ∧ p.kind.Matches p.text := by
  induction text using LongestMatch.induction generalizing start with
  | nil => cases hp
  | append kind found more h ih =>
    rw [layOut_runs_append h] at hp
    rcases List.mem_cons.1 hp with rfl | hp
    · exact ⟨[], more, rfl, rfl, rfl, h.isMatch⟩
    · obtain ⟨before, after, rfl, hs, he, hm⟩ := ih hp
      refine ⟨found ++ before, after, by simp, ?_, he, hm⟩
      rw [hs, byteWidth_append, Nat.add_assoc]

theorem start_of_head? {runs : List (List Char)} : ∀ p ∈ (layOut start runs).head?, p.start = start := by
  intro p hp
  cases runs with
  | nil => cases hp
  | cons run runs =>
    cases hp
    rfl

theorem stop_of_getLast? {runs : List (List Char)} :
    ∀ p ∈ (layOut start runs).getLast?, p.stop = start + byteWidth runs.flatten := by
  induction runs generalizing start with
  | nil => simp [layOut]
  | cons run runs ih =>
    intro p hp
    rw [List.flatten_cons, byteWidth_append, ← Nat.add_assoc]
    cases runs with
    | nil =>
      cases hp
      rfl
    | cons next runs =>
      rw [layOut, layOut, List.getLast?_cons_cons] at hp
      exact ih p hp

theorem isChain_layOut (start : Nat) (runs : List (List Char)) :
    (layOut start runs).IsChain fun p q => p.stop = q.start := by
  induction runs generalizing start with
  | nil => exact .nil
  | cons run runs ih =>
    rw [layOut, List.isChain_cons]
    exact ⟨fun q hq => (start_of_head? q hq).symm, ih _⟩

/-- A piece behind a run is a line feed. -/
theorem isChain_kind (start : Nat) (text : List Char) :
    (layOut start (runs text)).IsChain fun p q => ¬(p.kind = .text ∧ q.kind = .text) := by
  induction text using LongestMatch.induction generalizing start with
  | nil => exact .nil
  | append kind found more h ih =>
    rw [layOut_runs_append h, List.isChain_cons]
    refine ⟨?_, ih _⟩
    rintro q hq ⟨rfl, hk⟩
    cases more with
    | nil => cases hq
    | cons c more =>
      obtain rfl : c = '\n' := h.head?_of_text c rfl
      have next : LongestMatch (['\n'] ++ more) .lineBreak ['\n'] := .newline more
      rw [← List.singleton_append, layOut_runs_append next] at hq
      cases hq
      cases hk

/-- The bytes of a part of a text are those between its offsets, which stand between two characters. -/
theorem extract_ofList (before run after : List Char) :
    let source := String.ofList (before ++ (run ++ after))
    (⟨byteWidth before⟩ : String.Pos.Raw).IsValid source ∧
      (⟨byteWidth before + byteWidth run⟩ : String.Pos.Raw).IsValid source ∧
      source.toUTF8.extract (byteWidth before) (byteWidth before + byteWidth run) = (String.ofList run).toUTF8 := by
  intro source
  have place (a b : List Char) (e : a ++ b = before ++ (run ++ after)) :
      (⟨byteWidth a⟩ : String.Pos.Raw).IsValid source := by
    refine String.Pos.Raw.isValid_iff_exists_append.2 ⟨String.ofList a, String.ofList b, ?_, ?_⟩
    · rw [← String.ofList_append, e]
    · rw [← utf8ByteSize_ofList]
      rfl
  refine ⟨place before _ rfl, ?_, ?_⟩
  · rw [← byteWidth_append]
    exact place (before ++ run) after (List.append_assoc ..)
  · have front : (String.ofList before).toByteArray.size = byteWidth before := utf8ByteSize_ofList before
    have part : (String.ofList run).toByteArray.size = byteWidth run := utf8ByteSize_ofList run
    simp only [source, String.toUTF8_eq_toByteArray, String.ofList_append, String.toByteArray_append]
    rw [← Nat.add_zero (byteWidth before), Nat.add_assoc, ByteArray.extract_append_size_add' front.symm, Nat.zero_add,
      ByteArray.extract_append_eq_left part.symm]

/-- The pieces of a source are what a scanner reports that takes the longest match each time, and it reports no error.
They tile the source: the first starts at its first byte, each of the others where the one before it stops, and the
last stops at its end.  No piece is empty, each holds the bytes between its offsets, and these stand between two
characters.  A piece is one line feed, or a run without line feeds, and no two runs are neighbours. -/
theorem ofSource_tiles (source : String) :
    (∀ items, Scan 0 source.toList items ↔ items = (ofSource source).map some) ∧
      let pieces := ofSource source
      (pieces = [] ↔ source = "") ∧
      (∀ p ∈ pieces.head?, p.start = 0) ∧
      pieces.IsChain (fun p q => p.stop = q.start) ∧
      (∀ p ∈ pieces.getLast?, p.stop = source.utf8ByteSize) ∧
      (∀ p ∈ pieces, p.start < p.stop ∧
        (⟨p.start⟩ : String.Pos.Raw).IsValid source ∧ (⟨p.stop⟩ : String.Pos.Raw).IsValid source ∧
        source.toUTF8.extract p.start p.stop = (String.ofList p.text).toUTF8 ∧
        (p.kind = .lineBreak → p.text = ['\n']) ∧ (p.kind = .text → '\n' ∉ p.text)) ∧
      pieces.IsChain (fun p q => ¬(p.kind = .text ∧ q.kind = .text)) := by
  refine ⟨fun items => scan_iff, ?_⟩
  intro pieces
  refine ⟨?_, start_of_head?, isChain_layOut 0 _, ?_, ?_, isChain_kind 0 _⟩
  · constructor
    · intro none
      have joined : (pieces.map Piece.text).flatten = source.toList := by
        rw [show pieces.map Piece.text = _ from map_text_layOut 0 _, runs, List.flatten_splitBy]
      rw [← String.toList_eq_nil_iff, ← joined, none]
      rfl
    · rintro rfl
      rfl
  · intro p hp
    rw [stop_of_getLast? p hp, runs, List.flatten_splitBy, Nat.zero_add, ← utf8ByteSize_ofList, String.ofList_toList]
  · intro p hp
    obtain ⟨before, after, e, hs, he, hm⟩ := exists_span hp
    rw [Nat.zero_add] at hs
    have filled : p.start < p.stop := by
      have := byteWidth_pos hm.ne_nil
      omega
    have cut := extract_ofList before p.text after
    rw [← e, String.ofList_toList, ← hs, ← he] at cut
    refine ⟨filled, cut.1, cut.2.1, cut.2.2, ?_, ?_⟩
    · intro hk
      rwa [hk] at hm
    · intro hk
      rw [hk] at hm
      exact hm.2

/-- Line feeds at both ends and next to each other, and characters of two and three bytes. -/
theorem ofSource_tiles_of_wide :
    let pieces : List Piece :=
      [⟨.lineBreak, ['\n'], 0, 1⟩, ⟨.text, ['é', '\r'], 1, 4⟩, ⟨.lineBreak, ['\n'], 4, 5⟩, ⟨.lineBreak, ['\n'], 5, 6⟩,
        ⟨.text, ['\u3000'], 6, 9⟩, ⟨.lineBreak, ['\n'], 9, 10⟩]
    Scan 0 "\né\r\n\n\u3000\n".toList (pieces.map some) ∧
      (∀ p ∈ pieces.getLast?, p.stop = "\né\r\n\n\u3000\n".utf8ByteSize) ∧
      "\né\r\n\n\u3000\n".toUTF8.extract 6 9 = "\u3000".toUTF8 := by
  intro pieces
  have laid : ofSource "\né\r\n\n\u3000\n" = pieces := by decide
  obtain ⟨scanned, -, -, -, stop, parts, -⟩ := ofSource_tiles "\né\r\n\n\u3000\n"
  rw [laid] at scanned stop parts
  obtain ⟨-, -, -, wide, -, -⟩ := parts ⟨.text, ['\u3000'], 6, 9⟩ (by decide)
  exact ⟨(scanned _).2 rfl, stop, wide⟩

end Piece

end AnnotatedSql
