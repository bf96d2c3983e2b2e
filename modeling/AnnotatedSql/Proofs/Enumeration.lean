import AnnotatedSql.Proofs.Cover

/-!
# Enumerating the words of a segment

A segment is read for its name, what that leaves is read again, and so on until there is no name.  Every reading
takes one word, or two when a directive word follows the name, and leaves the others.  So the readings come to an
end, and together they give the words of the segment, each at its place.

* `Stretch.words_append_blank`, `Stretch.words_word_append`: words end at blanks and at the end of the text;
* `Naming.words_span`: one reading takes words from the front;
* `Naming.exists_chain`, `Naming.Chain.words_span`: the readings end when the words do;
* `Naming.chain_enumerates_words`: which words they give, and where.
-/

namespace AnnotatedSql

open Words

/-! ### Words with their columns -/

namespace Stretch

/-- The characters of a stretch, each with its column. -/
def placed (s : Stretch) : List (Char × Nat) := s.text.zipIdx s.position.column

/-- The words of a stretch: what stands between its blanks and is not empty. -/
def words (s : Stretch) : List (List (Char × Nat)) :=
  (s.placed.splitOnP fun x => isBlank x.1).filter (· ≠ [])

theorem words_append_blank (a : List Char) {c : Char} (hc : isBlank c = true) (b : List Char) (p : Position) :
    (⟨a ++ c :: b, p⟩ : Stretch).words =
      (⟨a, p⟩ : Stretch).words ++ (⟨b, p.right (a.length + 1)⟩ : Stretch).words := by
  let x : Char × Nat := (c, p.column + a.length)
  have cut : (⟨a ++ c :: b, p⟩ : Stretch).placed =
      (⟨a, p⟩ : Stretch).placed ++ x :: (⟨b, p.right (a.length + 1)⟩ : Stretch).placed := by
    simp [placed, x, List.zipIdx_append, Nat.add_assoc]
  rw [words, cut, List.splitOnP_append_cons (p := fun x : Char × Nat => isBlank x.1) _ _ hc, List.filter_append]
  rfl

@[simp] theorem words_nil (p : Position) : (⟨[], p⟩ : Stretch).words = [] := by
  simp [words, placed, List.splitOnP_nil]

theorem words_blank_cons {c : Char} (hc : isBlank c = true) (text : List Char) (p : Position) :
    (⟨c :: text, p⟩ : Stretch).words = (⟨text, p.right 1⟩ : Stretch).words := by
  simpa using words_append_blank [] hc text p

theorem words_gap_append {gap : List Char} (h : IsGap gap) (text : List Char) (p : Position) :
    (⟨gap ++ text, p⟩ : Stretch).words = (⟨text, p.right gap.length⟩ : Stretch).words := by
  induction gap generalizing p with
  | nil => rfl
  | cons c gap ih =>
    obtain ⟨hc, h⟩ := List.forall_mem_cons.1 h
    rw [List.cons_append, words_blank_cons hc, ih h, Position.right_right, List.length_cons, Nat.add_comm]

theorem words_of_gap {gap : List Char} (h : IsGap gap) (p : Position) : (⟨gap, p⟩ : Stretch).words = [] := by
  rw [← List.append_nil gap, words_gap_append h, words_nil]

theorem words_append_gap (text : List Char) {gap : List Char} (h : IsGap gap) (p : Position) :
    (⟨text ++ gap, p⟩ : Stretch).words = (⟨text, p⟩ : Stretch).words := by
  cases gap with
  | nil => rw [List.append_nil]
  | cons c gap =>
    obtain ⟨hc, h⟩ := List.forall_mem_cons.1 h
    rw [words_append_blank text hc, words_of_gap h, List.append_nil]

/-- A word is one word, as long as nothing stands behind it that belongs to it. -/
theorem words_word_append {word text : List Char} (h : IsWord word) (he : EndsWord text) (p : Position) :
    (⟨word ++ text, p⟩ : Stretch).words =
      (⟨word, p⟩ : Stretch).placed :: (⟨text, p.right word.length⟩ : Stretch).words := by
  have solid : ∀ x ∈ (⟨word, p⟩ : Stretch).placed, isBlank x.1 = false := fun x hx =>
    h.2 x.1 (List.fst_mem_of_mem_zipIdx hx)
  have one : (⟨word, p⟩ : Stretch).words = [(⟨word, p⟩ : Stretch).placed] := by
    have nonempty : (⟨word, p⟩ : Stretch).placed ≠ [] := by simp [placed, h.1]
    rw [words, List.splitOnP_eq_singleton solid]
    simp [nonempty]
  -- the next character is the blank that ends the word, or there is none
  cases text with
  | nil => rw [List.append_nil, one, words_nil]
  | cons c text =>
    have hc : isBlank c = true := he c rfl
    rw [words_append_blank word hc, one, words_blank_cons hc, Position.right_right]
    rfl

theorem words_trim (s : Stretch) : s.trim.words = s.words := by
  obtain ⟨gap, gap', e, hp, hg, hg', -, -⟩ := s.exists_trim
  have e' : s = ⟨gap ++ (s.trim.text ++ gap'), s.position⟩ := by rw [← e]
  rw [e', words_gap_append hg, words_append_gap _ hg', ← e', ← hp]

private theorem splitOnP_map {α β : Type} (f : α → β) (p : β → Bool) (l : List α) :
    (l.map f).splitOnP p = (l.splitOnP fun a => p (f a)).map (List.map f) := by
  induction l with
  | nil => simp [List.splitOnP_nil]
  | cons a l ih =>
    rw [List.map_cons, List.splitOnP_cons_eq_if_modifyHead, List.splitOnP_cons_eq_if_modifyHead, ih]
    split
    · rfl
    · cases l.splitOnP fun a => p (f a) <;> rfl

/-- Without the columns, the words are those that blanks separate. -/
theorem map_fst_words (s : Stretch) : s.words.map (List.map Prod.fst) = (s.text.splitOnP isBlank).filter (· ≠ []) := by
  have text : s.text = s.placed.map Prod.fst := (List.zipIdx_map_fst _ _).symm
  rw [text, splitOnP_map, List.filter_map, words]
  congr 2
  funext word
  simp

end Stretch

theorem Token.placed_span (t : Token) : t.span.placed = (t.payload?.getD "").toList.zipIdx t.position.column := by
  cases h : t.payload? <;> simp [Stretch.placed, span, h]

/-! ### One reading -/

namespace Naming

variable {c : Config} {t : Token} {n : Naming}

/-- The words that a reading gives: the name and, if there is one, the keyword. -/
def words (n : Naming) : List Token := n.name :: if n.keyword.payload?.isSome then [n.keyword] else []

private theorem isSome_keyword_ofForm (p : Position) (name gap : List Char) (word? : Option (List Char))
    (gap' rest : List Char) : (ofForm p name gap word? gap' rest).keyword.payload?.isSome = word?.isSome := by
  simp [ofForm]

/-- A reading takes the first word of a segment, or the first two, and leaves the others. -/
theorem words_span (h : ofSegment? c t = some n) :
    t.span.words = n.words.map (fun u => u.span.placed) ++ n.rest.span.words := by
  obtain ⟨s, name, gap, word?, gap', rest, hs, e, hf, rfl⟩ := ofSegment?_eq_some_iff.1 h
  have e' : s.trim = ⟨name ++ (gap ++ (word?.getD [] ++ (gap' ++ rest))), s.trim.position⟩ := by rw [← e]
  rw [Token.span_of_stretch hs, ← s.words_trim, e', Stretch.words_word_append hf.isWord hf.endsName,
    Stretch.words_gap_append hf.isGap]
  cases word? with
  | none =>
    obtain ⟨rfl, -⟩ := hf.plain rfl
    simp [words, isSome_keyword_ofForm]
  | some word =>
    obtain ⟨hsigil, hw, he⟩ := hf.keyword word rfl
    rw [Option.getD_some, Stretch.words_word_append (hw.isWord hsigil) he, Stretch.words_gap_append hf.isGap']
    simp [words, isSome_keyword_ofForm, Nat.add_assoc]

theorem words_span_of_eq_none (h : ofSegment? c t = none) : t.span.words = [] := by
  cases hs : t.stretch? with
  | none =>
    have absent : t.payload? = none := Option.map_eq_none_iff.1 hs
    simp [Token.span, absent]
  | some s =>
    rw [Token.span_of_stretch hs]
    exact Stretch.words_of_gap ((ofSegment?_eq_none_iff hs).1 h) s.position

theorem mem_words {u : Token} : u ∈ n.words ↔ u = n.name ∨ u = n.keyword ∧ n.keyword.payload?.isSome := by
  unfold words
  split <;> simp_all

/-- The words of a reading are there, and stand in the segment. -/
theorem of_mem_words {u : Token} (h : ofSegment? c t = some n) (hu : u ∈ n.words) :
    u.payload?.isSome ∧ u.span.Within t.span := by
  have covers := ofSegment?_covers h
  rcases mem_words.1 hu with rfl | ⟨rfl, present⟩
  · obtain ⟨_, _, _, _, _, _, -, -, -, rfl⟩ := ofSegment?_eq_some_iff.1 h
    exact ⟨rfl, covers.within (by simp)⟩
  · exact ⟨present, covers.within (by simp)⟩

/-! ### Readings up to the last word -/

/-- The namings that come out when a segment is read, then the rest of its naming, and so on, up to the first token
that has no name. -/
inductive Chain (c : Config) : Token → List Naming → Prop
  | done {t : Token} : ofSegment? c t = none → Chain c t []
  | step {t : Token} {n : Naming} {namings : List Naming} :
      ofSegment? c t = some n → Chain c n.rest namings → Chain c t (n :: namings)

namespace Chain

variable {namings others : List Naming}

theorem unique (h : Chain c t namings) (h' : Chain c t others) : others = namings := by
  induction h generalizing others with
  | done missing =>
    cases h' with
    | done => rfl
    | step read => cases missing.symm.trans read
  | step read _ ih =>
    cases h' with
    | done missing => cases missing.symm.trans read
    | step read' h' =>
      obtain rfl := Option.some.inj (read.symm.trans read')
      rw [ih h']

theorem words_span (h : Chain c t namings) :
    t.span.words = (namings.flatMap Naming.words).map fun u => u.span.placed := by
  induction h with
  | done missing => exact words_span_of_eq_none missing
  | step read _ ih => rw [Naming.words_span read, ih, List.flatMap_cons, List.map_append]

theorem of_mem_words {u : Token} (h : Chain c t namings) (hu : u ∈ namings.flatMap Naming.words) :
    u.payload?.isSome ∧ u.span.Within t.span := by
  induction h with
  | done => cases hu
  | step read _ ih =>
    rw [List.flatMap_cons, List.mem_append] at hu
    rcases hu with hu | hu
    · exact Naming.of_mem_words read hu
    · obtain ⟨present, within⟩ := ih hu
      exact ⟨present, within.trans ((ofSegment?_covers read).within (by simp))⟩

theorem length_le (h : Chain c t namings) : namings.length ≤ t.span.words.length := by
  rw [h.words_span, List.length_map]
  clear h
  induction namings with
  | nil => simp
  | cons n namings ih =>
    -- a reading gives its name at least
    simp only [List.flatMap_cons, List.length_append, List.length_cons, Naming.words]
    omega

end Chain

/-- The readings come to an end, because every one leaves fewer words. -/
theorem exists_chain (c : Config) (t : Token) : ∃ namings, Chain c t namings := by
  -- the rest is no part of the token by structure, so the induction is on the number of words
  generalize hk : t.span.words.length = k
  induction k using Nat.strongRecOn generalizing t with
  | ind k ih =>
    cases read : ofSegment? c t with
    | none => exact ⟨[], .done read⟩
    | some n =>
      have fewer : n.rest.span.words.length < k := by
        rw [← hk, words_span read, List.length_append, List.length_map, words, List.length_cons]
        omega
      obtain ⟨namings, h⟩ := ih _ fewer n.rest rfl
      exact ⟨n :: namings, .step read h⟩

/-- A segment that is read for its name, then read again in what this leaves, and so on, is used up after at most as
many readings as it has words.  The names and keywords of these readings are all words of the segment, in order, each
in the column that its first character has in the segment, on the same line of the same source. -/
theorem chain_enumerates_words (c : Config) {t : Token} {text : String} (ht : t.payload? = some text) :
    let words := (text.toList.splitOnP isBlank).filter (· ≠ [])
    let placed := ((text.toList.zipIdx t.position.column).splitOnP fun x => isBlank x.1).filter (· ≠ [])
    ∃ namings, (∀ others, Chain c t others ↔ others = namings) ∧
      namings.length ≤ words.length ∧
      (namings.flatMap Naming.words).map Token.payload? = words.map (fun word => some (String.ofList word)) ∧
      (namings.flatMap Naming.words).map (fun u => (u.payload?.getD "").toList.zipIdx u.position.column) = placed ∧
      ∀ u ∈ namings.flatMap Naming.words,
        u.position.source = t.position.source ∧ u.position.line = t.position.line := by
  intro words placed
  have span : t.span = ⟨text.toList, t.position⟩ := by simp [Token.span, ht]
  have hplaced : t.span.words = placed := by rw [span]; rfl
  have hwords : t.span.words.map (List.map Prod.fst) = words := by rw [Stretch.map_fst_words, span]
  obtain ⟨namings, h⟩ := exists_chain c t
  refine ⟨namings, fun others => ⟨h.unique, fun e => e ▸ h⟩, ?_, ?_, ?_, ?_⟩
  · have := h.length_le
    rwa [← List.length_map (List.map Prod.fst), hwords] at this
  · rw [← hwords, h.words_span, List.map_map, List.map_map]
    apply List.map_congr_left
    intro u hu
    obtain ⟨word, hword⟩ := Option.isSome_iff_exists.1 (h.of_mem_words hu).1
    simp [Token.placed_span, hword, List.zipIdx_map_fst]
  · rw [← hplaced, h.words_span]
    simp only [Token.placed_span]
  · intro u hu
    have within := (h.of_mem_words hu).2
    exact ⟨within.source_eq, within.line_eq⟩

/-- Four readings of six words: a name and a keyword, and names that look like keywords or are a bare sigil. -/
theorem chain_enumerates_words_of_sigils :
    let t : Token := ⟨.segment, some " :a b :c  : d\u3000:d ", ⟨"q", 3, 4⟩⟩
    ∃ namings, Chain {} t namings ∧ namings.length ≤ 6 ∧
      (namings.flatMap words).map Token.payload? =
        [some ":a", some "b", some ":c", some ":", some "d", some ":d"] ∧
      (namings.flatMap words).map (fun u => (u.payload?.getD "").toList.zipIdx u.position.column) =
        [[(':', 6), ('a', 7)], [('b', 9)], [(':', 11), ('c', 12)], [(':', 15)], [('d', 17)],
          [(':', 19), ('d', 20)]] := by
  intro t
  have present : t.payload? = some " :a b :c  : d\u3000:d " := rfl
  obtain ⟨namings, chain, length, payloads, columns, -⟩ := chain_enumerates_words {} present
  exact ⟨namings, (chain namings).2 rfl, length, payloads.trans (by decide), columns.trans (by decide)⟩

end Naming

end AnnotatedSql
