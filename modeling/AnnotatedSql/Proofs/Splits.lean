import AnnotatedSql.Proofs.Forms
import AnnotatedSql.Proofs.LineTokens
import Mathlib.Logic.ExistsUnique

/-!
# Splits of comments and segments

What may stand in a comment or in a segment is said part by part: which part is a gap, which is a word, and which gap
can be missing.  A text has at most one such split, because words end at gaps and gaps end at words, and the readers
give the parts of that split, each at its place.

* `Directive.CommentSplit.Splits.unique`, `Directive.SegmentSplit.Splits.unique`, `Naming.Split.Splits.unique`: a text
  is split in one way;
* `Directive.ofComment?_split`: comments, behind the marker;
* `Directive.ofSegment?_segmentSplit`: segments that open with a directive;
* `Naming.ofSegment?_split`: segments that open with a name.
-/

namespace AnnotatedSql

open Words

/-! ### Comments -/

namespace Directive

/-- The parts of a comment behind its marker: the gap in front of the directive word, the word, the gap behind it and
the rest. -/
structure CommentSplit where
  lead : List Char
  word : List Char
  gap : List Char
  rest : List Char

namespace CommentSplit

/-- The marker and the parts make up the comment.  The gap behind the directive word takes in all blanks there, and is
empty only when nothing follows. -/
structure Splits (c : Config) (s : CommentSplit) (text : List Char) : Prop where
  text_eq : text = c.marker.toList ++ (s.lead ++ (s.word ++ (s.gap ++ s.rest)))
  isGap_lead : IsGap s.lead
  isDirective : IsDirective c.sigil s.word
  isGap_gap : IsGap s.gap
  endsGap : EndsGap s.rest
  rest_eq_nil : s.gap = [] → s.rest = []

namespace Splits

variable {c : Config} {s s' : CommentSplit} {text : List Char}

theorem wordCut (h : s.Splits c text) (hs : isBlank c.sigil = false) : WordCut s.word s.gap s.rest where
  isSolid := (h.isDirective.isWord hs).2
  isGap := h.isGap_gap
  endsWord := (endsWord_gap_iff h.isGap_gap h.endsGap).2 h.rest_eq_nil
  endsGap := h.endsGap

theorem form (h : s.Splits c text) (hs : isBlank c.sigil = false) : CommentForm c s.lead s.word s.gap s.rest where
  sigil := hs
  isGap_lead := h.isGap_lead
  isDirective := h.isDirective
  isGap_gap := h.isGap_gap
  endsWord := (h.wordCut hs).endsWord
  endsGap := h.endsGap

theorem unique (h : s.Splits c text) (h' : s'.Splits c text) (hs : isBlank c.sigil = false) : s' = s := by
  have e := List.append_cancel_left (h'.text_eq.symm.trans h.text_eq)
  obtain ⟨lead, e⟩ := gap_unique h'.isGap_lead h.isGap_lead ((h'.isDirective.isWord hs).endsGap _)
    ((h.isDirective.isWord hs).endsGap _) e
  obtain ⟨word, gap, rest⟩ := (h'.wordCut hs).unique (h.wordCut hs) e
  cases s
  cases s'
  simp_all

end Splits

end CommentSplit

/-- A comment holds a directive exactly when the sigil is not blank and the comment has a split, which it then has only
once: the directive word and the rest are parts of it, and stand as far to the right as the widths of the parts in
front of them say.  There is no directive in an absent payload. -/
theorem ofComment?_split (c : Config) (t : Token) :
    (t.payload? = none → ofComment? c t = none) ∧
      ∀ text : String, t.payload? = some text →
        ((ofComment? c t).isSome ↔ isBlank c.sigil = false ∧ ∃ s : CommentSplit, s.Splits c text.toList) ∧
          ∀ s : CommentSplit, isBlank c.sigil = false → s.Splits c text.toList →
            (∀ s' : CommentSplit, s'.Splits c text.toList → s' = s) ∧
              ofComment? c t = some
                { keyword := ⟨.keyword, some (String.ofList s.word),
                    t.position.right (c.marker.toList.length + s.lead.length)⟩
                  rest := ⟨.segment, some (String.ofList s.rest),
                    t.position.right (c.marker.toList.length + s.lead.length + s.word.length + s.gap.length)⟩ } := by
  have read {text : String} (ht : t.payload? = some text) {s : CommentSplit} (hs : isBlank c.sigil = false)
      (h : s.Splits c text.toList) :
      ofComment? c t = some (ofForm c t.position s.lead s.word s.gap s.rest) :=
    ofComment?_of_form (h.form hs) (by rw [ht, ← h.text_eq, String.ofList_toList])
  refine ⟨fun ht => by rw [ofComment?, Token.stretch?, ht]; rfl, fun text ht => ⟨⟨?_, ?_⟩, ?_⟩⟩
  · intro found
    obtain ⟨d, hd⟩ := Option.isSome_iff_exists.1 found
    obtain ⟨lead, word, gap, rest, hf, ht', -⟩ := ofComment?_eq_some_iff.1 hd
    obtain rfl := Option.some.inj (ht.symm.trans ht')
    exact ⟨hf.sigil, ⟨lead, word, gap, rest⟩, String.toList_ofList, hf.isGap_lead, hf.isDirective, hf.isGap_gap,
      hf.endsGap, (endsWord_gap_iff hf.isGap_gap hf.endsGap).1 hf.endsWord⟩
  · rintro ⟨hs, s, h⟩
    exact Option.isSome_of_eq_some (read ht hs h)
  · intro s hs h
    refine ⟨fun s' h' => h.unique h' hs, ?_⟩
    rw [read ht hs h, ofForm]
    simp only [List.length_append]

/-- A marker that ends with a blank and opens with the sigil, and a rest that ends with a blank. -/
theorem ofComment?_split_of_trailing :
    let c : Config := ⟨": ", ':'⟩
    let s : CommentSplit := ⟨['\t'], [':', 'é', ':', 'x'], [' ', ' '], ['y', ' ']⟩
    isBlank c.sigil = false ∧ s.Splits c ": \t:é:x  y ".toList ∧
      ofComment? c ⟨.query, some ": \t:é:x  y ", ⟨"q", 3, 4⟩⟩ =
        some ⟨⟨.keyword, some ":é:x", ⟨"q", 3, 7⟩⟩, ⟨.segment, some "y ", ⟨"q", 3, 13⟩⟩⟩ ∧
      ofComment? c ⟨.comment, none, ⟨"q", 3, 4⟩⟩ = none := by
  intro c s
  have hs : isBlank c.sigil = false := by decide
  have h : s.Splits c ": \t:é:x  y ".toList :=
    ⟨by decide, by decide, ⟨['é', ':', 'x'], by decide, rfl⟩, by decide, by rintro _ ⟨⟩; decide, by decide⟩
  obtain ⟨-, found⟩ := ofComment?_split c ⟨.query, some ": \t:é:x  y ", ⟨"q", 3, 4⟩⟩
  exact ⟨hs, h, ((found _ rfl).2 s hs h).2.trans (by decide), (ofComment?_split c ⟨.comment, none, ⟨"q", 3, 4⟩⟩).1 rfl⟩

/-! ### Segments that open with a directive -/

/-- The parts of a trimmed segment: the directive word that it opens with, and everything behind the word. -/
structure SegmentSplit where
  word : List Char
  rest : List Char

namespace SegmentSplit

/-- The parts make up the text, and the directive word does not go on in the rest. -/
structure Splits (c : Config) (s : SegmentSplit) (text : List Char) : Prop where
  text_eq : text = s.word ++ s.rest
  isDirective : IsDirective c.sigil s.word
  endsWord : EndsWord s.rest

namespace Splits

variable {c : Config} {s s' : SegmentSplit} {text : List Char}

theorem isBlank_sigil (h : s.Splits c text) (he : EndsGap text) : isBlank c.sigil = false :=
  h.isDirective.isBlank_sigil (h.text_eq ▸ he)

theorem unique (h : s.Splits c text) (h' : s'.Splits c text) (he : EndsGap text) : s' = s := by
  have hs := h.isBlank_sigil he
  obtain ⟨word, rest⟩ := solid_unique (h'.isDirective.isWord hs).2 (h.isDirective.isWord hs).2 h'.endsWord h.endsWord
    (h'.text_eq.symm.trans h.text_eq)
  cases s
  cases s'
  simp_all

/-- A rest opens with a blank, and ends like the text. -/
theorem ends_of_rest (h : s.Splits c text) (hn : NoTrailing text) (hne : s.rest ≠ []) :
    (∃ x ∈ s.rest.head?, isBlank x = true) ∧ ∃ x ∈ s.rest.getLast?, isBlank x = false := by
  have first := List.head?_eq_some_head hne
  have last := List.getLast?_eq_some_getLast hne
  have hr : NoTrailing s.rest := (h.text_eq ▸ hn : NoTrailing (s.word ++ s.rest)).of_append
  exact ⟨⟨_, first, h.endsWord _ first⟩, ⟨_, last, hr _ last⟩⟩

end Splits

end SegmentSplit

/-- What is read from a segment that has a split when it is trimmed. -/
theorem ofSegment?_of_splits {c : Config} {t : Token} {segment : Stretch} {s : SegmentSplit}
    (hs : t.stretch? = some segment) (h : s.Splits c segment.trim.text) :
    ofSegment? c t = some
      { keyword := ⟨.keyword, some (String.ofList s.word), segment.trim.position⟩
        rest := ⟨.segment, if s.rest = [] then none else some (String.ofList s.rest),
          segment.trim.position.right s.word.length⟩ } := by
  refine ofSegment?_eq_some_iff.2 ⟨segment, s.word, s.rest, hs, h.text_eq, h.isBlank_sigil segment.endsGap_trim,
    h.isDirective, h.endsWord, ?_⟩
  rw [Stretch.toOptionalToken_eq]
  rfl

theorem exists_splits_of_ofSegment? {c : Config} {t : Token} {segment : Stretch} {d : Directive}
    (hs : t.stretch? = some segment) (hd : ofSegment? c t = some d) :
    ∃ s : SegmentSplit, s.Splits c segment.trim.text := by
  obtain ⟨segment', word, rest, hs', e, -, hw, he, -⟩ := ofSegment?_eq_some_iff.1 hd
  obtain rfl := Option.some.inj (hs.symm.trans hs')
  exact ⟨⟨word, rest⟩, e, hw, he⟩

/-- A segment opens with a directive exactly when the sigil is not blank and the trimmed segment has a split, which it
then has only once: the directive word stands where the trimmed segment does and the rest right behind it.  The two are
the whole of the trimmed segment.  A rest that is empty is absent, and another one opens with a blank and does not end
with one.  There is no directive in an absent payload. -/
theorem ofSegment?_segmentSplit (c : Config) (t : Token) :
    (t.payload? = none → ofSegment? c t = none) ∧
      ∀ payload : String, t.payload? = some payload →
        let text := (payload.toList.dropWhile isBlank).rdropWhile isBlank
        let start := t.position.right (payload.toList.takeWhile isBlank).length
        ((ofSegment? c t).isSome ↔ isBlank c.sigil = false ∧ ∃ s : SegmentSplit, s.Splits c text) ∧
          (∀ s : SegmentSplit, s.Splits c text →
            (∀ s' : SegmentSplit, s'.Splits c text → s' = s) ∧
              ofSegment? c t = some
                { keyword := ⟨.keyword, some (String.ofList s.word), start⟩
                  rest := ⟨.segment, if s.rest = [] then none else some (String.ofList s.rest),
                    start.right s.word.length⟩ }) ∧
          ∀ d, ofSegment? c t = some d →
            (∃ word, d.keyword.payload? = some word ∧ word ++ d.rest.payload?.getD "" = String.ofList text) ∧
              ∀ rest, d.rest.payload? = some rest →
                (∃ x ∈ rest.toList.head?, isBlank x = true) ∧ ∃ x ∈ rest.toList.getLast?, isBlank x = false := by
  refine ⟨fun ht => by rw [ofSegment?, Token.stretch?, ht]; rfl, ?_⟩
  intro payload ht text start
  let segment : Stretch := ⟨payload.toList, t.position⟩
  have hs : t.stretch? = some segment := Token.stretch?_eq_some_iff.2 ⟨by rw [ht, String.ofList_toList], rfl⟩
  have trimmed : segment.trim.text = text := segment.trim_text
  have he : EndsGap text := trimmed ▸ segment.endsGap_trim
  have hn : NoTrailing text := trimmed ▸ segment.noTrailing_trim
  have read {s : SegmentSplit} (h : s.Splits c text) := ofSegment?_of_splits hs (trimmed ▸ h)
  have split {d : Directive} (hd : ofSegment? c t = some d) : ∃ s : SegmentSplit, s.Splits c text :=
    trimmed ▸ exists_splits_of_ofSegment? hs hd
  refine ⟨⟨?_, ?_⟩, fun s h => ⟨fun s' h' => h.unique h' he, read h⟩, ?_⟩
  · intro found
    obtain ⟨d, hd⟩ := Option.isSome_iff_exists.1 found
    obtain ⟨s, h⟩ := split hd
    exact ⟨h.isBlank_sigil he, s, h⟩
  · rintro ⟨-, s, h⟩
    exact Option.isSome_of_eq_some (read h)
  · intro d hd
    obtain ⟨s, h⟩ := split hd
    obtain rfl := Option.some.inj (hd.symm.trans (read h))
    by_cases hr : s.rest = []
    · exact ⟨⟨_, rfl, by simp [hr, h.text_eq]⟩, fun rest present => by simp [hr] at present⟩
    · refine ⟨⟨_, rfl, by simp [hr, h.text_eq]⟩, fun rest present => ?_⟩
      obtain rfl : String.ofList s.rest = rest := by simpa [hr] using present
      simpa using h.ends_of_rest hn hr

/-- Sigils inside the word, a wide blank in front of the rest and gaps at both ends; and a word without a rest. -/
theorem ofSegment?_segmentSplit_of_gaps :
    let c : Config := ⟨"--", '@'⟩
    let s : SegmentSplit := ⟨['@', '@', 'é'], ['\u3000', '@', ' ', 'y']⟩
    let s' : SegmentSplit := ⟨['@', '-'], []⟩
    s.Splits c "@@é\u3000@ y".toList ∧ s'.Splits c "@-".toList ∧
      ofSegment? c ⟨.segment, some "\t @@é\u3000@ y \r", ⟨"q", 3, 4⟩⟩ =
        some ⟨⟨.keyword, some "@@é", ⟨"q", 3, 6⟩⟩, ⟨.segment, some "\u3000@ y", ⟨"q", 3, 9⟩⟩⟩ ∧
      ofSegment? c ⟨.query, some "@-  ", ⟨"q", 3, 4⟩⟩ =
        some ⟨⟨.keyword, some "@-", ⟨"q", 3, 4⟩⟩, ⟨.segment, none, ⟨"q", 3, 6⟩⟩⟩ ∧
      ofSegment? c ⟨.segment, none, ⟨"q", 3, 4⟩⟩ = none := by
  intro c s s'
  have h : s.Splits c "@@é\u3000@ y".toList := by
    refine ⟨by decide, ⟨['@', 'é'], by decide, rfl⟩, ?_⟩
    rintro _ ⟨⟩
    decide
  have h' : s'.Splits c "@-".toList := ⟨by decide, ⟨['-'], by decide, rfl⟩, endsWord_nil⟩
  refine ⟨h, h', ?_, ?_, (ofSegment?_segmentSplit c ⟨.segment, none, ⟨"q", 3, 4⟩⟩).1 rfl⟩
  · obtain ⟨-, found⟩ := ofSegment?_segmentSplit c ⟨.segment, some "\t @@é\u3000@ y \r", ⟨"q", 3, 4⟩⟩
    exact ((found _ rfl).2.1 s h).2.trans (by decide)
  · obtain ⟨-, found⟩ := ofSegment?_segmentSplit c ⟨.query, some "@-  ", ⟨"q", 3, 4⟩⟩
    exact ((found _ rfl).2.1 s' h').2.trans (by decide)

end Directive

/-! ### Segments that open with a name -/

namespace Naming

/-- The parts of a trimmed segment: the name, the gap behind it, the directive word, the gap behind that and the rest.
Without a directive word the parts after the first gap are empty up to the rest. -/
structure Split where
  name : List Char
  nameGap : List Char
  word : List Char
  wordGap : List Char
  rest : List Char

namespace Split

/-- There is a directive word behind the name, and a gap in front of it. -/
structure HasKeyword (c : Config) (s : Split) : Prop where
  sigil : isBlank c.sigil = false
  isDirective : IsDirective c.sigil s.word
  nameGap_ne_nil : s.nameGap ≠ []
  wordGap_eq_nil_iff : s.wordGap = [] ↔ s.rest = []

/-- There is no directive word behind the name, and the rest does not look like one. -/
structure IsPlain (c : Config) (s : Split) : Prop where
  word_eq_nil : s.word = []
  wordGap_eq_nil : s.wordGap = []
  nameGap_eq_nil_iff : s.nameGap = [] ↔ s.rest = []
  rest : isBlank c.sigil = false → ¬OpensDirective c.sigil s.rest

/-- The parts make up the text. -/
structure Splits (c : Config) (s : Split) (text : List Char) : Prop where
  text_eq : text = s.name ++ (s.nameGap ++ (s.word ++ (s.wordGap ++ s.rest)))
  isWord : IsWord s.name
  isGap_nameGap : IsGap s.nameGap
  isGap_wordGap : IsGap s.wordGap
  endsGap : EndsGap s.rest
  keyword_or_plain : s.HasKeyword c ∨ s.IsPlain c

/-- What follows the name and the gap behind it. -/
def follow (s : Split) : List Char := s.word ++ (s.wordGap ++ s.rest)

theorem IsPlain.follow_eq {c : Config} {s : Split} (h : s.IsPlain c) : s.follow = s.rest := by
  simp [follow, h.word_eq_nil, h.wordGap_eq_nil]

theorem HasKeyword.opensDirective {c : Config} {s : Split} (h : s.HasKeyword c) : OpensDirective c.sigil s.follow := by
  obtain ⟨word, hw, e⟩ := h.isDirective
  cases word with
  | nil => exact absurd rfl hw.1
  | cons x word => exact ⟨x, word ++ (s.wordGap ++ s.rest), hw.2 x (by simp), by rw [follow, e]; rfl⟩

/-- The directive word, if there is one. -/
def word? (s : Split) : Option (List Char) := if s.word = [] then none else some s.word

theorem getD_word? (s : Split) : s.word?.getD [] = s.word := by
  unfold word?
  split <;> simp_all

theorem map_word? (s : Split) :
    s.word?.map String.ofList = if s.word = [] then none else some (String.ofList s.word) := by
  unfold word?
  split <;> rfl

namespace Splits

variable {c : Config} {s s' : Split} {text : List Char}

theorem nameCut (h : s.Splits c text) : WordCut s.name s.nameGap s.follow := by
  have endsGap : EndsGap s.follow := by
    rcases h.keyword_or_plain with hk | hp
    · exact (hk.isDirective.isWord hk.sigil).endsGap _
    · rw [hp.follow_eq]
      exact h.endsGap
  refine ⟨h.isWord.2, h.isGap_nameGap, (endsWord_gap_iff h.isGap_nameGap endsGap).2 fun missing => ?_, endsGap⟩
  rcases h.keyword_or_plain with hk | hp
  · exact absurd missing hk.nameGap_ne_nil
  · rw [hp.follow_eq]
    exact hp.nameGap_eq_nil_iff.1 missing

theorem wordCut (h : s.Splits c text) (hk : s.HasKeyword c) : WordCut s.word s.wordGap s.rest where
  isSolid := (hk.isDirective.isWord hk.sigil).2
  isGap := h.isGap_wordGap
  endsWord := (endsWord_gap_iff h.isGap_wordGap h.endsGap).2 hk.wordGap_eq_nil_iff.1
  endsGap := h.endsGap

theorem unique (h : s.Splits c text) (h' : s'.Splits c text) : s' = s := by
  obtain ⟨name, nameGap, follow⟩ := h'.nameCut.unique h.nameCut (h'.text_eq.symm.trans h.text_eq)
  have rest : s'.word = s.word ∧ s'.wordGap = s.wordGap ∧ s'.rest = s.rest := by
    rcases h.keyword_or_plain, h'.keyword_or_plain with ⟨hk | hp, hk' | hp'⟩
    · exact (h'.wordCut hk').unique (h.wordCut hk) follow
    -- the rest of a plain split would open with the directive word of the other one
    · exact absurd (hp'.follow_eq ▸ follow ▸ hk.opensDirective) (hp'.rest hk.sigil)
    · exact absurd (hp.follow_eq ▸ follow ▸ hk'.opensDirective) (hp.rest hk'.sigil)
    · refine ⟨?_, ?_, ?_⟩
      · rw [hp.word_eq_nil, hp'.word_eq_nil]
      · rw [hp.wordGap_eq_nil, hp'.wordGap_eq_nil]
      · rw [← hp.follow_eq, ← hp'.follow_eq, follow]
  obtain ⟨word, wordGap, rest⟩ := rest
  cases s
  cases s'
  simp_all

theorem form (h : s.Splits c text) : Form c s.name s.nameGap s.word? s.wordGap s.rest where
  isWord := h.isWord
  isGap := h.isGap_nameGap
  endsName := by
    rw [getD_word?]
    exact h.nameCut.endsWord
  isGap' := h.isGap_wordGap
  endsGap := h.endsGap
  keyword := by
    intro word hw
    rcases h.keyword_or_plain with hk | hp
    · unfold word? at hw
      split at hw
      · cases hw
      · cases hw
        exact ⟨hk.sigil, hk.isDirective, (h.wordCut hk).endsWord⟩
    · simp [word?, hp.word_eq_nil] at hw
  plain := by
    intro hn
    rcases h.keyword_or_plain with hk | hp
    · have hne := (hk.isDirective.isWord hk.sigil).1
      simp [word?, hne] at hn
    · refine ⟨hp.wordGap_eq_nil, fun opens => ?_⟩
      obtain ⟨x, more, -, e⟩ := id opens
      have hs : isBlank c.sigil = false := h.endsGap _ (by rw [e]; rfl)
      exact hp.rest hs opens

end Splits

/-- A text without blanks at its ends that is not empty has a split. -/
theorem exists_splits (c : Config) {text : List Char} (hne : text ≠ []) (he : EndsGap text) (hn : NoTrailing text) :
    ∃ s : Split, s.Splits c text := by
  obtain ⟨name, gap, word?, gap', rest, rfl, hf⟩ := exists_form c hne he
  -- a gap that ends the text is empty
  have rest_nil : rest = [] → gap' = [] := by
    rintro rfl
    have : NoTrailing ((name ++ (gap ++ word?.getD [])) ++ gap') := by simpa using hn
    exact this.of_append.eq_nil hf.isGap'
  refine ⟨⟨name, gap, word?.getD [], gap', rest⟩, rfl, hf.isWord, hf.isGap, hf.isGap', hf.endsGap, ?_⟩
  cases word? with
  | none =>
    obtain ⟨rfl, hplain⟩ := hf.plain rfl
    refine .inr ⟨rfl, rfl, ⟨(endsWord_gap_iff hf.isGap hf.endsGap).1 hf.endsName, ?_⟩, fun _ => hplain⟩
    rintro rfl
    have : NoTrailing (name ++ gap) := by simpa using hn
    exact this.of_append.eq_nil hf.isGap
  | some word =>
    obtain ⟨hs, hw, hew⟩ := hf.keyword word rfl
    have hww := hw.isWord hs
    refine .inl ⟨hs, hw, ?_, ⟨(endsWord_gap_iff hf.isGap' hf.endsGap).1 hew, rest_nil⟩⟩
    rintro rfl
    have nothing : word ++ (gap' ++ rest) = [] := hf.endsName.eq_nil (hww.endsGap _)
    exact hww.1 (List.append_eq_nil_iff.1 nothing).1

end Split

/-- A segment has a name exactly when it is not blank.  Trimmed, it then has one split: the name, the directive word
and the rest are parts of it, and stand as far to the right as the widths of the parts in front of them say.  A part
that is empty is absent, so a missing directive word stands where the rest does.  There is no name in an absent
payload. -/
theorem ofSegment?_split (c : Config) (t : Token) :
    (t.payload? = none → ofSegment? c t = none) ∧
      (∀ n, ofSegment? c t = some n → n.keyword.payload? = none → n.keyword.position = n.rest.position) ∧
      ∀ payload : String, t.payload? = some payload →
        let text := (payload.toList.dropWhile isBlank).rdropWhile isBlank
        let start := t.position.right (payload.toList.takeWhile isBlank).length
        (ofSegment? c t = none ↔ text = []) ∧
          (text ≠ [] → ∃! s : Split, s.Splits c text) ∧
          ∀ s : Split, s.Splits c text →
            ofSegment? c t = some
              { name := ⟨.name, some (String.ofList s.name), start⟩
                keyword := ⟨.keyword, if s.word = [] then none else some (String.ofList s.word),
                  start.right (s.name ++ s.nameGap).length⟩
                rest := ⟨.segment, if s.rest = [] then none else some (String.ofList s.rest),
                  start.right (s.name ++ s.nameGap ++ s.word ++ s.wordGap).length⟩ } := by
  refine ⟨fun ht => by rw [ofSegment?, Token.stretch?, ht]; rfl, ?_, ?_⟩
  · intro n hn missing
    obtain ⟨s, name, gap, word?, gap', rest, -, -, hf, rfl⟩ := ofSegment?_eq_some_iff.1 hn
    obtain rfl : word? = none := Option.map_eq_none_iff.1 missing
    obtain ⟨rfl, -⟩ := hf.plain rfl
    simp [ofForm, Stretch.toOptionalToken]
  · intro payload ht text start
    let s : Stretch := ⟨payload.toList, t.position⟩
    have hs : t.stretch? = some s := Token.stretch?_eq_some_iff.2 ⟨by rw [ht, String.ofList_toList], rfl⟩
    have trimmed : s.trim.text = text := s.trim_text
    have he : EndsGap text := trimmed ▸ s.endsGap_trim
    have hn : NoTrailing text := trimmed ▸ s.noTrailing_trim
    refine ⟨?_, ?_, ?_⟩
    · rw [ofSegment?_eq_none_iff hs, ← trimmed, Stretch.trim_text_eq_nil_iff]
    · intro hne
      obtain ⟨parts, h⟩ := Split.exists_splits c hne he hn
      exact ⟨parts, h, fun parts' h' => h.unique h'⟩
    · intro parts h
      have read := ofSegment?_of_form h.form hs (by rw [trimmed, h.text_eq, Split.getD_word?])
      rw [read, ofForm, Split.getD_word?, Split.map_word?, Stretch.toOptionalToken_eq]
      rfl

/-- A directive word with nothing behind it, and a rest that opens with the bare sigil. -/
theorem ofSegment?_split_of_sigils :
    let s : Split := ⟨['n', ':'], [' '], [':', ':', 'é'], [], []⟩
    let s' : Split := ⟨['x'], [' ', ' '], [], [], [':', ' ', 'y']⟩
    s.Splits {} "n: ::é".toList ∧ s'.Splits {} "x  : y".toList ∧
      ofSegment? {} ⟨.segment, some "\tn: ::é ", ⟨"q", 1, 2⟩⟩ =
        some ⟨⟨.name, some "n:", ⟨"q", 1, 3⟩⟩, ⟨.keyword, some "::é", ⟨"q", 1, 6⟩⟩, ⟨.segment, none, ⟨"q", 1, 9⟩⟩⟩ ∧
      ofSegment? {} ⟨.segment, some "x  : y", ⟨"q", 1, 2⟩⟩ =
        some ⟨⟨.name, some "x", ⟨"q", 1, 2⟩⟩, ⟨.keyword, none, ⟨"q", 1, 5⟩⟩, ⟨.segment, some ": y", ⟨"q", 1, 5⟩⟩⟩ ∧
      ofSegment? {} ⟨.segment, none, ⟨"q", 1, 2⟩⟩ = none := by
  intro s s'
  have h : s.Splits {} "n: ::é".toList :=
    ⟨by decide, by decide, by decide, by decide, endsGap_nil,
      .inl ⟨by decide, ⟨[':', 'é'], by decide, rfl⟩, by decide, by decide⟩⟩
  have h' : s'.Splits {} "x  : y".toList := by
    refine ⟨by decide, by decide, by decide, by decide, by rintro _ ⟨⟩; decide, .inr ⟨rfl, rfl, by decide, ?_⟩⟩
    rintro - ⟨c, more, hc, e⟩
    cases e
    exact absurd hc (by decide)
  refine ⟨h, h', ?_, ?_, (ofSegment?_split {} ⟨.segment, none, ⟨"q", 1, 2⟩⟩).1 rfl⟩
  · obtain ⟨-, -, read⟩ := ofSegment?_split {} ⟨.segment, some "\tn: ::é ", ⟨"q", 1, 2⟩⟩
    exact ((read _ rfl).2.2 s h).trans (by decide)
  · obtain ⟨-, -, read⟩ := ofSegment?_split {} ⟨.segment, some "x  : y", ⟨"q", 1, 2⟩⟩
    exact ((read _ rfl).2.2 s' h').trans (by decide)

end Naming

end AnnotatedSql
