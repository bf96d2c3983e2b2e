import AnnotatedSql.Text.Words

/-!
# Gaps and words

What the cuts of `Words` find.  A gap is a run of blank characters, possibly empty; a word has no blank character
and at least one other.  A text opens with one gap or with one word of a given text only when nothing behind it
could be added, which `EndsGap` and `EndsWord` say of the text that follows.

* `blankWidth_append`, `wordWidth_append`: the widths of a gap and of a word in front of such a text;
* `directiveWidth?_eq_some_iff`: a directive word is found exactly where there is one;
* `directiveWidth?_isSome_iff`: whether there is one depends on two characters;
* `gap_unique`, `solid_unique`, `WordCut.unique`: a text is cut at its gaps in one way;
* `trimEnd_append`, `exists_trimEnd`: what is trimmed from the end is a gap, and it is all of it.
-/

namespace AnnotatedSql.Words

/-- Blank characters only. -/
def IsGap (text : List Char) : Prop := ∀ c ∈ text, isBlank c = true

/-- No blank character. -/
def IsSolid (text : List Char) : Prop := ∀ c ∈ text, isBlank c = false

/-- No blank character, and at least one other. -/
def IsWord (text : List Char) : Prop := text ≠ [] ∧ IsSolid text

/-- A word behind the sigil. -/
def IsDirective (sigil : Char) (text : List Char) : Prop := ∃ word, IsWord word ∧ text = sigil :: word

/-- The text opens with the sigil and a character that is not blank. -/
def OpensDirective (sigil : Char) (text : List Char) : Prop :=
  ∃ c more, isBlank c = false ∧ text = sigil :: c :: more

/-- A gap ends in front of the text: there is no blank character to add to it. -/
def EndsGap (text : List Char) : Prop := ∀ c ∈ text.head?, isBlank c = false

/-- A word ends in front of the text: there is nothing, or a blank character. -/
def EndsWord (text : List Char) : Prop := ∀ c ∈ text.head?, isBlank c = true

/-- The text does not end with a blank character. -/
def NoTrailing (text : List Char) : Prop := ∀ c ∈ text.getLast?, isBlank c = false

/-- The characters that are not blank, in order. -/
def ink (text : List Char) : List Char := text.filter fun c => !isBlank c

instance (text : List Char) : Decidable (IsGap text) := List.decidableBAll _ text

instance (text : List Char) : Decidable (IsSolid text) := List.decidableBAll _ text

instance (text : List Char) : Decidable (IsWord text) := inferInstanceAs (Decidable (_ ∧ _))

/-! ### Gaps, words and ink of joined texts -/

@[simp] theorem isGap_nil : IsGap [] := by simp [IsGap]

@[simp] theorem isGap_append {a b : List Char} : IsGap (a ++ b) ↔ IsGap a ∧ IsGap b := by
  simp [IsGap, or_imp, forall_and]

theorem isSolid_cons {c : Char} {text : List Char} : IsSolid (c :: text) ↔ isBlank c = false ∧ IsSolid text :=
  List.forall_mem_cons

@[simp] theorem ink_append (a b : List Char) : ink (a ++ b) = ink a ++ ink b := by simp [ink]

theorem IsGap.ink_eq {text : List Char} (h : IsGap text) : ink text = [] := by
  simp only [ink, List.filter_eq_nil_iff]
  intro c hc
  simp [h c hc]

theorem IsDirective.isWord {sigil : Char} {text : List Char} (h : IsDirective sigil text)
    (hs : isBlank sigil = false) : IsWord text := by
  obtain ⟨word, hw, rfl⟩ := h
  exact ⟨by simp, isSolid_cons.2 ⟨hs, hw.2⟩⟩

theorem endsGap_nil : EndsGap [] := by simp [EndsGap]

theorem endsWord_nil : EndsWord [] := by simp [EndsWord]

theorem IsWord.endsGap {word : List Char} (h : IsWord word) (text : List Char) : EndsGap (word ++ text) := by
  cases word with
  | nil => exact absurd rfl h.1
  | cons c word =>
    intro d hd
    cases hd
    exact h.2 c (by simp)

theorem IsGap.endsWord {gap : List Char} (h : IsGap gap) (hne : gap ≠ []) (text : List Char) :
    EndsWord (gap ++ text) := by
  cases gap with
  | nil => exact absurd rfl hne
  | cons c gap =>
    intro d hd
    cases hd
    exact h c (by simp)

theorem EndsGap.of_append {a b : List Char} (h : EndsGap (a ++ b)) : EndsGap a := by
  cases a with
  | nil => exact endsGap_nil
  | cons c a => exact h

theorem IsWord.endsGap_self {word : List Char} (h : IsWord word) : EndsGap word := (h.endsGap []).of_append

theorem EndsGap.append {a : List Char} (h : EndsGap a) (hne : a ≠ []) (b : List Char) : EndsGap (a ++ b) := by
  cases a with
  | nil => exact absurd rfl hne
  | cons c a => exact h

/-- A gap that ends in front of a directive word ends at the sigil. -/
theorem IsDirective.isBlank_sigil {sigil : Char} {word text : List Char} (h : IsDirective sigil word)
    (he : EndsGap (word ++ text)) : isBlank sigil = false := by
  obtain ⟨word, -, rfl⟩ := h
  exact he _ rfl

theorem EndsWord.eq_nil {text : List Char} (h : EndsWord text) (h' : EndsGap text) : text = [] := by
  cases text with
  | nil => rfl
  | cons c text => exact absurd ((h c rfl).symm.trans (h' c rfl)) (by decide)

theorem IsGap.eq_nil {text : List Char} (h : IsGap text) (h' : EndsGap text) : text = [] := by
  cases text with
  | nil => rfl
  | cons c text => exact absurd ((h c (by simp)).symm.trans (h' c rfl)) (by decide)

/-- A word ends at a gap that is missing only when nothing follows. -/
theorem endsWord_gap_iff {gap text : List Char} (h : IsGap gap) (he : EndsGap text) :
    EndsWord (gap ++ text) ↔ (gap = [] → text = []) := by
  constructor
  · rintro hw rfl
    exact EndsWord.eq_nil hw he
  · intro missing
    by_cases hne : gap = []
    · rw [hne, missing hne]
      exact endsWord_nil
    · exact h.endsWord hne text

theorem IsWord.noTrailing {word : List Char} (h : IsWord word) : NoTrailing word := by
  intro c hc
  exact h.2 c (List.mem_of_getLast? hc)

theorem NoTrailing.append {b : List Char} (h : NoTrailing b) (hne : b ≠ []) (a : List Char) :
    NoTrailing (a ++ b) := by
  intro c hc
  rw [List.getLast?_append, List.getLast?_eq_some_getLast hne, Option.some_or] at hc
  exact h c ((List.getLast?_eq_some_getLast hne).trans hc)

theorem NoTrailing.of_append {a b : List Char} (h : NoTrailing (a ++ b)) : NoTrailing b := by
  intro c hc
  refine h c ?_
  rw [List.getLast?_append, Option.mem_def.1 hc]
  rfl

theorem NoTrailing.drop {text : List Char} (h : NoTrailing text) (n : Nat) : NoTrailing (text.drop n) := by
  rw [← List.take_append_drop n text] at h
  exact h.of_append

theorem NoTrailing.eq_nil {text : List Char} (h : NoTrailing text) (hg : IsGap text) : text = [] := by
  rcases List.eq_nil_or_concat text with rfl | ⟨text, c, rfl⟩
  · rfl
  · have hc : isBlank c = false := h c (by simp)
    have hc' : isBlank c = true := hg c (by simp)
    exact absurd (hc.symm.trans hc') (by decide)

/-! ### Widths -/

theorem blankWidth_append {gap text : List Char} (h : IsGap gap) (he : EndsGap text) :
    blankWidth (gap ++ text) = gap.length := by
  rw [blankWidth, List.takeWhile_append_of_pos h]
  cases text with
  | nil => simp
  | cons c text => simp [he c rfl]

theorem wordWidth_append {word text : List Char} (h : IsSolid word) (he : EndsWord text) :
    wordWidth (word ++ text) = word.length := by
  rw [wordWidth, List.takeWhile_append_of_pos fun c hc => by simp [h c hc]]
  cases text with
  | nil => simp
  | cons c text => simp [he c rfl]

theorem exists_gap (text : List Char) : ∃ gap more, text = gap ++ more ∧ IsGap gap ∧ EndsGap more := by
  refine ⟨text.takeWhile isBlank, text.dropWhile isBlank, List.takeWhile_append_dropWhile.symm, ?_, ?_⟩
  · exact List.all_eq_true.1 List.all_takeWhile
  · intro c hc
    have := List.head?_dropWhile_not isBlank text
    rw [hc] at this
    simpa using this

theorem exists_solid (text : List Char) : ∃ word more, text = word ++ more ∧ IsSolid word ∧ EndsWord more := by
  refine ⟨text.takeWhile fun c => !isBlank c, text.dropWhile fun c => !isBlank c,
    List.takeWhile_append_dropWhile.symm, ?_, ?_⟩
  · intro c hc
    simpa using List.all_eq_true.1 List.all_takeWhile c hc
  · intro c hc
    have := List.head?_dropWhile_not (fun c => !isBlank c) text
    rw [hc] at this
    simpa using this

/-! ### Directive words -/

theorem directiveWidth?_append {sigil : Char} {word text : List Char} (h : IsDirective sigil word)
    (he : EndsWord text) : directiveWidth? sigil (word ++ text) = some word.length := by
  obtain ⟨word, hw, rfl⟩ := h
  have : word.length ≠ 0 := fun h0 => hw.1 (List.length_eq_zero_iff.1 h0)
  simp [directiveWidth?, wordWidth_append hw.2 he, this]

theorem directiveWidth?_eq_some_iff {sigil : Char} {text : List Char} {n : Nat} :
    directiveWidth? sigil text = some n ↔
      ∃ word more, text = word ++ more ∧ IsDirective sigil word ∧ EndsWord more ∧ n = word.length := by
  constructor
  · intro h
    cases text with
    | nil => cases h
    | cons c text =>
      -- the width counts the sigil and the run behind it, which must not be empty
      obtain ⟨word, more, rfl, hw, he⟩ := exists_solid text
      simp only [directiveWidth?, wordWidth_append hw he] at h
      split at h
      · rename_i hc
        have hne : word ≠ [] := fun h0 => hc.2 (by rw [h0]; rfl)
        exact ⟨c :: word, more, rfl, ⟨word, ⟨hne, hw⟩, by rw [hc.1]⟩, he, by simpa using h.symm⟩
      · cases h
  · rintro ⟨word, more, rfl, hw, he, rfl⟩
    exact directiveWidth?_append hw he

theorem directiveWidth?_isSome_iff {sigil : Char} {text : List Char} :
    (directiveWidth? sigil text).isSome ↔ OpensDirective sigil text := by
  constructor
  · intro h
    obtain ⟨n, hn⟩ := Option.isSome_iff_exists.1 h
    obtain ⟨_, more, rfl, ⟨word, hw, rfl⟩, -, -⟩ := directiveWidth?_eq_some_iff.1 hn
    cases word with
    | nil => exact absurd rfl hw.1
    | cons c word => exact ⟨c, word ++ more, hw.2 c (by simp), rfl⟩
  · rintro ⟨c, more, hc, rfl⟩
    simp [directiveWidth?, wordWidth, hc]

/-! ### Two ways to cut one text -/

/-- There is one gap in front of a text that opens with none. -/
theorem gap_unique {gap gap' text text' : List Char} (h : IsGap gap) (h' : IsGap gap') (he : EndsGap text)
    (he' : EndsGap text') (e : gap ++ text = gap' ++ text') : gap = gap' ∧ text = text' := by
  have hl := blankWidth_append h he
  rw [e, blankWidth_append h' he'] at hl
  exact List.append_inj e hl.symm

/-- There is one run without blanks in front of a text that does not go on with it. -/
theorem solid_unique {word word' text text' : List Char} (h : IsSolid word) (h' : IsSolid word') (he : EndsWord text)
    (he' : EndsWord text') (e : word ++ text = word' ++ text') : word = word' ∧ text = text' := by
  have hl := wordWidth_append h he
  rw [e, wordWidth_append h' he'] at hl
  exact List.append_inj e hl.symm

/-- The word that a text opens with, the gap behind it and what is left, each of the first two as long as it can be. -/
structure WordCut (word gap text : List Char) : Prop where
  isSolid : IsSolid word
  isGap : IsGap gap
  endsWord : EndsWord (gap ++ text)
  endsGap : EndsGap text

theorem WordCut.unique {word word' gap gap' text text' : List Char} (h : WordCut word gap text)
    (h' : WordCut word' gap' text') (e : word ++ (gap ++ text) = word' ++ (gap' ++ text')) :
    word = word' ∧ gap = gap' ∧ text = text' := by
  obtain ⟨hw, e⟩ := solid_unique h.isSolid h'.isSolid h.endsWord h'.endsWord e
  exact ⟨hw, gap_unique h.isGap h'.isGap h.endsGap h'.endsGap e⟩

/-- A text that does not end with a blank does not reach into the gap behind another one. -/
theorem prefix_of_append_gap {a more text gap : List Char} (e : a ++ more = text ++ gap) (hg : IsGap gap)
    (hn : NoTrailing a) : a <+: text := by
  rcases List.append_eq_append_iff.1 e with ⟨b, rfl, -⟩ | ⟨b, rfl, rfl⟩
  · exact List.prefix_append a b
  -- otherwise `a` ends with a part of the gap, which can only be empty
  · obtain rfl : b = [] := hn.of_append.eq_nil (isGap_append.1 hg).1
    simp

/-! ### The end of a text -/

theorem trimEnd_append {text gap : List Char} (h : NoTrailing text) (hg : IsGap gap) :
    trimEnd (text ++ gap) = text := by
  -- the end of a text is the start of its reverse
  have hr : ∀ c ∈ gap.reverse, isBlank c = true := fun c hc => hg c (List.mem_reverse.1 hc)
  rw [trimEnd, List.reverse_append, List.dropWhile_append_of_pos hr]
  rcases List.eq_nil_or_concat text with rfl | ⟨text, c, rfl⟩
  · rfl
  · have hc : isBlank c = false := h c (by simp)
    simp [hc]

theorem trimEnd_eq_self {text : List Char} (h : NoTrailing text) : trimEnd text = text := by
  simpa using trimEnd_append h isGap_nil

theorem exists_trimEnd (text : List Char) :
    ∃ gap, text = trimEnd text ++ gap ∧ IsGap gap ∧ NoTrailing (trimEnd text) := by
  obtain ⟨gap, more, hr, hg, he⟩ := exists_gap text.reverse
  have e : text = more.reverse ++ gap.reverse := by
    rw [← List.reverse_append, ← hr, List.reverse_reverse]
  have hg' : IsGap gap.reverse := fun c hc => hg c (List.mem_reverse.1 hc)
  have hm : NoTrailing more.reverse := by
    intro c hc
    rw [List.getLast?_reverse] at hc
    exact he c hc
  refine ⟨gap.reverse, ?_⟩
  rw [e, trimEnd_append hm hg']
  exact ⟨rfl, hg', hm⟩

end AnnotatedSql.Words
