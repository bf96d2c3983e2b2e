import AnnotatedSql.Naming
import AnnotatedSql.Proofs.Words

/-!
# Forms of comments and segments

A comment or a segment that can be taken apart is put together from gaps and words in one way, its form.  The main
statements say that the readers accept exactly these forms, and which tokens they give:

* `Stretch.exists_trim`: a stretch is a gap, the trimmed stretch and a gap;
* `Directive.ofComment?_eq_some_iff`: comments that hold a directive;
* `Directive.ofSegment?_eq_some_iff`: segments that open with a directive;
* `Naming.ofSegment?_eq_some_iff`: segments that open with a name;
* `Naming.ofSegment?_eq_none_iff`: these are all that are not blank.
-/

namespace AnnotatedSql

open Words

/-! ### Cuts of a stretch -/

namespace Stretch

@[simp] theorem take_append (a b : List Char) (p : Position) :
    (⟨a ++ b, p⟩ : Stretch).take a.length = ⟨a, p⟩ := by
  simp [take]

@[simp] theorem drop_append (a b : List Char) (p : Position) :
    (⟨a ++ b, p⟩ : Stretch).drop a.length = ⟨b, p.right a.length⟩ := by
  simp [drop]

theorem trimStart_append {gap text : List Char} (h : IsGap gap) (he : EndsGap text) (p : Position) :
    (⟨gap ++ text, p⟩ : Stretch).trimStart = ⟨text, p.right gap.length⟩ := by
  rw [trimStart, blankWidth_append h he, drop_append]

theorem trim_append {gap text gap' : List Char} (h : IsGap gap) (he : EndsGap (text ++ gap'))
    (hn : NoTrailing text) (h' : IsGap gap') (p : Position) :
    (⟨gap ++ (text ++ gap'), p⟩ : Stretch).trim = ⟨text, p.right gap.length⟩ := by
  rw [trim, trimStart_append h he, trimEnd, trimEnd_append hn h']

theorem toOptionalToken_eq (s : Stretch) (tag : Tag) :
    s.toOptionalToken tag = ⟨tag, if s.text = [] then none else some (String.ofList s.text), s.position⟩ := by
  simp only [toOptionalToken, List.isEmpty_iff]

theorem toOptionalToken_getD {text? : Option (List Char)} (h : ∀ text ∈ text?, text ≠ []) (p : Position) (tag : Tag) :
    (⟨text?.getD [], p⟩ : Stretch).toOptionalToken tag = ⟨tag, text?.map String.ofList, p⟩ := by
  cases text? with
  | none => rfl
  | some text => simp [toOptionalToken, h text rfl]

theorem trim_eq_self {text : List Char} (he : EndsGap text) (hn : NoTrailing text) (p : Position) :
    (⟨text, p⟩ : Stretch).trim = ⟨text, p⟩ := by
  simpa using trim_append isGap_nil (by simpa using he) hn isGap_nil p

theorem trim_of_isWord {word : List Char} (h : IsWord word) (p : Position) :
    (⟨word, p⟩ : Stretch).trim = ⟨word, p⟩ :=
  trim_eq_self h.endsGap_self h.noTrailing p

theorem exists_trim (s : Stretch) :
    ∃ gap gap', s.text = gap ++ (s.trim.text ++ gap') ∧ s.trim.position = s.position.right gap.length ∧
      IsGap gap ∧ IsGap gap' ∧ EndsGap (s.trim.text ++ gap') ∧ NoTrailing s.trim.text := by
  obtain ⟨text, p⟩ := s
  obtain ⟨gap, more, rfl, hg, he⟩ := exists_gap text
  obtain ⟨gap', e, hg', hn⟩ := exists_trimEnd more
  rw [e] at he
  have ht := trim_append hg he hn hg' p
  rw [← e] at ht he
  refine ⟨gap, gap', ?_⟩
  rw [ht, ← e]
  exact ⟨rfl, rfl, hg, hg', he, hn⟩

theorem endsGap_trim (s : Stretch) : EndsGap s.trim.text := by
  obtain ⟨_, _, -, -, -, -, he, -⟩ := s.exists_trim
  exact he.of_append

theorem noTrailing_trim (s : Stretch) : NoTrailing s.trim.text := by
  obtain ⟨_, _, -, -, -, -, -, hn⟩ := s.exists_trim
  exact hn

/-- Nothing is left of a stretch exactly when it is blank. -/
theorem trim_text_eq_nil_iff {s : Stretch} : s.trim.text = [] ↔ IsGap s.text := by
  obtain ⟨gap, gap', e, -, hg, hg', -, -⟩ := s.exists_trim
  constructor
  · intro h
    rw [e, h]
    exact isGap_append.2 ⟨hg, hg'⟩
  · intro h
    rw [e, isGap_append, isGap_append] at h
    exact h.2.1.eq_nil s.endsGap_trim

/-- The trimmed stretch opens with a text without blanks at its ends exactly when the stretch does so behind a
gap. -/
theorem prefix_trim_iff {s : Stretch} {a : List Char} (hne : a ≠ []) (he : EndsGap a) (hn : NoTrailing a) :
    a <+: s.trim.text ↔ ∃ gap more, IsGap gap ∧ s.text = gap ++ (a ++ more) := by
  obtain ⟨gap, gap', e, -, hg, hg', he', -⟩ := s.exists_trim
  constructor
  · rintro ⟨more, hm⟩
    exact ⟨gap, more ++ gap', hg, by rw [e, ← hm, List.append_assoc]⟩
  · rintro ⟨lead, more, hl, e'⟩
    obtain ⟨-, e''⟩ := gap_unique hl hg (he.append hne more) he' (e'.symm.trans e)
    exact prefix_of_append_gap e'' hg' hn

end Stretch

theorem Token.stretch?_eq_some_iff {t : Token} {s : Stretch} :
    t.stretch? = some s ↔ t.payload? = some (String.ofList s.text) ∧ s.position = t.position := by
  obtain ⟨text, p⟩ := s
  simp only [stretch?, Option.map_eq_some_iff, Stretch.mk.injEq]
  constructor
  · rintro ⟨payload, hp, rfl, rfl⟩
    exact ⟨by rw [hp, String.ofList_toList], rfl⟩
  · rintro ⟨hp, rfl⟩
    exact ⟨_, hp, String.toList_ofList, rfl⟩

theorem guard_eq (p : Prop) [Decidable p] : (guard p : Option Unit) = if p then some () else none := rfl

/-! ### Comments -/

namespace Directive

/-- What stands behind the marker of a comment that holds a directive: a gap, the directive word, a gap and the
rest. -/
structure CommentForm (c : Config) (lead word gap rest : List Char) : Prop where
  sigil : isBlank c.sigil = false
  isGap_lead : IsGap lead
  isDirective : IsDirective c.sigil word
  isGap_gap : IsGap gap
  endsWord : EndsWord (gap ++ rest)
  endsGap : EndsGap rest

def ofForm (c : Config) (p : Position) (lead word gap rest : List Char) : Directive where
  keyword := ⟨.keyword, some (String.ofList word), p.right (c.marker.toList ++ lead).length⟩
  rest := ⟨.segment, some (String.ofList rest), p.right (c.marker.toList ++ lead ++ word ++ gap).length⟩

/-- Behind its marker a comment opens with a gap and then with the directive word, if it holds one. -/
theorem ofComment?_of_marker {c : Config} {t : Token} {text : List Char} {body : Stretch}
    (ht : t.stretch? = some ⟨c.marker.toList ++ text, t.position⟩)
    (hb : body = (⟨text, t.position.right c.marker.toList.length⟩ : Stretch).trimStart) :
    ofComment? c t = (directiveWidth? c.sigil body.text).map fun width =>
      ⟨(body.take width).toToken .keyword, (body.drop width).trimStart.toToken .segment⟩ := by
  have hm : c.marker.toList.isPrefixOf (c.marker.toList ++ text) := by simp
  simp only [ofComment?, ht, Option.bind_eq_bind, Option.bind_some, ↓guard_eq, if_pos hm, Stretch.drop_append, ← hb]
  cases directiveWidth? c.sigil body.text <;> rfl

theorem ofComment?_of_form {c : Config} {t : Token} {lead word gap rest : List Char}
    (h : CommentForm c lead word gap rest)
    (ht : t.payload? = some (String.ofList (c.marker.toList ++ (lead ++ (word ++ (gap ++ rest)))))) :
    ofComment? c t = some (ofForm c t.position lead word gap rest) := by
  have hs : t.stretch? = some ⟨c.marker.toList ++ (lead ++ (word ++ (gap ++ rest))), t.position⟩ :=
    Token.stretch?_eq_some_iff.2 ⟨ht, rfl⟩
  have hw : EndsGap (word ++ (gap ++ rest)) := (h.isDirective.isWord h.sigil).endsGap _
  simp [ofComment?, hs, ↓guard_eq, Stretch.trimStart_append h.isGap_lead hw,
    directiveWidth?_append h.isDirective h.endsWord, Stretch.trimStart_append h.isGap_gap h.endsGap,
    Stretch.toToken, ofForm, Nat.add_assoc]

/-- A comment holds a directive exactly when it is the marker and a form behind it. -/
theorem ofComment?_eq_some_iff {c : Config} {t : Token} {d : Directive} :
    ofComment? c t = some d ↔
      ∃ lead word gap rest, CommentForm c lead word gap rest ∧
        t.payload? = some (String.ofList (c.marker.toList ++ (lead ++ (word ++ (gap ++ rest))))) ∧
        d = ofForm c t.position lead word gap rest := by
  constructor
  · intro h
    obtain ⟨⟨text, p⟩, hs, h'⟩ := Option.bind_eq_some_iff.1 h
    obtain ⟨_, hm, h'⟩ := Option.bind_eq_some_iff.1 h'
    obtain ⟨n, hn, -⟩ := Option.bind_eq_some_iff.1 h'
    obtain ⟨more, rfl⟩ : c.marker.toList <+: text := by simpa [↓guard_eq] using hm
    obtain ⟨lead, body, rfl, hl, he⟩ := exists_gap more
    rw [Stretch.drop_append, Stretch.trimStart_append hl he] at hn
    obtain ⟨word, more, rfl, hw, hew, -⟩ := directiveWidth?_eq_some_iff.1 hn
    obtain ⟨gap, rest, rfl, hg, heg⟩ := exists_gap more
    have hsigil : isBlank c.sigil = false := hw.isBlank_sigil he
    have hf : CommentForm c lead word gap rest := ⟨hsigil, hl, hw, hg, hew, heg⟩
    have ht := (Token.stretch?_eq_some_iff.1 hs).1
    -- what the reader gives for the form is what it gave
    exact ⟨lead, word, gap, rest, hf, ht, Option.some.inj (h.symm.trans (ofComment?_of_form hf ht))⟩
  · rintro ⟨lead, word, gap, rest, hf, ht, rfl⟩
    exact ofComment?_of_form hf ht

theorem isSome_ofComment?_iff {c : Config} {t : Token} {text : List Char}
    (ht : t.payload? = some (String.ofList text)) :
    (ofComment? c t).isSome ↔ isBlank c.sigil = false ∧
      ∃ lead x, IsGap lead ∧ isBlank x = false ∧ c.marker.toList ++ (lead ++ [c.sigil, x]) <+: text := by
  constructor
  · intro h
    obtain ⟨d, hd⟩ := Option.isSome_iff_exists.1 h
    obtain ⟨lead, word, gap, rest, hf, ht', -⟩ := ofComment?_eq_some_iff.1 hd
    obtain rfl := String.ofList_injective (Option.some.inj (ht.symm.trans ht'))
    obtain ⟨word, hw, rfl⟩ := hf.isDirective
    cases word with
    | nil => exact absurd rfl hw.1
    | cons x word => exact ⟨hf.sigil, lead, x, hf.isGap_lead, hw.2 x (by simp), word ++ (gap ++ rest), by simp⟩
  · rintro ⟨hsigil, lead, x, hl, hx, more, rfl⟩
    -- the word goes on up to the next blank, and the rest starts behind the gap there
    obtain ⟨word, more, rfl, hw, he⟩ := exists_solid more
    obtain ⟨gap, rest, rfl, hg, heg⟩ := exists_gap more
    have hf : CommentForm c lead (c.sigil :: x :: word) gap rest :=
      ⟨hsigil, hl, ⟨x :: word, ⟨by simp, isSolid_cons.2 ⟨hx, hw⟩⟩, rfl⟩, hg, he, heg⟩
    rw [ofComment?_of_form hf (by rw [ht]; simp)]
    rfl

/-! ### Segments that open with a directive -/

/-- A segment opens with a directive exactly when it does so behind the gap at its start; the rest is all that
follows the word. -/
theorem ofSegment?_eq_some_iff {c : Config} {t : Token} {d : Directive} :
    ofSegment? c t = some d ↔
      ∃ s word rest, t.stretch? = some s ∧ s.trim.text = word ++ rest ∧ isBlank c.sigil = false ∧
        IsDirective c.sigil word ∧ EndsWord rest ∧
        d = ⟨(⟨word, s.trim.position⟩ : Stretch).toToken .keyword,
          (⟨rest, s.trim.position.right word.length⟩ : Stretch).toOptionalToken .segment⟩ := by
  constructor
  · intro h
    obtain ⟨s, hs, h⟩ := Option.bind_eq_some_iff.1 h
    obtain ⟨n, hn, h⟩ := Option.bind_eq_some_iff.1 h
    obtain ⟨word, rest, e, hw, he, rfl⟩ := directiveWidth?_eq_some_iff.1 hn
    have hsigil : isBlank c.sigil = false := hw.isBlank_sigil (e ▸ s.endsGap_trim)
    have e' : s.trim = ⟨word ++ rest, s.trim.position⟩ := by rw [← e]
    rw [e', Stretch.take_append, Stretch.drop_append] at h
    exact ⟨s, word, rest, hs, e, hsigil, hw, he, (Option.some.inj h).symm⟩
  · rintro ⟨s, word, rest, hs, e, -, hw, he, rfl⟩
    have e' : s.trim = ⟨word ++ rest, s.trim.position⟩ := by rw [← e]
    refine Option.bind_eq_some_iff.2 ⟨s, hs, Option.bind_eq_some_iff.2 ⟨word.length, ?_, ?_⟩⟩
    · rw [e, directiveWidth?_append hw he]
    · rw [e', Stretch.take_append, Stretch.drop_append]
      rfl

/-- A directive word is a directive without a rest. -/
theorem ofSegment?_word {c : Config} {word : List Char} (h : IsDirective c.sigil word)
    (hs : isBlank c.sigil = false) (tag : Tag) (p : Position) :
    ofSegment? c ⟨tag, some (String.ofList word), p⟩ =
      some ⟨⟨.keyword, some (String.ofList word), p⟩, ⟨.segment, none, p.right word.length⟩⟩ := by
  have ht := Stretch.trim_of_isWord (h.isWord hs) p
  refine ofSegment?_eq_some_iff.2 ⟨⟨word, p⟩, word, [], Token.stretch?_eq_some_iff.2 ⟨rfl, rfl⟩, ?_, hs, h,
    endsWord_nil, ?_⟩
  · rw [ht, List.append_nil]
  · rw [ht]
    rfl

end Directive

/-! ### Segments that open with a name -/

namespace Naming

/-- How a segment with a name is put together: the name, a gap, a directive word or none, a gap and the rest.
Without a directive word there is only one gap, and the rest does not open with a directive word either. -/
structure Form (c : Config) (name gap : List Char) (word? : Option (List Char)) (gap' rest : List Char) :
    Prop where
  isWord : IsWord name
  isGap : IsGap gap
  endsName : EndsWord (gap ++ (word?.getD [] ++ (gap' ++ rest)))
  isGap' : IsGap gap'
  endsGap : EndsGap rest
  keyword : ∀ word ∈ word?, isBlank c.sigil = false ∧ IsDirective c.sigil word ∧ EndsWord (gap' ++ rest)
  plain : word? = none → gap' = [] ∧ ¬OpensDirective c.sigil rest

def ofForm (p : Position) (name gap : List Char) (word? : Option (List Char)) (gap' rest : List Char) : Naming where
  name := (⟨name, p⟩ : Stretch).toToken .name
  keyword := ⟨.keyword, word?.map String.ofList, p.right (name ++ gap).length⟩
  rest := (⟨rest, p.right (name ++ gap ++ word?.getD [] ++ gap').length⟩ : Stretch).toOptionalToken .segment

/-- The name is the first word; what follows the gap behind it decides about the rest. -/
private theorem ofSegment?_of_name {c : Config} {t : Token} {s : Stretch} {name gap follow : List Char}
    (hs : t.stretch? = some s) (e : s.trim.text = name ++ (gap ++ follow)) (hn : IsWord name)
    (hg : IsGap gap) (hew : EndsWord (gap ++ follow)) (heg : EndsGap follow) :
    ofSegment? c t = some
      (let tail : Stretch := ⟨follow, s.trim.position.right (name ++ gap).length⟩
      match directiveWidth? c.sigil follow with
      | some width =>
        ⟨(⟨name, s.trim.position⟩ : Stretch).toToken .name, (tail.take width).toToken .keyword,
          (tail.drop width).trimStart.toOptionalToken .segment⟩
      | none =>
        ⟨(⟨name, s.trim.position⟩ : Stretch).toToken .name, ⟨.keyword, none, tail.position⟩,
          tail.toOptionalToken .segment⟩) := by
  have e' : s.trim = ⟨name ++ (gap ++ follow), s.trim.position⟩ := by rw [← e]
  have hne : name ≠ [] := hn.1
  simp only [ofSegment?, hs, ↓guard_eq, Option.bind_eq_bind, Option.bind_some]
  rw [e']
  simp only [wordWidth_append hn.2 hew, Stretch.take_append, Stretch.drop_append,
    Stretch.trimStart_append hg heg, Position.right_right, List.length_append]
  cases directiveWidth? c.sigil follow <;> simp [hne]

theorem ofSegment?_of_form {c : Config} {t : Token} {s : Stretch} {name gap : List Char}
    {word? : Option (List Char)} {gap' rest : List Char} (hf : Form c name gap word? gap' rest)
    (hs : t.stretch? = some s) (e : s.trim.text = name ++ (gap ++ (word?.getD [] ++ (gap' ++ rest)))) :
    ofSegment? c t = some (ofForm s.trim.position name gap word? gap' rest) := by
  cases word? with
  | none =>
    obtain ⟨rfl, hd⟩ := hf.plain rfl
    have hd' : directiveWidth? c.sigil rest = none := by
      rw [← Option.not_isSome_iff_eq_none, directiveWidth?_isSome_iff]
      exact hd
    rw [ofSegment?_of_name hs e hf.isWord hf.isGap hf.endsName hf.endsGap]
    simp [hd', ofForm]
  | some word =>
    obtain ⟨hsigil, hw, he⟩ := hf.keyword word rfl
    rw [ofSegment?_of_name hs e hf.isWord hf.isGap hf.endsName ((hw.isWord hsigil).endsGap _)]
    simp [directiveWidth?_append hw he, Stretch.trimStart_append hf.isGap' hf.endsGap, ofForm,
      Stretch.toToken, Nat.add_assoc]

/-- Every text that is not empty and opens with no gap is of one of the forms. -/
theorem exists_form (c : Config) {text : List Char} (hne : text ≠ []) (he : EndsGap text) :
    ∃ name gap word? gap' rest, text = name ++ (gap ++ (Option.getD word? [] ++ (gap' ++ rest))) ∧
      Form c name gap word? gap' rest := by
  obtain ⟨name, more, rfl, hn, hew⟩ := exists_solid text
  obtain ⟨gap, follow, rfl, hg, heg⟩ := exists_gap more
  have hname : IsWord name := by
    refine ⟨?_, hn⟩
    rintro rfl
    exact hne (hew.eq_nil he)
  cases hd : directiveWidth? c.sigil follow with
  | none =>
    have hplain : ¬OpensDirective c.sigil follow := by
      rw [← directiveWidth?_isSome_iff, hd]
      simp
    exact ⟨name, gap, none, [], follow, rfl, hname, hg, hew, isGap_nil, heg, by simp, fun _ => ⟨rfl, hplain⟩⟩
  | some n =>
    obtain ⟨word, more, rfl, hw, hew', -⟩ := directiveWidth?_eq_some_iff.1 hd
    obtain ⟨gap', rest, rfl, hg', heg'⟩ := exists_gap more
    have hsigil : isBlank c.sigil = false := hw.isBlank_sigil heg
    refine ⟨name, gap, some word, gap', rest, rfl, hname, hg, hew, hg', heg', ?_, by simp⟩
    rintro _ ⟨⟩
    exact ⟨hsigil, hw, hew'⟩

private theorem ofSegment?_eq_none_of_blank {c : Config} {t : Token} {s : Stretch} (hs : t.stretch? = some s)
    (h : s.trim.text = []) : ofSegment? c t = none := by
  simp [ofSegment?, hs, h, wordWidth, ↓guard_eq]

/-- A segment has a name exactly when it is of one of the forms, gaps at its ends aside. -/
theorem ofSegment?_eq_some_iff {c : Config} {t : Token} {n : Naming} :
    ofSegment? c t = some n ↔
      ∃ s name gap word? gap' rest, t.stretch? = some s ∧
        s.trim.text = name ++ (gap ++ (Option.getD word? [] ++ (gap' ++ rest))) ∧
        Form c name gap word? gap' rest ∧ n = ofForm s.trim.position name gap word? gap' rest := by
  constructor
  · intro h
    obtain ⟨s, hs, -⟩ := Option.bind_eq_some_iff.1 h
    by_cases hne : s.trim.text = []
    · rw [ofSegment?_eq_none_of_blank hs hne] at h
      cases h
    · obtain ⟨name, gap, word?, gap', rest, e, hf⟩ := exists_form c hne s.endsGap_trim
      exact ⟨s, name, gap, word?, gap', rest, hs, e, hf,
        Option.some.inj (h.symm.trans (ofSegment?_of_form hf hs e))⟩
  · rintro ⟨s, name, gap, word?, gap', rest, hs, e, hf, rfl⟩
    exact ofSegment?_of_form hf hs e

/-- Only a blank segment has no name. -/
theorem ofSegment?_eq_none_iff {c : Config} {t : Token} {s : Stretch} (hs : t.stretch? = some s) :
    ofSegment? c t = none ↔ IsGap s.text := by
  rw [← Stretch.trim_text_eq_nil_iff]
  constructor
  · intro h
    by_cases hne : s.trim.text = []
    · exact hne
    · obtain ⟨name, gap, word?, gap', rest, e, hf⟩ := exists_form c hne s.endsGap_trim
      rw [ofSegment?_of_form hf hs e] at h
      cases h
  · exact ofSegment?_eq_none_of_blank hs

end Naming

end AnnotatedSql
