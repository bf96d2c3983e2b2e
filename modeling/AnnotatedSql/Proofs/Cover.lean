import AnnotatedSql.Lexer
import AnnotatedSql.Proofs.Forms

/-!
# Coverings of a stretch

What the readers find in a stretch lies one behind the other in it, and what they leave out is blank: the parts
cover the stretch.  A covering keeps the characters that are not blank, and places its parts in order.

* `CoveredBy.ink_eq`: the parts hold the ink of the stretch, in order;
* `CoveredBy.pairwise`: no part reaches into a later one;
* `CoveredBy.within`: each part is cut out of the stretch, at the place that its position says;
* `CoveredBy.subst`: a part can be replaced by parts that cover it;
* `Config.lineToken_covers`, `Directive.ofComment?_covers`, `Directive.ofSegment?_covers`,
  `Naming.ofSegment?_covers`: a line is covered by its token, and a token by its parts.
-/

namespace AnnotatedSql

open Words

/-- The stretch of the payload; an absent payload is an empty stretch. -/
def Token.span (t : Token) : Stretch := ⟨t.payload?.elim [] String.toList, t.position⟩

namespace Stretch

/-- The parts lie one behind the other in the stretch, and what they leave out is blank. -/
inductive CoveredBy : Stretch → List Stretch → Prop
  | nil {s : Stretch} : IsGap s.text → CoveredBy s []
  | cons {s part : Stretch} {parts : List Stretch} (gap more : List Char) :
      IsGap gap → s.text = gap ++ (part.text ++ more) → part.position = s.position.right gap.length →
      CoveredBy ⟨more, part.position.right part.text.length⟩ parts → CoveredBy s (part :: parts)

/-- The first stretch ends where the second one starts, or to the left of that. -/
def Before (a b : Stretch) : Prop := a.position.column + a.text.length ≤ b.position.column

/-- The first stretch is cut out of the second one. -/
def Within (a s : Stretch) : Prop :=
  ∃ pre post, s.text = pre ++ (a.text ++ post) ∧ a.position = s.position.right pre.length

/-! ### Stretches within others -/

theorem Within.refl (s : Stretch) : s.Within s := ⟨[], [], by simp, by simp⟩

theorem Within.trans {a b s : Stretch} (h₁ : a.Within b) (h₂ : b.Within s) : a.Within s := by
  obtain ⟨pre₁, post₁, e₁, p₁⟩ := h₁
  obtain ⟨pre₂, post₂, e₂, p₂⟩ := h₂
  refine ⟨pre₂ ++ pre₁, post₁ ++ post₂, ?_, ?_⟩
  · rw [e₂, e₁]
    simp only [List.append_assoc]
  · rw [p₁, p₂, Position.right_right, List.length_append]

/-- A stretch cut out of another stands in the characters from its column on. -/
theorem Within.take_drop {a s : Stretch} (h : a.Within s) :
    (s.text.drop (a.position.offset - s.position.offset)).take a.text.length = a.text := by
  obtain ⟨pre, post, e, hp⟩ := h
  have : a.position.offset - s.position.offset = pre.length := by
    rw [hp]
    simp [Position.right]
  rw [this, e, List.drop_left, List.take_left]

theorem Within.offset_le {a s : Stretch} (h : a.Within s) :
    a.position.offset + a.text.length ≤ s.position.offset + s.text.length := by
  obtain ⟨pre, post, e, hp⟩ := h
  rw [hp, e]
  simp only [Position.right, List.length_append]
  omega

theorem Within.line_eq {a s : Stretch} (h : a.Within s) : a.position.line = s.position.line := by
  obtain ⟨_, _, -, hp⟩ := h
  rw [hp]
  rfl

theorem Within.source_eq {a s : Stretch} (h : a.Within s) : a.position.source = s.position.source := by
  obtain ⟨_, _, -, hp⟩ := h
  rw [hp]
  rfl

/-! ### What a covering keeps -/

theorem CoveredBy.ink_eq {s : Stretch} {parts : List Stretch} (h : s.CoveredBy parts) :
    ink (parts.flatMap Stretch.text) = ink s.text := by
  induction h with
  | nil hg => exact hg.ink_eq.symm
  | cons gap more hg e _ _ ih => rw [List.flatMap_cons, ink_append, ih, e, ink_append, ink_append, hg.ink_eq]; rfl

theorem CoveredBy.within {s part : Stretch} {parts : List Stretch} (h : s.CoveredBy parts)
    (hp : part ∈ parts) : part.Within s := by
  induction h with
  | nil => cases hp
  | @cons s first parts gap more _ e hq _ ih =>
    rcases List.mem_cons.1 hp with rfl | hp
    · exact ⟨gap, more, e, hq⟩
    · refine (ih hp).trans ⟨gap ++ first.text, [], ?_, ?_⟩
      · simp [e]
      · simp [hq]

theorem CoveredBy.pairwise {s : Stretch} {parts : List Stretch} (h : s.CoveredBy parts) :
    parts.Pairwise Before := by
  induction h with
  | nil => exact List.Pairwise.nil
  | cons gap more _ _ _ h ih =>
    refine List.Pairwise.cons ?_ ih
    -- the later parts are cut out of what stands behind the first one
    intro part hp
    obtain ⟨pre, _, -, e⟩ := h.within hp
    rw [Before, e, Position.right_right, Position.column_right]
    omega

/-! ### Coverings from coverings -/

theorem CoveredBy.pad {s : Stretch} {gap more : List Char} {parts : List Stretch} (hg : IsGap gap)
    (e : s.text = gap ++ more) (h : CoveredBy ⟨more, s.position.right gap.length⟩ parts) : s.CoveredBy parts := by
  cases h with
  | nil hm => exact .nil (by rw [e]; exact isGap_append.2 ⟨hg, hm⟩)
  | cons gap' more' hg' e' hp h =>
    refine .cons (gap ++ gap') more' (isGap_append.2 ⟨hg, hg'⟩) ?_ ?_ h
    · rw [e, show more = _ from e', List.append_assoc]
    · rw [hp, Position.right_right, List.length_append]

private theorem CoveredBy.join {part : Stretch} {parts : List Stretch} (h : part.CoveredBy parts) :
    ∀ {s : Stretch} {rest : List Stretch} (gap more : List Char), IsGap gap →
      s.text = gap ++ (part.text ++ more) → part.position = s.position.right gap.length →
      CoveredBy ⟨more, part.position.right part.text.length⟩ rest → s.CoveredBy (parts ++ rest) := by
  -- the gap in front of the part and the one that it opens with become one
  induction h with
  | @nil part hb =>
    intro s rest gap more hg e hp hr
    refine CoveredBy.pad (isGap_append.2 ⟨hg, hb⟩) (by rw [e, List.append_assoc]) ?_
    rwa [List.length_append, ← Position.right_right, ← hp]
  | @cons part first parts gap' more' hg' e' hp' _ ih =>
    intro s rest gap more hg e hp hr
    refine .cons (gap ++ gap') (more' ++ more) (isGap_append.2 ⟨hg, hg'⟩) ?_ ?_ ?_
    · rw [e, e']
      simp only [List.append_assoc]
    · rw [hp', hp, Position.right_right, List.length_append]
    · refine ih [] more isGap_nil rfl (by simp) ?_
      rw [hp', Position.right_right, Position.right_right]
      rw [e', List.length_append, List.length_append] at hr
      exact hr

theorem CoveredBy.subst {s part : Stretch} {parts rest : List Stretch} (before : List Stretch)
    (h : s.CoveredBy (before ++ part :: rest)) (hp : part.CoveredBy parts) :
    s.CoveredBy (before ++ (parts ++ rest)) := by
  induction before generalizing s with
  | nil =>
    cases h with
    | cons gap more hg e hq hr => exact hp.join gap more hg e hq hr
  | cons first before ih =>
    cases h with
    | cons gap more hg e hq hr => exact .cons gap more hg e hq (ih hr)

theorem trim_covers (s : Stretch) : s.CoveredBy [s.trim] := by
  obtain ⟨gap, gap', e, hp, hg, hg', -, -⟩ := s.exists_trim
  exact .cons gap gap' hg e hp (.nil hg')

theorem CoveredBy.of_trim {s : Stretch} {parts : List Stretch} (h : s.trim.CoveredBy parts) :
    s.CoveredBy parts := by
  simpa using s.trim_covers.subst [] h

/-! ### What the readers find -/

@[simp] theorem span_toToken (s : Stretch) (tag : Tag) : (s.toToken tag).span = s := by
  simp [toToken, Token.span]

@[simp] theorem span_toOptionalToken (s : Stretch) (tag : Tag) : (s.toOptionalToken tag).span = s := by
  obtain ⟨_ | ⟨c, text⟩, p⟩ := s <;> simp [toOptionalToken, Token.span]

end Stretch

theorem Token.span_of_payload {t : Token} {text : List Char} (h : t.payload? = some (String.ofList text)) :
    t.span = ⟨text, t.position⟩ := by
  simp [span, h]

theorem Token.span_of_stretch {t : Token} {s : Stretch} (h : t.stretch? = some s) : t.span = s := by
  obtain ⟨hp, e⟩ := stretch?_eq_some_iff.1 h
  rw [span_of_payload hp, ← e]

/-- A line is covered by its token. -/
theorem Config.lineToken_covers (c : Config) (line : Stretch) : line.CoveredBy [(c.lineToken line).span] := by
  rw [lineToken, Stretch.span_toToken]
  exact line.trim_covers

/-- A comment is covered by the marker and the parts of its directive. -/
theorem Directive.ofComment?_covers {c : Config} {t : Token} {d : Directive} (h : ofComment? c t = some d) :
    t.span.CoveredBy [⟨c.marker.toList, t.position⟩, d.keyword.span, d.rest.span] := by
  obtain ⟨lead, word, gap, rest, hf, ht, rfl⟩ := ofComment?_eq_some_iff.1 h
  have hk : (ofForm c t.position lead word gap rest).keyword.span =
      ⟨word, (t.position.right c.marker.toList.length).right lead.length⟩ := by
    simp [Token.span, ofForm]
  have hr : (ofForm c t.position lead word gap rest).rest.span =
      ⟨rest, (((t.position.right c.marker.toList.length).right lead.length).right word.length).right gap.length⟩ := by
    simp [Token.span, ofForm, Nat.add_assoc]
  rw [Token.span_of_payload ht, hk, hr]
  refine .cons [] _ isGap_nil rfl rfl ?_
  refine .cons lead _ hf.isGap_lead rfl rfl ?_
  refine .cons gap [] hf.isGap_gap (by simp) rfl ?_
  exact .nil isGap_nil

/-- A segment is covered by the parts of its directive. -/
theorem Directive.ofSegment?_covers {c : Config} {t : Token} {d : Directive} (h : ofSegment? c t = some d) :
    t.span.CoveredBy [d.keyword.span, d.rest.span] := by
  obtain ⟨s, word, rest, hs, e, -, -, -, rfl⟩ := ofSegment?_eq_some_iff.1 h
  rw [Token.span_of_stretch hs, Stretch.span_toToken, Stretch.span_toOptionalToken]
  refine Stretch.CoveredBy.of_trim (.cons [] rest isGap_nil e rfl ?_)
  refine .cons [] [] isGap_nil (by simp) rfl ?_
  exact .nil isGap_nil

namespace Naming

variable (p : Position) (name gap : List Char) (word? : Option (List Char)) (gap' rest : List Char)

@[simp] theorem span_name_ofForm : (ofForm p name gap word? gap' rest).name.span = ⟨name, p⟩ :=
  Stretch.span_toToken ⟨name, p⟩ .name

@[simp] theorem span_keyword_ofForm :
    (ofForm p name gap word? gap' rest).keyword.span = ⟨word?.getD [], p.right (name ++ gap).length⟩ := by
  cases word? <;> simp [Token.span, ofForm]

@[simp] theorem span_rest_ofForm : (ofForm p name gap word? gap' rest).rest.span =
    ⟨rest, p.right (name ++ gap ++ word?.getD [] ++ gap').length⟩ :=
  Stretch.span_toOptionalToken _ .segment

end Naming

/-- A segment is covered by the parts of its naming. -/
theorem Naming.ofSegment?_covers {c : Config} {t : Token} {n : Naming} (h : ofSegment? c t = some n) :
    t.span.CoveredBy [n.name.span, n.keyword.span, n.rest.span] := by
  obtain ⟨s, name, gap, word?, gap', rest, hs, e, hf, rfl⟩ := ofSegment?_eq_some_iff.1 h
  rw [Token.span_of_stretch hs, span_name_ofForm, span_keyword_ofForm, span_rest_ofForm]
  refine Stretch.CoveredBy.of_trim (.cons [] _ isGap_nil e rfl ?_)
  refine .cons gap _ hf.isGap rfl (by simp) ?_
  refine .cons gap' [] hf.isGap' (by simp) (by simp [Nat.add_assoc]) ?_
  exact .nil isGap_nil

end AnnotatedSql
