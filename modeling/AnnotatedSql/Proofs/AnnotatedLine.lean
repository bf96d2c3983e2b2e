import AnnotatedSql.Proofs.LineTokens
import AnnotatedSql.Proofs.RawLine

/-!
# Annotations in writing

An annotation is written on a line of its own: the marker, a directive word, a name, perhaps a second directive word
and perhaps a rest, with gaps between them.  Reading the line gives back what was written, each part at its place
(`read_annotatedLine`).
-/

namespace AnnotatedSql

open Words

/-- An annotation and the gaps that it is written with, in the order in which they stand on the line.  The marker
stands between `indent` and `lead`. -/
structure AnnotatedLine where
  indent : List Char
  lead : List Char
  keyword : List Char
  nameGap : List Char
  name : List Char
  followGap : List Char
  second? : Option (List Char)
  restGap : List Char
  rest? : Option (List Char)
  trail : List Char

namespace AnnotatedLine

/-! ### What is written in front of each part, or of the place where it would stand -/

def beforeKeyword (c : Config) (a : AnnotatedLine) : List Char := a.indent ++ c.marker.toList ++ a.lead

def beforeName (c : Config) (a : AnnotatedLine) : List Char := a.beforeKeyword c ++ a.keyword ++ a.nameGap

def beforeSecond (c : Config) (a : AnnotatedLine) : List Char := a.beforeName c ++ a.name ++ a.followGap

def beforeRest (c : Config) (a : AnnotatedLine) : List Char := a.beforeSecond c ++ a.second?.getD [] ++ a.restGap

/-- The line as it is written. -/
def line (c : Config) (a : AnnotatedLine) : List Char := a.beforeRest c ++ a.rest?.getD [] ++ a.trail

/-- The parts are what they are called, and gaps stand between them and nowhere else.  A rest that follows the name
must not look like a second directive word. -/
structure WellFormed (c : Config) (a : AnnotatedLine) : Prop where
  isGap : ∀ gap ∈ [a.indent, a.lead, a.nameGap, a.followGap, a.restGap, a.trail], IsGap gap
  keyword : IsDirective c.sigil a.keyword
  name : IsWord a.name
  second : ∀ word ∈ a.second?, IsDirective c.sigil word
  rest : ∀ text ∈ a.rest?, text ≠ [] ∧ EndsGap text ∧ NoTrailing text
  plain : a.second? = none → ∀ text ∈ a.rest?, ¬OpensDirective c.sigil text
  nameGap_ne_nil : a.nameGap ≠ []
  followGap_eq_nil_iff : a.followGap = [] ↔ a.second? = none ∧ a.rest? = none
  restGap_eq_nil_iff : a.restGap = [] ↔ a.second? = none ∨ a.rest? = none

/-- What follows the name. -/
def follow (a : AnnotatedLine) : List Char := a.second?.getD [] ++ (a.restGap ++ a.rest?.getD [])

/-- What follows the first directive word and the gap behind it. -/
def body (a : AnnotatedLine) : List Char := a.name ++ (a.followGap ++ a.follow)

theorem line_eq (c : Config) (a : AnnotatedLine) :
    a.line c =
      a.indent ++ (c.marker.toList ++ (a.lead ++ (a.keyword ++ (a.nameGap ++ a.body))) ++ a.trail) := by
  simp [line, beforeRest, beforeSecond, beforeName, beforeKeyword, body, follow]

namespace WellFormed

variable {c : Config} {a : AnnotatedLine}

theorem endsWord_restGap (h : a.WellFormed c) : EndsWord (a.restGap ++ a.rest?.getD []) ∨ a.second? = none := by
  by_cases hne : a.restGap = []
  · rcases h.restGap_eq_nil_iff.1 hne with hs | hr
    · exact .inr hs
    · left
      rw [hne, hr]
      exact endsWord_nil
  · exact .inl ((h.isGap a.restGap (by simp)).endsWord hne _)

theorem endsWord_followGap (h : a.WellFormed c) : EndsWord (a.followGap ++ a.follow) := by
  by_cases hne : a.followGap = []
  · obtain ⟨hs, hr⟩ := h.followGap_eq_nil_iff.1 hne
    rw [hne, follow, hs, hr, h.restGap_eq_nil_iff.2 (.inl hs)]
    exact endsWord_nil
  · exact (h.isGap a.followGap (by simp)).endsWord hne _

theorem endsGap_rest (h : a.WellFormed c) : EndsGap (a.rest?.getD []) := by
  cases hr : a.rest? with
  | none => exact endsGap_nil
  | some rest => exact (h.rest rest hr).2.1

theorem noTrailing_body (h : a.WellFormed c) (hs : isBlank c.sigil = false) : NoTrailing a.body := by
  -- the body ends with the rest, with the second directive word or with the name
  cases hr : a.rest? with
  | some rest =>
    obtain ⟨hne, -, hn⟩ := h.rest rest hr
    have := hn.append hne (a.name ++ (a.followGap ++ (a.second?.getD [] ++ a.restGap)))
    simpa [body, follow, hr] using this
  | none =>
    have hg : a.restGap = [] := h.restGap_eq_nil_iff.2 (.inr hr)
    cases hk : a.second? with
    | some word =>
      have hw := (h.second word hk).isWord hs
      have := hw.noTrailing.append hw.1 (a.name ++ a.followGap)
      simpa [body, follow, hr, hg, hk] using this
    | none =>
      have hf : a.followGap = [] := h.followGap_eq_nil_iff.2 ⟨hk, hr⟩
      simpa [body, follow, hr, hg, hk, hf] using h.name.noTrailing

theorem commentForm (h : a.WellFormed c) (hs : isBlank c.sigil = false) :
    Directive.CommentForm c a.lead a.keyword a.nameGap a.body where
  sigil := hs
  isGap_lead := h.isGap a.lead (by simp)
  isDirective := h.keyword
  isGap_gap := h.isGap a.nameGap (by simp)
  endsWord := (h.isGap a.nameGap (by simp)).endsWord h.nameGap_ne_nil _
  endsGap := h.name.endsGap _

theorem namingForm (h : a.WellFormed c) (hs : isBlank c.sigil = false) :
    Naming.Form c a.name a.followGap a.second? a.restGap (a.rest?.getD []) where
  isWord := h.name
  isGap := h.isGap a.followGap (by simp)
  endsName := h.endsWord_followGap
  isGap' := h.isGap a.restGap (by simp)
  endsGap := h.endsGap_rest
  keyword := by
    intro word hw
    refine ⟨hs, h.second word hw, ?_⟩
    rcases h.endsWord_restGap with he | hn
    · exact he
    · rw [hn] at hw
      cases hw
  plain := by
    intro hn
    refine ⟨h.restGap_eq_nil_iff.2 (.inl hn), ?_⟩
    cases hr : a.rest? with
    | none => rintro ⟨x, more, -, e⟩; cases e
    | some rest => exact h.plain hn rest hr

end WellFormed

/-- The comment that the line becomes: all but the gaps at its ends. -/
def commentText (c : Config) (a : AnnotatedLine) : List Char :=
  c.marker.toList ++ (a.lead ++ (a.keyword ++ (a.nameGap ++ a.body)))

theorem lineToken_line {c : Config} (valid : c.validate = .ok c) {a : AnnotatedLine} (h : a.WellFormed c)
    (p : Position) :
    c.lineToken ⟨a.line c, p⟩ = ⟨.comment, some (String.ofList (a.commentText c)), p.right a.indent.length⟩ := by
  have hm := Config.isWord_marker valid
  have hb : a.body ≠ [] := by simp [body, h.name.1]
  have hn : NoTrailing (a.commentText c) := by
    have := (h.noTrailing_body (Config.isBlank_sigil valid)).append hb
      (c.marker.toList ++ (a.lead ++ (a.keyword ++ a.nameGap)))
    simpa [commentText] using this
  have he : EndsGap (a.commentText c ++ a.trail) := by
    rw [commentText, List.append_assoc]
    exact hm.endsGap _
  have ht : (⟨a.line c, p⟩ : Stretch).trim = ⟨a.commentText c, p.right a.indent.length⟩ := by
    rw [line_eq]
    exact Stretch.trim_append (h.isGap a.indent (by simp)) he hn (h.isGap a.trail (by simp)) p
  have hp : c.marker.toList.isPrefixOf (a.commentText c) := by simp [commentText]
  rw [Config.lineToken, ht, if_pos hp]
  rfl

theorem ofSegment?_body {c : Config} (hs : isBlank c.sigil = false) {a : AnnotatedLine} (h : a.WellFormed c)
    (p : Position) :
    Naming.ofSegment? c ⟨.segment, some (String.ofList a.body), p⟩ =
      some ⟨⟨.name, some (String.ofList a.name), p⟩,
        ⟨.keyword, a.second?.map String.ofList, p.right (a.name ++ a.followGap).length⟩,
        ⟨.segment, a.rest?.map String.ofList,
          p.right (a.name ++ a.followGap ++ a.second?.getD [] ++ a.restGap).length⟩⟩ := by
  have ht : (⟨a.body, p⟩ : Stretch).trim = ⟨a.body, p⟩ :=
    Stretch.trim_eq_self (h.name.endsGap _) (h.noTrailing_body hs) p
  have hn := Naming.ofSegment?_of_form (h.namingForm hs)
    (Token.stretch?_eq_some_iff.2 ⟨rfl, rfl⟩ :
      (⟨.segment, some (String.ofList a.body), p⟩ : Token).stretch? = some ⟨a.body, p⟩) (by rw [ht]; rfl)
  rw [hn, ht, Naming.ofForm, Stretch.toOptionalToken_getD fun text hr => (h.rest text hr).1]
  rfl

end AnnotatedLine

/-- An annotation on a line of a source is read back as it was written: the line becomes a comment, its directive is
the directive word, and what follows is a naming with the name, the second directive word and the rest, each at the
place where it was written.  A part that is missing is absent, at the place where it would stand. -/
theorem read_annotatedLine {config : Config} (valid : config.validate = .ok config) {a : AnnotatedLine}
    (ha : a.WellFormed config) {source : String} (start : Position) {i : Nat}
    (hl : (Lines.cut source.toList)[i]? = some (a.line config)) :
    ∃ comment directive naming,
      let place (before : List Char) : Position :=
        .ofColumn start.source (start.line + (i + 1)) (1 + before.length)
      (lex source start config).value[i]? = some comment ∧ comment.tag = .comment ∧
        comment.position = place a.indent ∧
        Directive.ofComment? config comment = some directive ∧
        directive.keyword = ⟨.keyword, some (String.ofList a.keyword), place (a.beforeKeyword config)⟩ ∧
        Naming.ofSegment? config directive.rest = some naming ∧
        naming.name = ⟨.name, some (String.ofList a.name), place (a.beforeName config)⟩ ∧
        naming.keyword = ⟨.keyword, a.second?.map String.ofList, place (a.beforeSecond config)⟩ ∧
        naming.rest = ⟨.segment, a.rest?.map String.ofList, place (a.beforeRest config)⟩ := by
  have hs := Config.isBlank_sigil valid
  -- a place behind the indent, as the readers reach it
  have place (columns : Nat) (before : List Char) (e : a.indent.length + columns = before.length) :
      ((start.down (i + 1)).right a.indent.length).right columns =
        .ofColumn start.source (start.line + (i + 1)) (1 + before.length) := by
    rw [Position.right_right, e, Position.right_down_succ]
  refine ⟨⟨.comment, some (String.ofList (a.commentText config)), (start.down (i + 1)).right a.indent.length⟩,
    _, _, ?_, rfl, ?_, Directive.ofComment?_of_form (ha.commentForm hs) rfl, ?_,
    AnnotatedLine.ofSegment?_body hs ha _, ?_, ?_, ?_⟩
  · rw [getElem?_value_lex, hl, Option.map_some, AnnotatedLine.lineToken_line valid ha]
  · exact start.right_down_succ i _
  · refine congrArg (Token.mk _ _) (place _ _ ?_)
    simp [AnnotatedLine.beforeKeyword]
  · refine congrArg (Token.mk _ _) (place _ _ ?_)
    simp [AnnotatedLine.beforeName, AnnotatedLine.beforeKeyword]
  · refine congrArg (Token.mk _ _) ((Position.right_right _ _ _).trans (place _ _ ?_))
    simp [AnnotatedLine.beforeSecond, AnnotatedLine.beforeName, AnnotatedLine.beforeKeyword]
    omega
  · refine congrArg (Token.mk _ _) ((Position.right_right _ _ _).trans (place _ _ ?_))
    simp [AnnotatedLine.beforeRest, AnnotatedLine.beforeSecond, AnnotatedLine.beforeName, AnnotatedLine.beforeKeyword]
    omega

/-- All parts present, close behind the marker, with a name and a rest that look like directive words. -/
theorem read_annotatedLine_of_full :
    ∃ (config : Config) (a : AnnotatedLine), config.validate = .ok config ∧ a.WellFormed config ∧
      (Lines.cut "select\n //@name\t @fôo @@ @y  z \r".toList)[1]? = some (a.line config) ∧
      ∃ comment directive naming,
        (lex "select\n //@name\t @fôo @@ @y  z \r" ⟨"q", 3, 7⟩ config).value[1]? = some comment ∧
          Directive.ofComment? config comment = some directive ∧
          Naming.ofSegment? config directive.rest = some naming ∧
          naming.name = ⟨.name, some "@fôo", ⟨"q", 5, 10⟩⟩ ∧
          naming.keyword = ⟨.keyword, some "@@", ⟨"q", 5, 15⟩⟩ ∧
          naming.rest = ⟨.segment, some "@y  z", ⟨"q", 5, 18⟩⟩ := by
  let config : Config := ⟨"//", '@'⟩
  let a : AnnotatedLine :=
    { indent := [' '], lead := [], keyword := ['@', 'n', 'a', 'm', 'e'], nameGap := ['\t', ' '],
      name := ['@', 'f', 'ô', 'o'], followGap := [' '], second? := some ['@', '@'], restGap := [' '],
      rest? := some ['@', 'y', ' ', ' ', 'z'], trail := [' ', '\r'] }
  have valid : config.validate = .ok config :=
    show Config.validate ⟨"//", '@'⟩ = .ok ⟨"//", '@'⟩ from rfl
  have ha : a.WellFormed config :=
    { isGap := by decide
      keyword := ⟨['n', 'a', 'm', 'e'], by decide, rfl⟩
      name := by decide
      second := by rintro _ ⟨⟩; exact ⟨['@'], by decide, rfl⟩
      rest := by rintro _ ⟨⟩; simp [EndsGap, NoTrailing]; decide
      plain := by simp [a]
      nameGap_ne_nil := by decide
      followGap_eq_nil_iff := by decide
      restGap_eq_nil_iff := by decide }
  have hl : (Lines.cut "select\n //@name\t @fôo @@ @y  z \r".toList)[1]? = some (a.line config) := by decide
  obtain ⟨comment, directive, naming, ht, -, -, hd, -, hn, hname, hk, hr⟩ :=
    read_annotatedLine valid ha ⟨"q", 3, 7⟩ hl
  refine ⟨config, a, valid, ha, hl, comment, directive, naming, ht, hd, hn, hname.trans ?_, hk.trans ?_, hr.trans ?_⟩
  all_goals decide

end AnnotatedSql
