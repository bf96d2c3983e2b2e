import AnnotatedSql.Proofs.Cover
import AnnotatedSql.Proofs.LineTokens
import Mathlib.Data.List.Forall2

/-!
# Leaves of a source

A line can be taken apart as far as one likes: a comment into its marker, the directive word and the rest, and the
rest, again and again, as a naming or as a directive.  The leaves are what is not taken apart any further.

* `Token.SegmentLeaves.covers`, `Token.LineLeaves.covers`: the leaves of a token cover it;
* `ink_of_leaves`: the leaves of a source hold its ink, once and in order, and stand in order on their lines.
-/

namespace AnnotatedSql

open Words

/-- The leaves of a segment: the segment itself, or what a naming or a directive finds in it, with the leaves of the
rest in place of the rest. -/
inductive Token.SegmentLeaves (c : Config) : Token → List Stretch → Prop
  | whole (t : Token) : SegmentLeaves c t [t.span]
  | naming {t : Token} {n : Naming} {leaves : List Stretch} : Naming.ofSegment? c t = some n →
      SegmentLeaves c n.rest leaves → SegmentLeaves c t (n.name.span :: n.keyword.span :: leaves)
  | directive {t : Token} {d : Directive} {leaves : List Stretch} : Directive.ofSegment? c t = some d →
      SegmentLeaves c d.rest leaves → SegmentLeaves c t (d.keyword.span :: leaves)

/-- The leaves of a line: the line itself when it holds no directive, otherwise the marker, the directive word and
the leaves of the rest. -/
inductive Token.LineLeaves (c : Config) : Token → List Stretch → Prop
  | plain {t : Token} : Directive.ofComment? c t = none → LineLeaves c t [t.span]
  | comment {t : Token} {d : Directive} {leaves : List Stretch} : Directive.ofComment? c t = some d →
      SegmentLeaves c d.rest leaves → LineLeaves c t (⟨c.marker.toList, t.position⟩ :: d.keyword.span :: leaves)

theorem Stretch.coveredBy_self (s : Stretch) : s.CoveredBy [s] :=
  .cons [] [] isGap_nil (by simp) rfl (.nil isGap_nil)

theorem Token.SegmentLeaves.covers {c : Config} {t : Token} {leaves : List Stretch}
    (h : SegmentLeaves c t leaves) : t.span.CoveredBy leaves := by
  induction h with
  | whole t => exact t.span.coveredBy_self
  | @naming t n leaves h _ ih => simpa using (Naming.ofSegment?_covers h).subst [n.name.span, n.keyword.span] ih
  | @directive t d leaves h _ ih => simpa using (Directive.ofSegment?_covers h).subst [d.keyword.span] ih

theorem Token.LineLeaves.covers {c : Config} {t : Token} {leaves : List Stretch} (h : LineLeaves c t leaves) :
    t.span.CoveredBy leaves := by
  cases h with
  | plain => exact t.span.coveredBy_self
  | @comment d leaves h hl =>
    simpa using (Directive.ofComment?_covers h).subst [⟨c.marker.toList, t.position⟩, d.keyword.span] hl.covers

/-- The leaves of its token cover a line. -/
theorem Token.LineLeaves.covers_line {c : Config} {line : Stretch} {leaves : List Stretch}
    (h : LineLeaves c (c.lineToken line) leaves) : line.CoveredBy leaves := by
  simpa using (c.lineToken_covers line).subst [] h.covers

/-- Cutting a text into lines drops line feeds only. -/
theorem ink_flatten_cut (text : List Char) : ink (Lines.cut text).flatten = ink text := by
  induction text with
  | nil => rfl
  | cons c text ih =>
    rw [Lines.cut]
    split
    · rename_i hc
      subst hc
      exact ih
    · obtain ⟨line, lines, e⟩ : ∃ line lines, Lines.cut text = line :: lines := ⟨_, _, Lines.cut_eq_cons text⟩
      rw [e] at ih ⊢
      show ink ([c] ++ (line :: lines).flatten) = ink ([c] ++ text)
      rw [ink_append, ink_append, ih]

private theorem ink_of_lineTokens {c : Config} {p : Position} {lines : List (List Char)}
    {leaves : List (List Stretch)} (h : List.Forall₂ (Token.LineLeaves c) (c.lineTokens p lines) leaves) :
    ink (leaves.flatten.flatMap Stretch.text) = ink lines.flatten := by
  induction lines generalizing p leaves with
  | nil =>
    cases h
    rfl
  | cons line lines ih =>
    cases h with
    | cons h hs =>
      rw [List.flatten_cons, List.flatMap_append, ink_append, ih hs, h.covers_line.ink_eq, List.flatten_cons,
        ink_append]

/-- However the tokens of a source are taken apart, the leaves hold the characters of the source that are not
blank, each once and in order; and the leaves of a line stand on that line, each behind the one before it. -/
theorem ink_of_leaves {source : String} {start : Position} {config : Config} {leaves : List (List Stretch)}
    (h : List.Forall₂ (Token.LineLeaves config) (lex source start config).value leaves) :
    ink (leaves.flatten.flatMap Stretch.text) = ink source.toList ∧
      ∀ i parts, leaves[i]? = some parts →
        (∀ part ∈ parts, part.position.source = start.source ∧ part.position.line = start.line + (i + 1)) ∧
          parts.Pairwise Stretch.Before := by
  constructor
  · rw [value_lex] at h
    rw [ink_of_lineTokens h, ink_flatten_cut]
  · intro i parts hi
    obtain ⟨hlt, rfl⟩ := List.getElem?_eq_some_iff.1 hi
    have hlt' : i < (lex source start config).value.length := by rw [h.length_eq]; exact hlt
    have hp := h.get hlt' hlt
    obtain ⟨line, -, e⟩ := Option.map_eq_some_iff.1
      ((getElem?_value_lex source start config i).symm.trans (List.getElem?_eq_getElem hlt'))
    rw [List.get_eq_getElem, ← e] at hp
    have hc := hp.covers_line
    refine ⟨?_, hc.pairwise⟩
    intro part hpart
    have hw := hc.within hpart
    exact ⟨hw.source_eq, hw.line_eq⟩

/-- A line that is taken apart three times, in front of one that is left alone. -/
theorem ink_of_leaves_nested :
    List.Forall₂ (Token.LineLeaves {}) (lex " --  :é b  :c :d  e \n\tx y" .literal {}).value
        [[⟨['-', '-'], ⟨"<literal>", 1, 1⟩⟩, ⟨[':', 'é'], ⟨"<literal>", 1, 5⟩⟩, ⟨['b'], ⟨"<literal>", 1, 8⟩⟩,
            ⟨[':', 'c'], ⟨"<literal>", 1, 11⟩⟩, ⟨[':', 'd'], ⟨"<literal>", 1, 14⟩⟩,
            ⟨[' ', ' ', 'e'], ⟨"<literal>", 1, 16⟩⟩],
          [⟨['x', ' ', 'y'], ⟨"<literal>", 2, 1⟩⟩]] ∧
      ink " --  :é b  :c :d  e \n\tx y".toList = "--:éb:c:dexy".toList := by
  let body : Token := ⟨.segment, some "b  :c :d  e", ⟨"<literal>", 1, 8⟩⟩
  let rest : Token := ⟨.segment, some ":d  e", ⟨"<literal>", 1, 14⟩⟩
  let last : Token := ⟨.segment, some "  e", ⟨"<literal>", 1, 16⟩⟩
  have h₁ : Directive.ofComment? {} ⟨.comment, some "--  :é b  :c :d  e", ⟨"<literal>", 1, 1⟩⟩ =
      some ⟨⟨.keyword, some ":é", ⟨"<literal>", 1, 5⟩⟩, body⟩ := by decide
  have h₂ : Naming.ofSegment? {} body =
      some ⟨⟨.name, some "b", ⟨"<literal>", 1, 8⟩⟩, ⟨.keyword, some ":c", ⟨"<literal>", 1, 11⟩⟩, rest⟩ := by decide
  have h₃ : Directive.ofSegment? {} rest = some ⟨⟨.keyword, some ":d", ⟨"<literal>", 1, 14⟩⟩, last⟩ := by decide
  have h₄ : Directive.ofComment? {} ⟨.query, some "x y", ⟨"<literal>", 2, 1⟩⟩ = none := by decide
  have leaves := List.Forall₂.cons (Token.LineLeaves.comment h₁ (.naming h₂ (.directive h₃ (.whole last))))
    (.cons (Token.LineLeaves.plain h₄) .nil)
  have e : (lex " --  :é b  :c :d  e \n\tx y" .literal {}).value =
      [⟨.comment, some "--  :é b  :c :d  e", ⟨"<literal>", 1, 1⟩⟩, ⟨.query, some "x y", ⟨"<literal>", 2, 1⟩⟩] := by
    rw [value_lex]
    decide
  rw [← e] at leaves
  exact ⟨leaves, (ink_of_leaves leaves).1.symm.trans (by decide)⟩

end AnnotatedSql
