import AnnotatedSql.Proofs.RawLine

/-!
# Kinds of lines

A comment holds a directive behind the marker, a segment opens with one.  With a configuration that makes sense no text
does both: the marker is a word, so trimming leaves it where it is, and it does not open with the sigil.  So directives
of comments are found in comment lines only, and those of segments in lines of query text only.

* `Directive.marker_prefix_of_ofComment?`, `Directive.head?_of_ofSegment?`: what the two kinds of text open with;
* `Directive.not_isSome_ofSegment?_of_marker`: the marker opens no directive;
* `directives_apart`: at most one of the two is found, and in which lines.
-/

namespace AnnotatedSql

open Words

theorem Config.tag_lineToken_eq_query_iff {c : Config} {line : Stretch} :
    (c.lineToken line).tag = .query ↔ ¬c.marker.toList <+: line.trim.text := by
  rw [← tag_lineToken_iff]
  by_cases h : c.marker.toList.isPrefixOf line.trim.text <;> simp [lineToken, Stretch.toToken, h]

namespace Directive

variable {c : Config} {t : Token} {s : Stretch}

theorem marker_prefix_of_ofComment? (hs : t.stretch? = some s) (h : (ofComment? c t).isSome) :
    c.marker.toList <+: s.text := by
  obtain ⟨d, hd⟩ := Option.isSome_iff_exists.1 h
  obtain ⟨lead, word, gap, rest, -, ht, -⟩ := ofComment?_eq_some_iff.1 hd
  have same := (Token.stretch?_eq_some_iff.1 hs).1.symm.trans ht
  rw [String.ofList_injective (Option.some.inj same)]
  exact List.prefix_append _ _

theorem head?_of_ofSegment? (hs : t.stretch? = some s) (h : (ofSegment? c t).isSome) :
    s.trim.text.head? = some c.sigil := by
  obtain ⟨d, hd⟩ := Option.isSome_iff_exists.1 h
  obtain ⟨s', _, rest, hs', e, -, ⟨word, -, rfl⟩, -, -⟩ := ofSegment?_eq_some_iff.1 hd
  obtain rfl : s' = s := Option.some.inj (hs'.symm.trans hs)
  rw [e]
  rfl

/-- A text that opens with a marker that makes sense opens with it when it is trimmed, and so not with the sigil. -/
theorem not_isSome_ofSegment?_of_marker (valid : c.validate = .ok c) (hs : t.stretch? = some s)
    (hm : c.marker.toList <+: s.text) : ¬(ofSegment? c t).isSome := by
  obtain ⟨-, -, -, -, differ⟩ := Config.validate_eq_ok_iff.1 valid
  have marker := Config.isWord_marker valid
  obtain ⟨more, e⟩ := hm
  have kept : c.marker.toList <+: s.trim.text :=
    (Stretch.prefix_trim_iff marker.1 marker.endsGap_self marker.noTrailing).2 ⟨[], more, isGap_nil, e.symm⟩
  intro found
  obtain ⟨behind, e⟩ := kept
  apply differ
  calc c.marker.toList.head? = s.trim.text.head? := by rw [← e, List.head?_append_of_ne_nil _ marker.1]
    _ = some c.sigil := head?_of_ofSegment? hs found

end Directive

/-- With a configuration that makes sense, no token holds a directive both as a comment and as a segment, whatever
its payload.  Of the tokens of a source, those that hold one as a comment are comment lines, and those that open with
one are lines of query text. -/
theorem directives_apart {c : Config} (valid : c.validate = .ok c) :
    (∀ t : Token, ¬((Directive.ofComment? c t).isSome ∧ (Directive.ofSegment? c t).isSome)) ∧
      ∀ source start, ∀ t ∈ (lex source start c).value,
        ((Directive.ofComment? c t).isSome → t.tag = .comment) ∧
          ((Directive.ofSegment? c t).isSome → t.tag = .query) := by
  constructor
  · rintro t ⟨comment, segment⟩
    obtain ⟨d, hd⟩ := Option.isSome_iff_exists.1 comment
    obtain ⟨s, hs, -⟩ := Option.bind_eq_some_iff.1 hd
    have marker := Directive.marker_prefix_of_ofComment? hs comment
    exact Directive.not_isSome_ofSegment?_of_marker valid hs marker segment
  · intro source start t ht
    obtain ⟨i, text, -, rfl⟩ := exists_lineToken_of_mem_lex ht
    let line : Stretch := ⟨text, start.down (i + 1)⟩
    have hs : (c.lineToken line).stretch? = some line.trim := Stretch.stretch?_toToken _ _
    constructor
    · intro comment
      exact Config.tag_lineToken_iff.2 (Directive.marker_prefix_of_ofComment? hs comment)
    · intro segment
      rw [Config.tag_lineToken_eq_query_iff]
      intro marker
      exact Directive.not_isSome_ofSegment?_of_marker valid hs marker segment

/-- A comment line with a blank in front of its directive, and a line of query text that opens with one. -/
theorem directives_apart_of_both :
    let c : Config := ⟨"#", '@'⟩
    let comment : Token := ⟨.comment, some "# @a", ⟨"q", 1, 2⟩⟩
    let query : Token := ⟨.query, some "@a #", ⟨"q", 2, 0⟩⟩
    c.validate = .ok c ∧ (lex "  # @a \n@a #" (.start "q") c).value = [comment, query] ∧
      (Directive.ofComment? c comment).isSome ∧ ¬(Directive.ofSegment? c comment).isSome ∧
      (Directive.ofSegment? c query).isSome ∧ ¬(Directive.ofComment? c query).isSome ∧
      comment.tag = .comment ∧ query.tag = .query := by
  intro c comment query
  have valid : c.validate = .ok c := by decide
  have lexed : (lex "  # @a \n@a #" (.start "q") c).value = [comment, query] := by
    rw [value_lex]
    decide
  have first : (Directive.ofComment? c comment).isSome := by decide
  have second : (Directive.ofSegment? c query).isSome := by decide
  obtain ⟨apart, lines⟩ := directives_apart valid
  have tags := lines "  # @a \n@a #" (.start "q")
  rw [lexed] at tags
  exact ⟨valid, lexed, first, fun h => apart comment ⟨first, h⟩, second, fun h => apart query ⟨h, second⟩,
    (tags comment (by simp)).1 first, (tags query (by simp)).2 second⟩

/-- Behind an empty marker every directive word is one of both kinds. -/
example : (Directive.ofComment? ⟨"", ':'⟩ ⟨.query, some ":a", .literal⟩).isSome ∧
    (Directive.ofSegment? ⟨"", ':'⟩ ⟨.query, some ":a", .literal⟩).isSome := by decide

end AnnotatedSql
