import AnnotatedSql.Proofs.Forms
import AnnotatedSql.Proofs.LineTokens

/-!
# Lines as they are written

Tokens are made from trimmed lines.  With a configuration that makes sense, trimming hides nothing: whether a line
is a comment, and whether the comment holds a directive, can be seen from the line as it is written, gap in front
and all (`comment_iff_raw`).
-/

namespace AnnotatedSql

open Words

namespace Config

/-- The marker of a configuration that makes sense is a word. -/
theorem isWord_marker {c : Config} (h : c.validate = .ok c) : IsWord c.marker.toList := by
  obtain ⟨-, hne, hs, -⟩ := validate_eq_ok_iff.1 h
  exact ⟨hne, hs⟩

theorem isBlank_sigil {c : Config} (h : c.validate = .ok c) : isBlank c.sigil = false := by
  obtain ⟨-, -, -, hs, -⟩ := validate_eq_ok_iff.1 h
  exact hs

theorem tag_lineToken_iff {c : Config} {s : Stretch} :
    (c.lineToken s).tag = .comment ↔ c.marker.toList <+: s.trim.text := by
  rw [← List.isPrefixOf_iff_prefix]
  show (if _ then Tag.comment else .query) = .comment ↔ _
  split <;> simp_all

end Config

/-- With a configuration that makes sense, a line becomes a comment exactly when the marker stands behind a gap at
its start, and the comment holds a directive exactly when, behind another gap, the sigil and a character that is
not blank follow. -/
theorem comment_iff_raw {source : String} {config : Config} (valid : config.validate = .ok config)
    (start : Position) {i : Nat} {line : List Char} (hl : (Lines.cut source.toList)[i]? = some line) :
    ∃ t, (lex source start config).value[i]? = some t ∧
      (t.tag = .comment ↔ ∃ gap more, IsGap gap ∧ line = gap ++ (config.marker.toList ++ more)) ∧
      ((Directive.ofComment? config t).isSome ↔
        ∃ gap lead x more, IsGap gap ∧ IsGap lead ∧ isBlank x = false ∧
          line = gap ++ (config.marker.toList ++ (lead ++ (config.sigil :: x :: more)))) := by
  have hm := Config.isWord_marker valid
  have hs := Config.isBlank_sigil valid
  refine ⟨config.lineToken ⟨line, start.down (i + 1)⟩, by rw [getElem?_value_lex, hl]; rfl, ?_, ?_⟩
  · have he : EndsGap config.marker.toList := (hm.endsGap []).of_append
    rw [Config.tag_lineToken_iff, Stretch.prefix_trim_iff hm.1 he hm.noTrailing]
  · rw [Directive.isSome_ofComment?_iff rfl]
    -- the marker, the gap behind it and two characters have no blanks at their ends
    have key (lead : List Char) {x : Char} (hx : isBlank x = false) :
        config.marker.toList ++ (lead ++ [config.sigil, x]) <+:
            (⟨line, start.down (i + 1)⟩ : Stretch).trim.text ↔
          ∃ gap more, IsGap gap ∧ line = gap ++ (config.marker.toList ++ (lead ++ (config.sigil :: x :: more))) := by
      have hw : IsWord [config.sigil, x] := ⟨by simp, by simp [IsSolid, hs, hx]⟩
      have hn := hw.noTrailing.append hw.1 (config.marker.toList ++ lead)
      rw [List.append_assoc] at hn
      rw [Stretch.prefix_trim_iff (by simp) (hm.endsGap _) hn]
      simp
    constructor
    · rintro ⟨-, lead, x, hlead, hx, hp⟩
      obtain ⟨gap, more, hg, e⟩ := (key lead hx).1 hp
      exact ⟨gap, lead, x, more, hg, hlead, hx, e⟩
    · rintro ⟨gap, lead, x, more, hg, hlead, hx, e⟩
      exact ⟨hs, lead, x, hlead, hx, (key lead hx).2 ⟨gap, more, hg, e⟩⟩

/-- An indented directive behind a marker of one character. -/
theorem comment_iff_raw_of_indented :
    Config.validate ⟨"#", '@'⟩ = .ok ⟨"#", '@'⟩ ∧
      (Lines.cut "x\n \t#  @é y ".toList)[1]? = some " \t#  @é y ".toList ∧
      ∃ t, (lex "x\n \t#  @é y " .literal ⟨"#", '@'⟩).value[1]? = some t ∧ t.tag = .comment ∧
        (Directive.ofComment? ⟨"#", '@'⟩ t).isSome := by
  have valid : Config.validate ⟨"#", '@'⟩ = .ok ⟨"#", '@'⟩ := rfl
  have hl : (Lines.cut "x\n \t#  @é y ".toList)[1]? = some " \t#  @é y ".toList := rfl
  obtain ⟨t, ht, tag, directive⟩ := comment_iff_raw valid .literal hl
  refine ⟨valid, hl, t, ht, tag.2 ⟨[' ', '\t'], "  @é y ".toList, by decide, rfl⟩, ?_⟩
  exact directive.2 ⟨[' ', '\t'], [' ', ' '], 'é', [' ', 'y', ' '], by decide, by decide, rfl, rfl⟩

/-- A marker that ends with a blank is trimmed away: the line opens with it, yet it is no comment. -/
example : (lex "-- " .literal ⟨"-- ", ':'⟩).value = [⟨.query, some "--", ⟨"<literal>", 1, 0⟩⟩] := by
  rw [value_lex]
  decide

end AnnotatedSql
