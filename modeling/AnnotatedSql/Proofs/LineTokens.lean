import AnnotatedSql.Lexer
import Mathlib.Data.List.DropRight

/-!
# Tokens of lines by their number

The token of the line with number `i`, counted from 0, is made from that line alone and stands `i + 1` lines below
the start (`getElem?_value_lex`).  Lines, blanks and payloads are those of the list library: a source is split at its
line feeds, and a line is trimmed at both ends (`value_lex_eq_mapIdx`).
-/

namespace AnnotatedSql

theorem Position.down_succ (p : Position) (n : Nat) : p.down (n + 1) = ⟨p.source, p.line + (n + 1), 0⟩ := rfl

/-- A place on a later line, by the number of characters to its left. -/
theorem Position.right_down_succ (p : Position) (n columns : Nat) :
    (p.down (n + 1)).right columns = ofColumn p.source (p.line + (n + 1)) (1 + columns) := by
  simp [down_succ, right, ofColumn]

theorem Config.getElem?_lineTokens (c : Config) (p : Position) (lines : List (List Char)) (i : Nat) :
    (c.lineTokens p lines)[i]? = lines[i]?.map fun line => c.lineToken ⟨line, p.down (i + 1)⟩ := by
  induction lines generalizing p i with
  | nil => rfl
  | cons line lines ih =>
    cases i with
    | zero => rfl
    | succ i =>
      have e : (p.down 1).down (i + 1) = p.down (i + 1 + 1) := by
        simp only [Position.down_succ]
        rw [Nat.add_assoc, Nat.add_comm 1]
      rw [lineTokens, List.getElem?_cons_succ, List.getElem?_cons_succ, ih, e]

theorem getElem?_value_lex (source : String) (start : Position) (config : Config) (i : Nat) :
    (lex source start config).value[i]? =
      (Lines.cut source.toList)[i]?.map fun line => config.lineToken ⟨line, start.down (i + 1)⟩ := by
  rw [value_lex, Config.getElem?_lineTokens]

theorem exists_lineToken_of_mem_lex {source : String} {start : Position} {config : Config} {t : Token}
    (h : t ∈ (lex source start config).value) :
    ∃ i line, (Lines.cut source.toList)[i]? = some line ∧ config.lineToken ⟨line, start.down (i + 1)⟩ = t := by
  obtain ⟨i, hi⟩ := List.mem_iff_getElem?.1 h
  rw [getElem?_value_lex] at hi
  obtain ⟨line, hl, ht⟩ := Option.map_eq_some_iff.1 hi
  exact ⟨i, line, hl, ht⟩

theorem Lines.cut_eq_splitOn (text : List Char) : cut text = text.splitOn '\n' := by
  induction text with
  | nil => rfl
  | cons c text ih =>
    rw [cut, ih]
    simp [List.splitOn_eq_splitOnP, List.splitOnP_cons_eq_if_modifyHead]

theorem Lines.newline_not_mem_of_mem_cut {text line : List Char} (h : line ∈ cut text) : '\n' ∉ line := by
  induction text generalizing line with
  | nil =>
    obtain rfl := List.mem_singleton.1 h
    simp
  | cons c text ih =>
    by_cases hc : c = '\n'
    · rw [cut, if_pos hc, List.mem_cons] at h
      rcases h with rfl | h
      · simp
      · exact ih h
    · rw [cut, if_neg hc] at h
      cases e : cut text with
      | nil => simp [e] at h
      | cons first lines =>
        rw [e, List.modifyHead_cons, List.mem_cons] at h
        rw [e] at ih
        rcases h with rfl | h
        · simp [Ne.symm hc, ih (List.mem_cons_self ..)]
        · exact ih (List.mem_cons_of_mem _ h)

theorem Stretch.trim_text (s : Stretch) : s.trim.text = (s.text.dropWhile isBlank).rdropWhile isBlank := by
  rw [trim, trimEnd, trimStart_text]
  rfl

/-- The tokens of a source, line by line: the payload is the line without the blanks at its ends, the tag tells
whether the payload opens with the marker, and the position is that of the first character that is not blank, or the
end of a blank line.  The column of the start does not matter. -/
theorem value_lex_eq_mapIdx (source : String) (start : Position) (config : Config) :
    let lines := source.toList.splitOn '\n'
    lines.length = source.toList.count '\n' + 1 ∧
      (lex source start config).value = (lines.mapIdx fun i line =>
        let payload := (line.dropWhile isBlank).rdropWhile isBlank
        { tag := if config.marker.toList <+: payload then .comment else .query
          payload? := some (String.ofList payload)
          position := .ofColumn start.source (start.line + (i + 1)) (1 + (line.takeWhile isBlank).length) }) ∧
      ∀ column, (lex source (.ofColumn start.source start.line column) config).value =
        (lex source start config).value := by
  intro lines
  have tokens (start : Position) (i : Nat) : (lex source start config).value[i]? =
      lines[i]?.map fun line => config.lineToken ⟨line, start.down (i + 1)⟩ := by
    rw [getElem?_value_lex, Lines.cut_eq_splitOn]
  refine ⟨?_, ?_, ?_⟩
  · rw [← Lines.length_cut, Lines.cut_eq_splitOn]
  · apply List.ext_getElem?
    intro i
    rw [tokens, List.getElem?_mapIdx]
    congr 1
    funext line
    simp only [Config.lineToken, Stretch.toToken, Stretch.trim_text, List.isPrefixOf_iff_prefix]
    rw [← start.right_down_succ]
    rfl
  · intro column
    apply List.ext_getElem?
    intro i
    rw [tokens, tokens]
    rfl

end AnnotatedSql
