import AnnotatedSql.Proofs.Forms
import AnnotatedSql.Proofs.LineTokens

/-!
# Sources in pieces and tokens as sources

A source can be cut at any of its line feeds and lexed in pieces, the second of which starts as many lines further
down as the first one has (`lex_append_newline`).  A line is lexed to a token whose payload is lexed to that token
again: the payload has no blanks left to trim and no line feed, and behind an indent it only moves to another column.
So the payloads of a source, each behind any indent, make a source with the same tokens (`lex_indentedText`).
-/

namespace AnnotatedSql

open Words

/-! ### Pieces of a source -/

theorem Position.down_down (p : Position) (m n : Nat) : (p.down m).down n = p.down (m + n) := by
  cases m with
  | zero => rw [Nat.zero_add]; rfl
  | succ m =>
    cases n with
    | zero => rfl
    | succ n => simp only [← Nat.add_assoc, down_succ]

theorem Config.lineTokens_append (c : Config) (p : Position) (lines more : List (List Char)) :
    c.lineTokens p (lines ++ more) = c.lineTokens p lines ++ c.lineTokens (p.down lines.length) more := by
  induction lines generalizing p with
  | nil => rfl
  | cons line lines ih =>
    have e : (p.down 1).down lines.length = p.down (line :: lines).length := by
      rw [Position.down_down, Nat.add_comm, List.length_cons]
    rw [List.cons_append, lineTokens, lineTokens, ih, e, List.cons_append]

theorem Lines.cut_append_newline (a b : List Char) : cut (a ++ '\n' :: b) = cut a ++ cut b := by
  simp only [cut_eq_splitOn]
  exact List.splitOn_append_cons_self a b

theorem length_value_lex (source : String) (start : Position) (config : Config) :
    (lex source start config).value.length = source.toList.count '\n' + 1 := by
  rw [value_lex]
  exact (Lexer.ofSource source start config).length_tokens

/-- Lexing a source gives the tokens of what stands in front of one of its line feeds, with their records, and then
those of what stands behind it, lexed from as many lines further down.  A change behind the line feed does not change
the tokens in front of it. -/
theorem lex_append_newline (a b : String) (start : Position) (config : Config) :
    let lines := a.toList.count '\n' + 1
    let front := lex a start config
    let back := lex b (start.down lines) config
    let whole := lex (a ++ "\n" ++ b) start config
    front.value.length = lines ∧
      whole.value = front.value ++ back.value ∧
      whole.events = front.events ++ back.events ∧
      ∀ b' : String, (lex (a ++ "\n" ++ b') start config).value.take lines = whole.value.take lines := by
  intro lines front back whole
  have length : front.value.length = lines := length_value_lex a start config
  have value (b : String) : (lex (a ++ "\n" ++ b) start config).value =
      front.value ++ (lex b (start.down lines) config).value := by
    have e : (a ++ "\n" ++ b).toList = a.toList ++ '\n' :: b.toList := by simp
    rw [value_lex, value_lex, value_lex, e, Lines.cut_append_newline, Config.lineTokens_append,
      Lines.length_cut]
  refine ⟨length, value b, ?_, ?_⟩
  · rw [events_lex, events_lex, events_lex, value, List.map_append]
  · intro b'
    rw [value, value b, List.take_left' length, List.take_left' length]

/-! ### Tokens as lines -/

namespace Token

/-- The line with the payload of the token behind an indent. -/
def indentedLine (indent : String) (t : Token) : String := indent ++ t.payload?.getD ""

/-- The token behind an indent on its line. -/
def indented (indent : String) (t : Token) : Token :=
  { t with position := .ofColumn t.position.source t.position.line (1 + indent.length) }

/-- The payloads of tokens, each behind its indent on a line of its own. -/
def indentedText (indents : List String) (tokens : List Token) : String :=
  String.intercalate "\n" (List.zipWith indentedLine indents tokens)

end Token

namespace Config

/-- What is kept of a line is lexed like the line, in a column that tells the gap in front of it. -/
theorem lineToken_gap_append (c : Config) (line : Stretch) {gap : List Char} (h : IsGap gap) (p : Position) :
    c.lineToken ⟨gap ++ line.trim.text, p⟩ = { c.lineToken line with position := p.right gap.length } := by
  obtain ⟨_, _, -, -, -, -, he, hn⟩ := line.exists_trim
  have kept : (⟨gap ++ line.trim.text, p⟩ : Stretch).trim = ⟨line.trim.text, p.right gap.length⟩ := by
    simpa using Stretch.trim_append h (by simpa using he.of_append) hn isGap_nil p
  rw [lineToken, kept]
  rfl

/-- Tokens of lines, lexed again behind indents. -/
theorem lineTokens_indentedLine (c : Config) {indents : List String} (h : ∀ e ∈ indents, IsGap e.toList)
    (p : Position) {lines : List (List Char)} (hl : indents.length = lines.length) :
    c.lineTokens p (List.zipWith (fun e t => (Token.indentedLine e t).toList) indents (c.lineTokens p lines)) =
      List.zipWith Token.indented indents (c.lineTokens p lines) := by
  induction lines generalizing p indents with
  | nil => simp [lineTokens]
  | cons line lines ih =>
    cases indents with
    | nil => cases hl
    | cons e indents =>
      have he : IsGap e.toList := h e (List.mem_cons_self ..)
      have first : (Token.indentedLine e (c.lineToken ⟨line, p.down 1⟩)).toList =
          e.toList ++ (⟨line, p.down 1⟩ : Stretch).trim.text := by
        simp [Token.indentedLine, lineToken, Stretch.toToken]
      have place : (p.down 1).right e.toList.length = .ofColumn p.source (p.line + 1) (1 + e.length) := by
        rw [Position.right_down_succ, String.length_toList]
      rw [lineTokens, List.zipWith_cons_cons, List.zipWith_cons_cons, lineTokens, first,
        c.lineToken_gap_append _ he, place, ih (fun e he => h e (List.mem_cons_of_mem _ he)) _ (by simpa using hl)]
      rfl

end Config

/-- A source without line feeds has one token. -/
theorem value_lex_ofList {text : List Char} (hn : '\n' ∉ text) (start : Position) (config : Config) :
    (lex (String.ofList text) start config).value = [config.lineToken ⟨text, start.down 1⟩] := by
  rw [value_lex, String.toList_ofList, Lines.cut_eq_splitOn, List.splitOn_eq_singleton hn]
  rfl

/-- No line feed is left in what is kept of a line. -/
theorem exists_kept_of_mem_lex {source : String} {start : Position} {config : Config} {t : Token}
    (h : t ∈ (lex source start config).value) : ∃ line, config.lineToken line = t ∧ '\n' ∉ line.trim.text := by
  obtain ⟨i, text, hl, rfl⟩ := exists_lineToken_of_mem_lex h
  refine ⟨⟨text, start.down (i + 1)⟩, rfl, ?_⟩
  intro hn
  obtain ⟨gap, gap', e, -⟩ := (⟨text, start.down (i + 1)⟩ : Stretch).exists_trim
  have hmem : '\n' ∈ text := by
    rw [show text = _ from e]
    simp [hn]
  exact Lines.newline_not_mem_of_mem_cut (List.mem_of_getElem? hl) hmem

theorem Token.zipWith_indented_eq_self {indents : List String} {tokens : List Token}
    (h : indents.map String.length = tokens.map fun t => t.position.column - 1) :
    List.zipWith indented indents tokens = tokens := by
  induction tokens generalizing indents with
  | nil => simp
  | cons t tokens ih =>
    cases indents with
    | nil => cases h
    | cons e indents =>
      obtain ⟨first, others⟩ := List.cons.inj h
      have same : t.indented e = t := by
        obtain ⟨tag, payload?, source, line, offset⟩ := t
        simp [indented, Position.ofColumn, first, Position.column]
      rw [List.zipWith_cons_cons, ih others, same]

/-- The lines of a text that is made of indents and payloads without line feeds. -/
theorem Lines.cut_indentedText {indents : List String} {tokens : List Token} (hn : indents ≠ [] ∧ tokens ≠ [])
    (he : ∀ e ∈ indents, '\n' ∉ e.toList) (ht : ∀ t ∈ tokens, '\n' ∉ (t.payload?.getD "").toList) :
    cut (Token.indentedText indents tokens).toList =
      List.zipWith (fun e t => (Token.indentedLine e t).toList) indents tokens := by
  rw [cut_eq_splitOn, Token.indentedText, String.toList_intercalate, List.map_zipWith]
  apply List.splitOn_intercalate
  · intro line hl
    rw [← List.map_uncurry_zip_eq_zipWith] at hl
    obtain ⟨⟨e, t⟩, hm, rfl⟩ := List.mem_map.1 hl
    obtain ⟨hme, hmt⟩ := List.of_mem_zip hm
    simp [Token.indentedLine, he e hme, ht t hmt]
  · simpa [List.zipWith_eq_nil_iff] using hn

/-- The payloads of the tokens of a source, each behind an indent without a line feed, are a source of the same tokens
in the columns behind the indents; with the indents that the columns tell, the tokens come back as they were.  Each
payload alone is a source of one token, with the same tag and payload. -/
theorem lex_indentedText {source : String} {start : Position} {config : Config} {indents : List String}
    (length : indents.length = (lex source start config).value.length)
    (gaps : ∀ e ∈ indents, IsGap e.toList ∧ '\n' ∉ e.toList) :
    let tokens := (lex source start config).value
    let again := (lex (Token.indentedText indents tokens) start config).value
    again = List.zipWith Token.indented indents tokens ∧
      (indents.map String.length = tokens.map (fun t => t.position.column - 1) → again = tokens) ∧
      ∀ t ∈ tokens, ∃ payload, t.payload? = some payload ∧
        ∀ start', (lex payload start' config).value = [⟨t.tag, some payload, start'.down 1⟩] := by
  intro tokens again
  have whole : tokens ≠ [] := by
    rw [ne_eq, ← List.length_eq_zero_iff, length_value_lex]
    simp
  have lines : Lines.cut (Token.indentedText indents tokens).toList =
      List.zipWith (fun e t => (Token.indentedLine e t).toList) indents tokens := by
    refine Lines.cut_indentedText ⟨?_, whole⟩ (fun e he => (gaps e he).2) ?_
    · rintro rfl
      exact whole (List.length_eq_zero_iff.1 length.symm)
    · intro t ht
      obtain ⟨line, rfl, hn⟩ := exists_kept_of_mem_lex ht
      simpa [Config.lineToken, Stretch.toToken] using hn
  have moved : again = List.zipWith Token.indented indents tokens := by
    have counted : indents.length = (Lines.cut source.toList).length := by
      rw [length, length_value_lex, Lines.length_cut]
    have read : tokens = config.lineTokens start (Lines.cut source.toList) := value_lex source start config
    rw [show again = _ from value_lex _ start config, lines, read]
    exact config.lineTokens_indentedLine (fun e he => (gaps e he).1) start counted
  refine ⟨moved, fun h => moved.trans (Token.zipWith_indented_eq_self h), ?_⟩
  intro t ht
  obtain ⟨line, rfl, hn⟩ := exists_kept_of_mem_lex ht
  refine ⟨String.ofList line.trim.text, rfl, fun start' => ?_⟩
  have alone : config.lineToken ⟨line.trim.text, start'.down 1⟩ =
      { config.lineToken line with position := start'.down 1 } :=
    config.lineToken_gap_append line isGap_nil (start'.down 1)
  rw [value_lex_ofList hn, alone]
  rfl

/-- Blank lines, blanks that are not ASCII and a marker that ends with a blank; other indents, and the same columns
again. -/
theorem lex_indentedText_of_blank_lines :
    let source := "\t-- a \r\n\u3000\n--\n"
    let config : Config := ⟨"-- ", ':'⟩
    let start : Position := ⟨"q", 6, 3⟩
    let tokens := (lex source start config).value
    let moved := ["", "\u00a0 ", "\r", " "]
    let same := [" ", "\u00a0", "", ""]
    (moved.length = tokens.length ∧ ∀ e ∈ moved, IsGap e.toList ∧ '\n' ∉ e.toList) ∧
      (same.length = tokens.length ∧ ∀ e ∈ same, IsGap e.toList ∧ '\n' ∉ e.toList) ∧
      (lex (Token.indentedText moved tokens) start config).value =
        [⟨.comment, some "-- a", ⟨"q", 7, 0⟩⟩, ⟨.query, some "", ⟨"q", 8, 2⟩⟩, ⟨.query, some "--", ⟨"q", 9, 1⟩⟩,
          ⟨.query, some "", ⟨"q", 10, 1⟩⟩] ∧
      Token.indentedText same tokens = " -- a\n\u00a0\n--\n" ∧
      same.map String.length = tokens.map (fun t => t.position.column - 1) ∧
      (lex (Token.indentedText same tokens) start config).value = tokens := by
  intro source config start tokens moved same
  have read : tokens = config.lineTokens start (Lines.cut source.toList) := value_lex source start config
  have hm : moved.length = tokens.length ∧ ∀ e ∈ moved, IsGap e.toList ∧ '\n' ∉ e.toList := by
    rw [read]
    decide
  have hs : same.length = tokens.length ∧ ∀ e ∈ same, IsGap e.toList ∧ '\n' ∉ e.toList := by
    rw [read]
    decide
  have columns : same.map String.length = tokens.map (fun t => t.position.column - 1) := by
    rw [read]
    decide
  have pushed : List.zipWith Token.indented moved tokens =
      [⟨.comment, some "-- a", ⟨"q", 7, 0⟩⟩, ⟨.query, some "", ⟨"q", 8, 2⟩⟩, ⟨.query, some "--", ⟨"q", 9, 1⟩⟩,
        ⟨.query, some "", ⟨"q", 10, 1⟩⟩] := by
    rw [read]
    decide
  have text : Token.indentedText same tokens = " -- a\n\u00a0\n--\n" := by
    rw [read]
    decide
  obtain ⟨elsewhere, -, -⟩ := lex_indentedText hm.1 hm.2
  obtain ⟨-, back, -⟩ := lex_indentedText hs.1 hs.2
  exact ⟨hm, hs, elsewhere.trans pushed, text, columns, back columns⟩

end AnnotatedSql
