import AnnotatedSql.Config
import AnnotatedSql.Lines
import AnnotatedSql.Log
import AnnotatedSql.Stretch

/-!
# The line lexer

Every line of a source becomes one token.  Its payload is the line without the blanks at its ends, its position is
that of the first character kept, and its tag tells a comment line from a line of query text.  A lexer hands the
tokens out one at a time; `lex` takes them all.

* `value_take`: asking for `n` tokens gives the first `n` of those to come and leaves the others;
* `value_rest`: asking until there is nothing left gives all of them;
* `events_take`, `events_rest`: each token that is handed out is recorded once;
* `value_lex`: lexing a source gives the tokens of its lines.
-/

namespace AnnotatedSql

/-- The token of one line; the position is that of the first character of the line. -/
def Config.lineToken (c : Config) (line : Stretch) : Token :=
  line.trim.toToken (if c.marker.toList.isPrefixOf line.trim.text then .comment else .query)

/-- The tokens of lines that follow a position, each on the next line. -/
def Config.lineTokens (c : Config) (position : Position) : List (List Char) → List Token
  | [] => []
  | line :: lines => c.lineToken ⟨line, position.down 1⟩ :: c.lineTokens (position.down 1) lines

theorem Config.length_lineTokens (c : Config) (position : Position) (lines : List (List Char)) :
    (c.lineTokens position lines).length = lines.length := by
  induction lines generalizing position with
  | nil => rfl
  | cons line lines ih => simp [lineTokens, ih]

/-- A reader of a source, between two of its lines. -/
structure Lexer where
  /-- The lines that have not been read. -/
  lines : Lines
  /-- A place on the line that was read last. -/
  position : Position
  config : Config
deriving DecidableEq, Repr

namespace Lexer

/-- A reader before the first line of a source, which is the line after `start`. -/
def ofSource (source : String) (start : Position) (config : Config) : Lexer :=
  ⟨.ofSource source, start, config⟩

/-- The token of the next line, and the reader behind that line. -/
def next? (l : Lexer) : Option (Token × Lexer) :=
  l.lines.next?.map fun (line, lines) =>
    (l.config.lineToken ⟨line, l.position.down 1⟩, { l with lines, position := l.position.down 1 })

/-- Reads the next line and records its token. -/
def next (l : Lexer) : Logged (Option Token × Lexer) :=
  match l.next? with
  | none => pure (none, l)
  | some (token, l) => do
    Logged.record (.lexed token)
    pure (some token, l)

/-- Reads `n` lines, or all that are left if there are fewer. -/
def take : Nat → Lexer → Logged (List Token × Lexer)
  | 0, l => pure ([], l)
  | n + 1, l => do
    match ← l.next with
    | (none, l) => pure ([], l)
    | (some token, l) => Prod.map (token :: ·) id <$> l.take n

/-- Skips `n` lines, which are read like any other, and reads the next one. -/
def nth (l : Lexer) (n : Nat) : Logged (Option Token × Lexer) := do
  let (_, l) ← l.take n
  l.next

theorem remaining_of_next? {l l' : Lexer} {token : Token} (h : l.next? = some (token, l')) :
    l.lines.remaining = l'.lines.remaining + 1 := by
  obtain ⟨⟨line, lines⟩, read, e⟩ := Option.map_eq_some_iff.1 h
  cases e
  exact Lines.remaining_of_next? read

/-- Reads line after line and records the tokens, until there is no line left. -/
def rest (l : Lexer) : Logged (List Token × Lexer) :=
  match _h : l.next? with
  | none => pure ([], l)
  | some (token, l') => do
    Logged.record (.lexed token)
    Prod.map (token :: ·) id <$> l'.rest
termination_by l.lines.remaining
decreasing_by
  have := remaining_of_next? _h
  omega

/-- Reading the rest is asking for the next token until there is none. -/
theorem rest_eq (l : Lexer) :
    l.rest = (do
      match ← l.next with
      | (none, l) => pure ([], l)
      | (some token, l) => Prod.map (token :: ·) id <$> l.rest) := by
  cases h : l.next? with
  | none =>
    rw [rest, next, h]
    rfl
  | some read =>
    rw [rest, next, h]
    rfl

/-! ### The tokens to come -/

/-- The tokens of the lines that are left, in order. -/
def tokens (l : Lexer) : List Token := l.config.lineTokens l.position l.lines.toList

theorem length_tokens (l : Lexer) : l.tokens.length = l.lines.remaining := by
  rw [tokens, Config.length_lineTokens, Lines.length_toList]

theorem next?_eq_none_iff {l : Lexer} : l.next? = none ↔ l.tokens = [] := by
  rw [next?, Option.map_eq_none_iff, Lines.next?_eq_none_iff, tokens]
  cases l.lines.toList <;> simp [Config.lineTokens]

theorem tokens_eq_cons_of_next? {l l' : Lexer} {token : Token} (h : l.next? = some (token, l')) :
    l.tokens = token :: l'.tokens := by
  obtain ⟨⟨line, lines⟩, read, e⟩ := Option.map_eq_some_iff.1 h
  cases e
  rw [tokens, Lines.toList_eq_cons_of_next? read]
  rfl

private theorem take_succ_of_none {l : Lexer} (n : Nat) (h : l.next? = none) : l.take (n + 1) = ⟨([], l), []⟩ := by
  simp only [take, next, h]
  rfl

private theorem take_succ_of_some {l l' : Lexer} {token : Token} (n : Nat) (h : l.next? = some (token, l')) :
    l.take (n + 1) =
      ⟨(token :: (l'.take n).value.1, (l'.take n).value.2), .lexed token :: (l'.take n).events⟩ := by
  simp only [take, next, h]
  rfl

theorem value_take (n : Nat) (l : Lexer) :
    (l.take n).value.1 = l.tokens.take n ∧ (l.take n).value.2.tokens = l.tokens.drop n := by
  induction n generalizing l with
  | zero => exact ⟨rfl, rfl⟩
  | succ n ih =>
    cases h : l.next? with
    | none => simp [take_succ_of_none n h, next?_eq_none_iff.1 h]
    | some next =>
      have := ih next.2
      simp [take_succ_of_some n h, tokens_eq_cons_of_next? h, this]

theorem events_take (n : Nat) (l : Lexer) : (l.take n).events = (l.tokens.take n).map .lexed := by
  induction n generalizing l with
  | zero => rfl
  | succ n ih =>
    cases h : l.next? with
    | none => simp [take_succ_of_none n h, next?_eq_none_iff.1 h]
    | some next => simp [take_succ_of_some n h, tokens_eq_cons_of_next? h, ih]

private theorem rest_of_none {l : Lexer} (h : l.next? = none) : l.rest = ⟨([], l), []⟩ := by
  rw [rest_eq]
  simp only [next, h]
  rfl

private theorem rest_of_some {l l' : Lexer} {token : Token} (h : l.next? = some (token, l')) :
    l.rest = ⟨(token :: l'.rest.value.1, l'.rest.value.2), .lexed token :: l'.rest.events⟩ := by
  rw [rest_eq]
  simp only [next, h]
  rfl

theorem value_rest (l : Lexer) : l.rest.value.1 = l.tokens ∧ l.rest.value.2.next? = none := by
  induction l using rest.induct with
  | case1 l h => simp [rest_of_none h, next?_eq_none_iff.1 h, h]
  | case2 l token l' h ih => simp [rest_of_some h, tokens_eq_cons_of_next? h, ih]

theorem events_rest (l : Lexer) : l.rest.events = l.tokens.map .lexed := by
  induction l using rest.induct with
  | case1 l h => simp [rest_of_none h, next?_eq_none_iff.1 h]
  | case2 l token l' h ih => simp [rest_of_some h, tokens_eq_cons_of_next? h, ih]

end Lexer

/-- The tokens of all lines of a source, the first of which is the line after `start`. -/
def lex (source : String) (start : Position) (config : Config) : Logged (List Token) :=
  Prod.fst <$> (Lexer.ofSource source start config).rest

theorem value_lex (source : String) (start : Position) (config : Config) :
    (lex source start config).value = config.lineTokens start (Lines.cut source.toList) :=
  (Lexer.ofSource source start config).value_rest.1

theorem events_lex (source : String) (start : Position) (config : Config) :
    (lex source start config).events = (lex source start config).value.map .lexed := by
  rw [value_lex]
  exact (Lexer.ofSource source start config).events_rest

end AnnotatedSql
