import AnnotatedSql.Proofs.LineTokens
import AnnotatedSql.Proofs.Rereading
import AnnotatedSql.Survey

/-!
# Records of a survey

A survey asks more of a segment than it can hold, and the log says what was missing.  Some of its questions always
find something, or ask about a part that is absent, so they leave no record: the keyword of a naming is a directive
word, and its rest is not blank.

* `Config.events_readResult_keyword`, `Config.events_readName_rest`: the questions that leave no record;
* `Directive.ofSegment?_rest_eq_none_iff`: what follows a directive word has a name unless it is empty;
* `Config.records_surveyLine`: the records of one line;
* `records_survey`: the log of a whole survey.
-/

namespace AnnotatedSql

open Words

/-- The records of a computation as they are written to the log. -/
def Logged.records {α : Type} (x : Logged α) : List (Level × String) := x.events.map fun e => (e.level, e.message)

namespace Logged

@[simp] theorem records_pure {α : Type} (a : α) : (pure a : Logged α).records = [] := rfl

@[simp] theorem records_map {α β : Type} (f : α → β) (x : Logged α) : (f <$> x).records = x.records := rfl

@[simp] theorem records_bind {α β : Type} (x : Logged α) (f : α → Logged β) :
    (x >>= f).records = x.records ++ (f x.value).records := by
  simp [records]

end Logged

/-! ### One question -/

namespace Token

variable {α : Type} {t : Token} {found? : Option α}

@[simp] theorem value_reportMiss (t : Token) (miss : Token → Event) (found? : Option α) :
    (t.reportMiss miss found?).value = found? := rfl

theorem events_reportMiss_of_isSome (miss : Token → Event) (h : found?.isSome) :
    (t.reportMiss miss found?).events = [] := by
  obtain ⟨a, rfl⟩ := Option.isSome_iff_exists.1 h
  rfl

theorem events_reportMiss_of_absent (miss : Token → Event) (h : t.payload? = none) :
    (t.reportMiss miss found?).events = [] := by
  simp [reportMiss, h]

/-- A question about a payload that is there leaves a record when nothing is found. -/
theorem records_reportMiss (miss : Token → Event) (h : t.payload? ≠ none) :
    (t.reportMiss miss found?).records = if found?.isNone then [((miss t).level, (miss t).message)] else [] := by
  obtain ⟨text, ht⟩ := Option.ne_none_iff_exists'.1 h
  cases found? <;> simp [reportMiss, Logged.records, ht]

end Token

namespace Config

variable {c : Config} {t : Token} {n : Naming}

/-- The keyword of a naming is absent, or it is a directive word. -/
theorem events_readResult_keyword (h : Naming.ofSegment? c t = some n) : (c.readResult n.keyword).events = [] := by
  cases payload : n.keyword.payload? with
  | none => exact Token.events_reportMiss_of_absent _ payload
  | some text =>
    obtain ⟨word, hs, hw, e⟩ := (Token.KeywordOf.naming h).exists_word (Option.isSome_of_eq_some payload)
    rw [e]
    exact Token.events_reportMiss_of_isSome _ (Option.isSome_of_eq_some (Directive.ofSegment?_word hw hs _ _))

/-- The rest of a naming is absent, or it opens with a word. -/
theorem events_readName_rest (h : Naming.ofSegment? c t = some n) : (c.readName n.rest).events = [] := by
  obtain ⟨s, name, gap, word?, gap', rest, -, -, hf, rfl⟩ := Naming.ofSegment?_eq_some_iff.1 h
  cases rest with
  | nil => exact Token.events_reportMiss_of_absent _ rfl
  | cons x rest =>
    refine Token.events_reportMiss_of_isSome _ (Option.ne_none_iff_isSome.1 fun missing => ?_)
    have blank := (Naming.ofSegment?_eq_none_iff (Stretch.stretch?_toToken _ _)).1 missing
    exact List.cons_ne_nil x rest (blank.eq_nil hf.endsGap)

end Config

namespace Directive

variable {c : Config} {t : Token} {d : Directive}

theorem payload?_rest_ne_none (h : ofComment? c t = some d) : d.rest.payload? ≠ none := by
  obtain ⟨_, _, _, _, -, -, rfl⟩ := ofComment?_eq_some_iff.1 h
  exact Option.some_ne_none _

/-- What follows the directive word of a comment has a name unless it is empty. -/
theorem ofSegment?_rest_eq_none_iff (h : ofComment? c t = some d) :
    Naming.ofSegment? c d.rest = none ↔ d.rest.payload? = some "" := by
  obtain ⟨lead, word, gap, rest, hf, -, rfl⟩ := ofComment?_eq_some_iff.1 h
  have hs : (ofForm c t.position lead word gap rest).rest.stretch? = some ⟨rest, _⟩ :=
    Token.stretch?_eq_some_iff.2 ⟨rfl, rfl⟩
  rw [Naming.ofSegment?_eq_none_iff hs]
  constructor
  · intro blank
    obtain rfl : rest = [] := blank.eq_nil hf.endsGap
    rfl
  · intro empty
    obtain rfl : rest = [] := by simpa [ofForm] using empty
    exact isGap_nil

end Directive

/-! ### The log of a survey -/

namespace Config

/-- What the survey of a directive writes to the log: that nothing follows the directive word, that what follows opens
with no directive, and, if it opens with a name, that what follows the name is there and opens with none either. -/
def directiveRecords (c : Config) (d : Directive) : List (Level × String) :=
  (if d.rest.payload? = some "" then [(.debug, "no name in " ++ d.rest.toText)] else []) ++
    (if (Directive.ofSegment? c d.rest).isNone then [(.debug, "no result directive in " ++ d.rest.toText)] else []) ++
    match Naming.ofSegment? c d.rest with
    | none => []
    | some n =>
      if n.rest.payload?.isSome && (Directive.ofSegment? c n.rest).isNone then
        [(.debug, "no result directive in " ++ n.rest.toText)] else []

/-- What the survey of a line writes to the log. -/
def lineRecords (c : Config) (line : Token) : List (Level × String) :=
  match Directive.ofComment? c line with
  | none => [(.debug, "no directive in " ++ line.toText)]
  | some d => c.directiveRecords d

theorem records_surveyName {c : Config} {t : Token} {n : Naming} (h : Naming.ofSegment? c t = some n) :
    (c.surveyName n).records =
      if n.rest.payload?.isSome && (Directive.ofSegment? c n.rest).isNone then
        [(.debug, "no result directive in " ++ n.rest.toText)] else [] := by
  have keyword : (c.readResult n.keyword).records = [] := congrArg (List.map _) (events_readResult_keyword h)
  have name : (c.readName n.rest).records = [] := congrArg (List.map _) (events_readName_rest h)
  simp only [surveyName, Logged.records_bind, Logged.records_pure, keyword, name, List.nil_append, List.append_nil]
  cases payload : n.rest.payload? with
  | none => exact congrArg (List.map _) (Token.events_reportMiss_of_absent _ payload)
  | some text => exact Token.records_reportMiss _ (by simp [payload])

theorem records_surveyDirective {c : Config} {t : Token} {d : Directive} (h : Directive.ofComment? c t = some d) :
    (c.surveyDirective d).records = c.directiveRecords d := by
  have present := Directive.payload?_rest_ne_none h
  have unnamed := Directive.ofSegment?_rest_eq_none_iff h
  have name : (c.readName d.rest).records =
      if d.rest.payload? = some "" then [(.debug, "no name in " ++ d.rest.toText)] else [] := by
    rw [readName, Token.records_reportMiss _ present]
    by_cases empty : d.rest.payload? = some ""
    · rw [if_pos empty, unnamed.2 empty]
      rfl
    · rw [if_neg empty, if_neg fun none => empty (unnamed.1 (Option.isNone_iff_eq_none.1 none))]
  have result : (c.readResult d.rest).records =
      if (Directive.ofSegment? c d.rest).isNone then [(.debug, "no result directive in " ++ d.rest.toText)] else [] :=
    Token.records_reportMiss _ present
  rw [surveyDirective, Logged.records_bind, Logged.records_bind, name, result, directiveRecords, List.append_assoc]
  cases hn : Naming.ofSegment? c d.rest with
  | none => simp [readName, hn]
  | some n => simp [readName, hn, records_surveyName hn]

theorem records_surveyLine (c : Config) {t : Token} (ht : t.payload? ≠ none) :
    (c.surveyLine t).records = c.lineRecords t := by
  rw [surveyLine, Logged.records_bind, readComment, Token.records_reportMiss _ ht, Token.value_reportMiss, lineRecords]
  cases hd : Directive.ofComment? c t with
  | none => rfl
  | some d => simp [records_surveyDirective hd]

theorem records_surveyLines (c : Config) {tokens : List Token} (h : ∀ t ∈ tokens, t.payload? ≠ none) :
    (c.surveyLines tokens).records = tokens.flatMap c.lineRecords := by
  induction tokens with
  | nil => rfl
  | cons t tokens ih =>
    obtain ⟨ht, h⟩ := List.forall_mem_cons.1 h
    rw [surveyLines, Logged.records_bind, Logged.records_map, c.records_surveyLine ht, ih h, List.flatMap_cons]

end Config

/-- The log of a survey: a record of each line as it is lexed, then what was missing on each line in turn.  Of what a
name leaves, neither the keyword, read as a directive, nor the rest, read as a name, is ever recorded. -/
theorem records_survey (source : String) (start : Position) (config : Config) :
    let lines := (lex source start config).value
    (survey source start config).records =
        lines.map (fun line => (.trace, "lexed " ++ line.toText)) ++ lines.flatMap config.lineRecords ∧
      ∀ segment naming, Naming.ofSegment? config segment = some naming →
        (config.readResult naming.keyword).events = [] ∧ (config.readName naming.rest).events = [] := by
  intro lines
  refine ⟨?_, fun segment naming h => ⟨Config.events_readResult_keyword h, Config.events_readName_rest h⟩⟩
  have present : ∀ line ∈ lines, line.payload? ≠ none := by
    intro line hl
    obtain ⟨_, _, -, rfl⟩ := exists_lineToken_of_mem_lex hl
    exact Option.some_ne_none _
  rw [survey, Logged.records_bind, Config.records_surveyLines config present, Logged.records, events_lex, List.map_map]
  rfl

/-- A directive with nothing behind it, one with a name, a keyword and a rest, and a line of query text. -/
theorem records_survey_of_mixed :
    let source := "--:é\n -- :a b :c d\nx"
    let body : Token := ⟨.segment, some "b :c d", ⟨"q", 2, 7⟩⟩
    let naming : Naming :=
      ⟨⟨.name, some "b", ⟨"q", 2, 7⟩⟩, ⟨.keyword, some ":c", ⟨"q", 2, 9⟩⟩, ⟨.segment, some "d", ⟨"q", 2, 12⟩⟩⟩
    Naming.ofSegment? {} body = some naming ∧ (Config.readResult {} naming.keyword).events = [] ∧
      (Config.readName {} naming.rest).events = [] ∧
      (survey source (.start "q") {}).records =
        [(.trace, "lexed C(\"--:é\") @ q:1:1"), (.trace, "lexed C(\"-- :a b :c d\") @ q:2:2"),
          (.trace, "lexed Q(\"x\") @ q:3:1"), (.debug, "no name in S(\"\") @ q:1:5"),
          (.debug, "no result directive in S(\"\") @ q:1:5"), (.debug, "no result directive in S(\"b :c d\") @ q:2:8"),
          (.debug, "no result directive in S(\"d\") @ q:2:13"), (.debug, "no directive in Q(\"x\") @ q:3:1")] := by
  intro source body naming
  obtain ⟨records, silent⟩ := records_survey source (.start "q") {}
  have named : Naming.ofSegment? {} body = some naming := by decide
  exact ⟨named, (silent body naming named).1, (silent body naming named).2, records.trans (by decide +kernel)⟩

end AnnotatedSql
