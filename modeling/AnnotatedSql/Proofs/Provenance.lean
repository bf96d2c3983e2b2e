import AnnotatedSql.Proofs.Cover
import AnnotatedSql.Proofs.LineTokens
import Mathlib.Logic.Relation

/-!
# Provenance of tokens

However often a token is taken apart, and with whatever configurations, its parts stay within the line that the
first token was made from: the position of a part names the place of its payload in the source.

* `Token.Part.within`: one step stays within the token that is taken apart;
* `Token.within_of_parts`: any number of steps does;
* `payload_at_position`: what that says about a source, its lines and the position of a part.
-/

namespace AnnotatedSql

/-- The second token is one of those that a reader takes out of the first. -/
inductive Token.Part : Token → Token → Prop
  | commentKeyword {c : Config} {t : Token} {d : Directive} : Directive.ofComment? c t = some d → Part t d.keyword
  | commentRest {c : Config} {t : Token} {d : Directive} : Directive.ofComment? c t = some d → Part t d.rest
  | resultKeyword {c : Config} {t : Token} {d : Directive} : Directive.ofSegment? c t = some d → Part t d.keyword
  | resultRest {c : Config} {t : Token} {d : Directive} : Directive.ofSegment? c t = some d → Part t d.rest
  | name {c : Config} {t : Token} {n : Naming} : Naming.ofSegment? c t = some n → Part t n.name
  | nameKeyword {c : Config} {t : Token} {n : Naming} : Naming.ofSegment? c t = some n → Part t n.keyword
  | nameRest {c : Config} {t : Token} {n : Naming} : Naming.ofSegment? c t = some n → Part t n.rest

theorem Token.Part.within {t u : Token} (h : Part t u) : u.span.Within t.span := by
  cases h with
  | commentKeyword h => exact (Directive.ofComment?_covers h).within (by simp)
  | commentRest h => exact (Directive.ofComment?_covers h).within (by simp)
  | resultKeyword h => exact (Directive.ofSegment?_covers h).within (by simp)
  | resultRest h => exact (Directive.ofSegment?_covers h).within (by simp)
  | name h => exact (Naming.ofSegment?_covers h).within (by simp)
  | nameKeyword h => exact (Naming.ofSegment?_covers h).within (by simp)
  | nameRest h => exact (Naming.ofSegment?_covers h).within (by simp)

theorem Token.within_of_parts {t u : Token} (h : Relation.ReflTransGen Part t u) : u.span.Within t.span := by
  induction h with
  | refl => exact Stretch.Within.refl _
  | tail _ step ih => exact step.within.trans ih

/-- A token of a source is cut out of one of the lines, whose number gives the line of its position. -/
theorem exists_line_of_mem_lex {source : String} {start : Position} {config : Config} {t : Token}
    (h : t ∈ (lex source start config).value) :
    ∃ i line, (Lines.cut source.toList)[i]? = some line ∧
      t.span.Within ⟨line, ⟨start.source, start.line + (i + 1), 0⟩⟩ := by
  obtain ⟨i, line, hl, rfl⟩ := exists_lineToken_of_mem_lex h
  exact ⟨i, line, hl, (config.lineToken_covers _).within (List.mem_singleton.2 rfl)⟩

/-- Every part of a token of a source, at any depth, stands on one of the lines of the source: its position names
the source, a line and a column of that line, or the one behind its last character, and its payload is what stands
there.  Lines are numbered from 1 here. -/
theorem payload_at_position {source : String} {start : Position} {config : Config} {t u : Token}
    (lexed : t ∈ (lex source start config).value) (parts : Relation.ReflTransGen Token.Part t u) :
    u.position.source = start.source ∧
      ∃ i line, 1 ≤ i ∧ i ≤ source.toList.count '\n' + 1 ∧ u.position.line = start.line + i ∧
        (Lines.cut source.toList)[i - 1]? = some line ∧
        1 ≤ u.position.column ∧ u.position.column ≤ 1 + line.length ∧
        ∀ v, u.payload? = some v → (line.drop (u.position.column - 1)).take v.length = v.toList := by
  obtain ⟨i, line, hl, ht⟩ := exists_line_of_mem_lex lexed
  have hu := (Token.within_of_parts parts).trans ht
  have hi : i < (Lines.cut source.toList).length := (List.getElem?_eq_some_iff.1 hl).1
  have hoff : u.position.offset + u.span.text.length ≤ 0 + line.length := hu.offset_le
  rw [Lines.length_cut] at hi
  refine ⟨hu.source_eq, i + 1, line, by omega, by omega, hu.line_eq, hl, ?_, ?_, ?_⟩
  · rw [Position.column]
    omega
  · rw [Position.column]
    omega
  · intro v hv
    have e : u.span.text = v.toList := by simp [Token.span, hv]
    have := hu.take_drop
    rw [e, String.length_toList] at this
    exact this

/-- The second directive word of a remainder, found with another sigil behind characters of several bytes. -/
theorem payload_at_position_of_nested :
    ∃ t u : Token, t ∈ (lex "select 1\n\t-- :name  fôo :many ☃ @one " ⟨"q.sql", 9, 5⟩ {}).value ∧
      Relation.ReflTransGen Token.Part t u ∧ u.payload? = some "@one" ∧ u.position.column = 24 ∧
      ∃ line, (Lines.cut "select 1\n\t-- :name  fôo :many ☃ @one ".toList)[1]? = some line ∧
        (line.drop 23).take 4 = "@one".toList := by
  let line : Token := ⟨.comment, some "-- :name  fôo :many ☃ @one", ⟨"q.sql", 11, 1⟩⟩
  let body : Token := ⟨.segment, some "fôo :many ☃ @one", ⟨"q.sql", 11, 11⟩⟩
  let rest : Token := ⟨.segment, some "☃ @one", ⟨"q.sql", 11, 21⟩⟩
  let one : Token := ⟨.keyword, some "@one", ⟨"q.sql", 11, 23⟩⟩
  have h₁ : Directive.ofComment? {} line = some ⟨⟨.keyword, some ":name", ⟨"q.sql", 11, 4⟩⟩, body⟩ := by decide
  have h₂ : Naming.ofSegment? {} body =
      some ⟨⟨.name, some "fôo", ⟨"q.sql", 11, 11⟩⟩, ⟨.keyword, some ":many", ⟨"q.sql", 11, 15⟩⟩, rest⟩ := by decide
  have h₃ : Naming.ofSegment? { sigil := '@' } rest =
      some ⟨⟨.name, some "☃", ⟨"q.sql", 11, 21⟩⟩, one, ⟨.segment, none, ⟨"q.sql", 11, 27⟩⟩⟩ := by decide
  have lexed : line ∈ (lex "select 1\n\t-- :name  fôo :many ☃ @one " ⟨"q.sql", 9, 5⟩ {}).value := by
    rw [value_lex]
    decide
  have parts : Relation.ReflTransGen Token.Part line one :=
    ((Relation.ReflTransGen.single (.commentRest h₁)).tail (.nameRest h₂)).tail (.nameKeyword h₃)
  refine ⟨line, one, lexed, parts, rfl, rfl, ?_⟩
  obtain ⟨-, i, text, -, -, hi, hl, -, -, hv⟩ := payload_at_position lexed parts
  have : i = 2 := Nat.add_left_cancel hi.symm
  subst this
  exact ⟨text, hl, hv "@one" rfl⟩

end AnnotatedSql
