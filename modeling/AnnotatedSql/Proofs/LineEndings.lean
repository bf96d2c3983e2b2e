import AnnotatedSql.Proofs.Relexing

/-!
# Line endings

A carriage return in front of a line feed is a blank at the end of its line, which is trimmed away with the others.
It leaves a trace on blank lines only: all blanks of such a line stand in front of its empty payload, so one more of
them moves the token to the right.

* `Lines.exists_cut_returns`: all lines but the last one end with a carriage return;
* `Stretch.trim_append_gap`, `Config.lineToken_return`: what one more blank at the end of a line does to its token;
* `lex_withReturns`: the tokens of a source with carriage returns;
* `lex_withReturns_ne`: these are not always those of the source without them.
-/

namespace AnnotatedSql

open Words

/-! ### Lines with carriage returns -/

namespace Lines

/-- A carriage return in front of every line feed. -/
def returns (text : List Char) : List Char := text.flatMap fun c => if c = '\n' then ['\r', '\n'] else [c]

theorem exists_cut_returns (text : List Char) :
    ∃ lines last, cut text = lines ++ [last] ∧ cut (returns text) = lines.map (· ++ ['\r']) ++ [last] := by
  induction text with
  | nil => exact ⟨[], [], rfl, rfl⟩
  | cons c text ih =>
    obtain ⟨lines, last, h, hr⟩ := ih
    by_cases hc : c = '\n'
    · subst hc
      have e : returns ('\n' :: text) = '\r' :: '\n' :: returns text := by simp [returns]
      refine ⟨[] :: lines, last, ?_, ?_⟩
      · rw [cut, if_pos rfl, h, List.cons_append]
      · rw [e, cut, if_neg (by decide), cut, if_pos rfl, hr]
        rfl
    · have e : returns (c :: text) = c :: returns text := by simp [returns, hc]
      rw [e, cut, if_neg hc, cut, if_neg hc, h, hr]
      -- the character goes to the first line, which may be the last one
      cases lines with
      | nil => exact ⟨[], c :: last, rfl, rfl⟩
      | cons line lines => exact ⟨(c :: line) :: lines, last, rfl, rfl⟩

end Lines

/-- The source with a carriage return in front of every line feed. -/
def withReturns (source : String) : String := String.ofList (Lines.returns source.toList)

/-! ### Tokens with a blank more -/

/-- A gap at the end of a stretch is trimmed away; if the stretch is blank, its end moves. -/
theorem Stretch.trim_append_gap (text : List Char) {gap : List Char} (h : IsGap gap) (p : Position) :
    (⟨text ++ gap, p⟩ : Stretch).trim =
      if IsGap text then ⟨[], p.right (text.length + gap.length)⟩ else (⟨text, p⟩ : Stretch).trim := by
  by_cases blank : IsGap text
  · have all : IsGap (text ++ gap) := isGap_append.2 ⟨blank, h⟩
    have trimmed : (⟨(text ++ gap) ++ ([] ++ []), p⟩ : Stretch).trim = ⟨[], p.right (text ++ gap).length⟩ :=
      trim_append all endsGap_nil (by simp [NoTrailing]) isGap_nil p
    rw [if_pos blank]
    simpa using trimmed
  · let s : Stretch := ⟨text, p⟩
    obtain ⟨lead, trail, e, hp, hl, ht, he, hn⟩ := s.exists_trim
    have kept : s.trim.text ≠ [] := fun nothing => blank (trim_text_eq_nil_iff.1 nothing)
    have e' : text ++ gap = lead ++ (s.trim.text ++ (trail ++ gap)) := by
      rw [show text = _ from e]
      simp
    rw [if_neg blank, e', trim_append hl (he.of_append.append kept _) hn (isGap_append.2 ⟨ht, h⟩), ← hp]

/-- The token of a line that ends with one blank more: on a blank line it stands one column further to the right. -/
def Token.pushed (t : Token) : Token :=
  if t.payload? = some "" then { t with position := t.position.right 1 } else t

theorem Token.pushed_eq_self_iff {t : Token} : t.pushed = t ↔ t.payload? ≠ some "" := by
  by_cases blank : t.payload? = some ""
  · have moved : t.pushed.position.offset = t.position.offset + 1 := by
      rw [pushed, if_pos blank]
      rfl
    constructor
    · intro same
      rw [same] at moved
      omega
    · exact fun written => absurd blank written
  · simp [pushed, blank]

namespace Config

theorem payload?_lineToken_eq_empty_iff {c : Config} {line : Stretch} :
    (c.lineToken line).payload? = some "" ↔ IsGap line.text := by
  rw [← Stretch.trim_text_eq_nil_iff]
  simp [lineToken, Stretch.toToken]

theorem lineToken_return (c : Config) (line : List Char) (p : Position) :
    c.lineToken ⟨line ++ ['\r'], p⟩ = (c.lineToken ⟨line, p⟩).pushed := by
  have gap : IsGap ['\r'] := by decide
  rw [Token.pushed]
  simp only [payload?_lineToken_eq_empty_iff]
  by_cases blank : IsGap line
  · have trimmed : (⟨line, p⟩ : Stretch).trim = ⟨[], p.right line.length⟩ := by
      simpa [blank] using Stretch.trim_append_gap line isGap_nil p
    simp [lineToken, Stretch.trim_append_gap line gap, blank, trimmed, Stretch.toToken]
  · simp [lineToken, Stretch.trim_append_gap line gap, blank]

theorem lineTokens_returns (c : Config) (p : Position) (lines : List (List Char)) :
    c.lineTokens p (lines.map (· ++ ['\r'])) = (c.lineTokens p lines).map Token.pushed := by
  induction lines generalizing p with
  | nil => rfl
  | cons line lines ih => rw [List.map_cons, lineTokens, lineTokens, lineToken_return, ih, List.map_cons]

end Config

/-- With a carriage return in front of every line feed, a source is lexed to the same tokens, except that those of
blank lines stand one column further to the right; the last line, which no line feed ends, keeps its token.  So the
tokens are the same exactly when no line but the last one is blank. -/
theorem lex_withReturns (source : String) (start : Position) (config : Config) :
    let tokens := (lex source start config).value
    let again := (lex (withReturns source) start config).value
    ∃ front last, tokens = front ++ [last] ∧ again = front.map Token.pushed ++ [last] ∧
      (again = tokens ↔ ∀ t ∈ front, t.payload? ≠ some "") := by
  intro tokens again
  obtain ⟨lines, last, h, hr⟩ := Lines.exists_cut_returns source.toList
  let front := config.lineTokens start lines
  let final := config.lineTokens (start.down lines.length) [last]
  have before : tokens = front ++ final := by
    rw [show tokens = _ from value_lex source start config, h, config.lineTokens_append]
  have after : again = front.map Token.pushed ++ final := by
    rw [show again = _ from value_lex _ start config, withReturns, String.toList_ofList, hr, config.lineTokens_append,
      config.lineTokens_returns, List.length_map]
  refine ⟨front, _, before, after, ?_⟩
  calc again = tokens
      ↔ front.map Token.pushed = front.map id := by rw [before, after, List.append_cancel_right_eq, List.map_id]
    _ ↔ ∀ t ∈ front, t.pushed = t := List.map_inj_left
    _ ↔ ∀ t ∈ front, t.payload? ≠ some "" := forall₂_congr fun t _ => t.pushed_eq_self_iff

/-- Between two lines of text, a blank line that ends with a carriage return is lexed to another column. -/
theorem lex_withReturns_ne :
    withReturns "a\n\nb" = "a\r\n\r\nb" ∧ '\r' ∉ "a\n\nb".toList ∧
      (lex (withReturns "a\n\nb") .literal {}).value ≠ (lex "a\n\nb" .literal {}).value := by
  refine ⟨by decide, by decide, ?_⟩
  have plain : (lex "a\n\nb" .literal {}).value[1]? = some ⟨.query, some "", ⟨"<literal>", 2, 0⟩⟩ := by
    rw [value_lex]
    decide
  have returned : (lex (withReturns "a\n\nb") .literal {}).value[1]? = some ⟨.query, some "", ⟨"<literal>", 2, 1⟩⟩ := by
    rw [value_lex]
    decide
  intro same
  rw [same, plain] at returned
  exact absurd returned (by decide)

end AnnotatedSql
