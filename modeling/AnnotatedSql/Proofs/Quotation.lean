import AnnotatedSql.Proofs.Delimited
import AnnotatedSql.Text.Quoted

/-!
# Quotations are read in one way

A text between double quotes shows where it ends: the closing quote does not occur inside, and each character inside
shows where its own writing ends.  A quotation never holds a line feed.

* `selfDelimiting_encodeChar`, `selfDelimiting_string`: one character, and a whole text between its quotes;
* `newline_not_mem_string`: a quotation stays on one line.
-/

namespace AnnotatedSql.Quoted

/-- The letters that may stand behind a backslash, each with the character that it stands for. -/
def letterEscapes : List (Char × Char) :=
  [('0', '\x00'), ('t', '\t'), ('n', '\n'), ('r', '\r'), ('\\', '\\'), ('"', '"')]

theorem mem_letterEscapes {c letter : Char} (h : escapeLetter? '"' c = some letter) :
    (letter, c) ∈ letterEscapes := by
  unfold escapeLetter? at h
  unfold letterEscapes
  repeat' split at h
  all_goals cases h
  all_goals simp_all

theorem ne_of_escapeLetter?_eq_none {quote c : Char} (h : escapeLetter? quote c = none) :
    c ≠ '\\' ∧ c ≠ quote ∧ c ≠ '\n' := by
  unfold escapeLetter? at h
  repeat' split at h
  all_goals simp_all

private theorem letterEscapes_facts : ∀ escape ∈ letterEscapes,
    escape.1 ≠ 'u' ∧ escape.1 ≠ '\n' ∧ ∀ escape' ∈ letterEscapes, escape.1 = escape'.1 → escape = escape' := by
  decide

/-! ### One character -/

/-- A character is written as a backslash and a letter, as a backslash and its code in braces, or as it is. -/
theorem encodeChar_cases (c : Char) :
    (∃ letter, (letter, c) ∈ letterEscapes ∧ encodeChar '"' c = ['\\', letter]) ∨
    encodeChar '"' c = ['\\', 'u', '{'] ++ Nat.toDigits 16 c.toNat ++ ['}'] ∨
    (c ≠ '\\' ∧ c ≠ '"' ∧ c ≠ '\n') ∧ encodeChar '"' c = [c] := by
  unfold encodeChar
  cases h : escapeLetter? '"' c with
  | some letter => exact .inl ⟨letter, mem_letterEscapes h, rfl⟩
  | none =>
    right
    simp only
    split
    · exact .inl rfl
    · exact .inr ⟨ne_of_escapeLetter?_eq_none h, rfl⟩

/-- A code ends at its closing brace. -/
private theorem code_append_inj {a b : Char} {more more' : List Char}
    (h : Nat.toDigits 16 a.toNat ++ '}' :: more = Nat.toDigits 16 b.toNat ++ '}' :: more') :
    a = b ∧ more = more' := by
  have brace (text : List Char) : ∀ c ∈ ('}' :: text).head?, ¬IsNumeral c := by
    rintro c hc ⟨k, rfl⟩
    simp at hc
  obtain ⟨code, rest⟩ := toDigits_append_inj (by decide) (by decide) (brace more) (brace more') h
  exact ⟨Char.toNat_inj.1 code, (List.cons.inj rest).2⟩

theorem selfDelimiting_encodeChar : SelfDelimiting (encodeChar '"') := by
  intro a b more more' h
  rcases encodeChar_cases a with ⟨letter, ha, e⟩ | e | ⟨⟨ha, -⟩, e⟩ <;>
  rcases encodeChar_cases b with ⟨letter', hb, e'⟩ | e' | ⟨⟨hb, -⟩, e'⟩ <;>
  rw [e, e'] at h <;>
  simp only [List.cons_append, List.nil_append, List.append_assoc, List.cons.injEq, true_and] at h
  · obtain ⟨rfl, rfl⟩ := h
    have same := (letterEscapes_facts _ ha).2.2 _ hb rfl
    exact ⟨(Prod.mk.inj same).2, rfl⟩
  · exact absurd h.1 (letterEscapes_facts _ ha).1
  · exact absurd h.1.symm hb
  · exact absurd h.1.symm (letterEscapes_facts _ hb).1
  · exact code_append_inj h
  · exact absurd h.1.symm hb
  · exact absurd h.1 ha
  · exact absurd h.1 ha
  · exact h

/-- No character is written with the closing quote in front. -/
theorem encodeChar_eq_cons (c : Char) : ∃ d more, encodeChar '"' c = d :: more ∧ d ≠ '"' := by
  rcases encodeChar_cases c with ⟨letter, -, e⟩ | e | ⟨⟨-, hc, -⟩, e⟩
  · exact ⟨_, _, e, by decide⟩
  · exact ⟨_, _, e, by decide⟩
  · exact ⟨_, _, e, hc⟩

theorem newline_not_mem_encodeChar (c : Char) : '\n' ∉ encodeChar '"' c := by
  intro hn
  rcases encodeChar_cases c with ⟨letter, h, e⟩ | e | ⟨⟨-, -, hc⟩, e⟩ <;> rw [e] at hn
  · simp only [List.mem_cons, List.not_mem_nil, or_false] at hn
    rcases hn with hn | hn
    · exact absurd hn (by decide)
    · exact absurd hn.symm (letterEscapes_facts _ h).2.1
  · simp only [List.mem_append, List.mem_cons, List.not_mem_nil, or_false] at hn
    rcases hn with (hn | hn) | hn
    · exact absurd hn (by decide)
    · exact newline_not_mem_toDigits (by decide) _ hn
    · exact absurd hn (by decide)
  · exact hc (List.mem_singleton.1 hn).symm

/-! ### Texts between quotes -/

theorem selfDelimiting_string : SelfDelimiting fun text : String => (string text).toList := by
  intro a b more more' h
  have inside := selfDelimiting_encodeChar.flatMap encodeChar_eq_cons
  simp only [string, String.toList_ofList, List.cons_append, List.cons.injEq, true_and] at h
  obtain ⟨text, rest⟩ := inside h
  exact ⟨String.toList_inj.1 text, rest⟩

theorem newline_not_mem_string (text : String) : '\n' ∉ (string text).toList := by
  intro hn
  simp only [string, encode, String.toList_ofList, List.mem_cons, List.mem_append, List.mem_flatMap,
    List.not_mem_nil, or_false] at hn
  rcases hn with hn | ⟨c, -, hc⟩ | hn
  · exact absurd hn (by decide)
  · exact newline_not_mem_encodeChar c hc
  · exact absurd hn (by decide)

end AnnotatedSql.Quoted
