import AnnotatedSql.Proofs.Forms

/-!
# Names and keywords read again

Wherever a keyword was read, behind a marker, at the start of a segment or behind a name, it is a directive word, and
a name is a word.  Words have no blanks to trim and nothing behind them, so a keyword read as a directive gives
itself, and so does a name read as a name.

* `Token.KeywordOf.exists_word`: what a keyword is;
* `Naming.exists_word`: what a name is;
* `Directive.ofSegment?_word`, `Naming.ofSegment?_word`: what the readers make of a word alone;
* `parts_read_again`: both together.
-/

namespace AnnotatedSql

open Words

/-- The second token is the keyword that a reader finds in the first. -/
inductive Token.KeywordOf (c : Config) (t : Token) : Token → Prop
  | comment {d : Directive} : Directive.ofComment? c t = some d → KeywordOf c t d.keyword
  | result {d : Directive} : Directive.ofSegment? c t = some d → KeywordOf c t d.keyword
  | naming {n : Naming} : Naming.ofSegment? c t = some n → KeywordOf c t n.keyword

/-- A keyword that is there is a directive word, and there are none with a blank sigil. -/
theorem Token.KeywordOf.exists_word {c : Config} {t k : Token} (h : KeywordOf c t k) (present : k.payload?.isSome) :
    ∃ word, isBlank c.sigil = false ∧ IsDirective c.sigil word ∧
      k = ⟨.keyword, some (String.ofList word), k.position⟩ := by
  cases h with
  | comment h =>
    obtain ⟨lead, word, gap, rest, hf, -, rfl⟩ := Directive.ofComment?_eq_some_iff.1 h
    exact ⟨word, hf.sigil, hf.isDirective, rfl⟩
  | result h =>
    obtain ⟨s, word, rest, -, -, hs, hw, -, rfl⟩ := Directive.ofSegment?_eq_some_iff.1 h
    exact ⟨word, hs, hw, rfl⟩
  | naming h =>
    obtain ⟨s, name, gap, word?, gap', rest, -, -, hf, rfl⟩ := Naming.ofSegment?_eq_some_iff.1 h
    cases word? with
    | none => cases present
    | some word =>
      obtain ⟨hs, hw, -⟩ := hf.keyword word rfl
      exact ⟨word, hs, hw, rfl⟩

namespace Naming

theorem exists_word {c : Config} {t : Token} {n : Naming} (h : ofSegment? c t = some n) :
    ∃ word, IsWord word ∧ n.name = ⟨.name, some (String.ofList word), n.name.position⟩ := by
  obtain ⟨s, name, gap, word?, gap', rest, -, -, hf, rfl⟩ := ofSegment?_eq_some_iff.1 h
  exact ⟨name, hf.isWord, rfl⟩

/-- A word alone is of the form with nothing behind the name. -/
theorem form_of_isWord (c : Config) {word : List Char} (h : IsWord word) : Form c word [] none [] [] where
  isWord := h
  isGap := isGap_nil
  endsName := endsWord_nil
  isGap' := isGap_nil
  endsGap := endsGap_nil
  keyword := by simp
  plain := fun _ => ⟨rfl, by simp [OpensDirective]⟩

theorem ofSegment?_word {c : Config} {word : List Char} (h : IsWord word) (tag : Tag) (p : Position) :
    ofSegment? c ⟨tag, some (String.ofList word), p⟩ =
      some ⟨⟨.name, some (String.ofList word), p⟩, ⟨.keyword, none, p.right word.length⟩,
        ⟨.segment, none, p.right word.length⟩⟩ := by
  have trimmed := Stretch.trim_of_isWord h p
  have hs : (⟨tag, some (String.ofList word), p⟩ : Token).stretch? = some ⟨word, p⟩ :=
    Token.stretch?_eq_some_iff.2 ⟨rfl, rfl⟩
  rw [ofSegment?_of_form (form_of_isWord c h) hs (by simp [trimmed]), trimmed]
  simp [ofForm, Stretch.toToken, Stretch.toOptionalToken]

end Naming

/-- A keyword, wherever it was found, is a segment that opens with itself and has no rest; a name is a segment whose
name it is, without a keyword and without a rest.  What is missing stands behind the last character. -/
theorem parts_read_again (c : Config) (t : Token) :
    (∀ k text, Token.KeywordOf c t k → k.payload? = some text →
      Directive.ofSegment? c k = some ⟨k, ⟨.segment, none, k.position.right text.length⟩⟩) ∧
    ∀ n, Naming.ofSegment? c t = some n → ∃ text, n.name.payload? = some text ∧
      let behind := n.name.position.right text.length
      Naming.ofSegment? c n.name = some ⟨n.name, ⟨.keyword, none, behind⟩, ⟨.segment, none, behind⟩⟩ := by
  constructor
  · intro k text h ht
    obtain ⟨word, hs, hw, e⟩ := h.exists_word (Option.isSome_of_eq_some ht)
    rw [e] at ht
    obtain rfl : String.ofList word = text := Option.some.inj ht
    have again := Directive.ofSegment?_word hw hs .keyword k.position
    rwa [← e, ← String.length_ofList] at again
  · intro n h
    obtain ⟨word, hw, e⟩ := Naming.exists_word h
    refine ⟨String.ofList word, congrArg Token.payload? e, ?_⟩
    have again := Naming.ofSegment?_word (c := c) hw .name n.name.position
    rwa [← e, ← String.length_ofList] at again

/-- A name that looks like a directive word stays a name, and a keyword that opens with two sigils stays one. -/
theorem parts_read_again_of_sigils :
    let t : Token := ⟨.segment, some " :n  ::é r", ⟨"q", 2, 3⟩⟩
    let k : Token := ⟨.keyword, some "::é", ⟨"q", 2, 8⟩⟩
    let n : Naming := ⟨⟨.name, some ":n", ⟨"q", 2, 4⟩⟩, k, ⟨.segment, some "r", ⟨"q", 2, 12⟩⟩⟩
    Naming.ofSegment? {} t = some n ∧ k.payload? = some "::é" ∧
      Directive.ofSegment? {} k = some ⟨k, ⟨.segment, none, ⟨"q", 2, 11⟩⟩⟩ ∧
      Naming.ofSegment? {} n.name =
        some ⟨n.name, ⟨.keyword, none, ⟨"q", 2, 6⟩⟩, ⟨.segment, none, ⟨"q", 2, 6⟩⟩⟩ := by
  intro t k n
  have read : Naming.ofSegment? {} t = some n := by decide
  obtain ⟨keywords, names⟩ := parts_read_again {} t
  obtain ⟨_, ⟨⟩, name⟩ := names n read
  exact ⟨read, rfl, keywords k "::é" (.naming read) rfl, name⟩

end AnnotatedSql
