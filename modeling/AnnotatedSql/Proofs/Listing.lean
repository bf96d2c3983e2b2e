import AnnotatedSql.Proofs.Quotation
import AnnotatedSql.Token

/-!
# Listings are read in one way

A token is known by its text form, whatever its payload and the name of its source look like.  The tag and the
payload are read from the left, the column and the line from the right, and the name of the source is what is left
in between.  A list of tokens is known by its listing, as long as no line feed occurs in the name of a source.

* `Position.toText_inj`, `Token.toText_inj`: positions and tokens are known by their text forms;
* `Token.lines_of_listing`: a listing has one line for each token, and tokens are known by their listing.
-/

namespace AnnotatedSql

private theorem not_isNumeral_colon : ¬IsNumeral ':' := by
  rintro ⟨k, hk⟩
  simp at hk

theorem Position.toList_toText (p : Position) :
    p.toText.toList =
      (p.source.toList ++ ':' :: Nat.toDigits 10 p.line) ++ ':' :: Nat.toDigits 10 p.column := by
  simp [toText]

theorem Position.toText_inj {p q : Position} : p.toText = q.toText ↔ p = q := by
  constructor
  · intro h
    have text := congrArg String.toList h
    rw [toList_toText, toList_toText] at text
    obtain ⟨front, column⟩ := append_toDigits_inj (by decide) (by decide) not_isNumeral_colon text
    obtain ⟨source, line⟩ := append_toDigits_inj (by decide) (by decide) not_isNumeral_colon front
    obtain ⟨name, l, o⟩ := p
    obtain ⟨name', l', o'⟩ := q
    simp only [Position.column, Nat.add_right_cancel_iff] at column
    rw [Position.mk.injEq]
    exact ⟨String.toList_inj.1 source, line, column⟩
  · rintro rfl
    rfl

namespace Token

theorem toList_toText (t : Token) :
    t.toText.toList =
      t.tag.code :: '(' :: (t.payloadText.toList ++ ([')', ' ', '@', ' '] ++ t.position.toText.toList)) := by
  simp [toText]

/-- A payload shows where it ends, and so does the dash for an absent one. -/
theorem payloadText_append_inj {t u : Token} {more more' : List Char}
    (h : t.payloadText.toList ++ more = u.payloadText.toList ++ more') : t.payload? = u.payload? ∧ more = more' := by
  unfold payloadText at h
  cases ht : t.payload? <;> cases hu : u.payload? <;> rw [ht, hu] at h
  · simpa using h
  · simp [Quoted.string] at h
  · simp [Quoted.string] at h
  · obtain ⟨rfl, rest⟩ := Quoted.selfDelimiting_string h
    exact ⟨rfl, rest⟩

theorem toText_inj {t u : Token} : t.toText = u.toText ↔ t = u := by
  constructor
  · intro h
    have text := congrArg String.toList h
    rw [toList_toText, toList_toText] at text
    simp only [List.cons.injEq, true_and] at text
    obtain ⟨code, text⟩ := text
    obtain ⟨payload, text⟩ := payloadText_append_inj text
    have position := Position.toText_inj.1 (String.toList_inj.1 (List.append_cancel_left text))
    obtain ⟨tag, payload?, p⟩ := t
    rw [Token.mk.injEq]
    exact ⟨Tag.code_injective code, payload, position⟩
  · rintro rfl
    rfl

theorem newline_not_mem_payloadText (t : Token) : '\n' ∉ t.payloadText.toList := by
  unfold payloadText
  split
  · exact Quoted.newline_not_mem_string _
  · decide

theorem newline_not_mem_toText {t : Token} (h : '\n' ∉ t.position.source.toList) : '\n' ∉ t.toText.toList := by
  have code : t.tag.code ≠ '\n' := by cases t.tag <;> decide
  have payload := t.newline_not_mem_payloadText
  have line : '\n' ∉ Nat.toDigits 10 t.position.line := newline_not_mem_toDigits (by decide) _
  have column : '\n' ∉ Nat.toDigits 10 t.position.column := newline_not_mem_toDigits (by decide) _
  rw [toList_toText, Position.toList_toText]
  simp [code.symm, payload, h, line, column]

theorem toText_ne_empty (t : Token) : t.toText ≠ "" := by
  intro h
  have text := congrArg String.toList h
  rw [toList_toText] at text
  cases text

/-! ### Listings -/

theorem toList_listing (tokens : List Token) :
    (listing tokens).toList = ['\n'].intercalate (tokens.map fun t => t.toText.toList) := by
  rw [listing, String.toList_intercalate, List.map_map]
  rfl

theorem splitOn_listing {tokens : List Token} (hne : tokens ≠ [])
    (h : ∀ t ∈ tokens, '\n' ∉ t.position.source.toList) :
    (listing tokens).toList.splitOn '\n' = tokens.map fun t => t.toText.toList := by
  rw [toList_listing]
  apply List.splitOn_intercalate
  · intro line hl
    obtain ⟨t, ht, rfl⟩ := List.mem_map.1 hl
    exact newline_not_mem_toText (h t ht)
  · simpa using hne

/-- The listing of no tokens is the empty text, and no other listing is. -/
theorem listing_eq_empty_iff {tokens : List Token} (h : ∀ t ∈ tokens, '\n' ∉ t.position.source.toList) :
    listing tokens = "" ↔ tokens = [] := by
  constructor
  · intro empty
    cases tokens with
    | nil => rfl
    | cons t tokens =>
      have lines := splitOn_listing (List.cons_ne_nil t tokens) h
      rw [empty] at lines
      -- the empty text has one line, which is empty
      have first : [] = t.toText.toList := (List.cons.inj lines).1
      exact absurd (String.toList_inj.1 first.symm) t.toText_ne_empty
  · rintro rfl
    rfl

/-- As long as no line feed occurs in the name of a source, a listing has one line for each token, the text form of
that token, and no two lists of tokens have the same listing.  The text form of one token tells the token whatever
its source is called. -/
theorem lines_of_listing {ts us : List Token} (hts : ∀ t ∈ ts, '\n' ∉ t.position.source.toList)
    (hus : ∀ u ∈ us, '\n' ∉ u.position.source.toList) :
    listing [] = "" ∧
      (ts ≠ [] → (listing ts).toList.splitOn '\n' = ts.map fun t => t.toText.toList) ∧
      (listing ts = listing us ↔ ts = us) ∧
      ∀ t u : Token, t.toText = u.toText ↔ t = u := by
  refine ⟨rfl, fun hne => splitOn_listing hne hts, ⟨?_, ?_⟩, fun t u => toText_inj⟩
  · intro h
    by_cases ht : ts = []
    · subst ht
      exact ((listing_eq_empty_iff hus).1 h.symm).symm
    · have hu : us ≠ [] := by
        rintro rfl
        exact ht ((listing_eq_empty_iff hts).1 h)
      have lines : ts.map (fun t => t.toText.toList) = us.map fun u => u.toText.toList := by
        rw [← splitOn_listing ht hts, ← splitOn_listing hu hus, h]
      exact (List.map_inj_right fun t u e => toText_inj.1 (String.toList_inj.1 e)).1 lines
  · rintro rfl
    rfl

/-- A payload that looks like the end of a token and a token on a line of its own, and the two tokens that it looks
like. -/
theorem lines_of_listing_of_lookalike :
    let p : Position := ⟨"a:1 @ b", 2, 3⟩
    let whole : List Token := [⟨.name, some "x\") @ a:1 @ b:2:4\nN(\"y", p⟩, ⟨.query, none, p⟩]
    let parts : List Token := [⟨.name, some "x", p⟩, ⟨.name, some "y", p⟩, ⟨.query, some "-", p⟩]
    (∀ t ∈ whole, '\n' ∉ t.position.source.toList) ∧ (∀ t ∈ parts, '\n' ∉ t.position.source.toList) ∧
      (listing whole).toList.splitOn '\n' =
        ["N(\"x\\\") @ a:1 @ b:2:4\\nN(\\\"y\") @ a:1 @ b:2:4".toList, "Q(-) @ a:1 @ b:2:4".toList] ∧
      listing whole ≠ listing parts := by
  intro p whole parts
  have hw : ∀ t ∈ whole, '\n' ∉ t.position.source.toList := by decide
  have hp : ∀ t ∈ parts, '\n' ∉ t.position.source.toList := by decide
  obtain ⟨-, lines, same, -⟩ := lines_of_listing hw hp
  refine ⟨hw, hp, (lines (by decide)).trans (by decide +kernel), ?_⟩
  rw [ne_eq, same]
  decide

end Token

end AnnotatedSql
