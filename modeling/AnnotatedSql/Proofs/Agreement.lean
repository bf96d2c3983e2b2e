import AnnotatedSql.Proofs.Forms
import AnnotatedSql.Proofs.LineTokens

/-!
# Agreement of the readers

A directive word is read in three places: behind the marker of a comment, at the start of a segment and behind a name.
The readers treat the blanks around the word in different ways, and agree on everything else.  Reading a segment is the
common measure: a comment is read like the segment behind its marker, and a naming like the segment behind its name,
but for blanks in front of the rest.

* `Stretch.trim_eq_trimStart`: without blanks at its end, a stretch is trimmed at its start only;
* `Directive.ofComment?_eq_map`: comments against segments;
* `Naming.ofSegment?_eq_elim`: namings against segments;
* `readers_agree`: both together.
-/

namespace AnnotatedSql

open Words

/-- The token without the blanks that its payload opens with, and as far to the right as these were wide.  An absent
payload stays absent. -/
def Token.trimStart (t : Token) : Token where
  tag := t.tag
  payload? := t.payload?.map fun text => String.ofList (text.toList.dropWhile isBlank)
  position := t.position.right (t.payload?.elim 0 fun text => (text.toList.takeWhile isBlank).length)

/-- The token with an empty payload in place of an absent one. -/
def Token.orEmpty (t : Token) : Token := { t with payload? := some (t.payload?.getD "") }

/-- The token with an absent payload in place of an empty one. -/
def Token.orAbsent (t : Token) : Token := { t with payload? := t.payload?.filter fun text => text ≠ "" }

namespace Stretch

theorem trimStart_toToken (s : Stretch) (tag : Tag) : (s.toToken tag).trimStart = s.trimStart.toToken tag := by
  simp only [Token.trimStart, toToken, Option.map_some, Option.elim_some, String.toList_ofList, trimStart_text]
  rfl

theorem orAbsent_toToken (s : Stretch) (tag : Tag) : (s.toToken tag).orAbsent = s.toOptionalToken tag := by
  rw [toOptionalToken_eq]
  by_cases empty : s.text = [] <;> simp [Token.orAbsent, toToken, Option.filter, empty]

theorem orEmpty_toOptionalToken (s : Stretch) (tag : Tag) : (s.toOptionalToken tag).orEmpty = s.toToken tag := by
  rw [toOptionalToken_eq]
  by_cases empty : s.text = [] <;> simp [Token.orEmpty, toToken, empty]

theorem trim_eq_trimStart {s : Stretch} (h : NoTrailing s.text) : s.trim = s.trimStart := by
  have kept : Words.trimEnd s.trimStart.text = s.trimStart.text := trimEnd_eq_self (h.drop _)
  rw [trim, trimEnd, kept]

/-- Without blanks at its end, a stretch that is there is not trimmed away. -/
theorem trimStart_toOptionalToken {s : Stretch} (h : NoTrailing s.text) (tag : Tag) :
    (s.toOptionalToken tag).trimStart = s.trimStart.toOptionalToken tag := by
  rw [toOptionalToken_eq, toOptionalToken_eq, trimStart_text]
  by_cases empty : s.text = []
  · simp [empty, Token.trimStart, trimStart, blankWidth]
  · have present : s.text.dropWhile isBlank ≠ [] := fun blank =>
      empty (h.eq_nil (List.dropWhile_eq_nil_iff.1 blank))
    rw [if_neg empty, if_neg present, ← trimStart_text]
    exact s.trimStart_toToken tag

end Stretch

/-! ### Comments and segments -/

namespace Directive

/-- The directive that a segment without blanks at its end opens with. -/
theorem ofSegment?_eq_map {c : Config} {t : Token} {s : Stretch} (hs : t.stretch? = some s) (hn : NoTrailing s.text) :
    ofSegment? c t = (directiveWidth? c.sigil s.trimStart.text).map fun width =>
      ⟨(s.trimStart.take width).toToken .keyword, (s.trimStart.drop width).toOptionalToken .segment⟩ := by
  simp only [ofSegment?, hs, Option.bind_eq_bind, Option.bind_some, Stretch.trim_eq_trimStart hn]
  cases directiveWidth? c.sigil s.trimStart.text <;> rfl

theorem isSome_keyword_of_ofSegment? {c : Config} {t : Token} {d : Directive} (h : ofSegment? c t = some d) :
    d.keyword.payload?.isSome := by
  obtain ⟨_, _, _, -, -, -, -, -, rfl⟩ := ofSegment?_eq_some_iff.1 h
  rfl

/-- A comment without blanks at its end holds the directive of the segment behind its marker, but for the blanks in
front of the rest. -/
theorem ofComment?_eq_map {c : Config} {t : Token} {text : String} (ht : t.payload? = some (c.marker ++ text))
    (hn : NoTrailing (c.marker ++ text).toList) :
    ofComment? c t =
      (ofSegment? c ⟨.segment, some text, t.position.right c.marker.toList.length⟩).map fun d =>
        ⟨d.keyword, d.rest.trimStart.orEmpty⟩ := by
  let s : Stretch := ⟨text.toList, t.position.right c.marker.toList.length⟩
  have hn : NoTrailing s.text := by
    rw [String.toList_append] at hn
    exact hn.of_append
  have comment : t.stretch? = some ⟨c.marker.toList ++ text.toList, t.position⟩ := by
    simp [Token.stretch?, ht]
  have segment : (⟨.segment, some text, s.position⟩ : Token).stretch? = some s := rfl
  rw [ofSegment?_eq_map segment hn, ofComment?_of_marker comment rfl, Option.map_map]
  congr 1
  funext width
  have hd : NoTrailing (s.trimStart.drop width).text := (hn.drop _).drop _
  show Directive.mk _ _ = Directive.mk _ _
  rw [Stretch.trimStart_toOptionalToken hd, Stretch.orEmpty_toOptionalToken]

end Directive

/-! ### Namings and segments -/

namespace Naming

/-- A naming takes its keyword and its rest from the directive that what follows the name opens with. -/
theorem ofSegment?_eq_elim {c : Config} {t : Token} {s name behind : Stretch} (hs : t.stretch? = some s)
    (hname : name = s.trim.take (wordWidth s.trim.text)) (hbehind : behind = s.trim.drop (wordWidth s.trim.text)) :
    ofSegment? c t = if wordWidth s.trim.text = 0 then none else
      some ((Directive.ofSegment? c (behind.toToken .segment)).elim
        ⟨name.toToken .name, ⟨.keyword, none, behind.trimStart.position⟩, behind.trimStart.toOptionalToken .segment⟩
        fun d => ⟨name.toToken .name, d.keyword, d.rest.trimStart⟩) := by
  have hn : NoTrailing behind.text := hbehind ▸ s.noTrailing_trim.drop _
  have rest (width : Nat) : ((behind.trimStart.drop width).toOptionalToken .segment).trimStart =
      (behind.trimStart.drop width).trimStart.toOptionalToken .segment :=
    Stretch.trimStart_toOptionalToken ((hn.drop _).drop width) .segment
  rw [Directive.ofSegment?_eq_map (Stretch.stretch?_toToken behind .segment) hn]
  simp only [ofSegment?, hs, ↓guard_eq, Option.bind_eq_bind, Option.bind_some, ← hname, ← hbehind]
  by_cases blank : wordWidth s.trim.text = 0
  · simp [blank]
  · -- both readers ask for a directive word at the same place
    cases directiveWidth? c.sigil behind.trimStart.text with
    | none => simp [blank]
    | some width => simp [blank, rest]

/-- The name of a naming opens the trimmed segment, and what follows it is the segment that the keyword and the rest
come from. -/
theorem exists_behind {c : Config} {t : Token} {n : Naming} (h : ofSegment? c t = some n) :
    ∃ text name behind : String, t.payload? = some text ∧ n.name.payload? = some name ∧
      (text.toList.dropWhile isBlank).rdropWhile isBlank = (name ++ behind).toList ∧
      let u : Token := ⟨.segment, some behind, n.name.position.right name.toList.length⟩
      n = (Directive.ofSegment? c u).elim ⟨n.name, ⟨.keyword, none, u.trimStart.position⟩, u.trimStart.orAbsent⟩
        fun d => ⟨n.name, d.keyword, d.rest.trimStart⟩ := by
  obtain ⟨s, hs, -⟩ := Option.bind_eq_some_iff.1 h
  let width := wordWidth s.trim.text
  let name := s.trim.take width
  let behind := s.trim.drop width
  have length : name.text.length = width := by
    show (s.trim.text.take width).length = width
    rw [take_wordWidth]
    rfl
  rw [ofSegment?_eq_elim hs rfl rfl] at h
  split at h
  · cases h
  have named : n.name = name.toToken .name := by
    obtain rfl := Option.some.inj h
    cases Directive.ofSegment? c (behind.toToken .segment) <;> rfl
  have follow : (⟨.segment, some (String.ofList behind.text), n.name.position.right name.text.length⟩ : Token) =
      behind.toToken .segment := by
    rw [named, length]
    rfl
  refine ⟨String.ofList s.text, String.ofList name.text, String.ofList behind.text,
    (Token.stretch?_eq_some_iff.1 hs).1, ?_, ?_, ?_⟩
  · rw [named]
    rfl
  · rw [← String.ofList_append, String.toList_ofList, String.toList_ofList, ← Stretch.trim_text]
    exact (List.take_append_drop width s.trim.text).symm
  · rw [String.toList_ofList]
    show n = _
    rw [follow, Stretch.trimStart_toToken, Stretch.orAbsent_toToken, named]
    exact (Option.some.inj h).symm

end Naming

/-- The three readers agree on directive words.  A comment without blanks at its end holds the directive that the
segment behind its marker opens with, but for the blanks in front of the rest, and a missing rest is empty.  A naming
has the keyword of the segment behind its name, and the rest of that segment but for the blanks in front of it; when
that segment opens with no directive word, the keyword is absent and the rest is all of it, both from the first
character that is not blank. -/
theorem readers_agree (c : Config) (t : Token) :
    (∀ text : String, t.payload? = some (c.marker ++ text) → NoTrailing (c.marker ++ text).toList →
      let u : Token := ⟨.segment, some text, t.position.right c.marker.toList.length⟩
      Directive.ofComment? c t = (Directive.ofSegment? c u).map fun d => ⟨d.keyword, d.rest.trimStart.orEmpty⟩) ∧
    ∀ n, Naming.ofSegment? c t = some n →
      ∃ text name behind : String, t.payload? = some text ∧ n.name.payload? = some name ∧
        (text.toList.dropWhile isBlank).rdropWhile isBlank = (name ++ behind).toList ∧
        let u : Token := ⟨.segment, some behind, n.name.position.right name.toList.length⟩
        (n.keyword.payload?.isSome ↔ (Directive.ofSegment? c u).isSome) ∧
        (∀ d, Directive.ofSegment? c u = some d → n.keyword = d.keyword ∧ n.rest = d.rest.trimStart) ∧
        (Directive.ofSegment? c u = none →
          n.keyword = ⟨.keyword, none, u.trimStart.position⟩ ∧ n.rest = u.trimStart.orAbsent) := by
  refine ⟨fun text ht hn => Directive.ofComment?_eq_map ht hn, fun n h => ?_⟩
  obtain ⟨text, name, behind, ht, hname, e, hn⟩ := Naming.exists_behind h
  refine ⟨text, name, behind, ht, hname, e, ?_⟩
  intro u
  cases hd : Directive.ofSegment? c u with
  | none =>
    simp only [u, hd, Option.elim_none] at hn
    rw [hn]
    simp [u]
  | some d =>
    have present : d.keyword.payload?.isSome := Directive.isSome_keyword_of_ofSegment? hd
    simp only [u, hd, Option.elim_some] at hn
    rw [hn]
    simp [present]

/-- Read as a comment and as a segment whose name is the marker, one text holds one directive word at one place. -/
theorem readers_agree_of_marker :
    let c : Config := ⟨"--", ':'⟩
    let t : Token := ⟨.comment, some "--\t:k  é", ⟨"q", 1, 2⟩⟩
    let n : Naming :=
      ⟨⟨.name, some "--", ⟨"q", 1, 2⟩⟩, ⟨.keyword, some ":k", ⟨"q", 1, 5⟩⟩, ⟨.segment, some "é", ⟨"q", 1, 9⟩⟩⟩
    NoTrailing "--\t:k  é".toList ∧ Directive.ofComment? c t = some ⟨n.keyword, n.rest⟩ ∧
      Naming.ofSegment? c t = some n ∧
      ∃ behind : String, "--\t:k  é".toList = ("--" ++ behind).toList ∧
        ∃ d, Directive.ofSegment? c ⟨.segment, some behind, ⟨"q", 1, 4⟩⟩ = some d ∧ n.keyword = d.keyword := by
  intro c t n
  have hn : NoTrailing "--\t:k  é".toList := by rintro _ ⟨⟩; decide
  have named : Naming.ofSegment? c t = some n := by decide
  obtain ⟨comment, segment⟩ := readers_agree c t
  obtain ⟨_, _, behind, ⟨⟩, ⟨⟩, e, present, keyword, -⟩ := segment n named
  obtain ⟨d, hd⟩ := Option.isSome_iff_exists.1 (present.1 rfl)
  exact ⟨hn, (comment "\t:k  é" rfl hn).trans (by decide), named, behind, e, d, hd, (keyword d hd).1⟩

end AnnotatedSql
