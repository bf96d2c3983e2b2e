import AnnotatedSql.Proofs.Json.Unambiguous
import AnnotatedSql.Token.Dump

/-!
# Dumps are read in one way

A dump loses nothing: tokens are known by the JSON values that are made of them, and the values by what is written
for them.

* `Token.toJson_inj`: a token is known by its JSON value;
* `Token.dump_inj`: a list of tokens is known by its dump, and the dump shows where it ends;
* `Token.dump_payload_around`, `Token.dump_source_around`: a payload and the name of a source are strings in the
  dump, and the text around them does not depend on them.
-/

namespace AnnotatedSql

theorem Position.toJson_inj {p q : Position} : p.toJson = q.toJson ↔ p = q := by
  obtain ⟨source, line, offset⟩ := p
  obtain ⟨source', line', offset'⟩ := q
  simp [toJson, column]

namespace Token

theorem payloadJson_inj {t u : Token} : t.payloadJson = u.payloadJson ↔ t.payload? = u.payload? := by
  unfold payloadJson
  cases t.payload? <;> cases u.payload? <;> simp

theorem toJson_inj {t u : Token} : t.toJson = u.toJson ↔ t = u := by
  constructor
  · intro h
    simp only [toJson, Json.object.injEq, List.cons.injEq, Prod.mk.injEq, true_and, and_true, Json.string.injEq] at h
    obtain ⟨code, payload, position⟩ := h
    have letters := congrArg String.toList code
    rw [String.toList_singleton, String.toList_singleton] at letters
    obtain ⟨tag, payload?, p⟩ := t
    rw [Token.mk.injEq]
    exact ⟨Tag.code_injective (List.singleton_inj.1 letters), payloadJson_inj.1 payload,
      Position.toJson_inj.1 position⟩
  · rintro rfl
    rfl

theorem dump_append_inj {ts us : List Token} {more more' : List Char}
    (h : (dump ts).toList ++ more = (dump us).toList ++ more') : ts = us ∧ more = more' := by
  simp only [dump, Json.pretty, String.toList_ofList] at h
  obtain ⟨values, rest⟩ := Json.array_append_inj Json.isPadding_lead_indented h
  exact ⟨(List.map_inj_right fun t u e => toJson_inj.1 e).1 values, rest⟩

/-! ### Strings in a dump -/

theorem dump_token_around (ts us : List Token) :
    ∃ front back, ∀ t : Token, (dump (ts ++ t :: us)).toList = front ++ (t.toJson.render .indented 1 ++ back) := by
  obtain ⟨front, back, e⟩ := Json.render_array_around .indented 0 (ts.map toJson) (us.map toJson)
  exact ⟨front, back, fun t => by simp [dump, Json.pretty, e]⟩

theorem dump_payload_around (ts us : List Token) (t : Token) :
    ∃ front back, ∀ payload : String,
      (dump (ts ++ { t with payload? := some payload } :: us)).toList =
        front ++ (Json.encode payload.toList ++ back) := by
  obtain ⟨front, back, whole⟩ := dump_token_around ts us
  obtain ⟨front', back', part⟩ := Json.render_object_around .indented 1
    [("tag", .string (String.singleton t.tag.code))] [("position", t.position.toJson)] "value"
  refine ⟨front ++ front', back' ++ back, ?_⟩
  intro payload
  have token : Json.render .indented 1 (toJson { t with payload? := some payload }) =
      front' ++ (Json.encode payload.toList ++ back') := part (.string payload)
  rw [whole, token]
  simp only [List.append_assoc]

theorem dump_source_around (ts us : List Token) (t : Token) :
    ∃ front back, ∀ source : String,
      (dump (ts ++ { t with position := { t.position with source := source } } :: us)).toList =
        front ++ (Json.encode source.toList ++ back) := by
  obtain ⟨front, back, whole⟩ := dump_token_around ts us
  obtain ⟨front', back', part⟩ := Json.render_object_around .indented 1
    [("tag", .string (String.singleton t.tag.code)), ("value", t.payloadJson)] [] "position"
  obtain ⟨front'', back'', name⟩ := Json.render_object_around .indented 2 []
    [("line", .number t.position.line), ("col", .number t.position.column)] "source"
  refine ⟨front ++ (front' ++ front''), back'' ++ (back' ++ back), ?_⟩
  intro source
  have place : Json.render .indented 2 (Position.toJson { t.position with source := source }) =
      front'' ++ (Json.encode source.toList ++ back'') := name (.string source)
  have token : Json.render .indented 1 (toJson { t with position := { t.position with source := source } }) =
      front' ++ (Json.render .indented 2 (Position.toJson { t.position with source := source }) ++ back') :=
    part (Position.toJson { t.position with source := source })
  rw [whole, token, place]
  simp only [List.append_assoc]

/-- No two lists of tokens have the same dump, and a dump shows where it ends.  In particular an absent payload, the
empty one and the one that reads like the absent one give three dumps.  A payload and the name of a source are each
written as one string: whatever they hold, the text around the string stays as it is, and the string ends at its own
closing quote. -/
theorem dump_inj (ts us : List Token) :
    (dump ts = dump us ↔ ts = us) ∧
      (∀ more more' : List Char, (dump ts).toList ++ more = (dump us).toList ++ more' → ts = us ∧ more = more') ∧
      ∀ t : Token,
        ([none, some "", some "null"].Pairwise fun payload? other? =>
          dump (ts ++ { t with payload? := payload? } :: us) ≠ dump (ts ++ { t with payload? := other? } :: us)) ∧
        (∃ front back, ∀ payload : String,
          (dump (ts ++ { t with payload? := some payload } :: us)).toList =
            front ++ (Json.encode payload.toList ++ back)) ∧
        (∃ front back, ∀ source : String,
          (dump (ts ++ { t with position := { t.position with source := source } } :: us)).toList =
            front ++ (Json.encode source.toList ++ back)) ∧
        ∀ (text text' : String) (more more' : List Char),
          Json.encode text.toList ++ more = Json.encode text'.toList ++ more' → text = text' ∧ more = more' := by
  have same {ts us : List Token} (h : dump ts = dump us) : ts = us :=
    (dump_append_inj (congrArg (·.toList ++ []) h)).1
  refine ⟨⟨same, congrArg dump⟩, fun _ _ => dump_append_inj, ?_⟩
  intro t
  refine ⟨?_, dump_payload_around ts us t, dump_source_around ts us t, ?_⟩
  · have differ {a? b? : Option String} (h : a? ≠ b?) :
        dump (ts ++ { t with payload? := a? } :: us) ≠ dump (ts ++ { t with payload? := b? } :: us) := by
      intro e
      have tokens := List.append_cancel_left (same e)
      exact h (congrArg Token.payload? (List.cons.inj tokens).1)
    simp [differ]
  · intro text text' more more' h
    obtain ⟨content, rest⟩ := Json.encode_append_inj h
    exact ⟨String.toList_inj.1 content, rest⟩

end Token

end AnnotatedSql
