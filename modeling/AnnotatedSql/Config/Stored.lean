import AnnotatedSql.Error
import AnnotatedSql.Json
import AnnotatedSql.Json.Value

/-!
# Stored configurations

A configuration is stored as a JSON object with a field for the marker and one for the sigil.  Reading is more
liberal than writing: fields may be missing, which leaves the default, and stand in any order, values of other keys
are skipped, and an array of up to two values gives the fields in order.  A field may not be given twice.  What was
read has to be a configuration that makes sense.
-/

namespace AnnotatedSql

namespace Config

/-- The fields of a stored configuration. -/
inductive Field where
  | marker
  | sigil
deriving DecidableEq, Repr

/-- The key of a field. -/
def Field.key : Field → String
  | marker => "comment_marker"
  | sigil => "directive_prefix"

/-- The field with the given key. -/
def Field.ofKey? (key : String) : Option Field :=
  if key = marker.key then some marker else if key = sigil.key then some sigil else none

/-! ### Writing -/

/-- The configuration as a JSON object. -/
def toJson (c : Config) : Json :=
  .object [(Field.marker.key, .string c.marker), (Field.sigil.key, .string (String.singleton c.sigil))]

/-- The stored form, on one line. -/
def stored (c : Config) : String := c.toJson.compact

/-! ### Reading -/

/-- The fields that have been read. -/
structure Draft where
  marker? : Option String := none
  sigil? : Option Char := none
deriving DecidableEq, Repr

namespace Draft

/-- The configuration with defaults for what is missing. -/
def toConfig (d : Draft) : Config := ⟨d.marker?.getD "--", d.sigil?.getD ':'⟩

/-- A value for the field has been read. -/
def has (d : Draft) : Field → Bool
  | .marker => d.marker?.isSome
  | .sigil => d.sigil?.isSome

end Draft

open Json

/-- A string; `expected` says what it is to be. -/
def readText (expected : String) : Reader (List Char) := fun text =>
  match skipGap text with
  | '"' :: text => readString text
  | text => .error (wrongKind expected text)

/-- The value of a field, added to the draft. -/
def readField (d : Draft) : Field → Reader Draft
  | .marker, text => do
    let (marker, rest) ← readText "a string" text
    .ok ({ d with marker? := some (String.ofList marker) }, rest)
  | .sigil, text => do
    let (content, rest) ← readText "a character" text
    match content with
    | [sigil] => .ok ({ d with sigil? := some sigil }, rest)
    | _ => .error (.before (.wrongValue (.string (String.ofList content)) "a character") rest)

/-- The colon behind a key. -/
def readColon (text : List Char) : Except Stop (List Char) :=
  match skipGap text with
  | ':' :: rest => .ok rest
  | text => .error (.onOrEnd .endInObject .expectedColon text)

/-- The fault of a key that was given before.  It is noticed behind the gap after the key, and behind the object
where that ends there. -/
def repeatedField (f : Field) (text : List Char) : Stop :=
  let rest := skipGap text
  .before (.repeatedField f.key) (if rest.head? = some '}' then rest.tail else rest)

/-- The rest of a member whose opening quote has been read. -/
def readMember (d : Draft) : Reader Draft := fun text => do
  let (key, text) ← readString text
  match Field.ofKey? (String.ofList key) with
  | none => do
    let rest ← skipValue (← readColon text)
    .ok (d, rest)
  | some f =>
    if d.has f then .error (repeatedField f text)
    else readField d f (← readColon text)

/-! ### A member leaves less text -/

theorem length_of_readText {expected : String} {text rest content : List Char}
    (h : readText expected text = .ok (content, rest)) : rest.length < text.length := by
  have gap := length_skipGap_le text
  unfold readText at h
  split at h
  · rename_i e
    have := length_of_readString h
    rw [e, List.length_cons] at gap
    omega
  · cases h

theorem length_of_readField {d d' : Draft} {f : Field} {text rest : List Char}
    (h : readField d f text = .ok (d', rest)) : rest.length < text.length := by
  cases f with
  | marker =>
    obtain ⟨⟨_, _⟩, read, h⟩ := bind_eq_ok_iff.1 h
    cases h
    exact length_of_readText read
  | sigil =>
    obtain ⟨⟨_, _⟩, read, h⟩ := bind_eq_ok_iff.1 h
    simp only at h
    split at h
    · cases h
      exact length_of_readText read
    · cases h

theorem length_of_readColon {text rest : List Char} (h : readColon text = .ok rest) :
    rest.length < text.length := by
  have gap := length_skipGap_le text
  unfold readColon at h
  split at h
  · rename_i e
    cases h
    rw [e, List.length_cons] at gap
    omega
  · cases h

theorem length_of_readMember {d d' : Draft} {text rest : List Char}
    (h : readMember d text = .ok (d', rest)) : rest.length < text.length := by
  obtain ⟨⟨_, _⟩, key, h⟩ := bind_eq_ok_iff.1 h
  have := length_of_readString key
  simp only at h
  split at h
  · obtain ⟨_, colon, h⟩ := bind_eq_ok_iff.1 h
    obtain ⟨_, skipped, h⟩ := bind_eq_ok_iff.1 h
    cases h
    have := length_of_readColon colon
    have := length_of_skipPending skipped
    omega
  · split at h
    · cases h
    · obtain ⟨_, colon, h⟩ := bind_eq_ok_iff.1 h
      have := length_of_readColon colon
      have := length_of_readField h
      omega

/-- The opening quote of the key that is due behind a comma. -/
def readQuote (text : List Char) : Except Stop (List Char) :=
  match skipGap text with
  | '"' :: rest => .ok rest
  | '}' :: rest => .error (.on .trailingComma ('}' :: rest))
  | rest => .error (.onOrEnd .endInValue .expectedKey rest)

/-- Goes on to the next key and reads its opening quote, or reads the closing brace; tells whether there is a key.
`first` says that no key was read before. -/
def readNext (first : Bool) : Reader Bool := fun text =>
  match skipGap text with
  | [] => .error (.on .endInObject [])
  | c :: rest =>
    if c = '}' then .ok (false, rest)
    else if first then if c = '"' then .ok (true, rest) else .error (.on .expectedKey (c :: rest))
    else if c = ',' then do
      let rest ← readQuote rest
      .ok (true, rest)
    else .error (.on .expectedMemberEnd (c :: rest))

theorem length_of_readQuote {text rest : List Char} (h : readQuote text = .ok rest) :
    rest.length < text.length := by
  have gap := length_skipGap_le text
  unfold readQuote at h
  split at h
  · rename_i e
    cases h
    rw [e, List.length_cons] at gap
    omega
  · cases h
  · cases h

theorem length_of_readNext {first more : Bool} {text rest : List Char}
    (h : readNext first text = .ok (more, rest)) : rest.length < text.length := by
  have gap := length_skipGap_le text
  unfold readNext at h
  split at h
  · cases h
  · rename_i c behind e
    rw [e, List.length_cons] at gap
    split at h
    · cases h; omega
    · split at h
      · split at h
        · cases h; omega
        · cases h
      · split at h
        · obtain ⟨_, quote, h⟩ := bind_eq_ok_iff.1 h
          cases h
          have := length_of_readQuote quote
          omega
        · cases h

/-- The members of an object, up to its closing brace. -/
def readMembers (first : Bool) (d : Draft) (text : List Char) : Except Stop (Draft × List Char) :=
  match _next : readNext first text with
  | .error stop => .error stop
  | .ok (false, rest) => .ok (d, rest)
  | .ok (true, rest) =>
    match _member : readMember d rest with
    | .error stop => .error stop
    | .ok (d, rest) => readMembers false d rest
termination_by text.length
decreasing_by
  have := length_of_readNext _next
  have := length_of_readMember _member
  omega

theorem readMembers_eq (first : Bool) (d : Draft) (text : List Char) :
    readMembers first d text = (do
      let (more, rest) ← readNext first text
      if more then
        let (d, rest) ← readMember d rest
        readMembers false d rest
      else .ok (d, rest)) := by
  rw [readMembers]
  split
  · rename_i e; rw [e]; rfl
  · rename_i e; rw [e]; rfl
  · rename_i e
    rw [e]
    split <;> rename_i e <;> simp [bind, Except.bind, e]

/-- The closing bracket of an array whose two values have been read. -/
def readArrayEnd (text : List Char) : Except Stop (List Char) :=
  match skipGap text with
  | [] => .error (.on .endInArray [])
  | ']' :: rest => .ok rest
  | ',' :: rest =>
    match skipGap rest with
    | ']' :: rest => .error (.on .trailingComma (']' :: rest))
    | rest => .error (.on .trailingCharacters rest)
  | c :: rest => .error (.on .trailingCharacters (c :: rest))

/-- What follows the first value of an array. -/
def readSecond (d : Draft) : Reader Draft := fun text =>
  match skipGap text with
  | [] => .error (.on .endInArray [])
  | ']' :: rest => .ok (d, rest)
  | ',' :: rest =>
    match skipGap rest with
    | ']' :: rest => .error (.on .trailingComma (']' :: rest))
    | rest => do
      let (d, rest) ← readField d .sigil rest
      .ok (d, ← readArrayEnd rest)
  | c :: rest => .error (.on .expectedItemEnd (c :: rest))

/-- The values of an array, up to its closing bracket. -/
def readItems : Reader Draft := fun text =>
  match skipGap text with
  | [] => .error (.on .endInArray [])
  | ']' :: rest => .ok ({}, rest)
  | text => do
    let (d, rest) ← readField {} .marker text
    readSecond d rest

/-- A whole text. -/
def readDraft (text : List Char) : Except Stop Draft := do
  let (d, rest) ← match skipGap text with
    | '{' :: text => readMembers true {} text
    | '[' :: text => readItems text
    | text => .error (wrongKind "struct LexerConfig" text)
  match skipGap rest with
  | [] => .ok d
  | rest => .error (.on .trailingCharacters rest)

/-- The configuration that a text stores, if it can be read and makes sense. -/
def ofStored (text : String) : Except Error Config :=
  match readDraft text.toList with
  | .ok d => d.toConfig.check
  | .error stop => .error (.json (stop.fault text.toList))

end Config

end AnnotatedSql
