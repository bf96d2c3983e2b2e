import AnnotatedSql.Text.Blank
import AnnotatedSql.Text.Quoted

/-!
# Configurations

A configuration says how annotations are written: the marker that opens a comment line and the sigil that opens a
directive word.  Reading works with every configuration; `Config.validate` accepts those that make sense, and
names the first rule that is broken otherwise.
-/

namespace AnnotatedSql

/-- How comment lines and directive words are written. -/
structure Config where
  /-- What a comment line opens with. -/
  marker : String := "--"
  /-- What a directive word opens with. -/
  sigil : Char := ':'
deriving DecidableEq, Repr

instance : Inhabited Config := ⟨{}⟩

/-- The rules that a configuration can break. -/
inductive ConfigError where
  | emptyMarker
  | blankInMarker (marker : String)
  | blankSigil (sigil : Char)
  | sigilOpensMarker (sigil : Char) (marker : String)
deriving DecidableEq, Repr

/-- What is wrong, in words. -/
def ConfigError.message : ConfigError → String
  | emptyMarker => "comment marker must not be empty"
  | blankInMarker marker => "comment marker " ++ Quoted.string marker ++ " contains whitespace"
  | blankSigil sigil => "directive prefix " ++ Quoted.char sigil ++ " is whitespace"
  | sigilOpensMarker sigil marker =>
    "directive prefix " ++ Quoted.char sigil ++ " collides with comment marker " ++ Quoted.string marker

namespace Config

/-- Accepts a configuration whose marker is a word that does not open with the sigil, and whose sigil is not
blank. -/
def validate (c : Config) : Except ConfigError Config :=
  if c.marker.toList = [] then .error .emptyMarker
  else if c.marker.toList.any isBlank then .error (.blankInMarker c.marker)
  else if isBlank c.sigil then .error (.blankSigil c.sigil)
  else if c.marker.toList.head? = some c.sigil then .error (.sigilOpensMarker c.sigil c.marker)
  else .ok c

/-- The configurations that make sense, rule by rule. -/
theorem validate_eq_ok_iff {c d : Config} :
    c.validate = .ok d ↔
      d = c ∧ c.marker.toList ≠ [] ∧ (∀ x ∈ c.marker.toList, isBlank x = false) ∧ isBlank c.sigil = false ∧
        c.marker.toList.head? ≠ some c.sigil := by
  unfold validate
  constructor
  · intro h
    split at h
    · cases h
    · split at h
      · cases h
      · split at h
        · cases h
        · split at h
          · cases h
          · cases h
            simp_all
  · rintro ⟨rfl, nonempty, word, sigil, differ⟩
    have noBlank : d.marker.toList.any isBlank = false := by simpa using word
    simp [nonempty, noBlank, sigil, differ]

end Config

end AnnotatedSql
