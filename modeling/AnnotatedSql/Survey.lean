import AnnotatedSql.Lexer
import AnnotatedSql.Naming

/-!
# Surveys

A survey of a source reads everything that its lines can hold: the directive of each line, the name and the result
directive of what follows it, and what follows the name.  The whole source is lexed before the first line is taken
apart.
-/

namespace AnnotatedSql

/-- What follows a directive that gives a name. -/
structure NameSurvey where
  naming : Naming
  /-- The directive that the keyword opens with. -/
  keywordResult? : Option Directive
  /-- The name that the rest opens with. -/
  restName? : Option Naming
  /-- The directive that the rest opens with. -/
  restResult? : Option Directive
deriving DecidableEq, Repr

/-- What follows the directive of a line. -/
structure DirectiveSurvey where
  directive : Directive
  /-- The rest of the directive, read as a name. -/
  name? : Option NameSurvey
  /-- The rest of the directive, read as a directive. -/
  result? : Option Directive
deriving DecidableEq, Repr

structure LineSurvey where
  token : Token
  directive? : Option DirectiveSurvey
deriving DecidableEq, Repr

namespace Config

/-- Reads what a name leaves. -/
def surveyName (c : Config) (naming : Naming) : Logged NameSurvey := do
  let keywordResult? ← c.readResult naming.keyword
  let restName? ← c.readName naming.rest
  let restResult? ← c.readResult naming.rest
  return { naming, keywordResult?, restName?, restResult? }

/-- Reads what a directive leaves, first as a name and as a directive, then what the name leaves. -/
def surveyDirective (c : Config) (directive : Directive) : Logged DirectiveSurvey := do
  let naming? ← c.readName directive.rest
  let result? ← c.readResult directive.rest
  match naming? with
  | none => return { directive, name? := none, result? }
  | some naming => return { directive, name? := some (← c.surveyName naming), result? }

def surveyLine (c : Config) (token : Token) : Logged LineSurvey := do
  match ← c.readComment token with
  | none => return { token, directive? := none }
  | some directive => return { token, directive? := some (← c.surveyDirective directive) }

def surveyLines (c : Config) : List Token → Logged (List LineSurvey)
  | [] => pure []
  | token :: tokens => do
    let line ← c.surveyLine token
    (line :: ·) <$> c.surveyLines tokens

end Config

/-- Lexes a source and reads everything that its lines hold. -/
def survey (source : String) (start : Position) (config : Config) : Logged (List LineSurvey) := do
  config.surveyLines (← lex source start config)

end AnnotatedSql
