import AnnotatedSql.Config
import AnnotatedSql.Json.Fault
import AnnotatedSql.Token

/-!
# Errors

Lexing and taking lines apart cannot fail.  Errors arise around that: from a configuration that makes no sense, from
the code of a tag that does not exist, and from a stored configuration that cannot be read.
-/

namespace AnnotatedSql

/-- What can go wrong. -/
inductive Error where
  | config (error : ConfigError)
  | unknownTag (code : String)
  | json (fault : Json.Fault)
deriving DecidableEq, Repr

/-- The error in words. -/
def Error.message : Error → String
  | config error => "invalid lexer configuration: " ++ error.message
  | unknownTag code => "unknown token tag code: '" ++ code ++ "'"
  | json fault => "json error: " ++ fault.message

/-- The tag with the given code, or the error that there is none. -/
def Tag.ofCode (code : String) : Except Error Tag :=
  match ofCode? code with
  | some tag => .ok tag
  | none => .error (.unknownTag code)

/-- The configuration, if it makes sense. -/
def Config.check (c : Config) : Except Error Config := c.validate.mapError .config

end AnnotatedSql
