import AnnotatedSql.Json
import AnnotatedSql.Token

/-!
# Dumps of tokens

A dump writes tokens as JSON: the code of the tag, the payload, which is `null` when absent, and the position with
its column counted from 1.
-/

namespace AnnotatedSql

/-- The position as a JSON object. -/
def Position.toJson (p : Position) : Json :=
  .object [("source", .string p.source), ("line", .number p.line), ("col", .number p.column)]

/-- The payload as a JSON value. -/
def Token.payloadJson (t : Token) : Json :=
  match t.payload? with
  | some text => .string text
  | none => .null

/-- The token as a JSON object. -/
def Token.toJson (t : Token) : Json :=
  .object [("tag", .string (String.singleton t.tag.code)), ("value", t.payloadJson), ("position", t.position.toJson)]

/-- The tokens as a JSON array, one item a line. -/
def Token.dump (tokens : List Token) : String := (Json.array (tokens.map Token.toJson)).pretty

end AnnotatedSql
