import AnnotatedSql.Position
import AnnotatedSql.Text.Quoted

/-!
# Tokens

A token is a piece of a source with a tag that says what the piece is and the position of its first character.
The payload is absent when an optional component is missing, which is not the same as an empty payload.
-/

namespace AnnotatedSql

/-- What a token stands for. -/
inductive Tag where
  /-- A whole line that opens with the comment marker. -/
  | comment
  /-- A whole line of query text. -/
  | query
  | keyword
  /-- The name that a directive gives. -/
  | name
  /-- Text that has not been taken apart yet. -/
  | segment
deriving DecidableEq, Repr

namespace Tag

def code : Tag → Char
  | comment => 'C'
  | query => 'Q'
  | keyword => 'K'
  | name => 'N'
  | segment => 'S'

def ofCode? (code : String) : Option Tag :=
  match code.toList with
  | ['C'] => some comment
  | ['Q'] => some query
  | ['K'] => some keyword
  | ['N'] => some name
  | ['S'] => some segment
  | _ => none

@[simp] theorem ofCode?_code (t : Tag) : ofCode? (String.singleton t.code) = some t := by
  cases t <;> rfl

theorem code_injective {t u : Tag} (h : t.code = u.code) : t = u := by
  cases t <;> cases u <;> simp_all [code]

end Tag

structure Token where
  tag : Tag
  /-- The text of the piece; `none` for an optional component that is missing. -/
  payload? : Option String
  position : Position
deriving DecidableEq, Repr

namespace Token

/-- The payload as dumps and messages show it: quoted, or a dash when it is absent. -/
def payloadText (t : Token) : String :=
  match t.payload? with
  | some text => Quoted.string text
  | none => "-"

/-- The written form, such as `N("users") @ queries.sql:1:10`. -/
def toText (t : Token) : String :=
  String.singleton t.tag.code ++ "(" ++ t.payloadText ++ ") @ " ++ t.position.toText

def listing (tokens : List Token) : String := String.intercalate "\n" (tokens.map toText)

end Token

end AnnotatedSql
