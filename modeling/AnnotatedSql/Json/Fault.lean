import AnnotatedSql.Text.Quoted

/-!
# Faults of a JSON text

A text that cannot be read has a fault: a cause and the place where reading noticed it.  A place is a line, counted
from 1, and a number of bytes of that line in UTF-8.
-/

namespace AnnotatedSql.Json

/-- What stands where something else was wanted. -/
inductive Found where
  | null
  | boolean (value : Bool)
  | integer (value : Int)
  /-- A number that is no integer of 64 bits, in its written form. -/
  | decimal (text : String)
  | string (text : String)
  | array
  | object
deriving DecidableEq, Repr

/-- The value in words. -/
def Found.description : Found → String
  | null => "null"
  | boolean true => "boolean `true`"
  | boolean false => "boolean `false`"
  | integer value => "integer `" ++ toString value ++ "`"
  | decimal text => "floating point `" ++ text ++ "`"
  | string text => "string " ++ Quoted.string text
  | array => "sequence"
  | object => "map"

/-- Why a text cannot be read. -/
inductive Cause where
  | endInValue
  | endInString
  | endInArray
  | endInObject
  | expectedValue
  /-- A word that starts like `null`, `true` or `false` and goes on otherwise. -/
  | expectedWord
  | expectedColon
  | expectedItemEnd
  | expectedMemberEnd
  | expectedKey
  | invalidNumber
  | numberOutOfRange
  | controlCharacter
  | invalidEscape
  /-- The first half of a surrogate pair without an escape after it. -/
  | brokenPair
  /-- Half of a surrogate pair without its other half. -/
  | loneSurrogate
  | trailingComma
  | trailingCharacters
  | wrongKind (found : Found) (expected : String)
  | wrongValue (found : Found) (expected : String)
  | repeatedField (name : String)
deriving DecidableEq, Repr

/-- The cause in words. -/
def Cause.message : Cause → String
  | endInValue => "EOF while parsing a value"
  | endInString => "EOF while parsing a string"
  | endInArray => "EOF while parsing a list"
  | endInObject => "EOF while parsing an object"
  | expectedValue => "expected value"
  | expectedWord => "expected ident"
  | expectedColon => "expected `:`"
  | expectedItemEnd => "expected `,` or `]`"
  | expectedMemberEnd => "expected `,` or `\x7d`"
  | expectedKey => "key must be a string"
  | invalidNumber => "invalid number"
  | numberOutOfRange => "number out of range"
  | controlCharacter => "control character (\\u0000-\\u001F) found while parsing a string"
  | invalidEscape => "invalid escape"
  | brokenPair => "unexpected end of hex escape"
  | loneSurrogate => "lone leading surrogate in hex escape"
  | trailingComma => "trailing comma"
  | trailingCharacters => "trailing characters"
  | wrongKind found expected => "invalid type: " ++ found.description ++ ", expected " ++ expected
  | wrongValue found expected => "invalid value: " ++ found.description ++ ", expected " ++ expected
  | repeatedField name => "duplicate field `" ++ name ++ "`"

/-- A line of a text, counted from 1, and the bytes of it that have been passed. -/
structure Place where
  line : Nat
  column : Nat
deriving DecidableEq, Repr

namespace Place

/-- The start of a text. -/
def start : Place := ⟨1, 0⟩

/-- The place behind one more character. -/
def past (p : Place) (c : Char) : Place :=
  if c = '\n' then ⟨p.line + 1, 0⟩ else ⟨p.line, p.column + c.utf8Size⟩

/-- The place behind `n` more bytes, or at the end of the text; the last character may be passed in part. -/
def pastBytes (p : Place) (n : Nat) : List Char → Place
  | [] => p
  | c :: text => if n < c.utf8Size then ⟨p.line, p.column + n⟩ else (p.past c).pastBytes (n - c.utf8Size) text

end Place

/-- Why a text cannot be read, and where that was noticed. -/
structure Fault where
  cause : Cause
  place : Place
deriving DecidableEq, Repr

/-- The fault in words. -/
def Fault.message (f : Fault) : String :=
  f.cause.message ++ " at line " ++ toString f.place.line ++ " column " ++ toString f.place.column

end AnnotatedSql.Json
