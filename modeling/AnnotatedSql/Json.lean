import AnnotatedSql.Json.Text

/-!
# Writing JSON

A JSON value is written in a layout: `Layout.compact` puts it on one line without blanks, `Layout.indented` puts
each item on a line of its own, two spaces further in than the container it stands in.  Empty containers stay on
one line.
-/

namespace AnnotatedSql

/-- The values that are written. -/
inductive Json where
  | null
  | number (value : Nat)
  | string (text : String)
  | array (items : List Json)
  | object (members : List (String × Json))

namespace Json

/-- Where line breaks and blanks stand. -/
structure Layout where
  /-- What stands in front of an item or a closing bracket at the given depth. -/
  lead : Nat → List Char
  /-- What stands between a key and its value. -/
  colon : List Char

/-- Everything on one line. -/
def Layout.compact : Layout := ⟨fun _ => [], [':']⟩

/-- One item a line, two spaces further in at each depth. -/
def Layout.indented : Layout := ⟨fun depth => '\n' :: List.replicate (2 * depth) ' ', [':', ' ']⟩

mutual

/-- The value in a layout, inside `depth` containers. -/
def render (l : Layout) (depth : Nat) : Json → List Char
  | null => ['n', 'u', 'l', 'l']
  | number value => Nat.toDigits 10 value
  | string text => encode text.toList
  | array [] => ['[', ']']
  | array items => '[' :: (renderItems l (depth + 1) items ++ l.lead depth ++ [']'])
  | object [] => ['{', '}']
  | object members => '{' :: (renderMembers l (depth + 1) members ++ l.lead depth ++ ['}'])

/-- The items of an array, separated by commas. -/
def renderItems (l : Layout) (depth : Nat) : List Json → List Char
  | [] => []
  | [item] => l.lead depth ++ render l depth item
  | item :: items => l.lead depth ++ render l depth item ++ ',' :: renderItems l depth items

/-- The members of an object, separated by commas. -/
def renderMembers (l : Layout) (depth : Nat) : List (String × Json) → List Char
  | [] => []
  | [(key, value)] => l.lead depth ++ encode key.toList ++ l.colon ++ render l depth value
  | (key, value) :: members =>
    l.lead depth ++ encode key.toList ++ l.colon ++ render l depth value ++ ',' :: renderMembers l depth members

end

/-- The value on one line. -/
def compact (v : Json) : String := String.ofList (v.render .compact 0)

/-- The value with one item a line. -/
def pretty (v : Json) : String := String.ofList (v.render .indented 0)

end Json

end AnnotatedSql
