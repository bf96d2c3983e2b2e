import AnnotatedSql.Text.Invisible

/-!
# Quotations

Messages and dumps quote a text so that it stays on one line and its ends can be seen: a string stands between
double quotes and a character between single quotes.  The enclosing quote and the backslash are written behind a
backslash, NUL, tab, line feed and carriage return by a letter, and every other invisible character by its code
point.  `encode_append` says that a quotation is written character by character.
-/

namespace AnnotatedSql.Quoted

/-- The letter that stands behind a backslash for the character, within the given quotes. -/
def escapeLetter? (quote c : Char) : Option Char :=
  if c = '\x00' then some '0'
  else if c = '\t' then some 't'
  else if c = '\n' then some 'n'
  else if c = '\r' then some 'r'
  else if c = '\\' ∨ c = quote then some c
  else none

/-- One character of a quotation. -/
def encodeChar (quote c : Char) : List Char :=
  match escapeLetter? quote c with
  | some letter => ['\\', letter]
  | none => if isInvisible c then ['\\', 'u', '{'] ++ Nat.toDigits 16 c.toNat ++ ['}'] else [c]

/-- The inside of a quotation. -/
def encode (quote : Char) (text : List Char) : List Char := text.flatMap (encodeChar quote)

@[simp] theorem encode_nil (quote : Char) : encode quote [] = [] := rfl

@[simp] theorem encode_cons (quote c : Char) (text : List Char) :
    encode quote (c :: text) = encodeChar quote c ++ encode quote text := by
  simp [encode]

theorem encode_append (quote : Char) (text more : List Char) :
    encode quote (text ++ more) = encode quote text ++ encode quote more := by
  simp [encode]

/-- A text between double quotes. -/
def string (text : String) : String := String.ofList ('"' :: (encode '"' text.toList ++ ['"']))

/-- A character between single quotes. -/
def char (c : Char) : String := String.ofList ('\'' :: (encodeChar '\'' c ++ ['\'']))

end AnnotatedSql.Quoted
