import AnnotatedSql.Decimal
import AnnotatedSql.Json.Reading

/-!
# JSON numbers

A number is a sign, digits without a leading zero, and optionally a fraction and an exponent, each with at least
one digit.  Numbers without fraction and exponent that fit 64 bits are integers; the others are decimals, which
have to stay within the range of doubles.
-/

namespace AnnotatedSql.Json

/-- The parts of a number as they are written. -/
structure Numeral where
  negative : Bool
  whole : List Char
  /-- The digits behind the point; none when there is no point. -/
  fraction : List Char
  /-- The sign and the digits behind `e` or `E`. -/
  exponent? : Option (Bool × List Char)
deriving DecidableEq, Repr

namespace Numeral

/-- A run of at least one digit. -/
def readDigits (atEnd : Cause) : Reader (List Char) := fun text =>
  match text.takeWhile Char.isDigit with
  | [] => .error (.onOrEnd atEnd .invalidNumber text)
  | digits => .ok (digits, text.dropWhile Char.isDigit)

/-- The digits in front of the point. -/
def readWhole (atEnd : Cause) : Reader (List Char) := fun text => do
  let (digits, rest) ← readDigits atEnd text
  if digits.head? = some '0' ∧ digits.length ≠ 1 then .error (.on .invalidNumber text.tail) else .ok (digits, rest)

/-- The digits behind a point. -/
def readFraction (atEnd : Cause) : Reader (List Char)
  | '.' :: text => readDigits atEnd text
  | text => .ok ([], text)

/-- A sign in front of the digits of an exponent; whether it is a minus. -/
def readSign : List Char → Bool × List Char
  | '-' :: text => (true, text)
  | '+' :: text => (false, text)
  | text => (false, text)

/-- The sign and the digits of an exponent. -/
def readExponent? (atEnd : Cause) : Reader (Option (Bool × List Char)) := fun text =>
  match text with
  | c :: rest =>
    if c = 'e' ∨ c = 'E' then do
      let (negative, rest) := readSign rest
      let (digits, rest) ← readDigits atEnd rest
      .ok (some (negative, digits), rest)
    else .ok (none, text)
  | [] => .ok (none, [])

/-- A number.  A text that ends too early has the cause `atEnd`. -/
def read (atEnd : Cause) : Reader Numeral := fun text => do
  let negative := text.head? = some '-'
  let (whole, text) ← readWhole atEnd (if negative then text.tail else text)
  let (fraction, text) ← readFraction atEnd text
  let (exponent?, text) ← readExponent? atEnd text
  .ok (⟨negative, whole, fraction, exponent?⟩, text)

/-! ### A number leaves less text -/

theorem length_of_readDigits {atEnd : Cause} {text digits rest : List Char}
    (h : readDigits atEnd text = .ok (digits, rest)) : rest.length < text.length := by
  unfold readDigits at h
  split at h
  · cases h
  · rename_i ne
    cases h
    have e := congrArg List.length (List.takeWhile_append_dropWhile (p := Char.isDigit) (l := text))
    have pos := List.length_pos_iff.2 ne
    simp only [List.length_append] at e
    omega

theorem length_of_readWhole {atEnd : Cause} {text digits rest : List Char}
    (h : readWhole atEnd text = .ok (digits, rest)) : rest.length < text.length := by
  obtain ⟨⟨_, _⟩, read, h⟩ := bind_eq_ok_iff.1 h
  simp only at h
  split at h
  · cases h
  · cases h
    exact length_of_readDigits read

theorem length_of_readFraction {atEnd : Cause} {text digits rest : List Char}
    (h : readFraction atEnd text = .ok (digits, rest)) : rest.length ≤ text.length := by
  unfold readFraction at h
  split at h
  · have := length_of_readDigits h
    rw [List.length_cons]
    omega
  · cases h; exact Nat.le_refl _

private theorem length_readSign_le (text : List Char) : (readSign text).2.length ≤ text.length := by
  unfold readSign; split <;> simp

theorem length_of_readExponent? {atEnd : Cause} {text rest : List Char} {exponent? : Option (Bool × List Char)}
    (h : readExponent? atEnd text = .ok (exponent?, rest)) : rest.length ≤ text.length := by
  unfold readExponent? at h
  split at h
  · rename_i c text
    split at h
    · have le := length_readSign_le text
      generalize readSign text = signed at le h
      obtain ⟨⟨_, _⟩, read, h⟩ := bind_eq_ok_iff.1 h
      cases h
      have := length_of_readDigits read
      rw [List.length_cons]
      omega
    · cases h; exact Nat.le_refl _
  · cases h; exact Nat.le_refl _

theorem length_of_read {atEnd : Cause} {text rest : List Char} {n : Numeral}
    (h : read atEnd text = .ok (n, rest)) : rest.length < text.length := by
  obtain ⟨⟨_, _⟩, whole, h⟩ := bind_eq_ok_iff.1 h
  obtain ⟨⟨_, _⟩, fraction, h⟩ := bind_eq_ok_iff.1 h
  obtain ⟨⟨_, _⟩, exponent, h⟩ := bind_eq_ok_iff.1 h
  cases h
  have := length_of_readWhole whole
  have := length_of_readFraction fraction
  have := length_of_readExponent? exponent
  have : (if text.head? = some '-' then text.tail else text).length ≤ text.length := by
    split <;> simp
  simp only at *
  omega

/-! ### Values -/

/-- Appends digits to a number for as long as it stays below a limit, and gives the digits that are left. -/
def appendDigits (limit value : Nat) : List Char → Nat × List Char
  | [] => (value, [])
  | c :: digits =>
    let next := 10 * value + (c.toNat - '0'.toNat)
    if next < limit then appendDigits limit next digits else (value, c :: digits)

/-- The exponent, cut in front of the digit at which it reaches `2 ^ 31`.  No double tells the difference. -/
def scale (n : Numeral) : Int :=
  match n.exponent? with
  | none => 0
  | some (negative, digits) =>
    let (value, _) := appendDigits (Nat.pow 2 31) 0 digits
    if negative then -value else value

/-- The digits of the exponent behind the one at which it reaches `2 ^ 31`.  A number that is too large is noticed
in front of them. -/
def surplus (n : Numeral) : List Char :=
  n.exponent?.elim [] fun (_, digits) => (appendDigits (Nat.pow 2 31) 0 digits).2.tail

/-- The number without its sign, cut in front of the digit at which the digits reach `2 ^ 64`. -/
def magnitude (n : Numeral) : Decimal :=
  let (whole, wholeLeft) := appendDigits (Nat.pow 2 64) 0 n.whole
  let (digits, fractionLeft) := appendDigits (Nat.pow 2 64) whole n.fraction
  ⟨digits, n.scale + wholeLeft.length + fractionLeft.length - n.fraction.length⟩

/-- The number as an integer, if it is written as one and fits 64 bits.  Minus zero is no integer. -/
def integer? (n : Numeral) : Option Int :=
  if n.fraction ≠ [] ∨ n.exponent?.isSome then none
  else match appendDigits (Nat.pow 2 64) 0 n.whole with
    | (value, []) =>
      if n.negative then if 1 ≤ value ∧ value ≤ Nat.pow 2 63 then some (-value) else none else some value
    | _ => none

/-- What the number is, unless it is too large. -/
def found? (n : Numeral) : Option Found :=
  match n.integer? with
  | some value => some (.integer value)
  | none =>
    n.magnitude.scaled?.map fun value =>
      .decimal ((if n.negative then "-" else "") ++ (Decimal.shortest value).toText)

end Numeral

end AnnotatedSql.Json
