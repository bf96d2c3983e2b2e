/-!
# Decimals and doubles

A decimal is a natural number times a power of ten.  `scaled?` is the double that arithmetic on doubles makes of it,
and `shortest` the decimal with the fewest digits that a double is the nearest to.  `toText` writes a decimal with a
point and at least one digit on either side of it, and with an exponent where that would take many zeros.
-/

namespace AnnotatedSql

/-- The number `digits * 10 ^ exponent`. -/
structure Decimal where
  digits : Nat
  exponent : Int
deriving DecidableEq, Repr

namespace Decimal

/-- The digits in writing. -/
def numeral (d : Decimal) : List Char := Nat.toDigits 10 d.digits

/-- The least `k` with `d < 10 ^ k`, for a decimal other than 0. -/
def magnitude (d : Decimal) : Int := d.numeral.length + d.exponent

/-- The double nearest to the decimal. -/
def nearest (d : Decimal) : Float := Float.ofScientific d.digits (d.exponent < 0) d.exponent.natAbs

/-! ### From decimals to doubles -/

/-- A power of ten as a double. -/
def power (n : Nat) : Float := nearest ⟨1, n⟩

/-- The digits as a double, multiplied or divided by the power of ten; none when that is too large.  No power above
`10 ^ 308` is a double, so that a division by more takes two steps.  Each step rounds, and the double need not be
the nearest one. -/
def scaled? (d : Decimal) : Option Float :=
  let digits := nearest ⟨d.digits, 0⟩
  if d.digits = 0 ∨ d.exponent < -616 then some 0
  else if d.exponent < -308 then some (digits / power 308 / power (-d.exponent - 308).toNat)
  else if d.exponent < 0 then some (digits / power (-d.exponent).toNat)
  else if d.exponent ≤ 308 then
    let product := digits * power d.exponent.toNat
    if product.isInf then none else some product
  else none

/-! ### From doubles to decimals -/

/-- The significand and the power of two of a finite double that is not negative. -/
def significand (x : Float) : Nat × Int :=
  let bits := x.toBits
  let high := (bits >>> 52).toNat
  let low := (bits &&& 0xFFFFFFFFFFFFF).toNat
  if high = 0 then (low, -1074) else (Nat.pow 2 52 + low, high - 1075)

/-- The double in units of `10 ^ exponent`, as a fraction. -/
def inUnits (x : Float) (exponent : Int) : Nat × Nat :=
  let (m, q) := significand x
  (m * Nat.pow 2 q.toNat * Nat.pow 10 (-exponent).toNat, Nat.pow 2 (-q).toNat * Nat.pow 10 exponent.toNat)

/-- The multiple of `10 ^ exponent` that the double is the nearest to, if there is one.  Of two the nearer is taken,
and of two that are equally near the even one. -/
def onGrid? (x : Float) (exponent : Int) : Option Decimal :=
  let (numerator, denominator) := inUnits x exponent
  let below := numerator / denominator
  let twice := 2 * (numerator % denominator)
  let candidates :=
    if twice < denominator ∨ twice = denominator ∧ below % 2 = 0 then [below, below + 1] else [below + 1, below]
  (candidates.map (⟨·, exponent⟩)).find? fun d => d.nearest.toBits = x.toBits

/-- The decimal without the zeros at the end of its digits. -/
def normalize (d : Decimal) : Decimal :=
  let zeros := (d.numeral.reverse.takeWhile (· = '0')).length
  if d.digits = 0 then ⟨0, 0⟩ else ⟨d.digits / Nat.pow 10 zeros, d.exponent + zeros⟩

/-- The decimal with the fewest digits that a finite double, not negative, is the nearest to.  In units of
`10 ^ -400` every double but 0 has a whole part, whose length gives the place of the first digit; from there 17
digits are enough. -/
def shortest (x : Float) : Decimal :=
  let (numerator, denominator) := inUnits x (-400)
  let magnitude := Decimal.magnitude ⟨numerator / denominator, -400⟩
  let grids := (List.range 17).map fun (n : Nat) => magnitude - 1 - n
  ((grids.findSome? (onGrid? x)).getD ⟨0, 0⟩).normalize

/-! ### In writing -/

/-- Decimals from `10 ^ -5` to below `10 ^ 16` are written without an exponent. -/
def toText (d : Decimal) : String :=
  let digits := d.numeral
  let point := d.magnitude
  String.ofList <|
    if d.digits = 0 then ['0', '.', '0']
    else if -5 < point ∧ point ≤ 0 then ['0', '.'] ++ List.replicate (-point).toNat '0' ++ digits
    else if 0 < point ∧ point ≤ 16 then
      let whole := point.toNat
      if digits.length ≤ whole then digits ++ List.replicate (whole - digits.length) '0' ++ ['.', '0']
      else digits.take whole ++ '.' :: digits.drop whole
    else
      let lead := if digits.length = 1 then digits else digits.take 1 ++ '.' :: digits.drop 1
      lead ++ 'e' :: (if point ≤ 0 then '-' else '+') :: Nat.toDigits 10 (point - 1).natAbs

end Decimal

end AnnotatedSql
