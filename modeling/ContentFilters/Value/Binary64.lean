import ContentFilters.Text.Basic

/-!
# Binary floating point with 64 bits

A finite number is kept as a sign, a whole significand below 2^53 and a power of two, so that every
question about it is a question about natural numbers. Decimal numerals are read by rounding the
exact value to the nearest number of the format, ties to the even significand. A number is written
with the fewest decimal digits that read back to it; of the shortest candidates the nearest is
taken, and of two that are equally near the one whose last digit is even.
-/
namespace ContentFilters

inductive Binary64 where
  | nan
  | infinite (negative : Bool)
  /-- The value is `significand * 2 ^ exponent`, with the sign in front. -/
  | finite (negative : Bool) (significand : Nat) (exponent : Int)
  deriving DecidableEq, Repr

namespace Binary64

def isZero : Binary64 → Bool
  | finite _ 0 _ => true
  | _ => false

def twoTo (n : Nat) : Nat := Nat.pow 2 n

def tenTo (n : Nat) : Nat := Nat.pow 10 n

def bitLength (n : Nat) : Nat := if n = 0 then 0 else Nat.log2 n + 1

/-- The quotient rounded to the nearest whole number, ties to even. -/
def roundQuotient (num den : Nat) : Nat :=
  let q := num / den
  let r := num % den
  if 2 * r > den || (2 * r == den && q % 2 == 1) then q + 1 else q

/-- The nearest number of the format to the positive fraction `num / den`. -/
def ofFraction (negative : Bool) (num den : Nat) : Binary64 :=
  if num = 0 then finite negative 0 0
  else
    -- an exponent at which the quotient has 53 or 54 binary digits, or the least one
    let guess : Int := (bitLength num : Int) - bitLength den - 53
    let scaled (e : Int) : Nat :=
      if e ≥ 0 then roundQuotient num (den * twoTo e.toNat)
      else roundQuotient (num * twoTo (-e).toNat) den
    let exponent : Int := max (-1074) (if bitLength (scaled guess) > 53 then guess + 1 else guess)
    let significand := scaled exponent
    let (significand, exponent) :=
      if significand = twoTo 53 then (twoTo 52, exponent + 1) else (significand, exponent)
    if exponent > 971 then infinite negative
    else if significand = 0 then finite negative 0 0
    else finite negative significand exponent

/-- The nearest number of the format to `digits * 10 ^ power`. -/
def ofDecimal (negative : Bool) (digits : Nat) (power : Int) : Binary64 :=
  if digits = 0 then finite negative 0 0
  else if power > 400 then infinite negative
  else if power ≥ 0 then ofFraction negative (digits * tenTo power.toNat) 1
  else ofFraction negative digits (tenTo (-power).toNat)

def toFraction (significand : Nat) (exponent : Int) : Nat × Nat :=
  if exponent ≥ 0 then (significand * twoTo exponent.toNat, 1)
  else (significand, twoTo (-exponent).toNat)

def decimalLength (n : Nat) : Nat := (Nat.toDigits 10 n).length

/-- The power of ten of the first digit of the positive fraction `num / den`. -/
def decimalExponent (num den : Nat) : Int :=
  if num ≥ den then (decimalLength (num / den) : Int) - 1
  else
    let k := decimalLength (den / num)
    if num * tenTo (k - 1) ≥ den then -((k - 1 : Nat) : Int) else -(k : Int)

/-- The decimal with `places` digits nearest to the fraction that reads back to `target`, as its
digits and the power of ten of its first digit. -/
def digitsAt? (target : Binary64) (num den places : Nat) : Option (Nat × Int) :=
  let first := decimalExponent num den
  let shift : Int := (places : Int) - 1 - first
  let scaledNum := if shift ≥ 0 then num * tenTo shift.toNat else num
  let scaledDen := if shift ≥ 0 then den else den * tenTo (-shift).toNat
  let below := scaledNum / scaledDen
  let readsBack (n : Nat) : Bool := ofDecimal false n (-shift) == target
  let low := readsBack below
  let high := readsBack (below + 1)
  let rest := scaledNum % scaledDen
  let nearerLow := 2 * rest < scaledDen || (2 * rest == scaledDen && below % 2 == 0)
  let chosen? : Option Nat :=
    if low && (nearerLow || !high) then some below else if high then some (below + 1) else none
  chosen?.map fun n => if decimalLength n > places then (n / 10, first + 1) else (n, first)

/-- The fewest decimal digits that read back to a positive number, with the power of ten of the
first digit. Seventeen digits always suffice. -/
def shortest (significand : Nat) (exponent : Int) : Nat × Int :=
  let (num, den) := toFraction significand exponent
  let target := finite false significand exponent
  ((List.range 17).findSome? fun k => digitsAt? target num den (k + 1)).getD (significand, 0)

-- halfway between two candidates with sixteen digits
example : shortest 4503599627370502 (-3) = (5629499534213128, 14) := by decide +kernel

/-- Digits without the zeros at the end, at least one digit. -/
def dropZeros (digits : Text) : Text :=
  match Text.dropEndWhile (· = '0') digits with
  | [] => ['0']
  | more => more

/-- The written form: positional from 1e-4 up to 1e16, else with an exponent of at least two
digits. A whole number keeps one digit after the point. -/
def render : Binary64 → Text
  | nan => "nan".toList
  | infinite negative => (if negative then "-inf" else "inf").toList
  | finite negative significand exponent =>
    let sign : Text := if negative then ['-'] else []
    if significand = 0 then sign ++ "0.0".toList
    else
      let (n, first) := shortest significand exponent
      let digits : Text := dropZeros (Nat.toDigits 10 n)
      let count : Int := digits.length
      sign ++
        if -4 ≤ first && first < 16 then
          if first < 0 then "0.".toList ++ List.replicate (-first - 1).toNat '0' ++ digits
          else if count ≤ first + 1 then
            digits ++ List.replicate (first + 1 - count).toNat '0' ++ ".0".toList
          else digits.take (first + 1).toNat ++ '.' :: digits.drop (first + 1).toNat
        else
          let mantissa := match digits with
            | [] => []
            | [d] => [d]
            | d :: more => d :: '.' :: more
          let power := Nat.toDigits 10 first.natAbs
          mantissa ++ 'e' :: (if first < 0 then '-' else '+') ::
            (if power.length < 2 then '0' :: power else power)

/-- The whole number that a number equals, if it is whole. -/
def toInt? : Binary64 → Option Int
  | finite negative significand exponent =>
    let (num, den) := toFraction significand exponent
    if num % den = 0 then some (if negative then -(num / den : Nat) else (num / den : Nat))
    else none
  | _ => none

end Binary64

end ContentFilters
