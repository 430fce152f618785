/-
  AssertionWriter.Decimal.Shortest

  The shortest decimal text of a binary64 number: the fewest digits that read back as
  the number, and of those the nearest to it.
-/
import AssertionWriter.Decimal.Binary64

namespace AssertionWriter.Decimal

/-- The decimal number `digits * 10 ^ exponent`. -/
structure Scientific where
  digits : Nat
  exponent : Int
  deriving DecidableEq, Repr

/-- The number of decimal digits of `n`. -/
def digitCount (n : Nat) : Nat := (Nat.toDigits 10 n).length

/-- The exponent `e` with `10 ^ (e - 1) ≤ num / den < 10 ^ e`, for a positive quotient. -/
def decimalExponent (num den : Nat) : Int :=
  if den ≤ num then digitCount (num / den)
  else 1 - ((List.range 400).find? fun j => den ≤ num * Nat.pow 10 j).getD 400

namespace Binary64

/-- The ends of the interval of the quotients that round to `x`, with their denominator. -/
def interval (x : Binary64) : Nat × Nat × Nat :=
  let s := x.significand
  -- Below a power of two the numbers lie twice as close.
  let low := if s = 1 <<< 52 && x.down ≠ 1074 then 4 * s - 1 else 4 * s - 2
  (low <<< x.up, (4 * s + 2) <<< x.up, 4 * x.den)

/-- Whether `digits * 10 ^ exponent` reads back as `x`. -/
def readsBack (x : Binary64) (d : Scientific) : Bool :=
  let (low, high, den) := x.interval
  let num := d.digits * Nat.pow 10 d.exponent.toNat * den
  let scale := Nat.pow 10 (-d.exponent).toNat
  if x.significand % 2 = 0 then low * scale ≤ num && num ≤ high * scale
  else low * scale < num && num < high * scale

/-- The nearest decimal number with `n` digits, or of the two around `x` the one that reads
    back. -/
def candidate? (x : Binary64) (n : Nat) : Option Scientific :=
  let e := decimalExponent x.num x.den - n
  let num := x.num * Nat.pow 10 (-e).toNat
  let den := x.den * Nat.pow 10 e.toNat
  let below : Scientific := ⟨num / den, e⟩
  let above : Scientific := ⟨num / den + 1, e⟩
  let nearest := roundDiv num den
  let (first, second) := if nearest = below.digits then (below, above) else (above, below)
  if x.readsBack first then some first
  else if x.readsBack second then some second
  else none

/-- The shortest decimal number that reads back as `x`, which is not zero. -/
def shortest (x : Binary64) : Scientific :=
  ((List.range 17).findSome? fun n => x.candidate? (n + 1)).getD ⟨0, 0⟩

end Binary64

/-! ## Text -/

/-- The digits of `d` without zeros at their end. -/
def significantDigits (d : Scientific) : List Char :=
  ((Nat.toDigits 10 d.digits).reverse.dropWhile (· = '0')).reverse

/-- The exponent of a text, with its sign. -/
def exponentText (e : Int) : String :=
  "e" ++ (if e < 0 then "-" else "+") ++ toString e.natAbs

/-- The text of a number: without exponent if its point lies at most 16 places behind the first
    digit, or at most 5 before it; a whole number ends with `.0`. -/
def Binary64.text (x : Binary64) : String :=
  if x.significand = 0 then "0.0"
  else
    let d := x.shortest
    let ds := significantDigits d
    let point : Int := d.exponent + digitCount d.digits
    if 0 < point && point ≤ 16 then
      let n := point.toNat
      if ds.length ≤ n then String.ofList (ds ++ List.replicate (n - ds.length) '0') ++ ".0"
      else String.ofList (ds.take n) ++ "." ++ String.ofList (ds.drop n)
    else if -5 < point && point ≤ 0 then
      "0." ++ String.ofList (List.replicate (-point).toNat '0' ++ ds)
    else
      let exponent := exponentText (point - 1)
      match ds with
      | [c] => String.ofList [c] ++ exponent
      | c :: cs => String.ofList [c] ++ "." ++ String.ofList cs ++ exponent
      | [] => "0.0"

end AssertionWriter.Decimal
