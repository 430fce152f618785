/-
  AssertionWriter.Json.Number

  The value of a number literal, as far as it shows when a number stands where something
  else is wanted: integers of 64 bits are exact, all others are binary64.
-/
import AssertionWriter.Decimal.Shortest
import AssertionWriter.Json.Basic

namespace AssertionWriter.Json
open Decimal

/-- The value of a literal. -/
inductive Number where
  | natural (n : Nat)
  /-- The integer `-n`, where `n` is positive. -/
  | negative (n : Nat)
  /-- A fraction, or an integer of more than 64 bits. -/
  | real (isNegative : Bool) (magnitude : Binary64)
  deriving DecidableEq, Repr

namespace Number

/-- The wording of a number that is unexpected. -/
def describe : Number → String
  | natural n => "integer `" ++ toString n ++ "`"
  | negative n => "integer `-" ++ toString n ++ "`"
  | real isNegative x =>
    "floating point `" ++ (if isNegative then "-" else "") ++ x.text ++ "`"

/-- Takes the digits in front of `digits` into a significand for as long as it fits into 64
    bits. Gives the significand and the digits left. -/
def takeDigits (significand : Nat) : List Char → Nat × List Char
  | [] => (significand, [])
  | d :: ds =>
    let next := significand * 10 + (d.toNat - '0'.toNat)
    if next < 1 <<< 64 then takeDigits next ds else (significand, d :: ds)

/-- The value of a run of digits. -/
def digitsValue (digits : List Char) : Nat :=
  digits.foldl (fun n d => n * 10 + (d.toNat - '0'.toNat)) 0

/-- The value of an exponent with its `e`; `0` if there is none. -/
def exponentValue : List Char → Int
  | _ :: '-' :: ds => -(digitsValue ds : Int)
  | _ :: '+' :: ds => digitsValue ds
  | _ :: ds => digitsValue ds
  | [] => 0

/-- `significand * 10 ^ exponent` in binary64: the significand is rounded first, and then
    multiplied or divided by the rounded power of ten. Division goes in steps of `10 ^ 308`;
    behind the second there is only zero. -/
def scaled? (significand : Nat) (exponent : Int) : Option Binary64 := do
  let x ← Binary64.ofRatio? significand 1
  if significand = 0 then some x
  else if 0 ≤ exponent then
    if exponent ≤ 308 then x.mul? (← Binary64.tenPower? exponent.toNat) else none
  else
    let n := (-exponent).toNat
    if n ≤ 308 then x.div? (← Binary64.tenPower? n)
    else if n ≤ 616 then
      (← x.div? (← Binary64.tenPower? 308)).div? (← Binary64.tenPower? (n - 308))
    else some .zero

/-- Reads the literal of a number; `none` if it is beyond the range of binary64. -/
def ofLiteral? (literal : String) : Option Number :=
  let (isNegative, unsigned) := match literal.toList with
    | '-' :: r => (true, r)
    | r => (false, r)
  let whole := unsigned.takeWhile Char.isDigit
  let (significand, overflow) := takeDigits 0 whole
  match unsigned.dropWhile Char.isDigit, overflow with
  -- An integer that fits is exact; `-0` is no integer.
  | [], [] =>
    if !isNegative then some (natural significand)
    else if 0 < significand && significand ≤ 1 <<< 63 then some (negative significand)
    else (Binary64.ofRatio? significand 1).map (real true)
  -- Digits that do not fit any more only move the point.
  | '.' :: r, _ =>
    let fraction := r.takeWhile Char.isDigit
    let (significand, rest) := takeDigits significand fraction
    let exponent := exponentValue (r.dropWhile Char.isDigit)
    (scaled? significand (overflow.length - (fraction.length - rest.length : Nat) + exponent)).map
      (real isNegative)
  | r, _ => (scaled? significand (overflow.length + exponentValue r)).map (real isNegative)

end Number
end AssertionWriter.Json
