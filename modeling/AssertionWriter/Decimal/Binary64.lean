/-
  AssertionWriter.Decimal.Binary64

  Non-negative numbers of the format binary64, as a significand and a power of two, and
  the rounding of a quotient to the nearest of them, a tie going to the even significand.
-/

namespace AssertionWriter.Decimal

/-- A non-negative binary64 number: `significand * 2 ^ up / 2 ^ down`, where one of the two
    exponents is zero. -/
structure Binary64 where
  significand : Nat
  up : Nat
  down : Nat
  deriving DecidableEq, Repr

namespace Binary64

/-- Zero. -/
def zero : Binary64 := ⟨0, 0, 1074⟩

/-- The numerator of the value. -/
def num (x : Binary64) : Nat := x.significand <<< x.up

/-- The denominator of the value. -/
def den (x : Binary64) : Nat := 1 <<< x.down

/-- `num / den` rounded to a natural number, a tie going to the even one. -/
def roundDiv (num den : Nat) : Nat :=
  let q := num / den
  let twice := 2 * (num % den)
  if twice < den then q
  else if twice = den then q + q % 2
  else q + 1

/-- The number `significand * 2 ^ up / 2 ^ down`, in units twice as large if rounding up has
    carried the significand to `2 ^ 53`. -/
def carried (significand up down : Nat) : Binary64 :=
  if significand < 1 <<< 53 then ⟨significand, up, down⟩
  else if down = 0 then ⟨significand / 2, up + 1, 0⟩
  else ⟨significand / 2, 0, down - 1⟩

/-- The rounded quotient in units of `2 ^ up / 2 ^ down`, or in units twice as large if it has
    more than 53 bits. -/
def normalize (num den up down : Nat) : Binary64 :=
  let s := roundDiv (num <<< down) (den <<< up)
  if s < 1 <<< 53 then ⟨s, up, down⟩
  else if down = 0 then carried (roundDiv num (den <<< (up + 1))) (up + 1) 0
  else carried (roundDiv (num <<< (down - 1)) den) 0 (down - 1)

/-- The number nearest to `num / den`; `none` past the greatest finite one. -/
def ofRatio? (num den : Nat) : Option Binary64 :=
  if num = 0 then some zero
  else
    -- The scale is chosen so that the rounded significand has 53 bits, or fewer at the bottom.
    let x :=
      if num.log2 ≥ den.log2 + 53 then normalize num den (num.log2 - den.log2 - 53) 0
      else normalize num den 0 (min 1074 (den.log2 + 53 - num.log2))
    -- Beyond `(2 ^ 53 - 1) * 2 ^ 971` there is no finite number.
    if x.up ≤ 971 then some x else none

/-- The number nearest to a power of ten. -/
def tenPower? (n : Nat) : Option Binary64 := ofRatio? (Nat.pow 10 n) 1

/-- The number nearest to the product. -/
def mul? (x y : Binary64) : Option Binary64 := ofRatio? (x.num * y.num) (x.den * y.den)

/-- The number nearest to the quotient. -/
def div? (x y : Binary64) : Option Binary64 := ofRatio? (x.num * y.den) (x.den * y.num)

end Binary64
end AssertionWriter.Decimal
