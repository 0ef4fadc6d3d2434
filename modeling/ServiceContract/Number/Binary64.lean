/-!
# Finite binary64 numbers

A finite number of the IEEE format binary64, as a sign, a significand and a power of two. All
arithmetic is exact on natural numbers and rounds once, to the nearest number, a half going to
the even significand. A result beyond the range is `none`.

* `Binary64.round?`: the number nearest to a fraction.
* `Binary64.ofDecimal?`: the number nearest to a decimal.
* `Binary64.scaled?`: a whole number times a power of ten, each step rounded on its own.
-/

namespace ServiceContract

/-- The number `± significand * 2 ^ exponent`. Numbers made by `Binary64.round?` have a
significand below `2 ^ 53` that is at least `2 ^ 52` unless the exponent is the least one. -/
structure Binary64 where
  negative : Bool
  significand : Nat
  exponent : Int
  deriving DecidableEq, Repr, Inhabited

namespace Binary64

/-- The least exponent. -/
def minExponent : Int := -1074

/-- The greatest exponent. -/
def maxExponent : Int := 971

/-- Zero, with a sign. -/
def zero (negative : Bool) : Binary64 := ⟨negative, 0, minExponent⟩

/-- Whether the number is a zero of either sign. -/
def isZero (x : Binary64) : Bool := x.significand == 0

/-- The fraction `num / den / 2 ^ e`. -/
def shiftedFraction (num den : Nat) (e : Int) : Nat × Nat :=
  if 0 ≤ e then (num, den * Nat.pow 2 e.toNat) else (num * Nat.pow 2 (-e).toNat, den)

/-- The whole number nearest to a fraction, a half going to the even one. -/
def nearest (num den : Nat) : Nat :=
  let q := num / den
  let r := num % den
  if den < 2 * r || (2 * r == den && q % 2 == 1) then q + 1 else q

/-- The number nearest to `num / den`, where `den` is positive. -/
def round? (negative : Bool) (num den : Nat) : Option Binary64 :=
  if num = 0 then some (zero negative)
  else
    let guess : Int := (num.log2 : Int) - (den.log2 : Int) - 52
    let (n, d) := shiftedFraction num den guess
    let e := max (if n < Nat.pow 2 52 * d then guess - 1 else guess) minExponent
    let (n, d) := shiftedFraction num den e
    let m := nearest n d
    let (m, e) := if m = Nat.pow 2 53 then (Nat.pow 2 52, e + 1) else (m, e)
    if maxExponent < e then none else some ⟨negative, m, e⟩

/-- The absolute value as a fraction. -/
def magnitude (x : Binary64) : Nat × Nat :=
  if 0 ≤ x.exponent then (x.significand * Nat.pow 2 x.exponent.toNat, 1)
  else (x.significand, Nat.pow 2 (-x.exponent).toNat)

/-- The number nearest to a whole number. -/
def ofInt? (n : Int) : Option Binary64 :=
  round? (n < 0) n.natAbs 1

/-- The number nearest to `digits * 10 ^ exponent`. -/
def ofDecimal? (negative : Bool) (digits : Nat) (exponent : Int) : Option Binary64 :=
  let places : Int := (Nat.toDigits 10 digits).length + exponent
  if digits = 0 || places < -330 then some (zero negative)
  else if 310 < places then none
  else if 0 ≤ exponent then round? negative (digits * Nat.pow 10 exponent.toNat) 1
  else round? negative digits (Nat.pow 10 (-exponent).toNat)

/-- `x * 10 ^ k` with the power of ten rounded first, for `k` up to 308. -/
def timesPower? (x : Binary64) (k : Nat) : Option Binary64 := do
  let p ← round? false (Nat.pow 10 k) 1
  let (a, b) := x.magnitude
  let (c, d) := p.magnitude
  round? x.negative (a * c) (b * d)

/-- `x / 10 ^ k` with the power of ten rounded first, for `k` up to 308. -/
def overPower? (x : Binary64) (k : Nat) : Option Binary64 := do
  let p ← round? false (Nat.pow 10 k) 1
  let (a, b) := x.magnitude
  let (c, d) := p.magnitude
  round? x.negative (a * d) (b * c)

/-- `x * 10 ^ exponent` in steps of at most `10 ^ 308`, each rounded on its own. A quotient
reaches zero after a few steps, so `steps` never runs out first. -/
def scaleBy? (x : Binary64) (exponent : Int) : (steps : Nat) → Option Binary64
  | 0 => some x
  | steps + 1 =>
    if x.isZero then some x
    else if 0 ≤ exponent then
      if exponent ≤ 308 then x.timesPower? exponent.toNat else none
    else if -308 ≤ exponent then x.overPower? (-exponent).toNat
    else do scaleBy? (← x.overPower? 308) (exponent + 308) steps

/-- The whole number `digits`, rounded, times `10 ^ exponent`. -/
def scaled? (negative : Bool) (digits : Nat) (exponent : Int) : Option Binary64 := do
  scaleBy? (← round? negative digits 1) exponent 6

end Binary64

end ServiceContract
