import ServiceContract.Number.Binary64

/-!
# Shortest decimals

The text of a binary64 number is the decimal with the fewest digits that reads back as the
number, and of those the one nearest to it. `shortest` finds it by exact arithmetic: it tries one
digit, two digits and so on, and on each grid tests the two neighbours of the number.

Numbers from `10 ^ -5` up to `10 ^ 16` are written out, with at least one decimal; others in
scientific form. `Decimal.Form` says how the exponent is written.
-/

namespace ServiceContract.Decimal

/-- Whether `a * 10 ^ e` lies between two fractions over `2 ^ k` or `1 / 2 ^ k`, the ends
included when `ends` says so. The bounds are `lo * 2 ^ q` and `hi * 2 ^ q`. -/
def within (ends : Bool) (lo hi : Nat) (q : Int) (a : Nat) (e : Int) : Bool :=
  let up (n : Nat) (b : Nat) (k : Int) := n * b.pow k.toNat
  let x := up (up a 10 e) 2 (-q)
  let lo := up (up lo 2 q) 10 (-e)
  let hi := up (up hi 2 q) 10 (-e)
  if ends then lo ≤ x && x ≤ hi else lo < x && x < hi

/-- `a * 10 ^ e` with no zero at the end of `a`; `steps` bounds the zeros taken away. -/
def normal (a : Nat) (e : Int) : (steps : Nat) → Nat × Int
  | 0 => (a, e)
  | steps + 1 => if a % 10 = 0 then normal (a / 10) (e + 1) steps else (a, e)

/-- The decimal `d * 10 ^ e` of fewest digits that rounds to `m * 2 ^ q`, for a positive `m`. -/
def shortest (m : Nat) (q : Int) : Nat × Int :=
  let ends := m % 2 == 0
  let lo := if m = Nat.pow 2 52 && Binary64.minExponent < q then 4 * m - 1 else 4 * m - 2
  let hi := 4 * m + 2
  let (num, den) := Binary64.magnitude ⟨false, m, q⟩
  -- the least power of ten above the number
  let guess : Int := (((m.log2 : Int) + q) * 30103) / 100000
  let below (k : Int) : Bool :=
    num * Nat.pow 10 (-k).toNat < den * Nat.pow 10 k.toNat
  let top := ([guess - 1, guess, guess + 1, guess + 2].find? below).getD (guess + 3)
  let found := (List.range 17).findSome? fun (i : Nat) =>
    let e : Int := top - ((i : Int) + 1)
    let n := num * Nat.pow 10 (-e).toNat
    let d := den * Nat.pow 10 e.toNat
    let a := n / d
    let r := n % d
    let low := within ends lo hi (q - 2) a e
    let high := within ends lo hi (q - 2) (a + 1) e
    let takeLow := 2 * r < d || (2 * r == d && a % 2 == 0)
    if low && (takeLow || !high) then some (a, e)
    else if high then some (a + 1, e)
    else none
  let (a, e) := found.getD (num, 0)
  normal a e 20

/-- How an exponent is written: whether a positive one has a plus sign. -/
structure Form where
  plus : Bool

/-- The digits of a whole number. -/
def digits (n : Nat) : String :=
  String.ofList (Nat.toDigits 10 n)

/-- `n` zeros. -/
def zeros (n : Nat) : String :=
  String.ofList (List.replicate n '0')

/-- The text of `d * 10 ^ e`, for a positive `d` that does not end in zero. -/
def layout (form : Form) (d : Nat) (e : Int) : String :=
  let s := Nat.toDigits 10 d
  let point : Int := s.length + e
  if 0 ≤ e && point ≤ 16 then String.ofList s ++ zeros e.toNat ++ ".0"
  else if 0 < point && point ≤ 16 then
    String.ofList (s.take point.toNat) ++ "." ++ String.ofList (s.drop point.toNat)
  else if -5 < point && point ≤ 0 then "0." ++ zeros (-point).toNat ++ String.ofList s
  else
    let exponent := point - 1
    let fraction := s.drop 1
    let mantissa := String.ofList (s.take 1) ++
      (if fraction.isEmpty then "" else "." ++ String.ofList fraction)
    let sign := if exponent < 0 then "-" else if form.plus then "+" else ""
    mantissa ++ "e" ++ sign ++ digits exponent.natAbs

/-- The text of a number. -/
def text (form : Form) (x : Binary64) : String :=
  let body :=
    if x.isZero then "0.0"
    else
      let (d, e) := shortest x.significand x.exponent
      layout form d e
  if x.negative then "-" ++ body else body

end ServiceContract.Decimal
