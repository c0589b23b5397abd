import GuestHost.Decimal.Binary

/-! # The fewest digits that read back

A finite double is shown with the fewest decimal digits that read back as the same double; among
those the ones nearest to its value.

* `shortest` looks for them.  For one digit, two digits, and so on, the two neighbours of the
  value on that decimal grid are tested against the interval of reals that round to the double.
* `general` lays them out: plainly for magnitudes from `0.0001` up to below a million, with a
  signed exponent of at least two digits otherwise.
* `plain` lays them out without an exponent, however long that is. -/

namespace GuestHost.Decimal

open Binary

/-- The number `digits * 10 ^ exponent`. -/
structure Scaled where
  digits : Nat
  exponent : Int
deriving Repr, DecidableEq

/-- The reals that round to a double: value and ends as fractions over one denominator. -/
structure Interval where
  low : Nat
  value : Nat
  high : Nat
  den : Nat
  closed : Bool
deriving Repr

/-- The rounding interval of `m * 2 ^ q`.  Its ends lie half way to the neighbours, and below a
power of two the neighbour is nearer.  The ends belong to it when `m` is even. -/
def interval (m : Nat) (q : Int) : Interval :=
  let low := if m = leadingBit ∧ -1074 < q then 4 * m - 1 else 4 * m - 2
  let s := q - 2
  if 0 ≤ s then
    let k := 1 <<< s.toNat
    ⟨low * k, 4 * m * k, (4 * m + 2) * k, 1, m % 2 = 0⟩
  else ⟨low, 4 * m, 4 * m + 2, 1 <<< (-s).toNat, m % 2 = 0⟩

/-- Whether `k * 10 ^ p` lies in the interval. -/
def Interval.contains (v : Interval) (k : Nat) (p : Int) : Bool :=
  let (n, d) := if 0 ≤ p then (k * Nat.pow 10 p.toNat * v.den, 1)
    else (k * v.den, Nat.pow 10 (-p).toNat)
  if v.closed then v.low * d ≤ n && n ≤ v.high * d else v.low * d < n && n < v.high * d

/-- How many times `n` has to be multiplied by ten to reach `den`. -/
def stepsTo (den : Nat) : Nat → Nat → Nat
  | 0, _ => 0
  | fuel + 1, n => if den ≤ n then 0 else stepsTo den fuel (n * 10) + 1

/-- The decimal exponent of `num / den`: the power of ten of its first digit. -/
def decimalExponent (num den : Nat) : Int :=
  if den ≤ num then ((Nat.toDigits 10 (num / den)).length : Int) - 1
  else -((stepsTo den 400 num : Nat) : Int)

/-- The neighbour of the value on the grid of multiples of `10 ^ p` that lies in the interval,
the nearer one when both do. -/
def Interval.onGrid? (v : Interval) (p : Int) : Option Nat :=
  let (n, d) := if 0 ≤ p then (v.value, v.den * Nat.pow 10 p.toNat)
    else (v.value * Nat.pow 10 (-p).toNat, v.den)
  let k := n / d
  match v.contains k p, v.contains (k + 1) p with
  | true, true => some (if 2 * (n % d) ≤ d then k else k + 1)
  | true, false => some k
  | false, true => some (k + 1)
  | false, false => none

/-- Tries one digit count after the other. -/
def search (v : Interval) (x : Int) : Nat → Nat → Scaled
  | 0, _ => ⟨v.value / v.den, 0⟩
  | fuel + 1, n =>
    let p := x - n
    match v.onGrid? p with
    | some k => ⟨k, p⟩
    | none => search v x fuel (n + 1)

def Scaled.trim : Nat → Scaled → Scaled
  | 0, s => s
  | fuel + 1, s =>
    if s.digits % 10 = 0 ∧ s.digits ≠ 0 then Scaled.trim fuel ⟨s.digits / 10, s.exponent + 1⟩ else s

/-- The fewest digits that read back as `m * 2 ^ q`. -/
def shortest (m : Nat) (q : Int) : Scaled :=
  if m = 0 then ⟨0, 0⟩
  else
    let v := interval m q
    (search v (decimalExponent v.value v.den) 18 0).trim 20

def digitsOf (n : Nat) : List Char := Nat.toDigits 10 n

def zeros (n : Nat) : List Char := List.replicate n '0'

/-- The digits with the point put after the `x + 1`-st of them, zeros filling what is missing. -/
def Scaled.plainText (s : Scaled) : List Char :=
  let ds := digitsOf s.digits
  if 0 ≤ s.exponent then ds ++ zeros s.exponent.toNat
  else
    let point : Int := (ds.length : Int) + s.exponent
    if 0 < point then ds.take point.toNat ++ '.' :: ds.drop point.toNat
    else '0' :: '.' :: (zeros (-point).toNat ++ ds)

/-- One digit before the point and a signed exponent of at least two digits. -/
def Scaled.exponentText (s : Scaled) : List Char :=
  let ds := digitsOf s.digits
  let x : Int := (ds.length : Int) - 1 + s.exponent
  let tail := if ds.length ≤ 1 then [] else '.' :: ds.drop 1
  let e := digitsOf x.natAbs
  ds.take 1 ++ tail ++ ['e', if x < 0 then '-' else '+'] ++ (if e.length < 2 then '0' :: e else e)

/-- Text of a double whose finite magnitudes are laid out by `layout`. -/
def textWith (layout : Scaled → List Char) (x : Float) : String :=
  if x.isNaN then "NaN"
  else
    let sign := if isNegative x then ['-'] else []
    if x.isInf then if isNegative x then "-Inf" else "+Inf"
    else
      let p := parts x
      String.ofList (sign ++ layout (shortest p.significand p.power))

/-- Plain from `0.0001` up to below a million, with an exponent otherwise. -/
def Scaled.generalText (s : Scaled) : List Char :=
  let x : Int := ((digitsOf s.digits).length : Int) - 1 + s.exponent
  if x < -4 ∨ 6 ≤ x then s.exponentText else s.plainText

/-- The text of a double in messages. -/
def general (x : Float) : String := textWith Scaled.generalText x

/-- The text of a double without an exponent. -/
def plain (x : Float) : String := textWith Scaled.plainText x

end GuestHost.Decimal
