/-! # Doubles as whole numbers times a power of two

Exact arithmetic on doubles goes through their bit pattern.

* **Parts** (`Binary.parts`).  A finite double is `± m * 2 ^ q` with `m < 2 ^ 53`.
* **Nearest double** (`Binary.ofRatio?`).  The double closest to a positive fraction `num / den`,
  ties to the even neighbour, computed in whole numbers only. -/

namespace GuestHost.Binary

/-- A finite double: sign, significand and power of two. -/
structure Parts where
  negative : Bool
  significand : Nat
  power : Int
deriving Repr, DecidableEq

def isNegative (x : Float) : Bool := (x.toBits >>> 63) == 1

def exponentBits (x : Float) : Nat := ((x.toBits >>> 52) &&& 0x7FF).toNat

def fractionBits (x : Float) : Nat := (x.toBits &&& 0xFFFFFFFFFFFFF).toNat

/-- The value `2 ^ 52` of the leading bit of a significand. -/
def leadingBit : Nat := 4503599627370496

/-- Sign, significand and power of two of a finite double. -/
def parts (x : Float) : Parts :=
  let e := exponentBits x
  let f := fractionBits x
  if e = 0 then ⟨isNegative x, f, -1074⟩
  else ⟨isNegative x, leadingBit + f, (e : Int) - 1075⟩

/-- `num / den` rounded to the nearest whole number, a half going to the even neighbour. -/
def roundEven (num den : Nat) : Nat :=
  let q := num / den
  let r := num % den
  if 2 * r < den then q
  else if den < 2 * r then q + 1
  else if q % 2 = 0 then q else q + 1

/-- The fraction `num / den * 2 ^ s` as a numerator and a denominator. -/
def scaled (num den : Nat) (s : Int) : Nat × Nat :=
  if 0 ≤ s then (num <<< s.toNat, den) else (num, den <<< (-s).toNat)

/-- The power of two of the last significand bit when `num / den` is written as a double with a
53-bit significand; never below the power of the smallest subnormal. -/
def lastBitPower (num den : Nat) : Int :=
  let guess : Int := (num.log2 : Int) - (den.log2 : Int) - 52
  let (n, d) := scaled num den (-guess)
  let p := if n / d < leadingBit then guess - 1
    else if 2 * leadingBit ≤ n / d then guess + 1 else guess
  max p (-1074)

/-- Bit pattern of the double nearest to the positive fraction `num / den`; `none` when that is
beyond the largest finite double. -/
def bitsOfRatio? (num den : Nat) : Option UInt64 :=
  if num = 0 then some 0
  else
    let p := lastBitPower num den
    let (n, d) := scaled num den (-p)
    let m := roundEven n d
    -- A significand of 2 ^ 53 carries into the exponent by itself in the sum below.
    let e : Int := if m < leadingBit then 0 else p + 1075
    let bits : Int := if m < leadingBit then m else (e - 1) * leadingBit + m
    if bits < 0x7FF0000000000000 then some (UInt64.ofNat bits.toNat) else none

/-- The double nearest to `num / den`, or `none` when it overflows. -/
def ofRatio? (negative : Bool) (num den : Nat) : Option Float :=
  (bitsOfRatio? num den).map fun b => Float.ofBits (if negative then b ||| 0x8000000000000000 else b)

/-- The double nearest to `± digits * 10 ^ exponent`, or `none` when it overflows. -/
def ofDecimal? (negative : Bool) (digits : Nat) (exponent : Int) : Option Float :=
  if digits = 0 then ofRatio? negative 0 1
  -- Beyond these exponents every digit string that is not absurdly long overflows or vanishes.
  else if exponent > 400 then none
  else if exponent < -(Int.ofNat (Nat.log2 digits) + 1200) then ofRatio? negative 0 1
  else if 0 ≤ exponent then ofRatio? negative (digits * Nat.pow 10 exponent.toNat) 1
  else ofRatio? negative digits (Nat.pow 10 (-exponent).toNat)

def infinity (negative : Bool) : Float :=
  Float.ofBits (if negative then 0xFFF0000000000000 else 0x7FF0000000000000)

def nan : Float := Float.ofBits 0x7FF8000000000001

/-- The whole part of a finite double, towards zero. -/
def truncate (x : Float) : Int :=
  let p := parts x
  let n : Nat := if 0 ≤ p.power then p.significand <<< p.power.toNat
    else p.significand >>> (-p.power).toNat
  if p.negative then -(n : Int) else n

end GuestHost.Binary
