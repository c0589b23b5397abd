import GuestHost.Text.Numeral

/-! # Lengths of time

A length of time is a whole number of nanoseconds.  It is read from numbers with units
(`1h2m3.5s`) and shown with the largest units that fit. -/

namespace GuestHost

/-- A length of time in nanoseconds. -/
structure Duration where
  nanoseconds : Int
deriving DecidableEq, Repr, Inhabited

namespace Duration

/-- The length of each unit in nanoseconds. -/
def unit? (u : List Char) : Option Nat :=
  match String.ofList u with
  | "ns" => some 1
  | "us" => some 1000
  | "µs" => some 1000
  | "μs" => some 1000
  | "ms" => some 1000000
  | "s" => some 1000000000
  | "m" => some 60000000000
  | "h" => some 3600000000000
  | _ => none

/-- A digit or a point: what starts the next number. -/
def startsNumber (c : Char) : Bool := c.isDigit || c == '.'

/-- The first number of nanoseconds that is too large. -/
def bound : Nat := UInt64.size / 2

/-- The whole number at the front; `none` when it is beyond the bound. -/
def leadingWhole? (n : Nat) : List Char → Option (Nat × List Char)
  | [] => some (n, [])
  | c :: r =>
    if c.isDigit then
      let n' := n * 10 + (c.toNat - '0'.toNat)
      if bound < n' then none else leadingWhole? n' r
    else some (n, c :: r)

/-- The digits after a point as a number and a power of ten; digits that no longer fit in 63 bits
are passed over. -/
def leadingFraction (n scale : Nat) (full : Bool) : List Char → Nat × Nat × List Char
  | [] => (n, scale, [])
  | c :: r =>
    if c.isDigit then
      let n' := n * 10 + (c.toNat - '0'.toNat)
      if full || (bound - 1) / 10 < n || bound < n' then leadingFraction n scale true r
      else leadingFraction n' (scale * 10) false r
    else (n, scale, c :: r)

/-- One number with its unit, in nanoseconds. -/
def term? (cs : List Char) : Option (Nat × List Char) := do
  let (v, r) ← leadingWhole? 0 cs
  let before := r.length != cs.length
  let (f, scale, after, r) :=
    match r with
    | '.' :: t =>
      let (f, scale, t') := leadingFraction 0 1 false t
      (f, scale, t'.length != t.length, t')
    | _ => (0, 1, false, r)
  if !before && !after then none
  let u ← unit? (r.takeWhile (!startsNumber ·))
  let rest := r.dropWhile (!startsNumber ·)
  if bound / u < v then none
  let part := if f = 0 then 0
    else (Binary.truncate (Float.ofNat f * (Float.ofNat u / Float.ofNat scale))).toNat
  let total := v * u + part
  if bound < total then none
  some (total, rest)

/-- Adds up terms until the text is used up. -/
def terms? : Nat → Nat → List Char → Option Nat
  | _, n, [] => some n
  | 0, _, _ => none
  | fuel + 1, n, cs =>
    match term? cs with
    | none => none
    | some (v, r) => if bound < n + v then none else terms? fuel (n + v) r

/-- Reads a length of time: a sign, then numbers with units, or a bare zero. -/
def parse? (s : String) : Option Duration :=
  let (neg, cs) := Numeral.sign s.toList
  if cs = ['0'] then some ⟨0⟩
  else if cs = [] then none
  else
    match terms? cs.length 0 cs with
    | none => none
    | some n =>
      if neg then some ⟨-(n : Int)⟩ else if n < bound then some ⟨n⟩ else none

/-- A number of units with up to `places` decimals, trailing zeros left out. -/
def fractional (n places : Nat) : String :=
  let unit := Nat.pow 10 places
  let ds := Nat.toDigits 10 (n % unit)
  let padded := List.replicate (places - ds.length) '0' ++ ds
  let kept := (padded.reverse.dropWhile (· = '0')).reverse
  let whole := toString (n / unit)
  if n % unit = 0 then whole else whole ++ "." ++ String.ofList kept

def text (d : Duration) : String :=
  let n := d.nanoseconds.natAbs
  let body :=
    if n = 0 then "0s"
    else if n < 1000 then toString n ++ "ns"
    else if n < 1000000 then fractional n 3 ++ "µs"
    else if n < 1000000000 then fractional n 6 ++ "ms"
    else
      let minutes := n / 60000000000
      let seconds := fractional (n % 60000000000) 9 ++ "s"
      if minutes = 0 then seconds
      else if minutes < 60 then toString minutes ++ "m" ++ seconds
      else toString (minutes / 60) ++ "h" ++ toString (minutes % 60) ++ "m" ++ seconds
  if d.nanoseconds < 0 then "-" ++ body else body

end Duration
end GuestHost
