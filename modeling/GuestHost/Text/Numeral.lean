import GuestHost.Decimal.Binary

/-! # Numbers and truth values written as text

The grammars by which settings given as text are read.

* **Whole numbers** (`whole?`).  An optional sign, then digits in base ten, or in the base named
  by `0x`, `0o`, `0b` or a leading `0`.  Single underscores may stand between digits.
* **Reals** (`real?`).  Decimal or hexadecimal notation, infinities and "not a number".
* **Truth values** (`truth?`). -/

namespace GuestHost.Numeral

/-- Why a numeral is no number of the wanted kind. -/
inductive Problem
  | grammar
  | range
deriving DecidableEq, Repr

def lower (c : Char) : Char := c.toLower

/-- The value of a digit, letters counting from ten. -/
def digit? (c : Char) : Option Nat :=
  if c.isDigit then some (c.toNat - '0'.toNat)
  else if 'a' ≤ lower c ∧ lower c ≤ 'z' then some ((lower c).toNat - 'a'.toNat + 10)
  else none

/-- What the underscore rule remembers of the character before. -/
inductive Seen
  | start | digit | underscore | other
deriving DecidableEq, Repr

/-- Each underscore stands between two digits; a base mark counts as a digit. -/
def underscoresFit (hexadecimal : Bool) : Seen → List Char → Bool
  | seen, [] => seen != .underscore
  | seen, c :: r =>
    if c.isDigit || (hexadecimal && 'a' ≤ lower c && lower c ≤ 'f') then
      underscoresFit hexadecimal .digit r
    else if c = '_' then seen == .digit && underscoresFit hexadecimal .underscore r
    else seen != .underscore && underscoresFit hexadecimal .other r

/-- The underscore rule for a whole numeral, its base mark included. -/
def underscoresFitUnsigned (cs : List Char) : Bool :=
  match cs with
  | '0' :: m :: r =>
    if lower m = 'b' ∨ lower m = 'o' ∨ lower m = 'x' then underscoresFit (lower m = 'x') .digit r
    else underscoresFit false .start cs
  | _ => underscoresFit false .start cs

/-- Base and digits of an unsigned numeral. -/
def baseOf (cs : List Char) : Nat × List Char :=
  match cs with
  | '0' :: m :: d :: r =>
    if lower m = 'b' then (2, d :: r)
    else if lower m = 'o' then (8, d :: r)
    else if lower m = 'x' then (16, d :: r)
    else (8, m :: d :: r)
  | '0' :: r => (8, r)
  | _ => (10, cs)

/-- Adds up digits.  A number beyond the limit is found before a later bad character. -/
def addUp (base limit : Nat) : Nat → List Char → Except Problem Nat
  | n, [] => .ok n
  | n, c :: r =>
    if c = '_' then addUp base limit n r
    else
      match digit? c with
      | none => .error .grammar
      | some d =>
        if base ≤ d then .error .grammar
        else if limit < n * base + d then .error .range
        else addUp base limit (n * base + d) r

/-- An unsigned whole number up to a limit. -/
def natural? (limit : Nat) (cs : List Char) : Except Problem Nat :=
  if cs = [] then .error .grammar
  else
    let (base, ds) := baseOf cs
    match addUp base limit 0 ds with
    | .error e => .error e
    | .ok n => if cs.contains '_' && !underscoresFitUnsigned cs then .error .grammar else .ok n

def sign (cs : List Char) : Bool × List Char :=
  match cs with
  | '-' :: r => (true, r)
  | '+' :: r => (false, r)
  | _ => (false, cs)

/-- A signed whole number of 64 bits. -/
def whole? (s : String) : Except Problem Int :=
  let (neg, cs) := sign s.toList
  match natural? (UInt64.size - 1) cs with
  | .error e => .error e
  | .ok n =>
    if neg then if n ≤ UInt64.size / 2 then .ok (-(n : Int)) else .error .range
    else if n < UInt64.size / 2 then .ok n else .error .range

def truth? (s : String) : Option Bool :=
  if ["1", "t", "T", "true", "TRUE", "True"].contains s then some true
  else if ["0", "f", "F", "false", "FALSE", "False"].contains s then some false
  else none

/-- Digits with at most one point: their value as one number, how many were read, how many of
them stand after the point, and what follows. -/
def mantissa (base : Nat) (seenPoint : Bool) (value count places : Nat) :
    List Char → Nat × Nat × Nat × List Char
  | [] => (value, count, places, [])
  | c :: r =>
    if c = '_' then mantissa base seenPoint value count places r
    else if c = '.' ∧ seenPoint = false then mantissa base true value count places r
    else
      match digit? c with
      | some d =>
        if d < base then
          mantissa base seenPoint (value * base + d) (count + 1)
            (if seenPoint then places + 1 else places) r
        else (value, count, places, c :: r)
      | none => (value, count, places, c :: r)

/-- A signed exponent in base ten; at least one digit, underscores left out. -/
def exponent? (cs : List Char) : Option Int :=
  let (neg, ds) := sign cs
  let plain := ds.filter (· ≠ '_')
  if plain ≠ [] ∧ (ds.head?.map Char.isDigit = some true) ∧ plain.all Char.isDigit then
    -- Exponents beyond five digits all mean the same.
    let n := plain.foldl (fun n c => min 100000 (n * 10 + (c.toNat - '0'.toNat))) 0
    some (if neg then -(n : Int) else n)
  else none

/-- Hexadecimal reals need an exponent, a power of two. -/
def hexReal? (neg : Bool) (cs : List Char) : Except Problem Float :=
  let (value, count, places, rest) := mantissa 16 false 0 0 0 cs
  if count = 0 then .error .grammar
  else
    match rest with
    | p :: e =>
      if lower p ≠ 'p' then .error .grammar
      else
        match exponent? e with
        | none => .error .grammar
        | some x =>
          let shift : Int := x - 4 * places
          -- Beyond these shifts the number overflows or vanishes.
          let bounded := max (-5000) (min 5000 shift)
          let (n, d) := Binary.scaled value 1 bounded
          match Binary.ofRatio? neg n d with
          | some f => .ok f
          | none => .error .range
    | [] => .error .grammar

def decimalReal? (neg : Bool) (cs : List Char) : Except Problem Float :=
  let (value, count, places, rest) := mantissa 10 false 0 0 0 cs
  if count = 0 then .error .grammar
  else
    let finish (x : Int) : Except Problem Float :=
      match Binary.ofDecimal? neg value (x - places) with
      | some f => .ok f
      | none => .error .range
    match rest with
    | [] => finish 0
    | p :: e =>
      if lower p ≠ 'e' then .error .grammar
      else
        match exponent? e with
        | none => .error .grammar
        | some x => finish x

/-- A real number of double precision, rounded to nearest. -/
def real? (s : String) : Except Problem Float :=
  let (neg, cs) := sign s.toList
  let word := String.ofList (cs.map lower)
  if word = "inf" ∨ word = "infinity" then .ok (Binary.infinity neg)
  else if s.toList.map lower = ['n', 'a', 'n'] then .ok Binary.nan
  else if cs.contains '_' && !underscoresFitUnsigned cs then .error .grammar
  else
    match cs with
    | '0' :: x :: r => if lower x = 'x' then hexReal? neg r else decimalReal? neg cs
    | _ => decimalReal? neg cs

end GuestHost.Numeral
