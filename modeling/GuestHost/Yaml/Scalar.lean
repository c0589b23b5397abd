import GuestHost.Decimal.Shortest
import GuestHost.Text.Numeral
import GuestHost.Yaml.Node

/-! # What a YAML word means

A plain word may be nothing, a truth value, a number or a date; any other word is text.  A word
under one of the tags for these kinds has to fit its tag, a word under the tag for bytes is read as
base 64, and under any other tag it is text. -/

namespace GuestHost.Yaml

/-- The meaning of a word. -/
inductive Scalar
  | null
  | truth (b : Bool)
  | whole (n : Int)
  | real (x : Float)
  | moment
  | text (s : String)
deriving Inhabited

namespace Scalar

/-- Words with a fixed meaning. -/
def fixed? (s : String) : Option Scalar :=
  if ["", "~", "null", "Null", "NULL"].contains s then some null
  else if ["true", "True", "TRUE"].contains s then some (truth true)
  else if ["false", "False", "FALSE"].contains s then some (truth false)
  else if [".nan", ".NaN", ".NAN"].contains s then some (real Binary.nan)
  else if [".inf", ".Inf", ".INF", "+.inf", "+.Inf", "+.INF"].contains s then
    some (real (Binary.infinity false))
  else if ["-.inf", "-.Inf", "-.INF"].contains s then some (real (Binary.infinity true))
  else none

def digits? (cs : List Char) : Option (Nat × List Char) :=
  match cs.takeWhile Char.isDigit with
  | [] => none
  | ds => some (ds.foldl (fun n c => n * 10 + (c.toNat - '0'.toNat)) 0, cs.dropWhile Char.isDigit)

def short? (cs : List Char) : Option (Nat × List Char) := do
  let (n, r) ← digits? (cs.take 2)
  some (n, r ++ cs.drop 2)

/-- A given character, and what follows. -/
def sign? (c : Char) (cs : List Char) : Option (List Char) :=
  match cs with
  | d :: r => if d = c then some r else none
  | [] => none

def daysIn (year month : Nat) : Nat :=
  let leap := year % 4 = 0 && (year % 100 ≠ 0 || year % 400 = 0)
  if month = 2 then if leap then 29 else 28
  else if [4, 6, 9, 11].contains month then 30 else 31

/-- A fraction of a second, if there is one. -/
def fraction (cs : List Char) : List Char :=
  match cs with
  | p :: d :: r => if (p = '.' || p = ',') && d.isDigit then r.dropWhile Char.isDigit else cs
  | _ => cs

/-- An offset from universal time: at most a whole day and a whole hour. -/
def isZone (cs : List Char) : Bool :=
  match cs with
  | ['Z'] => true
  | [s, a, b, ':', c, d] =>
    (s = '+' || s = '-') && a.isDigit && b.isDigit && c.isDigit && d.isDigit
      && (a.toNat - 48) * 10 + (b.toNat - 48) ≤ 24 && (c.toNat - 48) * 10 + (d.toNat - 48) ≤ 60
  | _ => false

/-- A time of day with what has to follow it. -/
def isClock (zone : Bool) (cs : List Char) : Bool :=
  (do
    let (h, r) ← short? cs
    let r ← sign? ':' r
    let (m, r) ← short? r
    let r ← sign? ':' r
    let (s, r) ← short? r
    let r := fraction r
    some (h < 24 && m < 60 && s < 60 && (if zone then isZone r else r.isEmpty))) = some true

/-- A date, or a date with a time of day. -/
def isMoment (s : String) : Bool :=
  let cs := s.toList
  (do
    if (cs.takeWhile Char.isDigit).length ≠ 4 then none
    let (year, r) ← digits? cs
    let r ← sign? '-' r
    let (month, r) ← short? r
    let r ← sign? '-' r
    let (day, r) ← short? r
    let dated := 1 ≤ month && month ≤ 12 && 1 ≤ day && day ≤ daysIn year month
    match r with
    | [] => some dated
    | c :: r =>
      if c = 'T' || c = 't' then some (dated && isClock true r)
      else if c = ' ' then some (dated && isClock false (r.dropWhile (· = ' ')))
      else some false) = some true

/-- The shape of a decimal number: digits around at most one point, and an exponent. -/
def isReal (cs : List Char) : Bool :=
  let (_, cs) := Numeral.sign cs
  let before := cs.takeWhile Char.isDigit
  let r := cs.dropWhile Char.isDigit
  let (after, r) := match r with
    | '.' :: t => (t.takeWhile Char.isDigit, t.dropWhile Char.isDigit)
    | _ => ([], r)
  let tail := match r with
    | [] => true
    | e :: t =>
      let (_, ds) := Numeral.sign t
      (e = 'e' || e = 'E') && !ds.isEmpty && ds.all Char.isDigit
  (!before.isEmpty || !after.isEmpty) && tail

/-- A number whose sign stands between the mark of its base and its digits. -/
def innerSign? (mark : Char) (base : Nat) (cs : List Char) : Option Int :=
  let digits (limit : Nat) (ds : List Char) : Option Nat :=
    if ds.isEmpty then none else (Numeral.addUp base limit 0 ds).toOption
  match cs with
  | '0' :: m :: s :: ds =>
    if m ≠ mark then none
    else if s = '-' then (digits (UInt64.size / 2) ds).map fun n => -(n : Int)
    else if s = '+' then (digits (UInt64.size / 2 - 1) ds).map fun n => (n : Int)
    else none
  | _ => none

/-- A word that starts with a digit or a sign. -/
def number (s : String) : Scalar :=
  let bare := String.ofList (s.toList.filter (· ≠ '_'))
  match Numeral.whole? bare with
  | .ok n => whole n
  | .error _ =>
    match Numeral.natural? (UInt64.size - 1) bare.toList with
    | .ok n => whole n
    | .error _ =>
      let real? := if isReal bare.toList then (Numeral.real? bare).toOption else none
      match real? with
      | some x => real x
      | none =>
        match (innerSign? 'b' 2 bare.toList).or (innerSign? 'o' 8 bare.toList) with
        | some n => whole n
        | none => text s

def ofPlain (s : String) : Scalar :=
  match fixed? s with
  | some v => v
  | none =>
    match s.toList with
    | [] => null
    | c :: _ =>
      if c = '.' then
        match Numeral.real? s with
        | .ok x => real x
        | .error _ => text s
      else if c.isDigit || c = '+' || c = '-' then
        if isMoment s then moment else number s
      else text s

def base64Digit? (c : Char) : Option Nat :=
  if c.isUpper then some (c.toNat - 65)
  else if c.isLower then some (c.toNat - 71)
  else if c.isDigit then some (c.toNat + 4)
  else if c = '+' then some 62
  else if c = '/' then some 63
  else none

/-- The bytes of base-64 text without its padding. -/
def base64Bytes : List Nat → List UInt8
  | a :: b :: c :: d :: r =>
    UInt8.ofNat (a * 4 + b / 16) :: UInt8.ofNat (b * 16 + c / 4) :: UInt8.ofNat (c * 64 + d)
      :: base64Bytes r
  | [a, b, c] => [UInt8.ofNat (a * 4 + b / 16), UInt8.ofNat (b * 16 + c / 4)]
  | [a, b] => [UInt8.ofNat (a * 4 + b / 16)]
  | _ => []

/-- Text given in base 64. -/
def ofBase64? (s : String) : Option String := do
  let cs := s.toList.filter fun c => c ≠ '\n' && c ≠ '\r'
  if cs.length % 4 ≠ 0 then none
  let body := (cs.reverse.dropWhile (· = '=')).reverse
  if cs.length - body.length > 2 then none
  let ds ← body.mapM base64Digit?
  some (Utf8.lossy (base64Bytes ds))

/-- The tags that a word has to fit. -/
def bindingTags : List String := ["!!null", "!!bool", "!!int", "!!float", "!!timestamp"]

def bytesTag : String := "!!binary"

/-- The meaning of a word under a tag; `none` when it does not fit the tag. -/
def ofWord? (word tag : String) : Option Scalar :=
  if tag = "" then some (ofPlain word)
  else if tag = bytesTag then (ofBase64? word).map text
  else if bindingTags.contains tag then
    match ofPlain word with
    | null => if tag = "!!null" then some null else none
    | truth b => if tag = "!!bool" then some (truth b) else none
    | whole n =>
      if tag = "!!int" then some (whole n)
      else if tag = "!!float" && n < (UInt64.size / 2 : Nat) then some (real (Float.ofInt n))
      else none
    | real x => if tag = "!!float" then some (real x) else none
    | moment => if tag = "!!timestamp" then some moment else none
    | text _ => none
  else some (text word)

/-- Whether two meanings are the same key. -/
def isSame : Scalar → Scalar → Bool
  | null, null => true
  | truth a, truth b => a = b
  | whole a, whole b => a = b
  | real x, real y => x == y
  | text s, text t => s = t
  | _, _ => false

/-- A meaning as the key of a table. -/
def keyText : Scalar → String
  | null => ""
  | truth b => if b then "true" else "false"
  | whole n => toString n
  | real x => Decimal.plain x
  | moment => "moment"
  | text s => s

end Scalar

namespace Node

/-- The meaning of a word; `none` for a collection and for a word that does not fit its tag. -/
def meaning? : Node → Option Scalar
  | scalar text tag => Scalar.ofWord? text tag
  | _ => none

/-- The text of a word, as it is written: `some none` for nothing, `none` for a collection and for
a word that does not fit its tag. -/
def written? (n : Node) : Option (Option String) :=
  match n with
  | scalar text tag =>
    match n.meaning? with
    | none => none
    | some .null => some none
    | some (.text s) => some (some (if tag = Scalar.bytesTag then s else text))
    | some _ => some (some text)
  | _ => none

/-- Whether a word is text by its tag or its look. -/
def isText : Node → Bool
  | scalar text tag =>
    if tag = "" then
      match Scalar.ofPlain text with
      | .text _ => true
      | _ => false
    else tag = textTag || tag = "!!merge"
  | _ => false

end Node
end GuestHost.Yaml
