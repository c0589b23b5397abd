import GuestHost.Datum

/-! # JSON texts

The reader of settings files in JSON.  All numbers are reals, and the last of several entries with
one key counts.  Bytes that are no text are read as the replacement character.  Lists and tables
stand in each other up to a limit (`maxDepth`). -/

namespace GuestHost.Json

def isSpace (c : Char) : Bool := c = ' ' || c = '\t' || c = '\n' || c = '\r'

def trim (cs : List Char) : List Char := cs.dropWhile isSpace

/-- The value of four hexadecimal digits, and what follows them. -/
def hexWord? (cs : List Char) : Option (Nat × List Char) :=
  match cs with
  | a :: b :: c :: d :: r => do
    let w ← Yaml.hexDigit? a
    let x ← Yaml.hexDigit? b
    let y ← Yaml.hexDigit? c
    let z ← Yaml.hexDigit? d
    some (((w * 16 + x) * 16 + y) * 16 + z, r)
  | _ => none

/-- The character of an escape after `\u`; halves of pairs that stand alone are replaced. -/
def escapedChar (w : Nat) (r : List Char) : Char × List Char :=
  if 0xD800 ≤ w && w < 0xE000 then
    match r with
    | '\\' :: 'u' :: t =>
      match hexWord? t with
      | some (x, t') =>
        if w < 0xDC00 && 0xDC00 ≤ x && x < 0xE000 then
          (Char.ofNat (0x10000 + (w - 0xD800) * 0x400 + (x - 0xDC00)), t')
        else ('\uFFFD', r)
      | none => ('\uFFFD', r)
    | _ => ('\uFFFD', r)
  else (Char.ofNat w, r)

/-- The rest of a text after its first quote.  `fuel` bounds its length. -/
def textRest : Nat → List Char → List Char → Option (String × List Char)
  | 0, _, _ => none
  | _ + 1, _, [] => none
  | fuel + 1, acc, c :: r =>
    if c = '"' then some (String.ofList acc.reverse, r)
    else if c.toNat < 0x20 then none
    else if c ≠ '\\' then textRest fuel (c :: acc) r
    else
      match r with
      | 'u' :: t =>
        match hexWord? t with
        | none => none
        | some (w, t) =>
          let (e, t) := escapedChar w t
          textRest fuel (e :: acc) t
      | e :: t =>
        match e with
        | '"' => textRest fuel ('"' :: acc) t
        | '\\' => textRest fuel ('\\' :: acc) t
        | '/' => textRest fuel ('/' :: acc) t
        | 'b' => textRest fuel ('\x08' :: acc) t
        | 'f' => textRest fuel ('\x0c' :: acc) t
        | 'n' => textRest fuel ('\n' :: acc) t
        | 'r' => textRest fuel ('\r' :: acc) t
        | 't' => textRest fuel ('\t' :: acc) t
        | _ => none
      | [] => none

def digits? (cs : List Char) : Option (List Char × List Char) :=
  match cs.takeWhile Char.isDigit with
  | [] => none
  | ds => some (ds, cs.dropWhile Char.isDigit)

/-- A number; one beyond the largest double is none. -/
def number? (cs : List Char) : Option (Float × List Char) := do
  let (minus, r) := match cs with
    | '-' :: r => (['-'], r)
    | _ => ([], cs)
  let (whole, r) ← match r with
    | '0' :: r => some (['0'], r)
    | _ => digits? r
  let (frac, r) ← match r with
    | '.' :: t => (digits? t).map fun (ds, t) => ('.' :: ds, t)
    | _ => some ([], r)
  let (exp, r) ← match r with
    | e :: t =>
      if e = 'e' || e = 'E' then
        let (sign, t) := match t with
          | '+' :: u => (['+'], u)
          | '-' :: u => (['-'], u)
          | _ => ([], t)
        (digits? t).map fun (ds, t) => ('e' :: sign ++ ds, t)
      else some ([], r)
    | [] => some ([], r)
  match Numeral.real? (String.ofList (minus ++ whole ++ frac ++ exp)) with
  | .ok x => some (x, r)
  | .error _ => none

/-- How many lists and tables may stand in each other. -/
def maxDepth : Nat := 10000

mutual

/-- A value inside of `depth` lists and tables, and what follows it. -/
def value? (depth : Nat) : Nat → List Char → Option (Datum × List Char)
  | 0, _ => none
  | fuel + 1, cs =>
    match trim cs with
    | '{' :: r =>
      if maxDepth ≤ depth then none
      else
        match trim r with
        | '}' :: t => some (.table [], t)
        | _ => entries? (depth + 1) fuel [] r
    | '[' :: r =>
      if maxDepth ≤ depth then none
      else
        match trim r with
        | ']' :: t => some (.list [], t)
        | _ => items? (depth + 1) fuel [] r
    | '"' :: r => (textRest (r.length + 1) [] r).map fun (s, t) => (.text s, t)
    | 't' :: 'r' :: 'u' :: 'e' :: r => some (.truth true, r)
    | 'f' :: 'a' :: 'l' :: 's' :: 'e' :: r => some (.truth false, r)
    | 'n' :: 'u' :: 'l' :: 'l' :: r => some (.null, r)
    | r => (number? r).map fun (x, t) => (.real x, t)

/-- The rest of a list after its bracket or a comma. -/
def items? (depth : Nat) : Nat → List Datum → List Char → Option (Datum × List Char)
  | 0, _, _ => none
  | fuel + 1, acc, cs => do
    let (d, r) ← value? depth fuel cs
    match trim r with
    | ',' :: t => items? depth fuel (d :: acc) t
    | ']' :: t => some (.list (d :: acc).reverse, t)
    | _ => none

/-- The rest of a table after its brace or a comma. -/
def entries? (depth : Nat) : Nat → List (String × Datum) → List Char → Option (Datum × List Char)
  | 0, _, _ => none
  | fuel + 1, acc, cs => do
    match trim cs with
    | '"' :: r =>
      let (key, r) ← textRest (r.length + 1) [] r
      match trim r with
      | ':' :: r =>
        let (d, r) ← value? depth fuel r
        let acc := Datum.put acc key d
        match trim r with
        | ',' :: t => entries? depth fuel acc t
        | '}' :: t => some (.table acc, t)
        | _ => none
      | _ => none
    | _ => none

end

def table? (b : Bytes) : Option (List (String × Datum)) :=
  let cs := (Utf8.lossy b.toList).toList
  match value? 0 (2 * cs.length + 2) cs with
  | some (.table es, r) => if (trim r).isEmpty then some es else none
  | some (.null, r) => if (trim r).isEmpty then some [] else none
  | _ => none

end GuestHost.Json
