import GuestHost.Datum

/-! # TOML texts

The reader of settings files in TOML: entries with dotted keys, tables and arrays of tables under
headers, and values of all kinds.  Saying anything twice is a fault, and so is opening a table
again that was closed by its own header. -/

namespace GuestHost.Toml

/-! ### Blanks and comments -/

def isBlank (c : Char) : Bool := c = ' ' || c = '\t'

def trim (cs : List Char) : List Char := cs.dropWhile isBlank

/-- Characters that neither texts nor comments hold as they are. -/
def isControl (c : Char) : Bool := (c.toNat < 0x20 && c ≠ '\t') || c.toNat = 0x7F

/-- Drops a comment up to the end of its line; `none` when it holds a control character. -/
def dropComment? (cs : List Char) : Option (List Char) :=
  match cs with
  | '#' :: r =>
    let rest := r.dropWhile (!isControl ·)
    match rest with
    | [] => some []
    | '\n' :: _ => some rest
    | '\r' :: '\n' :: _ => some rest
    | _ => none
  | _ => some cs

/-- Drops a line end, if there is one. -/
def lineEnd? (cs : List Char) : Option (List Char) :=
  match cs with
  | '\n' :: r => some r
  | '\r' :: '\n' :: r => some r
  | _ => none

/-- Drops blanks, comments and line ends.  `fuel` bounds the number of lines. -/
def skipLines? : Nat → List Char → Option (List Char)
  | 0, cs => some cs
  | fuel + 1, cs =>
    match dropComment? (trim cs) with
    | none => none
    | some r =>
      match lineEnd? r with
      | some t => skipLines? fuel t
      | none => some r

/-- Drops what may stand between the parts of an array. -/
def skipAll? (cs : List Char) : Option (List Char) := skipLines? (cs.length + 1) cs

/-- What follows an entry on its line: nothing but a comment. -/
def endOfLine? (cs : List Char) : Option (List Char) :=
  match dropComment? (trim cs) with
  | none => none
  | some [] => some []
  | some r => lineEnd? r

/-! ### Texts and keys -/

def charOf? (n : Nat) : Option Char :=
  if (0xD800 ≤ n && n < 0xE000) || 0x10FFFF < n then none else some (Char.ofNat n)

/-- A given number of hexadecimal digits. -/
def hex? : Nat → Nat → List Char → Option (Nat × List Char)
  | 0, n, cs => some (n, cs)
  | k + 1, n, c :: r =>
    match Yaml.hexDigit? c with
    | some d => hex? k (n * 16 + d) r
    | none => none
  | _ + 1, _, [] => none

def escape? (cs : List Char) : Option (Char × List Char) :=
  match cs with
  | 'u' :: r => do
    let (n, r) ← hex? 4 0 r
    some (← charOf? n, r)
  | 'U' :: r => do
    let (n, r) ← hex? 8 0 r
    some (← charOf? n, r)
  | c :: r =>
    match c with
    | 'b' => some ('\x08', r)
    | 't' => some ('\t', r)
    | 'n' => some ('\n', r)
    | 'f' => some ('\x0c', r)
    | 'r' => some ('\r', r)
    | 'e' => some ('\x1b', r)
    | '"' => some ('"', r)
    | '\\' => some ('\\', r)
    | _ => none
  | [] => none

/-- The rest of a text on one line after its first quote; only a text in double quotes has
escapes. -/
def lineText? (quote : Char) : Nat → List Char → List Char → Option (String × List Char)
  | 0, _, _ => none
  | _ + 1, _, [] => none
  | fuel + 1, acc, c :: r =>
    if c = quote then some (String.ofList acc.reverse, r)
    else if isControl c then none
    else if c = '\\' && quote = '"' then
      match escape? r with
      | some (e, t) => lineText? quote fuel (e :: acc) t
      | none => none
    else lineText? quote fuel (c :: acc) r

/-- The rest of a text over several lines after its first three quotes.  Up to two quotes may
stand before the closing ones. -/
def linesText? (quote : Char) : Nat → List Char → List Char → Option (String × List Char)
  | 0, _, _ => none
  | _ + 1, _, [] => none
  | fuel + 1, acc, c :: r =>
    if c = quote then
      let run := (c :: r).takeWhile (· = quote)
      if run.length < 3 then linesText? quote fuel (c :: acc) r
      else if 5 < run.length then none
      else
        let kept := List.replicate (run.length - 3) quote
        some (String.ofList (acc.reverse ++ kept), (c :: r).dropWhile (· = quote))
    else if c = '\\' && quote = '"' then
      match lineEnd? (trim r) with
      | some t =>
        linesText? quote fuel acc (t.dropWhile fun d => isBlank d || d = '\n' || d = '\r')
      | none =>
        match escape? r with
        | some (e, t) => linesText? quote fuel (e :: acc) t
        | none => none
    else if isControl c && c ≠ '\n' && !(c = '\r' && r.head? = some '\n') then none
    else linesText? quote fuel (c :: acc) r

/-- A text in any of the four kinds of quotes. -/
def text? (cs : List Char) : Option (String × List Char) :=
  let body (quote : Char) (r : List Char) : Option (String × List Char) :=
    let r := (lineEnd? r).getD r
    linesText? quote (r.length + 1) [] r
  match cs with
  | '"' :: '"' :: '"' :: r => body '"' r
  | '\'' :: '\'' :: '\'' :: r => body '\'' r
  | '"' :: r => lineText? '"' (r.length + 1) [] r
  | '\'' :: r => lineText? '\'' (r.length + 1) [] r
  | _ => none

def isKeyChar (c : Char) : Bool := c.isAlphanum || c = '_' || c = '-'

def keyPart? (cs : List Char) : Option (String × List Char) :=
  match cs with
  | '"' :: r => lineText? '"' (r.length + 1) [] r
  | '\'' :: r => lineText? '\'' (r.length + 1) [] r
  | _ =>
    match cs.takeWhile isKeyChar with
    | [] => none
    | w => some (String.ofList w, cs.dropWhile isKeyChar)

/-- A key: parts with dots between them. -/
def key? : Nat → List Char → Option (List String × List Char)
  | 0, _ => none
  | fuel + 1, cs => do
    let (k, r) ← keyPart? (trim cs)
    match trim r with
    | '.' :: t =>
      let (ks, r) ← key? fuel t
      some (k :: ks, r)
    | r => some ([k], r)

/-! ### Numbers and moments -/

/-- Digits of a base with single underscores between them. -/
def digitsFit (base : Nat) (cs : List Char) : Bool :=
  let isDigit (c : Char) : Bool := match Yaml.hexDigit? c with
    | some d => d < base
    | none => false
  let rec go : Bool → List Char → Bool
    | after, [] => after
    | after, c :: r => if c = '_' then after && go false r else isDigit c && go true r
  go false cs

/-- The number of digits in a base, underscores left out. -/
def numberIn (base : Nat) (cs : List Char) : Nat :=
  cs.foldl (fun n c => match Yaml.hexDigit? c with
    | some d => n * base + d
    | none => n) 0

/-- A whole number that fits 64 bits. -/
def whole? (cs : List Char) : Option Int :=
  let signed := cs.head? = some '-' || cs.head? = some '+'
  let (neg, ds) := Numeral.sign cs
  let fit (n : Nat) : Option Int :=
    if neg then if n ≤ UInt64.size / 2 then some (-(n : Int)) else none
    else if n < UInt64.size / 2 then some n else none
  match ds with
  | '0' :: 'x' :: r => if !signed && digitsFit 16 r then fit (numberIn 16 r) else none
  | '0' :: 'o' :: r => if !signed && digitsFit 8 r then fit (numberIn 8 r) else none
  | '0' :: 'b' :: r => if !signed && digitsFit 2 r then fit (numberIn 2 r) else none
  | '0' :: _ :: _ => none
  | _ => if digitsFit 10 ds then fit (numberIn 10 ds) else none

def real? (cs : List Char) : Option Float :=
  let (neg, ds) := Numeral.sign cs
  if String.ofList ds = "inf" then some (Binary.infinity neg)
  else if String.ofList ds = "nan" then some Binary.nan
  else
    let isExp (c : Char) : Bool := c = 'e' || c = 'E'
    let mantissa := ds.takeWhile (!isExp ·)
    let exponent := ds.dropWhile (!isExp ·)
    let before := mantissa.takeWhile (· ≠ '.')
    let after := mantissa.dropWhile (· ≠ '.')
    let leads := match before with
      | '0' :: _ :: _ => false
      | _ => digitsFit 10 before
    let fractionFits := after.isEmpty || digitsFit 10 (after.drop 1)
    let exponentFits := exponent.isEmpty || digitsFit 10 (Numeral.sign (exponent.drop 1)).2
    if leads && fractionFits && exponentFits && !(after.isEmpty && exponent.isEmpty) then
      (Numeral.real? (String.ofList (cs.filter (· ≠ '_')))).toOption
    else none

/-- A time of day; the sixtieth second is one too. -/
def isClock (cs : List Char) : Bool :=
  match cs with
  | a :: b :: ':' :: c :: d :: ':' :: e :: f :: r =>
    [a, b, c, d, e, f].all Char.isDigit && numberIn 10 [a, b] < 24 && numberIn 10 [c, d] < 60
      && numberIn 10 [e, f] ≤ 60
      && (match r with
          | '.' :: s => !s.isEmpty && s.all Char.isDigit
          | _ => r.isEmpty)
  | _ => false

def isDate (cs : List Char) : Bool :=
  match cs with
  | [a, b, c, d, '-', e, f, '-', g, h] =>
    [a, b, c, d, e, f, g, h].all Char.isDigit
      && 1 ≤ numberIn 10 [e, f] && numberIn 10 [e, f] ≤ 12 && 1 ≤ numberIn 10 [g, h]
      && numberIn 10 [g, h] ≤ Yaml.Scalar.daysIn (numberIn 10 [a, b, c, d]) (numberIn 10 [e, f])
  | _ => false

/-- An offset from universal time. -/
def isOffset (cs : List Char) : Bool :=
  match cs with
  | [s, a, b, ':', c, d] =>
    (s = '+' || s = '-') && [a, b, c, d].all Char.isDigit && numberIn 10 [a, b] < 24
      && numberIn 10 [c, d] < 60
  | _ => false

/-- A time of day with an offset from universal time, or without one. -/
def isZonedClock (cs : List Char) : Bool :=
  let r := cs.reverse
  match r with
  | z :: t =>
    if z = 'Z' || z = 'z' then isClock t.reverse
    else if (r.drop 5).head? = some '+' || (r.drop 5).head? = some '-' then
      isOffset (r.take 6).reverse && isClock (r.drop 6).reverse
    else isClock cs
  | [] => false

def isMoment (cs : List Char) : Bool :=
  isDate cs || isClock cs
    || (isDate (cs.take 10)
        && (match cs.drop 10 with
            | t :: r => (t = 'T' || t = 't' || t = ' ') && isZonedClock r
            | [] => false))

/-- Characters of numbers, moments and truth values. -/
def isBareChar (c : Char) : Bool := c.isAlphanum || "+-_.:".toList.contains c

/-- A value without quotes or brackets. -/
def bare? (cs : List Char) : Option (Datum × List Char) :=
  let w := cs.takeWhile isBareChar
  let r := cs.dropWhile isBareChar
  -- A date and a time of day may have a space between them.
  let (w, r) := match r with
    | ' ' :: t =>
      let clock := t.takeWhile isBareChar
      if isDate w && isZonedClock clock then (w ++ ' ' :: clock, t.dropWhile isBareChar) else (w, r)
    | _ => (w, r)
  if w = "true".toList then some (.truth true, r)
  else if w = "false".toList then some (.truth false, r)
  else if isMoment w then some (.moment, r)
  else
    match whole? w with
    | some n => some (.whole n, r)
    | none => (real? w).map fun x => (.real x, r)

/-! ### Tables -/

/-- How a path came to be. -/
inductive Mark
  /-- On the way to a header. -/
  | implied
  /-- By its own header. -/
  | explicit
  /-- On the way to a dotted key. -/
  | dotted
  | array
  | value
deriving DecidableEq

/-- The table read so far, where entries go now, and how its paths came to be. -/
structure Reading where
  root : List (String × Datum) := []
  here : List String := []
  marks : List (List String × Mark) := []

/-- Changes the table at a path; an array of tables stands for its last table. -/
def alter? (f : List (String × Datum) → Option (List (String × Datum))) :
    List String → List (String × Datum) → Option (List (String × Datum))
  | [], es => f es
  | k :: ks, es =>
    match Datum.get? es k with
    | none => (alter? f ks []).map fun sub => Datum.put es k (.table sub)
    | some (.table sub) => (alter? f ks sub).map fun sub => Datum.put es k (.table sub)
    | some (.list items) =>
      match items.getLast? with
      | some (.table sub) =>
        (alter? f ks sub).map fun sub => Datum.put es k (.list (items.dropLast ++ [.table sub]))
      | _ => none
    | some _ => none

/-- The paths on the way to a path. -/
def above (path : List String) : List (List String) :=
  (List.range (path.length - 1)).map fun i => path.take (i + 1)

/-- Marks the way to a header. -/
def Reading.markWay? (r : Reading) (path : List String) : Option Reading :=
  (above path).foldlM
    (fun r p => match r.marks.lookup p with
      | none => some { r with marks := (p, .implied) :: r.marks }
      | some .value => none
      | some _ => some r) r

/-- Opens the table of a header. -/
def Reading.open? (r : Reading) (path : List String) : Option Reading := do
  let r ← r.markWay? path
  match r.marks.lookup path with
  | none | some .implied =>
    let root ← alter? some path r.root
    some { root, here := path, marks := (path, .explicit) :: r.marks }
  | _ => none

/-- Adds a table to an array of tables. -/
def Reading.append? (r : Reading) (path : List String) : Option Reading := do
  let r ← r.markWay? path
  let last ← path.getLast?
  let marks ← match r.marks.lookup path with
    | none => some ((path, Mark.array) :: r.marks)
    | some .array =>
      some (r.marks.filter fun (p, _) => !(path.isPrefixOf p && p.length > path.length))
    | _ => none
  let root ← alter? (fun es => match Datum.get? es last with
      | some (.list items) => some (Datum.put es last (.list (items ++ [.table []])))
      | none => some (Datum.put es last (.list [.table []]))
      | some _ => none) path.dropLast r.root
  some { root, here := path, marks }

/-- Adds an entry to the open table. -/
def Reading.put? (r : Reading) (ks : List String) (d : Datum) : Option Reading := do
  let way := (above ks).map (r.here ++ ·)
  let r ← way.foldlM
    (fun r p => match r.marks.lookup p with
      | none => some { r with marks := (p, .dotted) :: r.marks }
      | some .implied | some .dotted => some r
      | some _ => none) r
  let path := r.here ++ ks
  if (r.marks.lookup path).isSome then none
  let last ← ks.getLast?
  let root ← alter? (fun es => some (Datum.put es last d)) (r.here ++ ks.dropLast) r.root
  some { r with root, marks := (path, .value) :: r.marks }

/-! ### Values -/

mutual

/-- A value, and what follows it. -/
def value? : Nat → List Char → Option (Datum × List Char)
  | 0, _ => none
  | fuel + 1, cs =>
    match cs with
    | '[' :: r => items? fuel [] r
    | '{' :: r =>
      match trim r with
      | '}' :: t => some (.table [], t)
      | _ => inline? fuel {} r
    | '"' :: _ => (text? cs).map fun (s, r) => (.text s, r)
    | '\'' :: _ => (text? cs).map fun (s, r) => (.text s, r)
    | _ => bare? cs

def items? : Nat → List Datum → List Char → Option (Datum × List Char)
  | 0, _, _ => none
  | fuel + 1, acc, cs =>
    match skipAll? cs with
    | none => none
    | some (']' :: r) => some (.list acc.reverse, r)
    | some r => do
      let (d, r) ← value? fuel r
      match ← skipAll? r with
      | ',' :: t => items? fuel (d :: acc) t
      | ']' :: t => some (.list (d :: acc).reverse, t)
      | _ => none

/-- The rest of a table between braces. -/
def inline? : Nat → Reading → List Char → Option (Datum × List Char)
  | 0, _, _ => none
  | fuel + 1, acc, cs => do
    let (ks, r) ← key? (cs.length + 1) cs
    match trim r with
    | '=' :: r =>
      let (d, r) ← value? fuel (trim r)
      let acc ← acc.put? ks d
      match trim r with
      | ',' :: t => inline? fuel acc t
      | '}' :: t => some (.table acc.root, t)
      | _ => none
    | _ => none

end

/-! ### Documents -/

/-- Reads headers and entries until the text ends. -/
def Reading.run : Nat → Reading → List Char → Option Reading
  | 0, _, _ => none
  | fuel + 1, r, cs =>
    match skipAll? cs with
    | none => none
    | some [] => some r
    | some ('[' :: '[' :: t) => do
      let (ks, t) ← key? (t.length + 1) t
      match trim t with
      | ']' :: ']' :: t => Reading.run fuel (← r.append? ks) (← endOfLine? t)
      | _ => none
    | some ('[' :: t) => do
      let (ks, t) ← key? (t.length + 1) t
      match trim t with
      | ']' :: t => Reading.run fuel (← r.open? ks) (← endOfLine? t)
      | _ => none
    | some t => do
      let (ks, t) ← key? (t.length + 1) t
      match trim t with
      | '=' :: t =>
        let (d, t) ← value? (2 * t.length + 2) (trim t)
        Reading.run fuel (← r.put? ks d) (← endOfLine? t)
      | _ => none

def table? (b : Bytes) : Option (List (String × Datum)) :=
  match Utf8.decode b.toList with
  | .ok cs => (Reading.run (cs.length + 1) {} cs).map Reading.root
  | .error _ => none

end GuestHost.Toml
