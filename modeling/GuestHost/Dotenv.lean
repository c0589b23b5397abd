import GuestHost.Datum
import GuestHost.Text.Blank
import GuestHost.Text.Encoding

/-! # Texts of assignments

Settings may be given one a line, the way variables are given to a shell: `NAME=value` or
`NAME: value`, after the word `export` if one likes.  Every value is text.

* **Quotes.**  A value in quotes may hold anything, and goes on over several lines until its quote
  is closed.  In double quotes a backslash gives the next character, and some letters after it
  stand for line ends.  A value without quotes ends before a comment.
* **Variables.**  Outside single quotes `$NAME` and `${NAME}` stand for the value of a variable:
  one of the surroundings, or else one assigned before.
* Any other line is a fault, except an empty one and a comment. -/

namespace GuestHost.Dotenv

/-- Blanks between the parts of an assignment. -/
def isSpace (c : Char) : Bool := c = ' ' || c = '\t' || c = '\n' || c = '\r' || c = '\x0c'

def isNameChar (c : Char) : Bool := c.isAlphanum || c = '_' || c = '.'

/-- Characters of the names of variables inside values. -/
def isVariableChar (c : Char) : Bool := c.isUpper || c.isDigit || c = '_'

/-- The lines of a text after the characters of an unfinished line, last one first.  A line ends
with either of two characters or both. -/
def lines (line : List Char) : List Char → List (List Char)
  | [] => if line.isEmpty then [] else [line.reverse]
  | '\r' :: '\n' :: r => line.reverse :: lines [] r
  | c :: r => if c = '\n' || c = '\r' then line.reverse :: lines [] r else lines (c :: line) r

/-! ### The parts of an assignment -/

/-- What may follow a value: blanks and a comment. -/
def isTail (cs : List Char) : Bool :=
  match cs.dropWhile isSpace with
  | [] => true
  | c :: r => c = '#' && !r.contains '\n'

/-- What stands before the last quote that can close a value. -/
def beforeClosing? (quote : Char) : List Char → Option (List Char)
  | [] => none
  | c :: r =>
    match beforeClosing? quote r with
    | some v => some (c :: v)
    | none => if c = quote && isTail r then some [] else none

/-- A value with its quotes. -/
def value? (cs : List Char) : Option (List Char) :=
  let quoted := match cs with
    | q :: r =>
      if q = '\'' || q = '"' then (beforeClosing? q r).map fun v => q :: v ++ [q] else none
    | [] => none
  match quoted with
  | some v => some v
  | none =>
    let bare := cs.takeWhile fun c => c ≠ '#' && c ≠ '\n'
    if isTail (cs.drop bare.length) then some bare else none

def named? (cs : List Char) : Option (String × List Char) :=
  let name := cs.takeWhile isNameChar
  let r := cs.dropWhile isNameChar
  let value := match r.dropWhile isSpace with
    | '=' :: u =>
      (List.range ((u.takeWhile isSpace).length + 1)).reverse.findSome? fun k => value? (u.drop k)
    | _ =>
      match r with
      | ':' :: u =>
        (List.range (u.takeWhile isSpace).length).findSome? fun k => value? (u.drop (k + 1))
      | _ => none
  if name.isEmpty then none else value.map (String.ofList name, ·)

def assignment? (line : List Char) : Option (String × List Char) :=
  let cs := line.dropWhile isSpace
  let exported := match cs with
    | 'e' :: 'x' :: 'p' :: 'o' :: 'r' :: 't' :: r =>
      if (r.takeWhile isSpace).isEmpty then none else named? (r.dropWhile isSpace)
    | _ => none
  exported.or (named? cs)

/-! ### Values -/

/-- Puts a character for a backslash with a letter; `held` tells that a backslash came before. -/
def putFor (letter code : Char) (held : Bool) : List Char → List Char
  | [] => if held then ['\\'] else []
  | c :: r =>
    if held && c = letter then code :: putFor letter code false r
    else
      (if held then ['\\'] else [])
        ++ (if c = '\\' then putFor letter code true r else c :: putFor letter code false r)

/-- Takes away backslashes, except before a dollar sign; `held` tells that one came before. -/
def unescape (held : Bool) : List Char → List Char
  | [] => if held then ['\\'] else []
  | c :: r =>
    if held then if c = '$' then '\\' :: '$' :: unescape false r else c :: unescape false r
    else if c = '\\' then unescape true r else c :: unescape false r

/-- Puts the values of variables.  A backslash before a dollar sign takes its meaning away.
`fuel` bounds the length. -/
def expand (lookup : String → List Char) : Nat → List Char → List Char
  | 0, cs => cs
  | fuel + 1, cs =>
    let reference (r : List Char) : List Char × List Char × List Char :=
      let brace := r.take (if r.head? = some '{' then 1 else 0)
      let r := r.drop brace.length
      let name := r.takeWhile isVariableChar
      let r := r.drop name.length
      let closing := r.take (if r.head? = some '}' then 1 else 0)
      ('$' :: brace ++ name ++ closing, name, r.drop closing.length)
    match cs with
    | [] => []
    | '\\' :: '$' :: r =>
      let (written, _, r) := reference r
      written ++ expand lookup fuel r
    | '$' :: r =>
      let (written, name, r) := reference r
      (if name.isEmpty then written else lookup (String.ofList name)) ++ expand lookup fuel r
    | c :: r => c :: expand lookup fuel r

/-- The text that a value stands for. -/
def meaning (lookup : String → List Char) (value : List Char) : String :=
  let v := Blank.trim value
  let isIn (q : Char) : Bool := 2 ≤ v.length && v.head? = some q && v.getLast? = some q
  let inner := (v.drop 1).dropLast
  let expanded (cs : List Char) : List Char := expand lookup (cs.length + 1) cs
  String.ofList
    (if isIn '\'' then inner
     else if isIn '"' then expanded (unescape false (putFor 'r' '\r' false (putFor 'n' '\n' false inner)))
     else expanded v)

/-! ### Lines that belong together -/

def lastPlace? (c : Char) (cs : List Char) : Option Nat :=
  if cs.contains c then some (cs.length - 1 - (cs.reverse.takeWhile (· ≠ c)).length) else none

/-- The quote that a line opens and does not close. -/
def openQuote? (line : List Char) : Option Char :=
  let mark := if line.contains '=' then '=' else ':'
  let before := line.takeWhile (· ≠ mark)
  let value := Blank.trim (line.drop (before.length + 1))
  match before, value with
  | _ :: _, q :: r =>
    if q = '"' || q = '\'' then
      match lastPlace? q (Blank.trim r) with
      | some i => if value[i]? = some '\\' then some q else none
      | none => some q
    else none
  | _, _ => none

/-- A line with those after it, up to one that closes a quote. -/
def gather? (quote : Char) (line : List Char) : List (List Char) →
    Option (List Char × List (List Char))
  | [] => none
  | l :: r =>
    let line := line ++ '\n' :: l
    match lastPlace? quote l with
    | some (i + 1) => if l[i]? = some '\\' then gather? quote line r else some (line, r)
    | some 0 => some (line, r)
    | none => gather? quote line r

/-- Reads lines one after the other.  `fuel` bounds their number. -/
def read? (surroundings : List (String × String)) :
    Nat → List (String × Datum) → List (List Char) → Option (List (String × Datum))
  | _, es, [] => some es
  | 0, _, _ :: _ => none
  | fuel + 1, es, l :: r =>
    let line := Blank.trim l
    if line.isEmpty || line.head? = some '#' then read? surroundings fuel es r
    else do
      let (line, r) ← match openQuote? line with
        | some q => gather? q line r
        | none => some (line, r)
      let (name, value) ← assignment? line
      let lookup (variable_ : String) : List Char :=
        match surroundings.lookup variable_, Datum.get? es variable_ with
        | some s, _ => s.toList
        | none, some (.text s) => s.toList
        | none, _ => []
      read? surroundings fuel (Datum.put es name (.text (meaning lookup value))) r

/-- The first number of bytes that is too many for a line. -/
def tooLong : Nat := 65536

/-- The table of the assignments of a text. -/
def table? (surroundings : List (String × String)) (b : Bytes) : Option (List (String × Datum)) :=
  let ls := lines [] (Encoding.lossy b)
  if ls.all fun l => (String.ofList l).utf8ByteSize < tooLong then
    read? surroundings (ls.length + 1) [] ls
  else none

end GuestHost.Dotenv
