import GuestHost.Text.Encoding

/-! # Characters in their places

Indentation gives YAML its structure, so every character is read together with its line and
column.

* **Bytes** are read in blocks, and a block with anything in it that no YAML text holds ends the
  reading: what stands before the block can still be used (`readable`).
* **Spots** (`Spot.ofBytes`).  The three spellings of a line end become one.  A last spot with the
  character NUL closes a list that holds the whole text; a list without it goes on unreadably.
* `Folding` joins lines: a single line end between two words becomes a space, and of several all
  but the first are kept. -/

namespace GuestHost.Yaml

/-! ### Bytes -/

/-- The characters that a YAML text may hold. -/
def isAllowed (c : Char) : Bool :=
  let n := c.toNat
  n = 0x09 || n = 0x0A || n = 0x0D || (0x20 ≤ n && n ≤ 0x7E) || n = 0x85
    || (0xA0 ≤ n && n ≤ 0xD7FF) || (0xE000 ≤ n && n ≤ 0xFFFD) || 0x10000 ≤ n

/-- The characters of a block, put in reverse before others, and the bytes of a character that
goes on after it; `none` when the block is not readable.  `fuel` bounds their number. -/
def block? (e : Encoding) : Nat → List Char → List UInt8 → Option (List Char × List UInt8)
  | 0, acc, bs => some (acc, bs)
  | fuel + 1, acc, bs =>
    match bs with
    | [] => some (acc, [])
    | _ =>
      match e.front bs with
      | .char c r => if isAllowed c then block? e fuel (c :: acc) r else none
      | .cut => some (acc, bs)
      | .bad => none

def blockSize : Nat := 512

/-- Characters up to the first block that is not readable, in reverse, and whether there was no
such block.  `size` is the room in the next block, and `fuel` bounds the number of blocks. -/
def readable (e : Encoding) : Nat → Nat → List Char → List UInt8 → List Char × Bool
  | 0, _, acc, _ => (acc, false)
  | fuel + 1, size, acc, bs =>
    match block? e size acc (bs.take size) with
    | none => (acc, false)
    | some (acc, left) =>
      match bs.drop size with
      | [] => (acc, left.isEmpty)
      | more => readable e fuel blockSize acc (left ++ more)

/-! ### Spots -/

/-- A character and where it stands. -/
structure Spot where
  char : Char
  line : Nat
  column : Nat
  index : Nat
deriving Repr, Inhabited

/-- The character that closes every list of spots that holds a whole text. -/
def endMark : Char := '\x00'

def isBlank (c : Char) : Bool := c = ' ' || c = '\t'

def isBreak (c : Char) : Bool := c = '\n' || c = '\u2028' || c = '\u2029'

/-- What may follow a complete word. -/
def isGap (c : Char) : Bool := isBlank c || isBreak c || c = endMark

namespace Spot

/-- Lays characters out from a position on.  All line ends get one spelling. -/
def layOut (whole : Bool) (line column index : Nat) : List Char → List Spot
  | [] => if whole then [⟨endMark, line, column, index⟩] else []
  | '\r' :: '\n' :: r => ⟨'\n', line, column, index⟩ :: layOut whole (line + 1) 0 (index + 2) r
  | c :: r =>
    let c := if c = '\r' ∨ c = '\u0085' then '\n' else c
    ⟨c, line, column, index⟩
      :: (if isBreak c then layOut whole (line + 1) 0 (index + 1) r
          else layOut whole line (column + 1) (index + 1) r)

/-- The spots of a text as far as it can be read. -/
def ofBytes (b : Bytes) : List Spot :=
  let (encoding, mark, bs) := Encoding.ofFront b.toList
  let (cs, whole) := readable encoding (b.size + 1) (blockSize - mark) [] bs
  layOut whole 0 0 0 cs.reverse

def next (l : List Spot) : Char :=
  match l with
  | [] => endMark
  | s :: _ => s.char

/-- How many characters are looked at to tell what comes next. -/
def sight : Nat := 4

/-- Whether what comes next cannot be told, because the text is not readable there. -/
def isDark (l : List Spot) : Bool :=
  (l.take sight).length < sight && (l.take sight).all (·.char ≠ endMark)

/-- The mark of a document's start or end: three equal characters alone at a line's front. -/
def isDocumentMark (c : Char) (l : List Spot) : Bool :=
  match l with
  | a :: b :: d :: r => a.column = 0 && a.char = c && b.char = c && d.char = c && isGap (next r)
  | _ => false

def atDocumentMark (l : List Spot) : Bool := isDocumentMark '-' l || isDocumentMark '.' l

end Spot

/-! ### Joining lines -/

/-- Blanks and line ends met since the last word. -/
structure Folding where
  /-- Blanks before any line end, last first. -/
  blanks : List Char := []
  broken : Bool := false
  first : List Char := []
  /-- Further line ends, last first. -/
  more : List Char := []

namespace Folding

/-- A blank counts only before the first line end. -/
def blank (f : Folding) (c : Char) : Folding :=
  if f.broken then f else { f with blanks := c :: f.blanks }

/-- A line end takes the blanks before it away. -/
def lineEnd (f : Folding) (c : Char) : Folding :=
  if f.broken then { f with more := c :: f.more }
  else { blanks := [], broken := true, first := [c], more := [] }

/-- What stands for the gap in the text. -/
def text (f : Folding) : List Char :=
  if f.broken then
    if f.first = ['\n'] then if f.more.isEmpty then [' '] else f.more.reverse
    else f.first ++ f.more.reverse
  else f.blanks.reverse

/-- Text read so far, last character first, with the gap and another character after it. -/
def push (f : Folding) (acc : List Char) (c : Char) : List Char := c :: (f.text.reverse ++ acc)

def isEmpty (f : Folding) : Bool := !f.broken && f.blanks.isEmpty

end Folding

end GuestHost.Yaml
