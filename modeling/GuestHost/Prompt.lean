import GuestHost.Exchange
import GuestHost.Text.Blank
import GuestHost.Text.Figure

/-! # The terminal prompt

A file is chosen by its path, typed at a prompt.  While a prompt is showing further requests are
ignored.

* `Prompt.readLine` is the line editor: what is typed becomes a line, unless the user breaks off.
* `Prompt` tells where the prompt stands.  Between the end of a selection (`Prompt.answer`,
  `Prompt.abandon`, `Prompt.fail`) and `Prompt.release` it does not show any more, and new requests
  are still ignored. -/

namespace GuestHost

/-- Where a prompt stands. -/
inductive Prompt
  /-- A request would open it. -/
  | free
  /-- It waits for a line. -/
  | showing
  /-- The selection is over and the terminal is being given back. -/
  | leaving
deriving DecidableEq, Repr, Inhabited

namespace Prompt

def component : String := "prompt-picker"

/-! ### The line editor -/

/-- Keys of the line editor. -/
inductive Key
  | char (c : Char)
  | enter
  /-- Breaks off. -/
  | interrupt
  /-- The end of the input: ends the line, and breaks off an empty one. -/
  | finish
  /-- Takes the character after the cursor away, and breaks off an empty line. -/
  | delete
  | backspace
  | left
  | right
  | lineStart
  | lineEnd
  | wordLeft
  | wordRight
  | cutLeft
  | cutRight
  | cutWordLeft
  | cutWordRight
  | paste
  | swap
  | idle
deriving DecidableEq, Repr

/-- The key of a character.  Control characters without a task are typed as they are. -/
def Key.ofChar (c : Char) : Key :=
  match c.toNat with
  | 0 => finish
  | 1 => lineStart
  | 2 => left
  | 3 => interrupt
  | 4 => delete
  | 5 => lineEnd
  | 6 => right
  | 7 => idle
  | 8 => backspace
  | 9 => idle
  | 10 => enter
  | 11 => cutRight
  | 12 => idle
  | 13 => enter
  | 14 => idle
  | 16 => idle
  | 18 => idle
  | 19 => idle
  | 20 => swap
  | 21 => cutLeft
  | 23 => cutWordLeft
  | 25 => paste
  | 26 => idle
  | 127 => backspace
  | _ => char c

/-- The key of a character after the escape character. -/
def Key.afterEscape (c : Char) : Key :=
  if c = 'b' then wordLeft
  else if c = 'f' then wordRight
  else if c = 'd' then cutWordRight
  else if c.toNat = 20 then char '\uFFFD'
  else if c.toNat = 127 then cutWordLeft
  else ofChar c

/-- The key at the end of a sequence with its numbers; most sequences give none. -/
def Key.ofSequence? (bracket : Bool) (numbers : List Char) (last : Char) : Option Key :=
  match last with
  | 'A' => some idle
  | 'B' => some idle
  | 'C' => some right
  | 'D' => some left
  | 'H' => some lineStart
  | 'F' => some lineEnd
  | '~' => if bracket && numbers = ['3'] then some delete else none
  | _ => none

/-- Where the reader of keys is. -/
inductive KeyMode
  | plain
  | escape
  /-- In a sequence, after its numbers. -/
  | sequence (bracket : Bool) (numbers : List Char)

def escapeChar : Char := '\x1b'

/-- The keys that characters stand for. -/
def keys : KeyMode → List Char → List Key
  | _, [] => []
  | .plain, c :: r => if c = escapeChar then keys .escape r else Key.ofChar c :: keys .plain r
  | .escape, c :: r =>
    if c = '[' then keys (.sequence true []) r
    else if c = 'O' then keys (.sequence false []) r
    else if c = escapeChar then keys .escape r
    else Key.afterEscape c :: keys .plain r
  | .sequence bracket numbers, c :: r =>
    if c = ';' || Figure.isFigure c then keys (.sequence bracket (numbers ++ [c])) r
    else (Key.ofSequence? bracket numbers c).toList ++ keys .plain r

/-- A line that is being edited. -/
structure Line where
  /-- The characters before the cursor, the last one first. -/
  before : List Char := []
  after : List Char := []
  /-- How far the cursor is past the end of the line. -/
  past : Nat := 0
  cut : List Char := []

namespace Line

def text (l : Line) : List Char := l.before.reverse ++ l.after

def isEmpty (l : Line) : Bool := l.before.isEmpty && l.after.isEmpty

/-- Characters between words. -/
def isBetween (c : Char) : Bool := !c.isAlphanum

/-- How far it is back to the start of a word; `inWord` tells that a character of the word has
been passed. -/
def toWordStart (inWord : Bool) : List Char → Nat
  | [] => 0
  | c :: r => if inWord && isBetween c then 0 else toWordStart (!isBetween c) r + 1

/-- How far it is to the start of the next word; `outside` tells that the last character passed
stands between words. -/
def toNextWord (outside : Bool) : List Char → Nat
  | [] => 0
  | c :: r => if outside && !isBetween c then 0 else toNextWord (isBetween c) r + 1

def moveLeft (l : Line) (n : Nat) : Line :=
  { l with before := l.before.drop n, after := (l.before.take n).reverse ++ l.after }

def moveRight (l : Line) (n : Nat) : Line :=
  { l with before := (l.after.take n).reverse ++ l.before, after := l.after.drop n }

def insert (l : Line) (cs : List Char) : Line := { l with before := cs.reverse ++ l.before }

def cutAfter (l : Line) (n : Nat) : Line :=
  { l with after := l.after.drop n, cut := l.after.take n }

/-- Cuts the word before the cursor.  The first word of a line takes the whole line with it. -/
def cutWordLeft (l : Line) : Line :=
  let n := toWordStart false l.before
  if l.before.isEmpty then l
  else if n < l.before.length then
    { l with before := l.before.drop n, cut := (l.before.take n).reverse }
  else { l with before := [], after := [] }

/-- Cuts up to the blank before the next word, or to the end of the line. -/
def cutWordRight (l : Line) : Line :=
  let gap := (l.after.takeWhile isBetween).length
  let n := gap + toNextWord false (l.after.drop gap)
  if l.after.isEmpty then l
  else if n < l.after.length then l.cutAfter (n - 1) else l.cutAfter l.after.length

/-- Swaps the characters around the cursor, or the last two, and moves behind them.  On a line of
one character the cursor only moves on, past the end if it was there. -/
def swap (l : Line) : Line :=
  match l.before, l.after with
  | [], c :: d :: r => { l with before := [c, d], after := r }
  | b :: bs, c :: r => { l with before := b :: c :: bs, after := r }
  | b :: c :: bs, [] => { l with before := c :: b :: bs }
  | [], [c] => { l with before := [c], after := [] }
  | [_], [] => { l with past := l.past + 1 }
  | [], [] => l

/-- A line with the cursor in it after a key that neither ends it nor breaks it off. -/
def editInside (l : Line) : Key → Line
  | .char c => l.insert [c]
  | .delete => if l.after.isEmpty then l else l.cutAfter 1
  | .backspace => { l with before := l.before.drop 1 }
  | .left => l.moveLeft 1
  | .right => l.moveRight 1
  | .lineStart => l.moveLeft l.before.length
  | .lineEnd => l.moveRight l.after.length
  | .wordLeft => l.moveLeft (toWordStart false l.before)
  | .wordRight => l.moveRight (toNextWord false l.after)
  | .cutLeft => if l.before.isEmpty then l else { l with before := [], cut := l.before.reverse }
  | .cutRight => l.cutAfter l.after.length
  | .cutWordLeft => l.cutWordLeft
  | .cutWordRight => l.cutWordRight
  | .paste => l.insert l.cut
  | .swap => l.swap
  | .enter | .interrupt | .finish | .idle => l

/-- A line after a key that neither ends it nor breaks it off.  From past the end the cursor goes
left and right step by step; all other keys take it back first. -/
def edit (l : Line) (k : Key) : Line :=
  if l.past = 0 then l.editInside k
  else
    match k with
    | .left => { l with past := l.past - 1 }
    | .right => { l with past := l.past + 1 }
    | .swap => l.swap
    | .idle => l
    | k => { l with past := 0 }.editInside k

end Line

/-- Edits a line until it ends.  `none` when the user broke off. -/
def read? (l : Line) : List Key → Option (List Char)
  | [] => if l.isEmpty then none else some l.text
  | .enter :: _ => some l.text
  | .interrupt :: _ => none
  | .finish :: _ => if l.isEmpty then none else some l.text
  | .delete :: r => if l.isEmpty then none else read? (l.edit .delete) r
  | k :: r => read? (l.edit k) r

/-- The line in what was typed; `none` when the user broke off. -/
def readLine (typed : Bytes) : Option String :=
  (read? {} (keys .plain (Utf8.lossy typed.toList).toList)).map String.ofList

/-! ### Requests and answers -/

/-- Opens the prompt, unless it is in use. -/
def request : Prompt → Prompt × Journal
  | free => (showing, [])
  | p => (p, [.debug component "Prompt already open"])

/-- Presents the prompt at a terminal that may refuse, and tells what comes of it.  A terminal that
is in use is not asked again. -/
def present (p : Prompt) (refusal : Option Fault) : Prompt × Opening × Journal :=
  match p, refusal with
  | free, some why => (free, .fails why, [])
  | p, _ => (p.request.1, .waits, p.request.2)

def cancelled : Journal := [.info component "File selection cancelled"]

/-- Takes what was typed at the prompt; the file is read at once. -/
def answer (p : Prompt) (t : FileTree) (typed : Bytes) : Prompt × Option Selection × Journal :=
  match p with
  | showing =>
    match readLine typed with
    | none => (leaving, none, cancelled)
    | some line =>
      let path := String.ofList (Blank.trim line.toList)
      if path = "" then (leaving, none, cancelled)
      else
        match Selection.read t path with
        | .ok s => (leaving, some s, [])
        | .error f =>
          (leaving, none, [.error component "Failed to read selected file" [("error", .fault f)]])
  | p => (p, none, [])

/-- Breaks the selection off from outside. -/
def abandon : Prompt → Prompt × Journal
  | showing => (leaving, cancelled)
  | p => (p, [])

/-- Ends the selection because no line can be read. -/
def fail (p : Prompt) (why : Fault) : Prompt × Journal :=
  match p with
  | showing => (leaving, [.error component "Failed to read file path" [("error", .fault why)]])
  | p => (p, [])

def release : Prompt → Prompt
  | leaving => free
  | p => p

end Prompt
end GuestHost
