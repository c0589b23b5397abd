import GuestHost.Yaml.Spot

/-! # YAML tokens

A YAML text as a stream of marks and words, read as far as the reader asks for it.  Block
structure shows in the columns only, so the tokens that open and close a block are worked out
here: a token further to the right than the block around it opens a block, and one further to the
left closes blocks.

* **Words** are plain, quoted or block scalars, anchors, aliases and tags.
* **Keys.**  A word is known to be a key only when the colon after it is met.  `Scan.candidate`
  and `Scan.levels` remember for every level of brackets the last word that may still turn out to
  be one; when it does, the key mark is put in before it.
* **The queue** (`Scan.ready?`).  A token is handed out when two more have been read after it and
  it is settled whether it is a key.  Malformed text is noticed only as far as the queue
  reaches. -/

namespace GuestHost.Yaml

/-- A mark or a word. -/
inductive Token
  | versionDirective (major minor : Nat)
  | tagDirective (handle stem : String)
  | documentStart
  | documentEnd
  | blockSequence
  | blockMapping
  | blockEnd
  | flowSequence
  | flowSequenceEnd
  | flowMapping
  | flowMappingEnd
  | blockEntry
  | flowEntry
  | key
  | value
  | alias (name : String)
  | anchor (name : String)
  | tag (handle suffix : String)
  | scalar (text : String) (plain : Bool)
  | streamEnd
deriving DecidableEq, Repr, Inhabited

/-! ### Words -/

/-- Characters that end a plain word inside brackets. -/
def isFlowMark (c : Char) : Bool := c = ',' || c = '?' || c = '[' || c = ']' || c = '{' || c = '}'

/-- A plain word: it goes on over line ends as long as the lines are indented.  Tells whether it
ended after a line end. -/
def plainWord (flow : Bool) (indent : Int) :
    List Char → Folding → List Spot → Option (List Char × Bool × List Spot)
  | _, _, [] => none
  | acc, gap, s :: r =>
    let c := s.char
    if c = endMark then some (acc.reverse, gap.broken, s :: r)
    else if isBlank c then
      if gap.broken && s.column < indent && c = '\t' then none
      else plainWord flow indent acc (gap.blank c) r
    else if isBreak c then plainWord flow indent acc (gap.lineEnd c) r
    else
      let starts := acc.isEmpty || !gap.isEmpty
      if (starts && (Spot.atDocumentMark (s :: r) || c = '#'))
          || (gap.broken && !flow && s.column < indent)
          || (c = ':' && isGap (Spot.next r))
          || (flow && isFlowMark c) then
        some (acc.reverse, gap.broken, s :: r)
      else plainWord flow indent (gap.push acc c) {} r

/-- A single-quoted word after its first quote; a doubled quote stands for one. -/
def singleQuoted : List Char → Folding → List Spot → Option (List Char × List Spot)
  | _, _, [] => none
  | acc, gap, s :: r =>
    let c := s.char
    if c = endMark || Spot.atDocumentMark (s :: r) then none
    else if isBlank c then singleQuoted acc (gap.blank c) r
    else if isBreak c then singleQuoted acc (gap.lineEnd c) r
    else if c = '\'' then
      match r with
      | t :: r' =>
        if t.char = '\'' then singleQuoted (gap.push acc c) {} r'
        else some ((gap.text.reverse ++ acc).reverse, r)
      | [] => none
    else singleQuoted (gap.push acc c) {} r

/-- Where the reader of a double-quoted word is. -/
inductive Escape
  | none
  | backslash
  | digits (left value : Nat)

def escaped? (c : Char) : Option Char :=
  match c with
  | '0' => some '\x00'
  | 'a' => some '\x07'
  | 'b' => some '\x08'
  | 't' => some '\t'
  | '\t' => some '\t'
  | 'n' => some '\n'
  | 'v' => some '\x0b'
  | 'f' => some '\x0c'
  | 'r' => some '\r'
  | 'e' => some '\x1b'
  | ' ' => some ' '
  | '"' => some '"'
  | '\'' => some '\''
  | '\\' => some '\\'
  | 'N' => some '\u0085'
  | '_' => some '\u00a0'
  | 'L' => some '\u2028'
  | 'P' => some '\u2029'
  | _ => .none

/-- How many hexadecimal digits follow a letter after a backslash. -/
def escapeWidth (c : Char) : Nat :=
  if c = 'x' then 2 else if c = 'u' then 4 else if c = 'U' then 8 else 0

def hexDigit? (c : Char) : Option Nat :=
  if c.isDigit then some (c.toNat - '0'.toNat)
  else if 'a' ≤ c ∧ c ≤ 'f' then some (c.toNat - 'a'.toNat + 10)
  else if 'A' ≤ c ∧ c ≤ 'F' then some (c.toNat - 'A'.toNat + 10)
  else .none

/-- A double-quoted word after its first quote. -/
def doubleQuoted : Escape → List Char → Folding → List Spot → Option (List Char × List Spot)
  | _, _, _, [] => .none
  | .none, acc, gap, s :: r =>
    let c := s.char
    if c = endMark || Spot.atDocumentMark (s :: r) then .none
    else if isBlank c then doubleQuoted .none acc (gap.blank c) r
    else if isBreak c then doubleQuoted .none acc (gap.lineEnd c) r
    else if c = '"' then some ((gap.text.reverse ++ acc).reverse, r)
    else if c = '\\' then doubleQuoted .backslash (gap.text.reverse ++ acc) {} r
    else doubleQuoted .none (gap.push acc c) {} r
  | .backslash, acc, gap, s :: r =>
    let c := s.char
    if isBreak c then doubleQuoted .none acc { gap with broken := true } r
    else
      match escaped? c with
      | some e => doubleQuoted .none (e :: acc) gap r
      | .none =>
        if escapeWidth c = 0 then .none else doubleQuoted (.digits (escapeWidth c) 0) acc gap r
  | .digits left value, acc, gap, s :: r =>
    match hexDigit? s.char with
    | .none => .none
    | some d =>
      let value := value * 16 + d
      if left ≤ 1 then
        if (0xD800 ≤ value && value ≤ 0xDFFF) || 0x10FFFF < value then .none
        else doubleQuoted .none (Char.ofNat value :: acc) gap r
      else doubleQuoted (.digits (left - 1) value) acc gap r

/-- Blank lines and the indentation before a line of a block word.  With `indent` zero it is still
to be found out, and the widest indentation is told. -/
def blockBreaks (indent : Nat) : Nat → List Char → List Spot → Option (Nat × List Char × List Spot)
  | _, _, [] => none
  | widest, acc, s :: r =>
    let inside := indent = 0 || s.column < indent
    if s.char = ' ' && inside then blockBreaks indent widest acc r
    else
      let widest := max widest s.column
      if s.char = '\t' && inside then none
      else if isBreak s.char then blockBreaks indent widest (acc ++ [s.char]) r
      else some (widest, acc, s :: r)

/-- What happens to the line ends at the end of a block word. -/
inductive Chomping
  | clip
  | strip
  | keep
deriving DecidableEq

/-- Lines of a block word read so far. -/
structure BlockText where
  acc : List Char := []
  /-- The end of the last line. -/
  lineEnd : List Char := []
  /-- Blank lines after it. -/
  trailing : List Char := []
  /-- Whether the last line started with a blank. -/
  startedBlank : Bool := false

/-- Reads lines at the block's indentation.  `fuel` bounds the number of lines. -/
def blockLines (literal : Bool) (indent : Nat) :
    Nat → BlockText → List Spot → Option (BlockText × List Spot)
  | 0, b, l => some (b, l)
  | fuel + 1, b, l =>
    match l with
    | [] => none
    | s :: _ =>
      if s.column ≠ indent || s.char = endMark then some (b, l)
      else
        let blank := isBlank s.char
        let folds := !literal && !b.startedBlank && !blank && b.lineEnd = ['\n']
        let joint := (if folds then if b.trailing.isEmpty then [' '] else [] else b.lineEnd)
          ++ b.trailing
        let line := l.takeWhile fun t => !(isBreak t.char || t.char = endMark)
        let rest := l.dropWhile fun t => !(isBreak t.char || t.char = endMark)
        let acc := (joint ++ line.map Spot.char).reverse ++ b.acc
        let (lineEnd, rest) := match rest with
          | t :: r => if isBreak t.char then ([t.char], r) else ([], rest)
          | [] => ([], [])
        match blockBreaks indent 0 [] rest with
        | none => none
        | some (_, trailing, rest) =>
          blockLines literal indent fuel ⟨acc, lineEnd, trailing, blank⟩ rest

/-- The signs after `|` or `>`: how the end is treated and how deep the block is indented. -/
def blockSigns (l : List Spot) : Option (Chomping × Nat × List Spot) :=
  let chomp (c : Char) : Option Chomping :=
    if c = '+' then some .keep else if c = '-' then some .strip else none
  let depth (c : Char) : Option Nat := if c.isDigit then some (c.toNat - '0'.toNat) else none
  match l with
  | a :: r =>
    match chomp a.char, depth a.char with
    | some ch, _ =>
      match depth (Spot.next r) with
      | some 0 => none
      | some d => some (ch, d, r.drop 1)
      | none => some (ch, 0, r)
    | none, some 0 => none
    | none, some d =>
      match chomp (Spot.next r) with
      | some ch => some (ch, d, r.drop 1)
      | none => some (.clip, d, r)
    | none, none => some (.clip, 0, l)
  | [] => some (.clip, 0, [])

def blockWord (literal : Bool) (outer : Int) (l : List Spot) : Option (List Char × List Spot) := do
  let (chomping, depth, l) ← blockSigns l
  let l := l.dropWhile (isBlank ·.char)
  let l := if Spot.next l = '#' then
    l.dropWhile (fun t => !(isBreak t.char || t.char = endMark)) else l
  if !(isBreak (Spot.next l) || Spot.next l = endMark) then none
  let l := if isBreak (Spot.next l) then l.drop 1 else l
  let indent := if depth = 0 then 0 else (max outer 0).toNat + depth
  let (widest, trailing, l) ← blockBreaks indent 0 [] l
  let indent := if indent = 0 then max (max widest (outer + 1).toNat) 1 else indent
  let (b, l) ← blockLines literal indent (l.length + 1) { trailing } l
  let tail := (if chomping = .strip then [] else b.lineEnd)
    ++ (if chomping = .keep then b.trailing else [])
  some (b.acc.reverse ++ tail, l)

/-! ### Names and tags -/

def isNameChar (c : Char) : Bool := c.isAlphanum || c = '_' || c = '-'

/-- The text of the spots in front that satisfy a test, and the rest. -/
def word (p : Char → Bool) (l : List Spot) : String × List Spot :=
  (String.ofList ((l.takeWhile (p ·.char)).map Spot.char), l.dropWhile (p ·.char))

def anchorName (l : List Spot) : Option (String × List Spot) :=
  let (name, r) := word isNameChar l
  let c := Spot.next r
  if name ≠ "" && (isGap c || "?:,]\x7d%@".toList.contains c || c.toNat = 0x60) then some (name, r)
  else none

def isTagChar (c : Char) : Bool := isNameChar c || ";/?:@&=+$,.!~*'()[]%".toList.contains c

/-- The bytes of a suffix in which percent signs stand for bytes.  `pending` bytes of a character
have still to come, each with a percent sign. -/
def unescape? (pending : Nat) : List Char → Option (List UInt8)
  | [] => if pending = 0 then some [] else none
  | '%' :: a :: b :: r => do
    let octet := UInt8.ofNat ((← hexDigit? a) * 16 + (← hexDigit? b))
    if pending = 0 then
      if Utf8.leadWidth octet = 0 then none
      else (unescape? (Utf8.leadWidth octet - 1) r).map (octet :: ·)
    else if Utf8.isContinuation octet then (unescape? (pending - 1) r).map (octet :: ·)
    else none
  | c :: r =>
    if c = '%' || pending ≠ 0 then none
    else (unescape? 0 r).map (UInt8.ofNat c.toNat :: ·)

def tagSuffix? (l : List Spot) : Option (String × List Spot) :=
  let (raw, r) := word isTagChar l
  (unescape? 0 raw.toList).map fun bs => (Utf8.lossy bs, r)

def tagWord (l : List Spot) : Option (Token × List Spot) := do
  let (t, r) ←
    if Spot.next l = '<' then do
      let (uri, r) ← tagSuffix? (l.drop 1)
      if uri ≠ "" && Spot.next r = '>' then some (Token.tag "" uri, r.drop 1) else none
    else
      let (name, r) := word isNameChar l
      if Spot.next r = '!' then do
        let (suffix, r) ← tagSuffix? (r.drop 1)
        if suffix = "" then none else some (Token.tag ("!" ++ name ++ "!") suffix, r)
      else do
        let (suffix, r) ← tagSuffix? r
        if name ++ suffix = "" then some (Token.tag "" "!", r)
        else some (Token.tag "!" (name ++ suffix), r)
  if isGap (Spot.next r) then some (t, r) else none

/-- A number of at most two digits in a version. -/
def versionNumber? (l : List Spot) : Option (Nat × List Spot) :=
  let (ds, r) := word Char.isDigit l
  if 1 ≤ ds.length && ds.length ≤ 2 then ds.toNat?.map (·, r) else none

/-- A handle in a directive: one exclamation mark, or a name between two. -/
def handle? (l : List Spot) : Option (String × List Spot) :=
  if Spot.next l ≠ '!' then none
  else
    let (name, r) := word isNameChar (l.drop 1)
    if Spot.next r = '!' then some ("!" ++ name ++ "!", r.drop 1)
    else if name = "" then some ("!", r) else none

def directive (l : List Spot) : Option (Token × List Spot) := do
  let (name, r) := word isNameChar l
  if !isGap (Spot.next r) then none
  let r := r.dropWhile (isBlank ·.char)
  let (t, r) ←
    if name = "YAML" then do
      let (major, r) ← versionNumber? r
      if Spot.next r ≠ '.' then none
      let (minor, r) ← versionNumber? (r.drop 1)
      some (Token.versionDirective major minor, r)
    else if name = "TAG" then do
      let (handle, r) ← handle? r
      if !isBlank (Spot.next r) then none
      let (stem, r) ← tagSuffix? (r.dropWhile (isBlank ·.char))
      if stem ≠ "" && isGap (Spot.next r) then some (Token.tagDirective handle stem, r) else none
    else none
  let r := r.dropWhile (isBlank ·.char)
  let r := if Spot.next r = '#' then
    r.dropWhile (fun t => !(isBreak t.char || t.char = endMark)) else r
  if isBreak (Spot.next r) then some (t, r.drop 1)
  else if Spot.next r = endMark then some (t, r) else none

/-! ### The scan -/

/-- A word that may turn out to be a key. -/
structure Candidate where
  required : Bool
  /-- The number of its token. -/
  place : Nat
  line : Nat
  column : Nat
  index : Nat

/-- What is left of the text, the tokens that wait to be taken, and what decides about the next
ones. -/
structure Scan where
  rest : List Spot
  queue : List Token := []
  taken : Nat := 0
  /-- The column of the innermost block; -1 outside all blocks. -/
  indent : Int := -1
  outer : List Int := []
  keyAllowed : Bool := true
  /-- Whether a comment would stand on the line of the last token. -/
  onLine : Bool := false
  /-- The candidate of the current bracket level, then those of the levels around it. -/
  candidate : Option Candidate := none
  levels : List (Option Candidate) := []

namespace Scan

/-- How deep brackets and blocks may be nested. -/
def maxDepth : Nat := 10000

def inFlow (s : Scan) : Bool := !s.levels.isEmpty

def emit (s : Scan) (t : Token) : Scan := { s with queue := s.queue ++ [t] }

/-- The number of the next token. -/
def place (s : Scan) : Nat := s.taken + s.queue.length

/-- Puts a token in before the one with a number. -/
def insert (s : Scan) (place : Nat) (t : Token) : Scan :=
  if place < s.taken then s.emit t
  else
    { s with queue := s.queue.take (place - s.taken) ++ t :: s.queue.drop (place - s.taken) }

/-- Closes blocks that start to the right of a column. -/
def unrollTo (column : Int) : Int → List Int → List Token → Int × List Int × List Token
  | indent, [], queue => (indent, [], queue)
  | indent, o :: os, queue =>
    if column < indent then unrollTo column o os (queue ++ [.blockEnd]) else (indent, o :: os, queue)

/-- Closes blocks that start to the right of a column, unless brackets are open. -/
def unroll (s : Scan) (column : Int) : Scan :=
  if s.inFlow then s
  else
    let (indent, outer, queue) := unrollTo column s.indent s.outer s.queue
    { s with indent, outer, queue }

/-- Opens a block if the column is to the right of the current one. -/
def roll (s : Scan) (column : Nat) (place : Nat) (t : Token) : Option Scan :=
  if s.inFlow || column ≤ s.indent then some s
  else if maxDepth ≤ s.outer.length then none
  else some { s.insert place t with indent := column, outer := s.indent :: s.outer }

/-- Gives up the candidate; one that had to be a key is a fault. -/
def dropCandidate (s : Scan) : Option Scan :=
  match s.candidate with
  | some k => if k.required then none else some { s with candidate := none }
  | none => some s

/-- Remembers the coming word as a candidate. -/
def saveCandidate (s : Scan) (at_ : Spot) : Option Scan :=
  if s.keyAllowed then
    (s.dropCandidate).map fun s =>
      let k : Candidate :=
        ⟨!s.inFlow && s.indent = (at_.column : Int), s.place, at_.line, at_.column, at_.index⟩
      { s with candidate := some k }
  else some s

/-- Whether a candidate can still be a key at a spot: on the same line and not further away than
1024 characters. -/
def Candidate.reaches (k : Candidate) (at_ : Spot) : Bool :=
  at_.line ≤ k.line && at_.index ≤ k.index + 1024

/-- The candidate, if the colon at a spot makes it a key.  A candidate that had to be a key and is
not is a fault. -/
def keyAt (s : Scan) (at_ : Spot) : Option (Option Candidate) :=
  match s.candidate with
  | none => some none
  | some k =>
    if Candidate.reaches k at_ then some (some k)
    else if k.required then none else some none

def openFlow (s : Scan) (at_ : Spot) (t : Token) : Option Scan :=
  if maxDepth ≤ s.levels.length then none
  else
    (s.saveCandidate at_).map fun s =>
      { s.emit t with levels := s.candidate :: s.levels, candidate := none, keyAllowed := true }

def closeFlow (s : Scan) (t : Token) : Option Scan :=
  (s.dropCandidate).map fun s =>
    match s.levels with
    | c :: cs => { s.emit t with levels := cs, candidate := c, keyAllowed := false }
    | [] => { s.emit t with keyAllowed := false }

/-- A mark that ends all blocks. -/
def outermost (s : Scan) (t : Token) : Option Scan :=
  ((s.unroll (-1)).dropCandidate).map fun s => { s.emit t with keyAllowed := false, onLine := false }

def blockEntry (s : Scan) (at_ : Spot) : Option Scan := do
  if !s.inFlow && !s.keyAllowed then none
  let s ← (← s.roll at_.column s.place .blockSequence).dropCandidate
  some { s.emit .blockEntry with keyAllowed := true, onLine := false }

def explicitKey (s : Scan) (at_ : Spot) : Option Scan := do
  if !s.inFlow && !s.keyAllowed then none
  let s ← (← s.roll at_.column s.place .blockMapping).dropCandidate
  some { s.emit .key with keyAllowed := !s.inFlow }

def valueMark (s : Scan) (at_ : Spot) : Option Scan := do
  match ← s.keyAt at_ with
  | some k =>
    let s ← (s.insert k.place .key).roll k.column k.place .blockMapping
    some { s.emit .value with candidate := none, keyAllowed := false }
  | none =>
    if !s.inFlow && !s.keyAllowed then none
    let s ← { s with candidate := none }.roll at_.column s.place .blockMapping
    some { s.emit .value with keyAllowed := !s.inFlow }

/-- A word that may be a key, read by a function. -/
def scalar (s : Scan) (at_ : Spot) (plain : Bool) (r : Option (List Char × Bool × List Spot)) :
    Option (Scan × List Spot) := do
  let s ← s.saveCandidate at_
  let (cs, broken, l) ← r
  let s := s.emit (.scalar (String.ofList cs) plain)
  some ({ s with keyAllowed := broken, onLine := !broken }, l)

/-- How far ahead a comment is looked for. -/
def commentSight : Nat := 512

/-- Where gaps between tokens are skipped. -/
inductive Gap
  | fresh
  | comment
  /-- After a comment whose line ended at an index. -/
  | after (index : Nat)

/-- Skips blanks, comments and line ends.  A line end allows a key again.  Tabs count as blanks
only where no key may start, or before a comment that continues an earlier one. -/
def skipGaps (flow : Bool) : Gap → Bool → List Spot → Bool × List Spot
  | _, allowed, [] => (allowed, [])
  | gap, allowed, s :: r =>
    let c := s.char
    if c = endMark then (allowed, s :: r)
    else if isBreak c then
      match gap with
      | .fresh => skipGaps flow .fresh (allowed || !flow) r
      | .comment => skipGaps flow (.after s.index) (allowed || !flow) r
      | .after i => skipGaps flow (.after i) (allowed || !flow) r
    else
      match gap with
      | .comment => skipGaps flow .comment allowed r
      | _ =>
        if c = '#' then skipGaps flow .comment allowed r
        else if c = ' ' || (c = '\uFEFF' && s.column = 0) then skipGaps flow gap allowed r
        else if c = '\t' then
          let continues := match gap, r.dropWhile fun t => isBlank t.char || isBreak t.char with
            | .after i, t :: _ => t.char = '#' && t.index < i + commentSight
            | _, _ => false
          if flow || !allowed || continues then skipGaps flow gap allowed r else (allowed, s :: r)
        else (allowed, s :: r)

/-- Drops a comment that stands on the line of the last token. -/
def dropLineComment (l : List Spot) : List Spot :=
  if (l.takeWhile (isBlank ·.char)).length < commentSight
      && Spot.next (l.dropWhile (isBlank ·.char)) = '#' then
    l.dropWhile fun t => !(isBreak t.char || t.char = endMark)
  else l

/-- Characters that start no plain word by themselves. -/
def isIndicator (c : Char) : Bool :=
  "-?:,[]\x7b\x7d#&*!|>'\"%@".toList.contains c || c.toNat = 0x60

/-- Reads one token that starts at the first spot.  `none` when the text is malformed there. -/
def token (s : Scan) (at_ : Spot) (r : List Spot) : Option (Scan × List Spot) :=
  let c := at_.char
  let l := at_ :: r
  let flow := s.inFlow
  let named (make : String → Token) : Option (Scan × List Spot) := do
    let s ← s.saveCandidate at_
    let (name, r) ← anchorName r
    some ({ s.emit (make name) with keyAllowed := false }, r)
  if at_.column = 0 && c = '%' then do
    let s ← (s.unroll (-1)).dropCandidate
    let (t, r) ← directive r
    some ({ s.emit t with keyAllowed := false, onLine := false }, r)
  else if Spot.isDocumentMark '-' l then (s.outermost .documentStart).map (·, l.drop 3)
  else if Spot.isDocumentMark '.' l then (s.outermost .documentEnd).map (·, l.drop 3)
  else if c = '[' then (s.openFlow at_ .flowSequence).map (·, r)
  else if c = '{' then (s.openFlow at_ .flowMapping).map (·, r)
  else if c = ']' then (s.closeFlow .flowSequenceEnd).map (·, r)
  else if c = '}' then (s.closeFlow .flowMappingEnd).map (·, r)
  else if c = ',' then
    (s.dropCandidate).map fun s => ({ s.emit .flowEntry with keyAllowed := true }, r)
  else if c = '-' && isGap (Spot.next r) then (s.blockEntry at_).map (·, r)
  else if c = '?' && (flow || isGap (Spot.next r)) then (s.explicitKey at_).map (·, r)
  else if c = ':' && (flow || isGap (Spot.next r)) then (s.valueMark at_).map (·, r)
  else if c = '*' then named .alias
  else if c = '&' then named .anchor
  else if c = '!' then do
    let s ← s.saveCandidate at_
    let (t, r) ← tagWord r
    some ({ s.emit t with keyAllowed := false }, r)
  else if (c = '|' || c = '>') && !flow then do
    let s ← s.dropCandidate
    let (cs, r) ← blockWord (c = '|') s.indent r
    some ({ s.emit (.scalar (String.ofList cs) false) with keyAllowed := true, onLine := false }, r)
  else if c = '\'' then
    s.scalar at_ false ((singleQuoted [] {} r).map fun (cs, l) => (cs, false, l))
  else if c = '"' then
    s.scalar at_ false ((doubleQuoted .none [] {} r).map fun (cs, l) => (cs, false, l))
  else if !(isGap c || isIndicator c) || (c = '-' && !isBlank (Spot.next r))
      || (!flow && (c = '?' || c = ':') && !isGap (Spot.next r)) then
    s.scalar at_ true (plainWord flow (s.indent + 1) [] {} l)
  else none

/-- Reads at least one token.  At the end of the text there is always one more token that says
so. -/
def fetch? (s : Scan) : Option Scan :=
  let l := if s.onLine then dropLineComment s.rest else s.rest
  let (keyAllowed, l) := skipGaps s.inFlow .fresh s.keyAllowed l
  match l with
  | [] => none
  | at_ :: r =>
    if Spot.isDark l then none
    else
      let s := { s with keyAllowed, rest := l }.unroll at_.column
      if at_.char = endMark then s.outermost .streamEnd
      else
        (token { s with onLine := true } at_ r).map fun (s, rest) => { s with rest }

/-- How many tokens after the first one are read before it is handed out. -/
def lookahead : Nat := 2

/-- Whether the first token of the queue may still turn out to be a key. -/
def isUndecided (s : Scan) : Bool :=
  match s.rest with
  | [] => false
  | at_ :: _ =>
    (s.candidate :: s.levels).any fun
      | some k => k.place = s.taken && Candidate.reaches k at_
      | none => false

/-- Reads until the first token can be handed out.  `fuel` bounds the number of tokens. -/
def ready? : Nat → Scan → Option Scan
  | 0, _ => none
  | fuel + 1, s =>
    if lookahead < s.queue.length && !s.isUndecided then some s
    else
      match s.fetch? with
      | some s => ready? fuel s
      | none => none

def ofBytes (b : Bytes) : Scan := { rest := Spot.ofBytes b }

end Scan

end GuestHost.Yaml
