import GuestHost.Yaml.Token

/-! # YAML documents as trees

`Document.ofBytes?` builds the tree of the first document of a text.  What follows it is read no
further than the queue of tokens reaches, so later documents may be malformed.

* **Tags** are kept in their short form: the standard ones start with two exclamation marks.  A
  word in quotes has the tag of text, unless it is given another one.
* **Anchors.**  An anchor names its node from the node's first token on, so a node may hold an
  alias of itself.  Anchored nodes are numbered and kept beside the tree (`Document.anchored`). -/

namespace GuestHost.Yaml

/-- A part of a document. -/
inductive Node
  /-- A word with its tag, which is empty when the word's look decides what it means. -/
  | scalar (text tag : String)
  | sequence (items : List Node)
  | mapping (entries : List (Node × Node))
  /-- Stands for the anchored node with a number. -/
  | alias (name : String) (target : Nat)
deriving Inhabited, Repr

/-- A tree with the nodes that aliases in it stand for. -/
structure Document where
  root : Node
  anchored : Array Node := #[]
  /-- More than the number of its nodes. -/
  size : Nat
deriving Inhabited, Repr

namespace Node

/-- A word that is not there. -/
def empty : Node := scalar "" ""

def standardStem : String := "tag:yaml.org,2002:"

/-- The short form of a tag; one exclamation mark alone says nothing. -/
def shortTag (tag : String) : String :=
  if tag = "!" then ""
  else if tag.startsWith standardStem then
    "!!" ++ String.ofList (tag.toList.drop standardStem.length)
  else tag

def textTag : String := "!!str"

/-- What the reader of tokens carries along. -/
structure Reading where
  scan : Scan
  /-- More than the number of tokens. -/
  limit : Nat
  /-- The anchors met so far with the numbers of their nodes, the last one first. -/
  anchors : List (String × Nat) := []
  anchored : Array Node := #[]
  handles : List (String × String) := []

/-- The next token; `none` when the text is malformed there or shortly after. -/
def Reading.peek (r : Reading) : Option (Token × Reading) := do
  let scan ← r.scan.ready? r.limit
  some (← scan.queue.head?, { r with scan })

def Reading.skip (r : Reading) : Reading :=
  { r with scan := { r.scan with queue := r.scan.queue.drop 1, taken := r.scan.taken + 1 } }

/-- Gives the node that starts here a number under its anchor; an empty anchor is none. -/
def Reading.enter (r : Reading) (anchor : String) : Reading :=
  if anchor = "" then r
  else
    { r with
      anchors := (anchor, r.anchored.size) :: r.anchors
      anchored := r.anchored.push empty }

/-- Puts a finished node in its place. -/
def Reading.leave (r : Reading) (anchor : String) (number : Nat) (n : Node) : Reading :=
  if anchor = "" then r else { r with anchored := r.anchored.setIfInBounds number n }

/-- The tags that need no declaration. -/
def standardHandles : List (String × String) := [("!", "!"), ("!!", standardStem)]

/-- The full tag of a handle and a suffix. -/
def Reading.tagOf (r : Reading) (handle suffix : String) : Option String :=
  if handle = "" then some suffix
  else ((r.handles ++ standardHandles).lookup handle).map (· ++ suffix)

/-- An anchor and a tag before a node, in either order. -/
def Reading.properties (r : Reading) : Option (String × String × Reading) := do
  let (t, r) ← r.peek
  match t with
  | .anchor a =>
    let (t, r) ← r.skip.peek
    match t with
    | .tag h s => some (a, ← r.tagOf h s, r.skip)
    | _ => some (a, "", r)
  | .tag h s =>
    let tag ← r.tagOf h s
    let (t, r) ← r.skip.peek
    match t with
    | .anchor a => some (a, tag, r.skip)
    | _ => some ("", tag, r)
  | _ => some ("", "", r)

mutual

/-- Reads a node.  `block` allows block collections, and `indentless` allows a sequence that is
not indented further than the key before it.  `fuel` bounds the depth of the tree and the length
of collections together. -/
def read : Nat → (block indentless : Bool) → Reading → Option (Node × Reading)
  | 0, _, _, _ => none
  | fuel + 1, block, indentless, r => do
    let (t, r) ← r.peek
    match t with
    | .alias a =>
      let number ← r.anchors.lookup a
      some (.alias a number, r.skip)
    | _ =>
      let (anchor, tag, r) ← r.properties
      let number := r.anchored.size
      let done (p : Node × Reading) : Node × Reading := (p.1, p.2.leave anchor number p.1)
      let (t, r) ← r.peek
      let inside := (r.enter anchor).skip
      match t with
      | .scalar text plain =>
        let tag := shortTag tag
        some (done (scalar text (if tag = "" && !plain then textTag else tag), inside))
      | .flowSequence => (readFlowItems fuel true [] inside).map done
      | .flowMapping => (readFlowEntries fuel true [] inside).map done
      | t =>
        if indentless && t = .blockEntry then (readIndentless fuel [] (r.enter anchor)).map done
        else if block && t = .blockSequence then (readItems fuel [] inside).map done
        else if block && t = .blockMapping then (readEntries fuel [] inside).map done
        else if anchor ≠ "" || tag ≠ "" then
          some (done (scalar "" (shortTag tag), r.enter anchor))
        else none

def readItems : Nat → List Node → Reading → Option (Node × Reading)
  | 0, _, _ => none
  | fuel + 1, acc, r => do
    let (t, r) ← r.peek
    match t with
    | .blockEntry =>
      let (t, r) ← r.skip.peek
      match t with
      | .blockEntry | .blockEnd => readItems fuel (empty :: acc) r
      | _ =>
        let (n, r) ← read fuel true false r
        readItems fuel (n :: acc) r
    | .blockEnd => some (sequence acc.reverse, r.skip)
    | _ => none

/-- The items of a sequence that is not indented. -/
def readIndentless : Nat → List Node → Reading → Option (Node × Reading)
  | 0, _, _ => none
  | fuel + 1, acc, r => do
    let (t, r) ← r.peek
    match t with
    | .blockEntry =>
      let (t, r) ← r.skip.peek
      match t with
      | .blockEntry | .key | .value | .blockEnd => readIndentless fuel (empty :: acc) r
      | _ =>
        let (n, r) ← read fuel true false r
        readIndentless fuel (n :: acc) r
    | _ => some (sequence acc.reverse, r)

def readEntries : Nat → List (Node × Node) → Reading → Option (Node × Reading)
  | 0, _, _ => none
  | fuel + 1, acc, r => do
    let (t, r) ← r.peek
    match t with
    | .key =>
      let (k, r) ← readOr fuel [.key, .value, .blockEnd] true true r.skip
      let (v, r) ← readValue fuel [.key, .value, .blockEnd] true true r
      readEntries fuel ((k, v) :: acc) r
    | .blockEnd => some (mapping acc.reverse, r.skip)
    | _ => none

/-- A node, or an empty one before one of some tokens. -/
def readOr : Nat → List Token → (block indentless : Bool) → Reading → Option (Node × Reading)
  | 0, _, _, _, _ => none
  | fuel + 1, stops, block, indentless, r => do
    let (t, r) ← r.peek
    if stops.contains t then some (empty, r) else read fuel block indentless r

/-- The value after a colon, or an empty one without a colon. -/
def readValue : Nat → List Token → (block indentless : Bool) → Reading → Option (Node × Reading)
  | 0, _, _, _, _ => none
  | fuel + 1, stops, block, indentless, r => do
    let (t, r) ← r.peek
    if t = .value then readOr fuel stops block indentless r.skip else some (empty, r)

/-- The items between square brackets; a key mark makes an item a mapping of one entry. -/
def readFlowItems : Nat → Bool → List Node → Reading → Option (Node × Reading)
  | 0, _, _, _ => none
  | fuel + 1, first, acc, r => do
    let (t, r) ← r.peek
    if t = .flowSequenceEnd then some (sequence acc.reverse, r.skip)
    else
      let r ← if first then some r else if t = .flowEntry then some r.skip else none
      let (t, r) ← r.peek
      match t with
      | .key =>
        let (t, r) ← r.skip.peek
        let stops := [Token.value, .flowEntry, .flowSequenceEnd]
        let (k, r) ← if stops.contains t then some (empty, r.skip) else read fuel false false r
        let (v, r) ← readValue fuel [.flowEntry, .flowSequenceEnd] false false r
        readFlowItems fuel false (mapping [(k, v)] :: acc) r
      | .flowSequenceEnd => some (sequence acc.reverse, r.skip)
      | _ =>
        let (n, r) ← read fuel false false r
        readFlowItems fuel false (n :: acc) r

/-- The entries between braces; a word alone is a key without value. -/
def readFlowEntries : Nat → Bool → List (Node × Node) → Reading → Option (Node × Reading)
  | 0, _, _, _ => none
  | fuel + 1, first, acc, r => do
    let (t, r) ← r.peek
    if t = .flowMappingEnd then some (mapping acc.reverse, r.skip)
    else
      let r ← if first then some r else if t = .flowEntry then some r.skip else none
      let (t, r) ← r.peek
      match t with
      | .key =>
        let (k, r) ← readOr fuel [.value, .flowEntry, .flowMappingEnd] false false r.skip
        let (v, r) ← readValue fuel [.flowEntry, .flowMappingEnd] false false r
        readFlowEntries fuel false ((k, v) :: acc) r
      | .flowMappingEnd => some (mapping acc.reverse, r.skip)
      | _ =>
        let (n, r) ← read fuel false false r
        readFlowEntries fuel false ((n, empty) :: acc) r

end

/-- The directives before a document.  Its version is said at most once and is 1.1, and every
handle is declared at most once. -/
def directives : Nat → (versioned : Bool) → Reading → Option Reading
  | 0, _, _ => none
  | fuel + 1, versioned, r => do
    let (t, r) ← r.peek
    match t with
    | .versionDirective major minor =>
      if versioned || major ≠ 1 || minor ≠ 1 then none else directives fuel true r.skip
    | .tagDirective h s =>
      if r.handles.any (·.1 = h) then none
      else directives fuel versioned { r.skip with handles := r.handles ++ [(h, s)] }
    | _ => some r

/-- Whether two keys are the same: words with one text, aliases of one name, or collections of one
kind. -/
def sameKey : Node → Node → Bool
  | scalar a _, scalar b _ => a = b
  | .alias a _, .alias b _ => a = b
  | sequence _, sequence _ => true
  | mapping _, mapping _ => true
  | _, _ => false

/-- Whether some key stands twice. -/
def hasTwins : List (Node × Node) → Bool
  | [] => false
  | (k, _) :: r => r.any (sameKey k ·.1) || hasTwins r

/-- Whether a node is the mark that brings in other mappings. -/
def isMerge : Node → Bool
  | scalar "<<" tag => tag = "" || tag = "!!merge"
  | _ => false

end Node

namespace Document

/-- The first document.  `some none` when there is none. -/
def ofReading? (fuel : Nat) (r : Node.Reading) : Option (Option Document) := do
  let finish (p : Node × Node.Reading) : Option (Option Document) := do
    let (_, r) ← p.2.peek
    some (some ⟨p.1, r.anchored, fuel⟩)
  let (t, r) ← r.peek
  match t with
  | .streamEnd => some none
  | .versionDirective .. | .tagDirective .. | .documentStart =>
    let (t, r) ← (← Node.directives fuel false r).peek
    if t ≠ .documentStart then none
    let (t, r) ← r.skip.peek
    match t with
    | .versionDirective .. | .tagDirective .. | .documentStart | .documentEnd | .streamEnd =>
      some (some ⟨Node.empty, #[], fuel⟩)
    | _ => finish (← Node.read fuel true false r)
  | _ => finish (← Node.read fuel true false r)

/-- The first document of a text given as bytes. -/
def ofBytes? (b : Bytes) : Option (Option Document) :=
  let limit := 4 * b.size + 16
  ofReading? (4 * limit) { scan := Scan.ofBytes b, limit }

def target (d : Document) (number : Nat) : Node := d.anchored.getD number Node.empty

/-- More than the number of nodes on any way through a document on which no alias is followed
twice. -/
def reach (d : Document) : Nat := (d.anchored.size + 1) * d.size

end Document
end GuestHost.Yaml
