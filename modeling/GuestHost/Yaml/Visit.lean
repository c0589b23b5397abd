import GuestHost.Yaml.Scalar

/-! # Going through a document

A document is turned into something else by visiting its nodes.  Aliases lead to nodes outside the
tree below them, so a short text can stand for a very large tree.

* **Counting** (`Tally`).  Visits are counted, and a document in which too large a share of them
  is reached through aliases is refused.
* **Trails.**  The numbers of the anchored nodes on the way are kept along; an alias of a node on
  its own trail is refused.
* **Mappings** (`fill`) are taken in entry by entry.  A key stands once.  The mark `<<` brings in
  the entries of other mappings, as far as the mapping has no such keys itself; of several
  mappings brought in, earlier ones win. -/

namespace GuestHost.Yaml

/-- How many nodes have been visited, and how many of them through an alias. -/
structure Tally where
  visits : Nat := 0
  aliased : Nat := 0
deriving DecidableEq, Repr, Inhabited

namespace Tally

/-- Up to here all but a hundredth of the visits may go through aliases. -/
def narrow : Nat := 400000

/-- From here on only a tenth may. -/
def wide : Nat := 4000000

/-- Whether too many visits went through aliases.  Between the two bounds the share that is
allowed falls evenly. -/
def isExcessive (t : Tally) : Bool :=
  100 < t.aliased && 1000 < t.visits
    && (if t.visits ≤ narrow then 99 * t.visits < 100 * t.aliased
        else if wide ≤ t.visits then t.visits < 10 * t.aliased
        else
          (99 * (wide - narrow) - 89 * (t.visits - narrow)) * t.visits
            < 100 * (wide - narrow) * t.aliased)

def step? (t : Tally) (throughAlias : Bool) : Option Tally :=
  let t := ⟨t.visits + 1, if throughAlias then t.aliased + 1 else t.aliased⟩
  if t.isExcessive then none else some t

end Tally

/-- What is made of a document while its nodes are counted. -/
abbrev Visit := StateT Tally Option

/-- Anchored nodes on the way to a node. -/
abbrev Trail := List Nat

namespace Visit

def node (trail : Trail) : Visit Unit := fun t => (t.step? (!trail.isEmpty)).map ((), ·)

/-- What is there, if it is there. -/
def ofOption {α : Type} (a : Option α) : Visit α := fun t => a.map (·, t)

/-- Visits a node and the nodes that aliases lead to: the first node that is no alias, with the
trail to it. -/
def arrive : Nat → Document → Trail → Node → Visit (Trail × Node)
  | 0, _, _, _ => failure
  | fuel + 1, doc, trail, n => do
    node trail
    match n with
    | .alias _ number =>
      if trail.contains number then failure
      else arrive fuel doc (number :: trail) (doc.target number)
    | n => pure (trail, n)

/-- More than the number of aliases that follow each other. -/
def aliasLimit : Nat := 4

/-- How the entries of a mapping are taken in. -/
structure Form (σ : Type) where
  /-- Whether any word may be a key.  Otherwise keys are taken as they are written, and an entry
  whose key is nothing is passed over. -/
  anyKey : Bool
  /-- Keys that stand once in a mapping even if they are written in different ways. -/
  once : String → Bool
  /-- Takes in an entry. -/
  put : Trail → σ → Scalar → Node → Visit σ

/-- The key of an entry; `none` when the entry is passed over. -/
def key (doc : Document) (anyKey : Bool) (trail : Trail) (n : Node) : Visit (Option Scalar) := do
  let (_, n) ← arrive aliasLimit doc trail n
  if anyKey then some <$> ofOption n.meaning?
  else (·.map Scalar.text) <$> ofOption n.written?

def keys (doc : Document) (trail : Trail) : List (Node × Node) → Visit (List Scalar)
  | [] => pure []
  | (k, _) :: r => do
    let first ← key doc true trail k
    let rest ← keys doc trail r
    pure (first.toList ++ rest)

/-- Takes in the entries of a mapping one after the other.  `taken` are the keys that were there
before, if entries are brought in, and `done` those of this mapping that stand once. -/
def fillEntries {σ : Type} (doc : Document) (form : Form σ) (trail : Trail) :
    Option (List Scalar) → List String → σ → List (Node × Node) →
      Visit (Option (List Scalar) × σ)
  | taken, _, s, [] => pure (taken, s)
  | taken, done, s, (k, v) :: r =>
    if k.isMerge then fillEntries doc form trail taken done s r
    else do
      match ← key doc form.anyKey trail k with
      | none => fillEntries doc form trail taken done s r
      | some word =>
        if (taken.getD []).any (word.isSame ·) then fillEntries doc form trail taken done s r
        else if done.contains word.keyText then failure
        else
          let done := if form.once word.keyText then word.keyText :: done else done
          let s ← form.put trail s word v
          fillEntries doc form trail (taken.map (word :: ·)) done s r

mutual

/-- Takes in a mapping, and then the mappings that it brings in.  `fuel` bounds how deep they lie
in each other. -/
def fill {σ : Type} (doc : Document) (form : Form σ) :
    Nat → Trail → Option (List Scalar) → σ → List (Node × Node) → Visit (Option (List Scalar) × σ)
  | 0, _, _, _, _ => failure
  | fuel + 1, trail, taken, s, es => do
    if Node.hasTwins es then failure
    let (taken, s) ← fillEntries doc form trail taken [] s es
    match es.findRev? (·.1.isMerge) with
    | none => pure (taken, s)
    | some (_, source) =>
      let own ← match taken with
        | some ks => pure ks
        | none => keys doc trail es
      let items := match source with
        | .sequence items => items
        | n => [n]
      let (all, s) ← bringIn doc form fuel trail own s items
      pure (taken.map fun _ => all, s)

/-- Takes in several mappings after the keys that are there. -/
def bringIn {σ : Type} (doc : Document) (form : Form σ) :
    Nat → Trail → List Scalar → σ → List Node → Visit (List Scalar × σ)
  | _, _, own, s, [] => pure (own, s)
  | 0, _, _, _, _ :: _ => failure
  | fuel + 1, trail, own, s, n :: r => do
    let (inner, n) ← arrive aliasLimit doc trail n
    match n with
    | .mapping es =>
      let (taken, s) ← fill doc form fuel inner (some own) s es
      bringIn doc form fuel trail (taken.getD own) s r
    | _ => failure

end

end Visit
end GuestHost.Yaml
