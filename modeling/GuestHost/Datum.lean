import GuestHost.Yaml.Visit

/-! # Values of settings files

A settings file says the same things in YAML, JSON or TOML.  `Datum` is what all three have in
common: nothing, truth values, numbers, text, moments in time, lists and tables.

`Datum.ofDocument` gives the table of a YAML document. -/

namespace GuestHost

/-- A value from a settings file. -/
inductive Datum
  | null
  | truth (b : Bool)
  | whole (n : Int)
  | real (x : Float)
  | text (s : String)
  | moment
  | list (items : List Datum)
  | table (entries : List (String × Datum))
deriving Inhabited

namespace Datum

def get? (entries : List (String × Datum)) (key : String) : Option Datum := entries.lookup key

/-- A table with an entry put in; one that is there already keeps its place. -/
def put (entries : List (String × Datum)) (key : String) (d : Datum) : List (String × Datum) :=
  if entries.any (·.1 = key) then entries.map fun (k, e) => if k = key then (k, d) else (k, e)
  else entries ++ [(key, d)]

/-- The entries of a table, none for anything else. -/
def entries : Datum → List (String × Datum)
  | table es => es
  | _ => []

/-- The value of a word. -/
def ofScalar : Yaml.Scalar → Datum
  | .null => null
  | .truth b => truth b
  | .whole n => whole n
  | .real x => real x
  | .moment => moment
  | .text s => text s

/-- A table that takes in values read by a function.  Where all its keys are text they are taken as
they are written. -/
def tableForm (anyKey : Bool) (value : Yaml.Trail → Yaml.Node → Yaml.Visit Datum) :
    Yaml.Visit.Form (List (String × Datum)) where
  anyKey
  once _ := false
  put trail es key n := do
    let d ← value trail n
    pure (put es key.keyText d)

/-- The value of a node; it fails when a key stands twice or a word does not fit its tag.  `fuel`
bounds how deep the node is. -/
def ofNode (doc : Yaml.Document) : Nat → Yaml.Trail → Yaml.Node → Yaml.Visit Datum
  | 0, _, _ => failure
  | fuel + 1, trail, n => do
    let (trail, n) ← Yaml.Visit.arrive Yaml.Visit.aliasLimit doc trail n
    match n with
    | .sequence items => list <$> items.mapM (ofNode doc fuel trail)
    | .mapping es =>
      let resolved (n : Yaml.Node) : Yaml.Node := match n with
        | .alias _ number => doc.target number
        | n => n
      let anyKey := !es.all fun e => (resolved e.1).isText
      let (_, es) ← Yaml.Visit.fill doc (tableForm anyKey (ofNode doc fuel)) doc.reach trail none [] es
      pure (table es)
    | n => ofScalar <$> Yaml.Visit.ofOption n.meaning?

/-- The table of a document; nothing stands for an empty one. -/
def ofDocument (doc : Yaml.Document) : Yaml.Visit (List (String × Datum)) := do
  Yaml.Visit.node []
  Yaml.Visit.node []
  match doc.root with
  | .mapping es =>
    let (_, es) ← Yaml.Visit.fill doc (tableForm false (ofNode doc doc.reach)) doc.reach [] none [] es
    pure es
  | n =>
    match n.meaning? with
    | some .null => pure []
    | _ => failure

/-- The table that a YAML text holds; an empty text holds an empty one. -/
def ofYaml? (b : Bytes) : Option (List (String × Datum)) :=
  match Yaml.Document.ofBytes? b with
  | none => none
  | some none => some []
  | some (some doc) => ((ofDocument doc).run {}).map (·.1)

end Datum
end GuestHost
