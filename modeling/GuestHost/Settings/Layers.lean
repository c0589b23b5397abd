import GuestHost.Datum
import GuestHost.Settings
import GuestHost.Text.Fields

/-! # Where settings come from

A setting is looked up in four layers: what the command line says, what the environment says,
what the settings file says, and what holds when nothing is said.  The first layer that says
something wins.

* **Keys** are names with dots between them, in lower case.
* **Hiding.**  A layer that gives a plain value where others have a section hides the whole
  section in the layers below.
* `Layers.gather` puts the winning values together into one table. -/

namespace GuestHost

/-- The layers in which settings are looked up. -/
structure Layers where
  /-- Keys that the command line can set, with the value if it does. -/
  commandLine : List (String × Option Datum) := []
  environment : List (String × String) := []
  file : List (String × Datum) := []
  standard : List (String × Datum) := []

namespace Layers

abbrev Table := List (String × Datum)

def namesOf (key : String) : List String := Fields.ofString '.' key

def keyOf (names : List String) : String := String.intercalate "." names

mutual

/-- A value with all keys of its tables in lower case. -/
def lowerKeys : Datum → Datum
  | .table es => .table (lowerEntries es)
  | d => d

/-- Entries with their keys in lower case; of keys that become equal the last one counts. -/
def lowerEntries : List (String × Datum) → List (String × Datum)
  | [] => []
  | (k, d) :: r =>
    let rest := lowerEntries r
    if rest.any (·.1 = Case.lowerText k) then rest else (Case.lowerText k, lowerKeys d) :: rest

end

mutual

/-- The keys of a value below a key, as far as they are not hidden by earlier ones. -/
def keysBelow (seen : List String) (key : String) : Datum → List String
  | .table es => if seen.contains key then seen else keysOf seen (key ++ ".") es
  | _ => if seen.contains key then seen else seen ++ [key]

/-- The keys of a table, added to those seen in the layers above. -/
def keysOf (seen : List String) (front : String) : List (String × Datum) → List String
  | [] => seen
  | (k, d) :: r => keysOf (keysBelow seen (front ++ k) d) front r

end

def keys (l : Layers) : List String :=
  keysOf (keysOf (l.commandLine.map (·.1)) "" l.file) "" l.standard

/-- Follows names down a table. -/
def descend? : List String → Table → Option Datum
  | [], _ => none
  | [k], t => Datum.get? t k
  | k :: ks, t =>
    match Datum.get? t k with
    | some (.table sub) => descend? ks sub
    | _ => none

/-- What is there, unless it is nothing. -/
def present : Option Datum → Option Datum
  | some .null => none
  | d => d

/-- Follows names down a table in which several names may stand together as one key; longer keys
are tried first.  `fuel` bounds the number of names. -/
def search? : Nat → List String → Table → Option Datum
  | 0, _, _ => none
  | fuel + 1, names, t =>
    ((List.range names.length).reverse.findSome? fun i =>
      match Datum.get? t (keyOf (names.take (i + 1))) with
      | none => none
      | some d =>
        if i + 1 = names.length then present (some d)
        else
          match d with
          | .table sub => search? fuel (names.drop (i + 1)) sub
          | _ => none)

/-- Whether a plain value stands on the way to a key. -/
def isHidden (names : List String) (t : Table) : Bool :=
  (List.range (names.length - 1)).any fun i =>
    match descend? (names.take (i + 1)) t with
    | some (.table _) => false
    | some .null => false
    | some _ => true
    | none => false

/-- The name of the environment variable of a key. -/
def variableOf (key : String) : String :=
  String.ofList (("L3X_" ++ key).toList.map fun c => if c = '.' then '_' else c.toUpper)

/-- What the environment says about a key; an empty value says nothing. -/
def fromEnvironment? (l : Layers) (key : String) : Option String :=
  match l.environment.lookup (variableOf key) with
  | some "" => none
  | v => v

/-- The value of a key in the first layer that has one. -/
def find? (l : Layers) (key : String) : Option Datum :=
  let names := namesOf key
  match l.commandLine.lookup key with
  | some (some d) => some d
  | _ =>
    match l.fromEnvironment? key with
    | some v => some (.text v)
    | none =>
      if (List.range (names.length - 1)).any fun i =>
          (l.fromEnvironment? (keyOf (names.take (i + 1)))).isSome then none
      else
        match search? (names.length + 1) names l.file with
        | some d => some d
        | none =>
          if isHidden names l.file then none else present (descend? names l.standard)

/-- A table with a value at the end of names; what is no table on the way is replaced by one. -/
def placed (d : Datum) : List String → Table → Table
  | [], t => t
  | [k], t => Datum.put t k d
  | k :: ks, t =>
    match Datum.get? t k with
    | some (.table sub) => Datum.put t k (.table (placed d ks sub))
    | _ => Datum.put t k (.table (placed d ks []))

/-- The winning values of all keys as one table. -/
def gather (l : Layers) : Table :=
  (l.keys.mergeSort (· ≤ ·)).foldl
    (fun t key => match l.find? key with
      | some d => placed d (namesOf key) t
      | none => t) []

end Layers
end GuestHost
