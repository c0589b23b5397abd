import GuestHost.CommandLine

/-! # The program

The outermost layer: it takes in the files, the environment and the arguments, lets
`CommandLine.execute` decide, and carries out what comes of it. -/

namespace GuestHost.Program

/-- Takes in what is at an absolute path and below it.  Links are left out. -/
partial def takeIn (tree : FileTree) (path : String) : IO FileTree := do
  let place ← IO.FS.realPath path
  if place.toString ≠ path then return tree
  if ← place.isDir then
    let mut tree := tree.provide path .directory
    for entry in ← place.readDir do
      tree ← takeIn tree entry.path.toString
    return tree
  else
    let content ← IO.FS.readBinFile path
    return tree.provide path (.file (.bytes content.data))

/-- Absolute paths among the arguments, also those given to flags after an equals sign. -/
def rootedPaths (arguments : List String) : List String :=
  (arguments.flatMap (Fields.ofString '=')).filter Path.isRooted

/-- The files that the program can see: those of the working directory and those that the
arguments name. -/
def files (arguments : List String) : IO FileTree := do
  let here := (← IO.currentDir).toString
  let mut tree ← takeIn { home := (Path.names here).filter (· ≠ "") } here
  for path in rootedPaths arguments do
    try tree ← takeIn tree (Path.clean path) catch _ => pure ()
  return tree

/-- The environment variables of settings and of groups of settings. -/
def environment : IO (List (String × String)) := do
  let keys := ({ standard := Settings.standard.toTable } : Layers).keys
  let groups := Settings.standard.toTable.map (·.1)
  (keys ++ groups).filterMapM fun key => do
    let name := Layers.variableOf key
    return (← IO.getEnv name).map (name, ·)

/-- Makes the files on disk what they are in a tree, given what they were. -/
def bringOut (before after : FileTree) : IO Unit := do
  for (place, entry) in after.entries do
    let path := "/" ++ String.intercalate "/" place
    match before.find? place, entry with
    | some .directory, .directory => pure ()
    | _, .directory => IO.FS.createDirAll path
    | some (.file old), .file new =>
      if old.data ≠ new.data then IO.FS.writeBinFile path ⟨new.data⟩
    | _, .file new => IO.FS.writeBinFile path ⟨new.data⟩
    | _, .fullDevice => pure ()

def detail : Detail → String
  | .text s => Quoted.quote s
  | .whole n => toString n
  | .flag b => toString b
  | .texts l => "[" ++ String.intercalate ", " (l.map Quoted.quote) ++ "]"
  | .fault f => Quoted.quote f.message

def line (r : Record) : String :=
  String.intercalate "\t" ([r.severity.name] ++ r.component.toList ++ [r.message]
    ++ r.details.map fun (k, d) => k ++ "=" ++ detail d)

/-- The number of frames after which a run without a limit ends by itself. -/
def patience : Nat := 1000000

/-- Calls the program and tells its exit code. -/
def call (arguments : List String) : IO UInt32 := do
  let before ← files arguments
  let outcome := CommandLine.execute
    { files := before, environment := ← environment, patience } arguments
  bringOut before outcome.files
  for record in outcome.log do
    IO.eprintln (line record)
  (← IO.getStdout).write ⟨outcome.output⟩
  IO.eprint outcome.remark
  if let some fault := outcome.fault then
    IO.eprintln ("Error: " ++ fault.message)
  return outcome.exitCode

end GuestHost.Program

def main (arguments : List String) : IO UInt32 := GuestHost.Program.call arguments
