import GuestHost.CommandLine.Completion
import GuestHost.CommandLine.Help
import GuestHost.Session
import GuestHost.Settings.Load
import GuestHost.Text.Table

/-! # The command line

What the program does for the arguments it is called with.  `CommandLine.execute` is a function of
the arguments, the environment and the files, so nothing has to happen for it to be looked at; the
outermost layer only carries out what an `Outcome` says.

* `run` loads the settings, sets a session up, runs one guest and takes the session down.
* `list` shows the installed guests as a table.
* `version`, help and completion only print. -/

namespace GuestHost

/-- What the program finds when it is called. -/
structure Surroundings where
  files : FileTree
  environment : List (String × String) := []
  /-- How many frames a run without a limit may take. -/
  patience : Nat
  /-- Whether the user ends the run, told by what the files look like after a frame. -/
  interrupt : FileTree → Bool := fun _ => false
  /-- Generated instance ids. -/
  supply : Nat → String := fun n => "instance-" ++ toString n
  /-- The time at which artifacts are made. -/
  now : Timestamp := 0

/-- What comes of a call of the program. -/
structure Outcome where
  files : FileTree
  /-- What is written to standard output. -/
  output : Bytes := #[]
  /-- What is said to the user beside that. -/
  remark : String := ""
  fault : Option Fault := none
  log : Journal := []

namespace Outcome

/-- The exit code of the program. -/
def exitCode (o : Outcome) : UInt32 := if o.fault.isSome then 1 else 0

/-- Only a text is written. -/
def printed (files : FileTree) (text : String) : Outcome := { files, output := Utf8.encode text }

/-- Nothing was done. -/
def refused (files : FileTree) (why : Fault) (log : Journal := []) : Outcome :=
  { files, fault := some why, log }

end Outcome

namespace CommandLine

/-- The version of the program, and what it was built from and when. -/
def version : String := "dev"

def commit : String := "none"

def date : String := "unknown"

def versionText : String :=
  Command.program ++ " " ++ version ++ " (commit " ++ commit ++ ", built " ++ date ++ ")\n"

/-- The settings for a command. -/
def settings (w : Surroundings) (c : Command) (a : Arguments) : Except Fault Settings :=
  Settings.load w.files (a.text "config") w.environment (a.layer c.flags)

/-- The records that settings let through. -/
def heard (s : Settings) (log : Journal) : Journal :=
  match LogLevel.ofName? s.logLevel with
  | some level => log.filter (level.hears ·.severity)
  | none => log

/-! ### Running a guest -/

/-- A record of the program itself. -/
def record (severity : Severity) (message : String) (details : List (String × Detail) := []) :
    Record :=
  { severity, component := none, message, details }

/-- Runs a guest in a session that was set up, and takes the session down. -/
def runIn (w : Surroundings) (s : Session) (target : String) : Outcome :=
  let (s, fault, log) := s.run w.patience w.interrupt target
  let told : Record := match fault with
    | some f => record .error "Guest run failed" [("error", .fault f)]
    | none => record .info "Shutdown complete"
  let (s, unclosed, closing) := s.close
  let complaint : Journal := match unclosed with
    | some f => [record .error "Failed to shut down host" [("error", .fault f)]]
    | none => []
  { files := s.files, output := s.engine.output.standard, fault
    log := log ++ told :: closing ++ complaint }

def run (w : Surroundings) (a : Arguments) (target : String) : Outcome :=
  match settings w .run a with
  | .error f => .refused w.files f
  | .ok chosen =>
    let greeting := record .info ("Starting " ++ Command.program)
      [("version", .text version), ("commit", .text commit), ("date", .text date),
        ("guest", .text target)]
    match Session.start chosen { supply := w.supply, now := w.now } w.files with
    | (files, .error f, log) =>
      .refused files f (heard chosen
        (greeting :: log ++ [record .error "Failed to create host" [("error", .fault f)]]))
    | (_, .ok s, log) =>
      let o := runIn w s target
      { o with log := heard chosen (greeting :: log ++ o.log) }

/-! ### Listing guests -/

/-- A guest as a line of cells. -/
def row (g : Guest) : String :=
  let m := g.manifest
  String.intercalate "\t"
    [m.name, m.version, String.intercalate "," (m.capabilities.map Capability.name),
      if g.hasFrame then m.frame else "-", m.directory] ++ "\n"

def table (guests : List Guest) : String :=
  Table.render ("NAME\tVERSION\tCAPABILITIES\tFRAME\tDIR\n" ++ String.join (guests.map row))

def list (w : Surroundings) (a : Arguments) : Outcome :=
  match settings w .list a with
  | .error f => .refused w.files f
  | .ok chosen =>
    let config : EngineConfig :=
      { memoryPages := chosen.module.memoryPages, cacheDir := chosen.module.cacheDir
        wasi := chosen.module.wasi, timeout := ⟨0⟩ }
    match Engine.start config w.supply w.files with
    | (files, .error f, log) => .refused files f (heard chosen log)
    | (files, .ok engine, log) =>
      let (_, engine, guests, more) :=
        Catalog.list { directory := chosen.guestsDir } engine files
      let log := heard chosen (log ++ more ++ engine.close.2)
      match guests with
      | .error f => .refused files f log
      | .ok guests => { Outcome.printed files (table guests) with log }

/-! ### Calling the program -/

/-- The mark around topics that there is no help on. -/
def tick : Char := '\x60'

/-- Explains the command that words stand for. -/
def help (w : Surroundings) (words : List String) : Outcome :=
  match Command.find words false with
  | .ok (c, _) => .printed w.files c.helpText
  | .error _ =>
    let topics := words.map fun s =>
      if s.toList.contains tick then Quoted.quote s
      else String.ofList (tick :: s.toList ++ [tick])
    { files := w.files
      remark := "Unknown help topic [" ++ String.intercalate " " topics ++ "]\n"
        ++ Command.root.usage false }

/-- The variable by which a user asks for completions without what they stand for. -/
def descriptionsVariable : String := "L3X_HOST_COMPLETION_DESCRIPTIONS"

/-- Answers a shell that asks how words may go on. -/
def complete (w : Surroundings) (described : Bool) (words : List String) : Outcome :=
  let wanted := (w.environment.lookup descriptionsVariable).bind Numeral.truth?
  .printed w.files ((Command.offer words).written (described && wanted.getD true))

/-- Carries out a command. -/
def perform (w : Surroundings) (c : Command) (a : Arguments) : Outcome :=
  match c, a.others with
  | .run, target :: _ => run w a target
  | .list, _ => list w a
  | .version, _ => .printed w.files versionText
  | .help, words => help w words
  | .complete described, words => complete w described words
  | c, _ => .printed w.files c.helpText

/-- What the program does when it is called.  Whoever asks a command for help gets it, whatever
else is given. -/
def execute (w : Surroundings) (arguments : List String) : Outcome :=
  match Command.find arguments with
  | .error f => .refused w.files f
  | .ok (c, rest) =>
    match c.given rest with
    | .error f => .refused w.files f
    | .ok a =>
      if a.help = some true then .printed w.files c.helpText
      else
        match c.wordsFault? a.others with
        | some f => .refused w.files f
        | none => perform w c a

end CommandLine
end GuestHost
