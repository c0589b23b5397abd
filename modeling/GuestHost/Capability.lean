/-! # What a guest may ask of the host

The names and numbers that guests and the host agree on.

* **Capabilities** group the functions the host offers: logging, sound and files.
* **Host functions** (`HostFunction`) are offered under one module name and belong to one
  capability each.
* **Log levels** and **file tags** cross the boundary as numbers. -/

namespace GuestHost

/-- A group of host functions that a guest declares or does without. -/
inductive Capability
  | logging
  | sound
  | files
deriving DecidableEq, Repr, Inhabited

namespace Capability

/-- Every capability, in the order in which they are offered. -/
def all : List Capability := [logging, sound, files]

def name : Capability → String
  | logging => "logging"
  | sound => "sound"
  | files => "files"

def ofName? (s : String) : Option Capability := all.find? (·.name = s)

theorem ofName?_name (c : Capability) : ofName? c.name = some c := by
  cases c <;> decide

/-- The capabilities of names, or the first name that is none. -/
def ofNames : List String → Except String (List Capability)
  | [] => .ok []
  | n :: r =>
    match ofName? n with
    | none => .error n
    | some c => (ofNames r).map (c :: ·)

theorem ofNames_map_name (cs : List Capability) : ofNames (cs.map name) = .ok cs := by
  induction cs with
  | nil => rfl
  | cons c r ih => simp [ofNames, ofName?_name, ih, Except.map]

end Capability

/-- A function that the host offers to guests. -/
inductive HostFunction
  | log
  | logError
  | logWarn
  | logInfo
  | logDebug
  | logTrace
  | soundPlay
  | soundDropAll
  | requestFile
  | fileLength
  | fileType
  | importFile
  | giveFile
deriving DecidableEq, Repr, Inhabited

namespace HostFunction

/-- The module name under which host functions are imported. -/
def moduleName : String := "env"

def all : List HostFunction :=
  [log, logError, logWarn, logInfo, logDebug, logTrace, soundPlay, soundDropAll, requestFile,
    fileLength, fileType, importFile, giveFile]

def name : HostFunction → String
  | log => "wasm_log"
  | logError => "wasm_log_error"
  | logWarn => "wasm_log_warn"
  | logInfo => "wasm_log_info"
  | logDebug => "wasm_log_debug"
  | logTrace => "wasm_log_trace"
  | soundPlay => "wasm_sound_play"
  | soundDropAll => "wasm_sound_drop_all"
  | requestFile => "wasm_request_file_import"
  | fileLength => "wasm_file_import_len"
  | fileType => "wasm_file_import_type"
  | importFile => "wasm_import_file"
  | giveFile => "wasm_give_user_file"

def ofName? (s : String) : Option HostFunction := all.find? (·.name = s)

theorem ofName?_name (f : HostFunction) : ofName? f.name = some f := by
  cases f <;> decide

/-- The capability that provides a function. -/
def capability : HostFunction → Capability
  | log | logError | logWarn | logInfo | logDebug | logTrace => .logging
  | soundPlay | soundDropAll => .sound
  | requestFile | fileLength | fileType | importFile | giveFile => .files

/-- The capability that provides the function of a name. -/
def capabilityOf? (s : String) : Option Capability := (ofName? s).map capability

/-- Tones are the only functions that take real numbers. -/
def takesReals : HostFunction → Bool
  | soundPlay => true
  | _ => false

def arity : HostFunction → Nat
  | log => 3
  | logError | logWarn | logInfo | logDebug | logTrace | soundPlay => 2
  | soundDropAll | requestFile | fileLength | fileType => 0
  | importFile => 1
  | giveFile => 4

def answers : HostFunction → Bool
  | fileLength | fileType => true
  | _ => false

end HostFunction

/-- The severity of a guest's message: one of the agreed ones, or any other number. -/
inductive GuestLevel
  | error
  | warn
  | info
  | debug
  | trace
  | other (code : UInt32)
deriving DecidableEq, Repr

namespace GuestLevel

/-- The level of a number. -/
def ofCode (n : UInt32) : GuestLevel :=
  if n = 1 then error else if n = 2 then warn else if n = 3 then info
  else if n = 4 then debug else if n = 5 then trace else other n

def name : GuestLevel → String
  | error => "error"
  | warn => "warn"
  | info => "info"
  | debug => "debug"
  | trace => "trace"
  | other _ => "unknown"

end GuestLevel

/-- The tag of an imported file, told from its name. -/
inductive FileTag
  | unknown
  | primary
  | secondary
deriving DecidableEq, Repr, Inhabited

/-- The number by which a guest sees a tag. -/
def FileTag.code : FileTag → Nat
  | unknown => 0
  | primary => 1
  | secondary => 2

/-- The content type of exported artifacts. -/
def artifactMediaType : String := "text/csv;charset=utf-8"

end GuestHost
