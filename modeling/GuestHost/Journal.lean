import GuestHost.Fault

/-! # Log records

What the host tells about its work.  Records are values: an operation that logs returns the
records it wrote, oldest first. -/

namespace GuestHost

/-- How serious a record is. -/
inductive Severity
  | debug
  | info
  | warn
  | error
deriving DecidableEq, Repr, Inhabited

def Severity.name : Severity → String
  | debug => "debug"
  | info => "info"
  | warn => "warn"
  | error => "error"

/-- A value attached to a record. -/
inductive Detail
  | text (s : String)
  | whole (n : Int)
  | flag (b : Bool)
  | texts (l : List String)
  | fault (f : Fault)
deriving Inhabited

/-- One log record. -/
structure Record where
  severity : Severity
  /-- The part of the host that speaks; guests speak under the component they run in, if any. -/
  component : Option String
  message : String
  details : List (String × Detail) := []
  /-- The name of the speaker; empty for the host itself. -/
  speaker : String := ""
deriving Inhabited

/-- Records in the order in which they were written. -/
abbrev Journal := List Record

namespace Record

def debug (component message : String) (details : List (String × Detail) := []) : Record :=
  { severity := .debug, component := some component, message, details }

def info (component message : String) (details : List (String × Detail) := []) : Record :=
  { severity := .info, component := some component, message, details }

def warn (component message : String) (details : List (String × Detail) := []) : Record :=
  { severity := .warn, component := some component, message, details }

def error (component message : String) (details : List (String × Detail) := []) : Record :=
  { severity := .error, component := some component, message, details }

end Record
end GuestHost
