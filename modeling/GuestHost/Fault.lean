import GuestHost.Decimal.Shortest
import GuestHost.Duration
import GuestHost.Text.Quoted

/-! # What can go wrong

Every failure is a value that names its cause.  Failures wrap the failure that led to them, so
that a refused guest call still tells which span of memory was out of range.

* `Fault` lists the causes.
* `Fault.message` is the text shown for each of them.
* `Fault.unwrap` gives what a failure wraps. -/

namespace GuestHost

/-- What the system refuses a file operation for. -/
inductive Errno
  | noEntry
  | notDirectory
  | isDirectory
  | exists
  | nameTooLong
  | invalid
  | noSpace
  | notEmpty
  | closed
  /-- A path below a directory that was not named. -/
  | noRoot
deriving DecidableEq, Repr

def Errno.text : Errno → String
  | noEntry => "no such file or directory"
  | notDirectory => "not a directory"
  | isDirectory => "is a directory"
  | .exists => "file exists"
  | nameTooLong => "file name too long"
  | invalid => "invalid argument"
  | noSpace => "no space left on device"
  | notEmpty => "directory not empty"
  | closed => "file already closed"
  | noRoot => "os: DirFS with empty root"

/-- How far an import handshake has come. -/
inductive Handshake
  | idle
  | requested
  | ready
deriving DecidableEq, Repr

def Handshake.name : Handshake → String
  | idle => "idle"
  | requested => "requested"
  | ready => "ready"

/-- What was done with a span of guest memory. -/
inductive Access
  | revalidate
  | read
  | write
deriving DecidableEq, Repr

def Access.name : Access → String
  | revalidate => "revalidate"
  | read => "read"
  | write => "write"

/-- Why a guest stopped by itself. -/
inductive Trap
  | unreachable
  | outOfBounds
deriving DecidableEq, Repr

def Trap.text : Trap → String
  | unreachable => "unreachable"
  | outOfBounds => "out of bounds memory access"

/-- How a module came to be closed. -/
inductive Closing
  | code (n : UInt32)
  | deadline
  | cancelled
deriving DecidableEq, Repr

def Closing.text : Closing → String
  | code n => "module closed with exit_code(" ++ toString n ++ ")"
  | deadline => "module closed with context deadline exceeded"
  | cancelled => "module closed with context canceled"

/-- Why the host itself broke down: it was to do something that cannot be done. -/
inductive Breakdown
  | division
  /-- Room for a negative number of values. -/
  | room
  /-- Ticks with no time between them. -/
  | ticking
deriving DecidableEq, Repr

def Breakdown.text : Breakdown → String
  | division => "integer divide by zero"
  | room => "length out of range"
  | ticking => "non-positive interval"

/-- A failure and its cause. -/
inductive Fault
  /-- A failure that is told by its text alone. -/
  | plain (text : String)
  /-- A failure met while doing something, told as `context: cause`. -/
  | within (context : String) (cause : Fault)
  /-- A failure whose text has something after it. -/
  | trailed (cause : Fault) (tail : String)
  | several (causes : List Fault)
  /-- A file operation that the system refused. -/
  | system (operation path : String) (why : Errno)
  | unbound
  /-- The guest has no memory at all. -/
  | noMemory
  /-- A span outside guest memory. -/
  | memoryAccess (access : Access) (address length : Nat)
  /-- A span that is no text. -/
  | malformedText (address length offset : Nat)
  | notReady (stage : Handshake)
  | artifactName (name : String)
  /-- An artifact that could not be handed over. -/
  | undelivered (name : String) (cause : Fault)
  /-- A chosen file that could not be read. -/
  | unreadable (path : String) (cause : Fault)
  | frequency (hz : Float)
  | voice (hz : Float) (cause : Fault)
  /-- A guest directory without a readable manifest. -/
  | manifestMissing (path : String) (cause : Fault)
  | manifestSyntax (path : String)
  | manifestInvalid (path field why : String)
  /-- A manifest that names a module file that is not there. -/
  | moduleFileMissing (manifest file : String)
  /-- A guest that imports a function of a capability it does not declare. -/
  | capabilityMissing (guest function capability : String)
  | guestRejected (guest : String) (cause : Fault)
  | guestUnknown (name : String)
  | guestDuplicate (name : String)
  /-- A file that is no guest module. -/
  | compilation (module : String)
  /-- A module that could not be brought to life. -/
  | instantiation (module instance_ : String) (cause : Fault)
  | moduleUnknown (module : String)
  | functionUnknown (module function : String)
  /-- The host functions are in the hands of another live instance. -/
  | environmentInUse
  /-- A host function that had to abort the guest's call. -/
  | hostFunction (function : String) (cause : Fault)
  | timeout (function : String) (limit : Duration) (cause : Fault)
  /-- A guest call that never ends, where nothing limits it. -/
  | endless (function : String)
  /-- A guest that ended itself, or was ended. -/
  | exited (how : Closing)
  /-- A guest that stopped at an illegal instruction. -/
  | trapped (why : Trap)
  | frame (number : Nat) (cause : Fault)
  | interrupted
  /-- The host itself broke down. -/
  | broken (why : Breakdown)
  /-- A settings file that cannot be read as one. -/
  | settingsSyntax (path : String)
  | settingsShape
deriving Inhabited

namespace Fault

mutual

/-- The text shown for a failure. -/
def message : Fault → String
  | plain text => text
  | within context cause => context ++ ": " ++ cause.message
  | trailed cause tail => cause.message ++ tail
  | several causes => String.intercalate "; " (messages causes)
  | system operation path why => operation ++ " " ++ path ++ ": " ++ why.text
  | unbound => "linear memory view is not bound to a guest memory"
  | noMemory => "runtime error: invalid memory address or nil pointer dereference"
  | memoryAccess access address length =>
    "memory access failed (op=" ++ access.name ++ ", addr=" ++ toString address ++ ", len="
      ++ toString length ++ "): " ++ (if access = .revalidate then "<nil>" else "out of range")
  | malformedText address length offset =>
    "invalid UTF-8 at byte " ++ toString offset ++ " of span (addr=" ++ toString address
      ++ ", len=" ++ toString length ++ "): encoding: invalid UTF-8"
  | notReady stage => "no file ready for import (state: " ++ stage.name ++ ")"
  | artifactName name => "invalid artifact name '" ++ name ++ "'"
  | undelivered name cause => "failed to deliver artifact '" ++ name ++ "': " ++ cause.message
  | unreadable path cause => "failed to read selected file '" ++ path ++ "': " ++ cause.message
  | frequency hz => "invalid tone frequency " ++ Decimal.general hz ++ " Hz"
  | voice hz cause =>
    "failed to start " ++ Decimal.general hz ++ " Hz voice: " ++ cause.message
  | manifestMissing path cause => "manifest not found at '" ++ path ++ "': " ++ cause.message
  | manifestSyntax path => "failed to parse manifest at '" ++ path ++ "'"
  | manifestInvalid path field why =>
    "manifest validation failed at '" ++ path ++ "': " ++ why ++ " (field: " ++ field ++ ")"
  | moduleFileMissing manifest file =>
    "Wasm file '" ++ file ++ "' not found (referenced in manifest '" ++ manifest ++ "')"
  | capabilityMissing guest function capability =>
    "guest '" ++ guest ++ "' imports '" ++ function ++ "' but does not declare capability '"
      ++ capability ++ "'"
  | guestRejected guest cause => "failed to load guest '" ++ guest ++ "': " ++ cause.message
  | guestUnknown name => "guest '" ++ name ++ "' not found"
  | guestDuplicate name => "guest '" ++ name ++ "' is already registered"
  | compilation module => "failed to compile Wasm module '" ++ module ++ "'"
  | instantiation module instance_ cause =>
    "failed to instantiate module '" ++ module ++ "' (instance: " ++ instance_ ++ "): "
      ++ cause.message
  | moduleUnknown module => "module '" ++ module ++ "' not found in cache"
  | functionUnknown module function =>
    "function '" ++ function ++ "' not found in module '" ++ module ++ "'"
  | environmentInUse => "host module env is already instantiated"
  | hostFunction function cause =>
    "host function '" ++ function ++ "' failed: " ++ cause.message
  | timeout function limit _ =>
    "guest function '" ++ function ++ "' timed out after " ++ limit.text
  | endless function => "guest function '" ++ function ++ "' does not end"
  | exited how => how.text
  | trapped why => "wasm error: " ++ why.text
  | frame number cause => "guest frame " ++ toString number ++ " failed: " ++ cause.message
  | interrupted => "context canceled"
  | broken why => why.text
  | settingsSyntax path => "read config " ++ path
  | settingsShape => "decode config"

def messages : List Fault → List String
  | [] => []
  | f :: fs => f.message :: messages fs

end

/-- What a failure wraps. -/
def unwrap : Fault → List Fault
  | within _ c | trailed c _ | undelivered _ c | unreadable _ c | voice _ c
  | manifestMissing _ c | guestRejected _ c | instantiation _ _ c | hostFunction _ c
  | timeout _ _ c | frame _ c => [c]
  | several cs => cs
  | _ => []

/-- The failures that one failure puts together. -/
def parts : Fault → List Fault
  | several cs => cs
  | f => [f]

/-- Two failures put together, if there are two. -/
def append : Option Fault → Option Fault → Option Fault
  | none, g => g
  | f, none => f
  | some f, some g => some (several (f.parts ++ g.parts))

/-- One failure for several; a single one stands for itself. -/
def gather (fs : List Fault) : Option Fault := fs.foldl (fun sum f => append sum (some f)) none

theorem append_eq_none_iff {f g : Option Fault} : append f g = none ↔ f = none ∧ g = none := by
  cases f <;> cases g <;> simp [append]

theorem append_assoc (f g h : Option Fault) : append (append f g) h = append f (append g h) := by
  cases f <;> cases g <;> cases h <;> simp [append, parts]

theorem foldl_append (sum : Option Fault) (fs : List Fault) :
    fs.foldl (fun sum f => append sum (some f)) sum = append sum (gather fs) := by
  induction fs generalizing sum with
  | nil => cases sum <;> rfl
  | cons f fs ih =>
    have hfirst : gather (f :: fs) = append (some f) (gather fs) := ih (some f)
    rw [List.foldl_cons, ih, hfirst, append_assoc]

theorem gather_append (fs gs : List Fault) : gather (fs ++ gs) = append (gather fs) (gather gs) := by
  rw [gather, List.foldl_append, foldl_append]
  rfl

theorem gather_cons (f : Fault) (fs : List Fault) : gather (f :: fs) = append (some f) (gather fs) :=
  gather_append [f] fs

theorem gather_eq_none_iff {fs : List Fault} : gather fs = none ↔ fs = [] := by
  cases fs with
  | nil => simp [gather]
  | cons f fs => simp [gather_cons, append_eq_none_iff]

end Fault
end GuestHost
