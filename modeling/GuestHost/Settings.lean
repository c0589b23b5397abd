import GuestHost.Duration
import GuestHost.Journal
import GuestHost.Text.Case
import GuestHost.Text.Quoted

/-! # Settings

Everything that can be chosen about a run of the host, with the choices made when nothing is said
(`Settings.standard`).  `Settings.problems` lists everything that is wrong with settings, so that
all of it can be told at once. -/

namespace GuestHost

/-- Choices about guest modules. -/
structure ModuleSettings where
  /-- The most memory pages a module may have; zero for no limit. -/
  memoryPages : UInt32 := 256
  debug : Bool := false
  /-- Where compiled modules are kept; empty for nowhere. -/
  cacheDir : String := ""
  /-- How long a guest call may take; zero for any time. -/
  executionTimeout : Duration := ⟨5000000000⟩
  /-- Whether guests may use the system interface. -/
  wasi : Bool := false

/-- Choices about frames. -/
structure FrameSettings where
  fps : Int := 60
  /-- The number of frames after which a run ends; zero for no end. -/
  limit : Int := 0

/-- Choices about files that come in and go out. -/
structure FileSettings where
  picker : String := "inbox"
  inboxDir : String := "./inbox"
  /-- How long a file in the inbox has to be left alone before it is taken. -/
  settle : Duration := ⟨200000000⟩
  primaryExt : String := "l3"
  secondaryExt : String := "l3x"
  /-- Where exported files go; empty for nowhere. -/
  downloadDir : String := "./downloads"
  /-- The address at which exported files are served; empty for none. -/
  httpAddress : String := ""

/-- Choices about sound. -/
structure AudioSettings where
  sampleRate : Int := 44100
  maxGain : Float := 1.0
  warnVoices : Int := 64
  /-- The file to which sound is recorded; empty for none. -/
  recordPath : String := ""

/-- All choices. -/
structure Settings where
  logLevel : String := "info"
  guestsDir : String := "./guests"
  module : ModuleSettings := {}
  frame : FrameSettings := {}
  files : FileSettings := {}
  audio : AudioSettings := {}

/-- How files are chosen for import. -/
inductive PickerKind
  | inbox
  | prompt
  | none
deriving DecidableEq, Repr

def PickerKind.ofName? (s : String) : Option PickerKind :=
  match s with
  | "inbox" => some inbox
  | "prompt" => some prompt
  | "none" => some none
  | _ => Option.none

/-- How much is logged. -/
inductive LogLevel
  | debug
  | info
  | warn
  | error
  | silent
deriving DecidableEq, Repr

/-- The log level of a name, in any letter case. -/
def LogLevel.ofName? (s : String) : Option LogLevel :=
  match Case.lowerText s with
  | "debug" => some debug
  | "info" => some info
  | "" => some info
  | "warn" => some warn
  | "warning" => some warn
  | "error" => some error
  | "dpanic" => some silent
  | "panic" => some silent
  | "fatal" => some silent
  | _ => none

/-- Whether records of a severity are logged. -/
def LogLevel.hears : LogLevel → Severity → Bool
  | debug, _ => true
  | info, s => s ≠ .debug
  | warn, s => s = .warn || s = .error
  | error, s => s = .error
  | silent, _ => false

namespace Settings

/-- The choices made when nothing is said. -/
def standard : Settings := {}

def maxSampleRate : Int := 768000

/-- A problem told by its text, if a condition holds. -/
def problemIf (bad : Bool) (text : String) : List Fault := if bad then [.plain text] else []

/-- What is wrong with the frame rate and the sample rate together. -/
def rateProblems (s : Settings) : List Fault :=
  let rate := s.audio.sampleRate
  if rate ≤ 0 then [.plain ("audio.sample_rate must be positive, got " ++ toString rate)]
  else if maxSampleRate < rate then
    [.plain ("audio.sample_rate must be at most " ++ toString maxSampleRate ++ ", got "
      ++ toString rate)]
  else if rate < s.frame.fps then
    [.plain ("frame.fps must not exceed audio.sample_rate (" ++ toString rate ++ "), got "
      ++ toString s.frame.fps)]
  else []

/-- What is wrong with the two extensions. -/
def extensionProblems (f : FileSettings) : List Fault :=
  if f.primaryExt = "" ∨ f.secondaryExt = "" then
    [.plain "files.primary_ext and files.secondary_ext must be set"]
  else if f.primaryExt = f.secondaryExt then
    [.plain ("files.primary_ext and files.secondary_ext must differ, both are "
      ++ Quoted.quote f.primaryExt)]
  else []

/-- Everything that is wrong with settings. -/
def problems (s : Settings) : List Fault :=
  (match LogLevel.ofName? s.logLevel with
    | some _ => []
    | none =>
      [.within "log_level" (.plain ("unrecognized level: " ++ Quoted.quote s.logLevel))])
    ++ problemIf (s.frame.fps ≤ 0) ("frame.fps must be positive, got " ++ toString s.frame.fps)
    ++ problemIf (s.frame.limit < 0)
        ("frame.limit must not be negative, got " ++ toString s.frame.limit)
    ++ problemIf (s.module.executionTimeout.nanoseconds < 0)
        "wasm.execution_timeout must not be negative"
    ++ problemIf (PickerKind.ofName? s.files.picker).isNone
        ("files.picker must be inbox, prompt or none, got " ++ Quoted.quote s.files.picker)
    ++ problemIf (s.files.picker = "inbox" && s.files.inboxDir = "")
        "files.inbox_dir is required for the inbox picker"
    ++ extensionProblems s.files
    ++ rateProblems s
    ++ problemIf (s.audio.maxGain ≤ 0.0)
        ("audio.max_gain must be positive, got " ++ Decimal.general s.audio.maxGain)

/-- The settings, if nothing is wrong with them. -/
def check (s : Settings) : Except Fault Settings :=
  match Fault.gather s.problems with
  | none => .ok s
  | some f => .error f

end Settings
end GuestHost
