import GuestHost.Settings.Layers

/-! # Settings from loosely typed values

Settings files, the environment and the command line write values as they please: a number may be
given as text, a truth value as a number.  Each kind of field has its own rule for what it takes;
lists, tables and moments never fit.  A field that nothing is said about is zero or empty.

A section is a table.  A moment may stand for one as well: it has parts of its own, none of which
is a setting, so it is a section in which nothing is said. -/

namespace GuestHost.Settings

open Layers (Table)

/-- A real number cut to 64 bits; the lowest number when it does not fit. -/
def truncated (x : Float) : Int :=
  let lowest := Int64.minValue.toInt
  if x.isNaN || x.isInf then lowest
  else
    let n := Binary.truncate x
    if lowest ≤ n ∧ n ≤ Int64.maxValue.toInt then n else lowest

/-- A whole number wrapped to 64 bits with a sign. -/
def wrapped (n : Int) : Int := (Int64.ofInt n).toInt

def wholeOf? : Datum → Option Int
  | .whole n => some (wrapped n)
  | .real x => some (truncated x)
  | .truth b => some (if b then 1 else 0)
  | .text s => if s = "" then some 0 else (Numeral.whole? s).toOption
  | _ => none

/-- The number of a real in 64 bits without a sign, negative ones wrapping around. -/
def unsignedOf (x : Float) : Int :=
  let half : Int := (UInt64.size / 2 : Nat)
  if x.isNaN || x.isInf then half
  else
    let n := Binary.truncate x
    if n < half then truncated x
    else if n < UInt64.size then n else half

/-- A number of 32 bits.  Numbers wrap around, text has to fit. -/
def wordOf? : Datum → Option UInt32
  | .whole n => some (UInt32.ofNat (n % UInt32.size).toNat)
  | .real x => some (UInt32.ofNat (unsignedOf x % UInt32.size).toNat)
  | .truth b => some (if b then 1 else 0)
  | .text s =>
    if s = "" then some 0
    else (Numeral.natural? (UInt32.size - 1) s.toList).toOption.map UInt32.ofNat
  | _ => none

def truthOf? : Datum → Option Bool
  | .truth b => some b
  | .whole n => some (n ≠ 0)
  | .real x => some (x != 0)
  | .text s => if s = "" then some false else Numeral.truth? s
  | _ => none

def textOf? : Datum → Option String
  | .text s => some s
  | .whole n => some (toString n)
  | .real x => some (Decimal.plain x)
  | .truth b => some (if b then "1" else "0")
  | _ => none

def realOf? : Datum → Option Float
  | .real x => some x
  | .whole n => Binary.ofRatio? (n < 0) n.natAbs 1
  | .truth b => some (if b then 1 else 0)
  | .text s => if s = "" then some 0 else (Numeral.real? s).toOption
  | _ => none

/-- A length of time: a number of nanoseconds, or text with units. -/
def durationOf? : Datum → Option Duration
  | .text s => Duration.parse? s
  | d => (wholeOf? d).map Duration.mk

/-- A field of a table read by a rule; a field that is not there, or is nothing, keeps a value. -/
def field? {α : Type} (t : Table) (key : String) (rule : Datum → Option α) (zero : α) : Option α :=
  match Layers.present (Datum.get? t key) with
  | none => some zero
  | some d => rule d

def section? (t : Table) (key : String) : Option Table :=
  field? t key (fun | .table es => some es | .moment => some [] | _ => none) []

def ofTable? (t : Table) : Option Settings := do
  let m ← section? t "wasm"
  let f ← section? t "frame"
  let x ← section? t "files"
  let a ← section? t "audio"
  some
    { logLevel := ← field? t "log_level" textOf? ""
      guestsDir := ← field? t "guests_dir" textOf? ""
      module :=
        { memoryPages := ← field? m "memory_pages" wordOf? 0
          debug := ← field? m "debug" truthOf? false
          cacheDir := ← field? m "cache_dir" textOf? ""
          executionTimeout := ← field? m "execution_timeout" durationOf? ⟨0⟩
          wasi := ← field? m "wasi" truthOf? false }
      frame :=
        { fps := ← field? f "fps" wholeOf? 0
          limit := ← field? f "limit" wholeOf? 0 }
      files :=
        { picker := ← field? x "picker" textOf? ""
          inboxDir := ← field? x "inbox_dir" textOf? ""
          settle := ← field? x "settle" durationOf? ⟨0⟩
          primaryExt := ← field? x "primary_ext" textOf? ""
          secondaryExt := ← field? x "secondary_ext" textOf? ""
          downloadDir := ← field? x "download_dir" textOf? ""
          httpAddress := ← field? x "http_addr" textOf? "" }
      audio :=
        { sampleRate := ← field? a "sample_rate" wholeOf? 0
          maxGain := ← field? a "max_gain" realOf? 0
          warnVoices := ← field? a "warn_voices" wholeOf? 0
          recordPath := ← field? a "record_path" textOf? "" } }

/-- Settings as a table, the other way round. -/
def toTable (s : Settings) : Table :=
  [("log_level", .text s.logLevel), ("guests_dir", .text s.guestsDir),
   ("wasm", .table
     [("memory_pages", .whole s.module.memoryPages.toNat), ("debug", .truth s.module.debug),
      ("cache_dir", .text s.module.cacheDir),
      ("execution_timeout", .whole s.module.executionTimeout.nanoseconds),
      ("wasi", .truth s.module.wasi)]),
   ("frame", .table [("fps", .whole s.frame.fps), ("limit", .whole s.frame.limit)]),
   ("files", .table
     [("picker", .text s.files.picker), ("inbox_dir", .text s.files.inboxDir),
      ("settle", .whole s.files.settle.nanoseconds),
      ("primary_ext", .text s.files.primaryExt), ("secondary_ext", .text s.files.secondaryExt),
      ("download_dir", .text s.files.downloadDir), ("http_addr", .text s.files.httpAddress)]),
   ("audio", .table
     [("sample_rate", .whole s.audio.sampleRate), ("max_gain", .real s.audio.maxGain),
      ("warn_voices", .whole s.audio.warnVoices), ("record_path", .text s.audio.recordPath)])]

end GuestHost.Settings
