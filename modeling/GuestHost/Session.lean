import GuestHost.Address
import GuestHost.Catalog
import GuestHost.FrameLoop
import GuestHost.Recording
import GuestHost.Settings

/-! # Sessions of the host

A session joins the engine, the installed guests, the sound and the ways for files to come in and
go out, as the settings say.  It runs one guest after the other.

* `Session.start` sets everything up; what was set up is taken down again when something fails.
* `Session.begin` brings a guest to life with a bridge of its own, so that nothing of an earlier
  run can reach it.
* `Run.loop` is what is done in every frame, and `Session.finish` cleans up after a run, however it
  ended: the guest is closed and its tones stop.
* `Session.run` is a whole run.
* A picker delivers to the exchange that opened it, also when that exchange's run is over
  (`Session.arrive`, `Run.arrive`). -/

namespace GuestHost

/-- How files are chosen in a session. -/
inductive Picker
  | none
  | inbox
  | prompt
  /-- A picker told by what comes of its first opening, its second, and so on. -/
  | custom (openings : Nat → Opening)

/-- The state of a session. -/
structure Session where
  settings : Settings
  files : FileTree
  engine : Engine
  catalog : Catalog
  mixer : Mixer
  recording : Option Recording := none
  picker : Picker := .none
  /-- How often the picker was opened. -/
  openings : Nat := 0
  outlet : Option (Outlet Recipient) := none
  shelf : Shelf := {}
  /-- Artifacts handed to a collecting recipient. -/
  collected : List Artifact := []
  /-- The time at which artifacts are made. -/
  now : Timestamp := 0
  /-- The exchanges of the runs that are over, oldest first. -/
  past : List Exchange := []

/-- A choice that a picker delivers. -/
structure Arrival where
  /-- The number of the exchange that opened the picker, counted from the first of the session. -/
  exchange : Nat
  choice : Selection

/-- What replaces parts of a session, for hosts that bring their own. -/
structure Parts where
  picker : Option Picker := none
  /-- `some none` for a host that hands artifacts to nobody. -/
  outlet : Option (Option (Outlet Recipient)) := none
  /-- Generated instance ids. -/
  supply : Nat → String := fun n => "instance-" ++ toString n
  now : Timestamp := 0

namespace Settings

/-- The engine that settings ask for. -/
def engineConfig (s : Settings) : EngineConfig :=
  { memoryPages := s.module.memoryPages, debug := s.module.debug, cacheDir := s.module.cacheDir
    wasi := s.module.wasi, timeout := s.module.executionTimeout }

/-- Where exported files go: to the download directory, to the shelf that is served, or both. -/
def outlet? (s : Settings) : Option (Outlet Recipient) :=
  let folder := if s.files.downloadDir = "" then [] else [Recipient.folder s.files.downloadDir]
  let shelf := if s.files.httpAddress = "" then [] else [Recipient.downloads]
  match folder ++ shelf with
  | [] => none
  | [r] => some (.single r)
  | rs => some (.fan (rs.map .single))

/-- The picker that settings ask for. -/
def pickerOf (s : Settings) : Picker :=
  match PickerKind.ofName? s.files.picker with
  | some .inbox => .inbox
  | some .prompt => .prompt
  | _ => .none

end Settings

namespace Session

def component : String := "host"

/-! ### Setting up and taking down -/

def isServing (s : Session) : Bool := s.settings.files.httpAddress ≠ ""

def finishRecording (s : Session) : Session × Option Fault × Journal :=
  match s.recording with
  | none => (s, none, [])
  | some r =>
    let (r, f) := (r.reread s.files).close
    ({ s with recording := some r, files := r.flush s.files }, f,
      match f with
      | some f => [.error component "Failed to finish recording" [("error", .fault f)]]
      | none => [])

def close (s : Session) : Session × Option Fault × Journal :=
  let (s, f, log) := s.finishRecording
  let (engine, more) := s.engine.close
  ({ s with engine }, f,
    .info component "Shutting down host" :: log ++ more ++ [.info component "Host shutdown complete"])

/-- Gives up on a session that could not be set up. -/
def giveUp (s : Session) (why : Fault) (log : Journal) :
    FileTree × Except Fault Session × Journal :=
  let (s, f, more) := s.close
  (s.files, .error ((Fault.gather (why :: f.toList)).getD why), log ++ more)

def startRecording (s : Session) : Session × Option Fault :=
  if s.settings.audio.recordPath = "" then (s, none)
  else
    match Recording.create s.files s.settings.audio.recordPath s.settings.audio.sampleRate with
    | .error f => (s, some f)
    | .ok (files, r) => ({ s with files, recording := some r }, none)

/-- What is told about a session that was set up. -/
def initialized (s : Settings) : Record :=
  .info component "Host initialized"
    [("wasm_memory_pages", .whole s.module.memoryPages.toNat),
      ("wasm_cache_dir", .text s.module.cacheDir), ("picker", .text s.files.picker),
      ("sample_rate", .whole s.audio.sampleRate), ("downloads", .text s.files.httpAddress)]

/-- Sets a session up. -/
def start (settings : Settings) (parts : Parts) (files : FileTree) :
    FileTree × Except Fault Session × Journal :=
  match Engine.start settings.engineConfig parts.supply files with
  | (files, .error f, log) => (files, .error (.within "failed to initialize Wasm runtime" f), log)
  | (files, .ok engine, log) =>
    let s : Session :=
      { settings, files, engine, catalog := { directory := settings.guestsDir }
        mixer := Mixer.new settings.audio.sampleRate
        picker := parts.picker.getD settings.pickerOf
        outlet := parts.outlet.getD settings.outlet?, now := parts.now }
    match s.startRecording with
    | (s, some f) => s.giveUp f log
    | (s, none) =>
      let obstacle := if s.isServing then Address.listenFault? settings.files.httpAddress else none
      match obstacle with
      | some f => s.giveUp f log
      | none => (s.files, .ok s, log ++ [initialized settings])

/-! ### Runs -/

/-- The picker as a guest of this session sees it. -/
def openings? (s : Session) : Option (Nat → Opening) :=
  match s.picker with
  | .none => none
  | .inbox => some fun _ => .watches s.settings.files.inboxDir
  | .prompt => some fun _ => .waits
  | .custom f => some fun k => f (s.openings + k)

def bridge (s : Session) : Bridge :=
  Bridge.new
    { files :=
        { classifier := ⟨s.settings.files.primaryExt, s.settings.files.secondaryExt⟩
          picker := s.openings?, outlet := s.outlet, now := s.now }
      pool := { maxGain := s.settings.audio.maxGain, warnVoices := s.settings.audio.warnVoices }
      synth := { mixer := s.mixer }
      deliveries := { files := s.files, shelf := s.shelf, collected := s.collected }
      scope := some component }

/-- Takes back what a bridge worked on, and closes it. -/
def reclaim (s : Session) (b : Bridge) : Session × Journal :=
  let (b, log) := b.close
  ({ s with
      files := b.deliveries.files, shelf := b.deliveries.shelf, collected := b.deliveries.collected
      mixer := b.synth.mixer, openings := s.openings + b.exchange.openings
      past := s.past ++ [b.exchange] },
    log)

/-- Takes a choice to an exchange whose run is over.  It waits there, and so nothing is said. -/
def arrive (s : Session) (a : Arrival) : Session :=
  { s with past := s.past.modify a.exchange fun x => (x.deliver a.choice).1 }

end Session

/-- A guest that is running in a session. -/
structure Run where
  session : Session
  guest : Guest
  number : Nat
  bridge : Bridge
  log : Journal := []

namespace Run

/-- Takes a choice to the exchange of this run, or of one that is over.  It waits there, and so
nothing is said. -/
def arrive (r : Run) (a : Arrival) : Run :=
  if a.exchange = r.session.past.length then
    { r with bridge := { r.bridge with exchange := (r.bridge.exchange.deliver a.choice).1 } }
  else { r with session := r.session.arrive a }

def dispatch (n : Nat) (r : Run) : Run :=
  let (bridge, count, log) := r.bridge.dispatch
  let told : Journal :=
    if count = 0 then []
    else [.debug Session.component "Applied host events"
      [("count", .whole count), ("frame", .whole n)]]
  { r with bridge, log := r.log ++ log ++ told }

/-- Calls the guest's frame function.  Once a run is interrupted, an engine that limits the time of
calls does not call the guest any more. -/
def call (r : Run) : Run × Option Fault :=
  let e := r.session.engine
  if r.bridge.exchange.interrupted && 0 < e.config.timeout.nanoseconds then
    (r, some (.exited .cancelled))
  else
    let (engine, bridge, result, log) := e.call r.bridge r.number r.guest.manifest.frame
    ({ r with session := { r.session with engine }, bridge, log := r.log ++ log },
      match result with
      | .ok _ => none
      | .error f => some f)

/-- Renders the sound of a frame, into the recording if there is one. -/
def render (samples : Int) (r : Run) : Run × Option Fault :=
  let mixer := r.bridge.synth.mixer
  let files := r.bridge.deliveries.files
  let (recording, files, mixer, f) := match r.session.recording with
    | some recording =>
      let (recording, mixer, f) := (recording.reread files).capture mixer samples
      (some recording, recording.flush files, mixer, f)
    | none => (none, files, (mixer.render samples.toNat).1, none)
  ({ r with
      session := { r.session with recording }
      bridge :=
        { r.bridge with
          synth := { r.bridge.synth with mixer }
          deliveries := { r.bridge.deliveries with files } } },
    f)

/-- What is done in every frame.  Choices arrive before those that wait are applied.  The run can
also be interrupted from outside, by what the files look like after a frame. -/
def loop (pace : Pace) (interrupt : FileTree → Bool) (arrivals : Nat → List Arrival) :
    FrameLoop Run where
  dispatch := fun n r => ((arrivals n).foldl arrive r).dispatch n
  call := fun _ r => r.call
  render := render pace.samples
  interrupted := fun r => r.bridge.exchange.interrupted || interrupt r.bridge.deliveries.files

def say (r : Run) (record : Record) : Run := { r with log := r.log ++ [record] }

def hasFrame (r : Run) : Bool := r.session.engine.hasExport r.number r.guest.manifest.frame

/-- The pace of the frames, told from the rate at which the mixer runs. -/
def pace (r : Run) : Except Fault Pace :=
  Pace.of r.bridge.synth.mixer.sampleRate r.session.settings.frame.fps

/-- What a loop that stopped means for the run. -/
def conclude (r : Run) : Option Stop → Run × Option Fault
  | none =>
    (r.say (.info Session.component "Frame limit reached"
      [("frames", .whole r.session.settings.frame.limit)]), none)
  | some (.failed n why) =>
    (r.say (.error Session.component "Guest frame failed"
      [("frame", .whole n), ("error", .fault why)]), some (.frame n why))
  | some (.unrendered why) => (r, some why)
  | some .interrupted =>
    (r.say (.info Session.component "Guest run interrupted" [("name", .text r.guest.name)]), none)

/-- Drives the guest.  Without a frame limit the run counts as interrupted when `patience` frames
are over. -/
def drive (r : Run) (patience : Nat) (interrupt : FileTree → Bool)
    (arrivals : Nat → List Arrival) : Run × Option Fault :=
  if !r.hasFrame then
    (r.say (.info Session.component "Guest has no frame export, run finished after start"
      [("frame", .text r.guest.manifest.frame)]), none)
  else
    match r.pace with
    | .error f => (r, some f)
    | .ok pace =>
      let limit := r.session.settings.frame.limit.toNat
      if limit = 0 then
        let (r, stop) := (loop pace interrupt arrivals).run patience 0 r
        r.conclude (some (stop.getD .interrupted))
      else
        let (r, stop) := (loop pace interrupt arrivals).run limit 0 r
        r.conclude stop

end Run

namespace Session

/-- Brings a guest to life. -/
def begin (s : Session) (target : String) : Session × Except Fault Run × Journal :=
  match s.catalog.resolve s.engine s.files target with
  | (catalog, engine, .error f, log) => ({ s with catalog, engine }, .error f, log)
  | (catalog, engine, .ok g, log) =>
    let s := { s with catalog, engine }
    match s.engine.instantiate s.bridge g.request with
    | (engine, b, .error f, more) =>
      let (s, rest) := { s with engine }.reclaim b
      (s, .error f, log ++ more ++ rest)
    | (engine, b, .ok number, more) =>
      let s := { s with engine }
      let id := ((engine.instances[number]?).map Instance.id).getD ""
      (s, .ok { session := s, guest := g, number, bridge := b },
        log ++ more ++ [.info component "Running guest"
          [("name", .text g.name), ("version", .text g.manifest.version),
            ("instance_id", .text id)]])

/-- Cleans up after a run. -/
def finish (r : Run) : Session × Journal :=
  let s := { r.session with engine := r.session.engine.closeInstance r.number }
  let (s, log) := s.reclaim r.bridge
  (s, r.log ++ log)

/-- Runs a guest from beginning to end.  `arrivals` tells the choices that arrive before each
frame. -/
def run (s : Session) (patience : Nat) (interrupt : FileTree → Bool) (target : String)
    (arrivals : Nat → List Arrival := fun _ => []) : Session × Option Fault × Journal :=
  match s.begin target with
  | (s, .error f, log) => (s, some f, log)
  | (_, .ok r, log) =>
    let (r, f) := r.drive patience interrupt arrivals
    let (s, more) := finish r
    (s, f, log ++ more)

end Session
end GuestHost
