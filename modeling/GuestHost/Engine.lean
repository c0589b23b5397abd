import GuestHost.Duration
import GuestHost.Execution
import GuestHost.Module.WellFormed
import GuestHost.Source

/-! # The engine

The engine compiles modules, brings them to life and calls their functions.

* **Modules** are compiled once.  A compiled module is kept under the name of its source for the
  life of the engine, so a file that changes later is not seen (`Engine.load`).
* **Instances** are live modules (`Engine.instantiate`).  Each gets the functions of the host under
  the module name `env`, and since names are unique in an engine, one instance at a time can have
  them.  An instance that could not be made leaves no name behind.
* **Calls** (`Engine.call`) run an exported function.  A call that takes longer than allowed closes
  the instance.
* **Closing** an instance (`Engine.closeInstance`) gives the names back; closing the engine
  (`Engine.close`) closes all of them. -/

namespace GuestHost

/-- Choices about an engine. -/
structure EngineConfig where
  /-- The most memory pages a module may have; zero for as many as there can be. -/
  memoryPages : UInt32 := 256
  debug : Bool := false
  /-- Where compiled modules are kept; empty for nowhere. -/
  cacheDir : String := ""
  /-- Whether the system interface is offered. -/
  wasi : Bool := false
  /-- How long a call may take; any time if it is not positive. -/
  timeout : Duration := ⟨0⟩
deriving Inhabited

/-- The most memory pages that a module can have. -/
def EngineConfig.pageLimit (c : EngineConfig) : Nat :=
  if c.memoryPages = 0 then 65536 else c.memoryPages.toNat

/-- A compiled module. -/
structure Compiled where
  name : String
  module : Module
deriving Inhabited

/-- A live module. -/
structure Instance where
  id : String
  compiled : Compiled
  /-- The memory; `none` for a module without one. -/
  memory : Option Nat
  /-- How the module came to be closed, if it was. -/
  closing : Option Closing := none
  /-- Whether the instance was closed by the host, and so gave the host functions back. -/
  released : Bool := false
  /-- The functions that the host module made for the instance exports. -/
  host : List String := []
deriving Inhabited

/-- What an instance is to be made of. -/
structure InstanceRequest where
  module : String
  /-- The name of the instance; empty for a generated one. -/
  id : String := ""
  /-- Whether the host lends its functions. -/
  hosted : Bool := true
  /-- The capabilities to offer; all of them if there are none. -/
  capabilities : List String := []
  /-- Exports called once, in order, as far as the module has them. -/
  start : List String := []
  /-- Exports that will be called later. -/
  exports : List String := []

/-- The capabilities whose functions the host module is made of, or the first name that is none. -/
def InstanceRequest.granted (r : InstanceRequest) : Except String (List Capability) :=
  Capability.ofNames
    (if r.capabilities.isEmpty then Capability.all.map Capability.name else r.capabilities)

/-- The state of the engine. -/
structure Engine where
  config : EngineConfig := {}
  modules : List Compiled := []
  /-- The names in use. -/
  registered : List String := []
  /-- Every instance that was made, by number. -/
  instances : Array Instance := #[]
  /-- The instances by id. -/
  tracked : List (String × Nat) := []
  heap : Heap := {}
  output : Output := {}
  closed : Bool := false
  /-- Generated ids: the first, the second, and so on. -/
  supply : Nat → String := fun n => "instance-" ++ toString n
  generated : Nat := 0

namespace Engine

/-! ### Starting and closing -/

def cacheName : String := "compiled"

/-- Makes sure that a directory is there. -/
def ensureDirectory (t : FileTree) (path : String) : FileTree × Option Fault :=
  match t.stat path with
  | .ok e => (t, if e.isDirectory then none else some (.plain (path ++ " is not dir")))
  | .error .noEntry =>
    match t.makeDirectories path with
    | (t, .ok ()) => (t, none)
    | (t, .error f) => (t, some (.plain ("create directory " ++ path ++ ": " ++ f.message)))
  | .error e => (t, some (.system "stat" path e))

/-- Makes sure that the cache directory is there. -/
def openCache (t : FileTree) (dir : String) : FileTree × Option Fault :=
  if dir = "" then (t, none)
  else
    match ensureDirectory t (Path.clean dir) with
    | (t, some f) => (t, some (.within ("failed to open compilation cache " ++ dir) f))
    | (t, none) => ensureDirectory t (Path.join dir cacheName)

def new (c : EngineConfig) (supply : Nat → String) : Engine :=
  { config := c, supply, registered := if c.wasi then [SystemFunction.moduleName] else [] }

/-- Starts an engine. -/
def start (c : EngineConfig) (supply : Nat → String) (t : FileTree) :
    FileTree × Except Fault Engine × Journal :=
  match openCache t c.cacheDir with
  | (t, some f) => (t, .error f, [])
  | (t, none) =>
    (t, .ok (new c supply),
      [{ severity := .info, component := none, message := "Wasm runtime initialized"
         details := [("memory_pages", .whole c.memoryPages.toNat), ("debug_enabled", .flag c.debug),
           ("cache_dir", .text c.cacheDir), ("wasi", .flag c.wasi),
           ("execution_timeout", .whole c.timeout.nanoseconds)] }])

/-- Closes an instance that is not closed yet. -/
def Instance.shut (i : Instance) : Instance :=
  { i with closing := i.closing.or (some (.code 0)), released := true }

def close (e : Engine) : Engine × Journal :=
  if e.closed then (e, [])
  else
    ({ e with closed := true, registered := [], tracked := []
              instances := e.instances.map Instance.shut },
      [.info "wasm-runtime" "Shutting down Wasm runtime",
        .info "wasm-runtime" "Wasm runtime shutdown complete"])

/-! ### Modules -/

def loaderComponent : String := "wasm-loader"

def module? (e : Engine) (name : String) : Option Compiled := e.modules.find? (·.name = name)

/-- The module in a file, unless its parts do not fit or it needs more memory than allowed. -/
def compile (c : EngineConfig) (content : Content) : Option Module :=
  match content.module? with
  | none => none
  | some m => if m.wellFormed && m.pages.getD 0 ≤ c.pageLimit then some m else none

/-- Loads a module and compiles it, unless that was done before. -/
def load (e : Engine) (t : FileTree) (s : Source) : Engine × Except Fault Compiled × Journal :=
  let name := s.name
  if e.closed then (e, .error (.plain ("load " ++ name ++ ": runtime is closed")), [])
  else
    match e.module? name with
    | some c => (e, .ok c, [.debug loaderComponent "Module cache hit" [("module", .text name)]])
    | none =>
      match s.read t with
      | .error f => (e, .error (.within ("failed to read module " ++ name) f), [])
      | .ok content =>
        let begun : Record := .info loaderComponent "Compiling guest module" [("module", .text name)]
        match compile e.config content with
        | none => (e, .error (.compilation name), [begun])
        | some m =>
          let c : Compiled := ⟨name, m⟩
          ({ e with modules := e.modules ++ [c] }, .ok c,
            [begun, .info loaderComponent "Module compiled successfully"
              [("module", .text name), ("imports", .whole m.imports.length)]])

/-! ### Instances -/

def component : String := "wasm-instance"

def instance? (e : Engine) (id : String) : Option Nat := e.tracked.lookup id

/-- The id asked for, or a generated one. -/
def identify (e : Engine) (id : String) : Engine × String :=
  if id = "" then ({ e with generated := e.generated + 1 }, e.supply e.generated) else (e, id)

/-- Whether an import is provided, given the names of host functions on offer. -/
def provides (e : Engine) (offered : List String) (i : Import) : Bool :=
  if i.module = HostFunction.moduleName then offered.contains i.name
  else
    e.config.wasi && i.module = SystemFunction.moduleName && e.registered.contains i.module
      && (SystemFunction.ofName? i.name).isSome

def machine (e : Engine) (b : Bridge) (memory : Option Nat) (closing : Option Closing) : Machine :=
  { bridge := b, heap := e.heap, memory, pageLimit := e.config.pageLimit, output := e.output
    closing }

/-- Puts the memories and the output of a machine back. -/
def absorb (e : Engine) (m : Machine) : Engine := { e with heap := m.heap, output := m.output }

/-- Gives a new module its memory; fails if the module's data does not fit. -/
def giveMemory (h : Heap) (m : Module) : Option (Heap × Option Nat) :=
  match m.pages with
  | none => some (h, none)
  | some n =>
    match m.initialMemory? n with
    | none => none
    | some b =>
      let (h, id) := h.allocate b
      some (h, some id)

/-- Runs start functions in order.  One that ends the guest with code zero ends the start, and
that counts as success. -/
def runStart (code : Module) : List String → Machine → Option Fault × Machine
  | [], m => (none, m)
  | name :: rest, m =>
    match code.function? name with
    | none => runStart code rest m
    | some f =>
      match f.run m with
      | (.ok _, m) => runStart code rest m
      | (.error (.exit 0), m) => (none, m)
      | (.error e, m) => (some (e.fault name), m)

/-- The first import of a module that nobody provides. -/
def missing? (e : Engine) (offered : List String) (code : Module) : Option Import :=
  code.imports.find? fun i => !e.provides offered i

/-- Makes an instance once its host functions are decided: imports, memory, the name, and then the
start functions.  An instance whose name is in use is closed at once, and with it the name is given
back, whoever had it. -/
def bringUp (e : Engine) (b : Bridge) (id : String) (offered : List String) (c : Compiled)
    (startNames : List String) : Engine × Bridge × Except Fault Instance × Journal :=
  match e.missing? offered c.module with
  | some i =>
    (e, b, .error (.plain ("\"" ++ i.name ++ "\" is not exported in module \"" ++ i.module ++ "\"")),
      [])
  | none =>
    match giveMemory e.heap c.module with
    | none => (e, b, .error (.trapped .outOfBounds), [])
    | some (heap, memory) =>
      let e := { e with heap }
      if id = HostFunction.moduleName || e.registered.contains id then
        ({ e with registered := e.registered.filter (· ≠ id) }, b,
          .error (.plain ("module[" ++ id ++ "] has already been instantiated")), [])
      else
      match runStart c.module startNames (e.machine b memory none) with
      | (some f, m) => (e.absorb m, m.bridge, .error f, m.log)
      | (none, m) =>
        (e.absorb m, m.bridge,
          .ok { id, compiled := c, memory, closing := m.closing, host := offered }, m.log)

/-- Takes a new instance up: its names are in use, and it is found by its id. -/
def enrol (e : Engine) (i : Instance) : Engine :=
  { e with
    registered := HostFunction.moduleName ::
      (if i.closing.isNone then i.id :: e.registered else e.registered)
    tracked := (i.id, e.instances.size) :: e.tracked.filter (·.1 ≠ i.id)
    instances := e.instances.push i }

/-- Makes an instance with the functions of some capabilities, takes it up and tells its number. -/
def launch (e : Engine) (b : Bridge) (r : InstanceRequest) (id : String) (c : Compiled)
    (cs : List Capability) : Engine × Bridge × Except Fault Nat × Journal :=
  match bringUp e b id (Environment.names cs) c r.start with
  | (e, b, .error f, log) => (e, b, .error (.instantiation r.module id f), log)
  | (e, b, .ok i, log) =>
    (e.enrol i, b, .ok e.instances.size,
      log ++ [.info component "Guest instantiated"
        [("instance_id", .text id), ("capabilities", .texts (cs.map Capability.name)),
          ("cached_exports", .whole (r.exports.filter c.module.hasExport).eraseDups.length)]])

/-- Makes an instance of a compiled module and tells its number. -/
def instantiate (e : Engine) (b : Bridge) (r : InstanceRequest) :
    Engine × Bridge × Except Fault Nat × Journal :=
  match e.module? r.module with
  | none => (e, b, .error (.moduleUnknown r.module), [])
  | some c =>
    if !r.hosted then
      (e, b, .error (.plain ("instance of " ++ r.module ++ " has no host functions")), [])
    else
      let (e, id) := e.identify r.id
      let begun : Record := .info component "Instantiating guest module"
        [("module", .text r.module), ("instance_id", .text id)]
      let fail (f : Fault) : Engine × Bridge × Except Fault Nat × Journal := (e, b, .error f, [begun])
      if e.registered.contains HostFunction.moduleName then
        fail (.instantiation r.module id .environmentInUse)
      else
        match r.granted with
        | .error n =>
          fail (.within "failed to export host functions"
            (.plain ("unknown capability " ++ Quoted.quote n)))
        | .ok cs =>
          if e.closed then
            fail (.within "failed to instantiate host module"
              (.plain "runtime closed with exit_code(0)"))
          else
            let (e, b, result, log) := e.launch b r id c cs
            (e, b, result, begun :: log)

/-- Closes an instance.  Its names and its entry are given back, whoever has them now. -/
def closeInstance (e : Engine) (n : Nat) : Engine :=
  match e.instances[n]? with
  | none => e
  | some i =>
    let e := if i.released then e
      else
        { e with
          instances := e.instances.modify n Instance.shut
          registered := e.registered.filter fun name =>
            name ≠ HostFunction.moduleName && name ≠ i.id }
    { e with tracked := e.tracked.filter (·.1 ≠ i.id) }

/-! ### Calls -/

/-- Notes how an instance came to be closed and gives its own name back. -/
def noteClosing (e : Engine) (n : Nat) (i : Instance) (closing : Option Closing) : Engine :=
  if closing = i.closing then e
  else
    { e with
      instances := e.instances.modify n fun i => { i with closing }
      registered := e.registered.filter (· ≠ i.id) }

/-- What a call comes to, and whether it closed the instance. -/
def settle (limit : Duration) (name : String) (closing : Option Closing) :
    Except Ending (List UInt32) → Except Fault (List UInt32) × Option Closing
  | .ok ws =>
    match closing with
    | none => (.ok ws, none)
    | some c => (.error (.exited c), some c)
  | .error .endless =>
    if 0 < limit.nanoseconds then
      match closing with
      | some c => (.error (.exited c), some c)
      | none => (.error (.timeout name limit (.exited .deadline)), some .deadline)
    else (.error (.endless name), closing)
  | .error e => (.error (e.fault name), closing)

/-- Calls an exported function of an instance.  A closed instance still runs it, and then fails. -/
def call (e : Engine) (b : Bridge) (n : Nat) (name : String) :
    Engine × Bridge × Except Fault (List UInt32) × Journal :=
  match e.instances[n]? with
  | none => (e, b, .error (.functionUnknown "" name), [])
  | some i =>
    match i.compiled.module.function? name with
    | none => (e, b, .error (.functionUnknown i.compiled.name name), [])
    | some f =>
      let (r, m) := f.run (e.machine b i.memory i.closing)
      let (r, closing) := settle e.config.timeout name m.closing r
      ((e.absorb m).noteClosing n i closing, m.bridge, r, m.log)

def hasExport (e : Engine) (n : Nat) (name : String) : Bool :=
  match e.instances[n]? with
  | some i => i.compiled.module.hasExport name
  | none => false

def memory? (e : Engine) (n : Nat) : Option Bytes := do
  let i ← e.instances[n]?
  e.heap.live? (← i.memory)

end Engine
end GuestHost
