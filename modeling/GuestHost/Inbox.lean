import GuestHost.Exchange

/-! # The inbox

Dropping a file into a watched directory plays the role of choosing it in a dialog.  A file is
taken once it was left alone for a while.

* `Inbox.request` starts a watch and ends the one before: one request at a time is served.
* A **watch** remembers the path that was touched last and whether its timer runs.  It goes on one
  event at a time (`Watch.step`): something was touched, the timer fired, its time is over, or the
  system complains.
* A watch hands over one file at most, when its timer fires and the path touched last is a regular
  file that can be read.  A watch that was cancelled hands over nothing. -/

namespace GuestHost

/-- A watch over the inbox directory, on behalf of one request. -/
structure Watch where
  /-- Whether the request was withdrawn, or another one took its place. -/
  cancelled : Bool := false
  finished : Bool := false
  /-- The path that was touched last. -/
  candidate : Option String := none
  armed : Bool := false
deriving DecidableEq, Repr, Inhabited

/-- What a watch reacts to. -/
inductive WatchEvent
  /-- A path was created or written. -/
  | touched (path : String)
  /-- Something else was done to a path: it was removed, renamed, or its rights were changed. -/
  | passed (path : String)
  /-- The timer fired; there may be an obstacle to reading files then. -/
  | settled (obstacle : Option Fault := none)
  | withdrawn
  /-- The system complains. -/
  | trouble (why : Fault)

namespace Watch

def component : String := Opening.watcher

/-- Whether a file can still be handed over. -/
def isLive (w : Watch) : Bool := !w.cancelled && !w.finished

/-- What comes of reading the regular file at a path; `none` if there is no regular file. -/
def regularFile? (t : FileTree) (obstacle : Option Fault) (path : String) :
    Option (Except Fault Selection) :=
  match t.stat path, obstacle with
  | .ok (.file c), none => some (.ok ⟨Path.base path, c.data⟩)
  | .ok (.file _), some why => some (.error (.unreadable path why))
  | _, _ => none

/-- Goes on by one event, and hands over a file if it is time to.  A finished watch does nothing,
a timer that does not run cannot fire, and a request that is still there is not withdrawn. -/
def step (w : Watch) (t : FileTree) (e : WatchEvent) : Watch × Option Selection × Journal :=
  if w.finished then (w, none, [])
  else
    match e with
    | .touched path => ({ w with candidate := some path, armed := true }, none, [])
    | .passed _ => (w, none, [])
    | .trouble why => (w, none, [.warn component "Inbox watcher error" [("error", .fault why)]])
    | .withdrawn =>
      if w.cancelled then
        ({ w with finished := true }, none,
          [.debug component "Inbox watch ended without a selection"])
      else (w, none, [])
    | .settled obstacle =>
      if !w.armed then (w, none, [])
      else
        let w := { w with armed := false }
        match w.candidate.bind (regularFile? t obstacle) with
        | none => (w, none, [])
        | some (.error f) =>
          (w, none, [.error component "Failed to read inbox file" [("error", .fault f)]])
        | some (.ok s) =>
          if w.cancelled then ({ w with finished := true }, none, [])
          else
            ({ w with finished := true }, some s,
              [.info component "Inbox file selected"
                [("name", .text s.name), ("size_bytes", .whole s.data.size)]])

end Watch

/-- Why the system does not watch a directory. -/
inductive WatchRefusal
  /-- There can be no further watch. -/
  | noWatcher (why : Fault)
  /-- The directory cannot be watched. -/
  | unwatchable (why : Fault)

/-- The failure of a request when the system does not watch the directory. -/
def WatchRefusal.fault (directory : String) : WatchRefusal → Fault
  | noWatcher why => .within "failed to create watcher" why
  | unwatchable why => .within ("failed to watch inbox " ++ directory) why

/-- An inbox directory and the watches over it, one for each request, oldest first. -/
structure Inbox where
  directory : String
  /-- How long a file has to be left alone. -/
  settle : Duration
  watches : List Watch := []
  /-- The watch that the next request replaces. -/
  current : Option Nat := none

namespace Inbox

/-- How long a file has to be left alone if nothing else is said. -/
def standardSettle : Duration := ⟨200000000⟩

/-- An inbox without requests. -/
def new (directory : String) (settle : Duration) : Inbox :=
  { directory, settle := if settle.nanoseconds ≤ 0 then standardSettle else settle }

def cancel (b : Inbox) (k : Nat) : Inbox :=
  { b with watches := b.watches.modify k fun w => { w with cancelled := true } }

/-- Withdraws the current request. -/
def cancelCurrent (b : Inbox) : Inbox :=
  match b.current with
  | some k => b.cancel k
  | none => b

/-- Puts a new watch in place of the current one. -/
def replaceCurrent (b : Inbox) : Inbox :=
  { b.cancelCurrent with
    watches := b.cancelCurrent.watches ++ [{}], current := some b.watches.length }

/-- Starts a watch for a request and tells its number.  A failure leaves the watches as they were. -/
def request (b : Inbox) (t : FileTree) (refusal : Option WatchRefusal := none) :
    Inbox × FileTree × Except Fault Nat × Journal :=
  match Opening.watch t b.directory, refusal with
  | (t, .error f), _ => (b, t, .error f, [])
  | (t, .ok _), some r => (b, t, .error (r.fault b.directory), [])
  | (t, .ok said), none => (b.replaceCurrent, t, .ok b.watches.length, said)

def close (b : Inbox) : Inbox := { b.cancelCurrent with current := none }

/-- Lets one watch go on by one event. -/
def step (b : Inbox) (t : FileTree) (k : Nat) (e : WatchEvent) :
    Inbox × Option Selection × Journal :=
  match b.watches[k]? with
  | none => (b, none, [])
  | some w =>
    let (w, s, log) := w.step t e
    ({ b with watches := b.watches.set k w }, s, log)

/-- What all watches come to after an event each, with what they handed over. -/
def stepAll (t : FileTree) (e : Watch → WatchEvent) :
    Nat → List Watch → List Watch × List (Nat × Selection) × Journal
  | _, [] => ([], [], [])
  | k, w :: r =>
    let (w, s, log) := w.step t (e w)
    let (ws, ss, more) := stepAll t e (k + 1) r
    (w :: ws, (s.toList.map (k, ·)) ++ ss, log ++ more)

/-- Tells all watches that something in the directory was touched.  What happens in directories
further down is not seen. -/
def touch (b : Inbox) (t : FileTree) (name : String) : Inbox :=
  if 1 < (Path.names name).length then b
  else
    { b with
      watches := (stepAll t (fun _ => .touched (Path.join b.directory name)) 0 b.watches).1 }

/-- Leaves the directory alone: withdrawn requests end and running timers fire. -/
def rest (b : Inbox) (t : FileTree) : Inbox × List (Nat × Selection) × Journal :=
  let (ws, ss, log) :=
    stepAll t (fun w => if w.cancelled then .withdrawn else .settled) 0 b.watches
  ({ b with watches := ws }, ss, log)

end Inbox
end GuestHost
