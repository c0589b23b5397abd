import GuestHost.FileTree
import GuestHost.Mixer

/-! # Recordings

A recording is a WAV file: a header, then samples of 16 bits on one channel.

* Samples are rendered and quantised into arrays that are kept from call to call (`Room`), so that
  behind the samples of one call may stand those of an earlier one.
* The header goes out with the first samples, its two sizes still unknown.
* `Recording.close` puts the sizes in.  A recording without samples has no header, only a size at
  its place.
* Others may write the same file meanwhile.  A recording goes on where it was, and what lies
  between the end of the file and that place is filled with zeros (`Recording.reread`,
  `Recording.flush`).
* The file may refuse: it may be closed, or on a device that is full. -/

namespace GuestHost

/-- Arrays that are kept from call to call.  They grow with the largest call. -/
structure Room where
  rendered : Array Float32 := #[]
  quantised : Array Int := #[]
deriving Inhabited

namespace Room

variable {α : Type}

/-- Room for some values: what there is, if it is large enough. -/
def reserve (room : Array α) (n : Nat) (blank : α) : Array α :=
  if room.size < n then Array.replicate n blank else room

/-- Puts values over the first ones. -/
def fill (room values : Array α) : Array α := values ++ room.extract values.size room.size

/-- The first values of a room are those that were put there last. -/
theorem extract_fill (room values : Array α) : (fill room values).extract 0 values.size = values := by
  simp [fill, Array.extract_append]

end Room

/-- A recording in progress. -/
structure Recording where
  path : String
  /-- Where the file is. -/
  place : Place := []
  rate : Int
  /-- Whether the file takes no data. -/
  full : Bool := false
  bytes : Bytes := #[]
  /-- Where in the file the next bytes go. -/
  position : Nat := 0
  /-- How many bytes were sent out, successfully or not. -/
  sent : Nat := 0
  headerTried : Bool := false
  dataStarted : Bool := false
  /-- Where the size of the samples goes; zero while there are none. -/
  sizeAt : Nat := 0
  encoded : Nat := 0
  samples : Nat := 0
  isOpen : Bool := true
  room : Room := {}
deriving Inhabited

namespace Recording

/-- A 32-bit word of a whole number, wrapping around. -/
def wordOf (n : Int) : UInt32 := UInt32.ofNat (n % UInt32.size).toNat

/-- A 16-bit word as two bytes, the lowest first. -/
def pair (n : Int) : Bytes :=
  let m := (n % 65536).toNat
  #[UInt8.ofNat (m % 256), UInt8.ofNat (m / 256)]

/-- The value that stands for a size that is not known yet. -/
def unknownSize : UInt32 := 42

/-- The first part of the header. -/
def header (rate : Int) : Bytes :=
  Utf8.encode "RIFF" ++ Bytes.ofWord unknownSize ++ Utf8.encode "WAVEfmt " ++ Bytes.ofWord 16
    ++ pair 1 ++ pair 1 ++ Bytes.ofWord (wordOf rate) ++ Bytes.ofWord (wordOf (rate * 2))
    ++ pair 2 ++ pair 16

def dataMark : Bytes := Utf8.encode "data"

/-- The value of a sample: clamped to one, scaled, and cut to a whole number. -/
def quantise (s : Float32) : Int :=
  if s.isNaN then 0
  else
    let c := if s > 1 then 1 else if s < -1 then -1 else s
    Binary.truncate (c * 32767).toFloat

/-- The bytes of quantised samples. -/
def encode (values : Array Int) : Bytes := values.foldl (fun b v => b ++ pair v) #[]

/-- Starts a recording in a new file. -/
def create (t : FileTree) (path : String) (rate : Int) : Except Fault (FileTree × Recording) :=
  match t.create path with
  | .error f => .error (.within ("failed to create recording " ++ path) f)
  | .ok (t, place) =>
    let full := match t.find? place with
      | some .fullDevice => true
      | _ => false
    .ok (t, { path, place, rate, full })

/-- Why the file takes no data, if it does not. -/
def obstacle? (r : Recording) : Option Errno :=
  if !r.isOpen then some .closed else if r.full then some .noSpace else none

def failure (r : Recording) (operation : String) (why : Errno) : Fault :=
  .system operation r.path why

/-- The bytes with data put in at a place; a gap before it is filled with zeros. -/
def patched (b : Bytes) (start : Nat) (data : Bytes) : Bytes :=
  if data.isEmpty then b
  else if start = b.size then b ++ data
  else
    Bytes.overwrite (if b.size < start + data.size then b.resize (start + data.size) else b) start
      data

/-- Sends data to the place in the file where the recording is. -/
def send (r : Recording) (b : Bytes) : Recording × Option Fault :=
  match r.obstacle? with
  | some why => (r, if b.isEmpty && r.isOpen then none else some (r.failure "write" why))
  | none =>
    ({ r with bytes := patched r.bytes r.position b, position := r.position + b.size }, none)

/-- Sends the header, unless something was sent before. -/
def startHeader (r : Recording) : Recording × Option Fault :=
  let r := { r with headerTried := true }
  if r.sent ≠ 0 then (r, none)
  else
    match r.send (header r.rate) with
    -- The first word of the header is lost on the way.
    | (r, some f) => ({ r with sent := 4 }, some f)
    | (r, none) => ({ r with sent := (header r.rate).size }, none)

/-- Sends the mark of the samples and the place for their size. -/
def startData (r : Recording) : Recording × Option Fault :=
  match r.send (dataMark ++ Bytes.ofWord unknownSize) with
  | (r, some f) =>
    ({ r with sent := r.sent + 4 }, some (.plain ("error encoding sound header " ++ f.message)))
  | (r, none) => ({ r with sent := r.sent + 8, sizeAt := r.sent + 4, dataStarted := true }, none)

/-- Sends quantised samples after what has to come before them. -/
def sendSamples (r : Recording) (values : Array Int) : Recording × Option Fault :=
  let (r, f) := if r.headerTried then (r, none) else r.startHeader
  match f with
  | some f => (r, some f)
  | none =>
    let (r, f) := if r.dataStarted then (r, none) else r.startData
    match f with
    | some f => (r, some f)
    | none =>
      let b := encode values
      let r := { r with encoded := r.encoded + values.size }
      match r.send b with
      | (r, some f) => (r, some f)
      | (r, none) => ({ r with sent := r.sent + b.size }, none)

def write (r : Recording) (ss : Array Float32) : Recording × Option Fault :=
  let quantised := Room.fill (Room.reserve r.room.quantised ss.size 0) (ss.map quantise)
  match { r with room := { r.room with quantised } }.sendSamples (quantised.extract 0 ss.size) with
  | (r, some f) => (r, some (.within "failed to write samples" f))
  | (r, none) => ({ r with samples := r.samples + ss.size }, none)

/-- Renders samples and records them; nothing happens unless their number is positive. -/
def capture (r : Recording) (m : Mixer) (n : Int) : Recording × Mixer × Option Fault :=
  if n ≤ 0 then (r, m, none)
  else
    let (m, ss) := m.render n.toNat
    let rendered := Room.fill (Room.reserve r.room.rendered n.toNat 0) ss
    let (r, f) := { r with room := { r.room with rendered } }.write (rendered.extract 0 n.toNat)
    (r, m, f)

/-- Puts the sizes in. -/
def putSizes (r : Recording) : Recording × Option Fault :=
  match r.obstacle? with
  | some .closed => (r, some (r.failure "seek" .closed))
  | some why =>
    ({ r with sent := r.sent + 4 },
      some (.plain ((r.failure "write" why).message ++ " when writing the total written bytes")))
  | none =>
    -- The four bytes of the size itself count as sent only afterwards.
    let r := { r with
      bytes := patched r.bytes 4 (Bytes.ofWord (wordOf ((r.sent : Int) - 8)))
      sent := r.sent + 4 }
    if r.sizeAt = 0 then (r, none)
    else
      ({ r with bytes := patched r.bytes r.sizeAt (Bytes.ofWord (wordOf (2 * r.encoded))) }, none)

def close (r : Recording) : Recording × Option Fault :=
  let (r, f) := r.putSizes
  let g := if r.isOpen then none else some (r.failure "close" .closed)
  ({ r with isOpen := false }, Fault.gather (f.toList ++ g.toList))

/-- Looks at what the file holds by now. -/
def reread (r : Recording) (t : FileTree) : Recording :=
  match t.find? r.place with
  | some (.file c) => { r with bytes := c.data }
  | _ => r

def flush (r : Recording) (t : FileTree) : FileTree :=
  if r.full then t else t.put r.place (.file (.bytes r.bytes))

end Recording
end GuestHost
