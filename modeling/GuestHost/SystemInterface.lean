import GuestHost.Machine

/-! # The system interface

Guests built for a system interface write to their standard streams, end themselves and give up
their turn.  The functions are offered under a module name of their own, and only if the engine is
told to.

A write gathers spans of memory: the caller passes the address of a table of address and length
pairs.  The result of a write is a small error number, zero for success. -/

namespace GuestHost

/-- A function of the system interface. -/
inductive SystemFunction
  | exit
  | write
  | giveWay
deriving DecidableEq, Repr, Inhabited

namespace SystemFunction

/-- The module name under which the functions are imported. -/
def moduleName : String := "wasi_snapshot_preview1"

def all : List SystemFunction := [exit, write, giveWay]

def name : SystemFunction → String
  | exit => "proc_exit"
  | write => "fd_write"
  | giveWay => "sched_yield"

def ofName? (s : String) : Option SystemFunction := all.find? (·.name = s)

def arity : SystemFunction → Nat
  | exit => 1
  | write => 4
  | giveWay => 0

def answers : SystemFunction → Bool
  | exit => false
  | write | giveWay => true

/-- The error number for a stream that is not open. -/
def badStream : UInt32 := 8

/-- The error number for a span outside memory. -/
def badAddress : UInt32 := 21

/-- Appends to a standard stream.  The stream for input takes nothing. -/
def append (o : Output) (stream : UInt32) (b : Bytes) : Except UInt32 Output :=
  if stream = 1 then .ok { o with standard := o.standard ++ b }
  else if stream = 2 then .ok { o with error := o.error ++ b }
  else .error badStream

/-- The span at an address, if all of it is there. -/
def span? (b : Bytes) (address length : UInt32) : Option Bytes :=
  if address.toNat + length.toNat ≤ b.size then some (b.slice address.toNat length.toNat) else none

/-- Writes the spans that a table lists, one after the other, and adds up their lengths. -/
def gather (memory : Bytes) (stream : UInt32) : Nat → Nat → UInt32 → Output →
    Output × Except UInt32 UInt32
  | 0, _, written, o => (o, .ok written)
  | count + 1, table, written, o =>
    match memory.word? table, memory.word? (table + 4) with
    | some address, some length =>
      match span? memory address length with
      | none => (o, .error badAddress)
      | some b =>
        match append o stream b with
        | .error e => (o, .error e)
        | .ok o => gather memory stream count (table + 8) (written + length) o
    | _, _ => (o, .error badAddress)

/-- Writes to a stream and stores the number of bytes written. -/
def writeSpans (stream table count result : UInt32) : Exec UInt32 := fun m =>
  if 2 < stream then (.ok badStream, m)
  else
    match m.memory, m.bytes? with
    | some id, some memory =>
      -- The size of the table is a 32-bit number.
      let size := count <<< 3
      if memory.size < table.toNat + size.toNat then (.ok badAddress, m)
      else
        match gather memory stream (size.toNat / 8) table.toNat 0 m.output with
        | (output, .error e) => (.ok e, { m with output })
        | (output, .ok written) =>
          let m := { m with output }
          if result.toNat + 4 ≤ memory.size then
            (.ok 0, { m with heap := m.heap.write id result.toNat (Bytes.ofWord written) })
          else (.ok badAddress, m)
    | _, _ => (.error Ending.noMemory, m)

/-- Ends the guest.  The first way in which it was closed stays. -/
def endWith (code : UInt32) : Exec UInt32 := fun m =>
  (.error (.exit code), { m with closing := m.closing.or (some (.code code)) })

def run (f : SystemFunction) (args : List Operand) : Exec UInt32 :=
  let word (i : Nat) : UInt32 := ((args[i]?).map Operand.toWord).getD 0
  match f with
  | exit => endWith (word 0)
  | write => writeSpans (word 0) (word 1) (word 2) (word 3)
  | giveWay => pure 0

end SystemFunction
end GuestHost
