import GuestHost.Memory

/-! # Guest modules

A guest module in decoded form: what it imports, the memory it starts with, and its exported
functions as short programs.

* **Imports** are functions of the host or of the system interface.
* **Instructions** (`Instr`) call imports, read and write 32-bit words of memory, grow it, branch,
  trap, or never end.
* **Contents of files** (`Content`) are plain bytes or a module.  Among plain bytes only the bare
  header is a module, the one without any parts. -/

namespace GuestHost

/-- A function that a module imports. -/
structure Import where
  module : String
  name : String
deriving DecidableEq, Repr, Inhabited

/-- An argument of a call. -/
inductive Operand
  | word (w : UInt32)
  | real (x : Float)
deriving Inhabited

/-- The word of an argument, zero for a real. -/
def Operand.toWord : Operand → UInt32
  | word w => w
  | real _ => 0

/-- The real of an argument, zero for a word. -/
def Operand.toReal : Operand → Float
  | real x => x
  | word _ => 0

/-- An instruction of a guest function. -/
inductive Instr
  /-- Calls an import and drops its result. -/
  | call (f : Import) (args : List Operand)
  /-- Calls an import and stores its result. -/
  | store (address : UInt32) (f : Import) (args : List Operand)
  | set (address value : UInt32)
  | increment (address : UInt32)
  /-- Grows the memory and stores the old number of pages, or all ones when it cannot grow. -/
  | grow (address pages : UInt32)
  /-- Runs the body if an import answers a number other than zero. -/
  | ifCall (f : Import) (body : List Instr)
  /-- Runs the body if a word has a value. -/
  | ifEqual (address value : UInt32) (body : List Instr)
  | trap
  | spin
deriving Inhabited

/-- What a function returns. -/
inductive Result
  | nothing
  | answer (f : Import)
  | word (address : UInt32)
deriving Inhabited

/-- An exported function. -/
structure Function where
  body : List Instr := []
  result : Result := .nothing
deriving Inhabited

/-- A guest module. -/
structure Module where
  imports : List Import := []
  /-- The number of memory pages at the start; `none` for a module without memory. -/
  pages : Option Nat := none
  /-- Bytes put into memory at the start. -/
  data : List (UInt32 × Bytes) := []
  exports : List (String × Function) := []
deriving Inhabited

def pageSize : Nat := 65536

namespace Module

def function? (m : Module) (name : String) : Option Function := m.exports.lookup name

def hasExport (m : Module) (name : String) : Bool := (m.function? name).isSome

/-- The memory at the start, data in place; `none` when some data does not fit. -/
def initialMemory? (m : Module) (pages : Nat) : Option Bytes :=
  m.data.foldl
    (fun acc (address, d) => do
      let b ← acc
      if address.toNat + d.size ≤ b.size then some (Bytes.overwrite b address.toNat d) else none)
    (some (Array.replicate (pages * pageSize) 0))

/-- The header that every module starts with. -/
def header : Bytes := #[0x00, 0x61, 0x73, 0x6D, 0x01, 0x00, 0x00, 0x00]

end Module

/-- What a regular file holds. -/
inductive Content
  | bytes (b : Bytes)
  | module (m : Module)
deriving Inhabited

namespace Content

/-- The bytes of a file; a module shows its header. -/
def data : Content → Bytes
  | bytes b => b
  | module _ => Module.header

def module? : Content → Option Module
  | bytes b => if b = Module.header then some {} else none
  | module m => some m

end Content
end GuestHost
