/-! # Strict UTF-8

Guests hand text to the host as spans of bytes.  The text of a span is the sequence of Unicode
scalar values whose encodings, put one after the other, are exactly the bytes of the span.

* **One scalar value** (`scalar?`).  The encoding at the front of a byte list, if there is one.
  Overlong forms, surrogates, values above `U+10FFFF`, stray continuation bytes and truncated
  tails have none.
* **A whole span** (`scan`, `decode`).  The longest initial part that is text, and what is left.
  `decode` answers the text when nothing is left and otherwise the offset of the first byte that
  belongs to no character.

A byte-order mark at the front is a character like any other and stays in the text. -/

namespace GuestHost

/-- A finite sequence of bytes: file contents, artifact contents and memory buffers. -/
abbrev Bytes := Array UInt8

namespace Utf8

/-- A continuation byte: `10xxxxxx`. -/
def isContinuation (b : UInt8) : Bool := 0x80 ≤ b && b < 0xC0

/-- The payload of a continuation byte. -/
def low (b : UInt8) : Nat := b.toNat - 0x80

def pair? (b c : UInt8) : Option Char :=
  if isContinuation c then some (Char.ofNat ((b.toNat - 0xC0) * 64 + low c)) else none

/-- The scalar value of a three-byte encoding: not below `U+0800` and no surrogate. -/
def triple? (b c d : UInt8) : Option Char :=
  let n := (b.toNat - 0xE0) * 4096 + low c * 64 + low d
  if isContinuation c && isContinuation d && 0x800 ≤ n && !(0xD800 ≤ n && n < 0xE000) then
    some (Char.ofNat n)
  else none

/-- The scalar value of a four-byte encoding: between `U+10000` and `U+10FFFF`. -/
def quad? (b c d e : UInt8) : Option Char :=
  let n := (b.toNat - 0xF0) * 262144 + low c * 4096 + low d * 64 + low e
  if isContinuation c && isContinuation d && isContinuation e && 0x10000 ≤ n && n < 0x110000 then
    some (Char.ofNat n)
  else none

/-- The scalar value encoded at the front of the bytes, with the bytes after it. -/
def scalar? : List UInt8 → Option (Char × List UInt8)
  | [] => none
  | b :: r =>
    if b < 0x80 then some (Char.ofNat b.toNat, r)
    else if b < 0xC2 then none
    else if b < 0xE0 then
      match r with
      | c :: r' => (pair? b c).map (·, r')
      | _ => none
    else if b < 0xF0 then
      match r with
      | c :: d :: r' => (triple? b c d).map (·, r')
      | _ => none
    else if b < 0xF5 then
      match r with
      | c :: d :: e :: r' => (quad? b c d e).map (·, r')
      | _ => none
    else none

/-- A character takes at least one byte. -/
theorem length_lt_of_scalar? {bs r : List UInt8} {c : Char} (h : scalar? bs = some (c, r)) :
    r.length < bs.length := by
  unfold scalar? at h
  repeat' split at h
  all_goals
    simp only [reduceCtorEq, Option.some.injEq, Prod.mk.injEq, Option.map_eq_some_iff] at h
  · obtain ⟨-, rfl⟩ := h; simp
  all_goals
    obtain ⟨_, _, _, rfl⟩ := h
    simp only [List.length_cons]
    omega

/-- Reads characters until none is left or the next bytes are no character. -/
def scan (acc : List Char) (bs : List UInt8) : List Char × List UInt8 :=
  match _h : scalar? bs with
  | none => (acc.reverse, bs)
  | some (c, r) => scan (c :: acc) r
termination_by bs.length
decreasing_by exact length_lt_of_scalar? (by assumption)

/-- The characters of a text span, or the offset of the first byte that is in no character. -/
def decode (bs : List UInt8) : Except Nat (List Char) :=
  match scan [] bs with
  | (cs, []) => .ok cs
  | (_, rest) => .error (bs.length - rest.length)

/-- The text of a byte sequence, if it is text. -/
def text? (b : Bytes) : Option String :=
  match decode b.toList with
  | .ok cs => some (String.ofList cs)
  | .error _ => none

def encode (s : String) : Bytes := s.toUTF8.data

/-- Reads characters and puts the replacement character `U+FFFD` for every byte that is in
none.  Used where a foreign byte sequence has to be shown or typed text is taken as it comes. -/
def lossyGo (acc : List Char) (bs : List UInt8) : List Char :=
  match _h : scalar? bs with
  | some (c, r) => lossyGo (c :: acc) r
  | none =>
    match bs with
    | [] => acc.reverse
    | _ :: r => lossyGo ('\uFFFD' :: acc) r
termination_by bs.length
decreasing_by
  · exact length_lt_of_scalar? (by assumption)
  · simp

/-- The text of a byte sequence with bad bytes replaced. -/
def lossy (b : List UInt8) : String := String.ofList (lossyGo [] b)

end Utf8
end GuestHost
