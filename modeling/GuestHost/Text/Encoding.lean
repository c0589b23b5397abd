import GuestHost.Text.Utf8

/-! # Encodings of texts

A text is written in eight-bit or in sixteen-bit units.  A mark at its front tells which
(`Encoding.ofFront`); without a mark the units have eight bits.

* `Encoding.front` gives the character at the front of some bytes, and keeps apart bytes that are
  no character and bytes that end within one.
* `Encoding.lossy` reads a whole text and puts the replacement character for what is none. -/

namespace GuestHost

/-- How bytes stand for characters. -/
inductive Encoding
  | utf8
  | utf16 (bigEndian : Bool)
deriving DecidableEq, Repr

/-- The encoding of a text, how long its mark is, and what follows the mark. -/
def Encoding.ofFront (bs : List UInt8) : Encoding × Nat × List UInt8 :=
  match bs with
  | 0xFF :: 0xFE :: r => (utf16 false, 2, r)
  | 0xFE :: 0xFF :: r => (utf16 true, 2, r)
  | 0xEF :: 0xBB :: 0xBF :: r => (utf8, 3, r)
  | _ => (utf8, 0, bs)

/-- What stands at the front of some bytes. -/
inductive Front
  | char (c : Char) (rest : List UInt8)
  /-- The beginning of a character. -/
  | cut
  | bad

/-- How many bytes a character takes by its first byte; zero when none starts so. -/
def Utf8.leadWidth (b : UInt8) : Nat :=
  if b < 0x80 then 1
  else if 0xC0 ≤ b && b < 0xE0 then 2
  else if 0xE0 ≤ b && b < 0xF0 then 3
  else if 0xF0 ≤ b && b < 0xF8 then 4
  else 0

/-- A number of sixteen bits. -/
def unit16 (bigEndian : Bool) (a b : UInt8) : Nat :=
  if bigEndian then a.toNat * 256 + b.toNat else b.toNat * 256 + a.toNat

/-- The character at the front of some bytes. -/
def Encoding.front (e : Encoding) (bs : List UInt8) : Front :=
  match e with
  | utf8 =>
    match bs with
    | [] => .cut
    | b :: _ =>
      if Utf8.leadWidth b = 0 then .bad
      else if (bs.take 4).length < Utf8.leadWidth b then .cut
      else
        match Utf8.scalar? bs with
        | some (c, r) => .char c r
        | none => .bad
  | utf16 big =>
    match bs with
    | a :: b :: r =>
      let high := unit16 big a b
      if 0xDC00 ≤ high && high < 0xE000 then .bad
      else if high < 0xD800 || 0xE000 ≤ high then .char (Char.ofNat high) r
      else
        match r with
        | c :: d :: r =>
          let low := unit16 big c d
          if 0xDC00 ≤ low && low < 0xE000 then
            .char (Char.ofNat (0x10000 + (high - 0xD800) * 0x400 + (low - 0xDC00))) r
          else .bad
        | _ => .cut
    | _ => .cut

/-- The characters of some bytes, the replacement character standing for what is none.  `fuel`
bounds their number. -/
def Encoding.lossyFrom (e : Encoding) : Nat → List UInt8 → List Char
  | 0, _ => []
  | fuel + 1, bs =>
    match bs with
    | [] => []
    | _ :: r =>
      match e.front bs with
      | .char c rest => c :: e.lossyFrom fuel rest
      | _ =>
        let unit := match e with
          | utf8 => r
          | utf16 _ => r.drop 1
        '\uFFFD' :: e.lossyFrom fuel unit

/-- The characters of a text in the encoding that its mark tells. -/
def Encoding.lossy (b : Bytes) : List Char :=
  let (e, _, bs) := ofFront b.toList
  e.lossyFrom b.size bs

end GuestHost
