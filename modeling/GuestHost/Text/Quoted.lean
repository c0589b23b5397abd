import GuestHost.Text.Printable

/-! # Double-quoted text in messages

Messages show foreign text between double quotes.  Characters that print stand for themselves, a
quote and a backslash get a backslash, control characters have their usual short names or a
hexadecimal escape, and characters that do not print are written by number. -/

namespace GuestHost.Quoted

/-- Hexadecimal digits, padded with zeros to a width. -/
def hex (width n : Nat) : List Char :=
  let ds := Nat.toDigits 16 n
  List.replicate (width - ds.length) '0' ++ ds

/-- A character as it is written between the quotes. -/
def escape (c : Char) : List Char :=
  if c = '"' then ['\\', '"']
  else if c = '\\' then ['\\', '\\']
  else if Printable.isPrintable c then [c]
  else
    let n := c.toNat
    if n = 7 then ['\\', 'a']
    else if n = 8 then ['\\', 'b']
    else if n = 9 then ['\\', 't']
    else if n = 10 then ['\\', 'n']
    else if n = 11 then ['\\', 'v']
    else if n = 12 then ['\\', 'f']
    else if n = 13 then ['\\', 'r']
    else if n < 0x80 then '\\' :: 'x' :: hex 2 n
    else if n < 0x10000 then '\\' :: 'u' :: hex 4 n
    else '\\' :: 'U' :: hex 8 n

/-- The text between double quotes. -/
def quote (s : String) : String :=
  String.ofList ('"' :: (s.toList.flatMap escape ++ ['"']))

end GuestHost.Quoted
