/-! # Letter case

Names of settings and of log levels are written in ASCII and hold in any letter case.  Two
characters beyond ASCII have a lower-case form in ASCII, so they count as letters of such names
too: the Kelvin sign and the dotted capital I. -/

namespace GuestHost.Case

/-- The lower-case form of a character, as far as it is one of ASCII. -/
def lower (c : Char) : Char :=
  if c = '\u212A' then 'k' else if c = '\u0130' then 'i' else c.toLower

/-- A text in lower case, as far as that is ASCII. -/
def lowerText (s : String) : String := String.ofList (s.toList.map lower)

end GuestHost.Case
