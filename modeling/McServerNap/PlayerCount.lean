import Mathlib.Algebra.Group.Nat.Defs

/-!
# Reading the player count out of an RCON `list` reply

The reply is free text. The count is believed only when the whole fixed frame
around it is present and both numbers are unsigned 32-bit literals; anything else
is unknown, which the caller never treats as zero.
-/

namespace McServerNap

/-- `str::strip_prefix`. -/
def stripPrefix (opening text : List Char) : Option (List Char) :=
  if opening.isPrefixOf text then some (text.drop opening.length) else none

/-- `str::split_once`: the parts around the first occurrence of the delimiter. -/
def splitOnce (delimiter : List Char) : List Char → Option (List Char × List Char)
  | [] => if delimiter.isEmpty then some ([], []) else none
  | letter :: rest =>
    if delimiter.isPrefixOf (letter :: rest) then
      some ([], (letter :: rest).drop delimiter.length)
    else
      (splitOnce delimiter rest).map fun parts => (letter :: parts.1, parts.2)

/-- The digits of a `u32` literal read from the left. A character other than an
ASCII digit and a value beyond 32 bits are errors. -/
def readDigits : Nat → List Char → Option Nat
  | value, [] => some value
  | value, letter :: rest =>
    if '0' ≤ letter ∧ letter ≤ '9' then
      let next := value * 10 + (letter.toNat - '0'.toNat)
      if next < 2 ^ 32 then readDigits next rest else none
    else none

/-- `u32::from_str`: an optional plus sign and at least one digit. -/
def parseU32 : List Char → Option Nat
  | [] => none
  | letter :: rest =>
    if letter = '+' then
      if rest.isEmpty then none else readDigits 0 rest
    else readDigits 0 (letter :: rest)

/-- `parse_player_count`. -/
def parsePlayerCount (response : List Char) : Option Nat := do
  let response ← stripPrefix "There are ".toList response
  let (playerCount, response) ← splitOnce " of a max of ".toList response
  let (maxPlayers, _) ← splitOnce " players online:".toList response
  let _ ← parseU32 maxPlayers
  parseU32 playerCount

/-- `observed_player_count`: an unreadable reply is unknown, not empty. -/
def observedPlayerCount (response : List Char) : Option Nat := parsePlayerCount response

example : parsePlayerCount "There are 0 of a max of 20 players online: ".toList = some 0 := by
  decide

end McServerNap
