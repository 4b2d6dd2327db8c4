import RequestCredentials.Text.Basic
/-
  Internet addresses

  An address is written in one of two forms. The short form has four numbers
  below 256 between dots, in decimal digits without leading zeros. The long
  form has eight groups of up to four hexadecimal digits between colons; two
  colons in a row, once at most, stand for the groups that are missing, the
  last two groups may be a short address, and a zone may follow after a percent
  sign.
-/

namespace RequestCredentials.Url

/-! ## Short addresses -/

/-- A number of a short address. -/
def isOctet (s : Text) : Bool :=
  s ≠ [] && s.all (·.isDigit) && s.length ≤ 3 && (s = "0" || s.head? ≠ some (CodePoint.ofChar '0'))
    && Text.decimalValue s < 256

def isShortAddress (s : Text) : Bool :=
  let octets := s.splitOn '.'
  octets.length = 4 && octets.all isOctet

/-! ## Long addresses -/

/-- A group of a long address. -/
def isGroup (s : Text) : Bool := s ≠ [] && s.length ≤ 4 && s.all (·.hexDigit?.isSome)

/-- The parts with two groups in the place of a short address at the end. -/
def expandTail? (parts : List Text) : Option (List Text) :=
  match parts.getLast? with
  | none => some parts
  | some tail =>
    if !tail.contains (CodePoint.ofChar '.') then some parts
    else if isShortAddress tail then some (parts.dropLast ++ [Text.ofString "0", Text.ofString "0"])
    else none

/-- The groups on one side of two colons; at an end of the address one empty part stands there. -/
def sideGroups (parts : List Text) : List Text := if parts = [[]] then [] else parts

/-- The parts between colons make up eight groups. An empty part that is not at an end stands for
the groups that are missing, of which there is at least one. -/
def areGroups (parts : List Text) : Bool :=
  match (parts.drop 1).dropLast.findIdx? (· = []) with
  | none => parts.length = 8 && parts.all isGroup
  | some i =>
    let groups := sideGroups (parts.take (i + 1)) ++ sideGroups (parts.drop (i + 2))
    groups.length < 8 && groups.all isGroup

/-- A zone, unless there is none. -/
def isZone : Option Text → Bool
  | none => true
  | some zone => zone ≠ [] && !zone.contains (CodePoint.ofChar '%')

def isLongAddress (s : Text) : Bool :=
  let (address, zone) := Text.cut '%' s
  isZone zone &&
    match expandTail? (address.splitOn ':') with
    | none => false
    | some parts => areGroups parts

end RequestCredentials.Url
