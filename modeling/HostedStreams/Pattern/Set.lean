import HostedStreams.Pattern

/-! Sets of characters in brackets. Sets can hold sets, and two signs between them
take what both have, what only the first has, or what only one has. Of a set it
matters whether it is well formed and how deep it is nested. -/
namespace HostedStreams.Pattern

/-- A set whose closing bracket has not been reached. -/
structure OpenSet where
  /-- How deep the items behind the last operator are nested. -/
  items : List Nat := []
  /-- How deep what stands in front of the last operator is nested. -/
  left : Option Nat := none
  /-- Nothing or only hyphens behind the bracket: what closes a set or takes part in a
  range stands for itself. -/
  fresh : Bool := true

namespace OpenSet

def add (item : Nat) (s : OpenSet) : OpenSet :=
  { s with items := item :: s.items, fresh := false }

/-- How deep the items are nested; several of them are a union. -/
def itemsDepth (s : OpenSet) : Nat :=
  match s.items with
  | [] => 0
  | [item] => item
  | items => items.foldl max 0 + 1

/-- How deep all that was read is nested. -/
def depth (s : OpenSet) : Nat :=
  match s.left with
  | none => s.itemsDepth
  | some left => max left s.itemsDepth + 1

/-- An operator takes all in front of it as its first set. -/
def operator (s : OpenSet) : OpenSet :=
  { items := [], left := some s.depth, fresh := false }

end OpenSet

/-- The classes of ASCII that have names. -/
def setNames : List String :=
  ["alnum", "alpha", "ascii", "blank", "cntrl", "digit", "graph", "lower", "print", "punct",
    "space", "upper", "word", "xdigit"]

/-- A class by its name, behind its opening bracket, and whether it is negated. -/
def readNamedSet : List Char → Option (Bool × List Char)
  | ':' :: rest =>
    let (negated, rest) := match rest with
      | '^' :: rest => (true, rest)
      | _ => (false, rest)
    match rest.dropWhile (· != ':') with
    | ':' :: ']' :: behind =>
      if setNames.contains (String.ofList (rest.takeWhile (· != ':'))) then some (negated, behind)
      else none
    | _ => none
  | _ => none

/-- The beginning of a set behind its opening bracket. -/
def openSet (m : Mode) (text : List Char) : Option (OpenSet × List Char) :=
  let (negated, text) := match m.skip text with
    | '^' :: rest => (true, rest)
    | text => (false, text)
  if m.admitsSet negated then some ({}, text) else none

/-- A character or a shorthand. -/
def readItem (m : Mode) : List Char → Option (Atom × List Char)
  | [] => none
  | '\\' :: rest => readEscape m rest
  | c :: rest => some (.literal { char := c }, rest)

/-- Whether an atom can be in a set. -/
def isMember (m : Mode) : Atom → Bool
  | .literal l => m.admitsInSet l
  | .shorthand negated => m.admitsShorthand negated
  | .edge | .wordBoundary => false

/-- Goes behind an item or a range. A hyphen in front of a closing bracket or of
another hyphen makes no range. -/
def readMember (m : Mode) (text : List Char) : Option (List Char) := do
  let (first, rest) ← readItem m text
  let rest := m.skip rest
  match rest with
  | '-' :: behind =>
    match m.skip behind with
    | ']' :: _ | '-' :: _ => if isMember m first then some rest else none
    | behind =>
      match first, ← readItem m behind with
      | .literal a, (.literal b, rest) =>
        if a.char ≤ b.char && m.admitsInSet a && m.admitsInSet b then some rest else none
      | _, _ => none
  | _ => if isMember m first then some rest else none

/-- Goes behind the bracket that closes the outermost set and tells how deep that set
is nested. Every turn takes a character. -/
def readSet (m : Mode) : Nat → OpenSet → List OpenSet → List Char → Option (Nat × List Char)
  | 0, _, _, _ => none
  | fuel + 1, s, outer, text =>
    match s.fresh, m.skip text with
    | _, [] => none
    | true, '-' :: rest =>
      if m.admitsInSet { char := '-' } then
        readSet m fuel { s with items := 0 :: s.items } outer rest
      else none
    | fresh, ']' :: rest =>
      if fresh && s.items.isEmpty then
        if m.admitsInSet { char := ']' } then readSet m fuel (s.add 0) outer rest else none
      else match outer with
        | [] => some (s.depth + 1, rest)
        | next :: outer => readSet m fuel (next.add (s.depth + 1)) outer rest
    | _, '[' :: rest =>
      match readNamedSet rest with
      | some (negated, rest) =>
        if m.admitsSet negated && !(m.unicode && m.anyCase) then
          readSet m fuel (s.add 0) outer rest
        else none
      | none =>
        match openSet m rest with
        | some (inner, rest) => readSet m fuel inner (s :: outer) rest
        | none => none
    | _, '&' :: '&' :: rest | _, '-' :: '-' :: rest | _, '~' :: '~' :: rest =>
      readSet m fuel s.operator outer rest
    | _, text =>
      match readMember m text with
      | some rest => readSet m fuel (s.add 0) outer rest
      | none => none

end HostedStreams.Pattern
