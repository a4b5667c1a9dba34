import HostedStreams.Pattern.Set
import HostedStreams.Text.Alphabetic

/-! Which texts are patterns that can be compiled. A text is read once from front to
back. Groups that are open are kept innermost first, each with what was read of it and
with the mode that is in force again behind it. Of what was read it matters how deep
it is nested and whether it asks for boundaries of words. -/
namespace HostedStreams.Pattern

/-- What matters of a piece of a pattern. -/
structure Part where
  depth : Nat := 0
  /-- Asks for a boundary of words of every script. -/
  boundary : Bool := false
  /-- Only sets the mode, so that nothing is there to repeat. -/
  setting : Bool := false

namespace Part

/-- The part one level deeper: a group of it, or a repetition. -/
def within (p : Part) : Part :=
  { depth := p.depth + 1, boundary := p.boundary }

/-- Several parts one level deeper. -/
def join (ps : List Part) : Part :=
  { depth := (ps.map depth).foldl max 0 + 1, boundary := ps.any boundary }

/-- Parts one behind the other. -/
def sequence : List Part → Part
  | [] => {}
  | [p] => p
  | ps => join ps

end Part

/-- A group whose closing parenthesis has not been reached. -/
structure OpenGroup where
  /-- The parts of the branch that is being read, latest first. -/
  parts : List Part := []
  /-- The branches in front of it. -/
  branches : List Part := []
  /-- The mode behind the group. -/
  after : Mode := {}

namespace OpenGroup

def add (p : Part) (g : OpenGroup) : OpenGroup :=
  { g with parts := p :: g.parts }

def nextBranch (g : OpenGroup) : OpenGroup :=
  { g with parts := [], branches := Part.sequence g.parts :: g.branches }

/-- All that was read of the group. -/
def whole (g : OpenGroup) : Part :=
  match g.branches with
  | [] => Part.sequence g.parts
  | branches => Part.join (Part.sequence g.parts :: branches)

/-- Repeats the last part, if there is one to repeat. -/
def repeatLast (g : OpenGroup) : Option OpenGroup :=
  match g.parts with
  | [] => none
  | p :: parts => if p.setting then none else some { g with parts := p.within :: parts }

end OpenGroup

/-- The part that an atom is. -/
def Atom.part (m : Mode) : Atom → Option Part
  | .literal l => if m.admits l then some {} else none
  | .shorthand negated => if m.admitsShorthand negated then some {} else none
  | .edge => some {}
  | .wordBoundary => some { boundary := m.unicode }

/-- The letters that set the mode. -/
def modeLetters : List Char :=
  ['i', 'm', 's', 'u', 'x', 'R', 'U', '-']

/-- Letters up to a colon or a closing parenthesis, which come back with the sign that
ended them. None comes twice, and the hyphen that turns letters off is not the last. -/
def readLetters (seen : List Char) : List Char → Option (List Char × Char × List Char)
  | [] => none
  | c :: rest =>
    if c == ':' || c == ')' then
      if seen.head? = some '-' then none else some (seen.reverse, c, rest)
    else if modeLetters.contains c && !seen.contains c then readLetters (c :: seen) rest
    else none

/-- Whether letters turn a mode on or off, or say nothing of it. -/
def setting? (letter : Char) (letters : List Char) : Option Bool :=
  if letters.contains letter then some ((letters.takeWhile (· != '-')).contains letter) else none

def Mode.set (letters : List Char) (m : Mode) : Mode :=
  { anyCase := (setting? 'i' letters).getD m.anyCase
    unicode := (setting? 'u' letters).getD m.unicode
    spaced := (setting? 'x' letters).getD m.spaced }

def isNameStart (c : Char) : Bool :=
  c == '_' || Text.isAlphabetic c

def isNamePart (c : Char) : Bool :=
  ['_', '.', '[', ']'].contains c || Text.isAlphanumeric c

/-- The name of a group, up to a closing angle bracket. -/
def readName (text : List Char) : Option (List Char × List Char) :=
  match text.takeWhile (· != '>'), text.dropWhile (· != '>') with
  | c :: name, _ :: rest =>
    if isNameStart c && name.all isNamePart then some (c :: name, rest) else none
  | _, _ => none

/-- What an opening parenthesis begins. -/
inductive Opening where
  | group
  | named (name : List Char)
  /-- A group that is read in a mode of its own. -/
  | moded (mode : Mode)
  /-- A mode for the rest of the group that is open. -/
  | setting (mode : Mode)

/-- What stands behind an opening parenthesis. Nothing can look ahead or behind. -/
def readOpening (m : Mode) (text : List Char) : Option (Opening × List Char) :=
  match m.skip text with
  | '?' :: '=' :: _ | '?' :: '!' :: _ | '?' :: '<' :: '=' :: _ | '?' :: '<' :: '!' :: _ => none
  | '?' :: 'P' :: '<' :: rest | '?' :: '<' :: rest =>
    (readName rest).map fun (name, rest) => (.named name, rest)
  | '?' :: rest =>
    match readLetters [] rest with
    | some (letters, ':', rest) => some (.moded (m.set letters), rest)
    | some ([], _, _) | none => none
    | some (letters, _, rest) => some (.setting (m.set letters), rest)
  | text => some (.group, text)

/-- Reads what is left of a pattern, with the names that groups have. A brace would
count repetitions, and nothing closes it. Every turn takes a character. -/
def readParts (m : Mode) (names : List (List Char)) :
    Nat → OpenGroup → List OpenGroup → List Char → Option Part
  | 0, _, _, _ => none
  | fuel + 1, g, outer, text =>
    match m.skip text with
    | [] => if outer.isEmpty then some g.whole else none
    | '(' :: rest =>
      match readOpening m rest with
      | none => none
      | some (.group, rest) => readParts m names fuel { after := m } (g :: outer) rest
      | some (.named name, rest) =>
        if names.contains name then none
        else readParts m (name :: names) fuel { after := m } (g :: outer) rest
      | some (.moded inner, rest) => readParts inner names fuel { after := m } (g :: outer) rest
      | some (.setting m, rest) => readParts m names fuel (g.add { setting := true }) outer rest
    | ')' :: rest =>
      match outer with
      | [] => none
      | next :: outer => readParts g.after names fuel (next.add g.whole.within) outer rest
    | '|' :: rest => readParts m names fuel g.nextBranch outer rest
    | '[' :: rest =>
      match openSet m rest with
      | none => none
      | some (s, rest) =>
        match readSet m (rest.length + 1) s [] rest with
        | none => none
        | some (depth, rest) => readParts m names fuel (g.add { depth }) outer rest
    | '\x7b' :: _ => none
    | '?' :: rest | '*' :: rest | '+' :: rest =>
      match g.repeatLast with
      | none => none
      | some g =>
        match rest with
        | '?' :: rest => readParts m names fuel g outer rest
        | rest => readParts m names fuel g outer rest
    | '.' :: rest => if m.unicode then readParts m names fuel (g.add {}) outer rest else none
    | '^' :: rest | '$' :: rest => readParts m names fuel (g.add {}) outer rest
    | text =>
      match readItem m text with
      | none => none
      | some (atom, rest) =>
        match atom.part m with
        | none => none
        | some p => readParts m names fuel (g.add p) outer rest

/-- How deep a pattern may be nested. -/
def maxDepth : Nat := 250

/-- Why a text is no pattern that can be compiled, if it is none. -/
def check (text : List Char) : Except PatternError Unit :=
  match readParts {} [] (text.length + 1) {} [] text with
  | none => .error .malformed
  | some p =>
    if p.depth > maxDepth then .error .malformed
    else if p.boundary then .error .wordBoundary
    else .ok ()

end HostedStreams.Pattern
