import HostedStreams.Json.Reader
import HostedStreams.Text.Blank

/-! Regular expressions, as far as it takes to tell which of them can be compiled.
Tables of Unicode are not at hand, so a pattern can name no class of characters of
every script and can ignore no case there, and no pattern may match bytes that are
not text. Here are the pieces that patterns are made of. -/
namespace HostedStreams

/-- Why a pattern cannot be compiled. -/
inductive PatternError where
  | malformed
  /-- It asks for a boundary of words of every script. -/
  | wordBoundary
  deriving DecidableEq

namespace PatternError

def message : PatternError → String
  | .malformed => "error building NFA"
  | .wordBoundary =>
    "unsupported regex feature for DFAs: cannot build DFAs for regexes with Unicode word " ++
      "boundaries; switch to ASCII word boundaries, or heuristically enable Unicode word " ++
      "boundaries or use a different regex engine"

end PatternError

namespace Pattern

/-- How what follows is read. -/
structure Mode where
  /-- Letters stand for both of their cases. -/
  anyCase : Bool := false
  /-- Characters are matched rather than bytes. -/
  unicode : Bool := true
  /-- Blanks and comments between the pieces are left out. -/
  spaced : Bool := false

/-- A character that stands for itself, or a byte that is written by its number. -/
structure Literal where
  char : Char
  byte : Bool := false

/-- A piece without pieces of its own. -/
inductive Atom where
  | literal (l : Literal)
  /-- Digits, blanks or word characters, or all others. -/
  | shorthand (negated : Bool)
  /-- The edge of a line or of the text. -/
  | edge
  | wordBoundary

/-- Leaves out blanks, and comments from a number sign to the end of the line. -/
def skipSpace (inComment : Bool) : List Char → List Char
  | [] => []
  | c :: rest =>
    if inComment then skipSpace (c != '\n') rest
    else if c == '#' then skipSpace true rest
    else if Text.isBlank c then skipSpace false rest
    else c :: rest

namespace Mode

def skip (m : Mode) (text : List Char) : List Char :=
  if m.spaced then skipSpace false text else text

/-- A byte of more than seven bits is no text. -/
def isText (m : Mode) (l : Literal) : Bool :=
  m.unicode || !l.byte || l.char.toNat < 0x80

/-- Whether a literal can stand in a sequence. -/
def admits (m : Mode) (l : Literal) : Bool :=
  m.isText l && !(m.unicode && m.anyCase)

/-- Whether a literal can be in a set. A set of bytes has characters of ASCII only. -/
def admitsInSet (m : Mode) (l : Literal) : Bool :=
  m.admits l && (m.unicode || l.char.toNat < 0x80)

/-- Whether there can be a set, or the set of all others. Other bytes are not all text. -/
def admitsSet (m : Mode) (negated : Bool) : Bool :=
  m.unicode || !negated

/-- Whether a class of digits, blanks or word characters is known. -/
def admitsShorthand (m : Mode) (negated : Bool) : Bool :=
  !m.unicode && !negated

end Mode

/-- The number that so many hexadecimal digits write. -/
def readHex (m : Mode) : Nat → Nat → List Char → Option (Nat × List Char)
  | 0, n, text => some (n, text)
  | digits + 1, n, text =>
    match m.skip text with
    | [] => none
    | c :: rest => do readHex m digits (n * 16 + (← Json.hexValue? c)) rest

/-- A character by its number in so many digits. -/
def readCode (m : Mode) (digits : Nat) (text : List Char) : Option (Atom × List Char) := do
  let (n, rest) ← readHex m digits 0 text
  if n.isValidChar then return (.literal { char := Char.ofNat n, byte := digits == 2 }, rest)
  else none

/-- The letters that stand for controls behind a backslash. -/
def control? : Char → Option Char
  | 'a' => some '\x07'
  | 'f' => some '\x0c'
  | 'n' => some '\n'
  | 'r' => some '\r'
  | 't' => some '\t'
  | 'v' => some '\x0b'
  | _ => none

/-- What stands behind a backslash. A brace behind a boundary would name a kind of
it, or count it. -/
def readEscape (m : Mode) : List Char → Option (Atom × List Char)
  | [] => none
  | 'x' :: rest => readCode m 2 rest
  | 'u' :: rest => readCode m 4 rest
  | 'U' :: rest => readCode m 8 rest
  | 'b' :: '\x7b' :: _ => none
  | c :: rest =>
    if ['d', 's', 'w'].contains c then some (.shorthand false, rest)
    else if ['D', 'S', 'W'].contains c then some (.shorthand true, rest)
    else if ['b', 'B', '<', '>'].contains c then some (.wordBoundary, rest)
    else if ['A', 'z'].contains c then some (.edge, rest)
    else match control? c with
      | some control => some (.literal { char := control }, rest)
      | none =>
        if c.toNat < 0x80 && !c.isAlphanum then some (.literal { char := c }, rest) else none

end Pattern
end HostedStreams
