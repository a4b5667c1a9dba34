import HostedStreams.Json
import HostedStreams.Text.Decimal
import HostedStreams.Text.Rounding

/-! Strict reading of JSON text: one value, blanks around it, and nothing else.
No comments, no trailing commas, no byte order mark, no leading zeros. The
reader works on the list of characters that are left, and recursion is bounded
by their number, since every value takes at least one of them. -/
namespace HostedStreams.Json

open Text (digitsValue)

def isBlank (c : Char) : Bool :=
  c == ' ' || c == '\n' || c == '\t' || c == '\r'

def skipBlanks (text : List Char) : List Char :=
  text.dropWhile isBlank

def hexValue? (c : Char) : Option Nat :=
  if '0' ≤ c ∧ c ≤ '9' then some (c.toNat - '0'.toNat)
  else if 'a' ≤ c ∧ c ≤ 'f' then some (c.toNat - 'a'.toNat + 10)
  else if 'A' ≤ c ∧ c ≤ 'F' then some (c.toNat - 'A'.toNat + 10)
  else none

/-- A 16-bit unit, most significant digit first. -/
def unit? (a b c d : Char) : Option Nat := do
  return (((← hexValue? a) * 16 + (← hexValue? b)) * 16 + (← hexValue? c)) * 16 + (← hexValue? d)

/-- What the characters between two quotes stand for: a character written as
itself or by a short escape, or a 16-bit unit written by a long one. -/
inductive Piece where
  | char (c : Char)
  | unit (u : Nat)

def shortEscape? : Char → Option Char
  | '"' => some '"'
  | '\\' => some '\\'
  | '/' => some '/'
  | 'b' => some '\x08'
  | 'f' => some '\x0c'
  | 'n' => some '\n'
  | 'r' => some '\r'
  | 't' => some '\t'
  | _ => none

/-- The pieces up to the closing quote, and the text behind it. -/
def readPieces : List Char → Option (List Piece × List Char)
  | [] => none
  | '"' :: rest => some ([], rest)
  | '\\' :: 'u' :: a :: b :: c :: d :: rest => do
    let u ← unit? a b c d
    let (pieces, rest) ← readPieces rest
    return (.unit u :: pieces, rest)
  | '\\' :: e :: rest => do
    let c ← shortEscape? e
    let (pieces, rest) ← readPieces rest
    return (.char c :: pieces, rest)
  | c :: rest =>
    if c.toNat < 0x20 then none
    else do
      let (pieces, rest) ← readPieces rest
      return (.char c :: pieces, rest)

/-- The characters of the pieces. A unit of the surrogate range needs its other
half beside it. -/
def joinPieces : List Piece → Option (List Char)
  | [] => some []
  | .char c :: rest => (joinPieces rest).map (c :: ·)
  | .unit u :: rest =>
    if u < 0xd800 ∨ 0xe000 ≤ u then (joinPieces rest).map (Char.ofNat u :: ·)
    else match rest with
      | .unit v :: rest =>
        if u < 0xdc00 ∧ 0xdc00 ≤ v ∧ v < 0xe000 then
          (joinPieces rest).map (Char.ofNat (0x10000 + (u - 0xd800) * 0x400 + (v - 0xdc00)) :: ·)
        else none
      | _ => none

/-- The text behind an opening quote; `none` inside stands for unpaired surrogates. -/
def readText (text : List Char) : Option (Option String × List Char) :=
  (readPieces text).map fun (pieces, rest) => ((joinPieces pieces).map String.ofList, rest)

/-- Integer digits: a single zero or a numeral without leading zeros. -/
def readWhole (text : List Char) : Option (List Char × List Char) :=
  match text.takeWhile Char.isDigit with
  | [] => none
  | '0' :: _ => some (['0'], text.drop 1)
  | digits => some (digits, text.dropWhile Char.isDigit)

/-- One or more digits. -/
def readDigits (text : List Char) : Option (List Char × List Char) :=
  match text.takeWhile Char.isDigit with
  | [] => none
  | digits => some (digits, text.dropWhile Char.isDigit)

/-- The digits behind a point; no point, no digits. -/
def readFraction : List Char → Option (List Char × List Char)
  | '.' :: rest => readDigits rest
  | text => some ([], text)

/-- The sign and digits behind an exponent mark; no mark, no digits. -/
def readExponent : List Char → Option (Bool × List Char × List Char)
  | 'e' :: rest | 'E' :: rest =>
    match rest with
    | '-' :: rest => (readDigits rest).map fun (ds, rest) => (true, ds, rest)
    | '+' :: rest => (readDigits rest).map fun (ds, rest) => (false, ds, rest)
    | rest => (readDigits rest).map fun (ds, rest) => (false, ds, rest)
  | text => some (false, [], text)

/-- Reads digits behind a significand as long as it fits 64 bits, and tells how many
digits are left then. -/
def significand (start : Nat) : List Char → Nat × Nat
  | [] => (start, 0)
  | c :: rest =>
    let next := start * 10 + (c.toNat - '0'.toNat)
    if next < UInt64.size then significand next rest else (start, rest.length + 1)

/-- Whether `mantissa * 10 ^ exponent` is a finite float when both factors are rounded
to floats and then their product. No power of ten above the 308th is a float. -/
def finite (mantissa : Nat) (exponent : Int) : Bool :=
  mantissa = 0 || exponent < 0 ||
    (exponent ≤ 308 &&
      Text.nearestFloat mantissa * Text.nearestFloat (Nat.pow 10 exponent.toNat) < Text.overflow)

/-- Whether a number has a finite value. Digits that the significand has no room for
count only as places. -/
def inRange (whole fraction : List Char) (exponent : Int) : Bool :=
  let (m, places) := significand 0 whole
  let (m, unread) := significand m fraction
  finite m (exponent + places - (fraction.length - unread))

/-- A number in front of other text. -/
def readNumber (text : List Char) : Option (Json × List Char) := do
  let (negative, text) := match text with
    | '-' :: rest => (true, rest)
    | _ => (false, text)
  let (whole, text) ← readWhole text
  let (fraction, text) ← readFraction text
  let (down, power, text) ← readExponent text
  let exponent : Int := if down then -(digitsValue power : Int) else digitsValue power
  let value :=
    if !inRange whole fraction exponent then .unreadable
    else if fraction.isEmpty && power.isEmpty && !(negative && whole == ['0']) then
      .int (if negative then -(digitsValue whole : Int) else digitsValue whole)
    else
      let sign := if negative then ['-'] else []
      let tail := if power.isEmpty then [] else ('e' :: if down then '-' :: power else power)
      .real (String.ofList
        (sign ++ whole ++ (if fraction.isEmpty then [] else '.' :: fraction) ++ tail))
  return (value, text)

mutual

/-- One value in front of other text. -/
def readValue : Nat → List Char → Option (Json × List Char)
  | 0, _ => none
  | fuel + 1, text =>
    match text with
    | 'n' :: 'u' :: 'l' :: 'l' :: rest => some (.null, rest)
    | 't' :: 'r' :: 'u' :: 'e' :: rest => some (.bool true, rest)
    | 'f' :: 'a' :: 'l' :: 's' :: 'e' :: rest => some (.bool false, rest)
    | '"' :: rest =>
      (readText rest).map fun (s, rest) => ((s.map Json.str).getD .unreadable, rest)
    | '[' :: rest =>
      match skipBlanks rest with
      | ']' :: rest => some (.arr [], rest)
      | rest => (readItems fuel rest).map fun (items, rest) => (.arr items, rest)
    | '{' :: rest =>
      match skipBlanks rest with
      | '}' :: rest => some (.obj [], rest)
      | rest => (readMembers fuel rest).map fun (members, rest) =>
          ((members.map Json.obj).getD .unreadable, rest)
    | _ => readNumber text

/-- The items of an array, from the first one to behind the closing bracket. -/
def readItems : Nat → List Char → Option (List Json × List Char)
  | 0, _ => none
  | fuel + 1, text => do
    let (item, text) ← readValue fuel text
    match skipBlanks text with
    | ']' :: rest => return ([item], rest)
    | ',' :: rest =>
      let (items, rest) ← readItems fuel (skipBlanks rest)
      return (item :: items, rest)
    | _ => none

/-- The members of an object, from the first name to behind the closing brace.
An unreadable name makes the whole object unreadable. -/
def readMembers : Nat → List Char → Option (Option (List (String × Json)) × List Char)
  | 0, _ => none
  | fuel + 1, text =>
    match text with
    | '"' :: rest => do
      let (name, rest) ← readText rest
      match skipBlanks rest with
      | ':' :: rest =>
        let (value, rest) ← readValue fuel (skipBlanks rest)
        let member := name.map (·, value)
        match skipBlanks rest with
        | '}' :: rest => return (member.map ([·]), rest)
        | ',' :: rest =>
          let (members, rest) ← readMembers fuel (skipBlanks rest)
          return (member.bind fun m => members.map (m :: ·), rest)
        | _ => none
      | _ => none
    | _ => none

end

/-- The value that a whole document writes. -/
def read? (document : String) : Option Json :=
  let text := skipBlanks document.toList
  match readValue (text.length + 1) text with
  | some (value, rest) => if (skipBlanks rest).isEmpty then some value else none
  | none => none

end HostedStreams.Json
