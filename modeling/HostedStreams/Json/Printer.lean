import HostedStreams.Json

/-! Compact JSON text of a value. Quotes, backslashes and control characters are
escaped and every other character stands for itself. -/
namespace HostedStreams.Json

def hexDigit (n : Nat) : Char :=
  if n < 10 then Char.ofNat ('0'.toNat + n) else Char.ofNat ('a'.toNat + n - 10)

def escapeChar (c : Char) : List Char :=
  if c = '"' then ['\\', '"']
  else if c = '\\' then ['\\', '\\']
  else if c = '\x08' then ['\\', 'b']
  else if c = '\x0c' then ['\\', 'f']
  else if c = '\n' then ['\\', 'n']
  else if c = '\r' then ['\\', 'r']
  else if c = '\t' then ['\\', 't']
  else if c.toNat < 0x20 then
    ['\\', 'u', '0', '0', hexDigit (c.toNat / 16), hexDigit (c.toNat % 16)]
  else [c]

def quote (s : String) : List Char :=
  '"' :: s.toList.flatMap escapeChar ++ ['"']

def decimal (n : Int) : List Char :=
  if n < 0 then '-' :: Nat.toDigits 10 n.natAbs else Nat.toDigits 10 n.natAbs

mutual

def print : Json → List Char
  | .null => ['n', 'u', 'l', 'l']
  | .bool true => ['t', 'r', 'u', 'e']
  | .bool false => ['f', 'a', 'l', 's', 'e']
  | .int n => decimal n
  | .real text => text.toList
  | .str s => quote s
  | .unreadable => ['n', 'u', 'l', 'l']
  | .arr items => '[' :: printItems items ++ [']']
  | .obj members => '{' :: printMembers members ++ ['}']

/-- Items in order with commas between them. -/
def printItems : List Json → List Char
  | [] => []
  | [v] => print v
  | v :: rest => print v ++ ',' :: printItems rest

def printMembers : List (String × Json) → List Char
  | [] => []
  | [(name, v)] => quote name ++ ':' :: print v
  | (name, v) :: rest => quote name ++ ':' :: print v ++ ',' :: printMembers rest

end

def render (value : Json) : String :=
  String.ofList (print value)

end HostedStreams.Json
