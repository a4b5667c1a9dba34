/-! JSON values as documents write them. An object keeps its members in order
and keeps repeated names, because whether a repeated name matters is decided by
the record that reads it. -/
namespace HostedStreams

/-- One JSON value. Integers are exact and are told apart from literals with a
fraction, an exponent or a negative zero, which keep their text. -/
inductive Json where
  | null
  | bool (value : Bool)
  | int (value : Int)
  | real (text : String)
  | str (value : String)
  /-- A literal that is well formed but denotes nothing: text with half of a
  surrogate pair, or a number beyond every finite float. Such a literal may be
  skipped over, never read. -/
  | unreadable
  | arr (items : List Json)
  | obj (members : List (String × Json))
  deriving Inhabited

namespace Json

/-- The natural number written, if it fits 64 bits. -/
def word? : Json → Option UInt64
  | .int n => if 0 ≤ n ∧ n.toNat < UInt64.size then some (UInt64.ofNat n.toNat) else none
  | _ => none

def byte? : Json → Option UInt8
  | .int n => if 0 ≤ n ∧ n < 256 then some (UInt8.ofNat n.toNat) else none
  | _ => none

def bool? : Json → Option Bool
  | .bool b => some b
  | _ => none

def str? : Json → Option String
  | .str s => some s
  | _ => none

/-- An array whose items are all read by `item`. -/
def list? {α : Type} (item : Json → Option α) : Json → Option (List α)
  | .arr items => items.mapM item
  | _ => none

/-- `null` stands for nothing; anything else is read. -/
def nullable? {α : Type} (value : Json → Option α) : Json → Option (Option α)
  | .null => some none
  | v => (value v).map some

/-- The value of an object's member. The last of several members of one name counts. -/
def member? (name : String) : Json → Option Json
  | .obj members => (members.reverse.find? (·.1 == name)).map (·.2)
  | _ => none

/-- An integer as it is written in an answer. -/
def ofNat (n : Nat) : Json := .int n

def ofWord (n : UInt64) : Json := .int n.toNat

/-- Absence is written as `null`. -/
def ofOption {α : Type} (value : α → Json) : Option α → Json
  | none => .null
  | some a => value a

mutual

/-- How deeply arrays and objects are nested; a scalar has depth 0. -/
def depth : Json → Nat
  | .arr items => depthItems items + 1
  | .obj members => depthMembers members + 1
  | _ => 0

def depthItems : List Json → Nat
  | [] => 0
  | v :: rest => max (depth v) (depthItems rest)

def depthMembers : List (String × Json) → Nat
  | [] => 0
  | (_, v) :: rest => max (depth v) (depthMembers rest)

end

mutual

/-- Whether every literal in the value can be read. -/
def readable : Json → Bool
  | .unreadable => false
  | .arr items => readableItems items
  | .obj members => readableMembers members
  | _ => true

def readableItems : List Json → Bool
  | [] => true
  | v :: rest => readable v && readableItems rest

def readableMembers : List (String × Json) → Bool
  | [] => true
  | (_, v) :: rest => readable v && readableMembers rest

end

end Json
end HostedStreams
