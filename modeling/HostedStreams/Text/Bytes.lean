import HostedStreams.Text.Quoted

/-! Pieces of a text between places that are counted in bytes of UTF-8. A place that
is inside a character parts nothing. -/
namespace HostedStreams.Text

/-- A place inside a character. -/
structure Inside where
  place : Nat
  char : Char
  /-- Where the character begins. -/
  first : Nat
  deriving DecidableEq

namespace Inside

def message (s : Inside) : String :=
  "byte index " ++ toString s.place ++ " is not a char boundary; it is inside '" ++
    quotedChar s.char ++ "' (bytes " ++ toString s.first ++ ".." ++
    toString (s.first + s.char.utf8Size) ++ " of string)"

end Inside

/-- Why a piece cannot be cut out: it begins or ends inside a character. -/
inductive CutError where
  | first (s : Inside)
  | last (s : Inside)
  deriving DecidableEq

namespace CutError

def message : CutError → String
  | .first s => "start " ++ s.message
  | .last s => "end " ++ s.message

end CutError

/-- Parts a text that begins at the place `here`. -/
def partAt (place here : Nat) : List Char → Except Inside (List Char × List Char)
  | [] => .ok ([], [])
  | c :: rest =>
    if place ≤ here then .ok ([], c :: rest)
    else if place < here + c.utf8Size then .error ⟨place, c, here⟩
    else (partAt place (here + c.utf8Size) rest).map fun (front, back) => (c :: front, back)

/-- What is behind a place. -/
def cutFrom (first : Nat) (text : List Char) : Except CutError (List Char) :=
  match partAt first 0 text with
  | .ok (_, back) => .ok back
  | .error s => .error (.first s)

/-- What is between two places. -/
def cut (first last : Nat) (text : List Char) : Except CutError (List Char) := do
  match partAt last first (← cutFrom first text) with
  | .ok (piece, _) => return piece
  | .error s => throw (.last s)

end HostedStreams.Text
