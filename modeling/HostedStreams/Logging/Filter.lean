import HostedStreams.Pattern.Reader
import HostedStreams.Text.Bytes

/-! Filters of log lines. A filter is a list of directives with commas between them,
and a directive is a level, or a target, a span or both with a level. A span may ask
for fields in braces, and a field for values. Only whether a filter is well formed is
decided here. -/
namespace HostedStreams

/-- Why a filter is not well formed. -/
inductive FilterError where
  | directive
  | level
  | field (reason : PatternError)
  /-- A piece of a directive cannot be cut out of it. -/
  | cut (reason : Text.CutError)
  deriving DecidableEq

namespace FilterError

def message : FilterError → String
  | .directive => "invalid filter directive"
  | .level =>
    "error parsing level filter: expected one of \"off\", \"error\", \"warn\", \"info\", " ++
      "\"debug\", \"trace\", or a number 0-5"
  | .field reason => "invalid field filter: " ++ reason.message
  | .cut reason => reason.message

end FilterError

namespace LogFilter

def levelNames : List String :=
  ["off", "error", "warn", "info", "debug", "trace"]

/-- Whether the text is a level: one of six names in any case, or a number up to 5. -/
def isLevel (text : List Char) : Bool :=
  (match Text.word? text with
    | some n => n ≤ 5
    | none => false) ||
  levelNames.contains (String.ofList (text.map Text.lowerAscii))

/-- A level behind an equals sign; nothing there stands for every level. -/
def checkLevel (text : List Char) : Except FilterError Unit :=
  if text.isEmpty || isLevel text then .ok () else .error .level

/-- A field, or a field and a value behind an equals sign. A value is a number or else
a pattern. -/
def checkField (text : List Char) : Except FilterError Unit :=
  if text.isEmpty then .error .directive
  else match text.dropWhile (· != '=') with
    | [] => .ok ()
    | _ :: rest =>
      let value := rest.takeWhile (· != '=')
      if Text.isNumber value then .ok ()
      else (Pattern.check value).mapError .field

/-- Whether a target or level may begin with the character. -/
def startsWord (c : Char) : Bool :=
  c == '-' || c == ':' || c == '_' || Text.isAlphanumeric c

/-- The part of a directive that a character is in, and where its piece began. -/
inductive Region where
  | start
  /-- A level or a target. -/
  | word (first : Nat)
  | span (first : Nat)
  | field (first : Nat)
  /-- Behind the fields of a span. -/
  | fields
  /-- Behind a span. -/
  | target
  | level (first : Nat)

/-- A piece of a directive. -/
def piece (directive : List Char) (first last : Nat) : Except FilterError (List Char) :=
  (Text.cut first last directive).mapError .cut

/-- Goes over the character at a place. -/
def advance (directive : List Char) (place : Nat) (c : Char) :
    Region → Except FilterError Region
  | .start =>
    if c == '[' then .ok (.span (place + 1))
    else if startsWord c then .ok (.word place)
    else .error .directive
  | .word first => do
    if c == '=' then
      let _ ← piece directive first place
      return .level (place + 1)
    else if c == '[' then
      let _ ← piece directive first place
      return .span (place + 1)
    else return .word first
  | .span first => do
    if c == ']' then
      let _ ← piece directive first place
      return .target
    else if c == '\x7b' then
      let _ ← piece directive first place
      return .field (place + 1)
    else return .span first
  | .field first => do
    if c == '\x7d' then
      checkField (← piece directive first place)
      return .fields
    else return .field first
  | .fields => if c == ']' then .ok .target else .error .directive
  | .target => if c == '=' then .ok (.level (place + 1)) else .error .directive
  | .level first => .ok (.level first)

/-- Goes over all characters from a place on. -/
def regionAfter (directive : List Char) :
    Nat → Region → List Char → Except FilterError Region
  | _, region, [] => .ok region
  | place, region, c :: rest => do
    regionAfter directive (place + c.utf8Size) (← advance directive place c region) rest

/-- One directive. A bare word is always well formed: one that is no level is a target.
Places are counted in the directive without the blanks around it, but the pieces are
cut out of it with the blanks, so that a level with blanks around its directive is
none. -/
def checkDirective (directive : List Char) : Except FilterError Unit := do
  match ← regionAfter directive 0 .start (Text.trimmed directive) with
  | .word _ | .target => return ()
  | .level first => checkLevel (← (Text.cutFrom first directive).mapError .cut)
  | .start | .span _ | .field _ | .fields => throw .directive

/-- The pieces between commas. -/
def splitCommas (text : List Char) : List (List Char) :=
  text.foldr (fun c pieces =>
    if c = ',' then [] :: pieces
    else match pieces with
      | piece :: rest => (c :: piece) :: rest
      | [] => [[c]]) [[]]

/-- Why the filter is not well formed, by its first directive at fault. Empty
directives are skipped. -/
def check (filter : String) : Except FilterError Unit :=
  ((splitCommas filter.toList).filter (!·.isEmpty)).forM checkDirective

end LogFilter
end HostedStreams
