import HostedStreams.Text.Quoted

/-! Variables of a process's environment. There a name ends at an equals sign and a
value at a null character, so neither can hold what ends it. -/
namespace HostedStreams

structure Variable where
  name : String
  value : String

/-- Why a variable cannot be set. A null character is noticed first. -/
inductive VariableError where
  | null (v : Variable)
  | name (v : Variable)

namespace Variable

/-- Whether a process can have the variable. -/
def check (v : Variable) : Except VariableError Unit :=
  if v.name.toList.contains '\x00' || v.value.toList.contains '\x00' then .error (.null v)
  else if v.name.isEmpty || v.name.toList.contains '=' then .error (.name v)
  else .ok ()

/-- A name or value between double quotes, where single quotes are escaped too. -/
def quotedPart (s : String) : String :=
  "\"" ++ String.join (s.toList.map fun c => if c = '\'' then "\\'" else Text.quotedChar c) ++ "\""

/-- What is said of a variable that cannot be set. -/
def failure (v : Variable) (reason : String) : String :=
  "failed to set environment variable `" ++ quotedPart v.name ++ "` to `" ++
    quotedPart v.value ++ "`: " ++ reason

end Variable

namespace VariableError

def message : VariableError → String
  | .null v => v.failure "file name contained an unexpected NUL byte"
  | .name v => v.failure "Invalid argument (os error 22)"

end VariableError
end HostedStreams
