import ControlPlane.Error
import ControlPlane.Text.Lower

/-! # Logs

Records are logged in one of two forms, to a file or to standard output.  Only the choice of the
form and the file is made here; what is logged is no part of any answer. -/

namespace ControlPlane

/-- How records are written. -/
inductive LogFormat where
  | human
  | json
  deriving DecidableEq

namespace LogFormat

def text : LogFormat → String
  | human => "human"
  | json => "json"

def all : List LogFormat := [human, json]

/-- The format with exactly this name. -/
def ofText? (s : String) : Option LogFormat := all.find? (·.text == s)

/-- Reads a format, in letters of any case; the failure is the text in lower case. -/
def parse (s : String) : Except String LogFormat :=
  let lowered := Text.lower s
  match ofText? lowered with
  | some format => .ok format
  | none => .error lowered

/-- What is said of a text that names no format. -/
def unknown (lowered : String) : String := s!"invalid log format: {lowered}"

end LogFormat

/-- A log file that could not be opened. -/
structure LogFailure where
  path : String
  cause : OsError

namespace LogFailure

/-- What was being done, and the failure behind it. -/
def messages (f : LogFailure) : List String := [s!"opening log file {f.path}", f.cause.message]

end LogFailure

end ControlPlane
