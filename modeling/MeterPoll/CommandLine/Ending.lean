import MeterPoll.CommandLine.Usage
import MeterPoll.Fault

/-!
# Endings

How a run of the program ends: its exit code and what it writes. A failure is reported with what
was being done and the faults behind it.
-/

namespace MeterPoll.CommandLine

/-- How a run ends. -/
structure Ending where
  code : Nat
  output : String
  errors : String

/-- A failure that ends a run: what the report begins with, and what is behind it. -/
structure Failure where
  message : String
  causes : List String

/-- What is behind a fault. -/
def sources : Fault → List String
  | .transfer reason => [reason]
  | fault => (fault.mismatch?.map Mismatch.message).toList

namespace Failure

/-- A fault on its own. -/
def ofFault (fault : Fault) : Failure :=
  ⟨fault.message, sources fault⟩

/-- A fault that arose while something was done. -/
def during (message : String) (fault : Fault) : Failure :=
  ⟨message, fault.message :: sources fault⟩

/-- The lines of a cause behind its label. -/
def indent (label margin cause : String) : String :=
  label ++ ("\n" ++ margin).intercalate (cause.splitOn "\n") ++ "\n"

/-- The causes with numbers. -/
def numbered : Nat → List String → String
  | _, [] => ""
  | n, cause :: rest =>
    indent ("    " ++ toString n ++ ": ") "       " cause ++ numbered (n + 1) rest

/-- The report of a failure. Causes are numbered if there are several. -/
def report (failure : Failure) : String :=
  "Error: " ++ failure.message ++
    match failure.causes with
    | [] => "\n"
    | [cause] => "\n\nCaused by:\n" ++ indent "    " "    " cause
    | causes => "\n\nCaused by:\n" ++ numbered 0 causes

end Failure

namespace Ending

/-- The end of a run that succeeds. -/
def success (output : String) : Ending :=
  ⟨0, output, ""⟩

/-- The end of a run that fails. -/
def failed (output : String) (failure : Failure) : Ending :=
  ⟨1, output, failure.report⟩

/-- The end of a run whose arguments are not understood. -/
def refused (fault : ArgumentFault) (inColour : Bool) : Ending :=
  ⟨2, "", if inColour then coloured fault.message else uncoloured fault.message⟩

end Ending

end MeterPoll.CommandLine
