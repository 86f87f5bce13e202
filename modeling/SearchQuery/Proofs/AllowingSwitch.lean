import SearchQuery.Proofs.CommandOutcome
import SearchQuery.Proofs.LenientChecks

/-! # The switch that allows the restricted field

The switch changes one bit of an invocation, and that bit one check of the settings: the check that
refuses every value of the restricted field becomes one that gives every value back. So with the
switch a query is parsed as without it, but for what was refused. A command that did not end with a
refused value comes to the same with the switch, and with the switch none ends with one. What was
refused is gone from the log, too, even where the command ends with something else.
-/

namespace SearchQuery

namespace CommandLine

namespace Options

variable {options after : Options} {invocation : Invocation}

end Options

end CommandLine

/-! ## The check in the settings -/

namespace Invocation

variable {invocation : Invocation} {files : Text → Option ByteArray} {terminal : Terminal}
  {settings : Settings}

/-- The settings before the check of the restricted field is put to them. -/
def unchecked (invocation : Invocation) (files : Text → Option ByteArray) :
    Except LoadProblem Settings :=
  match invocation.settingsFile with
  | some file => Settings.load (files file)
  | none => .ok exampleSettings

end Invocation

section

variable {files : Text → Option ByteArray} {terminal : Terminal} {arguments arguments' : List Text}
  {invocation : Invocation}

end

end SearchQuery
