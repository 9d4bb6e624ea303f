/-
**How the probe of a stream fails.**
-/

namespace StreamWatch

/-- Why a media tool told nothing about a stream. -/
inductive ProbeError where
  /-- the tool could not be started -/
  | spawn (command message : String)
  /-- the tool did not end in time and was stopped -/
  | timeout (seconds : Nat)
  /-- the tool ended without success; one ended by a signal has no exit code -/
  | exitStatus (code : Option Int) (message : String)
  /-- the output of the tool could not be understood -/
  | malformed (message : String)
deriving DecidableEq, Repr

namespace ProbeError

/-- Whether time ran out. -/
def isTimeout : ProbeError → Bool
  | timeout _ => true
  | _ => false

/-- An exit code that may be absent, in words. -/
def codeText : Option Int → String
  | some code => s!"Some({code})"
  | none => "None"

/-- What went wrong, in words. -/
def message : ProbeError → String
  | spawn command reason => s!"Failed to execute {command}: {reason}"
  | timeout seconds => s!"Probe timed out after {seconds}s"
  | exitStatus code reason =>
    let code := codeText code
    s!"Probe exited with code {code}: {reason}"
  | malformed reason => s!"Malformed probe output: {reason}"

end ProbeError
end StreamWatch
