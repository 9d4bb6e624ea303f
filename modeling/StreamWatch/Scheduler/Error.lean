/-
**How the scheduler refuses.**
-/

import StreamWatch.Task.Timing

namespace StreamWatch

/-- Why the scheduler did not do what it was asked to with a task. -/
inductive SchedulingError where
  | unknownTask (id : String)
  | alreadyRegistered (id : String)
  | alreadyRunning (id : String)
  | notRunning (id : String)
  | badTiming (id : String) (fault : Timing.Fault)
  | badSettings (id message : String)
deriving DecidableEq, Repr

/-- What went wrong, in words. -/
def SchedulingError.message : SchedulingError → String
  | unknownTask id => s!"Task '{id}' is not registered"
  | alreadyRegistered id => s!"Task '{id}' is already registered"
  | alreadyRunning id => s!"Task '{id}' is already running"
  | notRunning id => s!"Task '{id}' is not running"
  | badTiming id fault =>
    let reason := fault.message
    s!"Invalid schedule for task '{id}': {reason}"
  | badSettings id message => s!"Invalid configuration for task '{id}': {message}"

end StreamWatch
