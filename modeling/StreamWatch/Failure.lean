/-
**Every way in which the service fails.**
-/

import StreamWatch.Probe.Error
import StreamWatch.Remote.Error
import StreamWatch.Store.Error

namespace StreamWatch

/-- Why the service did not do what it was asked to. -/
inductive Failure where
  | store (error : StoreError)
  | remote (error : RemoteError)
  | probe (error : ProbeError)
  | notFound (resource id : String)
  | settings (message : String)
deriving DecidableEq, Repr

/-- What went wrong, in words. -/
def Failure.message : Failure → String
  | store error => "Repository error: " ++ error.message
  | remote error => "Remote API error: " ++ error.message
  | probe error => "Probe error: " ++ error.message
  | notFound resource id => s!"Not found: {resource} with id {id}"
  | settings message => s!"Configuration error: {message}"

end StreamWatch
