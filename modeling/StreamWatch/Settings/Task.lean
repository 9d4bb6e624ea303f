/-
**The settings of single tasks.**
-/

import StreamWatch.Settings.Service
import StreamWatch.Task.Merge

namespace StreamWatch

open Json

/-- What is set for the task that probes every stream. -/
structure ProbeAllSettings where
  refreshAccounts : Bool
deriving DecidableEq, Inhabited, Repr

namespace ProbeAllSettings

/-- Read from a document value. -/
def decode : Decoder ProbeAllSettings :=
  (ProbeAllSettings.mk <$> Fields.required "refresh_accounts" .bool).decode

/-- As a document value. -/
def toJson (settings : ProbeAllSettings) : Json :=
  .ofMembers [("refresh_accounts", .bool settings.refreshAccounts)]

end ProbeAllSettings

/-- What is set for the task that takes struck streams out of channels. -/
structure CleanupSettings where
  /-- failures in a row that strike a stream out; at zero the task does nothing -/
  threshold : UInt32 := standardThreshold
deriving DecidableEq, Inhabited, Repr

namespace CleanupSettings

/-- Read from a document value. -/
def decode : Decoder CleanupSettings :=
  (CleanupSettings.mk <$> Fields.required "failure_threshold" .halfWord).decode

/-- As a document value. -/
def toJson (settings : CleanupSettings) : Json :=
  .ofMembers [("failure_threshold", .ofNat settings.threshold.toNat)]

end CleanupSettings

namespace RefreshSettings

/-- Refuses settings under which a refresh could never be seen to finish. -/
def check (settings : RefreshSettings) : Except String Unit :=
  if settings.pollInterval.isZero then .error "poll_interval must be greater than zero"
  else if settings.maxWait < settings.pollInterval then .error "max_wait must be at least poll_interval"
  else .ok ⟨⟩

end RefreshSettings
end StreamWatch
