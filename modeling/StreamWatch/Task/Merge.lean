/-
**Changing some settings of a task.**

A change is an object. It is laid over the document value of the current settings, and the whole is read
again.
-/

import StreamWatch.Json.Decode

namespace StreamWatch

open Json

/-- Why settings cannot be changed so. -/
inductive MergeError where
  | notAnObject
  | undecodable (error : DecodeError)
deriving DecidableEq, Repr

/-- What is wrong, in words. -/
def MergeError.message : MergeError → String
  | notAnObject => "task configuration must be a JSON object"
  | undecodable error =>
    let reason := error.message
    s!"invalid task configuration: {reason}"

/-- The members of an object with those of another laid over them. -/
def overlay (current change : List (String × Json)) : List (String × Json) :=
  change.foldl (fun members (name, value) => putMember name value members) current

/-- The settings with a change laid over them. -/
def mergeSettings {α : Type} (encode : α → Json) (decode : Decoder α) (current : α) (change : Json) :
    Except MergeError α :=
  match change with
  | .object change =>
    let merged := match encode current with
      | .object members => Json.object (overlay members change)
      | other => other
    (decode merged).mapError .undecodable
  | _ => .error .notAnObject

end StreamWatch
