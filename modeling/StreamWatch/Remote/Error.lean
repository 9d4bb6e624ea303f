/-
**How a request to the remote fails.**
-/

namespace StreamWatch

/-- Why the remote did not answer as asked. -/
inductive RemoteError where
  /-- no answer came -/
  | transport
  /-- the answer was a refusal -/
  | status (code : Nat) (message : String)
  /-- the answer was not of the shape expected -/
  | undecodable (endpoint message : String)
  /-- the address of the remote is none -/
  | badUrl
deriving DecidableEq, Repr

/-- What went wrong, in words. -/
def RemoteError.message : RemoteError → String
  | transport => "HTTP transport error"
  | status code message => s!"HTTP error: {code} - {message}"
  | undecodable endpoint message => s!"Unexpected response from {endpoint}: {message}"
  | badUrl => "Invalid URL"

end StreamWatch
