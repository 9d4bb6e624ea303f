/-
**Asking the remote over the web.**

Each call is one request: a method, a path below the address of the remote, and for most changes a document
as its body. What comes back is read by its status and its body. How a request gets to the remote and back is
not told here: a transport answers it or does not.

* `HttpRemote.request`: the request of a call;
* `HttpRemote.read`: what a response tells about a call.
-/

import StreamWatch.Json.Reader
import StreamWatch.Json.Writer
import StreamWatch.Remote.Call
import StreamWatch.Remote.Url
import StreamWatch.Text.Utf8

namespace StreamWatch

open Json Text

/-- A request to the remote. -/
structure HttpRequest where
  method : String
  url : Url
  query : List (String × String)
  token : Option String
  body : Option Json

/-- What came back for a request. -/
structure HttpResponse where
  status : Nat
  body : List UInt8

/-- A remote that is asked over the web. -/
structure HttpRemote where
  base : Url
  token : Option String

namespace HttpRemote

/-- The remote at an address, when it is one. The address is taken as that of a directory. -/
def ofAddress? (address : String) (token : Option String) : Option HttpRemote :=
  let directory := (address.toList.reverse.dropWhile (· == '/')).reverse ++ ['/']
  (Url.parse? (String.ofList directory)).map fun base => ⟨base, token⟩

/-- The path of a call below the address of the remote. -/
def path : RemoteCall → String
  | .channels .. => "api/channels/channels/"
  | .updateChannel id _ => s!"api/channels/channels/{id}/"
  | .streams .. => "api/channels/streams/"
  | .streamsByIds _ => "api/channels/streams/by-ids/"
  | .guideSources => "api/epg/sources/"
  | .guideSource id => s!"api/epg/sources/{id}/"
  | .refreshGuideSource _ => "api/epg/import/"
  | .accounts => "api/m3u/accounts/"
  | .refreshAccount id => s!"api/m3u/refresh/{id}/"

/-- The method of a call. -/
def method : RemoteCall → String
  | .updateChannel .. => "PATCH"
  | .streamsByIds _ | .refreshGuideSource _ | .refreshAccount _ => "POST"
  | _ => "GET"

/-- The query of a call. -/
def query : RemoteCall → List (String × String)
  | .channels page size | .streams page size =>
    [("page", toString page), ("page_size", toString size.toNat)]
  | _ => []

/-- The body of a call. -/
def body : RemoteCall → Option Json
  | .updateChannel _ update => some update.toJson
  | .streamsByIds ids => some (.ofMembers [("ids", idList ids)])
  | .refreshGuideSource id => some (.ofMembers [("id", .int id)])
  | .refreshAccount _ => some (.object [])
  | _ => none

/-- The request of a call, unless nothing can be looked up below the address of the remote. -/
def request (remote : HttpRemote) (call : RemoteCall) : Except RemoteError HttpRequest :=
  match remote.base.join? (path call) with
  | some url => .ok ⟨method call, url, query call, remote.token, body call⟩
  | none => .error .badUrl

/-- The largest number of characters of a refusal that are kept. -/
def maxRefusal : Nat := 512

/-- The document of a response that is no refusal. -/
def document (call : RemoteCall) (response : HttpResponse) : Except RemoteError Json :=
  let text := String.ofList (decodeLossy response.body)
  if text.toUTF8.toList = response.body then
    match Json.read? text with
    | some value => .ok value
    | none => .error (.undecodable (path call) "error decoding response body")
  else .error (.undecodable (path call) "error decoding response body")

/-- A value of a type read from the document of a response. -/
def decoded {α : Type} (decode : Decoder α) (call : RemoteCall) (response : HttpResponse) :
    Except RemoteError α := do
  match decode (← document call response) with
  | .ok value => pure value
  | .error _ => throw (.undecodable (path call) "error decoding response body")

/-- What a response that is no refusal tells about a call. -/
def readAnswer (response : HttpResponse) : (call : RemoteCall) → call.Reply
  | .channels page size => decoded (Page.decode Channel.decode) (.channels page size) response
  | .updateChannel .. => .ok ()
  | .streams page size => decoded (Page.decode Stream.decode) (.streams page size) response
  | .streamsByIds ids => decoded (decodeListing Stream.decode) (.streamsByIds ids) response
  | .guideSources => decoded (decodeListing GuideSource.decode) .guideSources response
  | .guideSource id => decoded GuideSource.decode (.guideSource id) response
  | .refreshGuideSource _ => .ok ()
  | .accounts => decoded (decodeListing Account.decode) .accounts response
  | .refreshAccount _ => .ok ()

/-- What a response tells about a call. -/
def read (call : RemoteCall) (response : HttpResponse) : call.Reply :=
  if 200 ≤ response.status ∧ response.status ≤ 299 then readAnswer response call
  else
    .error (.status response.status
      (String.ofList ((decodeLossy response.body).take maxRefusal)))

/-- Carries a request to the remote and its response back, if one comes. -/
abbrev Transport := HttpRequest → Option HttpResponse

/-- A transport that reaches nothing. -/
def unreachable : Transport := fun _ => none

/-- What a response, if any, tells about a request. -/
def answerOf (transport : Transport) (call : RemoteCall) (request : HttpRequest) : call.Reply :=
  match transport request with
  | some response => read call response
  | none => .error .transport

/-- What the remote answers a call with. No streams are asked for without a request. -/
def answer (remote : HttpRemote) (transport : Transport) : (call : RemoteCall) → call.Reply
  | .streamsByIds [] => .ok []
  | call => do answerOf transport call (← remote.request call)

end HttpRemote
end StreamWatch
