/-
**What the remote channel manager owns.**

Channels, streams, provider accounts and programme guide sources, with only the parts that are looked at
here. Each is read from and written to a document value.
-/

import StreamWatch.Json.Decode

namespace StreamWatch

/-- One page of a listing. -/
structure Page (α : Type) where
  results : List α
  count : Nat := 0
  next : Option String := none
deriving Repr

/-- A channel with its streams in order of preference. -/
structure Channel where
  id : Int
  name : String
  number : Option Binary64
  streams : List Int
deriving DecidableEq, Inhabited, Repr

/-- What is sent to give a channel its streams. -/
structure ChannelUpdate where
  streams : List Int
deriving DecidableEq, Inhabited, Repr

/-- A stream; one without an account belongs to no provider. -/
structure Stream where
  id : Int
  name : String
  url : Option String
  account : Option Int
deriving DecidableEq, Inhabited, Repr

/-- A provider's account. -/
structure Account where
  id : Int
  name : String
  isActive : Bool
deriving DecidableEq, Inhabited, Repr

/-- A source of programme guide data. The time of its last update moves when the remote has finished
refreshing it. -/
structure GuideSource where
  id : Int
  name : String
  kind : Option String
  isActive : Bool
  updatedAt : Option Instant
deriving DecidableEq, Inhabited, Repr

open Json

/-- The ids of a list as a document value. -/
def idList (ids : List Int) : Json := .list (ids.map .int)

namespace Page

variable {α : Type}

/-- Whether another page follows. -/
def hasNext (page : Page α) : Bool := page.next.isSome

/-- A page of items read from a document value. -/
def decode (item : Decoder α) : Decoder (Page α) :=
  (Page.mk <$> Fields.required "results" (.list item) <*> .withDefault "count" .natural 0
    <*> .withDefault "next" (.option .string) none).decode

/-- A page as a document value. -/
def toJson (item : α → Json) (page : Page α) : Json :=
  .ofMembers [("results", .list (page.results.map item)), ("count", .ofNat page.count),
    ("next", .ofOption .str page.next)]

end Page

/-- The items of a listing that is a page, or else a plain list. -/
def decodeListing {α : Type} (item : Decoder α) : Decoder (List α) := fun value =>
  match Page.decode item value with
  | .ok page => .ok page.results
  | .error _ => Decoder.list item value

namespace Channel

/-- A channel read from a document value. -/
def decode : Decoder Channel :=
  (Channel.mk <$> Fields.required "id" .signedWord <*> .required "name" .string
    <*> .withDefault "channel_number" (.option .real) none
    <*> .withDefault "streams" (.list .signedWord) []).decode

end Channel

namespace ChannelUpdate

/-- A channel update read from a document value. -/
def decode : Decoder ChannelUpdate :=
  (ChannelUpdate.mk <$> Fields.required "streams" (.list .signedWord)).decode

/-- A channel update as a document value. -/
def toJson (update : ChannelUpdate) : Json := .ofMembers [("streams", idList update.streams)]

end ChannelUpdate

namespace Stream

/-- A stream read from a document value. -/
def decode : Decoder Stream :=
  (Stream.mk <$> Fields.required "id" .signedWord <*> .required "name" .string
    <*> .withDefault "url" (.option .string) none
    <*> .withDefault "m3u_account" (.option .signedWord) none).decode

/-- A stream as a document value. -/
def toJson (stream : Stream) : Json :=
  .ofMembers [("id", .int stream.id), ("name", .str stream.name), ("url", .ofOption .str stream.url),
    ("m3u_account", .ofOption .int stream.account)]

end Stream

namespace Account

/-- An account read from a document value; it is active unless it says otherwise. -/
def decode : Decoder Account :=
  (Account.mk <$> Fields.required "id" .signedWord <*> .required "name" .string
    <*> .withDefault "is_active" .bool true).decode

/-- An account as a document value. -/
def toJson (account : Account) : Json :=
  .ofMembers [("id", .int account.id), ("name", .str account.name),
    ("is_active", .bool account.isActive)]

end Account

namespace GuideSource

/-- Whether the source is generated. Such a source often never moves the time of its last update. -/
def isDummy (source : GuideSource) : Bool := source.kind == some "dummy"

/-- A guide source read from a document value; it is active unless it says otherwise. -/
def decode : Decoder GuideSource :=
  (GuideSource.mk <$> Fields.required "id" .signedWord <*> .required "name" .string
    <*> .withDefault "source_type" (.option .string) none <*> .withDefault "is_active" .bool true
    <*> .field ["updated_at", "last_updated"] (.option .instant) (some none) (some none)).decode

/-- A guide source as a document value. -/
def toJson (source : GuideSource) : Json :=
  .ofMembers [("id", .int source.id), ("name", .str source.name),
    ("source_type", .ofOption .str source.kind), ("is_active", .bool source.isActive),
    ("updated_at", .ofOption (fun t => .str t.format) source.updatedAt)]

end GuideSource
end StreamWatch
