/-
**How the streams of a channel are ranked.**

Quality comes first, then providers are mixed, then each provider is held to its limit. Each of the three
can be switched off.
-/

import StreamWatch.Json.Decode
import StreamWatch.SortedMap
import StreamWatch.Toml.Document

namespace StreamWatch

open Json

/-- What quality is judged by; more is better. -/
inductive Criterion where
  | resolution
  | bitrate
  | frameRate
  | providerPriority
  | audioChannels
deriving DecidableEq, Inhabited, Repr

namespace Criterion

/-- The name of a criterion. -/
def name : Criterion → String
  | resolution => "resolution"
  | bitrate => "bitrate"
  | frameRate => "framerate"
  | providerPriority => "provider_priority"
  | audioChannels => "audio_channels"

/-- Every criterion, in the order that holds when no other is chosen. -/
def all : List Criterion := [resolution, bitrate, frameRate, providerPriority, audioChannels]

/-- A criterion read from a document value. -/
def decode : Decoder Criterion := .variant (all.map fun c => (c.name, c))

end Criterion

/-- A criterion and whether it counts. -/
structure CriterionChoice where
  criterion : Criterion
  enabled : Bool := true
deriving DecidableEq, Inhabited, Repr

namespace CriterionChoice

/-- A choice read from a document value; a criterion counts unless it says otherwise. -/
def decode : Decoder CriterionChoice :=
  (CriterionChoice.mk <$> Fields.required "criterion" Criterion.decode
    <*> .withDefault "enabled" .bool true).decode

/-- The entries that stand for a choice. -/
def entries (choice : CriterionChoice) : Toml.Entries :=
  Toml.plain [("criterion", .str choice.criterion.name), ("enabled", .bool choice.enabled)]

end CriterionChoice

/-- How providers are mixed. -/
inductive Mixing where
  /-- not at all -/
  | disabled
  /-- one stream of each provider in turn, providers by ascending id -/
  | roundRobin
  /-- one stream of each provider in turn, providers by falling priority -/
  | priorityWeighted
deriving DecidableEq, Inhabited, Repr

namespace Mixing

/-- The name of a way of mixing. -/
def name : Mixing → String
  | disabled => "disabled"
  | roundRobin => "round_robin"
  | priorityWeighted => "priority_weighted"

/-- A way of mixing read from a document value. -/
def decode : Decoder Mixing :=
  .variant ([disabled, roundRobin, priorityWeighted].map fun m => (m.name, m))

end Mixing

/-- How many streams of one provider a channel may have; zero is no limit. -/
structure LimitSettings where
  enabled : Bool := false
  defaultLimit : UInt32 := 0
deriving DecidableEq, Inhabited, Repr

namespace LimitSettings

/-- Limit settings read from a document value. -/
def decode : Decoder LimitSettings :=
  (LimitSettings.mk <$> Fields.withDefault "enabled" .bool false
    <*> .withDefault "default_limit" .halfWord 0).decode

/-- The entries that stand for limit settings. -/
def entries (settings : LimitSettings) : Toml.Entries :=
  Toml.plain [("enabled", .bool settings.enabled),
    ("default_limit", .ofNat settings.defaultLimit.toNat)]

end LimitSettings

/-- What is set for one provider. -/
structure ProviderSettings where
  priority : Option Int := none
  maxStreams : Option UInt32 := none
deriving DecidableEq, Inhabited, Repr

namespace ProviderSettings

/-- Provider settings read from a document value. -/
def decode : Decoder ProviderSettings :=
  (ProviderSettings.mk <$> Fields.withDefault "priority" (.option .signedWord) none
    <*> .withDefault "max_streams_per_channel" (.option .halfWord) none).decode

/-- The entries that stand for provider settings; what is not set is left out. -/
def entries (settings : ProviderSettings) : Toml.Entries :=
  Toml.plain ((settings.priority.map fun n => ("priority", Json.int n)).toList ++
    (settings.maxStreams.map fun n => ("max_streams_per_channel", Json.ofNat n.toNat)).toList)

end ProviderSettings

/-- The settings of providers, under the decimal texts of their ids. -/
abbrev Providers := SortedMap String ProviderSettings

namespace Providers

/-- What is set for a provider. -/
def settings? (providers : Providers) (provider : Int) : Option ProviderSettings :=
  providers.get? (toString provider)

/-- The priority of a provider, zero unless one is set. -/
def priority (providers : Providers) (provider : Int) : Int :=
  ((providers.settings? provider).bind (·.priority)).getD 0

/-- Provider settings read from a document value. -/
def decode : Decoder Providers := fun value =>
  (Decoder.mapping ProviderSettings.decode value).map SortedMap.ofList

/-- A table for each provider. -/
def tables (providers : Providers) : Toml.Entries :=
  providers.entries.map fun (id, settings) => (id, .table settings.entries)

end Providers

/-- How the streams of a channel are ranked. -/
structure RankingSettings where
  sortByQuality : Bool := true
  criteria : List CriterionChoice := Criterion.all.map fun c => ⟨c, true⟩
  demoteUnhealthy : Bool := false
  mixing : Mixing := .disabled
  limit : LimitSettings := {}
  providers : Providers := SortedMap.empty
deriving Inhabited

namespace RankingSettings

/-- The criteria that count, in their order. -/
def enabledCriteria (settings : RankingSettings) : List Criterion :=
  (settings.criteria.filter (·.enabled)).map (·.criterion)

/-- Ranking settings read from a document value. -/
def decode : Decoder RankingSettings :=
  let standard : RankingSettings := {}
  (RankingSettings.mk <$> Fields.withDefault "smart_sort_enabled" .bool standard.sortByQuality
    <*> .withDefault "sort_criteria" (.list CriterionChoice.decode) standard.criteria
    <*> .withDefault "deprioritize_failed_streams" .bool standard.demoteUnhealthy
    <*> .withDefault "diversification" Mixing.decode standard.mixing
    <*> .withDefault "account_limit" LimitSettings.decode standard.limit
    <*> .withDefault "providers" Providers.decode standard.providers).decode

/-- The entries that stand for ranking settings, in the order of a settings file. -/
def entries (settings : RankingSettings) : Toml.Entries :=
  [("smart_sort_enabled", .value (.bool settings.sortByQuality)),
   ("sort_criteria", .tables (settings.criteria.map (·.entries))),
   ("deprioritize_failed_streams", .value (.bool settings.demoteUnhealthy)),
   ("diversification", .value (.str settings.mixing.name)),
   ("account_limit", .table settings.limit.entries),
   ("providers", .table settings.providers.tables)]

/-- Ranking settings as a document value. -/
def toJson (settings : RankingSettings) : Json := (Toml.Node.table settings.entries).toJson

end RankingSettings
end StreamWatch
