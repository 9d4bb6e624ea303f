/-
**A change of settings changes what it names.**

Settings are kept in slots, each under a name. A change is laid over the document value of the settings
and the whole is read again, so a slot that the change does not name is written and read back, and one that
it names is read from the change. What comes of it is therefore told slot by slot, and the fault of a change
is its own: that of the first slot, by name, whose value cannot be read.

* `merge_eq_ok_iff`, `merge_eq_error_iff`: what a change makes of settings, and when it is refused;
* `Describes.revises`: so changes of settings that slots describe are partial updates;
* `mergeSettings_revises`: changes of the settings of all tasks that have some are.
-/

import StreamWatch.Settings.Task
import StreamWatch.Proofs.Json.Members
import StreamWatch.Proofs.Time.Duration
import StreamWatch.Proofs.Steps

namespace StreamWatch

open Json

/-! ### Slots -/

/-- One of the settings there are: the name it goes by, how a value for it is read, and where it is kept. -/
structure Slot (α : Type) where
  Value : Type
  name : String
  decode : Decoder Value
  get : α → Value

namespace Slot

variable {α : Type}

/-- Whether a slot is after a change as the change says: what its value is read as where the change names
it, and as before where it does not. -/
def Follows (slot : Slot α) (change : SortedMap String Json) (before after : α) : Prop :=
  match change.get? slot.name with
  | some value => slot.decode value = .ok (slot.get after)
  | none => slot.get after = slot.get before

/-- What is wrong with the value that an object has for a slot. -/
def fault? (slot : Slot α) (members : SortedMap String Json) : Option DecodeError :=
  (members.get? slot.name).bind fun value =>
    match slot.decode value with
    | .error fault => some fault
    | .ok _ => none

/-- The first fault in the values that an object has for slots. -/
def firstFault? (slots : List (Slot α)) (members : SortedMap String Json) : Option DecodeError :=
  slots.findSome? fun slot => slot.fault? members

theorem fault?_of_absent {slot : Slot α} {members : SortedMap String Json}
    (absent : members.get? slot.name = none) : slot.fault? members = none := by
  rw [fault?, absent]
  rfl

theorem fault?_of_read {slot : Slot α} {members : SortedMap String Json} {value : Json} {x : slot.Value}
    (found : members.get? slot.name = some value) (read : slot.decode value = .ok x) :
    slot.fault? members = none := by
  rw [fault?, found, Option.bind_some, read]

theorem fault?_congr {slot : Slot α} {members others : SortedMap String Json}
    (same : members.get? slot.name = others.get? slot.name) : slot.fault? members = slot.fault? others := by
  rw [fault?, fault?, same]

theorem firstFault?_congr {slots : List (Slot α)} {members others : SortedMap String Json}
    (same : ∀ slot ∈ slots, slot.fault? members = slot.fault? others) :
    firstFault? slots members = firstFault? slots others := by
  induction slots with
  | nil => rfl
  | cons slot rest ih =>
    have later := ih fun other member => same other (List.mem_cons_of_mem slot member)
    unfold firstFault? at later ⊢
    rw [List.findSome?_cons, List.findSome?_cons, same slot List.mem_cons_self, later]

end Slot

/-! ### Settings in slots -/

/-- **Slots describe settings** as they are written and read. Settings that agree in every slot are the same. They
are written as an object from which every slot reads what it was. And an object that has a member for every
slot is read slot by slot; where that cannot be done, the first fault is told. -/
structure Describes {α : Type} (slots : List (Slot α)) (encode : α → Json) (decode : Decoder α) : Prop where
  whole : ∀ {a b : α}, (∀ slot ∈ slots, slot.get a = slot.get b) → a = b
  writes : ∀ a, ∃ members : SortedMap String Json, encode a = .object members.entries ∧
    ∀ slot ∈ slots, ∃ value, members.get? slot.name = some value ∧ slot.decode value = .ok (slot.get a)
  reads : ∀ {members : SortedMap String Json}, (∀ slot ∈ slots, slot.name ∈ members.keys) → ∀ a,
    decode (.object members.entries) = .ok a ↔
      ∀ slot ∈ slots, ∃ value, members.get? slot.name = some value ∧ slot.decode value = .ok (slot.get a)
  refuses : ∀ {members : SortedMap String Json}, (∀ slot ∈ slots, slot.name ∈ members.keys) → ∀ fault,
    decode (.object members.entries) = .error fault ↔ Slot.firstFault? slots members = some fault

/-- **Changes of settings are partial updates** of the slots they are kept in. The members of an object have
different names, so a change that is one is a map. -/
structure Revises {α : Type} (slots : List (Slot α)) (encode : α → Json) (decode : Decoder α) : Prop where
  /-- The slots are all there is to the settings. -/
  whole : ∀ {a b : α}, (∀ slot ∈ slots, slot.get a = slot.get b) → a = b
  /-- What a change does not name stays as it was. -/
  keeps : ∀ {before after : α} {change : SortedMap String Json},
    mergeSettings encode decode before (.object change.entries) = .ok after →
      ∀ slot ∈ slots, change.get? slot.name = none → slot.get after = slot.get before
  /-- What a change names becomes what its value alone is read as. -/
  sets : ∀ {before after : α} {change : SortedMap String Json},
    mergeSettings encode decode before (.object change.entries) = .ok after →
      ∀ slot ∈ slots, ∀ value, change.get? slot.name = some value → slot.decode value = .ok (slot.get after)
  /-- A change whose values can all be read is accepted. -/
  accepts : ∀ (before : α) {change : SortedMap String Json},
    (∀ slot ∈ slots, ∀ value, change.get? slot.name = some value → ∃ x, slot.decode value = .ok x) →
      ∃ after, mergeSettings encode decode before (.object change.entries) = .ok after
  /-- A change with a value that cannot be read is refused. -/
  refuses : ∀ (before : α) {change : SortedMap String Json}, ∀ slot ∈ slots, ∀ value fault,
    change.get? slot.name = some value → slot.decode value = .error fault →
      ∃ told, mergeSettings encode decode before (.object change.entries) = .error (.undecodable told)
  /-- So is everything that is no object. -/
  refusesOthers : ∀ (before : α) (change : Json), (∀ members, change ≠ .object members) →
    mergeSettings encode decode before change = .error .notAnObject
  /-- Names that no slot has make no difference. -/
  ignores : ∀ (before : α) {change other : SortedMap String Json},
    (∀ slot ∈ slots, change.get? slot.name = other.get? slot.name) →
      mergeSettings encode decode before (.object change.entries) =
        mergeSettings encode decode before (.object other.entries)
  /-- A change that names nothing changes nothing. -/
  unchanged : ∀ before : α, mergeSettings encode decode before (.object []) = .ok before
  /-- Two changes, one after the other, are the first with the second laid over it. -/
  twice : ∀ {before between : α} {first : SortedMap String Json} (second : SortedMap String Json),
    mergeSettings encode decode before (.object first.entries) = .ok between →
      mergeSettings encode decode between (.object second.entries) =
        mergeSettings encode decode before (.object (first.overlaid second).entries)

namespace Describes

variable {α : Type} {slots : List (Slot α)} {encode : α → Json} {decode : Decoder α}
  {before between after : α} {change : SortedMap String Json}

/-- The object that settings with a change laid over them are read from: it has a member for every slot. -/
theorem exists_laid (describes : Describes slots encode decode) (before : α) (change : SortedMap String Json) :
    ∃ members : SortedMap String Json,
      mergeSettings encode decode before (.object change.entries) =
          (decode (.object members.entries)).mapError .undecodable ∧
        (∀ slot ∈ slots, slot.name ∈ members.keys) ∧
        ∀ slot ∈ slots, ∃ value, members.get? slot.name = some value ∧
          (change.get? slot.name = some value ∨
            change.get? slot.name = none ∧ slot.decode value = .ok (slot.get before)) := by
  obtain ⟨written, encoded, held⟩ := describes.writes before
  have laid : ∀ slot ∈ slots, ∃ value, (written.overlaid change).get? slot.name = some value ∧
      (change.get? slot.name = some value ∨
        change.get? slot.name = none ∧ slot.decode value = .ok (slot.get before)) := by
    intro slot member
    obtain ⟨value, found, read⟩ := held slot member
    rw [SortedMap.get?_overlaid, found]
    cases named : change.get? slot.name with
    | none => exact ⟨value, rfl, .inr ⟨rfl, read⟩⟩
    | some given => exact ⟨given, rfl, .inl rfl⟩
  refine ⟨written.overlaid change, ?_, fun slot member => ?_, laid⟩
  · rw [mergeSettings, encoded]
    simp only [overlay_entries]
  · obtain ⟨value, found, -⟩ := laid slot member
    exact SortedMap.mem_keys.mpr ⟨value, found⟩

/-- **What a change makes of settings**: in every slot what it says. -/
theorem merge_eq_ok_iff (describes : Describes slots encode decode) :
    mergeSettings encode decode before (.object change.entries) = .ok after ↔
      ∀ slot ∈ slots, slot.Follows change before after := by
  obtain ⟨members, merged, present, laid⟩ := describes.exists_laid before change
  have each : ∀ slot ∈ slots, (∃ value, members.get? slot.name = some value ∧
      slot.decode value = .ok (slot.get after)) ↔ slot.Follows change before after := by
    intro slot member
    obtain ⟨value, found, named | ⟨unnamed, read⟩⟩ := laid slot member
    · simp [Slot.Follows, found, named]
    · simp [Slot.Follows, found, unnamed, read, eq_comm]
  rw [merged, ← forall₂_congr each, ← describes.reads present]
  cases decode (.object members.entries) <;> simp [Except.mapError]

/-- **When a change is refused**: when one of its own values cannot be read. -/
theorem merge_eq_error_iff (describes : Describes slots encode decode) {error : MergeError} :
    mergeSettings encode decode before (.object change.entries) = .error error ↔
      ∃ fault, Slot.firstFault? slots change = some fault ∧ error = .undecodable fault := by
  obtain ⟨members, merged, present, laid⟩ := describes.exists_laid before change
  have each : ∀ slot ∈ slots, slot.fault? members = slot.fault? change := by
    intro slot member
    obtain ⟨value, found, named | ⟨unnamed, read⟩⟩ := laid slot member
    · exact Slot.fault?_congr (found.trans named.symm)
    · rw [Slot.fault?_of_read found read, Slot.fault?_of_absent unnamed]
  simp only [merged, ← Slot.firstFault?_congr each, ← describes.refuses present]
  cases decode (.object members.entries) <;> simp [Except.mapError, eq_comm]

/-- Changes of which every slot makes the same come to the same. -/
theorem merge_congr (describes : Describes slots encode decode) {other : α} {changed : SortedMap String Json}
    (same : ∀ slot ∈ slots, slot.fault? change = slot.fault? changed ∧
      ∀ after, slot.Follows change before after ↔ slot.Follows changed other after) :
    mergeSettings encode decode before (.object change.entries) =
      mergeSettings encode decode other (.object changed.entries) := by
  have faults := Slot.firstFault?_congr fun slot member => (same slot member).1
  cases merged : mergeSettings encode decode before (.object change.entries) with
  | ok after =>
    have follows := describes.merge_eq_ok_iff.mp merged
    exact (describes.merge_eq_ok_iff.mpr fun slot member =>
      ((same slot member).2 after).mp (follows slot member)).symm
  | error error =>
    have told := describes.merge_eq_error_iff.mp merged
    rw [faults] at told
    exact (describes.merge_eq_error_iff.mpr told).symm

/-- A change with a value that cannot be read has a fault. -/
theorem firstFault?_ne_none {slot : Slot α} (member : slot ∈ slots) {value : Json} {fault : DecodeError}
    (named : change.get? slot.name = some value) (faulty : slot.decode value = .error fault) :
    Slot.firstFault? slots change ≠ none := by
  intro none
  have sound := List.findSome?_eq_none_iff.mp none slot member
  rw [Slot.fault?, named, Option.bind_some, faulty] at sound
  exact nomatch sound

/-- A change whose values can all be read has no fault. -/
theorem firstFault?_eq_none
    (read : ∀ slot ∈ slots, ∀ value, change.get? slot.name = some value → ∃ x, slot.decode value = .ok x) :
    Slot.firstFault? slots change = none := by
  refine List.findSome?_eq_none_iff.mpr fun slot member => ?_
  cases named : change.get? slot.name with
  | none => exact Slot.fault?_of_absent named
  | some value =>
    obtain ⟨x, sound⟩ := read slot member value named
    exact Slot.fault?_of_read named sound

/-- **Two changes, one after the other, are the first with the second laid over it.** -/
theorem merge_twice (describes : Describes slots encode decode) {between : α} {first : SortedMap String Json}
    (second : SortedMap String Json)
    (merged : mergeSettings encode decode before (.object first.entries) = .ok between) :
    mergeSettings encode decode between (.object second.entries) =
      mergeSettings encode decode before (.object (first.overlaid second).entries) := by
  refine describes.merge_congr fun slot member => ?_
  have follows := describes.merge_eq_ok_iff.mp merged slot member
  unfold Slot.Follows Slot.fault? at *
  rw [SortedMap.get?_overlaid]
  cases again : second.get? slot.name with
  | some value => simp
  | none =>
    cases named : first.get? slot.name with
    | some value =>
      rw [named] at follows
      simp [follows, eq_comm]
    | none =>
      rw [named] at follows
      simp [follows]

/-- **Changes of settings that slots describe are partial updates.** -/
theorem revises (describes : Describes slots encode decode) : Revises slots encode decode where
  whole := describes.whole
  keeps merged slot member unnamed := by
    have follows := describes.merge_eq_ok_iff.mp merged slot member
    rwa [Slot.Follows, unnamed] at follows
  sets merged slot member value named := by
    have follows := describes.merge_eq_ok_iff.mp merged slot member
    rwa [Slot.Follows, named] at follows
  accepts before change read := by
    cases merged : mergeSettings encode decode before (.object change.entries) with
    | ok after => exact ⟨after, rfl⟩
    | error error =>
      obtain ⟨fault, told, -⟩ := describes.merge_eq_error_iff.mp merged
      rw [firstFault?_eq_none read] at told
      exact nomatch told
  refuses before change slot member value fault named faulty := by
    obtain ⟨told, first⟩ := Option.ne_none_iff_exists'.mp (firstFault?_ne_none member named faulty)
    exact ⟨told, describes.merge_eq_error_iff.mpr ⟨told, first, rfl⟩⟩
  refusesOthers before change others := by
    cases change with
    | object members => exact absurd rfl (others members)
    | _ => rfl
  ignores before change other same := describes.merge_congr fun slot member =>
    ⟨Slot.fault?_congr (same slot member), fun after => by
      rw [Slot.Follows, Slot.Follows, same slot member]⟩
  unchanged before := by
    have nothing : ∀ slot ∈ slots, slot.Follows SortedMap.empty before before := fun _ _ => rfl
    exact describes.merge_eq_ok_iff.mpr nothing
  twice := describes.merge_twice

end Describes

/-! ### The settings there are -/

/-- Settings with one slot, written as an object of one member, are described by it. -/
theorem Describes.one {α : Type} (slot : Slot α) (make : slot.Value → α) (write : slot.Value → Json)
    (remade : ∀ a, make (slot.get a) = a) (kept : ∀ x, slot.get (make x) = x)
    (read : ∀ x, slot.decode (write x) = .ok x) :
    Describes [slot] (fun a => ofMembers [(slot.name, write (slot.get a))])
      (make <$> Fields.required slot.name slot.decode).decode where
  whole {a b} same := by
    rw [← remade a, same slot List.mem_cons_self, remade b]
  writes a := by
    refine ⟨_, ofMembers_eq _, ?_⟩
    simp [SortedMap.get?_ofList, SortedMap.find?, read]
  reads {members} present a := by
    obtain ⟨value, found⟩ := SortedMap.mem_keys.mp (present slot List.mem_cons_self)
    have same : ∀ x, make x = a ↔ x = slot.get a :=
      fun x => ⟨fun made => by rw [← made, kept], fun got => by rw [got, remade]⟩
    rw [decode_required found]
    cases read : slot.decode value <;> simp [Except.map, found, read, same]
  refuses {members} present fault := by
    obtain ⟨value, found⟩ := SortedMap.mem_keys.mp (present slot List.mem_cons_self)
    rw [decode_required found]
    cases read : slot.decode value <;> simp [Except.map, Slot.firstFault?, Slot.fault?, found, read]

namespace RefreshSettings

/-- The slots of refresh settings, in the order of their names. -/
def slots : List (Slot RefreshSettings) :=
  [⟨Duration, "assume_complete_after", .duration, assumeAfter⟩, ⟨Duration, "max_wait", .duration, maxWait⟩,
   ⟨Duration, "poll_interval", .duration, pollInterval⟩]

/-- Refresh settings are read member by member in the order of the names, which is not that of the fields. -/
theorem decode_members {members : SortedMap String Json} {assume longest poll : Json}
    (assumed : members.get? "assume_complete_after" = some assume)
    (limited : members.get? "max_wait" = some longest) (polled : members.get? "poll_interval" = some poll) :
    decode (.object members.entries) = (do
      let assumeAfter ← Decoder.duration assume
      let maxWait ← Decoder.duration longest
      let pollInterval ← Decoder.duration poll
      pure ⟨pollInterval, maxWait, assumeAfter⟩) := by
  have assumeFirst : place members "assume_complete_after" < place members "max_wait" :=
    place_lt_place (by decide) (SortedMap.mem_keys.mpr ⟨_, assumed⟩) (SortedMap.mem_keys.mpr ⟨_, limited⟩)
  have pollLast : place members "max_wait" < place members "poll_interval" :=
    place_lt_place (by decide) (SortedMap.mem_keys.mpr ⟨_, limited⟩) (SortedMap.mem_keys.mpr ⟨_, polled⟩)
  simp only [decode, Fields.decode, Fields.withDefault]
  rw [Fields.read_seq, Fields.read_seq, read_map, read_field polled, read_field limited, read_field assumed]
  have pollAfter := Nat.lt_trans assumeFirst pollLast
  -- each value can be read or not, and of several faults the one at the least place is told
  cases Decoder.duration assume <;> cases Decoder.duration longest <;> cases Decoder.duration poll <;>
    simp [Except.mapError, Fields.both, assumeFirst, pollLast, pollAfter] <;> rfl

/-- An object with a member for every slot has the three of them. -/
theorem exists_members {members : SortedMap String Json} (present : ∀ slot ∈ slots, slot.name ∈ members.keys) :
    (∃ assume, members.get? "assume_complete_after" = some assume) ∧
      (∃ longest, members.get? "max_wait" = some longest) ∧ ∃ poll, members.get? "poll_interval" = some poll := by
  simpa [slots, SortedMap.mem_keys] using present

/-- **Refresh settings are described by their slots**: written as lengths of time in words, read back exactly. -/
theorem describes : Describes slots toJson decode where
  whole {a b} same := by
    obtain ⟨pollInterval, maxWait, assumeAfter⟩ := a
    simp_all [slots]
  writes a := by
    refine ⟨_, ofMembers_eq _, ?_⟩
    simp [slots, SortedMap.get?_ofList, SortedMap.find?, entries, Toml.plain, Toml.membersOf, Toml.Node.toJson,
      Duration.toJson, Decoder.duration, Duration.parse_format, Except.mapError]
  reads {members} present a := by
    obtain ⟨⟨assume, assumed⟩, ⟨longest, limited⟩, ⟨poll, polled⟩⟩ := exists_members present
    have slotwise : (∀ slot ∈ slots, ∃ value, members.get? slot.name = some value ∧
        slot.decode value = .ok (slot.get a)) ↔ Decoder.duration assume = .ok a.assumeAfter ∧
          Decoder.duration longest = .ok a.maxWait ∧ Decoder.duration poll = .ok a.pollInterval := by
      simp [slots, assumed, limited, polled]
    rw [decode_members assumed limited polled, slotwise]
    constructor
    · intro read
      obtain ⟨_, one, read⟩ := steps_of_bind_eq_ok read
      obtain ⟨_, two, read⟩ := steps_of_bind_eq_ok read
      obtain ⟨_, three, read⟩ := steps_of_bind_eq_ok read
      cases read
      exact ⟨one, two, three⟩
    · rintro ⟨one, two, three⟩
      rw [one, two, three]
      rfl
  refuses {members} present fault := by
    obtain ⟨⟨assume, assumed⟩, ⟨longest, limited⟩, ⟨poll, polled⟩⟩ := exists_members present
    rw [decode_members assumed limited polled]
    cases one : Decoder.duration assume <;> cases two : Decoder.duration longest <;>
      cases three : Decoder.duration poll <;>
      simp [slots, Slot.firstFault?, Slot.fault?, assumed, limited, polled, one, two, three, bind, Except.bind,
        pure, Except.pure]

end RefreshSettings

namespace ProbeAllSettings

/-- The slot of the settings of the task that probes every stream. -/
def slots : List (Slot ProbeAllSettings) := [⟨Bool, "refresh_accounts", .bool, refreshAccounts⟩]

theorem describes : Describes slots toJson decode :=
  .one ⟨Bool, "refresh_accounts", .bool, refreshAccounts⟩ mk .bool (fun _ => rfl) (fun _ => rfl) fun _ => rfl

end ProbeAllSettings

namespace CleanupSettings

/-- The slot of the settings of the task that takes struck streams out of channels. -/
def slots : List (Slot CleanupSettings) := [⟨UInt32, "failure_threshold", .halfWord, threshold⟩]

theorem describes : Describes slots toJson decode := by
  refine .one ⟨UInt32, "failure_threshold", .halfWord, threshold⟩ mk (fun n => .ofNat n.toNat) (fun _ => rfl)
    (fun _ => rfl) fun n => ?_
  -- without this step the bound of the number would be unfolded
  dsimp only
  exact Decoder.halfWord_ofNat n

end CleanupSettings

/-- **A change of settings changes what it names**, and nothing else, for all settings that tasks have. -/
theorem mergeSettings_revises :
    Revises RefreshSettings.slots RefreshSettings.toJson RefreshSettings.decode ∧
      Revises ProbeAllSettings.slots ProbeAllSettings.toJson ProbeAllSettings.decode ∧
      Revises CleanupSettings.slots CleanupSettings.toJson CleanupSettings.decode :=
  ⟨RefreshSettings.describes.revises, ProbeAllSettings.describes.revises, CleanupSettings.describes.revises⟩

end StreamWatch
