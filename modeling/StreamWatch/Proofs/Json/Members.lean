/-
**Objects as maps of their members.**

The members of an object stand in the order of their names, so an object is a map. Putting members into
it writes them into the map, and a field of a record is read from what the map has under its name.
The place of a fault is that of its name, so the least name with a fault is the one that is told.

* `get?_overlaid`: what is found after one map was laid over another;
* `overlay_entries`: members laid over those of a map are that map, laid over;
* `read_field`: a field reads the member of its name, at the place of that name;
* `place_lt_place`: places are in the order of names.
-/

import StreamWatch.Task.Merge
import StreamWatch.SortedMap
import Mathlib.Data.List.Nodup

namespace StreamWatch

namespace SortedMap

variable {κ α : Type} [Key κ]

/-- A map with the entries of another laid over it. -/
def overlaid (under added : SortedMap κ α) : SortedMap κ α :=
  added.entries.foldl (fun map (key, value) => map.insert key value) under

theorem find?_of_absent {key : κ} {entries : List (κ × α)} (absent : key ∉ entries.map (·.1)) :
    find? key entries = none := by
  induction entries with
  | nil => rfl
  | cons head rest ih =>
    rw [List.map_cons, List.mem_cons, not_or] at absent
    rw [find?, if_neg absent.1, ih absent.2]

theorem get?_foldl_insert {entries : List (κ × α)} (distinct : (entries.map (·.1)).Nodup)
    (map : SortedMap κ α) (key : κ) :
    (entries.foldl (fun map (key, value) => map.insert key value) map).get? key =
      (find? key entries).or (map.get? key) := by
  induction entries generalizing map with
  | nil => rfl
  | cons head rest ih =>
    obtain ⟨other, value⟩ := head
    obtain ⟨absent, later⟩ := List.nodup_cons.mp distinct
    rw [List.foldl_cons, ih later, find?]
    by_cases same : key = other
    · subst same
      rw [find?_of_absent absent, get?_insert_self, if_pos rfl]
      rfl
    · rw [get?_insert_of_ne map same, if_neg same]

/-- **After one map was laid over another** its entries are found, and the other's where it has none. -/
theorem get?_overlaid (under added : SortedMap κ α) (key : κ) :
    (under.overlaid added).get? key = (added.get? key).or (under.get? key) :=
  get?_foldl_insert added.keys_nodup under key

/-- In the map of entries with different keys every one of them is found. -/
theorem get?_ofList {entries : List (κ × α)} (distinct : (entries.map (·.1)).Nodup) (key : κ) :
    (ofList entries).get? key = find? key entries := by
  rw [ofList, get?_foldl_insert distinct, get?_empty, Option.or_none]

/-- Among entries with different keys it is those entries that are found. -/
theorem find?_eq_some_iff {entries : List (κ × α)} (distinct : (entries.map (·.1)).Nodup) {key : κ} {value : α} :
    find? key entries = some value ↔ (key, value) ∈ entries := by
  induction entries with
  | nil => exact iff_of_false nofun List.not_mem_nil
  | cons head rest ih =>
    obtain ⟨other, first⟩ := head
    obtain ⟨absent, later⟩ := List.nodup_cons.mp distinct
    rw [find?, List.mem_cons, Prod.mk.injEq]
    by_cases same : key = other
    · subst same
      have elsewhere : (key, value) ∉ rest := fun among => absent (List.mem_map.mpr ⟨_, among, rfl⟩)
      simp [elsewhere, eq_comm]
    · simp [same, ih later]

theorem get?_ofList_eq_some_iff {entries : List (κ × α)} (distinct : (entries.map (·.1)).Nodup) {key : κ} {value : α} :
    (ofList entries).get? key = some value ↔ (key, value) ∈ entries := by
  rw [get?_ofList distinct, find?_eq_some_iff distinct]

end SortedMap

namespace Json

variable {members : SortedMap String Json} {name other : String}

/-! ### Putting members -/

theorem putMember_eq_put (name : String) (value : Json) (entries : List (String × Json)) :
    putMember name value entries = SortedMap.put name value entries := by
  induction entries with
  | nil => rfl
  | cons head rest ih =>
    obtain ⟨other, old⟩ := head
    rw [putMember, SortedMap.put, ih]
    by_cases same : name = other
    · subst same
      simp
    · simp [same]

/-- **Members laid over those of a map** are the map with each of them written, one after the other. -/
theorem overlay_eq (map : SortedMap String Json) (change : List (String × Json)) :
    overlay map.entries change =
      (change.foldl (fun map (key, value) => map.insert key value) map).entries := by
  induction change generalizing map with
  | nil => rfl
  | cons head rest ih =>
    obtain ⟨name, value⟩ := head
    have written : putMember name value map.entries = (map.insert name value).entries :=
      putMember_eq_put name value map.entries
    show overlay (putMember name value map.entries) rest = _
    rw [written, ih]
    rfl

theorem overlay_entries (under added : SortedMap String Json) :
    overlay under.entries added.entries = (under.overlaid added).entries :=
  overlay_eq under added.entries

/-- An object of members is the map of them. -/
theorem ofMembers_eq (entries : List (String × Json)) :
    ofMembers entries = .object (SortedMap.ofList entries).entries :=
  congrArg Json.object (overlay_eq SortedMap.empty entries)

/-! ### Reading members -/

/-- The place of a name among the members of an object. -/
def place (members : SortedMap String Json) (name : String) : Nat := members.keys.idxOf name

/-- Places are in the order of names. -/
theorem place_lt_place {first second : String} (less : first < second) (inFirst : first ∈ members.keys)
    (inSecond : second ∈ members.keys) : place members first < place members second := by
  have fits := List.idxOf_lt_length_of_mem inFirst
  have alsoFits := List.idxOf_lt_length_of_mem inSecond
  by_contra notBefore
  rcases Nat.lt_or_eq_of_le (Nat.le_of_not_lt notBefore) with before | same
  · have reversed := List.pairwise_iff_getElem.mp members.keys_pairwise _ _ alsoFits fits before
    rw [List.getElem_idxOf alsoFits, List.getElem_idxOf fits] at reversed
    exact Key.irrefl first (Key.trans less reversed)
  · have equal : second = first := (List.idxOf_inj inSecond).mp same
    rw [equal] at less
    exact Key.irrefl first less

/-- A member of a name, if it is that, with its place. -/
def named? (name : String) (entry : (String × Json) × Nat) : Option (Nat × Json) :=
  if name = entry.1.1 then some (entry.2, entry.1.2) else none

theorem occurrences_eq (name : String) (entries : List (String × Json)) :
    Fields.occurrences [name] entries = entries.zipIdx.filterMap (named? name) := by
  refine List.filterMap_congr fun entry _ => ?_
  unfold named?
  by_cases same : name = entry.1.1
  · simp [← same]
  · simp [same, Ne.symm same]

/-- Among members that have different names there is one of a name that is found. -/
theorem filterMap_named? {entries : List (String × Json)} (nodup : (entries.map (·.1)).Nodup) {value : Json}
    (found : SortedMap.find? name entries = some value) (start : Nat) :
    (entries.zipIdx start).filterMap (named? name) = [(start + (entries.map (·.1)).idxOf name, value)] := by
  induction entries generalizing start with
  | nil => exact nomatch found
  | cons head rest ih =>
    obtain ⟨other, old⟩ := head
    obtain ⟨absent, distinct⟩ := List.nodup_cons.mp nodup
    rw [List.zipIdx_cons, List.filterMap_cons, List.map_cons]
    by_cases same : name = other
    · subst same
      obtain rfl : old = value := by simpa [SortedMap.find?] using found
      have none : (rest.zipIdx (start + 1)).filterMap (named? name) = [] := by
        refine List.filterMap_eq_nil_iff.mpr fun entry member => if_neg fun same => absent ?_
        exact List.mem_map.mpr ⟨entry.1, List.fst_mem_of_mem_zipIdx member, same.symm⟩
      simp [named?, none]
    · have later : SortedMap.find? name rest = some value := by simpa [SortedMap.find?, same] using found
      simp [named?, same, ih distinct later, List.idxOf_cons_ne _ (Ne.symm same)]
      omega

/-- **A field reads the member of its name**, and a fault in it has the place of that name. -/
theorem read_field {value : Json} (found : members.get? name = some value) {α : Type} (decode : Decoder α)
    (absentMember absentItem : Option α) (number : Nat) :
    (Fields.field [name] decode absentMember absentItem).read number (.members members.entries) =
      (decode value).mapError fun error => ⟨place members name, error⟩ := by
  have one : Fields.occurrences [name] members.entries = [(place members name, value)] := by
    rw [occurrences_eq, filterMap_named? members.keys_nodup found 0, Nat.zero_add]
    rfl
  simp only [Fields.field, one]
  cases decode value <;> rfl

theorem read_map {α β : Type} (f : α → β) (x : Fields α) (number : Nat) (source : Source) :
    (f <$> x).read number source = Fields.both (.ok f) (x.read number source) := rfl

/-- A record of one field that has to be there is what is read from the member of its name. -/
theorem decode_required {α β : Type} {value : Json} (found : members.get? name = some value) (f : α → β)
    (decode : Decoder α) :
    (f <$> Fields.required name decode).decode (.object members.entries) = (decode value).map f := by
  simp only [Fields.decode, Fields.required, read_map, read_field found]
  cases decode value <;> rfl

/-- A number of 32 bits is read as it was written. -/
theorem Decoder.halfWord_ofNat (n : UInt32) : halfWord (.ofNat n.toNat) = .ok n := by
  have bound : n.toNat < 4294967296 := n.toNat_lt
  have fits : 0 ≤ (n.toNat : Int) ∧ (n.toNat : Int) < Number.halfBound :=
    ⟨Int.natCast_nonneg _, Int.ofNat_lt.mpr bound⟩
  rw [halfWord, Json.ofNat, integer, if_pos fits]
  simp [Except.map]

end Json

end StreamWatch
