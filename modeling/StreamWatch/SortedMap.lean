/-
**Finite maps kept in ascending order of their keys.**

A map is the list of its entries, so two maps with the same entries are equal.

* `get?_insert_self`, `get?_insert_of_ne`: writing a key changes what is found at that key alone;
* `get?_eq_some_iff`: what is found at a key is the entry of that key;
* `get?_modify`: what is found after a change of the value at a key;
* `mem_keys`, `keys_eq_of_mem_iff`: the keys are where something is found, and their order is a matter of that
  alone;
* `ext_get?`: a map is told by what is found in it;
* `get?_filter`: what is found among chosen entries;
* `mapValues_insert`, `filter_mapValues`: a change of all values goes through writing and choosing entries.
-/

namespace StreamWatch

/-- A type whose values are ordered one after the other. -/
class Key (κ : Type) extends LT κ where
  decEq : DecidableEq κ
  decLt : DecidableLT κ
  trans : ∀ {a b c : κ}, a < b → b < c → a < c
  irrefl : ∀ a : κ, ¬ a < a
  connex : ∀ {a b : κ}, ¬ a < b → a ≠ b → b < a

instance decidableEqKey {κ : Type} [Key κ] : DecidableEq κ := Key.decEq

instance decidableLTKey {κ : Type} [Key κ] (a b : κ) : Decidable (a < b) := Key.decLt a b

instance keyInt : Key Int where
  decEq := inferInstance
  decLt := inferInstance
  trans := Int.lt_trans
  irrefl := Int.lt_irrefl
  connex := by omega

instance keyString : Key String where
  decEq := inferInstance
  decLt := inferInstance
  trans := String.lt_trans
  irrefl := String.lt_irrefl
  connex := fun notLess differ =>
    Std.lt_of_le_of_ne (String.not_lt.mp notLess) (Ne.symm differ)

/-- A finite map, as its entries in ascending order of their keys. -/
structure SortedMap (κ α : Type) [Key κ] where
  entries : List (κ × α)
  ascending : entries.Pairwise fun a b => a.1 < b.1

namespace SortedMap

variable {κ α β : Type} [Key κ]

/-- The map without entries. -/
def empty : SortedMap κ α := ⟨[], .nil⟩

instance inhabited : Inhabited (SortedMap κ α) := ⟨empty⟩

/-- Puts an entry in its place; an entry of the same key gives way to it. -/
def put (key : κ) (value : α) : List (κ × α) → List (κ × α)
  | [] => [(key, value)]
  | (other, old) :: rest =>
    if key < other then (key, value) :: (other, old) :: rest
    else if key = other then (key, value) :: rest
    else (other, old) :: put key value rest

theorem mem_put {key : κ} {value : α} {entry : κ × α} {entries : List (κ × α)}
    (member : entry ∈ put key value entries) : entry = (key, value) ∨ entry ∈ entries := by
  induction entries with
  | nil => simpa [put] using member
  | cons head rest ih =>
    obtain ⟨other, old⟩ := head
    rw [put] at member
    split at member
    · simpa using member
    · split at member
      · rcases List.mem_cons.mp member with same | later
        · exact .inl same
        · exact .inr (List.mem_cons_of_mem _ later)
      · rcases List.mem_cons.mp member with same | later
        · exact .inr (by simp [same])
        · exact (ih later).imp id (List.mem_cons_of_mem _)

theorem ascending_put (key : κ) (value : α) {entries : List (κ × α)}
    (sorted : entries.Pairwise fun a b => a.1 < b.1) :
    (put key value entries).Pairwise fun a b => a.1 < b.1 := by
  induction entries with
  | nil => simp [put]
  | cons head rest ih =>
    obtain ⟨other, old⟩ := head
    rw [List.pairwise_cons] at sorted
    rw [put]
    split
    · next less =>
      refine List.pairwise_cons.mpr ⟨fun entry member => ?_, List.pairwise_cons.mpr sorted⟩
      rcases List.mem_cons.mp member with same | later
      · exact same ▸ less
      · exact Key.trans less (sorted.1 entry later)
    · next notLess =>
      split
      · next same => exact List.pairwise_cons.mpr ⟨same ▸ sorted.1, sorted.2⟩
      · next differ =>
        refine List.pairwise_cons.mpr ⟨fun entry member => ?_, ih sorted.2⟩
        rcases mem_put member with same | later
        · exact same ▸ Key.connex notLess differ
        · exact sorted.1 entry later

/-- The map with an entry written. -/
def insert (map : SortedMap κ α) (key : κ) (value : α) : SortedMap κ α :=
  ⟨put key value map.entries, ascending_put key value map.ascending⟩

/-- What is found at a key in a list of entries. -/
def find? (key : κ) : List (κ × α) → Option α
  | [] => none
  | (other, value) :: rest => if key = other then some value else find? key rest

/-- What is found at a key. -/
def get? (map : SortedMap κ α) (key : κ) : Option α := find? key map.entries

/-- Whether there is an entry at a key. -/
def contains (map : SortedMap κ α) (key : κ) : Bool := (map.get? key).isSome

/-- The keys in ascending order. -/
def keys (map : SortedMap κ α) : List κ := map.entries.map (·.1)

/-- The values in ascending order of their keys. -/
def values (map : SortedMap κ α) : List α := map.entries.map (·.2)

/-- The map of a list of entries; the last entry of a key counts. -/
def ofList (entries : List (κ × α)) : SortedMap κ α :=
  entries.foldl (fun map (key, value) => map.insert key value) empty

/-- The map with every value changed. -/
def mapValues (f : κ → α → β) (map : SortedMap κ α) : SortedMap κ β :=
  ⟨map.entries.map fun entry => (entry.1, f entry.1 entry.2), by
    rw [List.pairwise_map]; exact map.ascending⟩

/-- The map with the value at a key changed, if there is one. -/
def modify (map : SortedMap κ α) (key : κ) (f : α → α) : SortedMap κ α :=
  map.mapValues fun other value => if other = key then f value else value

/-- The entries that satisfy a condition. -/
def filter (keep : κ → α → Bool) (map : SortedMap κ α) : SortedMap κ α :=
  ⟨map.entries.filter fun entry => keep entry.1 entry.2, map.ascending.filter _⟩

@[simp] theorem get?_empty (key : κ) : (empty : SortedMap κ α).get? key = none := rfl

theorem find?_put_self (key : κ) (value : α) (entries : List (κ × α)) :
    find? key (put key value entries) = some value := by
  induction entries with
  | nil => simp [put, find?]
  | cons head rest ih =>
    obtain ⟨other, old⟩ := head
    rw [put]
    split
    · simp [find?]
    · split
      · simp [find?]
      · next differ => simp [find?, differ, ih]

theorem find?_put_of_ne {key other : κ} (differ : other ≠ key) (value : α)
    (entries : List (κ × α)) : find? other (put key value entries) = find? other entries := by
  induction entries with
  | nil => simp [put, find?, differ]
  | cons head rest ih =>
    obtain ⟨third, old⟩ := head
    rw [put]
    split
    · simp [find?, differ]
    · split
      · next same => subst same; simp [find?, differ]
      · simp [find?, ih]

/-- A written key holds what was written. -/
@[simp] theorem get?_insert_self (map : SortedMap κ α) (key : κ) (value : α) :
    (map.insert key value).get? key = some value :=
  find?_put_self key value map.entries

/-- Writing a key changes nothing at another key. -/
theorem get?_insert_of_ne (map : SortedMap κ α) {key other : κ} (differ : other ≠ key) (value : α) :
    (map.insert key value).get? other = map.get? other :=
  find?_put_of_ne differ value map.entries

/-- What is found at a key is the entry of that key. -/
theorem get?_eq_some_iff (map : SortedMap κ α) (key : κ) (value : α) :
    map.get? key = some value ↔ (key, value) ∈ map.entries := by
  obtain ⟨entries, sorted⟩ := map
  simp only [get?]
  induction entries with
  | nil => simp [find?]
  | cons head rest ih =>
    obtain ⟨other, old⟩ := head
    rw [List.pairwise_cons] at sorted
    rw [find?]
    split
    · next same =>
      subst same
      constructor
      · intro found; simp_all
      · intro member
        rcases List.mem_cons.mp member with same | later
        · simp_all
        · exact absurd (sorted.1 _ later) (Key.irrefl key)
    · next differ => simp [ih sorted.2, differ]

theorem find?_map (f : κ → α → β) (key : κ) (entries : List (κ × α)) :
    find? key (entries.map fun entry => (entry.1, f entry.1 entry.2)) = (find? key entries).map (f key) := by
  induction entries with
  | nil => rfl
  | cons head rest ih =>
    obtain ⟨other, old⟩ := head
    simp only [List.map_cons, find?]
    split
    · next same => rw [same]; rfl
    · exact ih

/-- What is found after every value was changed is what was found before, changed. -/
theorem get?_mapValues (f : κ → α → β) (map : SortedMap κ α) (key : κ) :
    (map.mapValues f).get? key = (map.get? key).map (f key) :=
  find?_map f key map.entries

/-- Changing the value at a key changes what is found at that key alone. -/
theorem get?_modify (map : SortedMap κ α) (key other : κ) (f : α → α) :
    (map.modify key f).get? other = (map.get? other).map fun value => if other = key then f value else value :=
  get?_mapValues _ map other

/-- The keys are where something is found. -/
theorem mem_keys {map : SortedMap κ α} {key : κ} : key ∈ map.keys ↔ ∃ value, map.get? key = some value := by
  simp only [keys, List.mem_map, Prod.exists, exists_and_right, exists_eq_right, get?_eq_some_iff]

theorem mem_keys_insert {map : SortedMap κ α} {key other : κ} {value : α} :
    other ∈ (map.insert key value).keys ↔ other = key ∨ other ∈ map.keys := by
  simp only [mem_keys]
  by_cases same : other = key
  · subst same
    rw [get?_insert_self]
    exact ⟨fun _ => .inl rfl, fun _ => ⟨value, rfl⟩⟩
  · rw [get?_insert_of_ne map same]
    exact ⟨.inr, fun either => either.resolve_left same⟩

theorem mem_values {map : SortedMap κ α} {value : α} :
    value ∈ map.values ↔ ∃ key, map.get? key = some value := by
  simp only [values, List.mem_map, Prod.exists, exists_eq_right, get?_eq_some_iff]

theorem keys_pairwise (map : SortedMap κ α) : map.keys.Pairwise fun a b => a < b := by
  rw [keys, List.pairwise_map]
  exact map.ascending

theorem keys_nodup (map : SortedMap κ α) : map.keys.Nodup := by
  refine map.keys_pairwise.imp fun less same => ?_
  rw [same] at less
  exact Key.irrefl _ less

/-- Maps with entries at the same keys have them in the same order. -/
theorem keys_eq_of_mem_iff {first : SortedMap κ α} {second : SortedMap κ β}
    (same : ∀ key, key ∈ first.keys ↔ key ∈ second.keys) : first.keys = second.keys := by
  have reordered := (List.perm_ext_iff_of_nodup first.keys_nodup second.keys_nodup).mpr fun key => same key
  refine reordered.eq_of_pairwise (fun a b _ _ less more => ?_) first.keys_pairwise second.keys_pairwise
  exact absurd (Key.trans less more) (Key.irrefl a)

theorem entries_nodup (map : SortedMap κ α) : map.entries.Nodup := by
  refine map.ascending.imp fun less same => ?_
  rw [same] at less
  exact Key.irrefl _ less

/-- Maps in which the same is found at every key are equal. -/
theorem ext_get? {first second : SortedMap κ α} (same : ∀ key, first.get? key = second.get? key) :
    first = second := by
  have reordered : first.entries.Perm second.entries :=
    (List.perm_ext_iff_of_nodup first.entries_nodup second.entries_nodup).mpr fun entry => by
      rw [← get?_eq_some_iff, ← get?_eq_some_iff, same]
  have ordered := reordered.eq_of_pairwise (fun a b _ _ less more =>
    absurd (Key.trans less more) (Key.irrefl a.1)) first.ascending second.ascending
  cases first
  cases second
  cases ordered
  rfl

/-- What is found among chosen entries is what was found before, if it was chosen. -/
theorem get?_filter (keep : κ → α → Bool) (map : SortedMap κ α) (key : κ) :
    (map.filter keep).get? key = (map.get? key).filter (keep key) := by
  refine Option.ext fun value => ?_
  rw [get?_eq_some_iff, Option.filter_eq_some_iff, get?_eq_some_iff]
  exact List.mem_filter

theorem get?_of_get?_filter {keep : κ → α → Bool} {map : SortedMap κ α} {key : κ} {value : α}
    (found : (map.filter keep).get? key = some value) : map.get? key = some value := by
  rw [get?_filter, Option.filter_eq_some_iff] at found
  exact found.1

theorem filter_congr {keep choose : κ → α → Bool} {map : SortedMap κ α}
    (same : ∀ key value, map.get? key = some value → keep key value = choose key value) :
    map.filter keep = map.filter choose := by
  refine ext_get? fun key => ?_
  rw [get?_filter, get?_filter]
  cases found : map.get? key with
  | none => rfl
  | some value => rw [Option.filter_some, Option.filter_some, same key value found]

theorem mapValues_insert (f : κ → α → β) (map : SortedMap κ α) (key : κ) (value : α) :
    (map.insert key value).mapValues f = (map.mapValues f).insert key (f key value) := by
  refine ext_get? fun other => ?_
  rw [get?_mapValues]
  by_cases same : other = key
  · rw [same, get?_insert_self, get?_insert_self]
    rfl
  · rw [get?_insert_of_ne map same, get?_insert_of_ne _ same, get?_mapValues]

theorem filter_mapValues (f : κ → α → β) (keep : κ → β → Bool) (map : SortedMap κ α) :
    (map.mapValues f).filter keep = (map.filter fun key value => keep key (f key value)).mapValues f := by
  simp only [filter, mapValues, List.filter_map]
  rfl

theorem values_mapValues (f : α → β) (map : SortedMap κ α) :
    (map.mapValues fun _ => f).values = map.values.map f := by
  simp only [values, mapValues, List.map_map]
  rfl

theorem contains_mapValues (f : κ → α → β) (map : SortedMap κ α) :
    (map.mapValues f).contains = map.contains := by
  funext key
  rw [contains, get?_mapValues, Option.isSome_map, contains]

end SortedMap
end StreamWatch
