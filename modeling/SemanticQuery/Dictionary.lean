/-!
# Dictionaries

Finite maps from names to values, as a list of entries with distinct names. Inserting a name that is
there replaces its value in place, so the order of the entries is the order of first insertion; no
operation below depends on it.
-/

set_option autoImplicit false

namespace SemanticQuery

universe u

/-- A finite map from names to values. -/
structure Dictionary (α : Type u) where
  entries : List (String × α) := []
  distinct : (entries.map Prod.fst).Nodup := by simp

namespace Dictionary

variable {α : Type u}

/-- The dictionary without entries. -/
def empty : Dictionary α := {}

instance : Inhabited (Dictionary α) := ⟨empty⟩

/-- The value of a name. -/
def find? (d : Dictionary α) (name : String) : Option α :=
  d.entries.lookup name

/-- Tells whether a name has a value. -/
def contains (d : Dictionary α) (name : String) : Bool :=
  (d.find? name).isSome

/-- Sets the value of a name in a list of entries. -/
def put (name : String) (value : α) : List (String × α) → List (String × α)
  | [] => [(name, value)]
  | entry :: rest =>
      if entry.1 = name then (name, value) :: rest else entry :: put name value rest

/-- The names after setting a value are the old ones and the new one. -/
theorem mem_keys_put {name key : String} {value : α} {entries : List (String × α)} :
    key ∈ (put name value entries).map Prod.fst ↔ key = name ∨ key ∈ entries.map Prod.fst := by
  induction entries with
  | nil => simp [put]
  | cons entry rest ih =>
    by_cases h : entry.1 = name
    · simp [put, h]
    · simp only [put, h, if_false, List.map_cons, List.mem_cons, ih]
      constructor
      · rintro (h | h | h) <;> simp [h]
      · rintro (h | h | h) <;> simp [h]

/-- Setting a value keeps the names distinct. -/
theorem nodup_keys_put {name : String} {value : α} {entries : List (String × α)}
    (h : (entries.map Prod.fst).Nodup) : ((put name value entries).map Prod.fst).Nodup := by
  induction entries with
  | nil => simp [put]
  | cons entry rest ih =>
    rw [List.map_cons, List.nodup_cons] at h
    by_cases hn : entry.1 = name
    · simpa [put, hn] using ⟨by simpa [hn] using h.1, h.2⟩
    · simp only [put, hn, if_false, List.map_cons, List.nodup_cons]
      refine ⟨fun hmem => ?_, ih h.2⟩
      rcases mem_keys_put.1 hmem with h' | h'
      · exact hn h'
      · exact h.1 h'

/-- Sets the value of a name. -/
def insert (d : Dictionary α) (name : String) (value : α) : Dictionary α :=
  ⟨put name value d.entries, nodup_keys_put d.distinct⟩

/-- The dictionary of a list of entries, of which the last one counts when a name is repeated. -/
def ofList (entries : List (String × α)) : Dictionary α :=
  entries.foldl (fun d entry => d.insert entry.1 entry.2) empty

/-- Looking up a name in a list of entries after setting one. -/
theorem lookup_put (name key : String) (value : α) (entries : List (String × α)) :
    (put name value entries).lookup key =
      if key = name then some value else entries.lookup key := by
  induction entries with
  | nil =>
    by_cases h : key = name
    · simp [put, h]
    · have hb : (key == name) = false := beq_eq_false_iff_ne.2 h
      simp [put, List.lookup_cons, h, hb]
  | cons entry rest ih =>
    obtain ⟨k, v⟩ := entry
    by_cases hk : k = name
    · subst hk
      by_cases h : key = k
      · simp [put, h]
      · have hb : (key == k) = false := beq_eq_false_iff_ne.2 h
        simp [put, List.lookup_cons, h, hb]
    · by_cases h : key = k
      · subst h
        simp [put, hk]
      · have hb : (key == k) = false := beq_eq_false_iff_ne.2 h
        simp [put, hk, List.lookup_cons, hb, ih]

/-- Looking up a name after setting one. -/
theorem find?_insert (d : Dictionary α) (name key : String) (value : α) :
    (d.insert name value).find? key = if key = name then some value else d.find? key :=
  lookup_put name key value d.entries

/-- The names in a list of entries being distinct, looking one up finds exactly its entry. -/
theorem lookup_eq_some_iff {entries : List (String × α)} (h : (entries.map Prod.fst).Nodup)
    {name : String} {value : α} :
    entries.lookup name = some value ↔ (name, value) ∈ entries := by
  induction entries with
  | nil => simp
  | cons entry rest ih =>
    obtain ⟨k, v⟩ := entry
    rw [List.map_cons, List.nodup_cons] at h
    by_cases hk : name = k
    · subst hk
      have hnot : (name, value) ∉ rest := fun hm => h.1 (List.mem_map.2 ⟨_, hm, rfl⟩)
      simp [hnot, eq_comm]
    · have hb : (name == k) = false := beq_eq_false_iff_ne.2 hk
      simp [List.lookup_cons, hb, hk, ih h.2]

/-- A name has the value that its entry holds. -/
theorem find?_eq_some_iff (d : Dictionary α) {name : String} {value : α} :
    d.find? name = some value ↔ (name, value) ∈ d.entries :=
  lookup_eq_some_iff d.distinct

end Dictionary

end SemanticQuery
