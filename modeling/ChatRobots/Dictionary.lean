/-
Module: ChatRobots.Dictionary
Purpose: Finite maps from texts, in the order of their keys.
Main exports: Dictionary, Dictionary.put, Dictionary.find?, Dictionary.keys
-/

namespace ChatRobots

/-!
A dictionary is the list of its entries in strictly rising order of the keys, so it has each key
once and two dictionaries with the same entries are equal.  Keys are ordered character by
character, which is also the order of their UTF-8 bytes.  `put` replaces the value of a key that
is there: of several values for one key the last one put in is the one found.
-/

/-- A finite map from texts. -/
structure Dictionary (α : Type) where
  entries : List (String × α)
  sorted : entries.Pairwise fun a b => a.1 < b.1

namespace Dictionary

variable {α : Type}

/-- The dictionary without entries. -/
def empty : Dictionary α := ⟨[], List.Pairwise.nil⟩

instance : EmptyCollection (Dictionary α) := ⟨empty⟩

instance : Inhabited (Dictionary α) := ⟨empty⟩

/-- Insert into a sorted list of entries. -/
def insertEntry (key : String) (value : α) : List (String × α) → List (String × α)
  | [] => [(key, value)]
  | (k, v) :: rest =>
      if key < k then (key, value) :: (k, v) :: rest
      else if key = k then (key, value) :: rest
      else (k, v) :: insertEntry key value rest

theorem mem_insertEntry {key : String} {value : α} {list : List (String × α)}
    {entry : String × α} (h : entry ∈ insertEntry key value list) :
    entry = (key, value) ∨ entry ∈ list := by
  induction list with
  | nil => simp_all [insertEntry]
  | cons head rest ih =>
    obtain ⟨k, v⟩ := head
    simp only [insertEntry] at h
    split at h
    · simpa using h
    · split at h
      · rcases List.mem_cons.1 h with h | h
        · exact .inl h
        · exact .inr (List.mem_cons_of_mem _ h)
      · rcases List.mem_cons.1 h with h | h
        · exact .inr (h ▸ List.mem_cons_self)
        · exact (ih h).imp id (List.mem_cons_of_mem _)

theorem sorted_insertEntry (key : String) (value : α) {list : List (String × α)}
    (h : list.Pairwise fun a b => a.1 < b.1) :
    (insertEntry key value list).Pairwise fun a b => a.1 < b.1 := by
  induction list with
  | nil => simp [insertEntry]
  | cons head rest ih =>
    obtain ⟨k, v⟩ := head
    rw [List.pairwise_cons] at h
    simp only [insertEntry]
    split
    · rename_i hlt
      refine List.pairwise_cons.2 ⟨fun e he => ?_, List.pairwise_cons.2 h⟩
      rcases List.mem_cons.1 he with rfl | he
      · exact hlt
      · exact String.lt_trans hlt (h.1 e he)
    · rename_i hnot
      split
      · rename_i heq
        exact List.pairwise_cons.2 ⟨fun e he => heq ▸ h.1 e he, h.2⟩
      · rename_i hne
        refine List.pairwise_cons.2 ⟨fun e he => ?_, ih h.2⟩
        rcases mem_insertEntry he with rfl | he
        · exact Classical.byContradiction fun hge =>
            hne (String.le_antisymm (String.not_lt.1 hge) (String.not_lt.1 hnot))
        · exact h.1 e he

/-- Write the value under the key. -/
def put (key : String) (value : α) (d : Dictionary α) : Dictionary α :=
  ⟨insertEntry key value d.entries, sorted_insertEntry key value d.sorted⟩

/-- The value under the key. -/
def find? (d : Dictionary α) (key : String) : Option α :=
  d.entries.lookup key

/-- The keys in rising order. -/
def keys (d : Dictionary α) : List String :=
  d.entries.map (·.1)

/-- How many keys there are. -/
def size (d : Dictionary α) : Nat :=
  d.entries.length

/-- Put entries in one after another. -/
def putAll (entries : List (String × α)) (d : Dictionary α) : Dictionary α :=
  entries.foldl (fun d (key, value) => d.put key value) d

def ofList (entries : List (String × α)) : Dictionary α :=
  putAll entries empty

@[simp] theorem find?_empty (key : String) : (empty : Dictionary α).find? key = none := rfl

theorem lookup_cons_eq (key k : String) (v : α) (rest : List (String × α)) :
    List.lookup key ((k, v) :: rest) = if key = k then some v else rest.lookup key := by
  rw [List.lookup_cons]
  by_cases h : key = k
  · simp [h]
  · have : (key == k) = false := by simpa using h
    simp [h, this]

theorem lookup_insertEntry (key other : String) (value : α) (list : List (String × α)) :
    (insertEntry key value list).lookup other
      = if other = key then some value else list.lookup other := by
  induction list with
  | nil => simp [insertEntry, lookup_cons_eq]
  | cons head rest ih =>
    obtain ⟨k, v⟩ := head
    simp only [insertEntry]
    split
    · simp [lookup_cons_eq]
    · split
      · rename_i heq
        subst heq
        simp only [lookup_cons_eq]
        split <;> simp_all
      · rename_i hne
        simp only [lookup_cons_eq, ih]
        split
        · rename_i hk
          simp [hk, Ne.symm hne]
        · rfl

/-- What is found after a value is put in: the value under its key, the rest as before. -/
theorem find?_put (d : Dictionary α) (key other : String) (value : α) :
    (d.put key value).find? other = if other = key then some value else d.find? other :=
  lookup_insertEntry key other value d.entries

/-- A value is found because it was put in last under its key, or because it was there before. -/
theorem find?_put_eq_some_iff {d : Dictionary α} {key other : String} {value found : α} :
    (d.put key value).find? other = some found ↔
      other = key ∧ value = found ∨ other ≠ key ∧ d.find? other = some found := by
  rw [find?_put]
  split <;> simp_all

/-- No key is listed twice. -/
theorem nodup_keys (d : Dictionary α) : d.keys.Nodup := by
  rw [keys, List.Nodup, List.pairwise_map]
  refine d.sorted.imp ?_
  intro a b hab heq
  rw [heq] at hab
  exact String.lt_irrefl _ hab

end Dictionary

end ChatRobots
