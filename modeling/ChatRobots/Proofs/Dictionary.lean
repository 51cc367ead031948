/-
Module: ChatRobots.Proofs.Dictionary
Purpose: Dictionaries are told apart by what is found in them, and keys can be taken out again.
Main exports: isSome_lookup_iff, mem_of_lookup, Dictionary.find?_eq_some_iff,
  Dictionary.eq_of_find?_eq, Dictionary.find?_putAll, Dictionary.erase, Dictionary.find?_erase,
  Dictionary.pairwise_keys
-/
import Mathlib.Data.List.Nodup
import Mathlib.Data.List.Sort
import Mathlib.Data.String.Basic
import ChatRobots.Dictionary
import ChatRobots.Proofs.Text.Utf8Order

namespace ChatRobots

/-!
A dictionary is meant as a function from texts, given by `find?`.  Its list of entries is one way
to write this function down, and as the keys rise strictly it is the only one: two dictionaries in
which the same is found are the same, listings included.
-/

section Lookup

variable {α : Type} {entries : List (String × α)} {name : String}

/-- Something is found under the names that are listed. -/
theorem isSome_lookup_iff : (entries.lookup name).isSome ↔ name ∈ entries.map (·.1) := by
  rw [List.lookup_isSome_iff, List.mem_map]
  constructor
  · rintro ⟨entry, mem, same⟩
    exact ⟨entry, mem, (eq_of_beq same).symm⟩
  · rintro ⟨entry, mem, same⟩
    exact ⟨entry, mem, beq_iff_eq.2 same.symm⟩

theorem mem_of_lookup {value : α} (found : entries.lookup name = some value) :
    (name, value) ∈ entries := by
  obtain ⟨before, after, rfl, -⟩ := List.lookup_eq_some_iff.1 found
  exact List.mem_append_right before List.mem_cons_self

/-- Where no name is listed twice, what is listed with a name is found under it. -/
theorem lookup_of_mem (once : (entries.map (·.1)).Nodup) {value : α}
    (mem : (name, value) ∈ entries) : entries.lookup name = some value := by
  have known : (entries.lookup name).isSome := isSome_lookup_iff.2 (List.mem_map_of_mem mem)
  obtain ⟨found, isFound⟩ := Option.isSome_iff_exists.1 known
  have same : (name, found) = (name, value) :=
    List.inj_on_of_nodup_map once (mem_of_lookup isFound) mem rfl
  rw [isFound, (Prod.mk.inj same).2]

theorem lookup_filter_ne (entries : List (String × α)) (name other : String) :
    (entries.filter fun entry => entry.1 != name).lookup other =
      if other = name then none else entries.lookup other := by
  induction entries with
  | nil => simp
  | cons entry rest ih =>
    obtain ⟨key, value⟩ := entry
    by_cases own : key = name
    · subst own
      rw [List.filter_cons_of_neg (by simp), ih, Dictionary.lookup_cons_eq]
      split <;> rfl
    · rw [List.filter_cons_of_pos (by simpa using own), Dictionary.lookup_cons_eq, ih,
        Dictionary.lookup_cons_eq]
      by_cases asked : other = key
      · rw [if_pos asked, if_neg (asked ▸ own), if_pos asked]
      · rw [if_neg asked, if_neg asked]

end Lookup

namespace Dictionary

variable {α β : Type} {d d' : Dictionary α} {key : String} {value : α}

/-- A key is listed if and only if something is found under it. -/
theorem mem_keys_iff : key ∈ d.keys ↔ (d.find? key).isSome :=
  isSome_lookup_iff.symm

/-- What is found under a key is what is listed with it. -/
theorem find?_eq_some_iff : d.find? key = some value ↔ (key, value) ∈ d.entries :=
  ⟨mem_of_lookup, lookup_of_mem d.nodup_keys⟩

theorem eq_of_entries_eq (same : d.entries = d'.entries) : d = d' := by
  cases d
  cases d'
  cases same
  rfl

/-- Two dictionaries in which the same is found are the same. -/
theorem eq_of_find?_eq (same : ∀ key, d.find? key = d'.find? key) : d = d' := by
  have asymm : Std.Antisymm fun a b : String × α => a.1 < b.1 :=
    ⟨fun _ _ less more => absurd (String.lt_trans less more) (String.lt_irrefl _)⟩
  have irrefl : Std.Irrefl fun a b : String × α => a.1 < b.1 := ⟨fun _ => String.lt_irrefl _⟩
  apply eq_of_entries_eq
  apply List.Pairwise.eq_of_mem_iff d.sorted d'.sorted
  rintro ⟨key, value⟩
  rw [← find?_eq_some_iff, ← find?_eq_some_iff, same]

/-- Two dictionaries with a value under the same keys list the same keys. -/
theorem keys_eq {d' : Dictionary β}
    (same : ∀ key, (d.find? key).isSome ↔ (d'.find? key).isSome) : d.keys = d'.keys := by
  apply List.Pairwise.eq_of_mem_iff (List.pairwise_map.2 d.sorted) (List.pairwise_map.2 d'.sorted)
  intro key
  rw [← isSome_lookup_iff, ← isSome_lookup_iff]
  exact same key

/-- Keys are listed in the order of their bytes. -/
theorem pairwise_keys (d : Dictionary α) :
    d.keys.Pairwise fun a b => Text.encodeUtf8 a < Text.encodeUtf8 b := by
  rw [keys, List.pairwise_map]
  exact d.sorted.imp Text.encodeUtf8_lt

/-- Of the entries put in, the last one under a key is found, and without one what was there. -/
theorem find?_putAll (entries : List (String × α)) (d : Dictionary α) (key : String) :
    (putAll entries d).find? key = (entries.reverse.lookup key).or (d.find? key) := by
  induction entries generalizing d with
  | nil => rfl
  | cons entry rest ih =>
    obtain ⟨name, value⟩ := entry
    have later : (putAll ((name, value) :: rest) d).find? key =
        (rest.reverse.lookup key).or ((d.put name value).find? key) := ih (d.put name value)
    rw [later, find?_put, List.reverse_cons, List.lookup_append, Option.or_assoc, lookup_cons_eq]
    split <;> simp

/-- The dictionary without a key. -/
def erase (key : String) (d : Dictionary α) : Dictionary α :=
  ⟨d.entries.filter fun entry => entry.1 != key, d.sorted.filter _⟩

/-- What is found after a key is taken out: nothing under the key, the rest as before. -/
theorem find?_erase (d : Dictionary α) (key other : String) :
    (d.erase key).find? other = if other = key then none else d.find? other :=
  lookup_filter_ne d.entries key other

end Dictionary

end ChatRobots
