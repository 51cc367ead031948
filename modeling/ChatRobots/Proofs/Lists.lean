/-
Module: ChatRobots.Proofs.Lists
Purpose: Lists that are related place by place, filters after filters, and places in a prefix.
Main exports: filter_alike, getLast?_alike, getElem?_alike, map_eq_of_alike, mergeSort_alike,
  sublist_alike, filter_filter_of_imp, filter_concat, getElem?_of_prefix, place_eq_of_nodup,
  map_at_key
-/
import Mathlib.Data.List.Forall2

namespace ChatRobots

section Alike

variable {α β : Type} {R : α → β → Prop} {first : List α} {second : List β}

theorem filter_alike (alike : List.Forall₂ R first second) {p : α → Bool} {q : β → Bool}
    (same : ∀ a b, R a b → p a = q b) : List.Forall₂ R (first.filter p) (second.filter q) := by
  refine List.rel_filter (fun a b related => ?_) alike
  exact iff_of_eq (congrArg (· = true) (same a b related))

theorem getLast?_alike (alike : List.Forall₂ R first second) :
    Option.Rel R first.getLast? second.getLast? := by
  rw [List.getLast?_eq_head?_reverse, List.getLast?_eq_head?_reverse]
  have backwards := List.rel_reverse alike
  generalize first.reverse = newest at backwards ⊢
  generalize second.reverse = newest' at backwards ⊢
  cases backwards with
  | nil => exact .none
  | cons related _ => exact .some related

theorem getElem?_alike (alike : List.Forall₂ R first second) (place : Nat) :
    Option.Rel R first[place]? second[place]? := by
  induction alike generalizing place with
  | nil => exact .none
  | cons related _ ih =>
      cases place with
      | zero => exact .some related
      | succ place => exact ih place

theorem map_alike {γ δ : Type} {S : γ → δ → Prop} {a : Option α} {b : Option β} {f : α → γ}
    {g : β → δ} (alike : Option.Rel R a b) (maps : ∀ a b, R a b → S (f a) (g b)) :
    Option.Rel S (a.map f) (b.map g) := by
  cases alike with
  | none => exact .none
  | some related => exact .some (maps _ _ related)

theorem isSome_alike {a : Option α} {b : Option β} (alike : Option.Rel R a b) :
    a.isSome = b.isSome := by
  cases alike <;> rfl

theorem rel_mono {S : α → β → Prop} (implies : ∀ a b, R a b → S a b) {a : Option α}
    {b : Option β} (related : Option.Rel R a b) : Option.Rel S a b := by
  cases related with
  | none => exact .none
  | some related => exact .some (implies _ _ related)

/-- Images under functions that make no difference between what is related. -/
theorem map_eq_of_alike {γ : Type} (alike : List.Forall₂ R first second) {f : α → γ} {g : β → γ}
    (same : ∀ a b, R a b → f a = g b) : first.map f = second.map g := by
  induction alike with
  | nil => rfl
  | cons related _ ih => rw [List.map_cons, List.map_cons, same _ _ related, ih]

/-- Images of related lists are related where the images of related elements are. -/
theorem images_alike {γ δ : Type} {F : α → γ → Prop} {G : β → δ → Prop} {S : γ → δ → Prop}
    {images : List γ} {images' : List δ} (alike : List.Forall₂ R first second)
    (maps : List.Forall₂ F first images) (maps' : List.Forall₂ G second images')
    (related : ∀ a b c d, R a b → F a c → G b d → S c d) : List.Forall₂ S images images' := by
  induction alike generalizing images images' with
  | nil =>
      cases maps
      cases maps'
      exact .nil
  | cons own _ ih =>
      cases maps with
      | cons image maps =>
          cases maps' with
          | cons image' maps' => exact .cons (related _ _ _ _ own image image') (ih maps maps')

/-- Sorting by orders that make no difference between what is related. -/
theorem mergeSort_alike (alike : List.Forall₂ R first second) {le : α → α → Bool}
    {le' : β → β → Bool} (same : ∀ a b c d, R a b → R c d → le a c = le' b d) :
    List.Forall₂ R (first.mergeSort le) (second.mergeSort le') := by
  obtain ⟨length, related⟩ := List.forall₂_iff_zip.1 alike
  -- Both lists are sorted as one list of pairs, by the order of the first halves.
  let order (p q : α × β) : Bool := le p.1 q.1
  have firsts := List.map_mergeSort (l := first.zip second) (f := Prod.fst) (r := order) (s := le)
    fun _ _ _ _ => rfl
  have seconds := List.map_mergeSort (l := first.zip second) (f := Prod.snd) (r := order)
    (s := le') fun _ one _ other => same _ _ _ _ (related one) (related other)
  rw [List.map_fst_zip (Nat.le_of_eq length)] at firsts
  rw [List.map_snd_zip (Nat.le_of_eq length.symm)] at seconds
  rw [← firsts, ← seconds, List.forall₂_map_left_iff, List.forall₂_map_right_iff,
    List.forall₂_same]
  intro pair member
  exact related (List.mem_mergeSort.1 member)

/-- A part of a list is related to a part of the other one. -/
theorem sublist_alike (alike : List.Forall₂ R first second) {part : List α}
    (sublist : part.Sublist first) : List.SublistForall₂ R part second := by
  induction sublist generalizing second with
  | slnil => exact .nil
  | cons a _ ih =>
      cases alike with
      | cons _ alike => exact .cons_right (ih alike)
  | cons_cons a _ ih =>
      cases alike with
      | cons own alike => exact .cons own (ih alike)

end Alike

section Filters

/-- A filter is not needed before a narrower one. -/
theorem filter_filter_of_imp {α : Type} {p q : α → Bool} (list : List α)
    (narrower : ∀ a ∈ list, p a = true → q a = true) :
    (list.filter q).filter p = list.filter p := by
  rw [List.filter_filter]
  apply List.filter_congr
  intro a member
  cases chosen : p a with
  | false => rfl
  | true => rw [narrower a member chosen, Bool.and_self]

theorem filter_concat {α : Type} (p : α → Prop) [DecidablePred p] (list : List α) (a : α) :
    (list ++ [a]).filter (fun a => decide (p a)) =
      list.filter (fun a => decide (p a)) ++ if p a then [a] else [] := by
  by_cases own : p a <;> simp [own]

end Filters

/-- What stands at a place stays there when the list grows. -/
theorem getElem?_of_prefix {α : Type} {first second : List α} (longer : first <+: second)
    {place : Nat} {a : α} (known : first[place]? = some a) : second[place]? = some a := by
  obtain ⟨rest, rfl⟩ := longer
  obtain ⟨within, _⟩ := List.getElem?_eq_some_iff.1 known
  rw [List.getElem?_append_left within, known]

/-- Where keys do not repeat, elements with one key stand at one place. -/
theorem place_eq_of_nodup {α κ : Type} {key : α → κ} {list : List α}
    (keys : (list.map key).Nodup) {first second : Nat} {a b : α}
    (firstKnown : list[first]? = some a) (secondKnown : list[second]? = some b)
    (same : key a = key b) : first = second := by
  obtain ⟨within, _⟩ := List.getElem?_eq_some_iff.1 firstKnown
  refine (List.getElem?_inj (by rwa [List.length_map]) keys).1 ?_
  rw [List.getElem?_map, List.getElem?_map, firstKnown, secondKnown, Option.map_some,
    Option.map_some, same]

/-- To change what has one key and then read it is to read it and then change what is read. -/
theorem map_map_at_key {α β κ : Type} [DecidableEq κ] {key : α → κ} {key' : β → κ} {read : α → β}
    {change : α → α} {change' : β → β} (same_key : ∀ a, key' (read a) = key a)
    (changed : ∀ a, read (change a) = change' (read a)) (k : κ) (list : List α) :
    (list.map fun a => if key a = k then change a else a).map read =
      (list.map read).map fun b => if key' b = k then change' b else b := by
  rw [List.map_map, List.map_map]
  apply List.map_congr_left
  intro a _
  simp only [Function.comp_apply, same_key]
  split
  · exact changed a
  · rfl

/-- A change of what has one key leaves a list without this key as it is. -/
theorem map_of_apart {α κ : Type} [DecidableEq κ] {key : α → κ} {list : List α} {k : κ}
    (apart : ∀ a ∈ list, key a ≠ k) (change : α → α) :
    list.map (fun a => if key a = k then change a else a) = list := by
  have same : ∀ a ∈ list, (if key a = k then change a else a) = id a :=
    fun a member => if_neg (apart a member)
  rw [List.map_congr_left same, List.map_id]

/-- Where keys do not repeat, a change of what has one key is a change at one place. -/
theorem map_at_key {α κ : Type} [DecidableEq κ] {key : α → κ} {earlier later : List α} {a : α}
    (keys : ((earlier ++ a :: later).map key).Nodup) (change : α → α) :
    (earlier ++ a :: later).map (fun b => if key b = key a then change b else b) =
      earlier ++ change a :: later := by
  rw [List.map_append, List.map_cons, List.nodup_append, List.nodup_cons] at keys
  obtain ⟨_, ⟨notLater, _⟩, distinct⟩ := keys
  have before : ∀ b ∈ earlier, key b ≠ key a := fun b member =>
    distinct (key b) (List.mem_map_of_mem member) (key a) List.mem_cons_self
  have after : ∀ b ∈ later, key b ≠ key a := fun b member same =>
    notLater (same ▸ List.mem_map_of_mem member)
  rw [List.map_append, List.map_cons, map_of_apart before, map_of_apart after, if_pos rfl]

end ChatRobots
