/-
Module: ChatRobots.Proofs.Json.RoundTrip
Purpose: What is written as JSON is read back as it was.
Main exports: Json.readString_escape, Json.Plain, Json.ReadsBack, Json.Plain.readsBack,
  Json.Plain.read?_render
-/
import ChatRobots.Proofs.Json.Reader
import ChatRobots.Proofs.Text.Cutting

namespace ChatRobots.Json

/-!
The compact form of a value is read back as the value, with whatever may follow it.  The proof goes
along the values: a string comes back character by character, because an escape denotes the
character it was written for, and an array or an object comes back when its items or members do.
-/

section Strings

theorem hexValue?_hexDigit {n : Nat} (small : n < 16) : Text.hexValue? (hexDigit n) = some n := by
  have digits : ∀ digit : Fin 16, Text.hexValue? (hexDigit digit) = some digit.val := by decide
  exact digits ⟨n, small⟩

/-- The escape of a control denotes the control. -/
theorem readCodePoint?_control {c : Char} (control : c.toNat < 0x20) (rest : List Char) :
    readCodePoint? ('0' :: '0' :: hexDigit (c.toNat / 16) :: hexDigit (c.toNat % 16) :: rest) =
      some (c, rest) := by
  have zero : Text.hexValue? '0' = some 0 := by decide
  have high := hexValue?_hexDigit (n := c.toNat / 16) (by omega)
  have low := hexValue?_hexDigit (n := c.toNat % 16) (by omega)
  have value : c.toNat / 16 * 16 + c.toNat % 16 = c.toNat := by omega
  have firstPlane : c.toNat < 0xd800 := by omega
  simp [readCodePoint?, readUnit?, zero, high, low, value, firstPlane, Char.ofNat_toNat]

/-- A character within a string is read as the one that was written. -/
theorem readMark?_escape (c : Char) (rest : List Char) :
    readMark? (escape c ++ rest) = some (c, rest) := by
  unfold escape
  split
  case h_8 quote backslash _ _ _ _ _ =>
    split
    case isTrue control => exact readCodePoint?_control control rest
    case isFalse printable =>
      have inside : ¬(c = '"' ∨ c.toNat < 0x20) := not_or.2 ⟨quote, printable⟩
      rw [List.singleton_append, readMark?, if_neg backslash, if_neg inside]
  all_goals rfl

/-- As long as a character can be read, the string goes on. -/
theorem readString_of_mark {text after : List Char} {c : Char}
    (mark : readMark? text = some (c, after)) (fuel : Nat) :
    readString (fuel + 1) text =
      (readString fuel after).map fun (text, rest) => (c :: text, rest) := by
  rw [readString.eq_def]
  simp only [mark]

/-- A string is read back up to its closing quote. -/
theorem readString_escape (text rest : List Char) {fuel : Nat} (enough : text.length < fuel) :
    readString fuel (text.flatMap escape ++ '"' :: rest) = some (text, rest) := by
  obtain ⟨fuel, rfl⟩ : ∃ spare, fuel = spare + 1 := Nat.exists_eq_add_one.2 (by omega)
  induction text generalizing fuel with
  | nil => rfl
  | cons c text ih =>
      obtain ⟨fuel, rfl⟩ : ∃ spare, fuel = spare + 1 :=
        Nat.exists_eq_add_one.2 (by simp at enough; omega)
      have later := ih fuel (by simpa using enough)
      rw [List.flatMap_cons, List.append_assoc, readString_of_mark (readMark?_escape c _), later]
      rfl

/-- Every character of a string takes up at least one character. -/
theorem length_le_flatMap_escape (text : List Char) :
    text.length ≤ (text.flatMap escape).length := by
  induction text with
  | nil => exact Nat.le_refl 0
  | cons c text ih =>
      have one : 1 ≤ (escape c).length := by
        unfold escape
        split <;> (try split) <;> simp
      simp only [List.flatMap_cons, List.length_append, List.length_cons]
      omega

/-- A quoted text is read back by the reader of strings. -/
theorem readString_quote (text : String) (rest : List Char) :
    ∃ written, quote text ++ rest = '"' :: written ∧
      readString (written.length + 1) written = some (text.toList, rest) := by
  refine ⟨text.toList.flatMap escape ++ '"' :: rest, by simp [quote], ?_⟩
  apply readString_escape
  have short := length_le_flatMap_escape text.toList
  simp only [List.length_append, List.length_cons]
  omega

end Strings

section Parts

variable {α : Type} {close : Char} {one : List Char → Option (α × List Char)}
  {write : α → List Char}

theorem skipBlanks_cons {c : Char} (solid : isSpace c = false) (rest : List Char) :
    skipBlanks (c :: rest) = c :: rest := by
  simp [skipBlanks, solid]

/-- Parts that are read back one by one are read back with the commas between them. -/
theorem readParts_join (notComma : close ≠ ',') (solid : isSpace close = false)
    {parts : List α} (some_part : parts ≠ [])
    (each : ∀ part ∈ parts, ∀ rest, one (write part ++ rest) = some (part, rest))
    (rest : List Char) {fuel : Nat} (enough : parts.length ≤ fuel) :
    readParts close one fuel (Text.join ',' (parts.map write) ++ close :: rest) =
      some (parts, rest) := by
  induction parts generalizing fuel with
  | nil => exact absurd rfl some_part
  | cons part parts ih =>
      obtain ⟨fuel, rfl⟩ : ∃ spare, fuel = spare + 1 :=
        Nat.exists_eq_add_one.2 (Nat.lt_of_lt_of_le (Nat.succ_pos _) enough)
      have first := each part List.mem_cons_self
      cases parts with
      | nil =>
          rw [List.map_singleton, Text.join_singleton, readParts, first]
          simp [skipBlanks_cons solid, notComma]
      | cons next parts =>
          have later := ih (List.cons_ne_nil _ _)
            (fun part member => each part (List.mem_cons_of_mem _ member))
            (Nat.le_of_succ_le_succ enough)
          rw [List.map_cons] at later
          have comma : isSpace ',' = false := by decide
          rw [List.map_cons, List.map_cons, Text.join_cons_cons, List.append_assoc, readParts,
            first]
          simp [skipBlanks_cons comma, later]

/-- There are at most as many parts as characters, the closing bracket included. -/
theorem length_le_join (parts : List (List Char)) :
    parts.length ≤ (Text.join ',' parts).length + 1 := by
  induction parts with
  | nil => exact Nat.zero_le _
  | cons part parts ih =>
      cases parts with
      | nil => simp
      | cons next parts =>
          rw [Text.join_cons_cons]
          simp only [List.length_append, List.length_cons] at ih ⊢
          omega

/-- What stands between two brackets is read back when its parts are. -/
theorem readList_join (notComma : close ≠ ',') (solid : isSpace close = false) {parts : List α}
    (unread : one (close :: rest) = none)
    (each : ∀ part ∈ parts, ∀ rest, one (write part ++ rest) = some (part, rest)) :
    readList close one (Text.join ',' (parts.map write) ++ close :: rest) = some (parts, rest) := by
  by_cases some_part : parts = []
  · subst some_part
    have nothing (fuel : Nat) : readParts close one fuel (close :: rest) = none := by
      cases fuel with
      | zero => rfl
      | succ fuel => simp [readParts, unread]
    have empty : Text.join ',' (([] : List α).map write) = [] := rfl
    rw [empty, List.nil_append, readList, nothing, skipBlanks_cons solid]
    simp
  · have enough : parts.length ≤ (Text.join ',' (parts.map write) ++ close :: rest).length := by
      have short := length_le_join (parts.map write)
      simp only [List.length_map, List.length_append, List.length_cons] at short ⊢
      omega
    rw [readList, readParts_join notComma solid some_part each rest enough]

theorem length_le_of_mem_join {part : List Char} {parts : List (List Char)}
    (member : part ∈ parts) :
    part.length ≤ (Text.join ',' parts).length := by
  induction parts with
  | nil => simp at member
  | cons first parts ih =>
      cases parts with
      | nil =>
          simp [List.mem_singleton.1 member, Text.join_singleton]
      | cons next parts =>
          rw [Text.join_cons_cons, List.length_append, List.length_cons]
          rcases List.mem_cons.1 member with rfl | later
          · omega
          · have short := ih later
            omega

end Parts

section Values

/-- The written form of a member. -/
def renderMember (member : String × Json) : List Char :=
  quote member.1 ++ ':' :: member.2.renderChars

theorem renderItems_eq (items : List Json) :
    renderItems items = Text.join ',' (items.map renderChars) := by
  induction items with
  | nil => rfl
  | cons item items ih =>
      cases items with
      | nil => rw [renderItems, List.map_singleton, Text.join_singleton]
      | cons next items =>
          rw [renderItems, ih]
          exact (Text.join_cons_cons ..).symm

theorem renderMembers_eq (members : List (String × Json)) :
    renderMembers members = Text.join ',' (members.map renderMember) := by
  induction members with
  | nil => rfl
  | cons member members ih =>
      obtain ⟨name, value⟩ := member
      cases members with
      | nil => rw [renderMembers, List.map_singleton, Text.join_singleton, renderMember]
      | cons next members =>
          rw [renderMembers, ih]
          exact (Text.join_cons_cons ..).symm

theorem readName?_quote (name : String) (rest : List Char) :
    readName? (quote name ++ ':' :: rest) = some (name, rest) := by
  obtain ⟨written, quoted, read⟩ := readString_quote name (':' :: rest)
  have mark : isSpace '"' = false := by decide
  have colon : isSpace ':' = false := by decide
  rw [quoted, readName?, skipBlanks_cons mark]
  simp [read, skipBlanks_cons colon]

/-- The written value is read back, whatever follows it. -/
def ReadsBack (value : Json) : Prop :=
  ∀ (fuel : Nat) (rest : List Char), value.renderChars.length ≤ fuel →
    readValue fuel (value.renderChars ++ rest) = some (value, rest)

theorem readsBack_string (text : String) : ReadsBack (string text) := by
  intro fuel rest enough
  obtain ⟨fuel, rfl⟩ : ∃ spare, fuel = spare + 1 :=
    Nat.exists_eq_add_one.2 (Nat.lt_of_lt_of_le (by simp [renderChars, quote]) enough)
  obtain ⟨written, quoted, read⟩ := readString_quote text rest
  have mark : isSpace '"' = false := by decide
  rw [renderChars, quoted, readValue, skipBlanks_cons mark]
  simp [read]

theorem readsBack_array {items : List Json} (each : ∀ item ∈ items, ReadsBack item) :
    ReadsBack (array items) := by
  intro fuel rest enough
  rw [renderChars, renderItems_eq, List.length_append, List.length_cons, List.length_singleton]
    at enough
  obtain ⟨fuel, rfl⟩ : ∃ spare, fuel = spare + 1 := Nat.exists_eq_add_one.2 (by omega)
  have unread : readValue fuel (']' :: rest) = none := by
    cases fuel <;> rfl
  have back : ∀ item ∈ items, ∀ rest,
      readValue fuel (renderChars item ++ rest) = some (item, rest) := by
    intro item member rest
    have short := length_le_of_mem_join (List.mem_map_of_mem (f := renderChars) member)
    exact each item member fuel rest (by omega)
  have listed : readList ']' (readValue fuel)
      (Text.join ',' (items.map renderChars) ++ ']' :: rest) = some (items, rest) :=
    readList_join (by decide) (by decide) unread back
  have bracket : isSpace '[' = false := by decide
  have written : renderChars (array items) ++ rest =
      '[' :: (Text.join ',' (items.map renderChars) ++ ']' :: rest) := by
    simp [renderChars, renderItems_eq]
  rw [written, readValue, skipBlanks_cons bracket]
  simp [listed]

theorem readsBack_object {members : List (String × Json)}
    (each : ∀ member ∈ members, ReadsBack member.2) : ReadsBack (object members) := by
  intro fuel rest enough
  rw [renderChars, renderMembers_eq, List.length_append, List.length_cons, List.length_singleton]
    at enough
  obtain ⟨fuel, rfl⟩ : ∃ spare, fuel = spare + 1 := Nat.exists_eq_add_one.2 (by omega)
  have unread : readMember (readValue fuel) ('\x7d' :: rest) = none := rfl
  have back : ∀ member ∈ members, ∀ rest,
      readMember (readValue fuel) (renderMember member ++ rest) = some (member, rest) := by
    rintro ⟨name, value⟩ member rest
    have short := length_le_of_mem_join (List.mem_map_of_mem (f := renderMember) member)
    rw [renderMember, List.length_append, List.length_cons] at short
    have value_back := each _ member fuel rest (by dsimp only at short ⊢; omega)
    rw [readMember, renderMember, List.append_assoc, List.cons_append, readName?_quote]
    simp [value_back]
  have listed : readList '\x7d' (readMember (readValue fuel))
      (Text.join ',' (members.map renderMember) ++ '\x7d' :: rest) = some (members, rest) :=
    readList_join (by decide) (by decide) unread back
  have bracket : isSpace '\x7b' = false := by decide
  have written : renderChars (object members) ++ rest =
      '\x7b' :: (Text.join ',' (members.map renderMember) ++ '\x7d' :: rest) := by
    simp [renderChars, renderMembers_eq]
  rw [written, readValue, skipBlanks_cons bracket]
  simp [listed]

end Values

/-- A value in which there are no numbers. -/
inductive Plain : Json → Prop where
  | null : Plain null
  | bool (value : Bool) : Plain (bool value)
  | string (text : String) : Plain (string text)
  | array {items : List Json} (each : ∀ item ∈ items, Plain item) : Plain (array items)
  | object {members : List (String × Json)} (each : ∀ member ∈ members, Plain member.2) :
      Plain (object members)

theorem Plain.readsBack {value : Json} (plain : value.Plain) : ReadsBack value := by
  induction plain with
  | null =>
      intro fuel rest enough
      obtain ⟨fuel, rfl⟩ : ∃ spare, fuel = spare + 1 :=
        Nat.exists_eq_add_one.2 (Nat.lt_of_lt_of_le (by decide) enough)
      rfl
  | bool value =>
      intro fuel rest enough
      obtain ⟨fuel, rfl⟩ : ∃ spare, fuel = spare + 1 :=
        Nat.exists_eq_add_one.2 (Nat.lt_of_lt_of_le (by cases value <;> decide) enough)
      cases value <;> rfl
  | string text => exact readsBack_string text
  | array _ ih => exact readsBack_array ih
  | object _ ih => exact readsBack_object ih

/-- A text that was written for a value is read as this value. -/
theorem Plain.read?_render {value : Json} (plain : value.Plain) :
    read? value.render = some value := by
  have back := plain.readsBack value.renderChars.length [] (Nat.le_refl _)
  rw [List.append_nil] at back
  rw [read?, render, String.toList_ofList, back]
  rfl

/-- Texts that were not written here are read as well. -/
example : read? " [ \"\\ud83c\\udfb2\\/\" ,\n-12, true ] " =
    some (array [string "🎲/", integer (-12), bool true]) := by
  rfl

end ChatRobots.Json
