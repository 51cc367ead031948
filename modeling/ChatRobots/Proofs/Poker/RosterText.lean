/-
Module: ChatRobots.Proofs.Poker.RosterText
Purpose: A roster survives being written as names with commas between them.
Main exports: Roster.WellFormed, Roster.ofCsv_toCsv, Roster.ofCsv_wellFormed, Roster.toCsv_inj,
  Roster.users_ofCsv_append
-/
import ChatRobots.Poker.Basic
import ChatRobots.Proofs.Text.Trimming

namespace ChatRobots

/-!
A name on a roster is what stands between two commas, without the blanks around it, unless nothing
is left.  Such a name has no comma and no blank at its ends, so the names can be written with commas
between them and found again.
-/

namespace Poker.Roster

open Text

/-- Every name is one that can stand between two commas. -/
def WellFormed (roster : Roster) : Prop :=
  ∀ name ∈ roster.users, name ≠ "" ∧ trim name.toList = name.toList ∧ ',' ∉ name.toList

theorem ofCsv_wellFormed (csv : String) : (ofCsv csv).WellFormed := by
  intro name member
  simp only [ofCsv, List.mem_map, List.mem_filter] at member
  obtain ⟨_, ⟨⟨piece, inCsv, rfl⟩, filled⟩, rfl⟩ := member
  refine ⟨?_, ?_, ?_⟩
  · intro empty
    have nothing : trim piece = [] := by simpa using congrArg String.toList empty
    simp [nothing] at filled
  · rw [String.toList_ofList, trim_trim]
  · rw [String.toList_ofList]
    exact fun comma => not_mem_of_mem_pieces inCsv (mem_of_mem_trim comma)

/-- Names that can stand between commas are read as they were written. -/
theorem ofCsv_toCsv {roster : Roster} (wellFormed : roster.WellFormed) :
    ofCsv roster.toCsv = roster := by
  obtain ⟨users⟩ := roster
  by_cases nobody : users = []
  · subst nobody
    rfl
  · have free : ∀ part ∈ users.map String.toList, ',' ∉ part := by
      intro part member
      obtain ⟨name, inUsers, rfl⟩ := List.mem_map.1 member
      exact (wellFormed name inUsers).2.2
    have cut : pieces ',' (toCsv ⟨users⟩).toList = users.map String.toList := by
      rw [toCsv, String.toList_ofList, pieces_join (by simpa using nobody) free]
    have trimmed : (users.map String.toList).map trim = users.map String.toList := by
      rw [List.map_map]
      exact List.map_congr_left fun name member => (wellFormed name member).2.1
    have filled : (users.map String.toList).filter (fun name => !name.isEmpty) =
        users.map String.toList := by
      rw [List.filter_eq_self]
      intro part member
      obtain ⟨name, inUsers, rfl⟩ := List.mem_map.1 member
      have notEmpty := (wellFormed name inUsers).1
      simpa using notEmpty
    rw [ofCsv, cut, trimmed, filled, List.map_map]
    simp

/-- Different rosters are written differently. -/
theorem toCsv_inj {roster other : Roster} (wellFormed : roster.WellFormed)
    (wellFormed' : other.WellFormed) : roster.toCsv = other.toCsv ↔ roster = other := by
  refine ⟨fun same => ?_, congrArg toCsv⟩
  rw [← ofCsv_toCsv wellFormed, same, ofCsv_toCsv wellFormed']

/-- With a comma between them two texts name everyone in the first one, then everyone in the
second one. -/
theorem users_ofCsv_append (csv more : String) :
    (ofCsv (csv ++ "," ++ more)).users = (ofCsv csv).users ++ (ofCsv more).users := by
  have cut : pieces ',' (csv ++ "," ++ more).toList =
      pieces ',' csv.toList ++ pieces ',' more.toList := by
    rw [String.toList_append, String.toList_append, List.append_assoc]
    exact pieces_append_separator ',' csv.toList more.toList
  simp only [ofCsv, cut, List.map_append, List.filter_append]

/-- Commas at the end and between blanks name nobody. -/
example : ofCsv " ann,, bob, ," = ⟨["ann", "bob"]⟩ := by decide

end Poker.Roster

end ChatRobots
