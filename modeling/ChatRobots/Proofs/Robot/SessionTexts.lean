/-
Module: ChatRobots.Proofs.Robot.SessionTexts
Purpose: What the chat says of a session and its stories, and what the server writes of them.
Main exports: PokerRobot.SaysFinished, PokerRobot.saysFinished_summary, PokerRobot.SaysStatus,
  PokerRobot.saysStatus_statusText, Json.Shows, Poker.Snapshot.shows_toJson
-/
import Mathlib.Data.List.Forall2
import ChatRobots.Poker.Snapshot
import ChatRobots.Proofs.Number.Rounding
import ChatRobots.Proofs.Poker.RosterExactness
import ChatRobots.Robot.Poker

namespace ChatRobots

open Poker

/-!
A listing is told line by line, one case for a list without stories and one for a story before
others; the status is told by its parts.  What the server writes is told by what stands in it
under which name.  None of this mentions how the texts are put together.
-/

namespace PokerRobot

/-- What is said of the hours of a story. -/
inductive SaysHours : Option Number → String → Prop where
  | estimated {hours : Number} {text : String} (shown : hours.TwoDecimals text) :
      SaysHours (some hours) text
  | waiting : SaysHours none "not estimated"

/-- The lines of stories, one after another. -/
inductive SaysStories : List Story → String → Prop where
  | nil : SaysStories [] ""
  | cons {story : Story} {stories : List Story} {hours lines : String}
      (first : SaysHours story.estimation hours) (rest : SaysStories stories lines) :
      SaysStories (story :: stories)
        ("\n*" ++ story.title ++ "* - Hours: " ++ hours ++ lines)

/-- What is said when a session with these stories is finished. -/
inductive SaysFinished (session : Session) : List Story → String → Prop where
  | storyless :
      SaysFinished session [] ("Finished poker session for *" ++ session.title ++ "*.")
  | listed {stories : List Story} {lines : String} (given : stories ≠ [])
      (lists : SaysStories stories lines) :
      SaysFinished session stories ("Finished poker session for *" ++ session.title ++ "*." ++
        "\n\nThe following stories were estimated:" ++ lines)

/-- The line with the number of stories that are estimated, if there are any. -/
inductive SaysCount : Nat → List String → Prop where
  | none : SaysCount 0 []
  | one : SaysCount 1 ["We have estimated 1 story so far."]
  | many {count : Nat} (several : 1 < count) :
      SaysCount count ["We have estimated " ++ toString count ++ " stories so far."]

/-- The lines about the story that is being estimated. -/
inductive SaysCurrent : Option CurrentStory → List String → Prop where
  | none : SaysCurrent none ["There are no stories waiting for estimations. You can use " ++
      "`/poker story` to start a new one or `/poker finish` to finish this session."]
  | unvoted {current : CurrentStory} (silent : current.votes = []) :
      SaysCurrent (some current)
        ["We are estimating the story *" ++ current.story.title ++ "*", "No one voted yet"]
  | voted {current : CurrentStory} {voters : List String} (given : current.votes ≠ [])
      (once : voters.Nodup)
      (all : ∀ user, user ∈ voters ↔ ∃ vote ∈ current.votes, vote.user = user) :
      SaysCurrent (some current)
        ["We are estimating the story *" ++ current.story.title ++ "*",
          "The following users already voted: " ++ ", ".intercalate voters]

/-- What is said of a status, line by line. -/
inductive SaysStatus (status : SessionStatus) : String → Prop where
  | told {count current : List String} (counted : SaysCount status.estimatedCount count)
      (estimating : SaysCurrent status.current current) :
      SaysStatus status ("\n".intercalate
        (["We are playing a poker planning session called *" ++ status.session.title ++ "*"] ++
          count ++ current))

theorem saysHours_hoursLabel (story : Story) : SaysHours story.estimation (hoursLabel story) := by
  unfold hoursLabel
  cases story.estimation with
  | none => exact .waiting
  | some hours => exact .estimated hours.twoDecimals_fixed2

theorem saysStories_join (stories : List Story) :
    SaysStories stories (String.join (stories.map fun story =>
      "\n*" ++ story.title ++ "* - Hours: " ++ hoursLabel story)) := by
  induction stories with
  | nil => exact .nil
  | cons story rest ih =>
      rw [List.map_cons, String.join_cons]
      exact .cons (saysHours_hoursLabel story) ih

/-- The summary of a session lists all stories with their hours. -/
theorem saysFinished_summary (session : Session) (stories : List Story) :
    SaysFinished session stories (summary session stories) := by
  unfold summary
  cases stories with
  | nil =>
      rw [if_pos List.isEmpty_nil, String.append_empty]
      exact .storyless
  | cons story rest =>
      have given : ¬ (story :: rest).isEmpty = true := nofun
      rw [if_neg given, ← String.append_assoc]
      exact .listed (List.cons_ne_nil _ _) (saysStories_join _)

theorem mem_voters_iff {current : CurrentStory} {user : String} :
    user ∈ current.voters ↔ ∃ vote ∈ current.votes, vote.user = user := by
  rw [← List.mem_toFinset, current.toFinset_voters, List.mem_toFinset, List.mem_map]

theorem saysCurrent_currentLines (current : Option CurrentStory) :
    SaysCurrent current (currentLines current) := by
  unfold currentLines
  cases current with
  | none => exact .none
  | some current =>
      have nobody : current.voters = [] ↔ current.votes = [] := by
        simp [List.eq_nil_iff_forall_not_mem, mem_voters_iff]
      dsimp only
      by_cases silent : current.votes = []
      · rw [if_pos (List.isEmpty_iff.2 (nobody.2 silent))]
        exact .unvoted silent
      · rw [if_neg (mt List.isEmpty_iff.1 (mt nobody.1 silent))]
        exact .voted silent current.nodup_voters fun _ => mem_voters_iff

/-- The status is told with its title, its count and its current story. -/
theorem saysStatus_statusText (status : SessionStatus) :
    SaysStatus status (statusText status) := by
  unfold statusText
  refine .told ?counted (saysCurrent_currentLines status.current)
  match status.estimatedCount with
  | 0 => exact .none
  | 1 => exact .one
  | count + 2 =>
      have several : 1 < count + 2 := by omega
      have words : " stories" ++ " so far." = " stories so far." := rfl
      rw [if_neg (by omega : ¬ count + 2 = 0), if_neg (Nat.ne_of_gt several), String.append_assoc,
        words]
      exact .many several

end PokerRobot

/-- What an object has under a name. -/
def Json.member? : Json → String → Option Json
  | .object members, name => members.lookup name
  | _, _ => none

/-- The data is about this story. -/
structure Json.ShowsStory (data : Json) (story : Story) : Prop where
  id : data.member? "id" = some (.integer story.id)
  session : data.member? "session_id" = some (.integer story.sessionId)
  title : data.member? "title" = some (.string story.title)
  estimation : data.member? "estimation" = some (match story.estimation with
    | some hours => .number hours
    | none => .null)

/-- The data is about this session. -/
structure Json.ShowsSession (data : Json) (session : Session) : Prop where
  id : data.member? "id" = some (.integer session.id)
  channel : data.member? "channel" = some (.string session.channel)
  title : data.member? "title" = some (.string session.title)

/-- The data is about the session and lists just these stories. -/
structure Json.Shows (data : Json) (snapshot : Snapshot) : Prop where
  session : ∃ session ∈ data.member? "session", session.ShowsSession snapshot.session
  stories : ∃ stories, data.member? "stories" = some (.array stories) ∧
    List.Forall₂ Json.ShowsStory stories snapshot.stories

theorem Poker.Story.showsStory_toJson (story : Story) : story.toJson.ShowsStory story := by
  refine ⟨rfl, rfl, rfl, ?_⟩
  cases story with
  | mk id sessionId title estimation createdAt => cases estimation <;> rfl

theorem Poker.Snapshot.shows_toJson (snapshot : Snapshot) : snapshot.toJson.Shows snapshot where
  session := ⟨snapshot.session.toJson, rfl, rfl, rfl, rfl⟩
  stories := ⟨_, rfl, List.forall₂_map_left_iff.2
    (List.forall₂_same.2 fun story _ => story.showsStory_toJson)⟩

end ChatRobots
