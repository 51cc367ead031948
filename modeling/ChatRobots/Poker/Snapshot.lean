/-
Module: ChatRobots.Poker.Snapshot
Purpose: The data form of a session with its stories.
Main exports: Snapshot.toJson
-/
import ChatRobots.Json.Basic
import ChatRobots.Poker.Table

namespace ChatRobots.Poker

/-!
A snapshot is written as an object with the session and the list of its stories.  Instants are
texts, a missing finishing time or estimation is null, and a roster is the list of its names.
-/

def Roster.toJson (roster : Roster) : Json :=
  .array (roster.users.map .string)

def Session.toJson (session : Session) : Json :=
  .object [
    ("id", .integer session.id),
    ("channel", .string session.channel),
    ("title", .string session.title),
    ("roster", session.roster.toJson),
    ("created_at", .string session.createdAt.toAutoText),
    ("finished_at", match session.finishedAt with
      | none => .null
      | some instant => .string instant.toAutoText)]

def Story.toJson (story : Story) : Json :=
  .object [
    ("id", .integer story.id),
    ("session_id", .integer story.sessionId),
    ("title", .string story.title),
    ("estimation", match story.estimation with
      | none => .null
      | some hours => .number hours),
    ("created_at", .string story.createdAt.toAutoText)]

def Snapshot.toJson (snapshot : Snapshot) : Json :=
  .object [
    ("session", snapshot.session.toJson),
    ("stories", .array (snapshot.stories.map Story.toJson))]

end ChatRobots.Poker
