/-
Module: ChatRobots.Operator.Diagnosis
Purpose: Whether the program is ready to work, check by check.
Main exports: Diagnosis, Diagnosis.ofConfig, Diagnosis.render, Diagnosis.toJson
-/
import ChatRobots.Config.Load
import ChatRobots.Database.Pool
import ChatRobots.Json.Basic

namespace ChatRobots

/-!
A diagnosis consists of three checks: the configuration is there, replies are posted over an
encrypted connection, and the database answers.  Without a configuration the other two are
skipped.  The program is ready when all checks are passed.
-/

inductive CheckStatus where
  | pass
  | fail
  | skipped
deriving DecidableEq, Repr

namespace CheckStatus

def name : CheckStatus → String
  | pass => "pass"
  | fail => "fail"
  | skipped => "skipped"

/-- The word that marks a check in a listing. -/
def mark : CheckStatus → String
  | pass => "ok"
  | fail => "fail"
  | skipped => "skip"

end CheckStatus

structure Check where
  name : String
  status : CheckStatus
  details : String
deriving DecidableEq, Repr

structure Diagnosis where
  checks : List Check
deriving DecidableEq, Repr

/-- Replies are posted over an encrypted connection. -/
def checkWebhook (config : Config) : Check :=
  let secure := (Text.afterLead? "https://".toList config.slack.webhookUrl.toList).isSome
  let finding :=
    if secure then "incoming webhook uses https"
    else "incoming webhook must use https outside local testing"
  { name := "webhook_readiness"
    status := if secure then .pass else .fail
    details := finding ++ "; " ++ toString config.slack.commandTokens.size
      ++ " robot command token(s) configured" }

/-- The database answers. -/
def checkDatabase (config : Config) (pool : Except DatabaseError Pool) : Check :=
  let check (status : CheckStatus) (details : String) : Check :=
    ⟨"database_connectivity", status, details⟩
  match pool with
  | .error error => check .fail ("failed to connect to database: " ++ error.message)
  | .ok pool =>
      match pool.ping with
      | .error error => check .fail ("database probe failed: " ++ error.message)
      | .ok () => check .pass ("connected using `" ++ config.database.url ++ "`")

namespace Diagnosis

/-- The diagnosis of a configuration and what came of connecting to its database. -/
def ofConfig (config : Config) (pool : Except DatabaseError Pool) : Diagnosis :=
  ⟨[⟨"config_validation", .pass, "configuration loaded and validated"⟩,
    checkWebhook config, checkDatabase config pool]⟩

/-- The diagnosis where there is no configuration. -/
def ofError (error : ConfigError) : Diagnosis :=
  let skipped (name : String) : Check :=
    ⟨name, .skipped, "skipped because configuration did not load"⟩
  ⟨[⟨"config_validation", .fail, error.message⟩, skipped "webhook_readiness",
    skipped "database_connectivity"]⟩

/-- All checks are passed. -/
def isReady (diagnosis : Diagnosis) : Bool :=
  diagnosis.checks.all fun check => check.status == .pass

def summary (diagnosis : Diagnosis) : String :=
  if diagnosis.isReady then "doctor: all readiness checks passed"
  else "doctor: one or more readiness checks failed"

/-- The diagnosis as a listing. -/
def render (diagnosis : Diagnosis) : String :=
  "\n".intercalate <| diagnosis.summary :: diagnosis.checks.map fun check =>
    "- [" ++ check.status.mark ++ "] " ++ check.name ++ ": " ++ check.details

def toJson (diagnosis : Diagnosis) : Json :=
  .object [
    ("overall_status",
      .string (if diagnosis.isReady then CheckStatus.pass else CheckStatus.fail).name),
    ("summary", .string diagnosis.summary),
    ("checks", .array (diagnosis.checks.map fun check => .object [
      ("name", .string check.name),
      ("status", .string check.status.name),
      ("details", .string check.details)]))]

end Diagnosis

end ChatRobots
