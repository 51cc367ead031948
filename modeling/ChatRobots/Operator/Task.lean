/-
Module: ChatRobots.Operator.Task
Purpose: What an operator can have done, and the reports on it.
Main exports: OperatorTask, TaskReport, OperatorTask.run
-/
import ChatRobots.Config.Report
import ChatRobots.Operator.Diagnosis

namespace ChatRobots

/-!
A task works on the files of the working directory and ends with a report: what is printed, and a
code that tells success from the kinds of failure.  Connecting to a database can create its file
even when nothing else comes of the task.
-/

inductive OperatorTask where
  /-- Bring the database up to date. -/
  | migrate
  /-- Show the configuration in force. -/
  | config
  /-- Check whether all is ready; the flag asks for data instead of a listing. -/
  | doctor (json : Bool)
deriving DecidableEq, Repr

/-- What is printed at the end of a task, and the code it ends with. -/
structure TaskReport where
  exitCode : Nat
  output : String
deriving DecidableEq, Repr

/-- The kinds of failure that a report tells apart. -/
inductive FailureClass where
  | configValidation
  | connectivity
  | migration
deriving DecidableEq, Repr

namespace FailureClass

def name : FailureClass → String
  | configValidation => "config_validation"
  | connectivity => "db_connectivity"
  | migration => "migration"

def exitCode : FailureClass → Nat
  | configValidation => 2
  | connectivity => 4
  | migration => 5

end FailureClass

namespace TaskReport

/-- The members of a report that is data. -/
def data (command status : String) (failureClass : Json) (message : String) : String :=
  (Json.object [("command", .string command), ("status", .string status),
    ("error_class", failureClass), ("message", .string message)]).render

def success (command message : String) : TaskReport :=
  ⟨0, data command "ok" .null message⟩

def failure (command : String) (failureClass : FailureClass) (message : String) : TaskReport :=
  ⟨failureClass.exitCode, data command "error" (.string failureClass.name) message⟩

end TaskReport

/-- Connect to the database of a configuration; the files tell what came of it. -/
def connectIn (files : Files) (config : Config) : Except DatabaseError Pool × Files :=
  match Pool.connect files config.database with
  | .error error => (.error error, files)
  | .ok pool => (.ok pool, pool.writeBack files)

/-- Apply the migrations through a pool, and count those on record. -/
def migrateThrough (pool : Pool) : Except MigrationError Pool × TaskReport :=
  match pool.migrate with
  | .error error => (.error error, .failure "migrate" .migration error.message)
  | .ok pool =>
      match pool.recordedVersions with
      | .error error => (.ok pool, .failure "migrate" .migration error.message)
      | .ok versions =>
          (.ok pool, .success "migrate" ("applied pending migrations; " ++
            toString versions.length ++ " migrations recorded"))

/-- Bring the database of a configuration up to date. -/
def migrateDatabase (files : Files) (config : Config) : TaskReport × Files :=
  match connectIn files config with
  | (.error error, files) => (.failure "migrate" .connectivity error.message, files)
  | (.ok pool, files) =>
      match migrateThrough pool with
      | (.ok pool, report) => (report, pool.writeBack files)
      | (.error _, report) => (report, files)

/-- Check whether all is ready. -/
def diagnose (files : Files) (env : Environment) : Diagnosis × Files :=
  match Config.load files env {} with
  | .error error => (.ofError error, files)
  | .ok config =>
      let (pool, files) := connectIn files config
      (.ofConfig config pool, files)

namespace OperatorTask

/-- Do the task. -/
def run (env : Environment) (files : Files) : OperatorTask → TaskReport × Files
  | migrate =>
      match Config.load files env {} with
      | .error error =>
          (.failure "migrate" .configValidation ("configuration issue: " ++ error.message), files)
      | .ok loaded => migrateDatabase files loaded
  | config =>
      match Config.load files env {} with
      | .error error =>
          (.failure "config" .configValidation ("config validation failed: " ++ error.message),
            files)
      | .ok loaded => (⟨0, loaded.report env (configFile? files)⟩, files)
  | doctor json =>
      let (diagnosis, files) := diagnose files env
      (⟨if diagnosis.isReady then 0 else 1,
        if json then diagnosis.toJson.renderPretty else diagnosis.render⟩, files)

end OperatorTask

end ChatRobots
