/-
Module: ChatRobots.Server.Bootstrap
Purpose: Everything that has to be there before the server listens.
Main exports: Application, BootstrapError, bootstrap, Startup
-/
import ChatRobots.Config.Load
import ChatRobots.Database.Pool
import ChatRobots.Log.Event
import ChatRobots.Robot.Crew

namespace ChatRobots

/-!
Before the server listens it connects to the database, brings it up to date and lines up the
robots.  Each step that succeeds is logged; the first that fails ends it.
-/

/-- What the server works with. -/
structure Application where
  config : Config
  pool : Pool
  /-- The keys of the robots. -/
  robots : List String

/-- Why the server could not start. -/
inductive BootstrapError where
  | config (error : ConfigError)
  | connection (error : DatabaseError)
  | migration (error : MigrationError)
deriving DecidableEq, Repr

namespace BootstrapError

def message : BootstrapError → String
  | config error => error.message
  | connection error => "database connection failed: " ++ error.message
  | migration error => "database migration failed: " ++ error.message

/-- The wordings of what led to the error, the nearest cause first. -/
def causes : BootstrapError → List String
  | config (.unreadable _ cause) => [cause.message]
  | config _ => []
  | connection error => error.causes
  | migration error => error.causes

end BootstrapError

/-- What was logged, and what came of it. -/
structure Startup (α : Type) where
  events : List Event
  outcome : Except BootstrapError α

/-- Start with a configuration. -/
def bootstrapWith (files : Files) (config : Config) : Startup Application :=
  match Pool.connect files config.database with
  | .error error => ⟨[.bootstrapStarted], .error (.connection error)⟩
  | .ok pool =>
      match pool.migrate with
      | .error error =>
          ⟨[.bootstrapStarted, .databaseConnected], .error (.migration error)⟩
      | .ok pool =>
          let robots := (crew Stores.inDatabase config.slack.teamDomain).keys
          ⟨[.bootstrapStarted, .databaseConnected, .migrationsApplied, .robotsRegistered robots],
            .ok ⟨config, pool, robots⟩⟩

/-- Load the configuration and start with it. -/
def bootstrap (files : Files) (env : Environment) (options : LoadOptions) : Startup Application :=
  match Config.load files env options with
  | .error error => ⟨[], .error (.config error)⟩
  | .ok config => bootstrapWith files config

end ChatRobots
