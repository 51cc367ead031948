/-
Module: ChatRobots.Robot.Crew
Purpose: The three robots over one set of stores, in memory or in the database.
Main exports: Stores, MemoryStores, crew
-/
import ChatRobots.Database.Poker
import ChatRobots.Database.Settings
import ChatRobots.Database.Vacation
import ChatRobots.Poker.Memory
import ChatRobots.Robot.Poker
import ChatRobots.Robot.Settings
import ChatRobots.Robot.Vacation

namespace ChatRobots

/-!
The crew is the registry of the three robots under their keys.  They share one set of stores and
one way of delivering; which stores they are makes no difference to the robots.
-/

/-- The stores of the three robots, over one state. -/
structure Stores (σ : Type) where
  poker : Poker.Backend σ
  settings : Settings.Backend σ
  vacations : Vacations.Backend σ

/-- The three stores in memory. -/
structure MemoryStores where
  poker : Poker.Memory := {}
  settings : Settings.Memory := {}
  vacations : Vacations.Memory := {}

namespace Stores

def inMemory : Stores MemoryStores where
  poker := Poker.Memory.backend.within (·.poker) fun part whole => { whole with poker := part }
  settings := Settings.Memory.backend.within (·.settings)
    fun part whole => { whole with settings := part }
  vacations := Vacations.Memory.backend.within (·.vacations)
    fun part whole => { whole with vacations := part }

def inDatabase : Stores Database where
  poker := Database.pokerBackend
  settings := Database.settingsBackend
  vacations := Database.vacationBackend

end Stores

/-- The three robots under their keys. -/
def crew {σ : Type} (stores : Stores σ) (teamDomain : Option String) : Registry σ :=
  ({} : Registry σ)
    |>.register ["poker"] (PokerRobot.robot stores.poker teamDomain)
    |>.register ["store"] (SettingsRobot.robot stores.settings teamDomain)
    |>.register ["vacation"] (VacationRobot.robot stores.vacations teamDomain)

end ChatRobots
