import ChatRobots.Calendar.Date
import ChatRobots.Calendar.DateText
import ChatRobots.Calendar.Instant
import ChatRobots.Command
import ChatRobots.Config.Basic
import ChatRobots.Config.Environment
import ChatRobots.Config.Key
import ChatRobots.Config.Load
import ChatRobots.Config.Patch
import ChatRobots.Config.Report
import ChatRobots.Database.Address
import ChatRobots.Database.Basic
import ChatRobots.Database.Error
import ChatRobots.Database.File
import ChatRobots.Database.Migration
import ChatRobots.Database.Overwrite
import ChatRobots.Database.Poker
import ChatRobots.Database.Pool
import ChatRobots.Database.Settings
import ChatRobots.Database.Vacation
import ChatRobots.Dictionary
import ChatRobots.Files
import ChatRobots.Http.Form
import ChatRobots.Http.Response
import ChatRobots.Http.Service
import ChatRobots.Ingress.Form
import ChatRobots.Ingress.Payload
import ChatRobots.Json.Basic
import ChatRobots.Log.Event
import ChatRobots.Log.Level
import ChatRobots.Message.Basic
import ChatRobots.Message.Webhook
import ChatRobots.Number.Basic
import ChatRobots.Number.Power
import ChatRobots.Number.Reader
import ChatRobots.Number.Unsigned
import ChatRobots.Number.Writer
import ChatRobots.Operator.CommandLine
import ChatRobots.Operator.Diagnosis
import ChatRobots.Operator.Syntax
import ChatRobots.Operator.Task
import ChatRobots.Poker.Backend
import ChatRobots.Poker.Basic
import ChatRobots.Poker.Call
import ChatRobots.Poker.Memory
import ChatRobots.Poker.Round
import ChatRobots.Poker.Snapshot
import ChatRobots.Poker.Table
import ChatRobots.Robot.Crew
import ChatRobots.Robot.Error
import ChatRobots.Robot.Messenger
import ChatRobots.Robot.Poker
import ChatRobots.Robot.Registry
import ChatRobots.Robot.Router
import ChatRobots.Robot.Scene
import ChatRobots.Robot.Settings
import ChatRobots.Robot.Vacation
import ChatRobots.Server.Bootstrap
import ChatRobots.Server.Run
import ChatRobots.Settings.Basic
import ChatRobots.StoreError
import ChatRobots.Text.Blank
import ChatRobots.Text.CaseTable
import ChatRobots.Text.Hex
import ChatRobots.Text.Lowercase
import ChatRobots.Text.PrintTable
import ChatRobots.Text.Quoted
import ChatRobots.Text.Similarity
import ChatRobots.Text.Split
import ChatRobots.Text.Utf8
import ChatRobots.Toml.Document
import ChatRobots.Toml.Reader
import ChatRobots.Toml.Scalar
import ChatRobots.Toml.Value
import ChatRobots.Vacations.Basic
import ChatRobots.Main
import ChatRobots.Proofs.Action
import ChatRobots.Proofs.Dictionary
import ChatRobots.Proofs.Calendar.Digits
import ChatRobots.Proofs.Calendar.InstantText
import ChatRobots.Proofs.Poker.Board
import ChatRobots.Proofs.Poker.Faithful
import ChatRobots.Proofs.Poker.RosterText
import ChatRobots.Proofs.Poker.MemoryBoard
import ChatRobots.Proofs.Database.Queries
import ChatRobots.Proofs.Database.PokerBoard
import ChatRobots.Proofs.Poker.Medium
import ChatRobots.Proofs.Poker.Moves
import ChatRobots.Proofs.Poker.Runs
import ChatRobots.Proofs.Poker.StoryExclusivity
import ChatRobots.Proofs.Poker.Ballots
import ChatRobots.Proofs.Poker.RosterExactness
import ChatRobots.Proofs.Poker.Alike
import ChatRobots.Proofs.Poker.StoresAgree
import ChatRobots.Proofs.Poker.Channels
import ChatRobots.Proofs.Robot.PokerTurn
import ChatRobots.Proofs.Robot.ChannelIsolation
import ChatRobots.Proofs.Poker.VoteHistory
import ChatRobots.Proofs.Poker.OpenSessions
import ChatRobots.Proofs.Robot.Scripts
import ChatRobots.Proofs.Robot.PokerWork
import ChatRobots.Proofs.Robot.Supervision
import ChatRobots.Proofs.Robot.CrewAnswers
import ChatRobots.Proofs.Poker.Ledger
import ChatRobots.Proofs.Database.PokerLedger
import ChatRobots.Proofs.Poker.MemoryLedger
import ChatRobots.Proofs.Poker.Entries
import ChatRobots.Proofs.Robot.Reached
import ChatRobots.Proofs.Robot.TruthfulReplies
import ChatRobots.Proofs.Growth
import ChatRobots.Proofs.Poker.Lifecycle
import ChatRobots.Proofs.Poker.MemoryLifecycle
import ChatRobots.Proofs.Database.PokerLifecycle
import ChatRobots.Proofs.Poker.AppendOnly
import ChatRobots.Proofs.Robot.Dispatch
import ChatRobots.Proofs.Poker.Parts
import ChatRobots.Proofs.Robot.CommandRuns
import ChatRobots.Proofs.Robot.ChannelViews
import ChatRobots.Proofs.Poker.FailedCalls
import ChatRobots.Proofs.Poker.Untimed
import ChatRobots.Proofs.Poker.MemoryUntimed
import ChatRobots.Proofs.Database.PokerUntimed
import ChatRobots.Proofs.Poker.WithoutFailures
import ChatRobots.Proofs.Poker.SessionsReread
import ChatRobots.Proofs.Robot.ErrorReplies
import ChatRobots.Proofs.Robot.Twins
import ChatRobots.Proofs.Settings.Values
import ChatRobots.Proofs.Text.Cutting
import ChatRobots.Proofs.Text.Trimming
import ChatRobots.Proofs.Command.Grammar
import ChatRobots.Proofs.Robot.SettingsSecrecy
import ChatRobots.Proofs.Text.AsciiCase
import ChatRobots.Proofs.Config.Layers
import ChatRobots.Proofs.Config.FileDocument
import ChatRobots.Proofs.Config.CommandTokens
import ChatRobots.Proofs.Http.SlashCommands
import ChatRobots.Proofs.Text.AsciiLetters
import ChatRobots.Proofs.Config.Provenance
import ChatRobots.Proofs.Config.PlainDocument
import ChatRobots.Proofs.Config.Attribution
import ChatRobots.Proofs.Config.WebAddress
import ChatRobots.Proofs.Config.Interpolation
import ChatRobots.Proofs.Config.Redaction
import ChatRobots.Proofs.Settings.Faithful
import ChatRobots.Proofs.CallRuns
import ChatRobots.Proofs.Settings.FiniteMap
import ChatRobots.Proofs.Robot.SettingsTurn
import ChatRobots.Proofs.Robot.SettingsIsolation
import ChatRobots.Proofs.Settings.Entries
import ChatRobots.Proofs.Text.Beginnings
import ChatRobots.Proofs.Robot.SettingsLifecycle
import ChatRobots.Proofs.Robot.CorrelationIds
import ChatRobots.Proofs.Http.RoutesAgree
import ChatRobots.Proofs.Json.Reader
import ChatRobots.Proofs.Json.RoundTrip
import ChatRobots.Proofs.Message.Body
import ChatRobots.Proofs.Calendar.DateText
import ChatRobots.Proofs.Calendar.DayCount
import ChatRobots.Proofs.Database.VacationRows
import ChatRobots.Proofs.Vacations.StoresAgree
import ChatRobots.Proofs.Vacations.DatesSurvive
import ChatRobots.Proofs.Robot.WhoIsOut
import ChatRobots.Proofs.Config.Layering
