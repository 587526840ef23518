import TileScript.Command
import TileScript.Condition
import TileScript.Content.CommandFormat
import TileScript.Content.Compile
import TileScript.Content.Error
import TileScript.Content.Load
import TileScript.Content.Schema
import TileScript.Content.Script
import TileScript.Decimal
import TileScript.Failure
import TileScript.Geometry
import TileScript.IdMap
import TileScript.Input.Collector
import TileScript.Input.Event
import TileScript.Input.Format
import TileScript.Json.Basic
import TileScript.Json.Decode
import TileScript.Json.Number
import TileScript.Json.Scan
import TileScript.Json.Text
import TileScript.Language.Lookup
import TileScript.Language.Message
import TileScript.Language.Movement
import TileScript.Language.Plain
import TileScript.Language.Probe
import TileScript.Language.Standard
import TileScript.Launch.Basic
import TileScript.Launch.Files
import TileScript.Launch.Host
import TileScript.Launch.Log
import TileScript.Launch.LogFilter
import TileScript.Launch.Pattern
import TileScript.Main
import TileScript.Object.Basic
import TileScript.Object.Clock
import TileScript.Object.Model
import TileScript.Proofs.Content.Compiled
import TileScript.Proofs.Content.Order
import TileScript.Proofs.Input.Held
import TileScript.Proofs.Input.Stream
import TileScript.Proofs.Language.Deeds
import TileScript.Proofs.Language.Levels
import TileScript.Proofs.Language.Menus
import TileScript.Proofs.Language.Walks
import TileScript.Proofs.Object.Clocks
import TileScript.Proofs.Run.Calls
import TileScript.Proofs.Run.Containment
import TileScript.Proofs.Run.ControlFlow
import TileScript.Proofs.Run.Failing
import TileScript.Proofs.Run.Lifecycle
import TileScript.Proofs.Run.Menus
import TileScript.Proofs.Run.Nested
import TileScript.Proofs.Run.OnRoute
import TileScript.Proofs.Run.Performed
import TileScript.Proofs.Run.Rounds
import TileScript.Proofs.Run.Scripted
import TileScript.Proofs.Run.Seats
import TileScript.Proofs.Run.States
import TileScript.Proofs.Run.Tick
import TileScript.Proofs.Run.Transparency
import TileScript.Proofs.Run.Vetted
import TileScript.Proofs.Run.Ways
import TileScript.Proofs.Run.Writes
import TileScript.Proofs.Scene.ClockStarts
import TileScript.Proofs.Scene.Clocks
import TileScript.Proofs.Scene.Frames
import TileScript.Proofs.Scene.Pauses
import TileScript.Proofs.Scene.Routes
import TileScript.Proofs.Scene.Tiles
import TileScript.Proofs.Scene.Variables
import TileScript.Proofs.Scheduler.Bounded
import TileScript.Proofs.Scheduler.Deliveries
import TileScript.Proofs.Scheduler.Invariants
import TileScript.Proofs.Scheduler.Orderly
import TileScript.Proofs.Scheduler.Passes
import TileScript.Proofs.Scheduler.Pauses
import TileScript.Proofs.Scheduler.Receptions
import TileScript.Proofs.Scheduler.Turns
import TileScript.Proofs.Script.Checked
import TileScript.Proofs.Script.Grammar
import TileScript.Proofs.Script.Nesting
import TileScript.Proofs.Script.Outline
import TileScript.Proofs.Script.RoundTrip
import TileScript.Proofs.Script.WellPlaced
import TileScript.Proofs.Session.ActiveStates
import TileScript.Proofs.Session.Diagnostics
import TileScript.Proofs.Session.Ground
import TileScript.Proofs.Session.History
import TileScript.Proofs.Session.Intervals
import TileScript.Proofs.Session.Pacing
import TileScript.Proofs.Session.Provided
import TileScript.Proofs.Session.Replay
import TileScript.Proofs.Text.Markers
import TileScript.Proofs.Tree.Built
import TileScript.Proofs.Tree.Coverage
import TileScript.Proofs.Tree.Growth
import TileScript.Proofs.Tree.Jumps
import TileScript.Proofs.Tree.Landings
import TileScript.Proofs.Tree.Preorder
import TileScript.Proofs.Tree.Subtrees
import TileScript.Proofs.World.Tiles
import TileScript.Reaction
import TileScript.Run.Basic
import TileScript.Run.Effects
import TileScript.Scene.MapScene
import TileScript.Scene.Stack
import TileScript.Scheduler.Basic
import TileScript.Scheduler.Delivery
import TileScript.Scheduler.Pass
import TileScript.Session.Basic
import TileScript.Session.Clock
import TileScript.Session.Pacing
import TileScript.Text.Alphanumeric
import TileScript.Text.Blank
import TileScript.Text.Cased
import TileScript.Text.Digits
import TileScript.Text.Hidden
import TileScript.Text.LowerCase
import TileScript.Text.Markers
import TileScript.Text.Quoted
import TileScript.Text.Ranges
import TileScript.Tree.Basic
import TileScript.Tree.Links
import TileScript.Tree.Offset
import TileScript.Tree.Walk
import TileScript.Value
import TileScript.World
