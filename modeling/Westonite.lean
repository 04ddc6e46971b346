import Westonite.Library.Run
import Westonite.Library.Vec
import Westonite.Library.Deterministic
import Westonite.Library.AssocMap
import Westonite.Library.Forest
import Westonite.Library.Radix
import Westonite.Library.Walk
import Westonite.Library.Ring
import Westonite.Registry.Ids
import Westonite.Registry.SlotTable
import Westonite.Registry.SlotTableProperties
import Westonite.Registry.LiveBijection
import Westonite.Events
import Westonite.Dispatch.Machine
import Westonite.Dispatch.Transition
import Westonite.Dispatch.DeferredDrop
import Westonite.Dispatch.ExactlyOnce
import Westonite.Dispatch.EmptySlot
import Westonite.Shell.Host
import Westonite.Shell.Policy
import Westonite.Shell.Family
import Westonite.Shell.Rules
import Westonite.Shell.Underlay
import Westonite.Shell.Runs
import Westonite.Shell.FocusCount
import Westonite.Shell.Activated
import Westonite.Shell.ActivatedRuns
import Westonite.Shell.FamilyRuns
import Westonite.Shell.Nesting
import Westonite.Shell.Reposition
import Westonite.Shell.Anchoring
import Westonite.Shell.ShutdownOrder
import Westonite.Shell.InitialPlacement
import Westonite.Grab.Machine
import Westonite.Grab.Places
import Westonite.Grab.Changes
import Westonite.Grab.Transition
import Westonite.Grab.Liveness
import Westonite.Grab.Stranded
import Westonite.Grab.OrderlyRuns
import Westonite.Grab.Answers
import Westonite.Grab.Pong
import Westonite.Grab.ResizeFlags
import Westonite.Grab.ResizeRuns
import Westonite.Output.Policy
import Westonite.Output.World
import Westonite.Output.Heads
import Westonite.Output.Layoutput
import Westonite.Output.Flush
import Westonite.Output.Calls
import Westonite.Output.Around
import Westonite.Output.StagedHeads
import Westonite.Output.HeadArray
import Westonite.Output.AttachEnable
import Westonite.Output.GroupNames
import Westonite.Output.GroupSetup
import Westonite.Output.CloneOf
import Westonite.Output.Entries
import Westonite.Output.Turns
import Westonite.Output.Verdict
import Westonite.Output.Mirrors
import Westonite.Output.Settled
import Westonite.Output.StagedTurns
import Westonite.Output.ReadyRuns
import Westonite.Output.MirrorGroups
import Westonite.Output.MirrorRuns
import Westonite.Output.MirrorModes
import Westonite.Output.Placement
import Westonite.Output.PlacementRuns
import Westonite.Output.PlacementMachine
import Westonite.Output.SimpleMode
import Westonite.Xwayland.Machine
import Westonite.Xwayland.Transition
import Westonite.Xwayland.Resources
import Westonite.Xwayland.Readiness
import Westonite.Tracking.Wrapper
import Westonite.Tracking.Balance
import Westonite.Tracking.Operations
import Westonite.Tracking.Runs
import Westonite.Tracking.Wraps
import Westonite.Background.Wrapper
import Westonite.Background.Consistency
import Westonite.Views.Wrapper
import Westonite.Views.Records
import Westonite.Views.Once
import Westonite.Config.Color
import Westonite.Config.Overrides
import Westonite.Config.IntegerColor
import Westonite.Debug.ProtocolLog
import Westonite.Debug.ArgumentPairing
import Westonite.Listeners.Machine
import Westonite.Listeners.Pointers
import Westonite.Listeners.Attachment
import Westonite.Listeners.Unnested
import Westonite.Library.Fields
import Westonite.Library.Binary
import Westonite.Library.Fallible
import Westonite.Resolve.Model
import Westonite.Resolve.Discover
import Westonite.Resolve.ResolveFrom
import Westonite.Resolve.Resolved
import Westonite.Resolve.Precedence
import Westonite.Frontend.OptionParser
import Westonite.Frontend.Gate
import Westonite.Frontend.Leftover
import Westonite.Frontend.Characteristics
import Westonite.Frontend.OutputRules
import Westonite.Frontend.Accepted
import Westonite.Frontend.Libinput
import Westonite.Frontend.WindowedHeads
import Westonite.Spawn.ExecString
import Westonite.Children.Machine
import Westonite.Children.Transition
import Westonite.Children.Reaping
import Westonite.Children.Capture
import Westonite.Library.Lifetimes
import Westonite.Lifetime.Resources
import Westonite.Lifetime.Build
import Westonite.Lifetime.Main
import Westonite.Lifetime.Accounts
import Westonite.Lifetime.Teardown
import Westonite.Lifetime.Startup
import Westonite.Lifetime.EventLoop
import Westonite.Lifetime.Process
import Westonite.Library.Descriptors
import Westonite.Spawn.Launch
import Westonite.Xwayland.Launch
import Westonite.Xwayland.LaunchRuns
import Westonite.Xwayland.LaunchAgreement
import Westonite.Xwayland.LaunchSimulation
import Westonite.Spawn.ClientStart
