import Litmus.HostPath
import Litmus.Main
import Litmus.Test.Script
import Litmus.Proofs.Class.Labels
import Litmus.Proofs.Class.WellFormed
import Litmus.Proofs.Class.Relabelling
import Litmus.Proofs.Class.Canonical
import Litmus.Proofs.Class.Enumeration
import Litmus.Proofs.Placement.Matching
import Litmus.Proofs.Topology.Build
import Litmus.Proofs.Placement.Shape
import Litmus.Proofs.Placement.Seating
import Litmus.Proofs.Placement.Search
import Litmus.Proofs.Placement.Augmenting
import Litmus.Proofs.Placement.Digest
import Litmus.Proofs.Scheduler.Spread
import Litmus.Proofs.Scheduler.Accounts
import Litmus.Proofs.Scheduler.Calls
import Litmus.Proofs.Scheduler.Exactness
import Litmus.Proofs.Scheduler.Sessions
import Litmus.Proofs.Scheduler.Shapes
import Litmus.Proofs.Scheduler.Refusals
import Litmus.Proofs.Scheduler.Custody
import Litmus.Proofs.Scheduler.Quarantine
import Litmus.Proofs.Scheduler.Idle
import Litmus.Proofs.Runner.Waiting
import Litmus.Proofs.Engine.Trace
import Litmus.Proofs.Engine.Turn
import Litmus.Proofs.Engine.Progress
import Litmus.Proofs.Engine.Station
import Litmus.Proofs.Engine.Lockstep
import Litmus.Proofs.Engine.Pool
import Litmus.Proofs.Engine.Views
import Litmus.Proofs.Engine.Lineage
import Litmus.Proofs.Engine.Slices
import Litmus.Proofs.Engine.Visits
import Litmus.Proofs.Engine.Barrier
import Litmus.Proofs.Engine.Ledger
import Litmus.Proofs.Engine.Ending
import Litmus.Proofs.Engine.Calm
import Litmus.Proofs.Engine.Lives
import Litmus.Proofs.Engine.Publish
import Litmus.Proofs.Engine.Chronicles
import Litmus.Proofs.Engine.Reports
import Litmus.Proofs.Engine.Accounting
import Litmus.Proofs.Engine.Counters
import Litmus.Proofs.Engine.Waits
import Litmus.Proofs.Engine.Growth
import Litmus.Proofs.Engine.Partition
import Litmus.Proofs.Engine.Arrivals
import Litmus.Proofs.Topology.Records
import Litmus.Proofs.Topology.Listings
import Litmus.Proofs.Topology.Rectangular
import Litmus.Proofs.Topology.Layout
import Litmus.Proofs.Scheduler.Selection
import Litmus.Proofs.Runner.Events
import Litmus.Proofs.Runner.Stages
import Litmus.Proofs.Engine.Breaks
import Litmus.Proofs.Stride.Climb
import Litmus.Proofs.Stride.Search
import Litmus.Proofs.Stride.Cap
import Litmus.Proofs.Stride.Validated
import Litmus.Proofs.Runner.Settlement
import Litmus.Proofs.Runner.Schedules
import Litmus.Proofs.Runner.Containment
import Litmus.Proofs.Runner.Refusals
import Litmus.Proofs.Suite.Answers
import Litmus.Proofs.Tally.Laws
import Litmus.Proofs.Outcome
import Litmus.Proofs.Runner.Grading
import Litmus.Proofs.Runner.Rendering
import Litmus.Proofs.Runner.Course
import Litmus.Proofs.Engine.Statistics
import Litmus.Proofs.Runner.Keeping
import Litmus.Proofs.Suite.Matrix
