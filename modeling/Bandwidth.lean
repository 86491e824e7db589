import Bandwidth.Backend.Source
import Bandwidth.Json.Reader
import Bandwidth.Machine
import Bandwidth.Main
import Bandwidth.Proofs.Elementwise.Progress
import Bandwidth.Proofs.Launch.Sequence
import Bandwidth.Proofs.Launch.Stride
import Bandwidth.Proofs.Elementwise.Interleaving
import Bandwidth.Proofs.Launch.Dispatch
import Bandwidth.Proofs.Elementwise.Pointwise
import Bandwidth.Proofs.Dot.Region
import Bandwidth.Proofs.Dot.Schedule
import Bandwidth.Proofs.Dot.Launch
import Bandwidth.Proofs.Stream.Lists
import Bandwidth.Proofs.Stream.Sound
import Bandwidth.Proofs.Stream.Kernels
import Bandwidth.Proofs.Stream.Transfers
import Bandwidth.Proofs.Stream.Refinement
import Bandwidth.Proofs.Dot.Total
import Bandwidth.Proofs.Stream.Reachable
import Bandwidth.Proofs.Benchmark.Exact
import Bandwidth.Proofs.Benchmark.Replay
import Bandwidth.Proofs.Benchmark.World
import Bandwidth.Proofs.Benchmark.Iterations
import Bandwidth.Proofs.Benchmark.Simulation
import Bandwidth.Proofs.Benchmark.Double
import Bandwidth.Proofs.Benchmark.Finiteness
import Bandwidth.Proofs.Launch.Counted
import Bandwidth.Proofs.Machine.Effect
import Bandwidth.Proofs.Machine.Books
import Bandwidth.Proofs.Machine.Budget
import Bandwidth.Proofs.Machine.HostAccess
import Bandwidth.Proofs.Stream.Total
import Bandwidth.Proofs.Stream.Creation
import Bandwidth.Proofs.Dot.Product
import Bandwidth.Proofs.Benchmark.Script
import Bandwidth.Proofs.Benchmark.Course
import Bandwidth.Proofs.Dot.Halving
import Bandwidth.Proofs.Launch.Turns
import Bandwidth.Proofs.Stream.Exchange
import Bandwidth.Proofs.Dot.Barriers
import Bandwidth.Proofs.Launch.Tasks
import Bandwidth.Proofs.Elementwise.Faults
import Bandwidth.Proofs.Elementwise.FaultySchedules
import Bandwidth.Proofs.Launch.Remaining
import Bandwidth.Proofs.Launch.Numbering
import Bandwidth.Proofs.Launch.Partition
import Bandwidth.Proofs.Benchmark.NonFinite
import Bandwidth.Proofs.Benchmark.Timings
