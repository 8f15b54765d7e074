import GraphClient.Pool

namespace GraphClient

/-- How the shutdown of one endpoint ends; one that crashes counts as failed. -/
inductive ShutdownEnding where
  | success
  | failure (error : CallError)
  | crash
deriving DecidableEq, Inhabited

/-- How the shutdown of a node goes: how long it takes, and how it ends. -/
structure Shutdown where
  delay : Duration := .zero
  ending : ShutdownEnding := .success
deriving DecidableEq, Inhabited

/-- Shutdowns that start at the same time, in the order in which they end. -/
def Shutdown.inOrderOfEnding (shutdowns : List Shutdown) : List Shutdown :=
  shutdowns.mergeSort fun first second => decide (first.delay ≤ second.delay)

/-- How many endpoints have closed, have failed to, and were not done when the time was over. -/
structure ShutdownReport where
  closed : Nat := 0
  failed : Nat := 0
  timedOut : Nat := 0
deriving DecidableEq, Inhabited

namespace ShutdownReport

/-- Counts a shutdown that has ended; a crash has failed. -/
def count (report : ShutdownReport) : ShutdownEnding → ShutdownReport
  | .success => { report with closed := report.closed + 1 }
  | .failure _ | .crash => { report with failed := report.failed + 1 }

/-- Waits for the running shutdowns, the next one to end first. The first one that does not end before
the time is over has timed out with all that still run. -/
def collect (report : ShutdownReport) (timeout : Duration) : List Shutdown → ShutdownReport
  | [] => report
  | next :: later =>
    if next.delay < timeout then (report.count next.ending).collect timeout later
    else { report with timedOut := (next :: later).length }

/-- Every endpoint has closed. -/
def isClean (report : ShutdownReport) : Bool :=
  report.failed == 0 && report.timedOut == 0

end ShutdownReport

namespace Pool

/-- The shutdowns of the endpoints in order; a node of which nothing is said closes at once. -/
def shutdowns (pool : Pool) (behaviours : List Shutdown) : List Shutdown :=
  pool.endpoints.mapIdx fun position endpoint =>
    if endpoint.hasShutdown then behaviours.getD position {} else {}

/-- All endpoints shut down at the same time, and each ending is counted when it comes; when the
time is over, those that are not done are given up. -/
def close (pool : Pool) (timeout : Duration) (behaviours : List Shutdown) : ShutdownReport :=
  ({} : ShutdownReport).collect timeout (Shutdown.inOrderOfEnding (pool.shutdowns behaviours))

end Pool

end GraphClient
