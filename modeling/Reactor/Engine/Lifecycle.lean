import Reactor.Engine

/-!
The life of a runtime from its assembly on: building it, joining the cluster, leaving it again, and
letting go of it. Joining and leaving wait for the cluster manager and are driven by polls. A runtime
whose joining fails or is given up is closed; leaving closes it whatever the manager answers.
-/

namespace Reactor

namespace Assembly

def prepare (assembly : Assembly) (host : Host) (registry : Registry) :
    Told (Except BootError Bindings × Assembly × Registry) := do
  let (answer, assembly, registry) ← assembly.resolve host registry
  match answer with
  | .error error => return (.error error, assembly, registry)
  | .ok bindings =>
    assembly.checkObservability
    return (.ok bindings, assembly, registry)

def build (assembly : Assembly) (host : Host) (files : FileTree) (registry : Registry)
    (took : Span) : Told (Except (Halt BootError) Engine × Registry) := do
  let (answer, assembly, registry) ← assembly.prepare host registry
  match answer with
  | .error error => return (.error (.failed error), registry)
  | .ok bindings =>
    let answer ← Engine.start host files assembly.options bindings none assembly.blockedHandler took
    return (answer.mapError (·.halt), registry)

def chooseSelector (bindings : Bindings) : Told NodeSelector :=
  match bindings.nodeSelector with
  | some selector => return selector
  | none => do
    Told.log .caller .debug .bootstrap "No node selector bound, using the default selector" []
    return .roundRobin

end Assembly

namespace Engine

/-- To let go of a runtime closes it. Then its loops, its workers and its watchdog are let go of,
each of which would stop itself if it still ran. -/
def drop (engine : Engine) : Told Engine := do
  let engine ← engine.close
  let (_, loops, watch) ← stopLoops engine.workshop.watch .caller engine.loops
  let (_, workers, watch) ← engine.workers.shutdown watch .caller
  if engine.watchdogClosed = false then
    Told.deed .watchdogStopped
  return { engine with
    loops, workers
    watchdogClosed := true
    workshop := { engine.workshop with watch } }

end Engine

inductive JoinStage where
  | fresh
  -- The manager was asked, and answers after so many polls.
  | asked (polls : Nat)
deriving DecidableEq

structure Joining where
  engine : Engine
  manager : ClusterManager
  stage : JoinStage

namespace Joining

private def note (level : Level) (target : Target) (message : String)
    (fields : List (String × LogValue)) : Told Unit :=
  Told.log .caller level target message fields

private def settle (joining : Joining) : Told (Except BootError Engine) :=
  match joining.manager.joinFailure with
  | none => do
    note .info .runtime "Joined cluster"
      [("cluster_manager", .text joining.manager.name),
        ("node_id", .shown joining.manager.nodeId)]
    return .ok joining.engine
  | some reason => do
    note .warn .bootstrap "Cluster join failed, closing runtime" [("error", .shown reason)]
    let _ ← joining.engine.close
    return .error (.clusterJoin ⟨reason, []⟩)

private def wait (joining : Joining) : Nat → Told (Except Joining (Except BootError Engine))
  | 0 => do return .ok (← joining.settle)
  | polls + 1 => return .error { joining with stage := .asked polls }

/-- Asks whether the cluster has been joined: either not yet, or with an answer. -/
def poll (joining : Joining) : Told (Except Joining (Except BootError Engine)) :=
  match joining.stage with
  | .fresh => do
    note .debug .runtime "Joining cluster" [("cluster_manager", .text joining.manager.name)]
    Told.call (.joinCluster joining.manager)
    joining.wait joining.manager.joinPolls
  | .asked polls => joining.wait polls

/-- The polls that are left until the answer, the answering one included. -/
def pollsLeft (joining : Joining) : Nat :=
  match joining.stage with
  | .fresh => joining.manager.joinPolls + 1
  | .asked polls => polls + 1

def pollUpTo (joining : Joining) : Nat → Told (Except Joining (Except BootError Engine))
  | 0 => return .error joining
  | fuel + 1 => do
    match ← joining.poll with
    | .ok answer => return .ok answer
    | .error waiting => waiting.pollUpTo fuel

def run (joining : Joining) : Told (Except Joining (Except BootError Engine)) :=
  joining.pollUpTo joining.pollsLeft

def abandon (joining : Joining) : Told Engine := joining.engine.drop

end Joining

namespace Assembly

def buildClustered (assembly : Assembly) (host : Host) (files : FileTree) (registry : Registry)
    (took : Span) : Told (Except (Halt BootError) Joining × Registry) := do
  let (answer, assembly, registry) ← assembly.prepare host registry
  match answer with
  | .error error => return (.error (.failed error), registry)
  | .ok bindings =>
    match bindings.clusterManager with
    | none => return (.error (.failed (.configuration .noClusterManager)), registry)
    | some manager =>
      let selector ← chooseSelector bindings
      let cluster : ClusterBinding := ⟨manager, selector, .fresh⟩
      let answer ← Engine.start host files assembly.options bindings (some cluster)
        assembly.blockedHandler took
      match answer with
      | .error aborted => return (.error aborted.halt, registry)
      | .ok engine => return (.ok ⟨engine, manager, .fresh⟩, registry)

end Assembly

inductive Departure where
  | fresh
  -- The manager was asked to leave, and answers after so many polls.
  | leaving (manager : ClusterManager) (polls : Nat)
deriving DecidableEq

namespace Engine

private def depart (engine : Engine) (failure : Option String) :
    Told (Engine × Except Departure (Except Failure Unit)) := do
  let engine ← engine.close
  match failure with
  | none => return (engine, .ok (.ok ()))
  | some reason => return (engine, .ok (.error ⟨"Failed to leave cluster", [reason]⟩))

private def waitToLeave (engine : Engine) (manager : ClusterManager) :
    Nat → Told (Engine × Except Departure (Except Failure Unit))
  | 0 => engine.depart manager.leaveFailure
  | polls + 1 => return (engine, .error (.leaving manager polls))

/-- One poll of a shutdown: leaves the cluster if the runtime is open, then closes it. -/
def pollShutdown (engine : Engine) (departure : Departure) :
    Told (Engine × Except Departure (Except Failure Unit)) :=
  match departure with
  | .leaving manager polls => engine.waitToLeave manager polls
  | .fresh =>
    match engine.cluster with
    | none => engine.depart none
    | some binding =>
      if engine.closed then
        engine.depart none
      else do
        Told.call (.leaveCluster binding.manager)
        engine.waitToLeave binding.manager binding.manager.leavePolls

/-- Polls a shutdown until there is an answer; `fuel` bounds the polls. -/
def shutdownUpTo (engine : Engine) (departure : Departure) :
    Nat → Told (Engine × Except Failure Unit)
  | 0 => return (engine, .ok ())
  | fuel + 1 => do
    match ← engine.pollShutdown departure with
    | (engine, .ok answer) => return (engine, answer)
    | (engine, .error departure) => engine.shutdownUpTo departure fuel

def shutdown (engine : Engine) : Told (Engine × Except Failure Unit) :=
  let polls := engine.cluster.elim 0 fun binding => binding.manager.leavePolls
  engine.shutdownUpTo .fresh (polls + 1)

end Engine

end Reactor
