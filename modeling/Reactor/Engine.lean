import Reactor.Assembly
import Reactor.FileResolver.Closing
import Reactor.Pool

/-!
The running runtime: its event loops, its worker pool, the watch over their threads, and the
parts bound to it. Starting makes all threads or none. Closing stops the loops in their order,
then the pool, then the watchdog, and then tells the resolver, the tracer and the metrics, once.
-/

namespace Reactor

structure ClusterBinding where
  manager : ClusterManager
  selector : NodeSelector
  cursors : RoundRobin ClusterManager

structure Engine where
  host : Host
  files : FileTree
  options : Options
  transport : Transport
  metrics : Option MetricsSink
  tracer : Option Tracer
  resolver : FileResolver
  executorFactory : ExecutorFactory
  executorCalls : Nat
  cluster : Option ClusterBinding
  handler : Option BlockedHandler
  workshop : Workshop
  loops : List EventLoop
  workers : Pool
  watchdogClosed : Bool
  nextLoop : UInt64
  closed : Bool

structure AbortedStart where
  halt : Halt BootError
  workshop : Workshop

namespace Engine

private def note (actor : Actor) (level : Level) (message : String)
    (fields : List (String × LogValue)) : Told Unit :=
  Told.log actor level .runtime message fields

def bytesPerLoop : Nat := 80

def loopName (index : Nat) : String := "strand-event-loop-" ++ toString index

def workersName : String := "strand-worker"

/-- Stops loops in their order. Gives the jobs that were still in their lines. -/
def stopLoops (watch : Watch) (actor : Actor) :
    List EventLoop → Told (List Job × List EventLoop × Watch)
  | [] => return ([], [], watch)
  | loop :: loops => do
    let (jobs, loop, watch) ← loop.stop watch actor
    let (others, loops, watch) ← stopLoops watch actor loops
    return (jobs ++ others, loop :: loops, watch)

/-- Starts the remaining loops; gives those started before a failure with it. -/
def startLoops (budget : Span) (workshop : Workshop) (started : List EventLoop) (index : Nat) :
    Nat → Told (Except (Halt BootError) Unit × List EventLoop × Workshop)
  | 0 => return (.ok (), started, workshop)
  | remaining + 1 =>
    let name := loopName index
    match Descriptor.eventLoop? name budget with
    | none =>
      return (.error (.failed (.configuration (.eventLoopBudget name))), started, workshop)
    | some descriptor => do
      let (answer, workshop) ← workshop.newThread descriptor
      match answer with
      | .error halt =>
        return (.error (halt.mapError (.threadSpawn name)), started, workshop)
      | .ok thread =>
        let loop : EventLoop := ⟨name, .create [thread]⟩
        startLoops budget workshop (started ++ [loop]) (index + 1) remaining

def askForPool (factory : ExecutorFactory) (calls : Nat) (workshop : Workshop) (shape : PoolShape) :
    Told (Except (Halt PoolFault) Pool × Workshop) := do
  Told.call (.newExecutor factory shape)
  match factory.answer calls shape with
  | .error reason => return (.error (.failed (.refused reason)), workshop)
  | .ok shape => Pool.start workshop shape

def startThreads (options : Options) (factory : ExecutorFactory) (workshop : Workshop) :
    Told (Except (Halt BootError) Pool × List EventLoop × Workshop) := do
  let count := options.eventLoopPoolSize.toNat
  if allocationLimit < bytesPerLoop * count then
    return (.error (.panicked .noCapacity), [], workshop)
  else
    let (outcome, loops, workshop) ←
      startLoops options.maxEventLoopExecuteTime workshop [] 0 count
    match outcome with
    | .error halt => return (.error halt, loops, workshop)
    | .ok () =>
      let shape : PoolShape :=
        ⟨workersName, options.workerPoolSize.toNat, .worker, options.maxWorkerExecuteTime⟩
      let (answer, workshop) ← askForPool factory 0 workshop shape
      match answer with
      | .error halt =>
        return (.error (halt.mapError fun fault => .workerPool fault.failure), loops, workshop)
      | .ok pool => return (.ok pool, loops, workshop)

def tearDown (loops : List EventLoop) (workshop : Workshop) : Told Workshop := do
  let (_, _, watch) ← stopLoops workshop.watch .caller loops
  Told.deed .watchdogStopped
  return { workshop with watch }

def initSelector : Option ClusterBinding → Told (Option ClusterBinding)
  | none => return none
  | some binding => do
    Told.call (.initSelector binding.selector binding.manager)
    return some { binding with cursors := binding.cursors.init binding.manager }

def start (host : Host) (files : FileTree) (options : Options) (bindings : Bindings)
    (cluster : Option ClusterBinding) (handler : Option BlockedHandler) (took : Span) :
    Told (Except AbortedStart Engine) := do
  Watchdog.tellStart options.blockedThreadCheckInterval
  let workshop := Workshop.create bindings.threadFactory bindings.metrics
  let (answer, loops, workshop) ← startThreads options bindings.executorFactory workshop
  match answer with
  | .error halt => return .error ⟨halt, ← tearDown loops workshop⟩
  | .ok workers =>
    let cluster ← initSelector cluster
    Workshop.tellMetrics bindings.metrics (.runtimeStarted took)
    note .caller .info "Runtime started"
      [("transport", .text bindings.transport.name), ("event_loops", .count loops.length),
        ("workers", .count workers.shape.size), ("clustered", .flag cluster.isSome)]
    return .ok
      { host, files, options
        transport := bindings.transport
        metrics := bindings.metrics
        tracer := bindings.tracer
        resolver := bindings.fileResolver
        executorFactory := bindings.executorFactory
        executorCalls := 1
        cluster, handler, workshop, loops, workers
        watchdogClosed := false
        nextLoop := 0
        closed := false }

/-! ### Closing -/

private def closeResolver (engine : Engine) (actor : Actor) : Told Engine := do
  let (failure, files) ← engine.resolver.close actor engine.host.workingPlace engine.files
  match failure with
  | some reason => note actor .warn "File resolver failed to close" [("error", .shown reason)]
  | none => pure ()
  return { engine with files }

/-- Closes the runtime, unless that has been done. Gives the jobs that were still in its lines. -/
def closeBy (engine : Engine) (actor : Actor) : Told (List Job × Engine) :=
  if engine.closed then
    return ([], engine)
  else do
    let (loopJobs, loops, watch) ← stopLoops engine.workshop.watch actor engine.loops
    let (poolJobs, workers, watch) ← engine.workers.shutdown watch actor
    Told.deed .watchdogStopped
    let engine :=
      { engine with
        closed := true, watchdogClosed := true, loops, workers
        workshop := { engine.workshop with watch } }
    let engine ← engine.closeResolver actor
    match engine.tracer with
    | some tracer => Told.call (.closeTracer tracer)
    | none => pure ()
    Workshop.tellMetrics engine.metrics .close
    note actor .info "Runtime closed" []
    return (loopJobs ++ poolJobs, engine)

private theorem value_closeResolver (engine : Engine) (actor : Actor) :
    ∃ files, (engine.closeResolver actor).value = { engine with files } := by
  rcases closes : (engine.resolver.close actor engine.host.workingPlace engine.files).value with
    ⟨failure, files⟩
  refine ⟨files, ?_⟩
  unfold closeResolver
  rw [Told.value_bind, closes]
  cases failure <;> rfl

theorem value_closeBy {engine : Engine} (opened : engine.closed = false) (actor : Actor) :
    let stopped := (stopLoops engine.workshop.watch actor engine.loops).value
    let shut := (engine.workers.shutdown stopped.2.2 actor).value
    ∃ files, (engine.closeBy actor).value = (stopped.1 ++ shut.1,
      { engine with
        closed := true, watchdogClosed := true, loops := stopped.2.1, workers := shut.2.1, files
        workshop := { engine.workshop with watch := shut.2.2 } }) := by
  intro stopped shut
  obtain ⟨files, resolved⟩ := value_closeResolver
    { engine with
      closed := true, watchdogClosed := true, loops := stopped.2.1, workers := shut.2.1
      workshop := { engine.workshop with watch := shut.2.2 } } actor
  refine ⟨files, ?_⟩
  unfold closeBy
  rw [if_neg (by rw [opened]; exact Bool.false_ne_true)]
  simp only [Told.value_bind]
  rw [resolved]
  split <;> rfl

def close (engine : Engine) : Told Engine := do
  let (_, engine) ← engine.closeBy .caller
  return engine

def submitTo (engine : Engine) (index : Nat) (job : Job) : Option (Except SubmitFault Engine) :=
  engine.loops[index]?.map fun loop =>
    (loop.submit job).map fun loop => { engine with loops := engine.loops.set index loop }

/-- Puts a job into the line of the next loop. The rotation moves on even if the loop refuses. -/
def dispatch (engine : Engine) (job : Job) :
    Except (Halt SubmitFault) Nat × Engine :=
  if engine.closed then
    (.error (.failed .runtimeClosed), engine)
  else
    let position := engine.nextLoop
    let engine := { engine with nextLoop := position + 1 }
    let index := position.toNat % engine.loops.length
    match engine.submitTo index job with
    | none => (.error (.panicked .noRemainder), engine)
    | some (.error fault) => (.error (.failed fault), engine)
    | some (.ok engine) => (.ok index, engine)

def executeBlocking (engine : Engine) (job : Job) : Except SubmitFault Engine :=
  if engine.closed then
    .error .runtimeClosed
  else
    (engine.workers.submit job).map fun workers => { engine with workers }

/-- A further pool, made as the worker pool was. -/
def newExecutor (engine : Engine) (name : String) (size : Nat) :
    Told (Except (Halt PoolFault) Pool × Engine) := do
  let shape : PoolShape := ⟨name, size, .worker, engine.options.maxWorkerExecuteTime⟩
  let (answer, workshop) ←
    askForPool engine.executorFactory engine.executorCalls engine.workshop shape
  return (answer, { engine with executorCalls := engine.executorCalls + 1, workshop })

/-! ### The watchdog -/

def audience (engine : Engine) : Audience :=
  ⟨engine.options.warningExceptionTime, engine.metrics, engine.handler⟩

def pass (engine : Engine) (now : Nat) (actor : Actor) :
    Told (List BlockedThread × Option Panic × Engine) := do
  let watch := engine.workshop.watch.prune
  let reports := watch.violations now
  let engine := { engine with workshop := { engine.workshop with watch } }
  return (reports, ← engine.audience.hearAll (fun engine => Prod.snd <$> engine.closeBy actor)
    actor engine reports)

/-- A pass that somebody asks for, and that gives up if the handler does. -/
def check (engine : Engine) (now : Nat) (actor : Actor) :
    Told (List BlockedThread × Except Panic Engine) := do
  let (reports, panic, engine) ← engine.pass now actor
  return (reports, panic.elim (.ok engine) .error)

@[simp] theorem reports_pass (engine : Engine) (now : Nat) (actor : Actor) :
    (engine.pass now actor).value.1 = engine.workshop.watch.violations now :=
  engine.workshop.watch.violations_prune now

@[simp] theorem reports_check (engine : Engine) (now : Nat) (actor : Actor) :
    (engine.check now actor).value.1 = engine.workshop.watch.violations now :=
  engine.reports_pass now actor

def watched (engine : Engine) : Nat := engine.workshop.watch.watched

/-- The member that a message on `address` goes to. The outer option is none without a selector. -/
def selectForSend (engine : Engine) (address : String) : Option (Option String) × Engine :=
  match engine.cluster with
  | none => (none, engine)
  | some binding =>
    match binding.selector with
    | .fixed _ targets => (some targets.head?, engine)
    | .roundRobin =>
      let (chosen, cursors) := binding.cursors.send (·.nodes) address
      (some chosen, { engine with cluster := some { binding with cursors } })

def selectForPublish (engine : Engine) : Option (List String) :=
  engine.cluster.map fun binding =>
    match binding.selector with
    | .fixed _ targets => targets
    | .roundRobin => binding.cursors.publish (·.nodes)

private def flagText (flag : Bool) : String := if flag then "true" else "false"

def listing (engine : Engine) : String :=
  "RuntimeInstance \x7b transport: " ++ Text.quoted engine.transport.name
    ++ ", event_loops: " ++ toString engine.loops.length
    ++ ", workers: " ++ toString engine.workers.shape.size
    ++ ", clustered: " ++ flagText engine.cluster.isSome
    ++ ", closed: " ++ flagText engine.closed ++ " \x7d"

end Engine

end Reactor
