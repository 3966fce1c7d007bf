import Reactor.Engine

/-!
Work on a running runtime, from submission to end: jobs that run on a loop or on workers and
look at their thread, jobs that close the runtime from within, jobs that keep their thread until
they are released, and lines that are filled and then drained by closing.
-/

namespace Reactor

/-- A thread that a job keeps: the one of a loop, or one of the worker pool. -/
inductive Seat where
  | loop (index : Nat)
  | worker (place : Nat)
deriving DecidableEq

namespace Engine

private def setWatch (engine : Engine) (watch : Watch) : Engine :=
  { engine with workshop := { engine.workshop with watch } }

private def withLoopCrew (engine : Engine) (index : Nat) (crew : Crew) (watch : Watch) : Engine :=
  { engine.setWatch watch with loops := engine.loops.modify index fun loop => { loop with crew } }

def occupyLoop (engine : Engine) (index now : Nat) : Option (Look × Engine) := do
  let loop ← engine.loops[index]?
  let (_, look, crew, watch) ← loop.crew.occupy engine.workshop.watch now
  return (look, engine.withLoopCrew index crew watch)

/-- The thread of a loop ends its job and serves what is in its line. -/
def vacateLoop (engine : Engine) (index : Nat) : Told (List Job × Engine) :=
  match engine.loops[index]? with
  | none => return ([], engine)
  | some loop => do
    let (jobs, crew, watch) ← loop.crew.vacate engine.workshop.watch [0]
    return (jobs, engine.withLoopCrew index crew watch)

private def loopActor (engine : Engine) (index : Nat) : Actor :=
  match engine.loops[index]?.bind (·.crew.threads.head?) with
  | some thread => .thread thread.key
  | none => .caller

/-- Runs the job that the loop has just accepted; between its look and its end it may act. -/
def performOnLoop (engine : Engine) (index now : Nat) (act : Actor → Engine → Told Engine) :
    Told (Option Look × Engine) :=
  match engine.occupyLoop index now with
  | none => return (none, engine)
  | some (look, engine) => do
    let engine ← act (engine.loopActor index) engine
    let (_, engine) ← engine.vacateLoop index
    return (some look, engine)

/-- The answer to a job: why it was refused, or what it saw; none if it never ran. -/
abbrev Answer := Except (Halt SubmitFault) (Option Look)

def runOnLoop (engine : Engine) (now : Nat) (job : Job) (act : Actor → Engine → Told Engine) :
    Told (Answer × Engine) :=
  match engine.dispatch job with
  | (.error halt, engine) => return (.error halt, engine)
  | (.ok index, engine) => do
    let (look, engine) ← engine.performOnLoop index now act
    return (.ok look, engine)

def idly (_actor : Actor) (engine : Engine) : Told Engine := return engine

def closingIt (actor : Actor) (engine : Engine) : Told Engine := do
  let (_, engine) ← engine.closeBy actor
  return engine

def runTimes (engine : Engine) (now : Nat) :
    Nat → Told (Except Panic (List (Except SubmitFault (Option Look))) × Engine)
  | 0 => return (.ok [], engine)
  | times + 1 => do
    let (answer, engine) ← engine.runOnLoop now ⟨0, false⟩ idly
    match answer with
    | .error (.panicked panic) => return (.error panic, engine)
    | .error (.failed fault) =>
      let (others, engine) ← engine.runTimes now times
      return (others.map (.error fault :: ·), engine)
    | .ok look =>
      let (others, engine) ← engine.runTimes now times
      return (others.map (.ok look :: ·), engine)

/-- Runs a handler on the loop at `index` itself; none if there is no such loop. -/
def runOn (engine : Engine) (index now : Nat) (job : Job) :
    Told (Option (Except SubmitFault (Option Look)) × Engine) :=
  match engine.submitTo index job with
  | none => return (none, engine)
  | some (.error fault) => return (some (.error fault), engine)
  | some (.ok engine) => do
    let (look, engine) ← engine.performOnLoop index now idly
    return (some (.ok look), engine)

/-! ### Workers -/

private def withPool (engine : Engine) (workers : Pool) (watch : Watch) : Engine :=
  { engine.setWatch watch with workers }

def runOnWorker (engine : Engine) (now : Nat) (job : Job) (act : Actor → Engine → Told Engine) :
    Told (Except SubmitFault (Option Look) × Engine) :=
  match engine.executeBlocking job with
  | .error fault => return (.error fault, engine)
  | .ok engine =>
    match engine.workers.crew.occupy engine.workshop.watch now with
    | none => return (.ok none, engine)
    | some (index, look, crew, watch) => do
      let actor : Actor :=
        match crew.threads[index]? with
        | some thread => .thread thread.key
        | none => .caller
      let engine ← act actor (engine.withPool { engine.workers with crew } watch)
      let (_, crew, watch) ← engine.workers.crew.vacate engine.workshop.watch [index]
      return (.ok (some look), engine.withPool { engine.workers with crew } watch)

def occupyWorkers (engine : Engine) (now : Nat) :
    Except SubmitFault (List (Nat × Look) × Engine) :=
  if engine.closed then
    .error .runtimeClosed
  else do
    let (seats, workers, watch) ← engine.workers.occupyAll engine.workshop.watch now
    return (seats, engine.withPool workers watch)

private def vacateWorkers (engine : Engine) (places : List Nat) : Told Engine := do
  let (workers, watch) ← engine.workers.vacate engine.workshop.watch places
  return engine.withPool workers watch

def runOnAllWorkers (engine : Engine) (now : Nat) :
    Told (Except SubmitFault (List Look) × Engine) :=
  match engine.occupyWorkers now with
  | .error fault => return (.error fault, engine)
  | .ok (seats, engine) => do
    let engine ← engine.vacateWorkers (seats.map (·.1))
    return (.ok (seats.map (·.2)), engine)

/-- A handler that submits a job to the workers: the handler's answer, and what the job saw. -/
def hop (engine : Engine) (now : Nat) : Told (Answer × Option Look × Engine) :=
  match engine.dispatch ⟨0, false⟩ with
  | (.error halt, engine) => return (.error halt, none, engine)
  | (.ok index, engine) =>
    match engine.occupyLoop index now with
    | none => return (.ok none, none, engine)
    | some (look, engine) => do
      let (answer, engine) ← engine.runOnWorker now ⟨1, false⟩ idly
      let (_, engine) ← engine.vacateLoop index
      return (.ok (some look), answer.toOption.join, engine)

def holdLoop (engine : Engine) (now : Nat) : Answer × List Seat × Engine :=
  match engine.dispatch ⟨0, false⟩ with
  | (.error halt, engine) => (.error halt, [], engine)
  | (.ok index, engine) =>
    match engine.occupyLoop index now with
    | none => (.ok none, [], engine)
    | some (look, engine) => (.ok (some look), [.loop index], engine)

def holdWorkers (engine : Engine) (now : Nat) :
    Except SubmitFault (List Look × List Seat × Engine) := do
  let (seats, engine) ← engine.occupyWorkers now
  return (seats.map (·.2), seats.map fun (place, _) => .worker place, engine)

def release (engine : Engine) : List Seat → Told Engine
  | [] => return engine
  | .loop index :: seats => do
    let (_, engine) ← engine.vacateLoop index
    engine.release seats
  | .worker place :: seats => do
    let engine ← engine.vacateWorkers [place]
    engine.release seats

/-! ### Draining -/

def dispatchAll (engine : Engine) : List Job → Except (Halt SubmitFault) Unit × Engine
  | [] => (.ok (), engine)
  | job :: jobs =>
    match engine.dispatch job with
    | (.error halt, engine) => (.error halt, engine)
    | (.ok _, engine) => engine.dispatchAll jobs

private def tickets (jobs : List Job) : List Nat := jobs.map (·.ticket)

/-- Holds one loop, fills the lines, lets go and closes. Gives the order in which the jobs ran. -/
def drainLoops (engine : Engine) (now count : Nat) :
    Told (Except (Halt SubmitFault) (List Nat) × Engine) :=
  match engine.dispatch ⟨count, false⟩ with
  | (.error halt, engine) => return (.error halt, engine)
  | (.ok index, engine) => do
    let engine :=
      match engine.occupyLoop index now with
      | some (_, engine) => engine
      | none => engine
    match engine.dispatchAll ((List.range count).map (⟨·, false⟩)) with
    | (.error halt, engine) => return (.error halt, engine)
    | (.ok (), engine) =>
      let (before, engine) ← engine.vacateLoop index
      let (after, engine) ← engine.closeBy .caller
      return (.ok (tickets (before ++ after)), engine)

/-- Holds one worker, fills the line, lets go and closes. Gives the order in which the jobs ran. -/
def drainWorkers (engine : Engine) (now count : Nat) :
    Told (Except SubmitFault (List Nat) × Engine) :=
  if engine.closed then
    return (.error .runtimeClosed, engine)
  else
    match engine.workers.fill engine.workshop.watch now count with
    | .error fault => return (.error fault, engine)
    | .ok (places, workers, watch) => do
      let (before, crew, watch) ← workers.crew.vacate watch places
      let engine := engine.withPool { workers with crew } watch
      let (after, engine) ← engine.closeBy .caller
      return (.ok (tickets (before ++ after)), engine)

/-- A thread for the application that does nothing, waited for at once: its name and exit report. -/
def spawn (engine : Engine) (descriptor : Descriptor) :
    Told (Except (Halt String) (String × Option String) × Engine) := do
  let (answer, workshop) ← engine.workshop.newThread descriptor
  match answer with
  | .error halt => return (.error halt, { engine with workshop })
  | .ok thread =>
    let workshop ← workshop.join thread
    return (.ok (thread.descriptor.name, thread.exitReport false), { engine with workshop })

end Engine

end Reactor
