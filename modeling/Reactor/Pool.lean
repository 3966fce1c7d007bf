import Reactor.Crew

/-!
Pools of threads and event loops: crews with a name. A pool starts all of its threads or none;
the first one that cannot be made ends the start, and those made before are waited for.
-/

namespace Reactor

structure Pool where
  shape : PoolShape
  crew : Crew

namespace Pool

def bytesPerThread : Nat := 32

def threadName (shape : PoolShape) (index : Nat) : String := shape.name ++ "-" ++ toString index

/-- Makes the remaining threads; gives those made before a failure with it. -/
def makeThreads (shape : PoolShape) (workshop : Workshop) (made : List RuntimeThread) (index : Nat) :
    Nat → Told (Except (Halt PoolFault) Unit × List RuntimeThread × Workshop)
  | 0 => return (.ok (), made, workshop)
  | remaining + 1 =>
    let name := threadName shape index
    match Descriptor.create? name shape.role shape.budget with
    | none => return (.error (.failed (.badDescriptor name)), made, workshop)
    | some descriptor => do
      let (answer, workshop) ← workshop.newThread descriptor
      match answer with
      | .error halt => return (.error (halt.mapError (.noThread name)), made, workshop)
      | .ok thread => makeThreads shape workshop (made ++ [thread]) (index + 1) remaining

def releaseAll (workshop : Workshop) : List RuntimeThread → Told Workshop
  | [] => return workshop
  | thread :: threads => do
    Told.deed (.released thread.key)
    releaseAll { workshop with watch := workshop.watch.forget thread.key } threads

/-- Starts the threads of a pool, all or none. -/
def start (workshop : Workshop) (shape : PoolShape) :
    Told (Except (Halt PoolFault) Pool × Workshop) :=
  if shape.size = 0 then
    return (.error (.failed (.noThreads shape.name)), workshop)
  else if allocationLimit < bytesPerThread * shape.size then
    return (.error (.panicked .noCapacity), workshop)
  else do
    let (outcome, made, workshop) ← makeThreads shape workshop [] 0 shape.size
    match outcome with
    | .ok () =>
      Told.log .caller .debug .executor "Executor pool started"
        [("pool", .shown shape.name), ("size", .count shape.size),
          ("role", .shown shape.role.text)]
      return (.ok ⟨shape, .create made⟩, workshop)
    | .error (.failed fault) => return (.error (.failed fault), ← workshop.joinAll made)
    | .error (.panicked panic) => return (.error (.panicked panic), ← releaseAll workshop made)

def submit (pool : Pool) (job : Job) : Except SubmitFault Pool :=
  match pool.crew.line.submit job with
  | .ok line => .ok { pool with crew := { pool.crew with line } }
  | .error .hungUp => .error (.poolShutDown pool.shape.name)
  | .error .deserted => .error (.poolDeserted pool.shape.name)

def submitAll (pool : Pool) : List Job → Except SubmitFault Pool
  | [] => .ok pool
  | job :: jobs => do (← pool.submit job).submitAll jobs

def shutdown (pool : Pool) (watch : Watch) (actor : Actor) : Told (List Job × Pool × Watch) :=
  if pool.crew.line.accepting = false then
    return ([], pool, watch)
  else do
    let (jobs, crew, watch) ← pool.crew.stop watch actor fun report =>
      Told.log actor .warn .executor "Pool thread exited abnormally"
        [("pool", .shown pool.shape.name), ("error", .shown report)]
    Told.log actor .debug .executor "Executor pool stopped" [("pool", .shown pool.shape.name)]
    return (jobs, { pool with crew }, watch)

def discard (watch : Watch) : Option Pool → Told Watch
  | none => return watch
  | some pool => do
    let (_, _, watch) ← pool.shutdown watch .caller
    return watch

/-- Runs one job, which looks; between its look and its end it may act on pool and watch. -/
def perform (pool : Pool) (watch : Watch) (now : Nat) (job : Job)
    (act : Actor → Pool → Watch → Told (Pool × Watch)) :
    Told (Except SubmitFault (Option Look) × Pool × Watch) :=
  match pool.submit job with
  | .error fault => return (.error fault, pool, watch)
  | .ok submitted =>
    match submitted.crew.occupy watch now with
    | none => return (.ok none, submitted, watch)
    | some (index, look, crew, watch) => do
      let actor : Actor :=
        match crew.threads[index]? with
        | some thread => .thread thread.key
        | none => .caller
      let (pool, watch) ← act actor { pool with crew } watch
      let (_, crew, watch) ← pool.crew.vacate watch [index]
      return (.ok (some look), { pool with crew }, watch)

def run (pool : Pool) (watch : Watch) (now : Nat) (job : Job) :
    Told (Except SubmitFault (Option Look) × Pool × Watch) :=
  pool.perform watch now job fun _ pool watch => return (pool, watch)

def runShutdown (pool : Pool) (watch : Watch) (now : Nat) :
    Told (Except SubmitFault (Option Look) × Pool × Watch) :=
  pool.perform watch now ⟨0, false⟩ fun actor pool watch => do
    let (_, pool, watch) ← pool.shutdown watch actor
    return (pool, watch)

/-- Jobs that hold every thread at the same time. Gives the threads' places and looks. -/
def occupyAll (pool : Pool) (watch : Watch) (now : Nat) :
    Except SubmitFault (List (Nat × Look) × Pool × Watch) := do
  let submitted ← pool.submitAll (List.replicate pool.shape.size ⟨0, false⟩)
  let (seats, crew, watch) := submitted.crew.occupyAll watch now pool.shape.size
  return (seats, { pool with crew }, watch)

def vacate (pool : Pool) (watch : Watch) (places : List Nat) : Told (Pool × Watch) := do
  let (_, crew, watch) ← pool.crew.vacate watch places
  return ({ pool with crew }, watch)

def runAll (pool : Pool) (watch : Watch) (now : Nat) :
    Told (Except SubmitFault (List Look) × Pool × Watch) :=
  match pool.occupyAll watch now with
  | .error fault => return (.error fault, pool, watch)
  | .ok (seats, pool, watch) => do
    let (pool, watch) ← pool.vacate watch (seats.map (·.1))
    return (.ok (seats.map (·.2)), pool, watch)

/-- Holds one thread and puts the jobs numbered below `count` into the line. -/
def fill (pool : Pool) (watch : Watch) (now count : Nat) :
    Except SubmitFault (List Nat × Pool × Watch) := do
  let held ← pool.submit ⟨count, false⟩
  let (places, crew, watch) :=
    match held.crew.occupy watch now with
    | some (index, _, crew, watch) => ([index], crew, watch)
    | none => ([], held.crew, watch)
  let filled ← submitAll { pool with crew } ((List.range count).map (⟨·, false⟩))
  return (places, filled, watch)

/-- Fills the line behind one held thread, lets it go and shuts down. Gives the order of the jobs. -/
def drain (pool : Pool) (watch : Watch) (now count : Nat) :
    Told (Except SubmitFault (List Nat) × Pool × Watch) :=
  match pool.fill watch now count with
  | .error fault => return (.error fault, pool, watch)
  | .ok (places, pool, watch) => do
    let (before, crew, watch) ← pool.crew.vacate watch places
    let (after, pool, watch) ← shutdown { pool with crew } watch .caller
    return (.ok ((before ++ after).map (·.ticket)), pool, watch)

end Pool

structure EventLoop where
  name : String
  crew : Crew

namespace EventLoop

def submit (loop : EventLoop) (job : Job) : Except SubmitFault EventLoop :=
  match loop.crew.line.submit job with
  | .ok line => .ok { loop with crew := { loop.crew with line } }
  | .error .hungUp => .error (.loopStopped loop.name)
  | .error .deserted => .error (.loopExited loop.name)

/-- Stops the loop; a loop that was stopped before has nothing left to wait for. -/
def stop (loop : EventLoop) (watch : Watch) (actor : Actor) : Told (List Job × EventLoop × Watch) := do
  let (jobs, crew, watch) ← loop.crew.stop watch actor fun report =>
    Told.log actor .warn .runtime "Event loop exited abnormally"
      [("event_loop", .shown loop.name), ("error", .shown report)]
  return (jobs, { loop with crew }, watch)

end EventLoop

end Reactor
