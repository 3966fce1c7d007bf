import Reactor.Engine.Lifecycle
import Reactor.Engine.Work

/-!
A session: one runtime as its owner sees it. It begins with an assembly, which a build uses up; a
runtime that is to join a cluster is joined or given up; then the runtime is in use until it is
let go. Beside it the owner keeps the registry, the pools made on the side, and the threads that
long jobs hold.
-/

namespace Reactor

inductive Phase where
  | building (assembly : Assembly)
  | joining (joining : Joining)
  | running (engine : Engine)
  | over

structure Session where
  host : Host
  files : FileTree
  registry : Registry
  phase : Phase
  counters : Counters
  pools : List (String × Pool)
  held : List (String × List Seat)

namespace Session

def create (host : Host) (files : FileTree) : Session :=
  ⟨host, files, .empty, .building (.create host), .zero, [], []⟩

def withEngine (session : Session) (engine : Engine) : Session :=
  { session with phase := .running engine }

def watched (session : Session) : Nat :=
  match session.phase with
  | .running engine => engine.watched
  | _ => 0

def registerProvider (session : Session) (provider : Provider) : Told Session := do
  return { session with registry := ← session.registry.registerProvider provider }

def registerTransport (session : Session) (transport : Transport) : Told Session := do
  return { session with registry := ← session.registry.registerTransport transport }

def resolve (session : Session) (assembly : Assembly) :
    Told (Except BootError Bindings × Session) := do
  let (answer, assembly, registry) ← assembly.resolve session.host session.registry
  return (answer, { session with registry, phase := .building assembly })

/-- Builds a runtime that stands alone. The assembly is used up also when that fails. -/
def build (session : Session) (assembly : Assembly) (took : Span) :
    Told (Except (Halt BootError) Engine × Session) := do
  let (answer, registry) ← assembly.build session.host session.files session.registry took
  match answer with
  | .ok engine => return (.ok engine, { session with registry, phase := .running engine })
  | .error halt => return (.error halt, { session with registry, phase := .over })

def buildClustered (session : Session) (assembly : Assembly) (took : Span) :
    Told (Except (Halt BootError) Unit × Session) := do
  let (answer, registry) ←
    assembly.buildClustered session.host session.files session.registry took
  match answer with
  | .ok joining => return (.ok (), { session with registry, phase := .joining joining })
  | .error halt => return (.error halt, { session with registry, phase := .over })

def join (session : Session) (joining : Joining) :
    Told (Option (Except BootError Engine) × Session) := do
  match ← joining.run with
  | .error waiting => return (none, { session with phase := .joining waiting })
  | .ok (.ok engine) => return (some (.ok engine), session.withEngine engine)
  | .ok (.error error) => return (some (.error error), { session with phase := .over })

def abandon (session : Session) (joining : Joining) : Told Session := do
  let _ ← joining.abandon
  return { session with phase := .over }

def drop (session : Session) (engine : Engine) : Told Session := do
  let _ ← engine.drop
  return { session with phase := .over }

def hold (session : Session) (name : String) (seats : List Seat) : Session :=
  { session with held := session.held ++ [(name, seats)] }

def release (session : Session) (engine : Engine) (name : String) : Told (Bool × Session) :=
  match session.held.lookup name with
  | none => return (false, session)
  | some seats => do
    let session := session.withEngine (← engine.release seats)
    return (true, { session with held := session.held.filter (·.1 != name) })

def releaseAll (session : Session) (engine : Engine) : Told (Engine × Session) := do
  let engine ← engine.release (session.held.flatMap (·.2))
  return (engine, { session.withEngine engine with held := [] })

private def putPool (session : Session) (engine : Engine) (watch : Watch) (name : String)
    (pool : Pool) : Session :=
  { session with
    phase := .running { engine with workshop := { engine.workshop with watch } }
    pools := (name, pool) :: session.pools.filter (·.1 != name) }

/-- Makes a pool; one of the same name is shut down once the new one is there. -/
def addPool (session : Session) (engine : Engine) (name : String) (size : Nat) :
    Told (Except (Halt PoolFault) Pool × Session) := do
  let (answer, engine) ← engine.newExecutor name size
  match answer with
  | .error halt => return (.error halt, session.withEngine engine)
  | .ok pool =>
    let watch ← Pool.discard engine.workshop.watch (session.pools.lookup name)
    return (.ok pool, session.putPool engine watch name pool)

def runOnPool (session : Session) (engine : Engine) (name : String) (now : Nat) :
    Told (Option (Except SubmitFault (List Look)) × Session) :=
  match session.pools.lookup name with
  | none => return (none, session)
  | some pool => do
    let (answer, pool, watch) ← pool.runAll engine.workshop.watch now
    return (some answer, session.putPool engine watch name pool)

def stopPool (session : Session) (engine : Engine) (name : String) : Told (Bool × Session) :=
  match session.pools.lookup name with
  | none => return (false, session)
  | some pool => do
    let (_, pool, watch) ← pool.shutdown engine.workshop.watch .caller
    return (true, session.putPool engine watch name pool)

end Session

end Reactor
