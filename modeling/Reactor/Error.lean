import Reactor.Options.Basic

/-!
What stops a runtime from being built or used. A `Failure` is a text with the causes below it; a
`BootError` ends a build; a `SubmitFault` refuses a job. A `Panic` is the end of an operation
that has no answer at all.
-/

namespace Reactor

/-- A failure as text, with the causes below it from the outermost on. -/
structure Failure where
  message : String
  causes : List String
deriving DecidableEq, Inhabited

def Failure.chain (failure : Failure) : List String := failure.message :: failure.causes

inductive ConfigurationFault where
  | badOption (option : BadOption)
  | eventLoopBudget (thread : String)
  | noClusterManager
  | other (text : String)
deriving DecidableEq

def ConfigurationFault.message : ConfigurationFault → String
  | .badOption option => option.message
  | .eventLoopBudget thread =>
    "event-loop thread '" ++ thread ++ "' needs a finite, non-zero execution budget"
  | .noClusterManager => "clustered runtime requested but no cluster manager is bound"
  | .other text => text

inductive BootError where
  | configuration (fault : ConfigurationFault)
  | clusterJoin (failure : Failure)
  | threadSpawn (thread reason : String)
  | workerPool (failure : Failure)
deriving DecidableEq

namespace BootError

def message : BootError → String
  | .configuration fault => "invalid runtime configuration: " ++ fault.message
  | .clusterJoin _ => "failed to join cluster"
  | .threadSpawn thread _ => "failed to start runtime thread '" ++ thread ++ "'"
  | .workerPool _ => "failed to create worker pool"

def causes : BootError → List String
  | .configuration _ => []
  | .clusterJoin failure | .workerPool failure => failure.chain
  | .threadSpawn _ reason => [reason]

end BootError

inductive PoolFault where
  | noThreads (pool : String)
  | badDescriptor (thread : String)
  | noThread (thread reason : String)
  | refused (reason : String)
deriving DecidableEq

def PoolFault.failure : PoolFault → Failure
  | .noThreads pool => ⟨"pool '" ++ pool ++ "' needs at least one thread", []⟩
  | .badDescriptor thread =>
    ⟨(BootError.configuration (.eventLoopBudget thread)).message, []⟩
  | .noThread thread reason => ⟨"Failed to start pool thread '" ++ thread ++ "'", [reason]⟩
  | .refused reason => ⟨reason, []⟩

inductive SubmitFault where
  | runtimeClosed
  | loopStopped (loop : String)
  | loopExited (loop : String)
  | poolShutDown (pool : String)
  | poolDeserted (pool : String)
deriving DecidableEq

def SubmitFault.message : SubmitFault → String
  | .runtimeClosed => "Runtime is closed"
  | .loopStopped loop => "Event loop '" ++ loop ++ "' is stopped"
  | .loopExited loop => "Event loop '" ++ loop ++ "' thread has exited"
  | .poolShutDown pool => "Executor '" ++ pool ++ "' has been shut down"
  | .poolDeserted pool => "Executor '" ++ pool ++ "' has no running threads"

inductive Panic where
  -- A position among no event loops at all.
  | noRemainder
  | noCapacity
  | nulInThreadName (name : String)
  | handler (text : String)
deriving DecidableEq

def Panic.message : Panic → String
  | .noRemainder => "attempt to calculate the remainder with a divisor of zero"
  | .noCapacity => "capacity overflow"
  | .nulInThreadName name =>
    let bytes := name.toUTF8.toList
    "thread name may not contain interior null bytes: NulError("
      ++ toString (bytes.idxOf 0) ++ ", ["
      ++ ", ".intercalate (bytes.map fun byte => toString byte.toNat) ++ "])"
  | .handler text => text

inductive Halt (ε : Type) where
  | failed (error : ε)
  | panicked (panic : Panic)
deriving DecidableEq

def Halt.mapError {ε δ : Type} (change : ε → δ) : Halt ε → Halt δ
  | .failed error => .failed (change error)
  | .panicked panic => .panicked panic

/-- The most bytes one list may take. -/
def allocationLimit : Nat := Nat.pow 2 63 - 1

end Reactor
