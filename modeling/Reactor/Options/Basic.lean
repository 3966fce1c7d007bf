import Reactor.Json.Value
import Reactor.Span

/-!
The settings of a runtime. `Options.validate` refuses the settings that no runtime can start
with; everything else about them is free.
-/

namespace Reactor

structure MetricsOptions where
  enabled : Bool
deriving DecidableEq, Inhabited

structure TracingOptions where
  serviceName : Option String
deriving DecidableEq, Inhabited

structure FileSystemOptions where
  cachingEnabled : Bool
  cacheDirectory : String
  baseDirectory : Option String
deriving DecidableEq, Inhabited

def FileSystemOptions.standard : FileSystemOptions := ⟨true, ".strand", none⟩

/-- Pool sizes are 64-bit words, as a configuration file can write them. -/
structure Options where
  eventLoopPoolSize : UInt64
  workerPoolSize : UInt64
  maxEventLoopExecuteTime : Span
  maxWorkerExecuteTime : Option Span
  blockedThreadCheckInterval : Span
  -- A thread blocked for longer than this is reported as an error.
  warningExceptionTime : Span
  preferNativeTransport : Bool
  metrics : Option MetricsOptions
  tracing : Option TracingOptions
  fileSystem : FileSystemOptions
deriving DecidableEq, Inhabited

inductive BadOption where
  | noEventLoops
  | noWorkers
  | noEventLoopBudget
  | noCheckInterval
deriving DecidableEq

def BadOption.message : BadOption → String
  | .noEventLoops => "eventLoopPoolSize must be at least 1"
  | .noWorkers => "workerPoolSize must be at least 1"
  | .noEventLoopBudget => "maxEventLoopExecuteTime must be greater than zero"
  | .noCheckInterval => "blockedThreadCheckInterval must be greater than zero"

namespace Options

/-- The settings of a host with so many cores: two event loops for each of them. -/
def standard (cores : Nat) : Options where
  eventLoopPoolSize := UInt64.ofNat (2 * cores)
  workerPoolSize := 20
  maxEventLoopExecuteTime := .ofSeconds 2
  maxWorkerExecuteTime := some (.ofSeconds 60)
  blockedThreadCheckInterval := .ofSeconds 1
  warningExceptionTime := .ofSeconds 5
  preferNativeTransport := false
  metrics := none
  tracing := none
  fileSystem := .standard

def metricsEnabled (options : Options) : Bool := options.metrics.any (·.enabled)

def tracingConfigured (options : Options) : Bool := options.tracing.isSome

def withMetricsEnabled (options : Options) (enabled : Bool) : Options :=
  { options with metrics := some ⟨enabled⟩ }

def validate (options : Options) : Except BadOption Unit :=
  if options.eventLoopPoolSize = 0 then .error .noEventLoops
  else if options.workerPoolSize = 0 then .error .noWorkers
  else if options.maxEventLoopExecuteTime.isZero then .error .noEventLoopBudget
  else if options.blockedThreadCheckInterval.isZero then .error .noCheckInterval
  else .ok ()

theorem validate_eq_ok_iff {options : Options} :
    options.validate = .ok () ↔
      options.eventLoopPoolSize ≠ 0 ∧ options.workerPoolSize ≠ 0 ∧
        options.maxEventLoopExecuteTime.isZero = false ∧
        options.blockedThreadCheckInterval.isZero = false := by
  unfold validate
  by_cases loops : options.eventLoopPoolSize = 0
  · simp [loops]
  · by_cases workers : options.workerPoolSize = 0
    · simp [loops, workers]
    · cases budget : options.maxEventLoopExecuteTime.isZero <;>
        cases interval : options.blockedThreadCheckInterval.isZero <;>
        simp [loops, workers]

end Options

end Reactor
