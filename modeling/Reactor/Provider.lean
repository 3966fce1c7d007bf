import Reactor.Cluster
import Reactor.FileResolver
import Reactor.Json.Value
import Reactor.Metrics
import Reactor.Transport

/-!
Providers of the pluggable parts of a runtime. A provider declares the kind of part it gives.
Activated, it may add further providers to the registry; then it fails, declines, or gives one
part, which need not be of the declared kind. Providers of metrics and tracing stay closed while
the options do not ask for them.
-/

namespace Reactor

inductive ProviderKind where
  | metrics
  | tracing
  | clusterManager
  | nodeSelector
  | fileResolver
  | threadFactory
  | executorFactory
deriving DecidableEq, Inhabited

namespace ProviderKind

def text : ProviderKind → String
  | .metrics => "metrics"
  | .tracing => "tracing"
  | .clusterManager => "cluster-manager"
  | .nodeSelector => "node-selector"
  | .fileResolver => "file-resolver"
  | .threadFactory => "thread-factory"
  | .executorFactory => "executor-factory"

def all : List ProviderKind :=
  [.metrics, .tracing, .clusterManager, .nodeSelector, .fileResolver, .threadFactory,
    .executorFactory]

def isOpen (kind : ProviderKind) (options : Options) : Bool :=
  match kind with
  | .metrics => options.metricsEnabled
  | .tracing => options.tracingConfigured
  | _ => true

end ProviderKind

structure Tracer where
  name : String
deriving DecidableEq, Inhabited

/-- The shape of a pool: its threads are named after it and numbered from zero. -/
structure PoolShape where
  name : String
  size : Nat
  role : Role
  budget : Budget
deriving DecidableEq, Inhabited

/-- Makes pools. `answer` gets the number of earlier requests and the shape asked for. -/
structure ExecutorFactory where
  name : Option String
  answer : Nat → PoolShape → Except String PoolShape

def ExecutorFactory.standard : ExecutorFactory where
  name := none
  answer _ shape := .ok shape

inductive Binding where
  | metrics (sink : MetricsSink)
  | tracer (tracer : Tracer)
  | clusterManager (manager : ClusterManager)
  | nodeSelector (selector : NodeSelector)
  | fileResolver (resolver : FileResolver)
  | threadFactory (factory : ThreadFactory)
  | executorFactory (factory : ExecutorFactory)

namespace Binding

def kind : Binding → ProviderKind
  | .metrics _ => .metrics
  | .tracer _ => .tracing
  | .clusterManager _ => .clusterManager
  | .nodeSelector _ => .nodeSelector
  | .fileResolver _ => .fileResolver
  | .threadFactory _ => .threadFactory
  | .executorFactory _ => .executorFactory

def listing (binding : Binding) : String := "Binding(" ++ binding.kind.text ++ ")"

end Binding

structure ActivationContext where
  options : Options
  config : Option Json.Value

/-- The answer of a provider: the providers it adds, then failure, nothing, or a part. -/
structure Activation (P : Type) where
  registers : List P
  outcome : Except String (Option Binding)

inductive Provider where
  | mk (name : String) (kind : ProviderKind) (builtIn : Bool)
    (activate : ActivationContext → Activation Provider)

namespace Provider

def name : Provider → String
  | .mk name _ _ _ => name

def kind : Provider → ProviderKind
  | .mk _ kind _ _ => kind

def builtIn : Provider → Bool
  | .mk _ _ builtIn _ => builtIn

def activate : Provider → ActivationContext → Activation Provider
  | .mk _ _ _ activate => activate

def counters : Provider :=
  .mk "counters" .metrics true fun _ => ⟨[], .ok (some (.metrics .counters))⟩

/-- A provider whose answer does not depend on the context. -/
def fixed (name : String) (kind : ProviderKind) (registers : List Provider)
    (outcome : Except String (Option Binding)) : Provider :=
  .mk name kind false fun _ => ⟨registers, outcome⟩

end Provider

end Reactor
