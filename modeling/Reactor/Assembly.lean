import Reactor.Selection
import Reactor.Thread.Watchdog

/-!
The assembly of a runtime from its parts. Every slot is set explicitly, or filled by a provider,
or left to a default. Slots that were set explicitly are never replaced and the providers of
their kind stay inactive; among discovered providers of one kind the last one counts. The slots
are resolved once; every later resolution gives what the slots hold then.
-/

namespace Reactor

inductive Origin where
  | explicit
  | discovered
  | standard
deriving DecidableEq, Inhabited

def Origin.text : Origin → String
  | .explicit => "Explicit"
  | .discovered => "Discovered"
  | .standard => "Default"

structure Slot (α : Type) where
  value : Option α
  origin : Origin

namespace Slot

variable {α : Type}

def empty : Slot α := ⟨none, .standard⟩

def bind (_slot : Slot α) (value : α) (origin : Origin) : Slot α := ⟨some value, origin⟩

def orDefault (slot : Slot α) (value : α) : Slot α :=
  match slot.value with
  | some _ => slot
  | none => ⟨some value, .standard⟩

def origin? (slot : Slot α) : Option Origin := slot.value.map fun _ => slot.origin

end Slot

/-- The slots that providers can fill. -/
structure Slots where
  metrics : Slot MetricsSink
  tracer : Slot Tracer
  clusterManager : Slot ClusterManager
  nodeSelector : Slot NodeSelector
  fileResolver : Slot FileResolver
  threadFactory : Slot ThreadFactory
  executorFactory : Slot ExecutorFactory

namespace Slots

def empty : Slots := ⟨.empty, .empty, .empty, .empty, .empty, .empty, .empty⟩

/-- Where the value in the slot of that kind came from; none for an empty slot. -/
def origin? (slots : Slots) : ProviderKind → Option Origin
  | .metrics => slots.metrics.origin?
  | .tracing => slots.tracer.origin?
  | .clusterManager => slots.clusterManager.origin?
  | .nodeSelector => slots.nodeSelector.origin?
  | .fileResolver => slots.fileResolver.origin?
  | .threadFactory => slots.threadFactory.origin?
  | .executorFactory => slots.executorFactory.origin?

def bind (slots : Slots) (binding : Binding) (origin : Origin) : Slots :=
  match binding with
  | .metrics sink => { slots with metrics := slots.metrics.bind sink origin }
  | .tracer tracer => { slots with tracer := slots.tracer.bind tracer origin }
  | .clusterManager manager =>
    { slots with clusterManager := slots.clusterManager.bind manager origin }
  | .nodeSelector selector => { slots with nodeSelector := slots.nodeSelector.bind selector origin }
  | .fileResolver resolver => { slots with fileResolver := slots.fileResolver.bind resolver origin }
  | .threadFactory factory => { slots with threadFactory := slots.threadFactory.bind factory origin }
  | .executorFactory factory =>
    { slots with executorFactory := slots.executorFactory.bind factory origin }

end Slots

structure Bindings where
  transport : Transport
  metrics : Option MetricsSink
  tracer : Option Tracer
  clusterManager : Option ClusterManager
  nodeSelector : Option NodeSelector
  fileResolver : FileResolver
  threadFactory : ThreadFactory
  executorFactory : ExecutorFactory

namespace Bindings

private def nameListing : Option String → String
  | none => "None"
  | some name => "Some(" ++ Text.quoted name ++ ")"

def listing (bindings : Bindings) : String :=
  "Bindings \x7b transport: " ++ Text.quoted bindings.transport.name
    ++ ", metrics: " ++ nameListing (bindings.metrics.map (·.name))
    ++ ", tracer: " ++ nameListing (bindings.tracer.map (·.name))
    ++ ", cluster_manager: " ++ nameListing (bindings.clusterManager.map (·.name))
    ++ ", node_selector: " ++ nameListing (bindings.nodeSelector.map (·.name))
    ++ ", .. \x7d"

end Bindings

structure Assembly where
  options : Options
  config : Option Json.Value
  transport : Option Transport
  metricsFactory : Option Provider
  tracerFactory : Option Provider
  slots : Slots
  blockedHandler : Option BlockedHandler
  resolved : Bool

namespace Assembly

def create (host : Host) : Assembly :=
  ⟨.standard host.cores, none, none, none, none, .empty, none, false⟩

def set (assembly : Assembly) (binding : Binding) : Assembly :=
  { assembly with slots := assembly.slots.bind binding .explicit }

private def note (level : Level) (message : String) (fields : List (String × LogValue)) :
    Told Unit :=
  Told.log .caller level .bootstrap message fields

def activate (assembly : Assembly) (registry : Registry) (provider : Provider) :
    Told (Option Binding × Registry) := do
  let context : ActivationContext := ⟨assembly.options, assembly.config⟩
  Told.call (.activate provider context)
  let answer := provider.activate context
  let registry ← answer.registers.foldlM (fun registry added => registry.registerProvider added)
    registry
  match answer.outcome with
  | .ok (some binding) => return (some binding, registry)
  | .ok none =>
    note .debug "Provider declined to activate" [("provider", .text provider.name)]
    return (none, registry)
  | .error reason =>
    note .warn "Provider unavailable, skipping"
      [("provider", .text provider.name), ("error", .shown reason)]
    return (none, registry)

def apply (assembly : Assembly) (provider : Provider) (binding : Binding) (origin : Origin) :
    Told Assembly := do
  let fields := [("provider", .shown provider.name), ("kind", .shown binding.kind.text)]
  match assembly.slots.origin? binding.kind with
  | some _ => note .warn "Provider replaced an earlier binding" fields
  | none => note .debug "Provider bound" fields
  return { assembly with slots := assembly.slots.bind binding origin }

/-- Activates an explicit factory of the expected kind behind its gate; its binding counts as explicit. -/
def activateFactory (assembly : Assembly) (registry : Registry) (factory : Provider)
    (expected : ProviderKind) : Told (Assembly × Registry) :=
  if factory.kind ≠ expected then do
    note .warn "Explicit factory has the wrong kind, ignoring it"
      [("provider", .text factory.name), ("kind", .shown factory.kind.text),
        ("expected", .shown expected.text)]
    return (assembly, registry)
  else if expected.isOpen assembly.options = false then do
    note .debug "Activation gate closed"
      [("provider", .text factory.name), ("kind", .shown expected.text)]
    return (assembly, registry)
  else do
    match ← assembly.activate registry factory with
    | (none, registry) => return (assembly, registry)
    | (some binding, registry) => return (← assembly.apply factory binding .explicit, registry)

def useFactory (assembly : Assembly) (registry : Registry) (factory : Option Provider)
    (expected : ProviderKind) : Told (Assembly × Registry) :=
  match assembly.slots.origin? expected, factory with
  | none, some factory => assembly.activateFactory registry factory expected
  | _, _ => return (assembly, registry)

def useProvider (assembly : Assembly) (registry : Registry) (provider : Provider) :
    Told (Assembly × Registry) := do
  let kind := provider.kind
  let fields := [("provider", .text provider.name), ("kind", .shown kind.text)]
  if assembly.slots.origin? kind = some .explicit then
    note .debug "Slot set explicitly, skipping provider" fields
    return (assembly, registry)
  else if kind.isOpen assembly.options = false then
    note .debug "Activation gate closed" fields
    return (assembly, registry)
  else
    match ← assembly.activate registry provider with
    | (none, registry) => return (assembly, registry)
    | (some binding, registry) =>
      if binding.kind ≠ kind then
        note .warn "Provider returned a binding of another kind, discarding it"
          [("provider", .text provider.name), ("declared", .shown kind.text),
            ("bound", .shown binding.kind.text)]
        return (assembly, registry)
      else
        return (← assembly.apply provider binding .discovered, registry)

def useProviders (assembly : Assembly) (registry : Registry) :
    List Provider → Told (Assembly × Registry)
  | [] => return (assembly, registry)
  | provider :: providers => do
    let (assembly, registry) ← assembly.useProvider registry provider
    assembly.useProviders registry providers

def fillDefaults (assembly : Assembly) (host : Host) : Assembly :=
  let resolver := StandardResolver.create host assembly.options.fileSystem
  { assembly with
    slots :=
      { assembly.slots with
        threadFactory := assembly.slots.threadFactory.orDefault .standard
        executorFactory := assembly.slots.executorFactory.orDefault .standard
        fileResolver := assembly.slots.fileResolver.orDefault (.standard resolver) } }

def bindings (assembly : Assembly) (host : Host) : Bindings where
  transport := assembly.transport.getD .portable
  metrics := assembly.slots.metrics.value
  tracer := assembly.slots.tracer.value
  clusterManager := assembly.slots.clusterManager.value
  nodeSelector := assembly.slots.nodeSelector.value
  threadFactory := assembly.slots.threadFactory.value.getD .standard
  executorFactory := assembly.slots.executorFactory.value.getD .standard
  fileResolver := assembly.slots.fileResolver.value.getD
    (.standard (StandardResolver.create host assembly.options.fileSystem))

def fill (assembly : Assembly) (host : Host) (registry : Registry) :
    Told (Assembly × Registry) := do
  let transport ← Transport.select host assembly.options.preferNativeTransport assembly.transport
    registry
  let assembly := { assembly with transport := some transport }
  let (assembly, registry) ← assembly.useFactory registry assembly.metricsFactory .metrics
  let (assembly, registry) ← assembly.useFactory registry assembly.tracerFactory .tracing
  let providers ← registry.discoverProviders
  let (assembly, registry) ← assembly.useProviders registry providers
  return ({ assembly.fillDefaults host with resolved := true }, registry)

/-- Resolves the slots, unless that has been done. Options that fail validation change nothing. -/
def resolve (assembly : Assembly) (host : Host) (registry : Registry) :
    Told (Except BootError Bindings × Assembly × Registry) :=
  if assembly.resolved then
    return (.ok (assembly.bindings host), assembly, registry)
  else
    match assembly.options.validate with
    | .error option => return (.error (.configuration (.badOption option)), assembly, registry)
    | .ok () => do
      let (assembly, registry) ← assembly.fill host registry
      return (.ok (assembly.bindings host), assembly, registry)

def checkObservability (assembly : Assembly) : Told Unit := do
  if assembly.options.metricsEnabled && assembly.slots.metrics.value.isNone then
    note .warn "Metrics are enabled but no metrics provider is bound" []
  if assembly.options.tracingConfigured && assembly.slots.tracer.value.isNone then
    note .warn "Tracing is configured but no tracer is bound" []

end Assembly

end Reactor
