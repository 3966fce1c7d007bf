import Reactor.Assembly

/-!
The slots of an assembly seen through one reader. `Slots.held` tells for every kind what its slot
holds and where it came from; each operation on slots is one equation about it. `Bindings.part`
is the same view of the parts that a resolution answers.
-/

namespace Reactor

namespace Slots

/-- What the slot of a kind holds, with its origin; none for an empty slot. -/
def held (slots : Slots) : ProviderKind → Option (Binding × Origin)
  | .metrics => slots.metrics.value.map fun sink => (.metrics sink, slots.metrics.origin)
  | .tracing => slots.tracer.value.map fun tracer => (.tracer tracer, slots.tracer.origin)
  | .clusterManager =>
      slots.clusterManager.value.map fun manager =>
        (.clusterManager manager, slots.clusterManager.origin)
  | .nodeSelector =>
      slots.nodeSelector.value.map fun selector =>
        (.nodeSelector selector, slots.nodeSelector.origin)
  | .fileResolver =>
      slots.fileResolver.value.map fun resolver =>
        (.fileResolver resolver, slots.fileResolver.origin)
  | .threadFactory =>
      slots.threadFactory.value.map fun factory =>
        (.threadFactory factory, slots.threadFactory.origin)
  | .executorFactory =>
      slots.executorFactory.value.map fun factory =>
        (.executorFactory factory, slots.executorFactory.origin)

@[simp] theorem held_empty (kind : ProviderKind) : empty.held kind = none := by
  cases kind <;> rfl

theorem origin?_eq_held (slots : Slots) (kind : ProviderKind) :
    slots.origin? kind = (slots.held kind).map (·.2) := by
  cases kind <;> simp only [origin?, Slot.origin?, held, Option.map_map] <;> rfl

theorem held_bind (slots : Slots) (binding : Binding) (origin : Origin) (kind : ProviderKind) :
    (slots.bind binding origin).held kind
      = if binding.kind = kind then some (binding, origin) else slots.held kind := by
  cases binding <;> cases kind <;> rfl

def bindAll (slots : Slots) (origin : Origin) (bindings : List Binding) : Slots :=
  bindings.foldl (fun slots binding => slots.bind binding origin) slots

/-- The last binding of a kind is the one that counts. -/
def lastOf (kind : ProviderKind) (bindings : List Binding) : Option Binding :=
  bindings.reverse.find? fun binding => binding.kind = kind

@[simp] theorem bindAll_nil (slots : Slots) (origin : Origin) : slots.bindAll origin [] = slots :=
  rfl

@[simp] theorem bindAll_cons (slots : Slots) (origin : Origin) (binding : Binding)
    (bindings : List Binding) :
    slots.bindAll origin (binding :: bindings)
      = (slots.bind binding origin).bindAll origin bindings := rfl

theorem lastOf_cons (kind : ProviderKind) (binding : Binding) (bindings : List Binding) :
    lastOf kind (binding :: bindings)
      = (lastOf kind bindings).or (if binding.kind = kind then some binding else none) := by
  unfold lastOf
  rw [List.reverse_cons, List.find?_append]
  by_cases same : binding.kind = kind
  · simp [same]
  · simp [same]

theorem lastOf_append (kind : ProviderKind) (first second : List Binding) :
    lastOf kind (first ++ second) = (lastOf kind second).or (lastOf kind first) := by
  unfold lastOf
  rw [List.reverse_append, List.find?_append]

theorem kind_of_lastOf {kind : ProviderKind} {bindings : List Binding} {binding : Binding}
    (found : lastOf kind bindings = some binding) : binding.kind = kind := by
  have checked := List.find?_some found
  simpa using checked

/-- After several bindings a slot holds the last one of its kind, or what it held before. -/
theorem held_bindAll (slots : Slots) (origin : Origin) (bindings : List Binding)
    (kind : ProviderKind) :
    (slots.bindAll origin bindings).held kind
      = ((lastOf kind bindings).map (·, origin)).or (slots.held kind) := by
  induction bindings generalizing slots with
  | nil => rfl
  | cons binding rest ih =>
      rw [bindAll_cons, ih, held_bind, lastOf_cons]
      cases lastOf kind rest with
      | some later => rfl
      | none =>
          by_cases same : binding.kind = kind
          · rw [if_pos same, if_pos same]
            rfl
          · rw [if_neg same, if_neg same]
            rfl

end Slots

def standardPart (host : Host) (options : Options) : ProviderKind → Option Binding
  | .threadFactory => some (.threadFactory .standard)
  | .executorFactory => some (.executorFactory .standard)
  | .fileResolver =>
      some (.fileResolver (.standard (StandardResolver.create host options.fileSystem)))
  | .metrics | .tracing | .clusterManager | .nodeSelector => none

namespace Assembly

theorem held_fillDefaults (assembly : Assembly) (host : Host) (kind : ProviderKind) :
    (assembly.fillDefaults host).slots.held kind
      = (assembly.slots.held kind).or
          ((standardPart host assembly.options kind).map (·, .standard)) := by
  have filled {α : Type} (slot : Slot α) (value : α) (wrap : α → Binding) :
      (slot.orDefault value).value.map (fun found => (wrap found, (slot.orDefault value).origin))
        = (slot.value.map fun found => (wrap found, slot.origin)).or
            (some (wrap value, Origin.standard)) := by
    obtain ⟨content, origin⟩ := slot
    cases content <;> rfl
  have kept (found : Option (Binding × Origin)) : found = found.or none := by
    cases found <;> rfl
  cases kind with
  | threadFactory => exact filled _ _ _
  | executorFactory => exact filled _ _ _
  | fileResolver => exact filled _ _ _
  | metrics => exact kept _
  | tracing => exact kept _
  | clusterManager => exact kept _
  | nodeSelector => exact kept _

end Assembly

namespace Bindings

def part (bindings : Bindings) : ProviderKind → Option Binding
  | .metrics => bindings.metrics.map .metrics
  | .tracing => bindings.tracer.map .tracer
  | .clusterManager => bindings.clusterManager.map .clusterManager
  | .nodeSelector => bindings.nodeSelector.map .nodeSelector
  | .fileResolver => some (.fileResolver bindings.fileResolver)
  | .threadFactory => some (.threadFactory bindings.threadFactory)
  | .executorFactory => some (.executorFactory bindings.executorFactory)

end Bindings

theorem Assembly.part_bindings (assembly : Assembly) (host : Host) (kind : ProviderKind) :
    (assembly.bindings host).part kind
      = ((assembly.slots.held kind).map (·.1)).or (standardPart host assembly.options kind) := by
  have filled {α : Type} (content : Option α) (value : α) (origin : Origin) (wrap : α → Binding) :
      some (wrap (content.getD value))
        = ((content.map fun found => (wrap found, origin)).map (·.1)).or (some (wrap value)) := by
    cases content <;> rfl
  have kept {α : Type} (content : Option α) (origin : Origin) (wrap : α → Binding) :
      content.map wrap = ((content.map fun found => (wrap found, origin)).map (·.1)).or none := by
    cases content <;> rfl
  cases kind with
  | threadFactory => exact filled _ _ _ _
  | executorFactory => exact filled _ _ _ _
  | fileResolver => exact filled _ _ _ _
  | metrics => exact kept _ _ _
  | tracing => exact kept _ _ _
  | clusterManager => exact kept _ _ _
  | nodeSelector => exact kept _ _ _

end Reactor
