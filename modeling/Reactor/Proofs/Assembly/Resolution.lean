import Reactor.Proofs.Assembly.Setting

/-!
The first resolution of an assembly, from what the caller set to what every slot holds. Parts
that were set, and parts that explicit factories give, are explicit; a slot without one ends with
the part of the last admitted provider that keeps to its declared kind, else with its default.
-/

namespace Reactor

open Told

namespace Assembly

/-- The explicit factories that a resolution activates: the metrics factory, then the tracer
factory, which sees what the first one gave. -/
def factories (assembly : Assembly) (explicit : List Binding) : List Provider :=
  let forMetrics := Provider.summoned assembly.options explicit .metrics assembly.metricsFactory
  let standing := explicit ++ Provider.gifts assembly.context forMetrics
  forMetrics ++ Provider.summoned assembly.options standing .tracing assembly.tracerFactory

/-- An assembly whose slots are all filled. -/
def completed (assembly : Assembly) (host : Host) (transport : Transport)
    (given discovered : List Binding) : Assembly :=
  let chosen := { assembly with transport := some transport }
  let filled := (chosen.filledBy .explicit given).filledBy .discovered discovered
  { filled.fillDefaults host with resolved := true }

theorem held_completed (assembly : Assembly) (host : Host) (transport : Transport)
    (given discovered : List Binding) (kind : ProviderKind) :
    (assembly.completed host transport given discovered).slots.held kind
      = ((((Slots.lastOf kind discovered).map (·, Origin.discovered)).or
          (((Slots.lastOf kind given).map (·, Origin.explicit)).or
            (assembly.slots.held kind))).or
          ((standardPart host assembly.options kind).map (·, .standard))) := by
  let chosen := { assembly with transport := some transport }
  let filled := (chosen.filledBy .explicit given).filledBy .discovered discovered
  change (filled.fillDefaults host).slots.held kind = _
  rw [held_fillDefaults]
  change (((assembly.slots.bindAll _ _).bindAll _ _).held kind).or _ = _
  rw [Slots.held_bindAll, Slots.held_bindAll]
  rfl

theorem part_completed (assembly : Assembly) (host : Host) (transport : Transport)
    (given discovered : List Binding) (kind : ProviderKind) :
    let done := assembly.completed host transport given discovered
    (done.bindings host).part kind = (done.slots.held kind).map (·.1) := by
  intro done
  rw [part_bindings]
  change (((done.slots.held kind).map (·.1)).or (standardPart host assembly.options kind)) = _
  rw [held_completed]
  cases Slots.lastOf kind discovered <;> cases Slots.lastOf kind given <;>
    cases assembly.slots.held kind <;> cases standardPart host assembly.options kind <;> rfl

theorem fill_yields (assembly : Assembly) {explicit : List Binding}
    (exposed : assembly.Shows explicit) (host : Host) (registry : Registry) :
    let transport := Transport.select host assembly.options.preferNativeTransport
      assembly.transport registry
    let factories := assembly.factories explicit
    let given := Provider.gifts assembly.context factories
    let listed := registry.providers ++ Provider.added assembly.context factories
    let discovered := Provider.admitted assembly.options (explicit ++ given) listed
    (assembly.fill host registry).Yields Entry.activation?
      (assembly.completed host transport.value given
          (Provider.ownGifts assembly.context discovered),
        registry.extend (Provider.added assembly.context (factories ++ discovered)))
      ((factories ++ discovered).map (·, assembly.context)) := by
  intro transport factories given listed discovered
  let chosen := { assembly with transport := some transport.value }
  let forMetrics := Provider.summoned assembly.options explicit .metrics assembly.metricsFactory
  let fromMetrics := Provider.gifts assembly.context forMetrics
  let forTracing := Provider.summoned assembly.options (explicit ++ fromMetrics) .tracing
    assembly.tracerFactory
  let equipped := chosen.filledBy .explicit given
  let grown := registry.extend (Provider.added assembly.context factories)
  have chosenShows : chosen.Shows explicit := exposed
  have first := chosen.useFactory_yields chosenShows registry assembly.metricsFactory .metrics
  have second : ((chosen.filledBy .explicit fromMetrics).useFactory
      (registry.extend (Provider.added assembly.context forMetrics)) assembly.tracerFactory
        .tracing).Yields Entry.activation? (equipped, grown)
        (forTracing.map (·, assembly.context)) := by
    refine ((chosen.filledBy .explicit fromMetrics).useFactory_yields
      (chosenShows.filledBy fromMetrics) _ assembly.tracerFactory .tracing).of_eq ?_ rfl
    rw [filledBy_filledBy, Registry.extend_extend]
    change (chosen.filledBy .explicit (Provider.gifts assembly.context forMetrics
        ++ Provider.gifts assembly.context forTracing),
      registry.extend (Provider.added assembly.context forMetrics
        ++ Provider.added assembly.context forTracing)) = _
    rw [← Provider.gifts_append, ← Provider.added_append]
    rfl
  have third := equipped.useProviders_yields (chosenShows.filledBy given).guards grown listed
  have listing : grown.discoverProviders.Yields Entry.activation? listed [] :=
    (yields_tell _).andThen (yields_pure _)
  have inOrder : (factories ++ discovered).map (·, assembly.context)
      = forMetrics.map (·, assembly.context)
        ++ (forTracing.map (·, assembly.context) ++ discovered.map (·, assembly.context)) := by
    change ((forMetrics ++ forTracing) ++ discovered).map _ = _
    rw [List.append_assoc, List.map_append, List.map_append]
  rw [inOrder]
  unfold fill
  refine (Transport.select_activates_nothing host assembly.options.preferNativeTransport
    assembly.transport registry).andThen ?_
  refine first.bind ?_
  refine second.bind ?_
  refine listing.andThen ?_
  refine third.andLast ((yields_pure _).of_eq ?_ rfl)
  change (_, (registry.extend (Provider.added assembly.context factories)).extend
    (Provider.added assembly.context discovered)) = _
  rw [Registry.extend_extend, ← Provider.added_append]
  rfl

/-! ### The first resolution -/

theorem lastOf_ownGifts_eq_none {options : Options} {explicit : List Binding}
    {providers : List Provider} {context : ActivationContext} {kind : ProviderKind}
    (guarded : Slots.lastOf kind explicit ≠ none) :
    Slots.lastOf kind
      (Provider.ownGifts context (Provider.admitted options explicit providers)) = none := by
  cases found : Slots.lastOf kind
      (Provider.ownGifts context (Provider.admitted options explicit providers)) with
  | none => rfl
  | some binding =>
      have present := List.mem_reverse.mp (List.mem_of_find?_eq_some found)
      have free := free_of_admitted present
      rw [Slots.kind_of_lastOf found] at free
      exact absurd free guarded

/-- The first resolution of valid options. Activated are, once each and in this order: the
metrics factory and the tracer factory, each if it is summoned, then the providers listed by then
that are admitted. A slot ends with the last explicit part of its kind, else with the last part
that an admitted provider of that kind gave of its own kind, else with its default, and the answer
is what the slots hold. -/
theorem resolve_configured (host : Host) (settings : List Setting) (registry : Registry)
    (valid : (configured host settings).options.validate = .ok ()) :
    let assembly := configured host settings
    let context := assembly.context
    let set := settings.filterMap Setting.part?
    let forMetrics := Provider.summoned assembly.options set .metrics assembly.metricsFactory
    let forTracing := Provider.summoned assembly.options
      (set ++ Provider.gifts context forMetrics) .tracing assembly.tracerFactory
    let explicit := set ++ Provider.gifts context (forMetrics ++ forTracing)
    let listed := registry.providers ++ Provider.added context (forMetrics ++ forTracing)
    let discovered := Provider.admitted assembly.options explicit listed
    let told := assembly.resolve host registry
    ∃ bindings resolved,
      told.value = (.ok bindings, resolved,
        registry.extend (Provider.added context (forMetrics ++ forTracing ++ discovered)))
      ∧ told.entries.filterMap Entry.activation?
        = (forMetrics ++ forTracing ++ discovered).map (·, context)
      ∧ resolved.resolved = true
      ∧ (∀ kind, resolved.slots.held kind
          = ((Slots.lastOf kind explicit).map (·, Origin.explicit)).or
            (((Slots.lastOf kind (Provider.ownGifts context discovered)).map
                (·, Origin.discovered)).or
              ((standardPart host assembly.options kind).map (·, Origin.standard))))
      ∧ ∀ kind, bindings.part kind = (resolved.slots.held kind).map (·.1) := by
  intro assembly context set forMetrics forTracing explicit listed discovered told
  have exposed : assembly.Shows set := shows_configured host settings
  let transport := Transport.select host assembly.options.preferNativeTransport
    assembly.transport registry
  let given := Provider.gifts context (forMetrics ++ forTracing)
  let done := assembly.completed host transport.value given
    (Provider.ownGifts context discovered)
  have filled := assembly.fill_yields exposed host registry
  have resolves : told.Yields Entry.activation?
      (.ok (done.bindings host), done,
        registry.extend (Provider.added context (forMetrics ++ forTracing ++ discovered)))
      ((forMetrics ++ forTracing ++ discovered).map (·, context)) := by
    change (assembly.resolve host registry).Yields _ _ _
    unfold resolve
    rw [resolved_configured host settings, valid]
    exact filled.andLast (yields_pure _)
  refine ⟨done.bindings host, done, resolves.1, resolves.2, rfl, ?_, ?_⟩
  · intro kind
    rw [held_completed, exposed kind]
    have explicitPart : ((Slots.lastOf kind given).map (·, Origin.explicit)).or
        ((Slots.lastOf kind set).map (·, Origin.explicit))
          = (Slots.lastOf kind explicit).map (·, Origin.explicit) := by
      rw [Slots.lastOf_append]
      cases Slots.lastOf kind given <;> rfl
    rw [explicitPart]
    cases standing : Slots.lastOf kind explicit with
    | none =>
        cases Slots.lastOf kind (Provider.ownGifts context discovered) <;> rfl
    | some binding =>
        rw [lastOf_ownGifts_eq_none (by rw [standing]; exact Option.some_ne_none binding)]
        rfl
  · intro kind
    exact assembly.part_completed host transport.value given _ kind

/-- A caller who sets a cluster manager and a metrics factory that gives a selector. -/
def crowdedSettings : List Setting :=
  [.options { Options.standard 1 with metrics := some ⟨true⟩, tracing := some ⟨none⟩ },
    .part (.clusterManager ⟨"mine", [], 0, none, 0, none⟩),
    .metricsFactory (.fixed "meter" .metrics
      [.fixed "late" .fileResolver [] (.ok (some (.fileResolver (.named "srv" true none))))]
      (.ok (some (.nodeSelector .roundRobin)))),
    .tracerFactory (.fixed "misplaced" .metrics [] (.ok none))]

def crowdedRegistry : Registry where
  providers :=
    [.fixed "skipped" .clusterManager [] (.ok none),
      .fixed "first" .tracing [] (.ok (some (.tracer ⟨"a"⟩))),
      .fixed "second" .tracing [] (.ok (some (.tracer ⟨"b"⟩))),
      .fixed "confused" .tracing [] (.ok (some (.metrics .counters))),
      .fixed "broken" .tracing [] (.error "unavailable")]
  transports := []

theorem resolve_configured_crowded :
    (configured default crowdedSettings).options.validate = .ok ()
      ∧ (((configured default crowdedSettings).resolve default crowdedRegistry).entries.filterMap
            Entry.activation?).map (·.1.name)
          = ["meter", "first", "second", "confused", "broken", "late"]
      ∧ ∃ resolved,
        ((configured default crowdedSettings).resolve default crowdedRegistry).value.2.1 = resolved
        ∧ resolved.slots.held .tracing = some (.tracer ⟨"b"⟩, .discovered)
        ∧ resolved.slots.held .nodeSelector = some (.nodeSelector .roundRobin, .explicit)
        ∧ resolved.slots.held .metrics = none
        ∧ resolved.slots.held .threadFactory = some (.threadFactory .standard, .standard) := by
  have valid : (configured default crowdedSettings).options.validate = .ok () := rfl
  obtain ⟨bindings, resolved, value, activated, _, holds, _⟩ :=
    resolve_configured default crowdedSettings crowdedRegistry valid
  refine ⟨valid, ?_, resolved, ?_, ?_, ?_, ?_, ?_⟩
  · rw [activated]
    rfl
  · rw [value]
  · exact holds .tracing
  · exact holds .nodeSelector
  · exact holds .metrics
  · exact holds .threadFactory

end Assembly

end Reactor
