import Reactor.Proofs.Assembly.Discovery

/-!
What activations add to a registry. While providers are activated, nobody looks at the registry:
it grows by what the activated ones bring and is changed in no other way. A list of providers
that was taken before is therefore gone through in the same way, whatever is registered meanwhile.
-/

namespace Reactor

open Told

/-- The providers that the activations of a journal add to the registry, in order. -/
def brought (entries : List Entry) : List Provider :=
  (entries.filterMap Entry.activation?).flatMap fun activation =>
    (activation.1.activate activation.2).registers

theorem brought_append (first second : List Entry) :
    brought (first ++ second) = brought first ++ brought second := by
  unfold brought
  rw [List.filterMap_append, List.flatMap_append]

theorem brought_of_quiet {entries : List Entry}
    (quiet : entries.filterMap Entry.activation? = []) : brought entries = [] := by
  unfold brought
  rw [quiet, List.flatMap_nil]

/-- The operation does and answers the same on every registry, and adds to it what its
activations bring. -/
def OnlyAdds {α : Type} (operation : Registry → Told (α × Registry)) : Prop :=
  ∃ value entries, ∀ registry,
    (operation registry).value = (value, registry.extend (brought entries))
      ∧ (operation registry).entries = entries

namespace OnlyAdds

variable {α β : Type}

theorem pure (value : α) : OnlyAdds fun registry => Pure.pure (value, registry) :=
  ⟨value, [], fun registry => ⟨by rw [value_pure, brought_of_quiet rfl, Registry.extend_nil], rfl⟩⟩

theorem after_tell {operation : Registry → Told (α × Registry)} {entry : Entry}
    (adds : OnlyAdds operation) (quiet : entry.activation? = none) :
    OnlyAdds fun registry => (do tell entry; operation registry) := by
  obtain ⟨value, entries, same⟩ := adds
  refine ⟨value, entry :: entries, fun registry => ?_⟩
  have silent : brought (entry :: entries) = brought entries := by
    rw [← List.singleton_append, brought_append, brought_of_quiet (by simp [quiet]),
      List.nil_append]
  obtain ⟨sameValue, sameEntries⟩ := same registry
  constructor
  · rw [silent]
    exact sameValue
  · exact congrArg (entry :: ·) sameEntries

theorem bind {first : Registry → Told (α × Registry)} {next : α × Registry → Told (β × Registry)}
    (before : OnlyAdds first) (after : ∀ value, OnlyAdds fun registry => next (value, registry)) :
    OnlyAdds fun registry => first registry >>= next := by
  obtain ⟨middle, early, sameFirst⟩ := before
  obtain ⟨value, late, sameNext⟩ := after middle
  refine ⟨value, early ++ late, fun registry => ?_⟩
  obtain ⟨firstValue, firstEntries⟩ := sameFirst registry
  obtain ⟨nextValue, nextEntries⟩ := sameNext (registry.extend (brought early))
  constructor
  · rw [value_bind, firstValue, brought_append, ← Registry.extend_extend]
    exact nextValue
  · rw [entries_bind, firstEntries, firstValue]
    exact congrArg (early ++ ·) nextEntries

theorem grown {operation : Registry → Told (α × Registry)} (adds : OnlyAdds operation)
    (registry : Registry) :
    (operation registry).value.2 = registry.extend (brought (operation registry).entries) := by
  obtain ⟨value, entries, same⟩ := adds
  rw [(same registry).1, (same registry).2]

/-- Whatever the registry holds, the same is done and answered. -/
theorem blind {operation : Registry → Told (α × Registry)} (adds : OnlyAdds operation)
    (registry other : Registry) :
    (operation registry).value.1 = (operation other).value.1
      ∧ (operation registry).entries = (operation other).entries := by
  obtain ⟨value, entries, same⟩ := adds
  constructor
  · rw [(same registry).1, (same other).1]
  · rw [(same registry).2, (same other).2]

end OnlyAdds

theorem Registry.entries_registerAll (further : List Provider) (registry other : Registry) :
    let register (registry : Registry) (added : Provider) := registry.registerProvider added
    (further.foldlM register registry).entries = (further.foldlM register other).entries := by
  intro register
  induction further generalizing registry other with
  | nil => rfl
  | cons provider rest ih =>
      rw [List.foldlM_cons, List.foldlM_cons, entries_bind, entries_bind]
      exact congrArg _ (ih _ _)

namespace Assembly

theorem activate_adds (assembly : Assembly) (provider : Provider) :
    OnlyAdds fun registry => assembly.activate registry provider := by
  refine ⟨provider.given? assembly.context, (assembly.activate .empty provider).entries,
    fun registry => ?_⟩
  have adds : brought (assembly.activate .empty provider).entries
      = (provider.activate assembly.context).registers := by
    unfold brought
    rw [(assembly.activate_yields .empty provider).2]
    exact List.append_nil _
  constructor
  · rw [adds]
    exact (assembly.activate_yields registry provider).1
  · unfold activate
    rw [entries_bind, entries_bind, entries_bind, entries_bind,
      Registry.entries_registerAll _ registry .empty]
    cases (provider.activate ⟨assembly.options, assembly.config⟩).outcome with
    | error reason => rfl
    | ok given => cases given <;> rfl

theorem apply_adds (assembly : Assembly) (provider : Provider) (binding : Binding)
    (origin : Origin) :
    OnlyAdds fun registry => do
      let applied ← assembly.apply provider binding origin
      return (applied, registry) := by
  unfold apply
  cases assembly.slots.origin? binding.kind with
  | none => exact (OnlyAdds.pure _).after_tell rfl
  | some standing => exact (OnlyAdds.pure _).after_tell rfl

theorem activateFactory_adds (assembly : Assembly) (factory : Provider)
    (expected : ProviderKind) :
    OnlyAdds fun registry => assembly.activateFactory registry factory expected := by
  unfold activateFactory
  by_cases wrong : factory.kind ≠ expected
  · simp only [if_pos wrong]
    exact (OnlyAdds.pure _).after_tell rfl
  · simp only [if_neg wrong]
    by_cases shut : expected.isOpen assembly.options = false
    · simp only [if_pos shut]
      exact (OnlyAdds.pure _).after_tell rfl
    · simp only [if_neg shut]
      refine (assembly.activate_adds factory).bind fun given => ?_
      cases given with
      | none => exact OnlyAdds.pure assembly
      | some binding => exact assembly.apply_adds factory binding .explicit

theorem useFactory_adds (assembly : Assembly) (factory : Option Provider)
    (expected : ProviderKind) :
    OnlyAdds fun registry => assembly.useFactory registry factory expected := by
  unfold useFactory
  cases assembly.slots.origin? expected with
  | some standing => exact OnlyAdds.pure assembly
  | none =>
      cases factory with
      | none => exact OnlyAdds.pure assembly
      | some factory => exact assembly.activateFactory_adds factory expected

theorem useProvider_adds (assembly : Assembly) (provider : Provider) :
    OnlyAdds fun registry => assembly.useProvider registry provider := by
  unfold useProvider
  by_cases guarded : assembly.slots.origin? provider.kind = some .explicit
  · simp only [if_pos guarded]
    exact (OnlyAdds.pure _).after_tell rfl
  · simp only [if_neg guarded]
    by_cases shut : provider.kind.isOpen assembly.options = false
    · simp only [if_pos shut]
      exact (OnlyAdds.pure _).after_tell rfl
    · simp only [if_neg shut]
      refine (assembly.activate_adds provider).bind fun given => ?_
      cases given with
      | none => exact OnlyAdds.pure assembly
      | some binding =>
          by_cases foreign : binding.kind ≠ provider.kind
          · simp only [if_pos foreign]
            exact (OnlyAdds.pure _).after_tell rfl
          · simp only [if_neg foreign]
            exact assembly.apply_adds provider binding .discovered

theorem useProviders_adds (assembly : Assembly) (providers : List Provider) :
    OnlyAdds fun registry => assembly.useProviders registry providers := by
  induction providers generalizing assembly with
  | nil => exact OnlyAdds.pure assembly
  | cons provider rest ih => exact (assembly.useProvider_adds provider).bind ih

/-! ### The walk through a list of providers -/

theorem useProvider_activates (assembly : Assembly) (registry : Registry) (provider : Provider) :
    let told := assembly.useProvider registry provider
    told.entries.filterMap Entry.activation? = []
      ∨ told.entries.filterMap Entry.activation? = [(provider, assembly.context)] := by
  intro told
  have evaluated : told = assembly.useProvider registry provider := rfl
  unfold useProvider at evaluated
  by_cases guarded : assembly.slots.origin? provider.kind = some .explicit
  · rw [if_pos guarded] at evaluated
    rw [evaluated]
    exact Or.inl rfl
  · rw [if_neg guarded] at evaluated
    by_cases shut : provider.kind.isOpen assembly.options = false
    · rw [if_pos shut] at evaluated
      rw [evaluated]
      exact Or.inl rfl
    · rw [if_neg shut] at evaluated
      obtain ⟨given, activated⟩ := assembly.activate_yields registry provider
      right
      rw [evaluated, entries_bind, List.filterMap_append, activated, given]
      cases provider.given? assembly.context with
      | none => rfl
      | some binding =>
          by_cases foreign : binding.kind ≠ provider.kind
          · simp only [if_pos foreign]
            rfl
          · simp only [if_neg foreign]
            rw [entries_bind, List.filterMap_append,
              (assembly.apply_yields provider binding .discovered).2]
            rfl

theorem useProviders_activates (assembly : Assembly) (registry : Registry)
    (providers : List Provider) :
    (((assembly.useProviders registry providers).entries.filterMap Entry.activation?).map
      (·.1)).Sublist providers := by
  induction providers generalizing assembly registry with
  | nil => exact List.nil_sublist _
  | cons provider rest ih =>
      unfold useProviders
      rw [entries_bind, List.filterMap_append, List.map_append]
      have first : (((assembly.useProvider registry provider).entries.filterMap
          Entry.activation?).map (·.1)).Sublist [provider] := by
        rcases assembly.useProvider_activates registry provider with none | one
        · rw [none]
          exact List.nil_sublist _
        · rw [one]
          exact List.Sublist.refl _
      exact first.append (ih _ _)

theorem grown_fill (assembly : Assembly) (host : Host) (registry : Registry) :
    (assembly.fill host registry).value.2
      = registry.extend (brought (assembly.fill host registry).entries) := by
  let transport := Transport.select host assembly.options.preferNativeTransport
    assembly.transport registry
  let chosen := { assembly with transport := some transport.value }
  let metered := chosen.useFactory registry chosen.metricsFactory .metrics
  let traced := metered.value.1.useFactory metered.value.2 metered.value.1.tracerFactory .tracing
  let listed := traced.value.2.discoverProviders
  let walked := traced.value.1.useProviders traced.value.2 listed.value
  have inOrder : (assembly.fill host registry).entries
      = transport.entries ++ (metered.entries ++ (traced.entries
        ++ (listed.entries ++ walked.entries))) :=
    congrArg (fun last => transport.entries ++ (metered.entries ++ (traced.entries
      ++ (listed.entries ++ last)))) (List.append_nil _)
  have selecting : brought transport.entries = [] :=
    brought_of_quiet (Transport.select_activates_nothing host _ _ registry).2
  have listing : brought listed.entries = [] := brought_of_quiet rfl
  calc (assembly.fill host registry).value.2
      = traced.value.2.extend (brought walked.entries) :=
        (traced.value.1.useProviders_adds listed.value).grown traced.value.2
    _ = (metered.value.2.extend (brought traced.entries)).extend (brought walked.entries) := by
        rw [(metered.value.1.useFactory_adds _ .tracing).grown metered.value.2]
    _ = ((registry.extend (brought metered.entries)).extend (brought traced.entries)).extend
          (brought walked.entries) := by
        rw [(chosen.useFactory_adds _ .metrics).grown registry]
    _ = registry.extend (brought (assembly.fill host registry).entries) := by
        rw [inOrder, brought_append, brought_append, brought_append, brought_append, selecting,
          listing, Registry.extend_extend, Registry.extend_extend, List.nil_append,
          List.nil_append]

/-- A resolution adds to the registry what its activations bring, and nothing else. -/
theorem grown_resolve (assembly : Assembly) (host : Host) (registry : Registry) :
    (assembly.resolve host registry).value.2.2
      = registry.extend (brought (assembly.resolve host registry).entries) := by
  have untouched : registry = registry.extend (brought []) := (Registry.extend_nil registry).symm
  unfold resolve
  cases assembly.resolved with
  | true => exact untouched
  | false =>
      cases assembly.options.validate with
      | error option => exact untouched
      | ok valid =>
          have sameEntries : (assembly.fill host registry).entries ++ []
              = (assembly.fill host registry).entries := List.append_nil _
          refine (assembly.grown_fill host registry).trans ?_
          exact congrArg (fun entries => registry.extend (brought entries)) sameEntries.symm

end Assembly

end Reactor
