import Reactor.Proofs.Assembly.Slots
import Reactor.Proofs.Selection

/-!
Activation of providers, alone and in sequence. Which providers are activated follows from the
list of explicit parts alone: a factory is summoned while its kind has none, and discovered
providers are admitted by the same list one after the other, since none of them makes a slot
explicit or touches one that is.
-/

namespace Reactor

open Told

namespace Provider

def given? (provider : Provider) (context : ActivationContext) : Option Binding :=
  match (provider.activate context).outcome with
  | .ok given => given
  | .error _ => none

def own? (provider : Provider) (context : ActivationContext) : Option Binding :=
  (provider.given? context).filter fun binding => binding.kind = provider.kind

/-- The parts that activated providers give, in order. -/
def gifts (context : ActivationContext) (activated : List Provider) : List Binding :=
  activated.filterMap fun provider => provider.given? context

def ownGifts (context : ActivationContext) (activated : List Provider) : List Binding :=
  activated.filterMap fun provider => provider.own? context

def added (context : ActivationContext) (activated : List Provider) : List Provider :=
  activated.flatMap fun provider => (provider.activate context).registers

theorem gifts_singleton (context : ActivationContext) (provider : Provider) :
    gifts context [provider] = (provider.given? context).toList := by
  cases given : provider.given? context <;> simp [gifts, given]

theorem ownGifts_singleton (context : ActivationContext) (provider : Provider) :
    ownGifts context [provider] = (provider.own? context).toList := by
  cases own : provider.own? context <;> simp [ownGifts, own]

theorem added_singleton (context : ActivationContext) (provider : Provider) :
    added context [provider] = (provider.activate context).registers := by
  simp only [added, List.flatMap_cons, List.flatMap_nil, List.append_nil]

theorem added_append (context : ActivationContext) (first second : List Provider) :
    added context (first ++ second) = added context first ++ added context second :=
  List.flatMap_append

theorem gifts_append (context : ActivationContext) (first second : List Provider) :
    gifts context (first ++ second) = gifts context first ++ gifts context second :=
  List.filterMap_append

theorem ownGifts_append (context : ActivationContext) (first second : List Provider) :
    ownGifts context (first ++ second) = ownGifts context first ++ ownGifts context second :=
  List.filterMap_append

end Provider

namespace Registry

def extend (registry : Registry) (further : List Provider) : Registry :=
  { registry with providers := registry.providers ++ further }

@[simp] theorem extend_nil (registry : Registry) : registry.extend [] = registry := by
  simp [extend]

@[simp] theorem extend_extend (registry : Registry) (first second : List Provider) :
    (registry.extend first).extend second = registry.extend (first ++ second) := by
  simp [extend]

theorem registerAll_yields (registry : Registry) (further : List Provider) :
    Yields Entry.activation?
      (further.foldlM (fun registry added => registry.registerProvider added) registry)
      (registry.extend further) [] := by
  induction further generalizing registry with
  | nil => exact (yields_pure _).of_eq (extend_nil registry).symm rfl
  | cons provider rest ih =>
      have one : (registry.registerProvider provider).Yields Entry.activation?
          (registry.extend [provider]) [] := (yields_tell _).andThen (yields_pure _)
      rw [List.foldlM_cons]
      refine (one.andThen (ih _)).of_eq ?_ rfl
      rw [extend_extend, List.singleton_append]

end Registry

namespace Assembly

def context (assembly : Assembly) : ActivationContext := ⟨assembly.options, assembly.config⟩

theorem activate_yields (assembly : Assembly) (registry : Registry) (provider : Provider) :
    (assembly.activate registry provider).Yields Entry.activation?
      (provider.given? assembly.context,
        registry.extend (provider.activate assembly.context).registers)
      [(provider, assembly.context)] := by
  unfold activate
  refine (yields_tell _).andLast ?_
  refine (registry.registerAll_yields _).andThen ?_
  unfold Provider.given? context
  cases (provider.activate ⟨assembly.options, assembly.config⟩).outcome with
  | error reason => exact (yields_tell _).andThen (yields_pure _)
  | ok given =>
      cases given with
      | none => exact (yields_tell _).andThen (yields_pure _)
      | some binding => exact yields_pure _

theorem apply_yields (assembly : Assembly) (provider : Provider) (binding : Binding)
    (origin : Origin) :
    (assembly.apply provider binding origin).Yields Entry.activation?
      { assembly with slots := assembly.slots.bind binding origin } [] := by
  unfold apply
  cases assembly.slots.origin? binding.kind with
  | none => exact (yields_tell _).andThen (yields_pure _)
  | some origin => exact (yields_tell _).andThen (yields_pure _)

def filledBy (assembly : Assembly) (origin : Origin) (bindings : List Binding) : Assembly :=
  { assembly with slots := assembly.slots.bindAll origin bindings }

@[simp] theorem filledBy_nil (assembly : Assembly) (origin : Origin) :
    assembly.filledBy origin [] = assembly := rfl

@[simp] theorem filledBy_filledBy (assembly : Assembly) (origin : Origin)
    (first second : List Binding) :
    (assembly.filledBy origin first).filledBy origin second
      = assembly.filledBy origin (first ++ second) := by
  simp only [filledBy, Slots.bindAll, List.foldl_append]

/-- Exactly the kinds of the explicit parts have explicit slots. -/
def Guards (assembly : Assembly) (explicit : List Binding) : Prop :=
  ∀ kind, assembly.slots.origin? kind = some .explicit ↔ Slots.lastOf kind explicit ≠ none

/-- Every slot holds the last explicit part of its kind, and nothing else. -/
def Shows (assembly : Assembly) (explicit : List Binding) : Prop :=
  ∀ kind, assembly.slots.held kind = (Slots.lastOf kind explicit).map (·, .explicit)

theorem Shows.guards {assembly : Assembly} {explicit : List Binding}
    (exposed : assembly.Shows explicit) : assembly.Guards explicit := by
  intro kind
  rw [Slots.origin?_eq_held, exposed kind]
  cases Slots.lastOf kind explicit <;> simp

theorem Shows.filledBy {assembly : Assembly} {explicit : List Binding}
    (exposed : assembly.Shows explicit) (bindings : List Binding) :
    (assembly.filledBy .explicit bindings).Shows (explicit ++ bindings) := by
  intro kind
  change (assembly.slots.bindAll _ _).held kind = _
  rw [Slots.held_bindAll, Slots.lastOf_append, exposed kind]
  cases Slots.lastOf kind bindings <;> rfl

theorem Guards.filledBy {assembly : Assembly} {explicit : List Binding}
    (guards : assembly.Guards explicit) (bindings : List Binding)
    (free : ∀ binding ∈ bindings, Slots.lastOf binding.kind explicit = none) :
    (assembly.filledBy .discovered bindings).Guards explicit := by
  intro kind
  rw [Slots.origin?_eq_held]
  change ((assembly.slots.bindAll _ _).held kind).map _ = _ ↔ _
  rw [Slots.held_bindAll]
  cases found : Slots.lastOf kind bindings with
  | none =>
      rw [← guards kind, Slots.origin?_eq_held]
      rfl
  | some binding =>
      have sameKind := Slots.kind_of_lastOf found
      have unguarded := free binding (List.mem_reverse.mp (List.mem_of_find?_eq_some found))
      rw [sameKind] at unguarded
      simp [unguarded]

end Assembly

/-! ### Explicit factories -/

/-- The factory for a kind, if it is activated: there is one, no explicit part of the kind is
there yet, it declares the kind, and the gate is open. -/
def Provider.summoned (options : Options) (explicit : List Binding) (expected : ProviderKind)
    (factory : Option Provider) : List Provider :=
  factory.toList.filter fun factory =>
    (Slots.lastOf expected explicit).isNone && decide (factory.kind = expected)
      && expected.isOpen options

namespace Assembly

/-- A factory that passes its tests is activated, and what it gives becomes explicit. -/
private theorem useSummoned_yields (assembly : Assembly) (registry : Registry)
    (factory : Provider) :
    Yields Entry.activation?
      (do match ← assembly.activate registry factory with
          | (none, registry) => return (assembly, registry)
          | (some binding, registry) =>
              return (← assembly.apply factory binding .explicit, registry))
      (assembly.filledBy .explicit (Provider.gifts assembly.context [factory]),
        registry.extend (Provider.added assembly.context [factory]))
      [(factory, assembly.context)] := by
  refine (assembly.activate_yields registry factory).andLast ?_
  rw [Provider.added_singleton, Provider.gifts_singleton]
  cases factory.given? assembly.context with
  | none => exact yields_pure _
  | some binding =>
      exact (assembly.apply_yields factory binding .explicit).andThen (yields_pure _)

theorem useFactory_yields (assembly : Assembly) {explicit : List Binding}
    (exposed : assembly.Shows explicit) (registry : Registry) (factory : Option Provider)
    (expected : ProviderKind) :
    let called := Provider.summoned assembly.options explicit expected factory
    (assembly.useFactory registry factory expected).Yields Entry.activation?
      (assembly.filledBy .explicit (Provider.gifts assembly.context called),
        registry.extend (Provider.added assembly.context called))
      (called.map (·, assembly.context)) := by
  have ignored : (pure (assembly, registry) : Told _).Yields Entry.activation?
      (assembly.filledBy .explicit [], registry.extend []) [] :=
    (yields_pure _).of_eq (by rw [filledBy_nil, Registry.extend_nil]) rfl
  unfold useFactory Provider.summoned
  rw [Slots.origin?_eq_held, exposed expected]
  cases Slots.lastOf expected explicit with
  | some content =>
      cases factory with
      | none => exact ignored
      | some factory => exact ignored
  | none =>
      cases factory with
      | none => exact ignored
      | some factory =>
          change (assembly.activateFactory registry factory expected).Yields _ _ _
          unfold activateFactory
          rw [Option.toList_some]
          by_cases wrong : factory.kind ≠ expected
          · rw [if_pos wrong, List.filter_cons_of_neg (by simp [wrong])]
            exact (yields_tell _).andThen ignored
          · rw [if_neg wrong]
            by_cases shut : expected.isOpen assembly.options = false
            · rw [if_pos shut, List.filter_cons_of_neg (by simp [shut])]
              exact (yields_tell _).andThen ignored
            · have right : factory.kind = expected := Decidable.not_not.mp wrong
              have gate : expected.isOpen assembly.options = true := by simpa using shut
              rw [if_neg shut, List.filter_cons_of_pos (by simp [right, gate])]
              exact assembly.useSummoned_yields registry factory

end Assembly

/-! ### Discovered providers -/

/-- The discovered providers that are activated: no explicit part of their kind is there, and
their gate is open. -/
def Provider.admitted (options : Options) (explicit : List Binding) (providers : List Provider) :
    List Provider :=
  providers.filter fun provider =>
    (Slots.lastOf provider.kind explicit).isNone && provider.kind.isOpen options

theorem Provider.admitted_cons (options : Options) (explicit : List Binding) (provider : Provider)
    (rest : List Provider) :
    admitted options explicit (provider :: rest)
      = admitted options explicit [provider] ++ admitted options explicit rest :=
  List.filter_append [provider] rest

namespace Assembly

theorem useProvider_yields (assembly : Assembly) {explicit : List Binding}
    (guards : assembly.Guards explicit) (registry : Registry) (provider : Provider) :
    let called := Provider.admitted assembly.options explicit [provider]
    (assembly.useProvider registry provider).Yields Entry.activation?
      (assembly.filledBy .discovered (Provider.ownGifts assembly.context called),
        registry.extend (Provider.added assembly.context called))
      (called.map (·, assembly.context)) := by
  have ignored : (pure (assembly, registry) : Told _).Yields Entry.activation?
      (assembly.filledBy .discovered [], registry.extend []) [] :=
    (yields_pure _).of_eq (by rw [filledBy_nil, Registry.extend_nil]) rfl
  unfold useProvider Provider.admitted
  by_cases guarded : assembly.slots.origin? provider.kind = some .explicit
  · have standing := (guards provider.kind).mp guarded
    rw [if_pos guarded, List.filter_cons_of_neg (by simp [standing])]
    exact (yields_tell _).andThen ignored
  · have free : (Slots.lastOf provider.kind explicit).isNone = true := by
      have missing := mt (guards provider.kind).mpr guarded
      simpa using missing
    rw [if_neg guarded]
    by_cases shut : provider.kind.isOpen assembly.options = false
    · rw [if_pos shut, List.filter_cons_of_neg (by simp [shut])]
      exact (yields_tell _).andThen ignored
    · have gate : provider.kind.isOpen assembly.options = true := by simpa using shut
      rw [if_neg shut, List.filter_cons_of_pos (by rw [free, gate]; rfl)]
      refine (assembly.activate_yields registry provider).andLast ?_
      rw [List.filter_nil, Provider.added_singleton, Provider.ownGifts_singleton]
      cases given : provider.given? assembly.context with
      | none =>
          have own : provider.own? assembly.context = none := by simp [Provider.own?, given]
          rw [own]
          exact yields_pure _
      | some binding =>
          by_cases same : binding.kind = provider.kind
          · have own : provider.own? assembly.context = some binding := by
              simp [Provider.own?, given, same]
            rw [own]
            refine yields_ite_neg (not_not_intro same) ?_
            exact (assembly.apply_yields provider binding .discovered).andThen (yields_pure _)
          · have own : provider.own? assembly.context = none := by
              simp [Provider.own?, given, same]
            rw [own]
            refine yields_ite_pos same ?_
            exact (yields_tell _).andThen (yields_pure _)

theorem free_of_admitted {options : Options} {explicit : List Binding}
    {providers : List Provider} {context : ActivationContext} {binding : Binding}
    (present : binding ∈ Provider.ownGifts context (Provider.admitted options explicit providers)) :
    Slots.lastOf binding.kind explicit = none := by
  obtain ⟨provider, admitted, own⟩ := List.mem_filterMap.mp present
  have guard := (List.mem_filter.mp admitted).2
  rw [Bool.and_eq_true, Option.isNone_iff_eq_none] at guard
  have sameKind : binding.kind = provider.kind := by
    have checked := (Option.filter_eq_some_iff.mp own).2
    simpa using checked
  rw [sameKind]
  exact guard.1

theorem useProviders_yields (assembly : Assembly) {explicit : List Binding}
    (guards : assembly.Guards explicit) (registry : Registry) (providers : List Provider) :
    let called := Provider.admitted assembly.options explicit providers
    (assembly.useProviders registry providers).Yields Entry.activation?
      (assembly.filledBy .discovered (Provider.ownGifts assembly.context called),
        registry.extend (Provider.added assembly.context called))
      (called.map (·, assembly.context)) := by
  -- What is discovered never guards a slot, so the guards are the same at every provider.
  induction providers generalizing assembly registry with
  | nil => exact (yields_pure _).of_eq (by simp [Provider.admitted, Provider.ownGifts,
      Provider.added]) rfl
  | cons provider rest ih =>
      have first := assembly.useProvider_yields guards registry provider
      let called := Provider.admitted assembly.options explicit [provider]
      have stillGuards := guards.filledBy (Provider.ownGifts assembly.context called)
        fun _binding present => free_of_admitted present
      have others := ih _ stillGuards
        (registry.extend (Provider.added assembly.context called))
      unfold useProviders
      rw [Provider.admitted_cons]
      refine (first.bind others).of_eq ?_ List.map_append.symm
      rw [filledBy_filledBy, Registry.extend_extend, Provider.added_append,
        Provider.ownGifts_append]
      rfl

end Assembly

end Reactor
