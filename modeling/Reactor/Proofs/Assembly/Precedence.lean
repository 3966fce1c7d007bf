import Reactor.Proofs.Assembly.Resolution

/-!
Which explicit parts stay, over every history of settings and resolutions. Discovered providers
and defaults leave a slot that was set alone. An explicit factory does not: what it gives goes to
the slot of the part's own kind, whatever kind the factory declares, so a part that the caller set
stays exactly if no factory gives another one of its kind afterwards.
-/

namespace Reactor

open Told

namespace Slots

/-- The parts in the slots, one for each slot that is not empty. -/
def parts (slots : Slots) : List Binding :=
  ProviderKind.all.filterMap fun kind => (slots.held kind).map (·.1)

theorem kind_of_held {slots : Slots} {kind : ProviderKind} {content : Binding × Origin}
    (found : slots.held kind = some content) : content.1.kind = kind := by
  cases kind <;>
    · obtain ⟨value, _, rfl⟩ := Option.map_eq_some_iff.mp found
      rfl

theorem lastOf_filterMap (slots : Slots) (kind : ProviderKind) (kinds : List ProviderKind) :
    lastOf kind (kinds.filterMap fun kind => (slots.held kind).map (·.1))
      = if kind ∈ kinds then (slots.held kind).map (·.1) else none := by
  induction kinds with
  | nil => rfl
  | cons first rest ih =>
      cases found : slots.held first with
      | none =>
          rw [List.filterMap_cons_none (by rw [found]; rfl), ih]
          by_cases same : kind = first
          · subst kind
            simp [found]
          · simp [same]
      | some content =>
          have ownKind := kind_of_held found
          rw [List.filterMap_cons_some (b := content.1) (by rw [found]; rfl), lastOf_cons, ih,
            ownKind]
          by_cases same : kind = first
          · subst kind
            by_cases again : first ∈ rest
            · simp [found, again]
            · simp [found, again]
          · have different : ¬first = kind := fun equal => same equal.symm
            simp [same, different]

theorem lastOf_parts (slots : Slots) (kind : ProviderKind) :
    lastOf kind slots.parts = (slots.held kind).map (·.1) := by
  have listed : kind ∈ ProviderKind.all := by
    cases kind <;> decide
  exact (slots.lastOf_filterMap kind ProviderKind.all).trans (if_pos listed)

end Slots

namespace Assembly

theorem Shows.parts {assembly : Assembly} {explicit : List Binding}
    (exposed : assembly.Shows explicit) : assembly.Shows assembly.slots.parts := by
  intro kind
  rw [Slots.lastOf_parts, exposed kind, Option.map_map]
  cases Slots.lastOf kind explicit <;> rfl

/-- Until it is resolved, an assembly holds explicit parts only. -/
def Unfilled (assembly : Assembly) : Prop :=
  assembly.resolved = false → assembly.Shows assembly.slots.parts

/-- The parts that explicit factories give during a resolution. Once resolved, and under options
that fail validation, none is activated. -/
def factoryParts (assembly : Assembly) : List Binding :=
  match assembly.resolved, assembly.options.validate with
  | false, .ok () => Provider.gifts assembly.context (assembly.factories assembly.slots.parts)
  | _, _ => []

theorem resolve_cases (assembly : Assembly) (unfilled : assembly.Unfilled) (host : Host)
    (registry : Registry) :
    let after := (assembly.resolve host registry).value.2.1
    (after = assembly ∧ assembly.factoryParts = [])
      ∨ ∃ discovered,
        after = assembly.completed host
            (Transport.select host assembly.options.preferNativeTransport assembly.transport
              registry).value
            assembly.factoryParts
            (Provider.ownGifts assembly.context (Provider.admitted assembly.options
              (assembly.slots.parts ++ assembly.factoryParts) discovered))
          ∧ assembly.Shows assembly.slots.parts := by
  intro after
  have evaluated : after = (assembly.resolve host registry).value.2.1 := rfl
  unfold resolve at evaluated
  unfold factoryParts
  cases stage : assembly.resolved with
  | true =>
      rw [stage] at evaluated
      exact Or.inl ⟨evaluated, rfl⟩
  | false =>
      have exposed := unfilled stage
      rw [stage] at evaluated
      cases checked : assembly.options.validate with
      | error option =>
          rw [checked] at evaluated
          exact Or.inl ⟨evaluated, rfl⟩
      | ok valid =>
          rw [checked] at evaluated
          have filled := congrArg Prod.fst (assembly.fill_yields exposed host registry).1
          exact Or.inr ⟨_, evaluated.trans filled, exposed⟩

theorem Unfilled.resolve {assembly : Assembly} (unfilled : assembly.Unfilled) (host : Host)
    (registry : Registry) : (assembly.resolve host registry).value.2.1.Unfilled := by
  rcases assembly.resolve_cases unfilled host registry with ⟨same, _⟩ | ⟨discovered, done, _⟩
  · rw [same]
    exact unfilled
  · rw [done]
    intro unresolved
    cases unresolved

/-- A slot that was set ends with what the last factory gave for it, or as it was. -/
theorem held_resolve {assembly : Assembly} (unfilled : assembly.Unfilled) (host : Host)
    (registry : Registry) {kind : ProviderKind} {binding : Binding}
    (standing : assembly.slots.held kind = some (binding, .explicit)) :
    (assembly.resolve host registry).value.2.1.slots.held kind
      = some ((Slots.lastOf kind assembly.factoryParts).getD binding, .explicit) := by
  rcases assembly.resolve_cases unfilled host registry with ⟨same, none⟩ | ⟨discovered, done, exposed⟩
  · rw [same, none]
    exact standing
  · have guarded : Slots.lastOf kind (assembly.slots.parts ++ assembly.factoryParts) ≠ none := by
      rw [Slots.lastOf_append, Slots.lastOf_parts, standing]
      cases Slots.lastOf kind assembly.factoryParts <;> exact Option.some_ne_none _
    rw [done, held_completed, lastOf_ownGifts_eq_none guarded, standing]
    cases Slots.lastOf kind assembly.factoryParts <;> rfl

theorem transport_resolve {assembly : Assembly} (unfilled : assembly.Unfilled) (host : Host)
    (registry : Registry) {transport : Transport}
    (standing : assembly.transport = some transport) :
    (assembly.resolve host registry).value.2.1.transport = some transport := by
  rcases assembly.resolve_cases unfilled host registry with ⟨same, _⟩ | ⟨discovered, done, _⟩
  · rw [same]
    exact standing
  · rw [done, standing, Transport.value_select_explicit]
    rfl

/-- A resolution answers what the slots hold after it. -/
theorem bindings_of_resolve {assembly : Assembly} {host : Host} {registry : Registry}
    {bindings : Bindings} (answered : (assembly.resolve host registry).value.1 = .ok bindings) :
    bindings = (assembly.resolve host registry).value.2.1.bindings host := by
  unfold resolve at answered ⊢
  cases stage : assembly.resolved with
  | true =>
      rw [stage] at answered
      exact (Except.ok.inj answered).symm
  | false =>
      rw [stage] at answered
      cases checked : assembly.options.validate with
      | error option =>
          rw [checked] at answered
          cases answered
      | ok valid =>
          rw [checked] at answered
          exact (Except.ok.inj answered).symm

/-! ### Histories -/

inductive Request where
  | set (setting : Setting)
  | resolve (registry : Registry)

def take (host : Host) (assembly : Assembly) : Request → Assembly
  | .set setting => assembly.accept setting
  | .resolve registry => (assembly.resolve host registry).value.2.1

def follow (host : Host) (assembly : Assembly) (requests : List Request) : Assembly :=
  requests.foldl (take host) assembly

def factoryPartsDuring (host : Host) (assembly : Assembly) : List Request → List Binding
  | [] => []
  | .set setting :: later => factoryPartsDuring host (assembly.accept setting) later
  | .resolve registry :: later =>
      assembly.factoryParts ++ factoryPartsDuring host (assembly.take host (.resolve registry)) later

theorem follow_append (host : Host) (assembly : Assembly) (first second : List Request) :
    assembly.follow host (first ++ second) = (assembly.follow host first).follow host second :=
  List.foldl_append

theorem Unfilled.take {assembly : Assembly} (unfilled : assembly.Unfilled) (host : Host)
    (request : Request) : (assembly.take host request).Unfilled := by
  cases request with
  | set setting =>
      intro unresolved
      have fresh : assembly.resolved = false :=
        (resolved_accept assembly setting).symm.trans unresolved
      exact ((unfilled fresh).accept setting).parts
  | resolve registry => exact unfilled.resolve host registry

theorem Unfilled.follow {assembly : Assembly} (unfilled : assembly.Unfilled) (host : Host)
    (requests : List Request) : (assembly.follow host requests).Unfilled := by
  induction requests generalizing assembly with
  | nil => exact unfilled
  | cons request later ih => exact ih (unfilled.take host request)

theorem unfilled_create (host : Host) : (create host).Unfilled := fun _ =>
  (shows_create host).parts

theorem held_accept {assembly : Assembly} {kind : ProviderKind} (setting : Setting)
    (elsewhere : ∀ binding, setting = .part binding → binding.kind ≠ kind) :
    (assembly.accept setting).slots.held kind = assembly.slots.held kind := by
  cases setting with
  | part binding =>
      exact (Slots.held_bind _ _ _ _).trans (if_neg (elsewhere binding rfl))
  | options _ | config _ | transport _ | metricsFactory _ | tracerFactory _ | blockedHandler _ =>
      rfl

/-- A slot that the caller set and does not set again ends with what the last factory gave for it
since, or as it was. -/
theorem held_follow {assembly : Assembly} (unfilled : assembly.Unfilled) (host : Host)
    (requests : List Request) {kind : ProviderKind} {binding : Binding}
    (standing : assembly.slots.held kind = some (binding, .explicit))
    (unset : ∀ other, .set (.part other) ∈ requests → other.kind ≠ kind) :
    (assembly.follow host requests).slots.held kind
      = some ((Slots.lastOf kind (assembly.factoryPartsDuring host requests)).getD binding,
          .explicit) := by
  induction requests generalizing assembly binding with
  | nil => exact standing
  | cons request later ih =>
      have unsetLater : ∀ other, .set (.part other) ∈ later → other.kind ≠ kind :=
        fun other present => unset other (List.mem_cons_of_mem _ present)
      cases request with
      | set setting =>
          have elsewhere : ∀ other, setting = .part other → other.kind ≠ kind := by
            intro other same
            subst same
            exact unset other List.mem_cons_self
          exact ih (unfilled.take host (.set setting))
            ((held_accept setting elsewhere).trans standing) unsetLater
      | resolve registry =>
          have resolved := ih (unfilled.resolve host registry)
            (held_resolve unfilled host registry standing) unsetLater
          let next := (assembly.resolve host registry).value.2.1
          refine Eq.trans resolved ?_
          change _ = some ((Slots.lastOf kind
            (assembly.factoryParts ++ next.factoryPartsDuring host later)).getD binding, _)
          -- What is given later hides what is given now.
          rw [Slots.lastOf_append]
          cases Slots.lastOf kind (next.factoryPartsDuring host later) <;> rfl

theorem transport_follow {assembly : Assembly} (unfilled : assembly.Unfilled) (host : Host)
    (requests : List Request) {transport : Transport}
    (standing : assembly.transport = some transport)
    (unset : ∀ other, .set (.transport other) ∉ requests) :
    (assembly.follow host requests).transport = some transport := by
  induction requests generalizing assembly with
  | nil => exact standing
  | cons request later ih =>
      have unsetLater : ∀ other, .set (.transport other) ∉ later :=
        fun other present => unset other (List.mem_cons_of_mem _ present)
      refine ih (unfilled.take host request) ?_ unsetLater
      cases request with
      | resolve registry => exact transport_resolve unfilled host registry standing
      | set setting =>
          cases setting with
          | transport other => exact absurd List.mem_cons_self (unset other)
          | options _ | config _ | part _ | metricsFactory _ | tracerFactory _
          | blockedHandler _ => exact standing

/-! ### What stays of what was set -/

theorem bindings_after {assembly : Assembly} {host : Host} {before after : List Request}
    {request : Request} {registry : Registry} {bindings : Bindings}
    (answered : ((assembly.follow host (before ++ request :: after)).resolve host registry).value.1
      = .ok bindings) :
    bindings = (((assembly.follow host before).take host request).follow host
      (after ++ [.resolve registry])).bindings host := by
  rw [bindings_of_resolve answered, follow_append, follow_append]
  rfl

theorem part_of_held {assembly : Assembly} {kind : ProviderKind} {content : Binding × Origin}
    (found : assembly.slots.held kind = some content) (host : Host) :
    (assembly.bindings host).part kind = some content.1 := by
  rw [part_bindings, found]
  rfl

theorem unset_append {setting : Setting} {requests : List Request} {registry : Registry}
    (present : .set setting ∈ requests ++ [.resolve registry]) : .set setting ∈ requests := by
  rcases List.mem_append.mp present with early | late
  · exact early
  · cases List.mem_singleton.mp late

/-- After any history, a resolution answers for a kind that the caller set with the part that the
caller set last, unless an explicit factory has given another part of that kind since; then with
the last of those. A transport that was set stays in any case. -/
theorem resolve_after_set (host : Host) (requests : List Request) (registry : Registry)
    (bindings : Bindings)
    (answered : (((create host).follow host requests).resolve host registry).value.1
      = .ok bindings) :
    (∀ before binding after, requests = before ++ .set (.part binding) :: after →
      (∀ other, .set (.part other) ∈ after → other.kind ≠ binding.kind) →
      let sinceSet := factoryPartsDuring host
        (((create host).follow host before).take host (.set (.part binding)))
        (after ++ [.resolve registry])
      let lastGiven := Slots.lastOf binding.kind sinceSet
      bindings.part binding.kind = some (lastGiven.getD binding)
        ∧ (bindings.part binding.kind = some binding
            ↔ ∀ given, lastGiven = some given → given = binding))
      ∧ ∀ before transport after, requests = before ++ .set (.transport transport) :: after →
        (∀ other, .set (.transport other) ∉ after) → bindings.transport = transport := by
  constructor
  · intro before binding after split unset sinceSet lastGiven
    subst split
    let earlier := (create host).follow host before
    have unfilled : earlier.Unfilled := (unfilled_create host).follow host before
    have standing : (earlier.take host (.set (.part binding))).slots.held binding.kind
        = some (binding, .explicit) :=
      (Slots.held_bind _ _ _ _).trans (if_pos rfl)
    have held := held_follow (unfilled.take host _) host (after ++ [.resolve registry]) standing
      fun other present => unset other (unset_append present)
    have value : bindings.part binding.kind = some (lastGiven.getD binding) := by
      rw [bindings_after answered]
      exact part_of_held held host
    refine ⟨value, ?_⟩
    rw [value]
    cases lastGiven with
    | none => simp
    | some given => simp
  · intro before transport after split unset
    subst split
    let earlier := (create host).follow host before
    have unfilled : earlier.Unfilled := (unfilled_create host).follow host before
    have kept : ((earlier.take host (.set (.transport transport))).follow host
        (after ++ [.resolve registry])).transport = some transport :=
      transport_follow (unfilled.take host _) host _ rfl
        fun other present => unset other (unset_append present)
    rw [bindings_after answered]
    change Option.getD _ _ = transport
    rw [kept]
    rfl

/-- A cluster manager that is set, and a metrics factory that gives another one. -/
def crossing (manager : ClusterManager) : List Request :=
  [.set (.options { Options.standard 1 with metrics := some ⟨true⟩ }),
    .set (.part (.clusterManager ⟨"mine", [], 0, none, 0, none⟩)),
    .set (.metricsFactory (.fixed "meter" .metrics [] (.ok (some (.clusterManager manager)))))]

/-- The manager that the caller set is replaced by the one that the metrics factory gives. -/
theorem crossing_replaces_manager :
    ∃ bindings,
      (((create default).follow default
          (crossing ⟨"other", [], 0, none, 0, none⟩)).resolve default .empty).value.1 = .ok bindings
        ∧ bindings.clusterManager ≠ some ⟨"mine", [], 0, none, 0, none⟩ := by
  refine ⟨_, rfl, ?_⟩
  decide

theorem resolve_after_set_crossing :
    ∃ bindings,
      (((create default).follow default
          (crossing ⟨"other", [], 0, none, 0, none⟩)).resolve default .empty).value.1 = .ok bindings
        ∧ bindings.part .clusterManager
            = some (.clusterManager ⟨"other", [], 0, none, 0, none⟩) := by
  refine ⟨_, rfl, ?_⟩
  have answered := resolve_after_set default (crossing ⟨"other", [], 0, none, 0, none⟩) .empty _ rfl
  exact (answered.1 [_] (.clusterManager ⟨"mine", [], 0, none, 0, none⟩) [_] rfl
    (by intro other present; cases List.mem_singleton.mp present)).1

end Assembly

end Reactor
