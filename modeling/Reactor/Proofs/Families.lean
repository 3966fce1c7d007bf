import Mathlib.Data.List.Infix
import Reactor.Proofs.Assembly.Growth

/-!
Registries that are shared through handles. A family is one registry with all the handles that
were cloned, directly or not, from the handle it was created under. A history of dealings fixes
for every family two lists, of the providers and of the transports registered through any of its
handles, in the order of the dealings; every handle shows the lists of its family, which only grow.
-/

namespace Reactor

open Told

inductive Dealing where
  | create (handle : String)
  | clone (handle other : String)
  | provider (handle : String) (provider : Provider)
  | transport (handle : String) (transport : Transport)
  | discover (handle : String)
  -- An assembly resolves itself from the registry; the providers it activates may add others.
  | resolve (handle : String) (host : Host) (assembly : Assembly)

def Dealing.handle : Dealing → String
  | .create handle | .clone handle _ | .provider handle _ | .transport handle _
  | .discover handle | .resolve handle _ _ => handle

namespace SharedRegistries

def deal (shared : SharedRegistries) : Dealing → Told SharedRegistries
  | .create handle => return shared.create handle
  | .clone handle other => return shared.clone handle other
  | .provider handle provider => shared.registerProvider handle provider
  | .transport handle transport => shared.registerTransport handle transport
  | .discover handle => do
    let _ ← (shared.get handle).discoverProviders
    let _ ← (shared.get handle).discoverTransports
    return shared
  | .resolve handle host assembly => do
    let (_, _, registry) ← assembly.resolve host (shared.get handle)
    return shared.put handle registry

/-- The registries after a history, which lists the latest dealing first. -/
def after : List Dealing → SharedRegistries
  | [] => empty
  | dealing :: earlier => ((after earlier).deal dealing).value

/-- The number of registries that a history creates. -/
def created : List Dealing → Nat
  | [] => 0
  | .create _ :: earlier => created earlier + 1
  | _ :: earlier => created earlier

/-- The family that a name belongs to after a history. Families are numbered as they are created. -/
def family? : List Dealing → String → Option Nat
  | [], _ => none
  | .create handle :: earlier, name =>
    if name = handle then some (created earlier) else family? earlier name
  | .clone handle other :: earlier, name =>
    if name = handle then (family? earlier other).or (family? earlier name)
    else family? earlier name
  | _ :: earlier, name => family? earlier name

def providersBy (earlier : List Dealing) : Dealing → List Provider
  | .provider _ provider => [provider]
  | .resolve handle host assembly =>
    brought (assembly.resolve host ((after earlier).get handle)).entries
  | _ => []

def transportsBy : Dealing → List Transport
  | .transport _ transport => [transport]
  | _ => []

def providersOf (family : Nat) : List Dealing → List Provider
  | [] => []
  | dealing :: earlier =>
    if family? earlier dealing.handle = some family then
      providersOf family earlier ++ providersBy earlier dealing
    else providersOf family earlier

def transportsOf (family : Nat) : List Dealing → List Transport
  | [] => []
  | dealing :: earlier =>
    if family? earlier dealing.handle = some family then
      transportsOf family earlier ++ transportsBy dealing
    else transportsOf family earlier

/-- The registry of a family after a history. -/
def registryOf (history : List Dealing) (family : Nat) : Registry :=
  ⟨providersOf family history, transportsOf family history⟩

theorem created_le (dealing : Dealing) (earlier : List Dealing) :
    created earlier ≤ created (dealing :: earlier) := by
  cases dealing with
  | create handle => exact Nat.le_succ _
  | clone _ _ | provider _ _ | transport _ _ | discover _ | resolve _ _ _ => exact Nat.le_refl _

theorem family?_lt {history : List Dealing} {name : String} {family : Nat}
    (reached : family? history name = some family) : family < created history := by
  induction history generalizing name with
  | nil => cases reached
  | cons dealing earlier ih =>
      cases dealing with
      | create handle =>
          unfold family? at reached
          by_cases same : name = handle
          · rw [if_pos same] at reached
            cases reached
            exact Nat.lt_succ_self _
          · rw [if_neg same] at reached
            exact Nat.lt_succ_of_lt (ih reached)
      | clone handle other =>
          unfold family? at reached
          by_cases same : name = handle
          · rw [if_pos same] at reached
            rcases Option.or_eq_some_iff.mp reached with fromOther | ⟨_, own⟩
            · exact ih fromOther
            · exact ih own
          · rw [if_neg same] at reached
            exact ih reached
      | provider _ _ | transport _ _ | discover _ | resolve _ _ _ => exact ih reached

theorem registryOf_elsewhere {dealing : Dealing} {earlier : List Dealing} {family : Nat}
    (elsewhere : family? earlier dealing.handle ≠ some family) :
    registryOf (dealing :: earlier) family = registryOf earlier family := by
  change Registry.mk (if _ then _ else _) (if _ then _ else _) = _
  rw [if_neg elsewhere, if_neg elsewhere]
  rfl

theorem registryOf_within {dealing : Dealing} {earlier : List Dealing} {family : Nat}
    (within : family? earlier dealing.handle = some family) :
    registryOf (dealing :: earlier) family
      = ⟨providersOf family earlier ++ providersBy earlier dealing,
          transportsOf family earlier ++ transportsBy dealing⟩ := by
  change Registry.mk (if _ then _ else _) (if _ then _ else _) = _
  rw [if_pos within, if_pos within]

/-- A family that is still to be created has nothing. -/
theorem registryOf_fresh {history : List Dealing} {family : Nat}
    (fresh : created history ≤ family) : registryOf history family = .empty := by
  induction history with
  | nil => rfl
  | cons dealing earlier ih =>
      have grown := created_le dealing earlier
      have elsewhere : family? earlier dealing.handle ≠ some family := by
        intro reached
        have bound := family?_lt reached
        omega
      rw [registryOf_elsewhere elsewhere]
      exact ih (Nat.le_trans grown fresh)

theorem registryOf_silent (dealing : Dealing) (earlier : List Dealing)
    (noProvider : providersBy earlier dealing = []) (noTransport : transportsBy dealing = [])
    (family : Nat) : registryOf (dealing :: earlier) family = registryOf earlier family := by
  by_cases within : family? earlier dealing.handle = some family
  · rw [registryOf_within within, noProvider, noTransport, List.append_nil, List.append_nil]
    rfl
  · exact registryOf_elsewhere within

/-! ### The registries agree with their history -/

/-- Names reach their families, and every family that was created has its registry. -/
structure Reflects (history : List Dealing) (shared : SharedRegistries) : Prop where
  reached : ∀ name, shared.handles.lookup name = family? history name
  listed : shared.tables = (List.range (created history)).map (registryOf history)

theorem lookup_bound (handles : List (String × Nat)) (handle name : String) (number : Nat) :
    ((handle, number) :: handles.filter (·.1 != handle)).lookup name
      = if name = handle then some number else handles.lookup name := by
  by_cases same : name = handle
  · rw [if_pos same, same, List.lookup_cons_self]
  · have passed (other : String) (differs : name ≠ other) (found : Nat)
        (rest : List (String × Nat)) :
        ((other, found) :: rest).lookup name = rest.lookup name := by
      rw [List.lookup_cons, beq_false_of_ne differs]
    rw [if_neg same, passed handle same]
    induction handles with
    | nil => rfl
    | cons entry rest ih =>
        by_cases hidden : entry.1 = handle
        · rw [List.filter_cons_of_neg (by simp [hidden]), ih]
          exact (passed entry.1 (by rw [hidden]; exact same) entry.2 rest).symm
        · rw [List.filter_cons_of_pos (by simp [hidden]), List.lookup_cons, List.lookup_cons, ih]

namespace Reflects

variable {history : List Dealing} {shared : SharedRegistries}

theorem get {handle : String} {family : Nat} (reflects : Reflects history shared)
    (reached : family? history handle = some family) :
    shared.get handle = registryOf history family := by
  unfold SharedRegistries.get
  rw [reflects.reached, reached, reflects.listed]
  have bound := family?_lt reached
  simp [bound]

theorem create (reflects : Reflects history shared) (handle : String) :
    Reflects (.create handle :: history) (shared.create handle) := by
  have count : shared.tables.length = created history := by
    rw [reflects.listed, List.length_map, List.length_range]
  have silent := registryOf_silent (.create handle) history rfl rfl
  constructor
  · intro name
    refine (lookup_bound shared.handles handle name shared.tables.length).trans ?_
    rw [count, reflects.reached]
    rfl
  · change shared.tables ++ [.empty] = (List.range (created history + 1)).map _
    rw [List.range_succ, List.map_append, List.map_singleton, silent,
      registryOf_fresh (Nat.le_refl _), reflects.listed, List.map_congr_left fun f _ => silent f]

theorem clone (reflects : Reflects history shared) (handle other : String) :
    Reflects (.clone handle other :: history) (shared.clone handle other) := by
  have silent := registryOf_silent (.clone handle other) history rfl rfl
  have listed : shared.tables
      = (List.range (created history)).map (registryOf (.clone handle other :: history)) := by
    rw [reflects.listed, List.map_congr_left fun f _ => silent f]
  unfold SharedRegistries.clone
  rw [reflects.reached other]
  cases found : family? history other with
  | none =>
      refine ⟨fun name => ?_, listed⟩
      change _ = if name = handle then (family? history other).or _ else _
      rw [reflects.reached name, found, Option.none_or, ite_self]
  | some family =>
      refine ⟨fun name => ?_, listed⟩
      refine (lookup_bound shared.handles handle name family).trans ?_
      change _ = if name = handle then (family? history other).or _ else _
      rw [reflects.reached name, found, Option.some_or]

theorem put (reflects : Reflects history shared) (dealing : Dealing) {registry : Registry}
    (sameNames : ∀ name, family? (dealing :: history) name = family? history name)
    (sameCount : created (dealing :: history) = created history)
    (written : ∀ family, family? history dealing.handle = some family →
      registry = registryOf (dealing :: history) family) :
    Reflects (dealing :: history) (shared.put dealing.handle registry) := by
  unfold SharedRegistries.put
  rw [reflects.reached]
  cases found : family? history dealing.handle with
  | none =>
      refine ⟨fun name => (reflects.reached name).trans (sameNames name).symm, ?_⟩
      have elsewhere (family : Nat) :
          registryOf (dealing :: history) family = registryOf history family :=
        registryOf_elsewhere (by rw [found]; exact (Option.some_ne_none family).symm)
      rw [reflects.listed, sameCount, List.map_congr_left fun f _ => elsewhere f]
  | some family =>
      refine ⟨fun name => (reflects.reached name).trans (sameNames name).symm, ?_⟩
      change shared.tables.set family registry = _
      rw [reflects.listed, sameCount]
      apply List.ext_getElem
      · rw [List.length_set, List.length_map, List.length_map]
      · intro index before within
        rw [List.getElem_set, List.getElem_map, List.getElem_map, List.getElem_range]
        by_cases same : family = index
        · rw [if_pos same, written family found, same]
        · rw [if_neg same]
          exact (registryOf_elsewhere (by
            rw [found]
            exact fun equal => same (Option.some.inj equal))).symm

end Reflects

theorem reflects_after (history : List Dealing) : Reflects history (after history) := by
  induction history with
  | nil => exact ⟨fun name => rfl, rfl⟩
  | cons dealing earlier ih =>
      cases dealing with
      | create handle => exact ih.create handle
      | clone handle other => exact ih.clone handle other
      | discover handle =>
          have silent := registryOf_silent (.discover handle) earlier rfl rfl
          refine ⟨ih.reached, ?_⟩
          change (after earlier).tables = _
          rw [ih.listed, List.map_congr_left fun f _ => silent f]
          rfl
      | provider handle provider =>
          refine ih.put (.provider handle provider) (fun name => rfl) rfl ?_
          intro family found
          have shown : (after earlier).get handle = registryOf earlier family := ih.get found
          rw [registryOf_within found]
          change ((after earlier).get handle).extend [provider] = _
          rw [shown]
          exact congrArg (Registry.mk _) (List.append_nil _).symm
      | transport handle transport =>
          refine ih.put (.transport handle transport) (fun name => rfl) rfl ?_
          intro family found
          have shown : (after earlier).get handle = registryOf earlier family := ih.get found
          rw [registryOf_within found]
          change (((after earlier).get handle).registerTransport transport).value = _
          rw [shown]
          exact congrArg (Registry.mk · _) (List.append_nil _).symm
      | resolve handle host assembly =>
          refine ih.put (.resolve handle host assembly) (fun name => rfl) rfl ?_
          intro family found
          have shown : (after earlier).get handle = registryOf earlier family := ih.get found
          rw [registryOf_within found]
          refine (assembly.grown_resolve host ((after earlier).get handle)).trans ?_
          change _ = Registry.mk
            (_ ++ brought (assembly.resolve host ((after earlier).get handle)).entries) _
          rw [shown]
          exact congrArg (Registry.mk _) (List.append_nil _).symm

/-! ### What handles show -/

theorem get_after {history : List Dealing} {handle : String} {family : Nat}
    (reached : family? history handle = some family) :
    (after history).get handle = registryOf history family :=
  (reflects_after history).get reached

theorem prefix_later (family : Nat) (later history : List Dealing) :
    providersOf family history <+: providersOf family (later ++ history)
      ∧ transportsOf family history <+: transportsOf family (later ++ history) := by
  induction later with
  | nil => exact ⟨List.prefix_refl _, List.prefix_refl _⟩
  | cons dealing rest ih =>
      change _ <+: (registryOf (dealing :: (rest ++ history)) family).providers
        ∧ _ <+: (registryOf (dealing :: (rest ++ history)) family).transports
      by_cases within : family? (rest ++ history) dealing.handle = some family
      · rw [registryOf_within within]
        exact ⟨ih.1.trans (List.prefix_append _ _), ih.2.trans (List.prefix_append _ _)⟩
      · rw [registryOf_elsewhere within]
        exact ih

/-- A handle shows what was registered through the handles of its family, in the order of the
registrations. Lists that were shown before are prefixes of those shown later, by any handle of
the family; dealings through other families change nothing. Whoever goes through a list that was
shown does the same whatever the registry has come to hold since, and meets nobody else. -/
theorem discover_family (history : List Dealing) (handle : String) (family : Nat)
    (reached : family? history handle = some family) :
    let shown := (after history).get handle
    shown.discoverProviders.value = providersOf family history
      ∧ shown.discoverTransports.value = transportsOf family history
      ∧ (shown.isEmpty = true
          ↔ providersOf family history = [] ∧ transportsOf family history = [])
      ∧ (∀ later other, family? (later ++ history) other = some family →
          let laterShown := (after (later ++ history)).get other
          shown.discoverProviders.value <+: laterShown.discoverProviders.value
            ∧ shown.discoverTransports.value <+: laterShown.discoverTransports.value)
      ∧ (∀ dealing other, family? history dealing.handle ≠ some family →
          family? (dealing :: history) other = some family →
          (after (dealing :: history)).get other = shown)
      ∧ ∀ (assembly : Assembly) (grown : Registry),
          let walk := assembly.useProviders grown shown.discoverProviders.value
          let undisturbed := assembly.useProviders shown shown.discoverProviders.value
          walk.value.1 = undisturbed.value.1
            ∧ walk.entries = undisturbed.entries
            ∧ ((walk.entries.filterMap Entry.activation?).map (·.1)).Sublist
                shown.discoverProviders.value
            ∧ walk.value.2 = grown.extend (brought walk.entries) := by
  intro shown
  have whole : shown = registryOf history family := get_after reached
  refine ⟨?_, ?_, ?_, ?_, ?_, ?_⟩
  · rw [whole]
    rfl
  · rw [whole]
    rfl
  · rw [whole, Registry.isEmpty, Bool.and_eq_true, List.isEmpty_iff, List.isEmpty_iff]
    rfl
  · intro later other laterReached laterShown
    have laterWhole : laterShown = registryOf (later ++ history) family := get_after laterReached
    rw [whole, laterWhole]
    exact prefix_later family later history
  · intro dealing other elsewhere stillReached
    rw [get_after stillReached, registryOf_elsewhere elsewhere, whole]
  · intro assembly grown walk undisturbed
    have adds := assembly.useProviders_adds shown.discoverProviders.value
    have same := adds.blind grown shown
    exact ⟨same.1, same.2, assembly.useProviders_activates grown _, adds.grown grown⟩

def aliased : List Dealing :=
  [.transport "copy" .portable,
    .resolve "copy" default (.create { (default : Host) with cores := 1 }),
    .provider "other" (.fixed "foreign" .tracing [] (.ok none)),
    .create "other",
    .provider "first" (.fixed "herald" .clusterManager
      [.fixed "late" .nodeSelector [] (.ok none)] (.ok none)),
    .provider "copy" .counters,
    .provider "first" .counters,
    .clone "copy" "first",
    .create "first"]

theorem discover_family_aliased :
    family? aliased "first" = some 0
      ∧ ((after aliased).get "first").discoverProviders.value.map (·.name)
          = ["counters", "counters", "herald", "late"]
      ∧ ((after aliased).get "first").discoverTransports.value = [.portable] := by
  have reached : family? aliased "first" = some 0 := rfl
  obtain ⟨providers, transports, _⟩ := discover_family aliased "first" 0 reached
  refine ⟨reached, ?_, ?_⟩
  · rw [providers]
    rfl
  · rw [transports]
    rfl

end SharedRegistries

end Reactor
