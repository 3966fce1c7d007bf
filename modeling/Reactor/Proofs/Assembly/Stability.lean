import Reactor.Proofs.Engine.Configuration
import Reactor.Proofs.Families

/-!
Resolutions after the first one. A resolution that fails leaves nothing behind and fails again. A
resolution that succeeds leaves no slot empty that has a default, so from then on every resolution
and the build read the slots and ask nobody, whatever is registered and whichever transports come
and go meanwhile.
-/

namespace Reactor

open Told

namespace Assembly

/-- A transport has been chosen, and every slot that has a default holds something. -/
structure Complete (assembly : Assembly) : Prop where
  chosen : assembly.transport ≠ none
  filled : ∀ host options kind, standardPart host options kind ≠ none →
    assembly.slots.held kind ≠ none

theorem standardPart_elsewhere (host other : Host) (options others : Options)
    (kind : ProviderKind) :
    standardPart host options kind = none ↔ standardPart other others kind = none := by
  cases kind <;> simp [standardPart]

theorem complete_completed (assembly : Assembly) (host : Host) (transport : Transport)
    (given discovered : List Binding) :
    (assembly.completed host transport given discovered).Complete := by
  refine ⟨Option.some_ne_none transport, fun other options kind standard => ?_⟩
  rw [held_completed]
  cases found : standardPart host assembly.options kind with
  | none => exact absurd ((standardPart_elsewhere ..).mp found) standard
  | some part => simp

theorem Complete.accept {assembly : Assembly} (complete : assembly.Complete) (setting : Setting) :
    (assembly.accept setting).Complete := by
  obtain ⟨chosen, filled⟩ := complete
  cases setting with
  | transport transport => exact ⟨Option.some_ne_none transport, filled⟩
  | part binding =>
      refine ⟨chosen, fun host options kind standard => ?_⟩
      change (assembly.slots.bind binding .explicit).held kind ≠ none
      rw [Slots.held_bind]
      split
      · exact Option.some_ne_none _
      · exact filled host options kind standard
  | options _ | config _ | metricsFactory _ | tracerFactory _ | blockedHandler _ =>
      exact ⟨chosen, filled⟩

theorem Complete.part_bindings {assembly : Assembly} (complete : assembly.Complete) (host : Host)
    (kind : ProviderKind) :
    (assembly.bindings host).part kind = (assembly.slots.held kind).map (·.1) := by
  rw [Assembly.part_bindings]
  cases found : assembly.slots.held kind with
  | some content => rfl
  | none =>
      have noDefault : standardPart host assembly.options kind = none := by
        by_contra standard
        exact complete.filled host assembly.options kind standard found
      rw [noDefault]
      rfl

theorem Complete.transport_bindings {assembly : Assembly} (complete : assembly.Complete)
    (host : Host) : assembly.transport = some (assembly.bindings host).transport := by
  cases found : assembly.transport with
  | none => exact absurd found complete.chosen
  | some transport => simp [bindings, found]

/-- The answer does not depend on the host any more. -/
theorem Complete.bindings_eq {assembly : Assembly} (complete : assembly.Complete)
    (host other : Host) : assembly.bindings host = assembly.bindings other := by
  have kept := complete.filled host assembly.options .fileResolver (Option.some_ne_none _)
  cases found : assembly.slots.fileResolver.value with
  | none =>
      have missing : assembly.slots.held .fileResolver = none := by
        simp [Slots.held, found]
      exact absurd missing kept
  | some resolver => simp [bindings, found]

def Settled (assembly : Assembly) : Prop :=
  assembly.Unfilled ∧ (assembly.resolved = true → assembly.Complete)

theorem Settled.resolve {assembly : Assembly} (settled : assembly.Settled) (host : Host)
    (registry : Registry) : (assembly.resolve host registry).value.2.1.Settled := by
  refine ⟨settled.1.resolve host registry, ?_⟩
  rcases assembly.resolve_cases settled.1 host registry with ⟨same, _⟩ | ⟨discovered, done, _⟩
  · rw [same]
    exact settled.2
  · rw [done]
    exact fun _ => assembly.complete_completed host _ _ _

theorem Settled.follow {assembly : Assembly} (settled : assembly.Settled) (host : Host)
    (requests : List Request) : (assembly.follow host requests).Settled := by
  induction requests generalizing assembly with
  | nil => exact settled
  | cons request later ih =>
      cases request with
      | resolve registry => exact ih (settled.resolve host registry)
      | set setting =>
          refine ih ⟨settled.1.take host (.set setting), fun resolved => ?_⟩
          exact (settled.2 ((resolved_accept assembly setting).symm.trans resolved)).accept setting

theorem settled_create (host : Host) : (create host).Settled :=
  ⟨unfilled_create host, nofun⟩

/-- A resolution fails on options that are not valid, and then does nothing at all; or it leaves
the assembly resolved and answers what that holds. -/
theorem resolve_outcome {assembly : Assembly} (unfilled : assembly.Unfilled) (host : Host)
    (registry : Registry) :
    (∃ option, assembly.resolved = false ∧ assembly.options.validate = .error option)
      ∨ ((assembly.resolve host registry).value.2.1.resolved = true
        ∧ (assembly.resolve host registry).value.1
          = .ok ((assembly.resolve host registry).value.2.1.bindings host)) := by
  obtain ⟨_, stage⟩ := resolve_checks unfilled host registry
  cases resolved : assembly.resolved with
  | false =>
      cases checked : assembly.options.validate with
      | error option => exact Or.inl ⟨option, rfl, rfl⟩
      | ok valid => exact Or.inr ⟨stage.mpr (Or.inr checked), resolve_valid checked host registry⟩
  | true =>
      refine Or.inr ⟨stage.mpr (Or.inl resolved), ?_⟩
      unfold resolve
      rw [if_pos resolved]
      rfl

/-! ### Builds of resolved assemblies -/

/-- The start of a runtime from parts that are at hand; refused if a cluster is to be joined and
there is no manager for it. -/
def launchWith (assembly : Assembly) (bindings : Bindings) (clustered : Bool) (host : Host)
    (files : FileTree) (took : Span) : Told (Except (Halt BootError) Engine) :=
  match clusterOf bindings clustered with
  | none => return .error (.failed (.configuration .noClusterManager))
  | some cluster => do
    let answer ← Engine.start host files assembly.options bindings cluster assembly.blockedHandler
      took
    return answer.mapError (·.halt)

theorem resolve_resolved {assembly : Assembly} (resolved : assembly.resolved = true) (host : Host)
    (registry : Registry) :
    assembly.resolve host registry = pure (.ok (assembly.bindings host), assembly, registry) := by
  unfold resolve
  rw [if_pos resolved]

theorem checkObservability_yields (assembly : Assembly) :
    assembly.checkObservability.Yields Entry.doing? () [] := by
  have silent : Only (fun entry => entry.doing? = none) assembly.checkObservability := by
    unfold checkObservability
    dsimp only
    split
    · refine Only.bind (only_tell rfl) ?_
      split
      · exact only_tell rfl
      · exact only_pure ()
    · split
      · exact only_tell rfl
      · exact only_pure ()
  exact silent.yields

theorem prepare_resolved {assembly : Assembly} (resolved : assembly.resolved = true) (host : Host)
    (registry : Registry) :
    (assembly.prepare host registry).Yields Entry.doing?
      (.ok (assembly.bindings host), assembly, registry) [] := by
  unfold prepare
  rw [resolve_resolved resolved, pure_bind]
  exact assembly.checkObservability_yields.andThen (yields_pure _)

theorem launch_resolved {assembly : Assembly} (resolved : assembly.resolved = true)
    (clustered : Bool) (host : Host) (files : FileTree) (registry : Registry) (took : Span) :
    let told := assembly.launchWith (assembly.bindings host) clustered host files took
    (assembly.launch clustered host files registry took).Yields Entry.doing? (told.value, registry)
      (told.entries.filterMap Entry.doing?) := by
  intro told
  obtain ⟨prepares, asksNobody⟩ := prepare_resolved resolved host registry
  cases joins : clusterOf (assembly.bindings host) clustered with
  | some cluster =>
      have sameTold : told = (do
          let answer ← Engine.start host files assembly.options (assembly.bindings host) cluster
            assembly.blockedHandler took
          return answer.mapError (·.halt)) := by
        change assembly.launchWith _ _ _ _ _ = _
        unfold launchWith
        rw [joins]
      have launched := assembly.launch_yields clustered host files registry took prepares joins
      rw [asksNobody] at launched
      rw [sameTold]
      refine launched.of_eq rfl ?_
      rw [entries_bind, List.filterMap_append]
      exact (List.append_nil _).symm
  | none =>
      have sameTold : told = pure (.error (.failed (.configuration .noClusterManager))) := by
        change assembly.launchWith _ _ _ _ _ = _
        unfold launchWith
        rw [joins]
      rw [sameTold]
      cases clustered with
      | false => cases joins
      | true =>
          have leaderless : (assembly.bindings host).clusterManager = none :=
            Option.map_eq_none_iff.mp joins
          have refused : (assembly.buildClustered host files registry took).Yields Entry.doing?
              (.error (.failed (.configuration .noClusterManager)), registry) [] := by
            refine (prepare_resolved resolved host registry).andThen ?_
            dsimp only
            rw [leaderless]
            exact yields_pure _
          exact refused.map _

end Assembly

/-! ### Transports that break or recover -/

/-- The transport as it is when its state has changed. -/
def Transport.become (down : Transport → Option String) (transport : Transport) : Transport :=
  { transport with down := down transport }

def SharedRegistries.become (down : Transport → Option String) (shared : SharedRegistries) :
    SharedRegistries :=
  { shared with
    tables := shared.tables.map fun registry =>
      { registry with transports := registry.transports.map (Transport.become down) } }

def Bindings.become (down : Transport → Option String) (bindings : Bindings) : Bindings :=
  { bindings with transport := bindings.transport.become down }

namespace Assembly

def become (down : Transport → Option String) (assembly : Assembly) : Assembly :=
  { assembly with transport := assembly.transport.map (Transport.become down) }

theorem become_down (assembly : Assembly) : assembly.become Transport.down = assembly := by
  have same : Transport.become Transport.down = id := rfl
  unfold become
  rw [same, Option.map_id, id]

theorem become_become (assembly : Assembly) (first second : Transport → Option String) :
    (assembly.become first).become second
      = assembly.become fun transport => second (transport.become first) := by
  unfold become
  rw [Option.map_map]
  rfl

theorem Complete.become {assembly : Assembly} (complete : assembly.Complete)
    (down : Transport → Option String) : (assembly.become down).Complete :=
  ⟨fun missing => complete.chosen (Option.map_eq_none_iff.mp missing), complete.filled⟩

theorem Complete.bindings_become {assembly : Assembly} (complete : assembly.Complete)
    (down : Transport → Option String) (host other : Host) :
    (assembly.become down).bindings other = (assembly.bindings host).become down := by
  rw [(complete.become down).bindings_eq other host]
  cases found : assembly.transport with
  | none => exact absurd found complete.chosen
  | some transport => simp [bindings, Assembly.become, Bindings.become, found]

end Assembly

theorem SharedRegistries.put_get (shared : SharedRegistries) (handle : String) :
    shared.put handle (shared.get handle) = shared := by
  unfold put get
  cases shared.handles.lookup handle with
  | none => rfl
  | some number =>
      have same : shared.tables.set number ((shared.tables[number]?).getD .empty)
          = shared.tables := by
        by_cases within : number < shared.tables.length
        · rw [List.getElem?_eq_getElem within, Option.getD_some]
          exact List.set_getElem_self within
        · exact List.set_eq_of_length_le (Nat.le_of_not_lt within)
      dsimp only [Option.bind_some]
      rw [same]

/-- An assembly on a host, and the registries that it and others reach through handles. -/
structure Bench where
  assembly : Assembly
  registries : SharedRegistries
  host : Host

inductive Change where
  | resolve
  | deal (dealing : Dealing)
  | transports (down : Transport → Option String)
  | host (host : Host)

namespace Bench

def resolve (bench : Bench) (own : String) : Told (Except BootError Bindings × Bench) := do
  let (answer, assembly, registry) ← bench.assembly.resolve bench.host (bench.registries.get own)
  return (answer, { bench with assembly, registries := bench.registries.put own registry })

def meet (bench : Bench) : Change → Bench
  | .resolve => bench
  | .deal dealing => { bench with registries := (bench.registries.deal dealing).value }
  | .transports down =>
    { bench with
      assembly := bench.assembly.become down, registries := bench.registries.become down }
  | .host host => { bench with host }

/-- The answers of the resolutions of the assembly, and the bench after all. The journal tells of
these resolutions alone. -/
def follow (own : String) (bench : Bench) :
    List Change → Told (List (Except BootError Bindings) × Bench)
  | [] => return ([], bench)
  | .resolve :: later => do
    let (answer, bench) ← bench.resolve own
    let (answers, bench) ← bench.follow own later
    return (answer :: answers, bench)
  | change :: later => (bench.meet change).follow own later

/-- The assembly of a bench is this one, but for the state of its transport. -/
def Holds (bench : Bench) (assembly : Assembly) : Prop :=
  ∃ down, bench.assembly = assembly.become down

theorem holds_self (bench : Bench) : bench.Holds bench.assembly :=
  ⟨Transport.down, bench.assembly.become_down.symm⟩

theorem Holds.meet {bench : Bench} {assembly : Assembly} (holds : bench.Holds assembly)
    (change : Change) : (bench.meet change).Holds assembly := by
  obtain ⟨first, same⟩ := holds
  cases change with
  | resolve | deal _ | host _ => exact ⟨first, same⟩
  | transports second =>
      refine ⟨fun transport => second (transport.become first), ?_⟩
      change bench.assembly.become second = _
      rw [same, Assembly.become_become]

theorem Holds.slots {bench : Bench} {assembly : Assembly} (holds : bench.Holds assembly) :
    bench.assembly.slots = assembly.slots := by
  obtain ⟨down, same⟩ := holds
  rw [same]
  rfl

/-- While every resolution answers without touching the bench, the assembly stays. -/
theorem follow_still {assembly : Assembly} (own : String)
    (answers : Except BootError Bindings → Prop)
    (resolves : ∀ bench : Bench, bench.Holds assembly →
      ∃ answer, answers answer ∧ bench.resolve own = pure (answer, bench))
    {bench : Bench} (holds : bench.Holds assembly) (changes : List Change) :
    let course := bench.follow own changes
    course.entries = []
      ∧ (∀ answer ∈ course.value.1, answers answer)
      ∧ course.value.2.Holds assembly := by
  induction changes generalizing bench with
  | nil => exact ⟨rfl, fun answer present => absurd present List.not_mem_nil, holds⟩
  | cons change later ih =>
      cases change with
      | deal dealing => exact ih (holds.meet (.deal dealing))
      | transports down => exact ih (holds.meet (.transports down))
      | host host => exact ih (holds.meet (.host host))
      | resolve =>
          obtain ⟨answer, right, resolved⟩ := resolves bench holds
          obtain ⟨silent, all, stays⟩ := ih holds
          have course : bench.follow own (.resolve :: later) = (do
              let (answers, bench) ← bench.follow own later
              return (answer :: answers, bench)) := by
            rw [follow, resolved, pure_bind]
          rw [course]
          refine ⟨?_, ?_, stays⟩
          · rw [entries_bind, silent]
            rfl
          · intro other present
            rcases List.mem_cons.mp present with here | further
            · rw [here]
              exact right
            · exact all other further

/-! ### Resolved once -/

theorem resolve_invalid {bench : Bench} {option : BadOption}
    (unresolved : bench.assembly.resolved = false)
    (invalid : bench.assembly.options.validate = .error option) (own : String) :
    bench.resolve own = pure (.error (.configuration (.badOption option)), bench) := by
  unfold resolve
  rw [Assembly.resolve_invalid unresolved invalid, pure_bind]
  dsimp only
  rw [SharedRegistries.put_get]

theorem resolve_resolved {bench : Bench} (resolved : bench.assembly.resolved = true)
    (own : String) :
    bench.resolve own = pure (.ok (bench.assembly.bindings bench.host), bench) := by
  unfold resolve
  rw [Assembly.resolve_resolved resolved, pure_bind]
  dsimp only
  rw [SharedRegistries.put_get]

theorem follow_invalid {bench : Bench} {option : BadOption}
    (unresolved : bench.assembly.resolved = false)
    (invalid : bench.assembly.options.validate = .error option) (own : String)
    (changes : List Change) :
    let course := bench.follow own changes
    course.entries = []
      ∧ (∀ answer ∈ course.value.1, answer = .error (.configuration (.badOption option)))
      ∧ course.value.2.Holds bench.assembly := by
  refine follow_still own _ (fun other holds => ?_) bench.holds_self changes
  obtain ⟨down, same⟩ := holds
  exact ⟨_, rfl, resolve_invalid (by rw [same]; exact unresolved) (by rw [same]; exact invalid) own⟩

theorem follow_resolved {bench : Bench} (resolved : bench.assembly.resolved = true)
    (complete : bench.assembly.Complete) (own : String) (changes : List Change) :
    let course := bench.follow own changes
    course.entries = []
      ∧ (∀ answer ∈ course.value.1,
          ∃ down, answer = .ok ((bench.assembly.bindings bench.host).become down))
      ∧ course.value.2.Holds bench.assembly := by
  refine follow_still own _ (fun other holds => ?_) bench.holds_self changes
  obtain ⟨down, same⟩ := holds
  have answer : other.assembly.bindings other.host
      = (bench.assembly.bindings bench.host).become down := by
    rw [same]
    exact complete.bindings_become down bench.host other.host
  exact ⟨_, ⟨down, congrArg Except.ok answer⟩, resolve_resolved (by rw [same]; exact resolved) own⟩

/-- A resolution that fails changes nothing and asks nobody, and so does every later one and the
build, with the same error. After one that succeeds nobody is asked any more: whatever is done to
the registries, to the transports and to the host, each resolution answers what the slots hold
since then, and the build starts the runtime from that. -/
theorem resolution_stays (birthplace : Host) (requests : List Assembly.Request)
    (registries : SharedRegistries) (host : Host) (own : String) (changes : List Change) :
    let bench : Bench := ⟨(Assembly.create birthplace).follow birthplace requests, registries, host⟩
    let first := bench.resolve own
    let course := first.value.2.follow own changes
    let last := course.value.2
    (∀ error, first.value.1 = .error error →
        first.entries = [] ∧ first.value.2 = bench
          ∧ course.entries = [] ∧ (∀ answer ∈ course.value.1, answer = .error error)
          ∧ last.assembly.slots = bench.assembly.slots
          ∧ ∀ clustered files took,
              last.assembly.launch clustered last.host files (last.registries.get own) took
                = pure (.error (.failed error), last.registries.get own))
      ∧ ∀ bindings, first.value.1 = .ok bindings →
        let resolved := first.value.2.assembly
        (∀ kind, bindings.part kind = (resolved.slots.held kind).map (·.1))
          ∧ resolved.transport = some bindings.transport
          ∧ course.entries = []
          ∧ (∀ answer ∈ course.value.1, ∃ down, answer = .ok (bindings.become down))
          ∧ last.assembly.slots = resolved.slots
          ∧ ∃ down, last.assembly = resolved.become down
            ∧ ∀ clustered files took,
                let started := last.assembly.launchWith (bindings.become down) clustered last.host
                  files took
                (last.assembly.launch clustered last.host files (last.registries.get own)
                  took).Yields Entry.doing? (started.value, last.registries.get own)
                  (started.entries.filterMap Entry.doing?) := by
  intro bench first course last
  have settled : bench.assembly.Settled :=
    (Assembly.settled_create birthplace).follow birthplace requests
  constructor
  · intro error failed
    rcases Assembly.resolve_outcome settled.1 host (registries.get own) with
      ⟨option, unresolved, invalid⟩ | ⟨_, answered⟩
    · have same : first = pure (.error (.configuration (.badOption option)), bench) :=
        resolve_invalid unresolved invalid own
      have sameCourse : course = bench.follow own changes := by
        change first.value.2.follow own changes = _
        rw [same]
        rfl
      obtain ⟨silent, all, stays⟩ := follow_invalid unresolved invalid own changes
      rw [← sameCourse] at silent all stays
      rw [same] at failed
      cases failed
      refine ⟨by rw [same]; rfl, by rw [same]; rfl, silent, all, stays.slots, ?_⟩
      intro clustered files took
      obtain ⟨down, become⟩ := stays
      exact Assembly.launch_invalid (by rw [become]; exact unresolved)
        (by rw [become]; exact invalid) clustered files _ took
    · have succeeded : first.value.1 = .ok _ := answered
      rw [succeeded] at failed
      cases failed
  · intro bindings succeeded resolvedAssembly
    rcases Assembly.resolve_outcome settled.1 host (registries.get own) with
      ⟨option, unresolved, invalid⟩ | ⟨resolved, answered⟩
    · have same : first = pure (.error (.configuration (.badOption option)), bench) :=
        resolve_invalid unresolved invalid own
      rw [same] at succeeded
      cases succeeded
    · have complete : resolvedAssembly.Complete :=
        (settled.resolve host (registries.get own)).2 resolved
      have found : bindings = resolvedAssembly.bindings host :=
        Except.ok.inj (succeeded.symm.trans answered)
      have settledBench : first.value.2.assembly.resolved = true := resolved
      obtain ⟨silent, all, stays⟩ := follow_resolved settledBench complete own changes
      subst found
      refine ⟨complete.part_bindings host, complete.transport_bindings host, silent, all,
        stays.slots, ?_⟩
      obtain ⟨down, become⟩ := stays
      refine ⟨down, become, fun clustered files took => ?_⟩
      have still : last.assembly.resolved = true := by
        rw [become]
        exact resolved
      have parts : last.assembly.bindings last.host
          = (resolvedAssembly.bindings host).become down := by
        rw [become]
        exact complete.bindings_become down host last.host
      have launched := Assembly.launch_resolved still clustered last.host files
        (last.registries.get own) took
      rw [parts] at launched
      exact launched

def metered : List Assembly.Request :=
  [.set (.options { Options.standard 1 with metrics := some ⟨true⟩, preferNativeTransport := true }),
    .set (.metricsFactory (.fixed "meter" .metrics [] (.ok (some (.metrics (.named "m" true))))))]

def ringed : SharedRegistries :=
  .after [.transport "own" ⟨.portable, "ring", none, false⟩, .create "own"]

/-- Providers and transports come, all transports break, and the host changes. -/
def unplugged : List Change :=
  [.deal (.provider "own" (.fixed "late" .metrics [] (.ok (some (.metrics .counters))))),
    .deal (.clone "copy" "own"),
    .deal (.transport "copy" ⟨.portable, "newcomer", none, false⟩),
    .resolve,
    .transports fun _ => some "unplugged",
    .host { (default : Host) with cores := 3, epollDown := some "no kernel support" },
    .resolve]

theorem resolution_stays_unplugged :
    let first := (Bench.mk ((Assembly.create default).follow default metered) ringed default).resolve
      "own"
    let course := first.value.2.follow "own" unplugged
    ∃ bindings, first.value.1 = .ok bindings
      ∧ bindings.transport.name = "ring" ∧ bindings.metrics = some (.named "m" true)
      ∧ course.entries = [] ∧ course.value.1.length = 2
      ∧ course.value.2.assembly.slots = first.value.2.assembly.slots := by
  intro first course
  obtain ⟨_, succeeds⟩ := resolution_stays default metered ringed default "own" unplugged
  obtain ⟨_, _, silent, _, slots, _⟩ := succeeds _ rfl
  exact ⟨_, rfl, rfl, rfl, silent, rfl, slots⟩

end Bench

end Reactor
