import Mathlib.Data.List.Induction
import Mathlib.Data.List.Rotate
import Reactor.Cluster

/-!
The members that messages are routed to. What a selector answers is told from the questions put to
it and their answers alone: the first manager handed over, the members that manager has now, and how
many messages of the address found a member before.
-/

namespace Reactor

inductive Query (M : Type) where
  | init (manager : M)
  | regroup (nodes : M → List String)
  | send (address : String)
  | publish (address : String)

inductive Reply where
  | done
  | target (member : Option String)
  | targets (members : List String)
deriving DecidableEq

structure Routing (M : Type) where
  selector : RoundRobin M
  nodes : M → List String

variable {M : Type}

namespace RoundRobin

theorem manager_init (selector : RoundRobin M) (manager : M) :
    (selector.init manager).manager = selector.manager.or (some manager) := by
  unfold init
  cases kept : selector.manager with
  | none => rfl
  | some first => exact kept

theorem cursor_init (selector : RoundRobin M) (manager : M) (address : String) :
    (selector.init manager).cursor address = selector.cursor address := by
  unfold init
  cases selector.manager <;> rfl

theorem send_congr {selector : RoundRobin M} {nodes others : M → List String}
    (same : selector.members others = selector.members nodes) (address : String) :
    selector.send others address = selector.send nodes address := by
  unfold send
  rw [same]

end RoundRobin

def Query.manager? : Query M → Option M
  | .init manager => some manager
  | _ => none

namespace Routing

def opened (nodes : M → List String) : Routing M := ⟨.fresh, nodes⟩

def answer (routing : Routing M) : Query M → Reply × Routing M
  | .init manager => (.done, { routing with selector := routing.selector.init manager })
  | .regroup nodes => (.done, { routing with nodes })
  | .send address =>
    let (member, selector) := routing.selector.send routing.nodes address
    (.target member, { routing with selector })
  | .publish _ => (.targets (routing.selector.publish routing.nodes), routing)

def after (routing : Routing M) : List (Query M) → Routing M
  | [] => routing
  | query :: queries => (routing.answer query).2.after queries

def history (routing : Routing M) : List (Query M) → List (Query M × Reply)
  | [] => []
  | query :: queries =>
    (query, (routing.answer query).1) :: (routing.answer query).2.history queries

theorem after_append (routing : Routing M) (first second : List (Query M)) :
    routing.after (first ++ second) = (routing.after first).after second := by
  induction first generalizing routing with
  | nil => rfl
  | cons query first ih => exact ih (routing.answer query).2

theorem history_append (routing : Routing M) (first second : List (Query M)) :
    routing.history (first ++ second)
      = routing.history first ++ (routing.after first).history second := by
  induction first generalizing routing with
  | nil => rfl
  | cons query first ih => exact congrArg _ (ih (routing.answer query).2)

def targetOf? (address : String) : Query M × Reply → Option String
  | (.send other, .target member) => if other = address then member else none
  | _ => none

theorem targetOf?_same (address : String) (member : Option String) :
    targetOf? address ((.send address : Query M), .target member) = member :=
  if_pos rfl

theorem targetOf?_other {address other : String} (different : address ≠ other)
    (member : Option String) :
    targetOf? address ((.send other : Query M), .target member) = none :=
  if_neg different.symm

theorem targetOf?_eq_some {address member : String} {query : Query M} {reply : Reply}
    (found : targetOf? address (query, reply) = some member) :
    query = .send address ∧ reply = .target (some member) := by
  unfold targetOf? at found
  split at found
  case h_1 other target same =>
    obtain ⟨rfl, rfl⟩ := Prod.mk.inj same
    by_cases addressed : other = address
    · rw [if_pos addressed] at found
      exact ⟨congrArg _ addressed, congrArg _ found⟩
    · rw [if_neg addressed] at found
      cases found
  case h_2 => cases found

def targetsOf (address : String) (told : List (Query M × Reply)) : List String :=
  told.filterMap (targetOf? address)

def firstManager (queries : List (Query M)) : Option M := queries.findSome? Query.manager?

/-- The members of each manager after these changes. -/
def grouping (nodes : M → List String) : List (Query M) → M → List String
  | [] => nodes
  | .regroup nodes :: queries => grouping nodes queries
  | _ :: queries => grouping nodes queries

def roll (nodes : M → List String) (queries : List (Query M)) : List String :=
  match firstManager queries with
  | some manager => grouping nodes queries manager
  | none => []

theorem firstManager_append (first second : List (Query M)) :
    firstManager (first ++ second) = (firstManager first).or (firstManager second) :=
  List.findSome?_append

theorem firstManager_none {queries : List (Query M)}
    (without : ∀ manager, .init manager ∉ queries) : firstManager queries = none := by
  refine List.findSome?_eq_none_iff.mpr fun query present => ?_
  cases query with
  | init manager => exact absurd present (without manager)
  | regroup nodes => rfl
  | send address => rfl
  | publish address => rfl

theorem firstManager_split {before later : List (Query M)} {manager : M}
    (without : ∀ other, .init other ∉ before) :
    firstManager (before ++ .init manager :: later) = some manager := by
  rw [firstManager_append, firstManager_none without]
  rfl

theorem grouping_append (nodes : M → List String) (first second : List (Query M)) :
    grouping nodes (first ++ second) = grouping (grouping nodes first) second := by
  induction first generalizing nodes with
  | nil => rfl
  | cons query first ih =>
      cases query with
      | regroup others => exact ih others
      | init manager => exact ih nodes
      | send address => exact ih nodes
      | publish address => exact ih nodes

/-! ### The selector follows its history -/

variable {nodes : M → List String} {past : List (Query M)} {routing : Routing M}

/-- How many messages of the address have found a member. -/
def served (nodes : M → List String) (past : List (Query M)) (address : String) : Nat :=
  (targetsOf address ((opened nodes).history past)).length

/-- The state of a selector, read off its history. -/
structure Recalls (nodes : M → List String) (past : List (Query M)) (routing : Routing M) :
    Prop where
  nodes_eq : routing.nodes = grouping nodes past
  manager_eq : routing.selector.manager = firstManager past
  cursor_eq : ∀ address,
    routing.selector.cursor address = UInt64.ofNat (served nodes past address)

theorem Recalls.members_eq (recalls : Recalls nodes past routing) :
    routing.selector.members routing.nodes = roll nodes past := by
  unfold RoundRobin.members
  rw [recalls.nodes_eq, recalls.manager_eq]
  rfl

/-- The position that the next message of the address goes to. -/
def turn (nodes : M → List String) (past : List (Query M)) (address : String) : Nat :=
  served nodes past address % UInt64.size % (roll nodes past).length

theorem Recalls.send_eq (recalls : Recalls nodes past routing) (address : String) :
    routing.selector.send routing.nodes address
      = match (roll nodes past)[turn nodes past address]? with
        | none => (none, routing.selector)
        | some chosen => (some chosen, routing.selector.setCursor address
            (UInt64.ofNat (served nodes past address + 1))) := by
  have word : (UInt64.ofNat (served nodes past address)).toNat
      = served nodes past address % UInt64.size := UInt64.toNat_ofNat'
  have next : UInt64.ofNat (served nodes past address) + 1
      = UInt64.ofNat (served nodes past address + 1) := (UInt64.ofNat_add _ 1).symm
  unfold RoundRobin.send
  simp only
  rw [recalls.members_eq, recalls.cursor_eq, word, next]
  rfl

theorem Recalls.answer_send (recalls : Recalls nodes past routing) (address : String) :
    (routing.answer (.send address)).1 = .target (roll nodes past)[turn nodes past address]? := by
  change Reply.target (routing.selector.send routing.nodes address).1 = _
  rw [recalls.send_eq]
  cases (roll nodes past)[turn nodes past address]? <;> rfl

theorem Recalls.answer_publish (recalls : Recalls nodes past routing) (address : String) :
    (routing.answer (.publish address)).1 = .targets (roll nodes past) :=
  congrArg Reply.targets recalls.members_eq

theorem served_snoc (nodes : M → List String) (past : List (Query M)) (query : Query M)
    (address : String) :
    served nodes (past ++ [query]) address = served nodes past address
      + (targetOf? address (query, (((opened nodes).after past).answer query).1)).toList.length := by
  unfold served targetsOf
  rw [history_append, List.filterMap_append, List.length_append]
  change _ + (List.filterMap (targetOf? address) [_]).length = _
  rw [List.filterMap_cons, List.filterMap_nil]
  cases targetOf? address (query, (((opened nodes).after past).answer query).1) <;> rfl

theorem recalls_step (query : Query M)
    (recalls : Recalls nodes past ((opened nodes).after past)) :
    Recalls nodes (past ++ [query]) ((opened nodes).after (past ++ [query])) := by
  have last : (opened nodes).after (past ++ [query])
      = (((opened nodes).after past).answer query).2 := after_append _ _ _
  have counted := served_snoc nodes past query
  have managed := firstManager_append past [query]
  have grouped := grouping_append nodes past [query]
  rw [last]
  cases query with
  | init manager =>
      refine ⟨recalls.nodes_eq.trans grouped.symm, ?_, fun address => ?_⟩
      · rw [managed, ← recalls.manager_eq]
        exact RoundRobin.manager_init _ manager
      · rw [counted]
        exact (RoundRobin.cursor_init _ manager address).trans (recalls.cursor_eq address)
  | regroup others =>
      refine ⟨grouped.symm, ?_, fun address => ?_⟩
      · rw [managed, ← recalls.manager_eq]
        exact (Option.or_none).symm
      · rw [counted]
        exact recalls.cursor_eq address
  | publish asked =>
      refine ⟨recalls.nodes_eq.trans grouped.symm, ?_, fun address => ?_⟩
      · rw [managed, ← recalls.manager_eq]
        exact (Option.or_none).symm
      · rw [counted]
        exact recalls.cursor_eq address
  | send asked =>
      have kept : firstManager (past ++ [.send asked]) = firstManager past :=
        managed.trans Option.or_none
      have told := recalls.answer_send asked
      have sent := recalls.send_eq asked
      change Recalls _ _ ⟨(((opened nodes).after past).selector.send
        ((opened nodes).after past).nodes asked).2, ((opened nodes).after past).nodes⟩
      -- Only a message that finds a member moves a cursor, and only the one of its own address.
      cases chosen : (roll nodes past)[turn nodes past asked]? with
      | none =>
          rw [chosen] at told sent
          rw [sent]
          refine ⟨recalls.nodes_eq.trans grouped.symm, recalls.manager_eq.trans kept.symm,
            fun address => ?_⟩
          have unanswered : targetOf? address ((.send asked : Query M), .target none) = none :=
            ite_self none
          rw [counted, told, unanswered]
          exact recalls.cursor_eq address
      | some member =>
          rw [chosen] at told sent
          rw [sent]
          refine ⟨recalls.nodes_eq.trans grouped.symm, recalls.manager_eq.trans kept.symm,
            fun address => ?_⟩
          rw [counted, told, RoundRobin.cursor_setCursor]
          by_cases same : address = asked
          · subst same
            rw [if_pos rfl, targetOf?_same]
            rfl
          · rw [if_neg same, targetOf?_other same]
            exact recalls.cursor_eq address

theorem recalls_after (nodes : M → List String) (past : List (Query M)) :
    Recalls nodes past ((opened nodes).after past) := by
  induction past using List.reverseRecOn with
  | nil => exact ⟨rfl, rfl, fun _ => rfl⟩
  | append_singleton past query recalls => exact recalls_step query recalls

variable {address : String} {members : List String}

/-- Each message of the address among these questions is sent to the same members. -/
def Steady (nodes : M → List String) (past window : List (Query M)) (address : String)
    (members : List String) : Prop :=
  ∀ before later, window = before ++ .send address :: later → roll nodes (past ++ before) = members

theorem Steady.init {window : List (Query M)} {query : Query M}
    (steady : Steady nodes past (window ++ [query]) address members) :
    Steady nodes past window address members := by
  intro before later same
  exact steady before (later ++ [query]) (by rw [same]; simp)

def reached (nodes : M → List String) (past window : List (Query M)) (address : String) :
    List String :=
  targetsOf address (((opened nodes).after past).history window)

theorem served_append (nodes : M → List String) (past window : List (Query M))
    (address : String) :
    served nodes (past ++ window) address
      = served nodes past address + (reached nodes past window address).length := by
  unfold served reached targetsOf
  rw [history_append, List.filterMap_append, List.length_append]

theorem reached_snoc (nodes : M → List String) (past window : List (Query M)) (query : Query M)
    (address : String) :
    reached nodes past (window ++ [query]) address
      = reached nodes past window address
        ++ (targetOf? address
            (query, (((opened nodes).after (past ++ window)).answer query).1)).toList := by
  unfold reached targetsOf
  rw [history_append, List.filterMap_append, after_append]
  congr 1

/-- Messages sent to the same members go round them, from where the cursor stands. -/
theorem reached_steady {window : List (Query M)}
    (steady : Steady nodes past window address members) :
    (reached nodes past window address).map some
      = (List.range (reached nodes past window address).length).map fun sent =>
          members[(served nodes past address + sent) % UInt64.size % members.length]? := by
  induction window using List.reverseRecOn with
  | nil => rfl
  | append_singleton window query ih =>
      have earlier := ih steady.init
      rw [reached_snoc]
      cases answered : targetOf? address
          (query, (((opened nodes).after (past ++ window)).answer query).1) with
      | none =>
          rw [Option.toList_none, List.append_nil]
          exact earlier
      | some member =>
          obtain ⟨rfl, told⟩ := targetOf?_eq_some answered
          -- The cursor has moved on by as many messages as this window has reached members with.
          have current : roll nodes (past ++ window) = members := steady window [] rfl
          have sent := (recalls_after nodes (past ++ window)).answer_send address
          have found : some member = members[(served nodes past address
              + (reached nodes past window address).length) % UInt64.size % members.length]? := by
            rw [told, turn, served_append, current] at sent
            exact Reply.target.inj sent
          rw [Option.toList_some, List.length_append, List.length_singleton, List.range_succ,
            List.map_append, List.map_append, List.map_singleton, List.map_singleton, ← found,
            earlier]

def positions (start count : Nat) : List Nat :=
  (List.range count).map fun sent => (start + sent) % count

theorem positions_perm (start count : Nat) :
    (positions start count).Perm (List.range count) := by
  have turned : positions start count = (List.range count).rotate start := by
    refine List.ext_getElem ?_ fun sent _ bound => ?_
    · rw [positions, List.length_map, List.length_rotate]
    · simp only [positions]
      rw [List.getElem_rotate, List.getElem_map, List.getElem_range, List.getElem_range,
        List.length_range, Nat.add_comm]
  rw [turned]
  exact List.rotate_perm _ _

/-! ### The answers after any history -/

/-- What a selector answers after these questions. -/
structure Rotates (nodes : M → List String) (past : List (Query M)) : Prop where
  unmanaged : (∀ manager, .init manager ∉ past) → ∀ address,
    (((opened nodes).after past).answer (.send address)).1 = .target none
      ∧ (((opened nodes).after past).answer (.publish address)).1 = .targets []
  -- The first manager's present members are all that is answered.
  managed : ∀ before first later members, past = before ++ .init first :: later →
    (∀ manager, .init manager ∉ before) → grouping nodes past first = members → ∀ address,
      (((opened nodes).after past).answer (.publish address)).1 = .targets members
        ∧ ((((opened nodes).after past).answer (.send address)).1 = .target none ↔ members = [])
        ∧ ∀ nonempty : 0 < members.length,
          (((opened nodes).after past).answer (.send address)).1
            = .target (some (members.get ⟨served nodes past address % UInt64.size % members.length,
                Nat.mod_lt _ nonempty⟩))
  consulted : ∀ before first later, past = before ++ .init first :: later →
    (∀ manager, .init manager ∉ before) → ∀ others : M → List String,
      others first = grouping nodes past first →
      ∀ query, (answer { (opened nodes).after past with nodes := others } query).1
          = (((opened nodes).after past).answer query).1
        ∧ (answer { (opened nodes).after past with nodes := others } query).2.selector
          = (((opened nodes).after past).answer query).2.selector
  -- As many messages as there are members reach each position once, unless the cursor wraps.
  round : ∀ window address members, Steady nodes past window address members →
    (reached nodes past window address).length = members.length →
    served nodes past address % UInt64.size + members.length ≤ UInt64.size →
    (positions (served nodes past address % UInt64.size) members.length).Perm
        (List.range members.length)
      ∧ (reached nodes past window address).map some
        = (positions (served nodes past address % UInt64.size) members.length).map (members[·]?)

theorem selector_rotates (nodes : M → List String) (past : List (Query M)) :
    Rotates nodes past := by
  have recalls := recalls_after nodes past
  have first_of : ∀ {before first later}, past = before ++ .init first :: later →
      (∀ manager, .init manager ∉ before) → roll nodes past = grouping nodes past first := by
    intro before first later same without
    have found : firstManager past = some first := same ▸ firstManager_split without
    rw [roll, found]
  constructor
  case unmanaged =>
    intro without address
    have empty : roll nodes past = [] := by
      rw [roll, firstManager_none without]
    refine ⟨?_, ?_⟩
    · rw [recalls.answer_send, empty]
      rfl
    · rw [recalls.answer_publish, empty]
  case managed =>
    intro before first later members same without current address
    have known : roll nodes past = members := (first_of same without).trans current
    rw [recalls.answer_publish, recalls.answer_send, turn, known]
    refine ⟨rfl, ⟨fun nothing => ?_, ?_⟩, fun nonempty => ?_⟩
    · have beyond := List.getElem?_eq_none_iff.mp (Reply.target.inj nothing)
      by_contra some
      exact absurd (Nat.mod_lt _ (List.length_pos_iff.mpr some)) (Nat.not_lt.mpr beyond)
    · rintro rfl
      rfl
    · exact congrArg _ (List.getElem?_eq_getElem (Nat.mod_lt _ nonempty))
  case consulted =>
    intro before first later same without others agree query
    have known := (first_of same without).symm.trans recalls.members_eq.symm
    have agreed : ((opened nodes).after past).selector.members others
        = ((opened nodes).after past).selector.members ((opened nodes).after past).nodes := by
      rw [← known, ← agree, RoundRobin.members, recalls.manager_eq, same,
        firstManager_split without]
    cases query with
    | init manager => exact ⟨rfl, rfl⟩
    | regroup nodes => exact ⟨rfl, rfl⟩
    | publish address => exact ⟨congrArg Reply.targets agreed, rfl⟩
    | send address =>
        have sent := RoundRobin.send_congr agreed address
        exact ⟨congrArg Reply.target (congrArg Prod.fst sent), congrArg Prod.snd sent⟩
  case round =>
    intro window address members steady all unwrapped
    refine ⟨positions_perm _ _, ?_⟩
    rw [reached_steady steady, all, positions, List.map_map]
    refine List.map_congr_left fun sent present => ?_
    have below := List.mem_range.mp present
    have ahead : (served nodes past address + sent) % UInt64.size
        = served nodes past address % UInt64.size + sent := by
      rw [← Nat.mod_add_mod]
      apply Nat.mod_eq_of_lt
      omega
    rw [ahead]
    rfl

/-- Members that come and go do not disturb a cursor, nor does another address. -/
example :
    let told := (opened fun _ : Unit => ["n1", "n2", "n3"]).history
      [.init (), .send "orders", .send "billing", .regroup fun _ => [], .send "orders",
        .regroup fun _ => ["n1", "n2"], .send "orders", .send "orders"]
    targetsOf "orders" told = ["n1", "n2", "n1"] ∧ targetsOf "billing" told = ["n1"] := by
  decide

end Routing

end Reactor
