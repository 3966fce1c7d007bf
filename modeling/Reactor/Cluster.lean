/-!
Clustering: the cluster manager, which joins and leaves, and the choice of the member that a
message goes to. The built-in choice is round-robin over the current members, with one cursor
for each address; only the first manager handed to it counts.
-/

namespace Reactor

/-- A cluster manager. Joining and leaving wait for some polls and then succeed or fail. -/
structure ClusterManager where
  name : String
  nodes : List String
  joinPolls : Nat
  joinFailure : Option String
  leavePolls : Nat
  leaveFailure : Option String
deriving DecidableEq, Inhabited

def ClusterManager.nodeId (manager : ClusterManager) : String := manager.nodes.headD ""

/-- Round-robin cursors by address, over the members of the first manager of type `M`. -/
structure RoundRobin (M : Type) where
  manager : Option M
  cursors : List (String × UInt64)
deriving Inhabited

namespace RoundRobin

variable {M : Type}

def fresh : RoundRobin M := ⟨none, []⟩

/-- Hands over a manager; only the first one is kept. -/
def init (selector : RoundRobin M) (manager : M) : RoundRobin M :=
  match selector.manager with
  | some _ => selector
  | none => { selector with manager := some manager }

def members (selector : RoundRobin M) (nodes : M → List String) : List String :=
  match selector.manager with
  | some manager => nodes manager
  | none => []

def cursor (selector : RoundRobin M) (address : String) : UInt64 :=
  (selector.cursors.lookup address).getD 0

def setCursor (selector : RoundRobin M) (address : String) (cursor : UInt64) : RoundRobin M :=
  { selector with
    cursors := (address, cursor) :: selector.cursors.filter (·.1 != address) }

theorem cursor_setCursor (selector : RoundRobin M) (address other : String) (cursor : UInt64) :
    (selector.setCursor address cursor).cursor other
      = if other = address then cursor else selector.cursor other := by
  unfold RoundRobin.cursor setCursor
  rw [List.lookup_cons]
  by_cases same : other = address
  · simp [same]
  · have different : (other == address) = false := beq_eq_false_iff_ne.mpr same
    rw [different, if_neg same]
    change ((selector.cursors.filter (·.1 != address)).lookup other).getD 0 = _
    congr 1
    induction selector.cursors with
    | nil => rfl
    | cons first rest ih =>
        obtain ⟨head, kept⟩ := first
        by_cases replaced : head = address
        · subst head
          rw [List.filter_cons_of_neg (by simp), List.lookup_cons, different, ih]
        · rw [List.filter_cons_of_pos (by simpa using replaced), List.lookup_cons,
            List.lookup_cons, ih]

/-- The member at the cursor of the address, which then moves on; none without members. -/
def send (selector : RoundRobin M) (nodes : M → List String) (address : String) :
    Option String × RoundRobin M :=
  let members := selector.members nodes
  let cursor := selector.cursor address
  match members[cursor.toNat % members.length]? with
  | none => (none, selector)
  | some chosen => (some chosen, selector.setCursor address (cursor + 1))

def publish (selector : RoundRobin M) (nodes : M → List String) : List String :=
  selector.members nodes

end RoundRobin

inductive NodeSelector where
  | roundRobin
  | fixed (name : String) (targets : List String)
deriving DecidableEq, Inhabited

def roundRobinName : String := "default"

def NodeSelector.name : NodeSelector → String
  | .roundRobin => roundRobinName
  | .fixed name _ => name

end Reactor
