import Reactor.FileTree

/-!
What a file tree answers about the places of a path, and what a removal leaves of them. Where a
path leads depends on its components alone; the tree only says whether it leads there. A removal
changes no answer about a path that stays clear of the removed directory.
-/

namespace Reactor.FileTree

open Reactor.Path

/-- The place that components lead to, in any tree in which they lead somewhere. -/
def target (place : Place) : List Component → Place
  | [] => place
  | .root :: rest => target [] rest
  | .current :: rest => target place rest
  | .parent :: rest => target place.dropLast rest
  | .name text :: rest => target (place ++ [text]) rest

/-- The places that have to be directories for components to lead anywhere. -/
def passed (place : Place) : List Component → List Place
  | [] => []
  | .root :: rest => passed [] rest
  | .current :: rest => place :: passed place rest
  | .parent :: rest => place :: passed place.dropLast rest
  | .name text :: rest => place :: passed (place ++ [text]) rest

theorem target_append (place : Place) (front back : List Component) :
    target place (front ++ back) = target (target place front) back := by
  induction front generalizing place with
  | nil => rfl
  | cons component rest ih => cases component <;> exact ih _

theorem passed_append (place : Place) (front back : List Component) :
    passed place (front ++ back) = passed place front ++ passed (target place front) back := by
  induction front generalizing place with
  | nil => rfl
  | cons component rest ih => cases component <;> simp [passed, target, ih]

theorem start_mem_passed {place : Place} {component : Component} {rest : List Component}
    (relative : component ≠ .root) : place ∈ passed place (component :: rest) := by
  cases component with
  | root => contradiction
  | current | parent | name text => exact List.mem_cons_self

variable {tree other : FileTree} {place gone : Place}

theorem walk_append (place : Place) (front back : List Component) :
    tree.walk place (front ++ back)
      = tree.walk place front >>= fun reached => tree.walk reached back := by
  induction front generalizing place with
  | nil => rfl
  | cons component rest ih =>
      cases component with
      | root => exact ih []
      | current => simp [walk, ih]
      | parent => simp [walk, ih]
      | name text =>
          by_cases long : 255 < text.utf8ByteSize
          · simp [walk, long]
            rfl
          · simp [walk, long, ih]

theorem bind_requireDirectory_eq_ok {R : Type} {next : Unit → Except FileFault R} {result : R} :
    (tree.requireDirectory place >>= next) = .ok result
      ↔ tree.node? place = some .directory ∧ next () = .ok result := by
  unfold requireDirectory
  cases tree.node? place with
  | none => exact ⟨nofun, nofun⟩
  | some node =>
      cases node with
      | directory => simp [bind, Except.bind]
      | file content => exact ⟨nofun, nofun⟩

theorem requireDirectory_congr (same : other.node? place = tree.node? place) :
    other.requireDirectory place = tree.requireDirectory place := by
  unfold requireDirectory
  rw [same]

theorem walk_congr {components : List Component}
    (same : ∀ step ∈ passed place components, other.node? step = tree.node? step) :
    other.walk place components = tree.walk place components := by
  induction components generalizing place with
  | nil => rfl
  | cons component rest ih =>
      cases component with
      | root => exact ih same
      | current | parent | name text =>
          obtain ⟨here, later⟩ := List.forall_mem_cons.mp same
          simp [walk, requireDirectory_congr here, ih later]

theorem walk_eq_ok {components : List Component} {reached : Place}
    (leads : tree.walk place components = .ok reached) :
    reached = target place components
      ∧ ∀ step ∈ passed place components, tree.node? step = some .directory := by
  induction components generalizing place with
  | nil =>
      cases leads
      exact ⟨rfl, nofun⟩
  | cons component rest ih =>
      cases component with
      | root => exact ih leads
      | current | parent =>
          obtain ⟨here, later⟩ := bind_requireDirectory_eq_ok.mp leads
          obtain ⟨ends, steps⟩ := ih later
          exact ⟨ends, List.forall_mem_cons.mpr ⟨here, steps⟩⟩
      | name text =>
          obtain ⟨here, later⟩ := bind_requireDirectory_eq_ok.mp leads
          split at later
          · cases later
          · obtain ⟨ends, steps⟩ := ih later
            exact ⟨ends, List.forall_mem_cons.mpr ⟨here, steps⟩⟩

/-- The place that a path leads to, seen from a working directory. -/
def placeOf (working : Place) (path : String) : Place := target working (components path)

theorem locate_front {working reached : Place} {path long : String} {rest : List Char}
    (named : path ≠ "") (longer : long.toList = path.toList ++ rest)
    (leads : tree.locate working long = .ok reached) :
    tree.locate working path = tree.walk working (components path) := by
  have text : long = path ++ String.ofList rest := by
    rw [← String.toList_inj, String.toList_append, String.toList_ofList, longer]
  unfold locate at leads ⊢
  split at leads
  · cases leads
  · next plain =>
      split at leads
      · cases leads
      · split at leads
        · cases leads
        · next short =>
            have plainFront : '\x00' ∉ path.toList := by
              simp [longer] at plain
              exact plain.1
            have shortFront : ¬ 4095 < path.utf8ByteSize := by
              rw [text, String.utf8ByteSize_append] at short
              omega
            have inhabited : path.isEmpty = false := by simpa using named
            simp [plainFront, inhabited, shortFront]

theorem locate_eq_ok {working : Place} {path : String} {reached : Place}
    (leads : tree.locate working path = .ok reached) :
    tree.walk working (components path) = .ok reached := by
  unfold locate at leads
  split at leads
  · cases leads
  · split at leads
    · cases leads
    · split at leads
      · cases leads
      · exact leads

theorem find_eq_ok {working : Place} {path : String} {reached : Place} {node : Node}
    (found : tree.find working path = .ok (reached, node)) :
    tree.locate working path = .ok reached ∧ tree.node? reached = some node := by
  unfold find at found
  cases leads : tree.locate working path with
  | error fault =>
      rw [leads] at found
      cases found
  | ok reached' =>
      rw [leads] at found
      simp only [bind, Except.bind] at found
      split at found
      · cases found
      · next entry =>
          cases found
          exact ⟨rfl, entry⟩
      · next content entry =>
          split at found
          · cases found
          · cases found
            exact ⟨rfl, entry⟩

theorem find_place {working : Place} {path : String} {reached : Place} {node : Node}
    (found : tree.find working path = .ok (reached, node)) : reached = placeOf working path :=
  (walk_eq_ok (locate_eq_ok (find_eq_ok found).1)).1

/-- A path leads through and to places that are neither at nor below `gone`. -/
def Avoids (gone working : Place) (path : String) : Prop :=
  (∀ step ∈ passed working (components path), ¬ gone <+: step)
    ∧ ¬ gone <+: placeOf working path

theorem find_congr {working : Place} {path : String}
    (steps : ∀ step ∈ passed working (components path), other.node? step = tree.node? step)
    (ends : other.node? (placeOf working path) = tree.node? (placeOf working path)) :
    other.find working path = tree.find working path := by
  have leads : other.locate working path = tree.locate working path := by
    unfold locate
    rw [walk_congr steps]
  unfold find
  rw [leads]
  cases located : tree.locate working path with
  | error fault => rfl
  | ok reached =>
      have same : reached = placeOf working path := (walk_eq_ok (locate_eq_ok located)).1
      simp only [bind, Except.bind]
      rw [same, ends]

theorem hasPath_eq_true {working : Place} {path : String} :
    tree.hasPath working path = true ↔ ∃ node, tree.find working path
      = .ok (placeOf working path, node) := by
  unfold hasPath
  cases found : tree.find working path with
  | error fault => exact ⟨nofun, nofun⟩
  | ok entry =>
      obtain ⟨reached, node⟩ := entry
      constructor
      · intro _
        exact ⟨node, by rw [find_place found]⟩
      · intro _
        rfl

theorem hasPath_of_node?_eq_none {working : Place} {path : String}
    (missing : tree.node? (placeOf working path) = none) : tree.hasPath working path = false := by
  rw [Bool.eq_false_iff]
  intro has
  obtain ⟨node, found⟩ := hasPath_eq_true.mp has
  have entry := (find_eq_ok found).2
  rw [missing] at entry
  cases entry

/-! ### What an entry is after a change -/

theorem lookup_filter (keep : Place → Bool) (entries : List (Place × Node))
    (place : Place) :
    (entries.filter fun (other, _) => keep other).lookup place
      = if keep place then entries.lookup place else none := by
  induction entries with
  | nil => simp
  | cons entry rest ih =>
      obtain ⟨name, node⟩ := entry
      by_cases same : place = name
      · subst same
        cases kept : keep place <;> simp [kept, ih]
      · have apart : (place == name) = false := beq_false_of_ne same
        cases kept : keep name <;> simp [kept, List.lookup_cons, apart, ih]

theorem node?_put (named : place ≠ []) (filled : Place) (node : Node) :
    (tree.put filled node).node? place
      = if place = filled then some node else tree.node? place := by
  unfold put node?
  rw [if_neg named, if_neg named, List.lookup_cons,
    lookup_filter fun other => other != filled]
  by_cases same : place = filled
  · simp [same]
  · have apart : (place == filled) = false := beq_false_of_ne same
    simp [same, apart]

theorem node?_prune (named : place ≠ []) :
    (tree.prune gone).node? place = if gone <+: place then none else tree.node? place := by
  unfold prune node?
  rw [if_neg named, if_neg named, lookup_filter fun other => !gone.isPrefixOf other]
  by_cases below : gone <+: place
  · simp [List.isPrefixOf_iff_prefix.mpr below, below]
  · have apart := Bool.eq_false_iff.mpr (mt List.isPrefixOf_iff_prefix.mp below)
    simp [apart, below]

theorem node?_clear :
    (tree.clear gone).node? place
      = if gone <+: place ∧ place ≠ gone then none else tree.node? place := by
  unfold clear node?
  by_cases top : place = []
  · subst top
    have kept : ¬(gone <+: [] ∧ [] ≠ gone) := fun below =>
      below.2 (List.prefix_nil.mp below.1).symm
    rw [if_neg kept]
    rfl
  · rw [if_neg top, if_neg top,
      lookup_filter fun other => other == gone || !gone.isPrefixOf other]
    by_cases same : place = gone
    · simp [same]
    · by_cases below : gone <+: place
      · simp [List.isPrefixOf_iff_prefix.mpr below, below, same]
      · have apart := Bool.eq_false_iff.mpr (mt List.isPrefixOf_iff_prefix.mp below)
        simp [apart, below]

/-- How a tree is left when the directory of a path has been removed from it. -/
structure Removed (working : Place) (path : String) (before after : FileTree) : Prop where
  outside : ∀ place, ¬ placeOf working path <+: place → after.node? place = before.node? place
  below : ∀ place, placeOf working path <+: place → place ≠ placeOf working path →
    after.node? place = none
  missing : after.hasPath working path = false
  whole : (∀ step ∈ passed working (components path), placeOf working path <+: step →
    step = placeOf working path) → after.node? (placeOf working path) = none

theorem removeDirectory_eq {working : Place} {path : String}
    (found : tree.find working path = .ok (placeOf working path, .directory))
    (named : placeOf working path ≠ []) :
    ∃ left, tree.removeDirectory working path = .ok left ∧ Removed working path tree left := by
  let gone := placeOf working path
  unfold removeDirectory
  rw [found]
  simp only [bind, Except.bind]
  by_cases stays : (tree.clear gone).hasPath working path = true
  · refine ⟨(tree.clear gone).prune gone, if_pos stays, ?_, ?_, ?_, ?_⟩
    · intro place outside
      by_cases top : place = []
      · simp [node?, top]
      · rw [node?_prune top, if_neg outside, node?_clear, if_neg fun inside => outside inside.1]
    · intro place inside apart
      have top : place ≠ [] := fun top => named (List.prefix_nil.mp (top ▸ inside))
      rw [node?_prune top, if_pos inside]
    · apply hasPath_of_node?_eq_none
      rw [node?_prune named, if_pos (List.prefix_refl _)]
    · intro _
      rw [node?_prune named, if_pos (List.prefix_refl _)]
  · refine ⟨tree.clear gone, if_neg stays, ?_, ?_, Bool.eq_false_iff.mpr stays, ?_⟩
    · intro place outside
      rw [node?_clear, if_neg fun inside => outside inside.1]
    · intro place inside apart
      rw [node?_clear, if_pos ⟨inside, apart⟩]
    · intro through
      -- nothing on the way has gone, so that the emptied directory is found after all
      have same : (tree.clear gone).find working path = tree.find working path := by
        apply find_congr
        · intro step passes
          rw [node?_clear, if_neg fun inside => inside.2 (through step passes inside.1)]
        · rw [node?_clear, if_neg fun inside => inside.2 rfl]
      exact absurd (hasPath_eq_true.mpr ⟨_, same.trans found⟩) stays

end Reactor.FileTree
