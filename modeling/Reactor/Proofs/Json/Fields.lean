import Mathlib.Data.List.Nodup
import Reactor.Proofs.Json.RecordTrees

/-!
Records field by field. Once every name is spelled and none that is known stands twice, a record is
what its fields make of the trees that they are given, whatever stands in between. An array gives
its items to the first fields.
-/

namespace Reactor.Json

def namesAmong (names : List String) (members : List (Literal × Tree)) : List String :=
  (members.filterMap (text? ·.1)).filter (names.contains ·)

structure Distinct (names : List String) (members : List (Literal × Tree)) : Prop where
  spelled : ∀ member ∈ members, (text? member.1).isSome
  once : (namesAmong names members).Nodup

instance (names : List String) (members : List (Literal × Tree)) :
    Decidable (Distinct names members) :=
  decidable_of_iff ((∀ member ∈ members, (text? member.1).isSome) ∧ (namesAmong names members).Nodup)
    ⟨fun ⟨spelled, once⟩ => ⟨spelled, once⟩, fun ⟨spelled, once⟩ => ⟨spelled, once⟩⟩

def memberTree? (members : List (Literal × Tree)) (name : String) : Option Tree :=
  (members.find? fun member => text? member.1 == some name).map (·.2)

def itemTree? (names : List String) (items : List Tree) (name : String) : Option Tree :=
  (names.zip items).lookup name

/-- What a record gives to the fields of these names, where it is one. -/
def Tree.fields? (names : List String) : Tree → Option (String → Option Tree)
  | .object members => if Distinct names members then some (memberTree? members) else none
  | .list items => if items.length ≤ names.length then some (itemTree? names items) else none
  | _ => none

/-- The record has the part for its field of that name: under the name, or in the field's place. -/
inductive Tree.Gives : Tree → List String → String → Tree → Prop where
  | member {members : List (Literal × Tree)} {literal : Literal} {names : List String}
      {name : String} {part : Tree} : (literal, part) ∈ members →
        Json.text? literal = some name → Tree.Gives (.object members) names name part
  | item {items : List Tree} {index : Nat} {names : List String} {name : String} {part : Tree} :
      names[index]? = some name → items[index]? = some part →
        Tree.Gives (.list items) names name part

/-- A part that is an object names no field twice, one that is an array has no more items than there
are fields, and null stands only where it may. -/
structure Regular (names nullable : List String) (part : Tree) : Prop where
  once : ∀ members, part = .object members → Distinct names members
  fits : ∀ items, part = .list items → items.length ≤ names.length
  present : ∀ name ∈ names, part.Gives names name .null → name ∈ nullable

section

variable {names : List String} {members others : List (Literal × Tree)} {literal : Literal}
  {tree : Tree} {name : String}

theorem memberTree?_cons (spelled : text? literal = some name) (wanted : String) :
    memberTree? ((literal, tree) :: members) wanted
      = if name = wanted then some tree else memberTree? members wanted := by
  unfold memberTree?
  rw [List.find?_cons]
  by_cases same : name = wanted
  · simp [spelled, same]
  · have apart : (name == wanted) = false := beq_false_of_ne same
    simp [spelled, same, apart]

theorem namesAmong_cons (spelled : text? literal = some name) :
    namesAmong names ((literal, tree) :: members)
      = if name ∈ names then name :: namesAmong names members else namesAmong names members := by
  unfold namesAmong
  by_cases listed : name ∈ names <;> simp [spelled, listed]

theorem distinct_cons (spelled : text? literal = some name) :
    Distinct names ((literal, tree) :: members)
      ↔ Distinct names members ∧ (name ∈ names → name ∉ namesAmong names members) := by
  have split := @namesAmong_cons names members literal tree name spelled
  constructor
  · rintro ⟨all, once⟩
    rw [split] at once
    by_cases listed : name ∈ names
    · rw [if_pos listed, List.nodup_cons] at once
      exact ⟨⟨fun member later => all member (List.mem_cons_of_mem _ later), once.2⟩,
        fun _ => once.1⟩
    · rw [if_neg listed] at once
      exact ⟨⟨fun member later => all member (List.mem_cons_of_mem _ later), once⟩,
        fun also => absurd also listed⟩
  · rintro ⟨⟨all, once⟩, fresh⟩
    constructor
    · apply List.forall_mem_cons.mpr ⟨by simp [spelled], all⟩
    · rw [split]
      by_cases listed : name ∈ names
      · rw [if_pos listed]
        exact List.nodup_cons.mpr ⟨fresh listed, once⟩
      · rw [if_neg listed]
        exact once

/-- Beyond that, none of the names stands among those that have been seen. -/
structure Fresh (names seen : List String) (members : List (Literal × Tree)) : Prop extends
    Distinct names members where
  unseen : ∀ name ∈ namesAmong names members, name ∉ seen

theorem fresh_nil : Fresh names [] members ↔ Distinct names members :=
  ⟨fun fresh => fresh.toDistinct, fun distinct => ⟨distinct, nofun⟩⟩

theorem fresh_cons_listed {seen : List String} (spelled : text? literal = some name)
    (listed : name ∈ names) :
    Fresh names seen ((literal, tree) :: members)
      ↔ name ∉ seen ∧ Fresh names (name :: seen) members := by
  have split := @namesAmong_cons names members literal tree name spelled
  rw [if_pos listed] at split
  constructor
  · rintro ⟨distinct, unseen⟩
    obtain ⟨distinct, apart⟩ := (distinct_cons spelled).mp distinct
    rw [split] at unseen
    refine ⟨unseen name List.mem_cons_self, distinct, ?_⟩
    intro later present again
    rcases List.mem_cons.mp again with rfl | early
    · exact apart listed present
    · exact unseen later (List.mem_cons_of_mem _ present) early
  · rintro ⟨new, distinct, unseen⟩
    constructor
    · apply (distinct_cons spelled).mpr ⟨distinct, fun _ present => ?_⟩
      exact unseen name present List.mem_cons_self
    · rw [split]
      intro later present early
      rcases List.mem_cons.mp present with rfl | behind
      · exact new early
      · exact unseen later behind (List.mem_cons_of_mem _ early)

theorem fresh_cons_strange {seen : List String} (spelled : text? literal = some name)
    (strange : name ∉ names) :
    Fresh names seen ((literal, tree) :: members) ↔ Fresh names seen members := by
  have split := @namesAmong_cons names members literal tree name spelled
  rw [if_neg strange] at split
  constructor
  · rintro ⟨distinct, unseen⟩
    rw [split] at unseen
    exact ⟨((distinct_cons spelled).mp distinct).1, unseen⟩
  · rintro ⟨distinct, unseen⟩
    constructor
    · exact (distinct_cons spelled).mpr ⟨distinct, fun listed => absurd listed strange⟩
    · rw [split]
      exact unseen

theorem memberTree?_eq_some (distinct : Distinct names members) (present : (literal, tree) ∈ members)
    (spelled : text? literal = some name) (listed : name ∈ names) :
    memberTree? members name = some tree := by
  induction members with
  | nil => cases present
  | cons member members ih =>
      rcases List.mem_cons.mp present with rfl | later
      · rw [memberTree?_cons spelled, if_pos rfl]
      · obtain ⟨first, known⟩ := Option.isSome_iff_exists.mp
          (distinct.spelled member List.mem_cons_self)
        obtain ⟨others, apart⟩ := (distinct_cons known).mp distinct
        have unlike : first ≠ name := by
          rintro rfl
          apply apart listed
          unfold namesAmong
          rw [List.mem_filter, List.mem_filterMap]
          exact ⟨⟨_, later, spelled⟩, by simpa using listed⟩
        rw [memberTree?_cons known, if_neg unlike]
        exact ih others later

theorem memberTree?_eq_none (absent : name ∉ namesAmong names members) (listed : name ∈ names) :
    memberTree? members name = none := by
  unfold memberTree?
  rw [Option.map_eq_none_iff, List.find?_eq_none]
  intro member present same
  apply absent
  unfold namesAmong
  rw [List.mem_filter, List.mem_filterMap]
  exact ⟨⟨member, present, by simpa using same⟩, by simpa using listed⟩

end

/-! ### The fields in their order -/

section

variable {σ : Type} {known : List (Known σ)}

abbrev namesOf (known : List (Known σ)) : List String := known.map (·.field.name)

/-- Each field takes what it is given, in the order of the fields. -/
def assemble (known : List (Known σ)) (given : String → Option Tree) (record : σ) : Option σ :=
  match known with
  | [] => some record
  | field :: known =>
    match given field.field.name with
    | none => assemble known given record
    | some tree => (field.take tree).bind fun change => assemble known given (change record)

def Known.Commutes (field other : Known σ) : Prop :=
  ∀ tree second change next, field.take tree = some change → other.take second = some next →
    ∀ record, next (change record) = change (next record)

/-- Fields of different names, of which none sets what another has set. -/
def Separate (known : List (Known σ)) : Prop :=
  known.Pairwise fun field other => field.field.name ≠ other.field.name ∧ field.Commutes other

theorem separate_iff :
    Separate known ↔ (namesOf known).Nodup ∧ known.Pairwise Known.Commutes := by
  rw [namesOf, List.nodup_iff_pairwise_ne, List.pairwise_map]
  exact List.pairwise_and_iff

theorem assemble_congr {given other : String → Option Tree} (record : σ)
    (same : ∀ name ∈ namesOf known, given name = other name) :
    assemble known given record = assemble known other record := by
  induction known generalizing record with
  | nil => rfl
  | cons field known ih =>
      have first := same field.field.name (by simp)
      have later : ∀ name ∈ namesOf known, given name = other name := fun name present =>
        same name (List.mem_cons_of_mem _ present)
      rw [assemble, assemble, first]
      cases other field.field.name with
      | none => exact ih record later
      | some tree =>
          dsimp only
          congr 1
          funext change
          exact ih _ later

/-- A field may take its tree before all others do. -/
theorem assemble_first (separate : Separate known) {field : Known σ} (listed : field ∈ known)
    {given other : String → Option Tree} {tree : Tree} (record : σ)
    (here : given field.field.name = some tree) (gone : other field.field.name = none)
    (same : ∀ name, name ≠ field.field.name → given name = other name) :
    assemble known given record
      = (field.take tree).bind fun change => assemble known other (change record) := by
  induction known generalizing record with
  | nil => cases listed
  | cons head known ih =>
      obtain ⟨apart, separate⟩ := List.pairwise_cons.mp separate
      rcases List.mem_cons.mp listed with rfl | later
      · have unnamed : ∀ name ∈ namesOf known, given name = other name := by
          intro name present
          obtain ⟨second, member, rfl⟩ := List.mem_map.mp present
          exact same _ (apart second member).1.symm
        simp only [assemble, here, gone]
        congr 1
        funext change
        exact assemble_congr _ unnamed
      · obtain ⟨unlike, commutes⟩ := apart field later
        have first := same _ unlike
        simp only [assemble, first]
        cases other head.field.name with
        | none => exact ih separate later record
        | some second =>
            dsimp only
            cases taken : head.take second with
            | none => cases field.take tree <;> rfl
            | some next =>
                rw [Option.bind_some, ih separate later]
                cases found : field.take tree with
                | none => rfl
                | some change =>
                    simp only [Option.bind_some]
                    rw [commutes second tree next change taken found]

theorem enter_listed {field : Known σ} {seen : List String} {record : σ} {literal : Literal}
    {tree : Tree} {name : String} (spelled : text? literal = some name)
    (found : known.find? (·.field.name == name) = some field) (new : name ∉ seen) :
    enter known (seen, record) (literal, tree)
      = (field.take tree).map fun change => (name :: seen, change record) := by
  simp [enter, spelled, found, new]

theorem assemble_cons_some {given : String → Option Tree} {field : Known σ} {tree : Tree}
    (here : given field.field.name = some tree) (record : σ) :
    assemble (field :: known) given record
      = (field.take tree).bind fun change => assemble known given (change record) := by
  rw [assemble, here]

theorem assemble_none {given : String → Option Tree} (record : σ)
    (bare : ∀ name, given name = none) : assemble known given record = some record := by
  induction known with
  | nil => rfl
  | cons field known ih => rw [assemble, bare, ih]

theorem entered_eq (separate : Separate known) (seen : List String) (record : σ)
    (members : List (Literal × Tree)) :
    (Fresh (namesOf known) seen members →
        (members.foldlM (enter known) (seen, record)).map (·.2)
          = assemble known (memberTree? members) record)
      ∧ (¬ Fresh (namesOf known) seen members →
        (members.foldlM (enter known) (seen, record)).map (·.2) = none) := by
  -- A member of a known name can be entered before all fields take theirs, as none of the
  -- others has that name.
  induction members generalizing seen record with
  | nil =>
      constructor
      · intro _
        exact (assemble_none record fun _ => rfl).symm
      · intro stale
        exact absurd ⟨⟨nofun, by simp [namesAmong]⟩, by simp [namesAmong]⟩ stale
  | cons member members ih =>
      obtain ⟨literal, tree⟩ := member
      rw [List.foldlM_cons, Option.bind_eq_bind]
      cases spelled : text? literal with
      | none =>
          constructor
          · intro fresh
            have text := fresh.spelled _ List.mem_cons_self
            simp [spelled] at text
          · intro _
            simp [enter, spelled]
      | some name =>
          cases found : known.find? (·.field.name == name) with
          | none =>
              have strange : name ∉ namesOf known := by
                rw [List.find?_eq_none] at found
                intro listed
                obtain ⟨field, present, same⟩ := List.mem_map.mp listed
                exact found field present (by simpa using same)
              have passes : enter known (seen, record) (literal, tree) = some (seen, record) := by
                simp [enter, spelled, found]
              have unaltered : assemble known (memberTree? ((literal, tree) :: members)) record
                  = assemble known (memberTree? members) record := by
                apply assemble_congr
                intro wanted listed
                have unlike : name ≠ wanted := by
                  rintro rfl
                  exact strange listed
                rw [memberTree?_cons spelled, if_neg unlike]
              rw [passes, Option.bind_some, fresh_cons_strange spelled strange, unaltered]
              exact ih seen record
          | some field =>
              have present := List.mem_of_find?_eq_some found
              have named : field.field.name = name := by
                simpa using List.find?_some found
              have listed : name ∈ namesOf known := List.mem_map.mpr ⟨field, present, named⟩
              rw [fresh_cons_listed spelled listed]
              constructor
              · rintro ⟨new, fresh⟩
                have gone : name ∉ namesAmong (namesOf known) members := fun again =>
                  fresh.unseen name again List.mem_cons_self
                have here : memberTree? ((literal, tree) :: members) field.field.name
                    = some tree := by
                  rw [memberTree?_cons spelled, if_pos named.symm]
                have later : memberTree? members field.field.name = none := by
                  rw [named]
                  exact memberTree?_eq_none gone listed
                have elsewhere : ∀ other, other ≠ field.field.name →
                    memberTree? ((literal, tree) :: members) other
                      = memberTree? members other := by
                  intro other apart
                  rw [memberTree?_cons spelled, if_neg (named ▸ apart.symm)]
                rw [enter_listed spelled found new,
                  assemble_first separate present record here later elsewhere]
                cases field.take tree with
                | none => rfl
                | some change => exact (ih _ _).1 fresh
              · intro stale
                by_cases old : name ∈ seen
                · simp [enter, spelled, found, old]
                · rw [enter_listed spelled found old]
                  cases field.take tree with
                  | none => rfl
                  | some change => exact (ih _ _).2 fun fresh => stale ⟨old, fresh⟩

theorem itemTree?_cons (name wanted : String) (names : List String) (tree : Tree)
    (trees : List Tree) :
    itemTree? (name :: names) (tree :: trees) wanted
      = if wanted = name then some tree else itemTree? names trees wanted := by
  unfold itemTree?
  rw [List.zip_cons_cons, List.lookup_cons]
  by_cases same : wanted = name
  · simp [same]
  · have apart : (wanted == name) = false := beq_false_of_ne same
    simp [same, apart]

theorem itemTree?_eq_some {names : List String} (unlike : names.Nodup) {items : List Tree}
    {index : Nat} {name : String} {part : Tree} (named : names[index]? = some name)
    (placed : items[index]? = some part) : itemTree? names items name = some part := by
  induction items generalizing names index with
  | nil => cases placed
  | cons item items ih =>
      cases names with
      | nil => cases named
      | cons first names =>
          obtain ⟨fresh, unlike⟩ := List.nodup_cons.mp unlike
          cases index with
          | zero =>
              cases named
              cases placed
              rw [itemTree?_cons, if_pos rfl]
          | succ index =>
              have apart : name ≠ first := by
                rintro rfl
                exact fresh (List.mem_of_getElem? named)
              rw [itemTree?_cons, if_neg apart]
              exact ih unlike named placed

theorem Tree.Gives.given {tree part : Tree} {names : List String} {name : String}
    {given : String → Option Tree} (gives : tree.Gives names name part) (unlike : names.Nodup)
    (listed : name ∈ names) (fields : tree.fields? names = some given) : given name = some part := by
  cases gives with
  | member present spelled =>
      obtain ⟨distinct, same⟩ := Option.ite_none_right_eq_some.mp fields
      cases same
      exact memberTree?_eq_some distinct present spelled listed
  | item named placed =>
      obtain ⟨_, same⟩ := Option.ite_none_right_eq_some.mp fields
      cases same
      exact itemTree?_eq_some unlike named placed

theorem regular_of_fields {part : Tree} {names nullable : List String}
    {given : String → Option Tree} (unlike : names.Nodup) (fields : part.fields? names = some given)
    (present : ∀ name ∈ names, given name = some .null → name ∈ nullable) :
    Regular names nullable part := by
  constructor
  · rintro members rfl
    exact (Option.ite_none_right_eq_some.mp fields).1
  · rintro items rfl
    exact (Option.ite_none_right_eq_some.mp fields).1
  · intro name listed gives
    exact present name listed (gives.given unlike listed fields)

theorem regular_null (names nullable : List String) : Regular names nullable .null :=
  ⟨nofun, nofun, nofun⟩

theorem items_eq (separate : Separate known) (record : σ) (items : List Tree) :
    (items.length ≤ (namesOf known).length →
        ofItems known record items = assemble known (itemTree? (namesOf known) items) record)
      ∧ (¬ items.length ≤ (namesOf known).length → ofItems known record items = none) := by
  induction known generalizing record items with
  | nil =>
      cases items with
      | nil => exact ⟨fun _ => rfl, fun long => absurd (Nat.le_refl _) long⟩
      | cons tree trees => exact ⟨nofun, fun _ => rfl⟩
  | cons field known ih =>
      obtain ⟨apart, separate⟩ := List.pairwise_cons.mp separate
      cases items with
      | nil =>
          have bare : ∀ name, itemTree? (namesOf (field :: known)) [] name = none := by
            simp [itemTree?]
          rw [ofItems_nil, assemble_none record bare]
          exact ⟨fun _ => rfl, fun long => absurd (Nat.zero_le _) long⟩
      | cons tree trees =>
          have later : ∀ name ∈ namesOf known,
              itemTree? (namesOf (field :: known)) (tree :: trees) name
                = itemTree? (namesOf known) trees name := by
            intro name listed
            obtain ⟨other, present, rfl⟩ := List.mem_map.mp listed
            exact (itemTree?_cons _ _ _ tree trees).trans (if_neg (apart other present).1.symm)
          have first : itemTree? (namesOf (field :: known)) (tree :: trees) field.field.name
              = some tree := (itemTree?_cons _ _ _ tree trees).trans (if_pos rfl)
          constructor
          · intro fits
            refine Eq.trans ?_ (assemble_cons_some first record).symm
            rw [ofItems]
            congr 1
            funext change
            rw [(ih separate (change record) trees).1 (Nat.le_of_succ_le_succ fits)]
            exact (assemble_congr _ later).symm
          · intro long
            have longer : ¬ trees.length ≤ (namesOf known).length := fun fits =>
              long (Nat.succ_le_succ fits)
            rw [ofItems]
            cases field.take tree with
            | none => rfl
            | some change => exact (ih separate (change record) trees).2 longer

theorem ofTree_eq (separate : Separate known) (initial : σ) (tree : Tree) :
    ofTree known initial tree
      = (tree.fields? (namesOf known)).bind fun given => assemble known given initial := by
  cases tree with
  | object members =>
      have entered := entered_eq separate [] initial members
      rw [fresh_nil] at entered
      rw [ofTree, ofMembers, Tree.fields?]
      split
      · next distinct => exact entered.1 distinct
      · next stale => exact entered.2 stale
  | list items =>
      have given := items_eq separate initial items
      rw [ofTree, Tree.fields?]
      split
      · next fits => exact given.1 fits
      · next long => exact given.2 long
  | _ => rfl

end

/-! ### One field after the other -/

def Tree.field {α : Type} (given : String → Option Tree) (name : String)
    (decode : Tree → Option α) (standard : α) : Option α :=
  match given name with
  | none => some standard
  | some tree => decode tree

section

variable {σ α : Type} {known : List (Known σ)} {given : String → Option Tree}

theorem assemble_of {name : String} {read : Reader α} {decode : Tree → Option α}
    {decodes : Decodes read decode} {set : σ → α → σ} {record : σ} {next : α → Option σ}
    (standard : α) (same : set record standard = record)
    (later : ∀ value, assemble known given (set record value) = next value) :
    assemble (.of name decodes set :: known) given record
      = Tree.field given name decode standard >>= next := by
  have named : (Known.of name decodes set).field.name = name := rfl
  rw [assemble, named, Tree.field]
  cases given name with
  | none => exact same ▸ later standard
  | some tree =>
      simp only [Known.of]
      rw [Option.bind_map]
      congr 1
      funext value
      exact later value

theorem commutes_of {β : Type} {name second : String} {read : Reader α} {decode : Tree → Option α}
    {decodes : Decodes read decode} {set : σ → α → σ} {other : Reader β}
    {also : Tree → Option β} {decodesOther : Decodes other also} {put : σ → β → σ}
    (commutes : ∀ record value next, put (set record value) next = set (put record next) value) :
    (Known.of name decodes set).Commutes (Known.of second decodesOther put) := by
  intro tree behind change next taken after record
  obtain ⟨value, _, rfl⟩ := Option.map_eq_some_iff.mp taken
  obtain ⟨later, _, rfl⟩ := Option.map_eq_some_iff.mp after
  exact commutes record value later

theorem field_given {name : String} {part : Tree} {decode : Tree → Option α} {standard value : α}
    (taken : Tree.field given name decode standard = some value) (here : given name = some part) :
    decode part = some value := by
  simpa [Tree.field, here] using taken

theorem regular_optional {names nullable : List String} {decode : Tree → Option α} {part : Tree}
    {value : Option α} (decoded : Tree.optional decode part = some value)
    (regular : ∀ found, decode part = some found → Regular names nullable part) :
    Regular names nullable part := by
  rcases Tree.optional_eq_some decoded with ⟨rfl, _⟩ | ⟨_, found, inner, _⟩
  · exact regular_null names nullable
  · exact regular found inner

end

end Reactor.Json
