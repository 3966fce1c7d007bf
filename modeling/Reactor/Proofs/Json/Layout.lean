import Reactor.Proofs.Json.Fields

/-!
Layouts of a record. The order of the members, those with other names, the layout of what a field
is given and the form of an array have no part in what the record is.
-/

namespace Reactor.Json

/-- Records that differ in what has no part in their meaning: the order of their members, members
of other names, the inner layout of what they give to a field, and the form of an array. -/
inductive Relaid (names : List String) (inner : String → Tree → Tree → Prop) : Tree → Tree → Prop where
  | refl (tree : Tree) : Relaid names inner tree tree
  | symm {tree other : Tree} : Relaid names inner tree other → Relaid names inner other tree
  | trans {tree other last : Tree} : Relaid names inner tree other →
      Relaid names inner other last → Relaid names inner tree last
  | permuted {members others : List (Literal × Tree)} : members.Perm others →
      Relaid names inner (.object members) (.object others)
  | strange {front back : List (Literal × Tree)} {literal : Literal} {name : String} (tree : Tree) :
      text? literal = some name → name ∉ names →
        Relaid names inner (.object (front ++ back)) (.object (front ++ (literal, tree) :: back))
  | member {front back : List (Literal × Tree)} {literal : Literal} {name : String}
      {tree other : Tree} : text? literal = some name → inner name tree other →
        Relaid names inner (.object (front ++ (literal, tree) :: back))
          (.object (front ++ (literal, other) :: back))
  | item {front back : List Tree} {name : String} {tree other : Tree} :
      names[front.length]? = some name → inner name tree other →
        Relaid names inner (.list (front ++ tree :: back)) (.list (front ++ other :: back))
  | array {items : List Tree} {literals : List Literal} : items.length ≤ names.length →
      literals.map text? = (names.take items.length).map some →
        Relaid names inner (.list items) (.object (literals.zip items))

section

variable {names : List String} {members others : List (Literal × Tree)}

theorem namesAmong_perm (perm : members.Perm others) :
    (namesAmong names members).Perm (namesAmong names others) :=
  (perm.filterMap _).filter _

theorem Distinct.perm (distinct : Distinct names members) (perm : members.Perm others) :
    Distinct names others := by
  constructor
  · intro member present
    exact distinct.spelled member (perm.mem_iff.mpr present)
  · exact (namesAmong_perm perm).nodup_iff.mp distinct.once

theorem memberTree?_perm (perm : members.Perm others) (distinct : Distinct names members)
    {name : String} (listed : name ∈ names) : memberTree? members name = memberTree? others name := by
  induction perm with
  | nil => rfl
  | cons member perm ih =>
      obtain ⟨found, spelled⟩ := Option.isSome_iff_exists.mp (distinct.spelled _ List.mem_cons_self)
      rw [memberTree?_cons spelled, memberTree?_cons spelled,
        ih ((distinct_cons spelled).mp distinct).1]
  | swap first second rest =>
      obtain ⟨a, spelledA⟩ := Option.isSome_iff_exists.mp
        (distinct.spelled first (List.mem_cons_of_mem _ List.mem_cons_self))
      obtain ⟨b, spelledB⟩ := Option.isSome_iff_exists.mp
        (distinct.spelled second List.mem_cons_self)
      rw [memberTree?_cons spelledB, memberTree?_cons spelledA, memberTree?_cons spelledA,
        memberTree?_cons spelledB]
      by_cases hereA : a = name
      · by_cases hereB : b = name
        · have apart := ((distinct_cons spelledB).mp distinct).2 (hereB ▸ listed)
          rw [namesAmong_cons spelledA, hereA, if_pos listed, hereB] at apart
          exact absurd List.mem_cons_self apart
        · rw [if_neg hereB, if_pos hereA]
          simp [hereA]
      · rw [if_neg hereA]
        simp [hereA]
  | trans first second ihFirst ihSecond =>
      rw [ihFirst distinct, ihSecond (distinct.perm first)]

end

section

variable {σ : Type} {known : List (Known σ)} {initial : σ}

theorem ofTree_perm (separate : Separate known) {members others : List (Literal × Tree)}
    (perm : members.Perm others) :
    ofTree known initial (.object members) = ofTree known initial (.object others) := by
  rw [ofTree_eq separate, ofTree_eq separate, Tree.fields?, Tree.fields?]
  by_cases distinct : Distinct (namesOf known) members
  · rw [if_pos distinct, if_pos (distinct.perm perm)]
    exact assemble_congr initial fun name listed => memberTree?_perm perm distinct listed
  · rw [if_neg distinct, if_neg fun again => distinct (again.perm perm.symm)]

theorem ofTree_strange {literal : Literal} {name : String} {tree : Tree}
    (spelled : text? literal = some name) (strange : name ∉ namesOf known)
    (members : List (Literal × Tree)) :
    ofTree known initial (.object ((literal, tree) :: members))
      = ofTree known initial (.object members) := by
  have unknown : known.find? (·.field.name == name) = none := by
    rw [List.find?_eq_none]
    intro field present same
    exact strange (List.mem_map.mpr ⟨field, present, by simpa using same⟩)
  simp [ofTree, ofMembers, enter, spelled, unknown]

theorem ofTree_member {literal : Literal} {name : String} {tree other : Tree}
    (spelled : text? literal = some name)
    (same : ∀ field ∈ known, field.field.name = name → field.take tree = field.take other)
    (members : List (Literal × Tree)) :
    ofTree known initial (.object ((literal, tree) :: members))
      = ofTree known initial (.object ((literal, other) :: members)) := by
  have enters : enter known ([], initial) (literal, tree)
      = enter known ([], initial) (literal, other) := by
    unfold enter
    simp only [spelled]
    cases found : known.find? (·.field.name == name) with
    | none => simp [found]
    | some field =>
        have named : field.field.name = name := by simpa using List.find?_some found
        simp [found, same field (List.mem_of_find?_eq_some found) named]
  simp only [ofTree, ofMembers, List.foldlM_cons, enters]

theorem ofItems_item {front back : List Tree} {name : String} {tree other : Tree} (record : σ)
    (named : (namesOf known)[front.length]? = some name)
    (same : ∀ field ∈ known, field.field.name = name → field.take tree = field.take other) :
    ofItems known record (front ++ tree :: back) = ofItems known record (front ++ other :: back) := by
  induction known generalizing record front with
  | nil => cases named
  | cons field known ih =>
      cases front with
      | nil =>
          have first : field.field.name = name := Option.some.inj named
          simp only [List.nil_append, ofItems, same field List.mem_cons_self first]
      | cons item front =>
          rw [List.cons_append, List.cons_append, ofItems, ofItems]
          congr 1
          funext change
          exact ih (change record) named fun field later =>
            same field (List.mem_cons_of_mem _ later)

theorem memberTree?_zip {names : List String} {literals : List Literal} {items : List Tree}
    (fits : items.length ≤ names.length)
    (spelled : literals.map text? = (names.take items.length).map some) (name : String) :
    memberTree? (literals.zip items) name = itemTree? names items name := by
  induction items generalizing names literals with
  | nil => simp [memberTree?, itemTree?]
  | cons item items ih =>
      cases names with
      | nil => cases fits
      | cons first names =>
          cases literals with
          | nil => cases spelled
          | cons literal literals =>
              obtain ⟨here, later⟩ := List.cons.inj spelled
              rw [List.zip_cons_cons, memberTree?_cons here, itemTree?_cons,
                ih (Nat.le_of_succ_le_succ fits) later]
              simp only [eq_comm]

theorem distinct_zip {names : List String} (unlike : names.Nodup) {literals : List Literal}
    {items : List Tree} (fits : items.length ≤ names.length)
    (spelled : literals.map text? = (names.take items.length).map some) :
    Distinct names (literals.zip items) := by
  have counted : literals.length = items.length := by
    have lengths := congrArg List.length spelled
    simp only [List.length_map, List.length_take] at lengths
    omega
  have firsts : (literals.zip items).map Prod.fst = literals :=
    List.map_fst_zip (Nat.le_of_eq counted)
  have found : (literals.zip items).map (text? ·.1) = (names.take items.length).map some := by
    rw [← spelled]
    conv_rhs => rw [← firsts, List.map_map]
    rfl
  constructor
  · intro member present
    have listed : text? member.1 ∈ (names.take items.length).map some := by
      rw [← found]
      exact List.mem_map_of_mem present
    obtain ⟨name, _, same⟩ := List.mem_map.mp listed
    simp [← same]
  · have all : (literals.zip items).filterMap (text? ·.1) = names.take items.length := by
      have kept := congrArg (List.filterMap id) found
      rw [List.filterMap_map, List.filterMap_map] at kept
      simpa using kept
    unfold namesAmong
    rw [all]
    exact (unlike.sublist (List.take_sublist _ _)).filter _

theorem ofTree_array (separate : Separate known) {literals : List Literal} {items : List Tree}
    (fits : items.length ≤ (namesOf known).length)
    (spelled : literals.map text? = ((namesOf known).take items.length).map some) :
    ofTree known initial (.list items)
      = ofTree known initial (.object (literals.zip items)) := by
  rw [ofTree_eq separate, ofTree_eq separate, Tree.fields?, Tree.fields?, if_pos fits,
    if_pos (distinct_zip (separate_iff.mp separate).1 fits spelled)]
  exact assemble_congr initial fun name _ => (memberTree?_zip fits spelled name).symm

/-- Records that are laid out differently are read as the same, if the fields do not mind how what
they are given is laid out. -/
theorem Relaid.ofTree_eq (separate : Separate known) {inner : String → Tree → Tree → Prop}
    (blind : ∀ field ∈ known, ∀ tree other, inner field.field.name tree other →
      field.take tree = field.take other)
    {tree other : Tree} (relaid : Relaid (namesOf known) inner tree other) :
    ofTree known initial tree = ofTree known initial other := by
  have takes : ∀ {name tree other}, inner name tree other →
      ∀ field ∈ known, field.field.name = name → field.take tree = field.take other := by
    intro name tree other same field listed named
    exact blind field listed tree other (named ▸ same)
  induction relaid with
  | refl tree => rfl
  | symm relaid ih => exact ih.symm
  | trans first second ihFirst ihSecond => exact ihFirst.trans ihSecond
  | permuted perm => exact ofTree_perm separate perm
  | strange tree spelled strange =>
      rw [ofTree_perm separate List.perm_middle]
      exact (ofTree_strange spelled strange _).symm
  | member spelled same =>
      rw [ofTree_perm separate List.perm_middle, ofTree_perm separate List.perm_middle]
      exact ofTree_member spelled (takes same) _
  | item named same => exact ofItems_item initial named (takes same)
  | array fits spelled => exact ofTree_array separate fits spelled

/-- The records of a schema are decoded as its fields, told apart by their names, take their trees. -/
structure Drawn (schema : Schema σ) (known : List (Known σ)) (decode : Tree → Option σ) : Prop where
  fields : schema.fields = known.map (·.field)
  separate : Separate known
  agrees : ∀ tree, decode tree
    = (tree.fields? (namesOf known)).bind fun given => assemble known given schema.initial

section

variable {schema : Schema σ} {decode : Tree → Option σ}

theorem Drawn.ofTree_known (drawn : Drawn schema known decode) :
    Json.ofTree known schema.initial = decode := by
  funext tree
  rw [drawn.agrees, ofTree_eq drawn.separate]

theorem Drawn.decodes (drawn : Drawn schema known decode) : Decodes (readRecord schema) decode :=
  drawn.ofTree_known ▸ decodes_readRecord drawn.fields

theorem Drawn.relaid_eq (drawn : Drawn schema known decode)
    {inner : String → Tree → Tree → Prop}
    (blind : ∀ field ∈ known, ∀ tree other, inner field.field.name tree other →
      field.take tree = field.take other)
    {tree other : Tree} (relaid : Relaid (namesOf known) inner tree other) :
    decode tree = decode other := by
  rw [← drawn.ofTree_known]
  exact relaid.ofTree_eq drawn.separate blind

end

theorem Relaid.null_iff {names : List String} {inner : String → Tree → Tree → Prop}
    {tree other : Tree} (relaid : Relaid names inner tree other) :
    tree = .null ↔ other = .null := by
  induction relaid with
  | refl tree => rfl
  | symm relaid ih => exact ih.symm
  | trans first second ihFirst ihSecond => exact ihFirst.trans ihSecond
  | _ => exact ⟨nofun, nofun⟩

theorem Relaid.optional_eq {names : List String} {inner : String → Tree → Tree → Prop}
    {α : Type} {decode : Tree → Option α} {tree other : Tree} (relaid : Relaid names inner tree other)
    (same : decode tree = decode other) :
    Tree.optional decode tree = Tree.optional decode other := by
  have nulls := relaid.null_iff
  cases tree with
  | null => rw [nulls.mp rfl]
  | _ =>
      have full : other ≠ .null := fun bare => nomatch nulls.mpr bare
      cases other with
      | null => exact absurd rfl full
      | _ => exact congrArg (Option.map some) same

end

end Reactor.Json
