import Reactor.Proofs.Json.Decoding

/-!
Records against the trees of what they are read from. The members of an object are entered one
after the other, the items of an array are given to the fields in turn; the reader of a record
does to a text what these do to its tree.
-/

namespace Reactor.Json

/-- A field with the meaning that it gives to a tree, as its reader does. -/
structure Known (σ : Type) where
  field : Field σ
  take : Tree → Option (σ → σ)
  decodes : Decodes field.read take

def Known.of {σ α : Type} (name : String) {read : Reader α} {decode : Tree → Option α}
    (decodes : Decodes read decode) (set : σ → α → σ) : Known σ :=
  ⟨.of name read set, fun tree => (decode tree).map fun value record => set record value,
    decodes.map fun value record => set record value⟩

section

variable {σ : Type} {known : List (Known σ)} {fields : List (Field σ)}

/-- One member: a name that is known changes the record, if it has not been seen. -/
def enter (known : List (Known σ)) (state : List String × σ) (member : Literal × Tree) :
    Option (List String × σ) := do
  let name ← text? member.1
  match known.find? (·.field.name == name) with
  | none => some state
  | some field =>
    if state.1.contains name then none
    else (field.take member.2).map fun change => (name :: state.1, change state.2)

def ofMembers (known : List (Known σ)) (initial : σ) (members : List (Literal × Tree)) : Option σ :=
  (members.foldlM (enter known) ([], initial)).map (·.2)

def ofItems : List (Known σ) → σ → List Tree → Option σ
  | _, record, [] => some record
  | [], _, _ :: _ => none
  | field :: known, record, tree :: trees =>
    (field.take tree).bind fun change => ofItems known (change record) trees

def ofTree (known : List (Known σ)) (initial : σ) : Tree → Option σ
  | .object members => ofMembers known initial members
  | .list items => ofItems known initial items
  | _ => none

@[simp] theorem ofItems_nil (known : List (Known σ)) (record : σ) :
    ofItems known record [] = some record := by
  cases known <;> rfl

theorem find?_fields (name : String) :
    (known.map (·.field)).find? (·.name == name)
      = (known.find? (·.field.name == name)).map (·.field) := by
  rw [List.find?_map]
  rfl

theorem skipColon_eq_ok {source rest : Source} :
    skipColon source = .ok rest ↔ skipBlanks source = ':' :: rest := by
  unfold skipColon
  split
  · next opens => simp [opens]
  · next opens => simp [opens]
  · next other =>
      constructor
      · nofun
      · intro opens
        exact absurd opens (other rest)

theorem enter_of_readMember {seen after : List String} {record next : σ} {source middle : Source}
    (reads : readMember (known.map (·.field)) seen record source = .ok (after, next, middle))
    (follows : Follows middle) :
    ∃ literal colon inner tree, source = literal ++ '"' :: colon ∧ IsQuoted literal
      ∧ skipBlanks colon = ':' :: inner ∧ Spans (.value tree) inner middle
      ∧ enter known (seen, record) (literal, tree) = some (after, next) := by
  unfold readMember at reads
  obtain ⟨⟨name, behind⟩, named, reads⟩ := bind_eq_ok reads
  obtain ⟨literal, quoted, spelled, split⟩ := text?_of_readText named
  dsimp only at reads
  rw [find?_fields] at reads
  cases found : known.find? (·.field.name == name) with
  | none =>
      rw [found] at reads
      obtain ⟨inner, colon, reads⟩ := bind_eq_ok reads
      obtain ⟨left, skips, reads⟩ := bind_eq_ok reads
      cases reads
      obtain ⟨tree, spans⟩ := spans_of_skipValue skips follows
      refine ⟨literal, behind, inner, tree, split, quoted, skipColon_eq_ok.mp colon, spans, ?_⟩
      simp [enter, spelled, found]
  | some field =>
      rw [found] at reads
      dsimp only [Option.map_some] at reads
      split at reads
      · cases reads
      · next fresh =>
          obtain ⟨inner, colon, reads⟩ := bind_eq_ok reads
          obtain ⟨⟨change, left⟩, taken, reads⟩ := bind_eq_ok reads
          cases reads
          obtain ⟨tree, spans, value⟩ := field.decodes.sound taken follows
          refine ⟨literal, behind, inner, tree, split, quoted, skipColon_eq_ok.mp colon, spans, ?_⟩
          simp [enter, spelled, found, value]
          simpa using fresh

theorem readMember_entered {seen after : List String} {record next : σ} {literal : Literal}
    {tree : Tree} {colon inner middle : Source} (between : skipBlanks colon = ':' :: inner)
    (spans : Spans (.value tree) inner middle)
    (entered : enter known (seen, record) (literal, tree) = some (after, next)) :
    readMember (known.map (·.field)) seen record (literal ++ '"' :: colon)
      = .ok (after, next, middle) := by
  obtain ⟨name, spelled, entered⟩ := Option.bind_eq_some_iff.mp entered
  have colon := skipColon_eq_ok.mpr between
  unfold readMember
  rw [readText_spelled spelled]
  simp only [bind, Except.bind, find?_fields]
  cases found : known.find? (·.field.name == name) with
  | none =>
      rw [found] at entered
      cases entered
      simp [colon, skipValue_spanned spans]
  | some field =>
      rw [found] at entered
      dsimp only at entered
      split at entered
      · cases entered
      · next fresh =>
          obtain ⟨change, value, same⟩ := Option.map_eq_some_iff.mp entered
          cases same
          have taken := field.decodes.complete spans value
          simp only [Option.map_some]
          rw [if_neg fresh]
          simp [colon, taken]

theorem ofMembers_of_readMembers {fuel : Nat} {seen : List String} {record last : σ}
    {before source rest : Source} (opens : skipBlanks before = '"' :: source)
    (reads : readMembers fuel (known.map (·.field)) seen record source = .ok (last, rest)) :
    ∃ members after, Spans (.members members) before rest
      ∧ members.foldlM (enter known) (seen, record) = some (after, last) := by
  induction fuel generalizing seen record before source with
  | zero => cases reads
  | succ fuel ih =>
      rw [readMembers] at reads
      obtain ⟨⟨entered, changed, middle⟩, member, reads⟩ := bind_eq_ok reads
      dsimp only at reads
      split at reads
      · cases reads
      · next closes =>
          cases reads
          obtain ⟨literal, colon, inner, tree, split, quoted, between, spans, enters⟩ :=
            enter_of_readMember member (follows_of_skipBlanks closes (Or.inr (Or.inr rfl)))
          rw [split] at opens
          refine ⟨[(literal, tree)], entered, .lastMember opens quoted between spans closes, ?_⟩
          simp [enters]
      · next next comma =>
          obtain ⟨literal, colon, inner, tree, split, quoted, between, spans, enters⟩ :=
            enter_of_readMember member (follows_of_skipBlanks comma (Or.inl rfl))
          rw [split] at opens
          split at reads
          · cases reads
          · next behind =>
              obtain ⟨members, after, later, others⟩ := ih behind reads
              refine ⟨(literal, tree) :: members, after,
                .member opens quoted between spans comma later, ?_⟩
              simp [List.foldlM_cons, enters, others]
          · cases reads
          · cases reads
      · cases reads

theorem readMembers_spanned {fuel : Nat} {members : List (Literal × Tree)}
    {seen after : List String} {record last : σ} {before source rest : Source}
    (spans : Spans (.members members) before rest)
    (entered : members.foldlM (enter known) (seen, record) = some (after, last))
    (opens : skipBlanks before = '"' :: source) (enough : members.length ≤ fuel) :
    readMembers fuel (known.map (·.field)) seen record source = .ok (last, rest) := by
  induction members generalizing fuel seen record before source with
  | nil => cases spans
  | cons member members ih =>
      obtain ⟨literal, tree⟩ := member
      rw [List.foldlM_cons] at entered
      obtain ⟨⟨seen', record'⟩, first, others⟩ := Option.bind_eq_some_iff.mp entered
      cases fuel with
      | zero => cases enough
      | succ fuel =>
          rw [readMembers]
          cases spans with
          | lastMember begins quoted colon value closes =>
              cases others
              rw [(skipBlanks_inj opens begins).2, readMember_entered colon value first]
              simp [closes, bind, Except.bind]
          | member begins quoted colon value comma later =>
              rw [(skipBlanks_inj opens begins).2, readMember_entered colon value first]
              obtain ⟨tail, behind⟩ := later.members_open
              have further := ih later others behind (Nat.le_of_succ_le_succ enough)
              simp [comma, behind, further, bind, Except.bind]

theorem Spans.length_members {members : List (Literal × Tree)} {source rest : Source}
    (spans : Spans (.members members) source rest) : members.length < source.length := by
  induction members generalizing source with
  | nil => cases spans
  | cons member members ih =>
      cases spans with
      | lastMember opens quoted colon value closes =>
          have first := length_of_skipBlanks opens
          simp only [List.length_append, List.length_cons, List.length_nil] at first ⊢
          omega
      | member opens quoted colon value comma later =>
          have first := length_of_skipBlanks opens
          have second := length_of_skipBlanks colon
          have third := value.length_lt
          have fourth := length_of_skipBlanks comma
          have others := ih later
          simp only [List.length_append, List.length_cons] at first ⊢
          omega

/-! ### Items -/

theorem ofItems_of_readItems {record last : σ} {middle rest : Source}
    (reads : readItems (known.map (·.field)) record middle = .ok (last, rest)) :
    skipBlanks middle = ']' :: rest ∧ record = last
      ∨ ∃ next trees, skipBlanks middle = ',' :: next ∧ Spans (.items trees) next rest
        ∧ ofItems known record trees = some last := by
  induction known generalizing record middle with
  | nil =>
      rw [List.map_nil, readItems] at reads
      unfold closeItems at reads
      split at reads
      · cases reads
      · next closes =>
          cases reads
          exact Or.inl ⟨closes, rfl⟩
      · split at reads <;> cases reads
      · cases reads
  | cons field known ih =>
      rw [List.map_cons, readItems] at reads
      split at reads
      · cases reads
      · next closes =>
          cases reads
          exact Or.inl ⟨closes, rfl⟩
      · next next comma =>
          right
          split at reads
          · cases reads
          · cases reads
          · obtain ⟨⟨change, left⟩, taken, reads⟩ := bind_eq_ok reads
            rcases ih reads with ⟨closes, rfl⟩ | ⟨behind, trees, also, later, others⟩
            · obtain ⟨tree, spans, value⟩ := field.decodes.sound taken
                (follows_of_skipBlanks closes (Or.inr (Or.inl rfl)))
              refine ⟨next, [tree], comma, ?_, ?_⟩
              · exact .lastItem (spans.blanks (skipBlanks_idem next).symm) closes
              · simp [ofItems, value]
            · obtain ⟨tree, spans, value⟩ := field.decodes.sound taken
                (follows_of_skipBlanks also (Or.inl rfl))
              refine ⟨next, tree :: trees, comma, ?_, ?_⟩
              · exact .item (spans.blanks (skipBlanks_idem next).symm) also later
              · simp [ofItems, value, others]
      · cases reads

theorem readItems_closed (fields : List (Field σ)) (record : σ) {middle rest : Source}
    (closes : skipBlanks middle = ']' :: rest) :
    readItems fields record middle = .ok (record, rest) := by
  cases fields with
  | nil => simp [readItems, closeItems, closes]
  | cons field fields => simp [readItems, closes]

theorem readItems_spanned {trees : List Tree} {record last : σ} {middle next rest : Source}
    (comma : skipBlanks middle = ',' :: next) (spans : Spans (.items trees) next rest)
    (given : ofItems known record trees = some last) :
    readItems (known.map (·.field)) record middle = .ok (last, rest) := by
  induction trees generalizing known record middle next with
  | nil => cases spans
  | cons tree trees ih =>
      obtain ⟨char, tail, begins, inside⟩ := spans.items_open
      cases known with
      | nil => cases given
      | cons field known =>
          obtain ⟨change, value, others⟩ := Option.bind_eq_some_iff.mp given
          rw [List.map_cons, readItems, comma]
          cases spans with
          | lastItem first closes =>
              rw [ofItems_nil] at others
              cases others
              have taken := field.decodes.complete (first.blanks (skipBlanks_idem next)) value
              rw [begins] at taken
              simp [begins, inside, taken, bind, Except.bind]
              exact readItems_closed _ _ closes
          | item first also later =>
              have taken := field.decodes.complete (first.blanks (skipBlanks_idem next)) value
              rw [begins] at taken
              simp [begins, inside, taken, bind, Except.bind]
              exact ih also later others

/-! ### Records -/

variable {schema : Schema σ}

theorem ofTree_of_readObject (drawn : schema.fields = known.map (·.field)) {before source rest : Source}
    {last : σ} (opens : skipBlanks before = '\x7b' :: source)
    (reads : readObject schema source = .ok (last, rest)) :
    ∃ tree, Spans (.value tree) before rest ∧ ofTree known schema.initial tree = some last := by
  unfold readObject at reads
  rw [drawn] at reads
  split at reads
  · cases reads
  · next closes =>
      cases reads
      exact ⟨_, .emptyObject opens closes, rfl⟩
  · next begins =>
      obtain ⟨members, after, spans, entered⟩ := ofMembers_of_readMembers begins reads
      exact ⟨_, .object opens spans, by simp [ofTree, ofMembers, entered]⟩
  · cases reads

theorem ofTree_of_readArray (drawn : schema.fields = known.map (·.field)) {before source rest : Source}
    {last : σ} (opens : skipBlanks before = '[' :: source)
    (reads : readArray schema source = .ok (last, rest)) :
    ∃ tree, Spans (.value tree) before rest ∧ ofTree known schema.initial tree = some last := by
  unfold readArray at reads
  rw [drawn] at reads
  cases known with
  | nil =>
      rcases @ofItems_of_readItems _ [] _ _ _ _ reads with ⟨closes, same⟩ | ⟨_, trees, _, later, given⟩
      · exact ⟨_, .emptyList opens closes, congrArg some same⟩
      · cases trees with
        | nil => cases later
        | cons tree trees => cases given
  | cons field known =>
      simp only [List.map_cons] at reads
      split at reads
      · cases reads
      · next closes =>
          cases reads
          exact ⟨_, .emptyList opens closes, rfl⟩
      · obtain ⟨⟨change, left⟩, taken, reads⟩ := bind_eq_ok reads
        have inner := skipBlanks_idem source
        rcases ofItems_of_readItems reads with ⟨closes, rfl⟩ | ⟨next, trees, comma, later, others⟩
        · obtain ⟨tree, spans, value⟩ := field.decodes.sound taken
            (follows_of_skipBlanks closes (Or.inr (Or.inl rfl)))
          refine ⟨.list [tree], .list opens (.lastItem (spans.blanks inner.symm) closes), ?_⟩
          simp [ofTree, ofItems, value]
        · obtain ⟨tree, spans, value⟩ := field.decodes.sound taken
            (follows_of_skipBlanks comma (Or.inl rfl))
          refine ⟨.list (tree :: trees),
            .list opens (.item (spans.blanks inner.symm) comma later), ?_⟩
          simp [ofTree, ofItems, value, others]

theorem readArray_spanned (drawn : schema.fields = known.map (·.field)) {items : List Tree}
    {last : σ} {source rest : Source} (spans : Spans (.items items) source rest)
    (given : ofItems known schema.initial items = some last) :
    readArray schema source = .ok (last, rest) := by
  obtain ⟨char, tail, begins, inside⟩ := spans.items_open
  unfold readArray
  rw [drawn]
  cases items with
  | nil => cases spans
  | cons tree trees =>
      cases known with
      | nil => cases given
      | cons field known =>
          obtain ⟨change, value, others⟩ := Option.bind_eq_some_iff.mp given
          cases spans with
          | lastItem first closes =>
              rw [ofItems_nil] at others
              cases others
              have taken := field.decodes.complete (first.blanks (skipBlanks_idem source)) value
              rw [begins] at taken
              simp [begins, inside, taken, bind, Except.bind]
              exact readItems_closed _ _ closes
          | item first also later =>
              have taken := field.decodes.complete (first.blanks (skipBlanks_idem source)) value
              rw [begins] at taken
              simp [begins, inside, taken, bind, Except.bind]
              exact readItems_spanned also later others

/-- A record is read from a text exactly if its tree is one of a record, whose members the fields
take in the order of the text, or whose items the first fields take. -/
theorem decodes_readRecord (drawn : schema.fields = known.map (·.field)) :
    Decodes (readRecord schema) (ofTree known schema.initial) := by
  constructor
  · intro source value rest reads _
    unfold readRecord at reads
    split at reads
    · cases reads
    · next opens => exact ofTree_of_readObject drawn opens reads
    · next opens => exact ofTree_of_readArray drawn opens reads
    · cases reads
  · intro tree source value rest spans given
    cases spans with
    | emptyObject opens closes =>
        cases given
        simp [readRecord, readObject, opens, closes]
    | object opens members =>
        obtain ⟨⟨after, last⟩, entered, same⟩ := Option.map_eq_some_iff.mp given
        cases same
        obtain ⟨tail, begins⟩ := members.members_open
        have enough := (members.blanks (skipBlanks_idem _)).length_members
        rw [begins, List.length_cons] at enough
        have reads := readMembers_spanned members entered begins (Nat.le_of_lt_succ enough)
        simp [readRecord, readObject, opens, begins, drawn, reads]
    | emptyList opens closes =>
        rw [ofTree, ofItems_nil] at given
        cases given
        simp only [readRecord, opens, readArray, drawn]
        cases known with
        | nil => simp [closeItems, closes]
        | cons field known => simp [closes]
    | list opens items =>
        simp only [readRecord, opens]
        exact readArray_spanned drawn items given
    | _ => cases given

end

end Reactor.Json
