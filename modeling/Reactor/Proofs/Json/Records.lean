import Reactor.Proofs.Json.Tokens

/-!
Records and their documents. A record that is written member by member, each member as the field
of its name takes it, is read as what the members make of it. And a property that no field breaks
holds of every record that is read, from whatever document.
-/

namespace Reactor.Json

section Writing

variable {σ : Type}

theorem Takes.field {α : Type} {read : Reader α} {chars : List Char} {value : α} {name : String}
    {set : σ → α → σ} (takes : Takes read chars value) :
    Takes (Field.of name read set).read chars fun record => set record value := by
  intro rest ends
  simp [Field.of, takes rest ends, Except.map]

/-- The members of an object, each taken by the field of its name, and what they make of a record. -/
inductive Written (fields : List (Field σ)) :
    List String → σ → List (String × Value) → σ → Prop where
  | nil {seen : List String} {record : σ} : Written fields seen record [] record
  | cons {seen : List String} {record last : σ} {name : String} {value : Value}
      {members : List (String × Value)} {field : Field σ} {change : σ → σ} :
      fields.find? (·.name == name) = some field → name ∉ seen →
        Takes field.read value.chars change →
        Written fields (name :: seen) (change record) members last →
        Written fields seen record ((name, value) :: members) last

variable {fields : List (Field σ)} {seen : List String} {record last : σ}

theorem ends_comma (rest : Source) : Ends (',' :: rest) := by
  simp [Ends, isDigit]

theorem ends_brace (rest : Source) : Ends ('\x7d' :: rest) := by
  simp [Ends, isDigit]

theorem ends_nil : Ends [] := by
  simp [Ends]

theorem readMember_takes (record : σ) {name : String} {chars : List Char} {field : Field σ}
    {change : σ → σ} {rest : Source} (known : fields.find? (·.name == name) = some field) (fresh : name ∉ seen)
    (takes : Takes field.read chars change) (ends : Ends rest) :
    readMember fields seen record (name.toList.flatMap textChar ++ '"' :: ':' :: (chars ++ rest))
      = .ok (name :: seen, change record, rest) := by
  unfold readMember
  rw [readText_textChars]
  simp [known, fresh, skipColon, skipBlanks, isBlank, takes rest ends, bind, Except.bind]

theorem chars_members (name : String) (value : Value) (members : List (String × Value)) :
    commaSeparated (Value.memberChars ((name, value) :: members))
      = '"' :: (name.toList.flatMap textChar ++ '"' :: ':' :: (value.chars ++
          match members with
          | [] => []
          | _ :: _ => ',' :: commaSeparated (Value.memberChars members))) := by
  cases members with
  | nil => simp [Value.memberChars, commaSeparated, textChars]
  | cons member members =>
      obtain ⟨other, next⟩ := member
      simp [Value.memberChars, commaSeparated, textChars]

theorem length_members_le (members : List (String × Value)) :
    members.length ≤ (commaSeparated (Value.memberChars members)).length := by
  induction members with
  | nil => exact Nat.zero_le _
  | cons member members ih =>
      obtain ⟨name, value⟩ := member
      rw [chars_members]
      cases members with
      | nil => simp
      | cons other others =>
          simp only [List.length_cons, List.length_append] at ih ⊢
          omega

theorem readMembers_written {members : List (String × Value)} {fuel : Nat} {tail rest : Source}
    (written : Written fields seen record members last) (enough : members.length ≤ fuel)
    (chars : commaSeparated (Value.memberChars members) = '"' :: tail) :
    readMembers fuel fields seen record (tail ++ '\x7d' :: rest) = .ok (last, rest) := by
  induction written generalizing fuel tail with
  | nil => cases chars
  | @cons seen record last name value members field change known fresh takes others ih =>
      rw [chars_members] at chars
      obtain rfl := (List.cons.inj chars).2
      cases fuel with
      | zero => cases enough
      | succ fuel =>
          cases members with
          | nil =>
              cases others
              have member := readMember_takes record known fresh takes (ends_brace rest)
              simp [readMembers, member, skipBlanks, isBlank, bind, Except.bind]
          | cons next later =>
              obtain ⟨tail, behind⟩ : ∃ tail,
                  commaSeparated (Value.memberChars (next :: later)) = '"' :: tail :=
                ⟨_, chars_members next.1 next.2 later⟩
              have member := readMember_takes record known fresh takes
                (ends_comma ('"' :: (tail ++ '\x7d' :: rest)))
              have further := ih (Nat.le_of_succ_le_succ enough) behind
              simp [readMembers, behind, member, further, skipBlanks, isBlank, bind, Except.bind]

theorem takes_readRecord {schema : Schema σ} {members : List (String × Value)}
    (written : Written schema.fields [] schema.initial members last) :
    Takes (readRecord schema) (Value.object members).chars last := by
  intro rest _
  have opened : (Value.object members).chars ++ rest
      = '\x7b' :: (commaSeparated (Value.memberChars members) ++ '\x7d' :: rest) := by
    simp [Value.chars]
  rw [opened, readRecord, skipBlanks_cons _ (by decide)]
  cases members with
  | nil =>
      cases written
      rfl
  | cons member members =>
      obtain ⟨name, value⟩ := member
      have enough := length_members_le ((name, value) :: members)
      obtain ⟨tail, chars⟩ : ∃ tail,
          commaSeparated (Value.memberChars ((name, value) :: members)) = '"' :: tail :=
        ⟨_, chars_members name value members⟩
      rw [chars] at enough ⊢
      change readMembers (tail ++ '\x7d' :: rest).length schema.fields [] schema.initial _ = _
      refine readMembers_written written ?_ chars
      simp only [List.length_cons, List.length_append] at enough ⊢
      omega

theorem readDocument_chars {schema : Schema σ} {members : List (String × Value)}
    (written : Written schema.fields [] schema.initial members last) :
    readDocument schema (Value.object members).chars = .ok last := by
  have taken := takes_readRecord written [] ends_nil
  rw [List.append_nil] at taken
  simp [readDocument, taken, skipBlanks, bind, Except.bind]

end Writing

/-! ### What every document keeps -/

theorem bind_eq_ok {ε α β : Type} {first : Except ε α} {next : α → Except ε β} {result : β}
    (bound : (first >>= next) = .ok result) : ∃ value, first = .ok value ∧ next value = .ok result := by
  cases first with
  | error fault => cases bound
  | ok value => exact ⟨value, rfl, bound⟩

theorem map_eq_ok {ε α β : Type} {change : α → β} {read : Except ε α} {result : β}
    (mapped : read.map change = .ok result) : ∃ value, read = .ok value ∧ change value = result := by
  cases read with
  | error fault => cases mapped
  | ok value => exact ⟨value, rfl, Except.ok.inj mapped⟩

section Keeping

variable {σ : Type} {property : σ → Prop}

/-- Whatever the field reads, it keeps a property of the record. -/
def Field.Keeps (property : σ → Prop) (field : Field σ) : Prop :=
  ∀ source change rest, field.read source = .ok (change, rest) →
    ∀ record, property record → property (change record)

theorem Field.keeps_of {α : Type} {name : String} {read : Reader α} {set : σ → α → σ}
    (keeps : ∀ source value rest, read source = .ok (value, rest) →
      ∀ record, property record → property (set record value)) :
    (Field.of name read set).Keeps property := by
  intro source change rest reads record holds
  obtain ⟨⟨value, left⟩, found, same⟩ := map_eq_ok reads
  cases same
  exact keeps source value _ found record holds

variable {fields : List (Field σ)} {seen after : List String} {record next : σ}
  {source rest : Source}

theorem readMember_keeps (keeps : ∀ field ∈ fields, field.Keeps property)
    (reads : readMember fields seen record source = .ok (after, next, rest))
    (holds : property record) : property next := by
  unfold readMember at reads
  obtain ⟨⟨name, behind⟩, _, reads⟩ := bind_eq_ok reads
  dsimp only at reads
  split at reads
  · obtain ⟨colon, _, reads⟩ := bind_eq_ok reads
    obtain ⟨skipped, _, reads⟩ := bind_eq_ok reads
    cases reads
    exact holds
  · rename_i field known
    split at reads
    · cases reads
    · obtain ⟨colon, _, reads⟩ := bind_eq_ok reads
      obtain ⟨⟨change, left⟩, taken, reads⟩ := bind_eq_ok reads
      cases reads
      exact keeps field (List.mem_of_find?_eq_some known) colon change _ taken record holds

theorem readMembers_keeps (keeps : ∀ field ∈ fields, field.Keeps property) {fuel : Nat}
    (reads : readMembers fuel fields seen record source = .ok (next, rest))
    (holds : property record) : property next := by
  induction fuel generalizing seen record source with
  | zero => cases reads
  | succ fuel ih =>
      rw [readMembers] at reads
      obtain ⟨⟨known, changed, behind⟩, member, reads⟩ := bind_eq_ok reads
      have kept := readMember_keeps keeps member holds
      dsimp only at reads
      split at reads
      · cases reads
      · cases reads
        exact kept
      · split at reads
        · cases reads
        · exact ih reads kept
        · cases reads
        · cases reads
      · cases reads

theorem closeItems_keeps (reads : closeItems record source = .ok (next, rest)) : next = record := by
  unfold closeItems at reads
  split at reads
  · cases reads
  · cases reads
    rfl
  · split at reads <;> cases reads
  · cases reads

theorem readItems_keeps (keeps : ∀ field ∈ fields, field.Keeps property)
    (reads : readItems fields record source = .ok (next, rest)) (holds : property record) :
    property next := by
  induction fields generalizing record source with
  | nil => exact closeItems_keeps reads ▸ holds
  | cons field fields ih =>
      rw [readItems] at reads
      split at reads
      · cases reads
      · cases reads
        exact holds
      · split at reads
        · cases reads
        · cases reads
        · obtain ⟨⟨change, left⟩, taken, reads⟩ := bind_eq_ok reads
          refine ih (fun other present => keeps other (List.mem_cons_of_mem _ present)) reads ?_
          exact keeps field List.mem_cons_self _ change left taken record holds
      · cases reads

theorem readRecord_keeps {schema : Schema σ} (keeps : ∀ field ∈ schema.fields, field.Keeps property)
    (initial : property schema.initial) (reads : readRecord schema source = .ok (next, rest)) :
    property next := by
  unfold readRecord at reads
  split at reads
  · cases reads
  · unfold readObject at reads
    split at reads
    · cases reads
    · cases reads
      exact initial
    · exact readMembers_keeps keeps reads initial
    · cases reads
  · unfold readArray at reads
    split at reads
    · exact closeItems_keeps reads ▸ initial
    · rename_i field fields found
      rw [found] at keeps
      split at reads
      · cases reads
      · cases reads
        exact initial
      · obtain ⟨⟨change, left⟩, taken, reads⟩ := bind_eq_ok reads
        refine readItems_keeps (fun other present => keeps other (List.mem_cons_of_mem _ present))
          reads ?_
        exact keeps field List.mem_cons_self _ change left taken _ initial
  · cases reads

theorem readDocument_keeps {schema : Schema σ}
    (keeps : ∀ field ∈ schema.fields, field.Keeps property) (initial : property schema.initial)
    (reads : readDocument schema source = .ok next) : property next := by
  unfold readDocument at reads
  obtain ⟨⟨record, left⟩, taken, reads⟩ := bind_eq_ok reads
  dsimp only at reads
  split at reads
  · cases reads
    exact readRecord_keeps keeps initial taken
  · cases reads

end Keeping

end Reactor.Json
