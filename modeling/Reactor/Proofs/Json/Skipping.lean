import Reactor.Proofs.Json.Literals

/-!
Passing over a value. A value is passed over exactly if it is one, whatever its depth, and a text
is written like one tree only.
-/

namespace Reactor.Json

theorem skipBlanks_idem (source : Source) : skipBlanks (skipBlanks source) = skipBlanks source := by
  unfold skipBlanks
  induction source with
  | nil => rfl
  | cons char rest ih =>
      by_cases blank : isBlank char = true
      · simp [blank, ih]
      · simp [blank]

theorem length_skipBlanks_le (source : Source) : (skipBlanks source).length ≤ source.length := by
  unfold skipBlanks
  induction source with
  | nil => simp
  | cons char rest ih =>
      by_cases blank : isBlank char = true
      · simp [blank]
        omega
      · simp [blank]

theorem length_of_skipBlanks {source rest : Source} {char : Char}
    (opens : skipBlanks source = char :: rest) : rest.length < source.length := by
  have shorter := length_skipBlanks_le source
  rw [opens, List.length_cons] at shorter
  omega

theorem follows_of_head {source : Source}
    (closes : ∀ char ∈ (skipBlanks source).head?, char = ',' ∨ char = ']' ∨ char = '\x7d') :
    Follows source := by
  intro char first
  cases source with
  | nil => cases first
  | cons head rest =>
      cases first
      by_cases blank : isBlank char = true
      · exact Or.inl blank
      · right
        apply closes
        simp [skipBlanks, blank]

theorem follows_of_skipBlanks {source rest : Source} {char : Char}
    (opens : skipBlanks source = char :: rest) (closes : char = ',' ∨ char = ']' ∨ char = '\x7d') :
    Follows source := by
  apply follows_of_head
  intro found first
  rw [opens] at first
  cases first
  exact closes

theorem Spans.blanks {phrase : Phrase} {source other rest : Source}
    (spans : Spans phrase source rest) (same : skipBlanks other = skipBlanks source) :
    Spans phrase other rest := by
  induction spans generalizing other with
  | null opens => exact .null (same.trans opens)
  | yes opens => exact .yes (same.trans opens)
  | no opens => exact .no (same.trans opens)
  | number opens written follows => exact .number (same.trans opens) written follows
  | text opens quoted => exact .text (same.trans opens) quoted
  | emptyList opens closes => exact .emptyList (same.trans opens) closes
  | list opens items => exact .list (same.trans opens) items
  | emptyObject opens closes => exact .emptyObject (same.trans opens) closes
  | object opens members => exact .object (same.trans opens) members
  | lastItem value closes ih => exact .lastItem (ih same) closes
  | item value comma items ih _ => exact .item (ih same) comma items
  | lastMember opens quoted colon value closes =>
      exact .lastMember (same.trans opens) quoted colon value closes
  | member opens quoted colon value comma members =>
      exact .member (same.trans opens) quoted colon value comma members

def Tree.OpensWith : Tree → Char → Prop
  | .null, char => char = 'n'
  | .flag true, char => char = 't'
  | .flag false, char => char = 'f'
  | .number _, char => char = '-' ∨ isDigit char = true
  | .text _, char => char = '"'
  | .list _, char => char = '['
  | .object _, char => char = '\x7b'

theorem IsNumber.cons {literal : Literal} (written : IsNumber literal) :
    ∃ char others, literal = char :: others ∧ (char = '-' ∨ isDigit char = true) := by
  cases written with
  | parts signed whole fraction exponent =>
      rcases signed with rfl | rfl
      · obtain ⟨char, others, split, first⟩ := whole.toIsDigits.cons
        exact ⟨char, _, by rw [split]; rfl, Or.inr first⟩
      · exact ⟨'-', _, rfl, Or.inl rfl⟩

theorem Spans.opens {tree : Tree} {source rest : Source} (spans : Spans (.value tree) source rest) :
    ∃ char tail, skipBlanks source = char :: tail ∧ tree.OpensWith char := by
  cases spans with
  | null opens => exact ⟨_, _, opens, rfl⟩
  | yes opens => exact ⟨_, _, opens, rfl⟩
  | no opens => exact ⟨_, _, opens, rfl⟩
  | number opens written follows =>
      obtain ⟨char, others, split, first⟩ := written.cons
      rw [split] at opens
      exact ⟨char, _, opens, first⟩
  | text opens quoted => exact ⟨_, _, opens, rfl⟩
  | emptyList opens closes => exact ⟨_, _, opens, rfl⟩
  | list opens items => exact ⟨_, _, opens, rfl⟩
  | emptyObject opens closes => exact ⟨_, _, opens, rfl⟩
  | object opens members => exact ⟨_, _, opens, rfl⟩

/-! ### What is a value is passed over -/

theorem written_of_finishWord {letters : List Char} {source rest : Source}
    (finishes : finishWord letters source = .ok rest) : source = letters ++ rest := by
  induction letters generalizing source with
  | nil =>
      cases finishes
      rfl
  | cons letter letters ih =>
      cases source with
      | nil => cases finishes
      | cons char source =>
          rw [finishWord] at finishes
          split at finishes
          · next same => rw [ih finishes, same, List.cons_append]
          · cases finishes

def Phrase.skip (fuel : Nat) : Phrase → Source → Except Fault Source
  | .value _ => skipValueIn fuel
  | .items _ => skipItemsIn fuel
  | .members _ => skipMembersIn fuel

def Phrase.slack : Phrase → Nat
  | .value _ => 0
  | _ => 1

theorem skip_blanks (fuel : Nat) (phrase : Phrase) (source : Source) :
    phrase.skip fuel (skipBlanks source) = phrase.skip fuel source := by
  have value : ∀ fuel, skipValueIn fuel (skipBlanks source) = skipValueIn fuel source := by
    intro fuel
    cases fuel with
    | zero => rfl
    | succ fuel => rw [skipValueIn, skipValueIn, skipBlanks_idem]
  cases phrase with
  | value tree => exact value fuel
  | items trees =>
      cases fuel with
      | zero => rfl
      | succ fuel => simp only [Phrase.skip, skipItemsIn, value]
  | members members =>
      cases fuel with
      | zero => rfl
      | succ fuel => simp only [Phrase.skip, skipMembersIn, skipBlanks_idem]

theorem Spans.length_lt {phrase : Phrase} {source rest : Source} (spans : Spans phrase source rest) :
    rest.length < source.length := by
  induction spans with
  | null opens | yes opens | no opens =>
      have shorter := length_of_skipBlanks opens
      simp only [List.length_cons] at shorter
      omega
  | number opens written follows =>
      obtain ⟨char, others, split, _⟩ := written.cons
      rw [split, List.cons_append] at opens
      have shorter := length_of_skipBlanks opens
      rw [List.length_append] at shorter
      omega
  | text opens quoted =>
      have shorter := length_of_skipBlanks opens
      rw [List.length_append, List.length_cons] at shorter
      omega
  | emptyList opens closes | emptyObject opens closes =>
      have first := length_of_skipBlanks opens
      have second := length_of_skipBlanks closes
      omega
  | list opens inner ih | object opens inner ih =>
      have first := length_of_skipBlanks opens
      omega
  | lastItem value closes ih =>
      have last := length_of_skipBlanks closes
      omega
  | item value comma items ih later =>
      have next := length_of_skipBlanks comma
      omega
  | lastMember opens quoted colon value closes ih =>
      have first := length_of_skipBlanks opens
      have second := length_of_skipBlanks colon
      have last := length_of_skipBlanks closes
      rw [List.length_append, List.length_cons] at first
      omega
  | member opens quoted colon value comma members ih later =>
      have first := length_of_skipBlanks opens
      have second := length_of_skipBlanks colon
      have next := length_of_skipBlanks comma
      rw [List.length_append, List.length_cons] at first
      omega

theorem skipValueIn_number {source tail : Source} {char : Char} (fuel : Nat)
    (opens : skipBlanks source = char :: tail) (first : char = '-' ∨ isDigit char = true) :
    skipValueIn (fuel + 1) source = skipNumber (char :: tail) := by
  rw [skipValueIn, opens]
  split
  case h_1 found => cases found
  case h_8 found =>
    cases found
    exact if_pos first
  all_goals
    rename_i found
    cases found
    exact absurd first (by decide)

theorem Spans.items_open {trees : List Tree} {source rest : Source}
    (spans : Spans (.items trees) source rest) :
    ∃ char tail, skipBlanks source = char :: tail ∧ char ≠ ']' := by
  obtain ⟨tree, middle, value⟩ : ∃ tree middle, Spans (.value tree) source middle := by
    cases spans with
    | lastItem value closes => exact ⟨_, _, value⟩
    | item value comma items => exact ⟨_, _, value⟩
  obtain ⟨char, tail, opens, first⟩ := value.opens
  refine ⟨char, tail, opens, ?_⟩
  rintro rfl
  cases tree with
  | flag value => cases value <;> exact absurd first (by simp [Tree.OpensWith])
  | null | number literal | text literal | list items | object members =>
      exact absurd first (by simp [Tree.OpensWith, isDigit])

theorem Spans.members_open {members : List (Literal × Tree)} {source rest : Source}
    (spans : Spans (.members members) source rest) : ∃ tail, skipBlanks source = '"' :: tail := by
  cases spans with
  | lastMember opens quoted colon value closes => exact ⟨_, opens⟩
  | member opens quoted colon value comma members => exact ⟨_, opens⟩

theorem Spans.fuel {phrase : Phrase} {source rest : Source} (spans : Spans phrase source rest)
    {fuel : Nat} (enough : 2 * source.length + phrase.slack ≤ fuel) : ∃ less, fuel = less + 1 := by
  have longer := spans.length_lt
  exact ⟨fuel - 1, by omega⟩

/-- A phrase is passed over when the fuel is twice the length of what is left, and one more for
items and members. -/
theorem skip_spanned {phrase : Phrase} {source rest : Source} (spans : Spans phrase source rest)
    {fuel : Nat} (enough : 2 * source.length + phrase.slack ≤ fuel) :
    phrase.skip fuel source = .ok rest := by
  induction spans generalizing fuel with
  | null opens =>
      obtain ⟨fuel, rfl⟩ := (Spans.null opens).fuel enough
      simp [Phrase.skip, skipValueIn, opens, finishWord]
  | yes opens =>
      obtain ⟨fuel, rfl⟩ := (Spans.yes opens).fuel enough
      simp [Phrase.skip, skipValueIn, opens, finishWord]
  | no opens =>
      obtain ⟨fuel, rfl⟩ := (Spans.no opens).fuel enough
      simp [Phrase.skip, skipValueIn, opens, finishWord]
  | number opens written follows =>
      obtain ⟨fuel, rfl⟩ := (Spans.number opens written follows).fuel enough
      obtain ⟨char, others, split, first⟩ := written.cons
      have skips := skipNumber_written written follows.ends
      rw [split, List.cons_append] at opens skips
      exact (skipValueIn_number fuel opens first).trans skips
  | text opens quoted =>
      obtain ⟨fuel, rfl⟩ := (Spans.text opens quoted).fuel enough
      have skips := skipText_quoted quoted
      simp [Phrase.skip, skipValueIn, opens, skips]
  | emptyList opens closes =>
      obtain ⟨fuel, rfl⟩ := (Spans.emptyList opens closes).fuel enough
      simp [Phrase.skip, skipValueIn, opens, closes]
  | emptyObject opens closes =>
      obtain ⟨fuel, rfl⟩ := (Spans.emptyObject opens closes).fuel enough
      simp [Phrase.skip, skipValueIn, opens, closes]
  | list opens items ih =>
      obtain ⟨fuel, rfl⟩ := (Spans.list opens items).fuel enough
      have shorter := length_of_skipBlanks opens
      simp only [Phrase.slack] at ih enough
      have skips := @ih fuel (by omega)
      rw [← skip_blanks] at skips
      obtain ⟨char, tail, begins, inside⟩ := items.items_open
      rw [begins] at skips
      simp [Phrase.skip, skipValueIn, opens, begins, inside]
      exact skips
  | object opens members ih =>
      obtain ⟨fuel, rfl⟩ := (Spans.object opens members).fuel enough
      have shorter := length_of_skipBlanks opens
      simp only [Phrase.slack] at ih enough
      have skips := @ih fuel (by omega)
      rw [← skip_blanks] at skips
      obtain ⟨tail, begins⟩ := members.members_open
      rw [begins] at skips
      simp [Phrase.skip, skipValueIn, opens, begins]
      exact skips
  | lastItem value closes ih =>
      obtain ⟨fuel, rfl⟩ := (Spans.lastItem value closes).fuel enough
      simp only [Phrase.slack, Phrase.skip] at ih enough
      have skips := @ih fuel (by omega)
      simp [Phrase.skip, skipItemsIn, skips, closes, bind, Except.bind]
  | item value comma items ih later =>
      obtain ⟨fuel, rfl⟩ := (Spans.item value comma items).fuel enough
      have shorter := value.length_lt
      have next := length_of_skipBlanks comma
      simp only [Phrase.slack, Phrase.skip] at ih later enough
      have skips := @ih fuel (by omega)
      have others := @later fuel (by omega)
      simp [Phrase.skip, skipItemsIn, skips, others, comma, bind, Except.bind]
  | lastMember opens quoted colon value closes ih =>
      obtain ⟨fuel, rfl⟩ := (Spans.lastMember opens quoted colon value closes).fuel enough
      have shorter := length_of_skipBlanks opens
      have inside := length_of_skipBlanks colon
      rw [List.length_append, List.length_cons] at shorter
      simp only [Phrase.slack, Phrase.skip] at ih enough
      have name := skipText_quoted quoted
      have skips := @ih fuel (by omega)
      simp [Phrase.skip, skipMembersIn, opens, name, colon, skips, closes, bind, Except.bind]
  | member opens quoted colon value comma members ih later =>
      obtain ⟨fuel, rfl⟩ := (Spans.member opens quoted colon value comma members).fuel enough
      have shorter := length_of_skipBlanks opens
      have inside := length_of_skipBlanks colon
      have behind := value.length_lt
      have next := length_of_skipBlanks comma
      rw [List.length_append, List.length_cons] at shorter
      simp only [Phrase.slack, Phrase.skip] at ih later enough
      have name := skipText_quoted quoted
      have skips := @ih fuel (by omega)
      have others := @later fuel (by omega)
      simp [Phrase.skip, skipMembersIn, opens, name, colon, skips, others, comma, bind,
        Except.bind]

theorem skipValue_spanned {tree : Tree} {source rest : Source}
    (spans : Spans (.value tree) source rest) : skipValue source = .ok rest :=
  skip_spanned spans (by simp [Phrase.slack])

/-! ### What is passed over is a value -/

theorem spans_number {source tail rest : Source} {char : Char}
    (opens : skipBlanks source = char :: tail) (skips : skipNumber (char :: tail) = .ok rest)
    (follows : Follows rest) : ∃ tree, Spans (.value tree) source rest := by
  obtain ⟨literal, written, split⟩ := isNumber_of_skipNumber skips
  exact ⟨_, .number (opens.trans split) written follows⟩

theorem spans_of_skip (fuel : Nat) :
    (∀ source rest, skipValueIn fuel source = .ok rest → Follows rest →
        ∃ tree, Spans (.value tree) source rest)
      ∧ (∀ source rest, skipItemsIn fuel source = .ok rest →
        ∃ trees, Spans (.items trees) source rest)
      ∧ (∀ source rest, skipMembersIn fuel source = .ok rest →
        ∃ members, Spans (.members members) source rest) := by
  -- Each of the three calls the others with one step of fuel less.
  induction fuel with
  | zero => exact ⟨nofun, nofun, nofun⟩
  | succ fuel ih =>
      obtain ⟨value, items, members⟩ := ih
      refine ⟨?_, ?_, ?_⟩
      · intro source rest skips follows
        rw [skipValueIn] at skips
        split at skips
        · cases skips
        · next opens =>
            have word := written_of_finishWord skips
            exact ⟨_, .null (by rw [opens, word]; rfl)⟩
        · next opens =>
            have word := written_of_finishWord skips
            exact ⟨_, .yes (by rw [opens, word]; rfl)⟩
        · next opens =>
            have word := written_of_finishWord skips
            exact ⟨_, .no (by rw [opens, word]; rfl)⟩
        · next opens =>
            obtain ⟨literal, quoted, split⟩ := isQuoted_of_skipText skips
            exact ⟨_, .text (by rw [opens, split]) quoted⟩
        · next inner opens =>
            split at skips
            · cases skips
            · next closes =>
                cases skips
                exact ⟨_, .emptyList opens closes⟩
            · obtain ⟨trees, spans⟩ := items _ _ skips
              exact ⟨_, .list opens (spans.blanks (skipBlanks_idem inner).symm)⟩
        · next inner opens =>
            split at skips
            · cases skips
            · next closes =>
                cases skips
                exact ⟨_, .emptyObject opens closes⟩
            · obtain ⟨members, spans⟩ := members _ _ skips
              exact ⟨_, .object opens (spans.blanks (skipBlanks_idem inner).symm)⟩
        · next opens =>
            split at skips
            · exact spans_number opens skips follows
            · cases skips
      · intro source rest skips
        rw [skipItemsIn] at skips
        obtain ⟨middle, first, skips⟩ := bind_eq_ok skips
        split at skips
        · cases skips
        · next comma =>
            obtain ⟨tree, here⟩ := value _ _ first (follows_of_skipBlanks comma (Or.inl rfl))
            obtain ⟨trees, later⟩ := items _ _ skips
            exact ⟨_, .item here comma later⟩
        · next closes =>
            cases skips
            obtain ⟨tree, here⟩ :=
              value _ _ first (follows_of_skipBlanks closes (Or.inr (Or.inl rfl)))
            exact ⟨_, .lastItem here closes⟩
        · cases skips
      · intro source rest skips
        rw [skipMembersIn] at skips
        split at skips
        · cases skips
        · next opens =>
            obtain ⟨colon, name, skips⟩ := bind_eq_ok skips
            obtain ⟨literal, quoted, text⟩ := isQuoted_of_skipText name
            rw [text] at opens
            split at skips
            · cases skips
            · next inner between =>
                obtain ⟨middle, first, skips⟩ := bind_eq_ok skips
                split at skips
                · cases skips
                · next comma =>
                    obtain ⟨tree, here⟩ :=
                      value _ _ first (follows_of_skipBlanks comma (Or.inl rfl))
                    obtain ⟨others, later⟩ := members _ _ skips
                    exact ⟨_, .member opens quoted between here comma later⟩
                · next closes =>
                    cases skips
                    obtain ⟨tree, here⟩ :=
                      value _ _ first (follows_of_skipBlanks closes (Or.inr (Or.inr rfl)))
                    exact ⟨_, .lastMember opens quoted between here closes⟩
                · cases skips
            · cases skips
        · cases skips

theorem spans_of_skipValue {source rest : Source} (skips : skipValue source = .ok rest)
    (follows : Follows rest) : ∃ tree, Spans (.value tree) source rest :=
  (spans_of_skip _).1 source rest skips follows

/-! ### One tree for each text -/

def Phrase.Alike : Phrase → Phrase → Prop
  | .value _, .value _ => True
  | .items _, .items _ => True
  | .members _, .members _ => True
  | _, _ => False

theorem Phrase.Alike.skip_eq {phrase other : Phrase} (alike : phrase.Alike other) :
    (∀ fuel, phrase.skip fuel = other.skip fuel) ∧ phrase.slack = other.slack := by
  unfold Alike at alike
  split at alike
  · exact ⟨fun _ => rfl, rfl⟩
  · exact ⟨fun _ => rfl, rfl⟩
  · exact ⟨fun _ => rfl, rfl⟩
  · exact alike.elim

theorem Spans.rest_unique {phrase other : Phrase} {source rest left : Source}
    (spans : Spans phrase source rest) (again : Spans other source left)
    (alike : phrase.Alike other) : rest = left := by
  obtain ⟨skips, slack⟩ := alike.skip_eq
  have first := skip_spanned spans (Nat.le_refl _)
  have second := skip_spanned again (Nat.le_refl _)
  rw [skips, slack, second] at first
  exact (Except.ok.inj first).symm

inductive Shape where
  | null
  | yes
  | no
  | number
  | text
  | list
  | object

def Tree.shape : Tree → Shape
  | .null => .null
  | .flag true => .yes
  | .flag false => .no
  | .number _ => .number
  | .text _ => .text
  | .list _ => .list
  | .object _ => .object

def shapeOf (char : Char) : Shape :=
  match char with
  | 'n' => .null
  | 't' => .yes
  | 'f' => .no
  | '"' => .text
  | '[' => .list
  | '\x7b' => .object
  | _ => .number

theorem Tree.OpensWith.shape_eq {tree : Tree} {char : Char} (opens : tree.OpensWith char) :
    tree.shape = shapeOf char := by
  cases tree with
  | flag value => cases value <;> (cases opens; rfl)
  | number literal =>
      unfold shapeOf
      split
      case h_7 => rfl
      all_goals exact absurd opens (by simp [OpensWith, isDigit])
  | null | text literal | list items | object members =>
      cases opens
      rfl

theorem Tree.OpensWith.eq_null {tree : Tree} (opens : tree.OpensWith 'n') : tree = .null := by
  have same := opens.shape_eq
  cases tree with
  | null => rfl
  | flag value => cases value <;> cases same
  | _ => cases same

theorem Spans.shape_eq {tree other : Tree} {source rest left : Source}
    (spans : Spans (.value tree) source rest) (again : Spans (.value other) source left) :
    tree.shape = other.shape := by
  obtain ⟨char, tail, opens, first⟩ := spans.opens
  obtain ⟨found, behind, same, second⟩ := again.opens
  rw [opens] at same
  cases same
  rw [first.shape_eq, second.shape_eq]

theorem skipBlanks_inj {source rest left : Source} {char found : Char}
    (opens : skipBlanks source = char :: rest) (again : skipBlanks source = found :: left) :
    char = found ∧ rest = left :=
  List.cons.inj (opens.symm.trans again)

theorem member_unique {source colon inner left behind : Source} {literal other : Literal}
    (opens : skipBlanks source = '"' :: (literal ++ '"' :: colon)) (quoted : IsQuoted literal)
    (between : skipBlanks colon = ':' :: inner)
    (again : skipBlanks source = '"' :: (other ++ '"' :: left)) (written : IsQuoted other)
    (second : skipBlanks left = ':' :: behind) : literal = other ∧ inner = behind := by
  obtain ⟨same, rfl⟩ := quoted_unique quoted written (skipBlanks_inj opens again).2
  exact ⟨same, (skipBlanks_inj between second).2⟩

theorem Spans.phrase_unique {phrase other : Phrase} {source rest left : Source}
    (spans : Spans phrase source rest) (again : Spans other source left)
    (alike : phrase.Alike other) : phrase = other := by
  have ends := spans.rest_unique again alike
  -- The second reading follows the same rule, as what opens a value and what stands behind it
  -- are the same for both.
  induction spans generalizing other left with
  | null opens =>
      cases other with
      | value other =>
          have same := (Spans.null opens).shape_eq again
          cases again with
          | null _ => rfl
          | _ => cases same
      | _ => cases alike
  | yes opens =>
      cases other with
      | value other =>
          have same := (Spans.yes opens).shape_eq again
          cases again with
          | yes _ => rfl
          | _ => cases same
      | _ => cases alike
  | no opens =>
      cases other with
      | value other =>
          have same := (Spans.no opens).shape_eq again
          cases again with
          | no _ => rfl
          | _ => cases same
      | _ => cases alike
  | number opens written follows =>
      cases other with
      | value other =>
          have same := (Spans.number opens written follows).shape_eq again
          cases again with
          | number second _ _ =>
              have literals := opens.symm.trans second
              rw [ends] at literals
              rw [List.append_cancel_right literals]
          | _ => cases same
      | _ => cases alike
  | text opens quoted =>
      cases other with
      | value other =>
          have same := (Spans.text opens quoted).shape_eq again
          cases again with
          | text second also =>
              have inner := (skipBlanks_inj opens second).2
              rw [(quoted_unique quoted also inner).1]
          | _ => cases same
      | _ => cases alike
  | emptyList opens closes =>
      cases other with
      | value other =>
          have same := (Spans.emptyList opens closes).shape_eq again
          cases again with
          | emptyList _ _ => rfl
          | list second items =>
              obtain ⟨char, tail, begins, inside⟩ := items.items_open
              rw [← (skipBlanks_inj opens second).2] at begins
              exact absurd (skipBlanks_inj begins closes).1 inside
          | _ => cases same
      | _ => cases alike
  | list opens items ih =>
      cases other with
      | value other =>
          have same := (Spans.list opens items).shape_eq again
          cases again with
          | emptyList second closes =>
              obtain ⟨char, tail, begins, inside⟩ := items.items_open
              rw [(skipBlanks_inj opens second).2] at begins
              exact absurd (skipBlanks_inj begins closes).1 inside
          | list second others =>
              rw [← (skipBlanks_inj opens second).2] at others
              cases ih others trivial (items.rest_unique others trivial)
              rfl
          | _ => cases same
      | _ => cases alike
  | emptyObject opens closes =>
      cases other with
      | value other =>
          have same := (Spans.emptyObject opens closes).shape_eq again
          cases again with
          | emptyObject _ _ => rfl
          | object second members =>
              obtain ⟨tail, begins⟩ := members.members_open
              rw [← (skipBlanks_inj opens second).2] at begins
              have quote := (skipBlanks_inj begins closes).1
              contradiction
          | _ => cases same
      | _ => cases alike
  | object opens members ih =>
      cases other with
      | value other =>
          have same := (Spans.object opens members).shape_eq again
          cases again with
          | emptyObject second closes =>
              obtain ⟨tail, begins⟩ := members.members_open
              rw [(skipBlanks_inj opens second).2] at begins
              have quote := (skipBlanks_inj begins closes).1
              contradiction
          | object second others =>
              rw [← (skipBlanks_inj opens second).2] at others
              cases ih others trivial (members.rest_unique others trivial)
              rfl
          | _ => cases same
      | _ => cases alike
  | lastItem value closes ih =>
      cases other with
      | items others =>
          cases again with
          | lastItem second _ =>
              cases ih second trivial (value.rest_unique second trivial)
              rfl
          | item second comma _ =>
              obtain rfl := value.rest_unique second trivial
              have bracket := (skipBlanks_inj closes comma).1
              contradiction
      | _ => cases alike
  | item value comma items ih later =>
      cases other with
      | items others =>
          cases again with
          | lastItem second closes =>
              obtain rfl := value.rest_unique second trivial
              have bracket := (skipBlanks_inj comma closes).1
              contradiction
          | item second also others =>
              obtain rfl := value.rest_unique second trivial
              rw [← (skipBlanks_inj comma also).2] at others
              cases ih second trivial rfl
              cases later others trivial (items.rest_unique others trivial)
              rfl
      | _ => cases alike
  | lastMember opens quoted colon value closes ih =>
      cases other with
      | members others =>
          cases again with
          | lastMember begins written between second _ =>
              obtain ⟨rfl, rfl⟩ := member_unique opens quoted colon begins written between
              cases ih second trivial (value.rest_unique second trivial)
              rfl
          | member begins written between second comma _ =>
              obtain ⟨rfl, rfl⟩ := member_unique opens quoted colon begins written between
              obtain rfl := value.rest_unique second trivial
              have brace := (skipBlanks_inj closes comma).1
              contradiction
      | _ => cases alike
  | member opens quoted colon value comma members ih later =>
      cases other with
      | members others =>
          cases again with
          | lastMember begins written between second closes =>
              obtain ⟨rfl, rfl⟩ := member_unique opens quoted colon begins written between
              obtain rfl := value.rest_unique second trivial
              have brace := (skipBlanks_inj comma closes).1
              contradiction
          | member begins written between second also others =>
              obtain ⟨rfl, rfl⟩ := member_unique opens quoted colon begins written between
              obtain rfl := value.rest_unique second trivial
              rw [← (skipBlanks_inj comma also).2] at others
              cases ih second trivial rfl
              cases later others trivial (members.rest_unique others trivial)
              rfl
      | _ => cases alike

theorem Spans.tree_unique {tree other : Tree} {source rest left : Source}
    (spans : Spans (.value tree) source rest) (again : Spans (.value other) source left) :
    tree = other := by
  cases spans.phrase_unique again trivial
  rfl

theorem Document.tree_unique {document : Source} {tree other : Tree}
    (written : Document document tree) (again : Document document other) : tree = other := by
  obtain ⟨_, spans, _⟩ := written
  obtain ⟨_, second, _⟩ := again
  exact spans.tree_unique second

end Reactor.Json
