import Reactor.Proofs.Json.Skipping

/-!
The readers of simple values against the trees of what they read. A reader decodes a tree if it
takes a text exactly when the text is written like a tree that has a value, and gives that value.
-/

namespace Reactor.Json

/-- The reader gives to a text the value of its tree, and fails on a tree without a value. -/
structure Decodes {α : Type} (read : Reader α) (decode : Tree → Option α) : Prop where
  sound : ∀ {source value rest}, read source = .ok (value, rest) → Follows rest →
    ∃ tree, Spans (.value tree) source rest ∧ decode tree = some value
  complete : ∀ {tree source value rest}, Spans (.value tree) source rest →
    decode tree = some value → read source = .ok (value, rest)

theorem Decodes.map {α β : Type} {read : Reader α} {decode : Tree → Option α}
    (decodes : Decodes read decode) (change : α → β) :
    Decodes (fun source => (read source).map fun (value, rest) => (change value, rest))
      (fun tree => (decode tree).map change) := by
  constructor
  · intro source value rest reads follows
    obtain ⟨⟨found, left⟩, inner, same⟩ := map_eq_ok reads
    cases same
    obtain ⟨tree, spans, known⟩ := decodes.sound inner follows
    exact ⟨tree, spans, by rw [known]; rfl⟩
  · intro tree source value rest spans known
    obtain ⟨found, inner, rfl⟩ := Option.map_eq_some_iff.mp known
    rw [decodes.complete spans inner]
    rfl

def Tree.flag? : Tree → Option Bool
  | .flag value => some value
  | _ => none

theorem decodes_readFlag : Decodes readFlag Tree.flag? := by
  constructor
  · intro source value rest reads _
    unfold readFlag at reads
    split at reads
    · cases reads
    · next opens =>
        obtain ⟨left, word, same⟩ := map_eq_ok reads
        cases same
        exact ⟨_, .yes (by rw [opens, written_of_finishWord word]; rfl), rfl⟩
    · next opens =>
        obtain ⟨left, word, same⟩ := map_eq_ok reads
        cases same
        exact ⟨_, .no (by rw [opens, written_of_finishWord word]; rfl), rfl⟩
    · cases reads
  · intro tree source value rest spans known
    cases spans with
    | yes opens =>
        cases known
        simp [readFlag, opens, finishWord, Except.map]
    | no opens =>
        cases known
        simp [readFlag, opens, finishWord, Except.map]
    | _ => cases known

/-- The text that a literal stands for, if it stands for one. -/
def text? (literal : Literal) : Option String :=
  match readTextChars (literal ++ ['"']) with
  | .ok (chars, []) => some (String.ofList chars)
  | _ => none

theorem text?_eq_some_iff {literal : Literal} {text : String} :
    text? literal = some text ↔ Spells literal text.toList := by
  constructor
  · intro known
    unfold text? at known
    split at known
    · next reads =>
        cases known
        obtain ⟨other, spelled, same⟩ := spells_of_readTextChars reads
        rw [List.append_cancel_right same, String.toList_ofList]
        exact spelled
    · cases known
  · intro spelled
    unfold text?
    rw [readTextChars_spelled spelled []]
    simp [String.ofList_toList]

theorem readText_spelled {literal : Literal} {text : String} (known : text? literal = some text)
    (rest : Source) : readText (literal ++ '"' :: rest) = .ok (text, rest) := by
  unfold readText
  rw [readTextChars_spelled (text?_eq_some_iff.mp known)]
  simp [Except.map, String.ofList_toList]

theorem text?_of_readText {source rest : Source} {text : String}
    (reads : readText source = .ok (text, rest)) :
    ∃ literal, IsQuoted literal ∧ text? literal = some text ∧ source = literal ++ '"' :: rest := by
  unfold readText at reads
  obtain ⟨⟨chars, left⟩, taken, same⟩ := map_eq_ok reads
  cases same
  obtain ⟨literal, spelled, split⟩ := spells_of_readTextChars taken
  refine ⟨literal, spelled.quoted, ?_, split⟩
  rw [text?_eq_some_iff, String.toList_ofList]
  exact spelled

def Tree.text? : Tree → Option String
  | .text literal => Json.text? literal
  | _ => none

theorem decodes_readString (wanted : String) : Decodes (readString wanted) Tree.text? := by
  constructor
  · intro source value rest reads _
    unfold readString at reads
    split at reads
    · cases reads
    · next opens =>
        obtain ⟨literal, quoted, known, split⟩ := text?_of_readText reads
        exact ⟨_, .text (by rw [opens, split]) quoted, known⟩
    · cases reads
  · intro tree source value rest spans known
    cases spans with
    | text opens quoted => simp [readString, opens, readText_spelled known]
    | _ => cases known

def Tree.optional {α : Type} (decode : Tree → Option α) : Tree → Option (Option α)
  | .null => some none
  | tree => (decode tree).map some

theorem Tree.optional_eq_some {α : Type} {decode : Tree → Option α} {tree : Tree}
    {value : Option α} (known : Tree.optional decode tree = some value) :
    tree = .null ∧ value = none ∨ tree ≠ .null ∧ ∃ found, decode tree = some found ∧ value = some found := by
  cases tree with
  | null =>
      cases known
      exact Or.inl ⟨rfl, rfl⟩
  | _ =>
      obtain ⟨found, inner, rfl⟩ := Option.map_eq_some_iff.mp known
      exact Or.inr ⟨nofun, found, inner, rfl⟩

theorem Decodes.optional {α : Type} {read : Reader α} {decode : Tree → Option α}
    (decodes : Decodes read decode) : Decodes (readOptional read) (Tree.optional decode) := by
  constructor
  · intro source value rest reads follows
    unfold readOptional at reads
    split at reads
    · next opens =>
        obtain ⟨left, word, same⟩ := map_eq_ok reads
        cases same
        exact ⟨_, .null (by rw [opens, written_of_finishWord word]; rfl), rfl⟩
    · next other =>
        obtain ⟨⟨found, left⟩, inner, same⟩ := map_eq_ok reads
        cases same
        obtain ⟨tree, spans, known⟩ := decodes.sound inner follows
        refine ⟨tree, spans.blanks (skipBlanks_idem source).symm, ?_⟩
        cases tree with
        | null =>
            obtain ⟨char, tail, opens, first⟩ := spans.opens
            rw [skipBlanks_idem] at opens
            exact absurd opens (first ▸ other tail)
        | _ => simp [Tree.optional, known]
  · intro tree source value rest spans known
    rcases Tree.optional_eq_some known with ⟨rfl, rfl⟩ | ⟨apart, found, inner, rfl⟩
    · cases spans with
      | null opens => simp [readOptional, opens, finishWord, Except.map]
    · have reads := decodes.complete (spans.blanks (skipBlanks_idem source)) inner
      unfold readOptional
      split
      · next opens =>
          obtain ⟨char, tail, begins, first⟩ := spans.opens
          rw [(skipBlanks_inj begins opens).1] at first
          exact absurd first.eq_null apart
      · rw [reads]
        rfl

/-! ### Words -/

/-- The word that a number is, if it is one: nothing but digits, within 64 bits. -/
def word? (literal : Literal) : Option UInt64 :=
  if literal.all isDigit ∧ Nat.ofDigitChars 10 literal 0 ≤ greatestWord then
    some (UInt64.ofNat (Nat.ofDigitChars 10 literal 0))
  else
    none

def Tree.word? : Tree → Option UInt64
  | .number literal => Json.word? literal
  | _ => none

theorem IsNumber.whole {literal : Literal} (written : IsNumber literal)
    (all : ∀ char ∈ literal, isDigit char = true) : IsWhole literal := by
  cases written with
  | @parts sign digits fraction exponent signed whole fractional scale =>
      have unsigned : sign = [] := signed.resolve_right fun minus => by
        have digit := all '-' (by simp [minus])
        contradiction
      have unbroken : fraction = [] := by
        cases fractional with
        | nil => rfl
        | digits digits =>
            have digit := all '.' (by simp)
            contradiction
      have unscaled : exponent = [] := by
        cases scale with
        | nil => rfl
        | @digits mark _ _ marked sign digits =>
            have digit := all mark (by simp)
            rcases marked with rfl | rfl <;> contradiction
      simpa [unsigned, unbroken, unscaled] using whole

theorem gather_eq {source rest : Source} {word count grown counted : Nat}
    (gathers : gather word count source = (grown, counted, rest)) :
    ∃ digits, (∀ char ∈ digits, isDigit char = true) ∧ source = digits ++ rest
      ∧ grown = Nat.ofDigitChars 10 digits word ∧ (word ≤ greatestWord → grown ≤ greatestWord) := by
  induction source generalizing word count with
  | nil =>
      cases gathers
      exact ⟨[], nofun, rfl, by simp, id⟩
  | cons char tail ih =>
      rw [gather] at gathers
      split at gathers
      · next more =>
          obtain ⟨digits, all, split, value, fits⟩ := ih gathers
          refine ⟨char :: digits, List.forall_mem_cons.mpr ⟨more.1, all⟩, by rw [split]; rfl, ?_, ?_⟩
          · rw [value, Nat.ofDigitChars_cons, digitValue, Nat.mul_comm]
          · intro _
            exact fits more.2
      · cases gathers
        exact ⟨[], nofun, rfl, by simp, id⟩

/-! A point or an exponent makes a number a decimal, whatever its value. -/

theorem finishDecimal_ne_whole {negative : Bool} {word : Nat} {power : Int} {source rest : Source}
    {value : Int} : finishDecimal negative word power source ≠ .ok (.whole value, rest) := by
  unfold finishDecimal
  split <;> nofun

theorem readExponent_ne_whole {negative : Bool} {word : Nat} {power : Int} {source rest : Source}
    {value : Int} : readExponent negative word power source ≠ .ok (.whole value, rest) := by
  unfold readExponent
  dsimp only
  split
  · nofun
  · split
    · exact finishDecimal_ne_whole
    · nofun

theorem readScale_ne_whole {negative : Bool} {word : Nat} {power : Int} {source rest : Source}
    {value : Int} : readScale negative word power source ≠ .ok (.whole value, rest) := by
  unfold readScale
  split
  · exact readExponent_ne_whole
  · exact readExponent_ne_whole
  · exact finishDecimal_ne_whole

theorem readFraction_ne_whole {negative : Bool} {word : Nat} {power : Int} {source rest : Source}
    {value : Int} : readFraction negative word power source ≠ .ok (.whole value, rest) := by
  unfold readFraction
  dsimp only
  split
  · split
    · nofun
    · exact readScale_ne_whole
  · split
    · exact readScale_ne_whole
    · split
      · nofun
      · exact readScale_ne_whole

theorem readLongTail_ne_whole {negative : Bool} {word : Nat} {source rest : Source}
    {value : Int} : readLongTail negative word source ≠ .ok (.whole value, rest) := by
  unfold readLongTail
  dsimp only
  split
  · exact readFraction_ne_whole
  · exact readScale_ne_whole

theorem readTail_eq_whole {negative : Bool} {word : Nat} {source rest : Source} {value : Int}
    (reads : readTail negative word source = .ok (.whole value, rest)) :
    signed negative word = .whole value ∧ source = rest := by
  unfold readTail at reads
  split at reads
  · exact absurd reads readFraction_ne_whole
  · exact absurd reads readExponent_ne_whole
  · exact absurd reads readExponent_ne_whole
  · simp only [Except.ok.injEq, Prod.mk.injEq] at reads
    exact reads

theorem isWhole_of_readMagnitude {negative : Bool} {source rest : Source} {value : Int}
    (reads : readMagnitude negative source = .ok (.whole value, rest)) :
    ∃ digits, IsWhole digits ∧ source = digits ++ rest
      ∧ Nat.ofDigitChars 10 digits 0 ≤ greatestWord
      ∧ signed negative (Nat.ofDigitChars 10 digits 0) = .whole value := by
  have zero : IsWhole ['0'] := ⟨⟨by simp, by simp [isDigit]⟩, fun _ => rfl⟩
  unfold readMagnitude at reads
  split at reads
  · cases reads
  · split at reads
    · split at reads
      · cases reads
      · obtain ⟨same, rfl⟩ := readTail_eq_whole reads
        exact ⟨['0'], zero, rfl, by decide, same⟩
    · obtain ⟨same, rfl⟩ := readTail_eq_whole reads
      exact ⟨['0'], zero, rfl, by decide, same⟩
  · next _ char tail other =>
      split at reads
      · next first =>
          rcases gathered : gather 0 0 (char :: tail) with ⟨word, count, left⟩
          rw [gathered] at reads
          dsimp only at reads
          have tails : readTail negative word left = .ok (.whole value, rest)
              ∧ ∀ next ∈ left.head?, isDigit next = false := by
            split at reads
            · next next later =>
                split at reads
                · exact absurd reads readLongTail_ne_whole
                · next stop => exact ⟨reads, by simpa using stop⟩
            · exact ⟨reads, by simp⟩
          obtain ⟨digits, all, behind, grown, fits⟩ := gather_eq gathered
          obtain ⟨same, rfl⟩ := readTail_eq_whole tails.1
          rw [grown] at same fits
          have inhabited : digits ≠ [] := by
            rintro rfl
            have stop := tails.2 char (by rw [← List.nil_append left, ← behind]; rfl)
            rw [first] at stop
            cases stop
          refine ⟨digits, ⟨⟨inhabited, all⟩, ?_⟩, behind, fits (Nat.zero_le _), same⟩
          intro opens
          obtain ⟨digit, others, split⟩ := List.exists_cons_of_ne_nil inhabited
          rw [split] at behind opens
          exact absurd ((List.cons.inj behind).1.trans (Option.some.inj opens)) other
      · cases reads

theorem signed_negative_lt {word : Nat} {value : Int} (same : signed true word = .whole value) :
    value < 0 := by
  unfold signed at same
  rw [if_neg (by decide)] at same
  split at same
  · next positive =>
      cases same
      omega
  · cases same

theorem isWhole_of_readNumber {source rest : Source} {value : Int}
    (reads : readNumber source = .ok (.whole value, rest)) (natural : 0 ≤ value) :
    ∃ digits, IsWhole digits ∧ source = digits ++ rest
      ∧ Nat.ofDigitChars 10 digits 0 ≤ greatestWord
      ∧ value = Nat.ofDigitChars 10 digits 0 := by
  unfold readNumber at reads
  split at reads
  · obtain ⟨digits, _, _, _, same⟩ := isWhole_of_readMagnitude reads
    have below := signed_negative_lt same
    omega
  · obtain ⟨digits, whole, split, fits, same⟩ := isWhole_of_readMagnitude reads
    cases same
    exact ⟨digits, whole, split, fits, rfl⟩

theorem IsWhole.number {digits : List Char} (whole : IsWhole digits) : IsNumber digits := by
  have written := IsNumber.parts (Or.inl rfl) whole .nil .nil
  simpa using written

theorem word?_whole {digits : List Char} (whole : IsWhole digits)
    (fits : Nat.ofDigitChars 10 digits 0 ≤ greatestWord) :
    word? digits = some (UInt64.ofNat (Nat.ofDigitChars 10 digits 0)) :=
  if_pos ⟨List.all_eq_true.mpr whole.all, fits⟩

theorem decodes_readWord (wanted : String) : Decodes (readWord wanted) Tree.word? := by
  constructor
  · intro source value rest reads follows
    unfold readWord at reads
    split at reads
    · cases reads
    · next char tail opens =>
        split at reads
        · split at reads
          · next number left found =>
              split at reads
              · next natural =>
                  cases reads
                  obtain ⟨digits, whole, split, fits, same⟩ := isWhole_of_readNumber found natural
                  refine ⟨_, .number (opens.trans split) whole.number follows, ?_⟩
                  rw [Tree.word?, word?_whole whole fits, same, Int.toNat_natCast]
              · cases reads
          · cases reads
          · cases reads
        · cases reads
  · intro tree source value rest spans known
    cases spans with
    | @number literal _ _ opens written follows =>
        rw [Tree.word?, Json.word?] at known
        split at known
        · next digits =>
            cases known
            have whole := written.whole (List.all_eq_true.mp digits.1)
            have reads := readNumber_whole whole digits.2 follows.ends
            obtain ⟨char, others, split, first⟩ := whole.toIsDigits.cons
            have opened : skipBlanks source = char :: (others ++ rest) := by rw [opens, split]; rfl
            have found : readNumber (char :: (others ++ rest))
                = .ok (.whole (Nat.ofDigitChars 10 literal 0), rest) := by
              rw [← List.cons_append, ← split]
              exact reads
            simp [readWord, opened, first, found]
        · cases known
    | _ => cases known

end Reactor.Json
