import Reactor.Proofs.Json.Grammar
import Reactor.Proofs.Json.Records

/-!
The scanners of texts and numbers against their grammar. Each takes a literal off the front of a
source exactly if one stands there, and stops where the literal ends.
-/

namespace Reactor.Json

theorem IsUnit.length_eq {digits : List Char} {unit : Nat} (written : IsUnit digits unit) :
    digits.length = 4 := by
  cases written
  rfl

theorem hexUnit_digits {digits : List Char} {unit : Nat} (written : IsUnit digits unit)
    (rest : Source) : hexUnit (digits ++ rest) = .ok unit := by
  cases written with
  | digits first second third fourth => simp [hexUnit, first, second, third, fourth]

theorem isUnit_of_hexUnit {source : Source} {unit : Nat} (reads : hexUnit source = .ok unit) :
    ∃ digits, IsUnit digits unit ∧ source = digits ++ source.drop 4 := by
  unfold hexUnit at reads
  split at reads
  · split at reads
    · next first second third fourth =>
        cases reads
        exact ⟨_, .digits first second third fourth, rfl⟩
    · cases reads
  · dsimp only at reads
    split at reads <;> cases reads

theorem escape_letter {letter char : Char} (stands : letterEscape letter = some char)
    (rest : Source) : escape (letter :: rest) = .ok (char, 1) := by
  unfold letterEscape at stands
  split at stands <;> cases stands <;> rfl

theorem letterEscape_ne_u {letter char : Char} (stands : letterEscape letter = some char) :
    letter ≠ 'u' := by
  rintro rfl
  cases stands

theorem unicodeEscape_pair {digits others : List Char} {leading trailing : Nat}
    (first : IsUnit digits leading) (opens : isLeading leading = true)
    (second : IsUnit others trailing) (closes : isTrailing trailing = true) (rest : Source) :
    unicodeEscape (digits ++ '\\' :: 'u' :: (others ++ rest))
      = .ok (Char.ofNat ((leading - 0xd800) * 0x400 + (trailing - 0xdc00) + 0x10000), 10) := by
  have single : isTrailing leading = false := by
    simp [isLeading, isTrailing] at opens ⊢
    omega
  have behind : (digits ++ '\\' :: 'u' :: (others ++ rest)).drop 4
      = '\\' :: 'u' :: (others ++ rest) := List.drop_left' first.length_eq
  simp [unicodeEscape, hexUnit_digits first, hexUnit_digits second, single, opens, closes, behind,
    bind, Except.bind]

theorem escape_written {letters : List Char} {char : Char} (written : IsEscape letters char)
    (rest : Source) : escape (letters ++ rest) = .ok (char, letters.length) := by
  cases written with
  | letter stands => exact escape_letter stands rest
  | unit written low high =>
      simp [escape, unicodeEscape, hexUnit_digits written, low, high, written.length_eq, bind,
        Except.bind, Except.map]
  | pair first opens second closes =>
      have pair := unicodeEscape_pair first opens second closes rest
      simp [escape, pair, first.length_eq, second.length_eq, Except.map]

theorem eq_append_drop {source front back : Source} {length : Nat}
    (counted : front.length = length) (whole : source = front ++ back) :
    source = front ++ source.drop length := by
  rw [whole, List.drop_left' counted]

theorem isEscape_of_unicodeEscape {source : Source} {char : Char} {length : Nat}
    (reads : unicodeEscape source = .ok (char, length)) :
    ∃ letters, IsEscape ('u' :: letters) char ∧ letters.length = length
      ∧ source = letters ++ source.drop length := by
  unfold unicodeEscape at reads
  obtain ⟨unit, first, reads⟩ := bind_eq_ok reads
  obtain ⟨digits, written, split⟩ := isUnit_of_hexUnit first
  split at reads
  · cases reads
  · next low =>
      split at reads
      · next high =>
          split at reads
          · cases reads
          · cases reads
          · next behind =>
              obtain ⟨trailing, second, reads⟩ := bind_eq_ok reads
              obtain ⟨others, also, tail⟩ := isUnit_of_hexUnit second
              split at reads
              · next closes =>
                  simp only [Except.ok.injEq, Prod.mk.injEq] at reads
                  obtain ⟨rfl, rfl⟩ := reads
                  have counted : (digits ++ '\\' :: 'u' :: others).length = 10 := by
                    simp [written.length_eq, also.length_eq]
                  refine ⟨_, .pair written high also closes, counted, ?_⟩
                  apply eq_append_drop counted
                  rw [split, behind]
                  simpa using tail
              · cases reads
          · cases reads
      · next high =>
          cases reads
          refine ⟨digits, .unit written ?_ ?_, written.length_eq, split⟩
          · simpa using high
          · simpa using low

theorem isEscape_of_escape {source : Source} {char : Char} {length : Nat}
    (reads : escape source = .ok (char, length)) :
    ∃ letters, IsEscape letters char ∧ letters.length = length
      ∧ source = letters ++ source.drop length := by
  unfold escape at reads
  split at reads
  case h_1 => cases reads
  case h_11 => cases reads
  case h_10 rest =>
    obtain ⟨⟨found, taken⟩, escaped, same⟩ := map_eq_ok reads
    cases same
    obtain ⟨letters, written, counted, split⟩ := isEscape_of_unicodeEscape escaped
    refine ⟨'u' :: letters, written, by simp [counted], ?_⟩
    simpa using split
  all_goals
    cases reads
    exact ⟨_, .letter rfl, rfl, rfl⟩

theorem readTextChars_plain {char : Char} (plain : IsPlain char) {rest left : Source}
    {chars : List Char} (taken : readTextChars rest = .ok (chars, left)) :
    readTextChars (char :: rest) = .ok (char :: chars, left) := by
  rw [readTextChars]
  · simp [plain.printed, taken, bind, Except.bind]
  · exact plain.notQuote
  · exact plain.notBackslash

theorem readTextChars_spelled {literal : Literal} {chars : List Char}
    (spelled : Spells literal chars) (rest : Source) :
    readTextChars (literal ++ '"' :: rest) = .ok (chars, rest) := by
  induction spelled with
  | nil => rw [List.nil_append, readTextChars]
  | plain plain spelled ih => exact readTextChars_plain plain ih
  | escape written spelled ih =>
      rw [List.cons_append, List.append_assoc]
      exact readTextChars_escape _ (escape_written written _) ih

theorem spells_of_readTextChars {source rest : Source} {chars : List Char}
    (reads : readTextChars source = .ok (chars, rest)) :
    ∃ literal, Spells literal chars ∧ source = literal ++ '"' :: rest := by
  fun_induction readTextChars source generalizing chars with
  | case1 => cases reads
  | case2 rest' =>
      cases reads
      exact ⟨[], .nil, rfl⟩
  | case3 rest' ih =>
      obtain ⟨⟨char, length⟩, escaped, reads⟩ := bind_eq_ok reads
      obtain ⟨⟨others, left⟩, taken, reads⟩ := bind_eq_ok reads
      cases reads
      obtain ⟨letters, written, _, split⟩ := isEscape_of_escape escaped
      obtain ⟨literal, spelled, behind⟩ := ih length taken
      refine ⟨_, .escape written spelled, ?_⟩
      rw [split, behind]
      simp
  | case4 char rest' notQuote notBackslash control => cases reads
  | case5 char rest' notQuote notBackslash printed ih =>
      obtain ⟨⟨others, left⟩, taken, reads⟩ := bind_eq_ok reads
      cases reads
      obtain ⟨literal, spelled, behind⟩ := ih taken
      exact ⟨_, .plain ⟨notQuote, notBackslash, printed⟩ spelled, by rw [behind]; rfl⟩

/-! ### Texts that nobody reads -/

theorem Spells.quoted {literal : Literal} {chars : List Char} (spelled : Spells literal chars) :
    IsQuoted literal := by
  induction spelled with
  | nil => exact .nil
  | plain plain spelled ih => exact .plain plain ih
  | escape written spelled ih =>
      cases written with
      | letter stands => exact .letter stands ih
      | unit written low high => exact .unit written ih
      | pair first opens second closes =>
          have tail := IsQuoted.unit first (IsQuoted.unit second ih)
          simpa using tail

theorem escapeLength_letter {letter char : Char} (stands : letterEscape letter = some char)
    (rest : Source) : escapeLength (letter :: rest) = .ok 1 := by
  have other := letterEscape_ne_u stands
  unfold escapeLength
  split
  · next found => exact absurd (List.cons.inj found).1 other
  · rw [escape_letter stands]
    rfl

theorem escapeLength_unit {digits : List Char} {unit : Nat} (written : IsUnit digits unit)
    (rest : Source) : escapeLength ('u' :: (digits ++ rest)) = .ok 5 := by
  simp [escapeLength, hexUnit_digits written, Except.map]

theorem skipText_escape (letters : List Char) {rest left : Source}
    (counted : escapeLength (letters ++ rest) = .ok letters.length)
    (taken : skipText rest = .ok left) : skipText ('\\' :: (letters ++ rest)) = .ok left := by
  rw [skipText, counted]
  simp [taken, bind, Except.bind]

theorem skipText_quoted {literal : Literal} (quoted : IsQuoted literal) (rest : Source) :
    skipText (literal ++ '"' :: rest) = .ok rest := by
  induction quoted with
  | nil => rw [List.nil_append, skipText]
  | plain plain quoted ih =>
      rw [List.cons_append, skipText]
      · simp [plain.printed, ih]
      · exact plain.notQuote
      · exact plain.notBackslash
  | letter stands quoted ih => exact skipText_escape [_] (escapeLength_letter stands _) ih
  | @unit digits unit literal written quoted ih =>
      have counted : escapeLength (('u' :: digits) ++ (literal ++ '"' :: rest))
          = .ok ('u' :: digits).length := by
        rw [List.length_cons, written.length_eq]
        exact escapeLength_unit written _
      have taken := skipText_escape _ counted ih
      simpa using taken

theorem isQuoted_of_escapeLength {source : Source} {length : Nat}
    (reads : escapeLength source = .ok length) :
    ∃ letters, source = letters ++ source.drop length
      ∧ ∀ literal, IsQuoted literal → IsQuoted ('\\' :: (letters ++ literal)) := by
  unfold escapeLength at reads
  split at reads
  · obtain ⟨unit, found, same⟩ := map_eq_ok reads
    cases same
    obtain ⟨digits, written, split⟩ := isUnit_of_hexUnit found
    refine ⟨'u' :: digits, ?_, fun literal quoted => .unit written quoted⟩
    simpa using split
  · next notUnit =>
      obtain ⟨⟨char, taken⟩, escaped, same⟩ := map_eq_ok reads
      cases same
      obtain ⟨letters, written, _, split⟩ := isEscape_of_escape escaped
      refine ⟨letters, split, fun literal quoted => ?_⟩
      cases written with
      | letter stands => exact .letter stands quoted
      | unit written low high => exact absurd split (notUnit _)
      | pair first opens second closes => exact absurd split (notUnit _)

theorem isQuoted_of_skipText {source rest : Source} (skips : skipText source = .ok rest) :
    ∃ literal, IsQuoted literal ∧ source = literal ++ '"' :: rest := by
  fun_induction skipText source with
  | case1 => cases skips
  | case2 rest' =>
      cases skips
      exact ⟨[], .nil, rfl⟩
  | case3 rest' ih =>
      obtain ⟨length, counted, skips⟩ := bind_eq_ok skips
      obtain ⟨letters, split, quoted⟩ := isQuoted_of_escapeLength counted
      obtain ⟨literal, inner, behind⟩ := ih length skips
      refine ⟨_, quoted literal inner, ?_⟩
      rw [split, behind]
      simp
  | case4 char rest' notQuote notBackslash control => cases skips
  | case5 char rest' notQuote notBackslash printed ih =>
      obtain ⟨literal, quoted, behind⟩ := ih skips
      exact ⟨_, .plain ⟨notQuote, notBackslash, printed⟩ quoted, by rw [behind]; rfl⟩

/-- A literal ends at the first quote that is not escaped. -/
theorem quoted_unique {literal other : Literal} {rest left : Source} (quoted : IsQuoted literal)
    (again : IsQuoted other) (same : literal ++ '"' :: rest = other ++ '"' :: left) :
    literal = other ∧ rest = left := by
  have ends : rest = left := by
    have skips := skipText_quoted quoted rest
    rw [same, skipText_quoted again left] at skips
    exact (Except.ok.inj skips).symm
  rw [ends] at same
  exact ⟨List.append_cancel_right same, ends⟩

/-! ### Numbers that nobody reads -/

theorem Follows.ends {rest : Source} (follows : Follows rest) : Ends rest := by
  intro char first
  have shape := follows char first
  simp only [isBlank, Bool.or_eq_true, beq_iff_eq] at shape
  rcases shape with (((rfl | rfl) | rfl) | rfl) | rfl | rfl | rfl <;> decide

theorem skipDigits_written {digits : List Char} {rest : Source}
    (all : ∀ char ∈ digits, isDigit char = true)
    (stops : ∀ char ∈ rest.head?, isDigit char = false) : skipDigits (digits ++ rest) = rest := by
  unfold skipDigits
  rw [List.dropWhile_append_of_pos all]
  cases rest with
  | nil => rfl
  | cons char tail => simp [stops char rfl]

theorem digits_split {char : Char} (tail : Source) (first : isDigit char = true) :
    ∃ others, IsDigits (char :: others)
      ∧ char :: tail = (char :: others) ++ skipDigits (char :: tail) := by
  refine ⟨tail.takeWhile isDigit, ⟨by simp, ?_⟩, ?_⟩
  · intro digit present
    rcases List.mem_cons.mp present with rfl | later
    · exact first
    · exact List.all_eq_true.mp List.all_takeWhile _ later
  · simp [skipDigits, first, List.takeWhile_append_dropWhile]

theorem skipExponent_written {sign digits : List Char} {rest : Source}
    (signed : sign = [] ∨ sign = ['+'] ∨ sign = ['-']) (written : IsDigits digits)
    (stops : ∀ char ∈ rest.head?, isDigit char = false) :
    skipExponent (sign ++ (digits ++ rest)) = .ok rest := by
  have skips := skipDigits_written written.all stops
  obtain ⟨char, others, split, first⟩ := written.cons
  rw [split, List.cons_append] at skips ⊢
  rcases signed with rfl | rfl | rfl
  · have unsigned : char ≠ '+' ∧ char ≠ '-' := by
      constructor <;> (rintro rfl; contradiction)
    unfold skipExponent
    split
    · next found => simp_all
    · next found => simp_all
    · simp [first, skips]
  · simp [skipExponent, first, skips]
  · simp [skipExponent, first, skips]

theorem skipScale_written {exponent : List Char} {rest : Source} (written : IsExponent exponent)
    (ends : Ends rest) : skipScale (exponent ++ rest) = .ok rest := by
  cases written with
  | nil =>
      rw [List.nil_append]
      unfold skipScale
      split
      · exact absurd rfl (ends _ rfl).2.2.1
      · exact absurd rfl (ends _ rfl).2.2.2
      · rfl
  | digits mark signed written =>
      have skips := skipExponent_written signed written fun char first => (ends char first).1
      rw [List.cons_append, List.append_assoc]
      rcases mark with rfl | rfl <;> exact skips

theorem IsExponent.stops {exponent : List Char} {rest : Source} (written : IsExponent exponent)
    (ends : Ends rest) : ∀ char ∈ (exponent ++ rest).head?, isDigit char = false ∧ char ≠ '.' := by
  intro char first
  cases written with
  | nil => exact ⟨(ends char first).1, (ends char first).2.1⟩
  | digits mark signed written =>
      cases first
      rcases mark with rfl | rfl <;> decide

theorem skipTail_written {fraction exponent : List Char} {rest : Source}
    (fractional : IsFraction fraction) (written : IsExponent exponent) (ends : Ends rest) :
    skipTail (fraction ++ (exponent ++ rest)) = .ok rest := by
  have scale := skipScale_written written ends
  have stops := written.stops ends
  cases fractional with
  | nil =>
      rw [List.nil_append]
      unfold skipTail
      split
      · next found =>
          have point := (stops '.' (by rw [found]; rfl)).2
          contradiction
      · exact scale
  | digits digits =>
      have skips := skipDigits_written digits.all fun char first => (stops char first).1
      obtain ⟨char, others, split, first⟩ := digits.cons
      rw [split] at skips ⊢
      simp only [List.cons_append] at skips ⊢
      simp [skipTail, skipFraction, first, skips, scale]

theorem IsFraction.stops {fraction exponent : List Char} {rest : Source}
    (fractional : IsFraction fraction) (written : IsExponent exponent) (ends : Ends rest) :
    ∀ char ∈ (fraction ++ (exponent ++ rest)).head?, isDigit char = false := by
  intro char first
  cases fractional with
  | nil => exact (written.stops ends char first).1
  | digits digits =>
      cases first
      rfl

theorem skipMagnitude_written {whole tail rest : List Char} (written : IsWhole whole)
    (stops : ∀ char ∈ tail.head?, isDigit char = false) (tails : skipTail tail = .ok rest) :
    skipMagnitude (whole ++ tail) = .ok rest := by
  have skips := skipDigits_written written.all stops
  obtain ⟨char, others, split, first⟩ := written.toIsDigits.cons
  by_cases zero : char = '0'
  · have alone := written.alone (by rw [split, zero]; rfl)
    rw [alone]
    cases tail with
    | nil => exact tails
    | cons next later => simp [skipMagnitude, stops next rfl, tails]
  · rw [split, List.cons_append] at skips ⊢
    unfold skipMagnitude
    split
    · next found => exact absurd (List.cons.inj found).1 zero
    · next found =>
        cases found
        rw [if_pos first, skips, tails]
    · next found => cases found

theorem skipNumber_written {literal : Literal} {rest : Source} (written : IsNumber literal)
    (ends : Ends rest) : skipNumber (literal ++ rest) = .ok rest := by
  cases written with
  | parts signed whole fraction exponent =>
      have tails := skipTail_written fraction exponent ends
      have skips := skipMagnitude_written whole (fraction.stops exponent ends) tails
      simp only [List.append_assoc]
      rcases signed with rfl | rfl
      · obtain ⟨char, others, split, first⟩ := whole.toIsDigits.cons
        rw [split] at skips ⊢
        unfold skipNumber
        split
        · next found =>
            have minus := (List.cons.inj found).1
            rw [minus] at first
            contradiction
        · exact skips
      · exact skips

theorem signed_of_skipExponent {source rest : Source} (skips : skipExponent source = .ok rest) :
    ∃ sign digits, (sign = [] ∨ sign = ['+'] ∨ sign = ['-']) ∧ IsDigits digits
      ∧ source = sign ++ (digits ++ rest) := by
  unfold skipExponent at skips
  dsimp only at skips
  split at skips
  · next char tail opened =>
      split at skips
      · next first =>
          obtain ⟨others, written, behind⟩ := digits_split tail first
          rw [opened] at skips
          cases skips
          split at opened
          · exact ⟨['+'], _, Or.inr (Or.inl rfl), written, by rw [opened, ← behind]; rfl⟩
          · exact ⟨['-'], _, Or.inr (Or.inr rfl), written, by rw [opened, ← behind]; rfl⟩
          · exact ⟨[], _, Or.inl rfl, written, by rw [opened, ← behind]; rfl⟩
      · cases skips
  · cases skips

theorem isExponent_of_skipScale {source rest : Source} (skips : skipScale source = .ok rest) :
    ∃ exponent, IsExponent exponent ∧ source = exponent ++ rest := by
  unfold skipScale at skips
  split at skips
  · obtain ⟨sign, digits, signed, written, split⟩ := signed_of_skipExponent skips
    exact ⟨_, .digits (Or.inl rfl) signed written, by rw [split]; simp⟩
  · obtain ⟨sign, digits, signed, written, split⟩ := signed_of_skipExponent skips
    exact ⟨_, .digits (Or.inr rfl) signed written, by rw [split]; simp⟩
  · cases skips
    exact ⟨[], .nil, rfl⟩

theorem isTail_of_skipTail {source rest : Source} (skips : skipTail source = .ok rest) :
    ∃ fraction exponent, IsFraction fraction ∧ IsExponent exponent
      ∧ source = fraction ++ (exponent ++ rest) := by
  unfold skipTail at skips
  split at skips
  · unfold skipFraction at skips
    split at skips
    · split at skips
      · next first =>
          obtain ⟨others, written, split⟩ := digits_split _ first
          obtain ⟨exponent, scale, behind⟩ := isExponent_of_skipScale skips
          refine ⟨_, exponent, .digits written, scale, ?_⟩
          rw [List.cons_append, ← behind, ← split]
      · cases skips
    · cases skips
  · obtain ⟨exponent, scale, split⟩ := isExponent_of_skipScale skips
    exact ⟨[], exponent, .nil, scale, split⟩

theorem isWhole_of_skipMagnitude {source rest : Source} (skips : skipMagnitude source = .ok rest) :
    ∃ whole tail, IsWhole whole ∧ source = whole ++ tail ∧ skipTail tail = .ok rest := by
  have zero : IsWhole ['0'] := ⟨⟨by simp, by simp [isDigit]⟩, fun _ => rfl⟩
  unfold skipMagnitude at skips
  split at skips
  · split at skips
    · split at skips
      · cases skips
      · exact ⟨['0'], _, zero, rfl, skips⟩
    · exact ⟨['0'], [], zero, rfl, skips⟩
  · next char tail other =>
      split at skips
      · next first =>
          obtain ⟨others, written, split⟩ := digits_split tail first
          refine ⟨_, _, ⟨written, ?_⟩, split, skips⟩
          intro opens
          exact absurd (Option.some.inj opens) other
      · cases skips
  · cases skips

theorem isNumber_of_skipNumber {source rest : Source} (skips : skipNumber source = .ok rest) :
    ∃ literal, IsNumber literal ∧ source = literal ++ rest := by
  have unsigned : ∀ {magnitude}, skipMagnitude magnitude = .ok rest →
      ∃ whole fraction exponent, IsWhole whole ∧ IsFraction fraction ∧ IsExponent exponent
        ∧ magnitude = whole ++ (fraction ++ (exponent ++ rest)) := by
    intro magnitude skips
    obtain ⟨whole, tail, written, split, tails⟩ := isWhole_of_skipMagnitude skips
    obtain ⟨fraction, exponent, fractional, scale, behind⟩ := isTail_of_skipTail tails
    exact ⟨whole, fraction, exponent, written, fractional, scale, by rw [split, behind]⟩
  unfold skipNumber at skips
  split at skips
  · obtain ⟨whole, fraction, exponent, written, fractional, scale, split⟩ := unsigned skips
    exact ⟨_, .parts (Or.inr rfl) written fractional scale, by rw [split]; simp⟩
  · obtain ⟨whole, fraction, exponent, written, fractional, scale, split⟩ := unsigned skips
    exact ⟨_, .parts (Or.inl rfl) written fractional scale, by rw [split]; simp⟩

end Reactor.Json
