import Reactor.Json.Record
import Reactor.Json.Value
import Reactor.Proofs.Json.Grammar

/-!
The readers of simple values take what the writer writes. A text is taken escape by escape and a
number digit by digit, whatever follows it that could not go on with the number.
-/

namespace Reactor.Json

theorem hexDigit_digitChar : ∀ value < 16, hexDigit (Nat.digitChar value) = some value := by
  decide

theorem hexDigits_control : ∀ unit < 0x20,
    List.replicate (4 - (Nat.toDigits 16 unit).length) '0' ++ Nat.toDigits 16 unit
      = ['0', '0', Nat.digitChar (unit / 16), Nat.digitChar (unit % 16)] := by
  decide

theorem escape_control {unit : Nat} (control : unit < 0x20) (rest : Source) :
    escape ('u' :: '0' :: '0' :: Nat.digitChar (unit / 16) :: Nat.digitChar (unit % 16) :: rest)
      = .ok (Char.ofNat unit, 5) := by
  have third := hexDigit_digitChar (unit / 16) (by omega)
  have fourth := hexDigit_digitChar (unit % 16) (by omega)
  have zero : hexDigit '0' = some 0 := by decide
  have whole : unit / 16 * 16 + unit % 16 = unit := by omega
  have low : isTrailing unit = false ∧ isLeading unit = false := by
    simp [isTrailing, isLeading]
    omega
  simp [escape, unicodeEscape, hexUnit, zero, third, fourth, whole, low, bind, Except.bind,
    Except.map]

theorem readTextChars_escape (letters : List Char) {rest left : Source} {char : Char}
    {chars : List Char} (escaped : escape (letters ++ rest) = .ok (char, letters.length))
    (taken : readTextChars rest = .ok (chars, left)) :
    readTextChars ('\\' :: (letters ++ rest)) = .ok (char :: chars, left) := by
  rw [readTextChars, escaped]
  simp [taken, bind, Except.bind]

theorem readTextChars_textChar {char : Char} {rest left : Source} {chars : List Char}
    (taken : readTextChars rest = .ok (chars, left)) :
    readTextChars (textChar char ++ rest) = .ok (char :: chars, left) := by
  unfold textChar
  split
  · exact readTextChars_escape ['"'] rfl taken
  · exact readTextChars_escape ['\\'] rfl taken
  · exact readTextChars_escape ['b'] rfl taken
  · exact readTextChars_escape ['f'] rfl taken
  · exact readTextChars_escape ['n'] rfl taken
  · exact readTextChars_escape ['r'] rfl taken
  · exact readTextChars_escape ['t'] rfl taken
  · split
    · rename_i control
      dsimp only
      rw [List.append_assoc ['\\', 'u'], hexDigits_control _ control]
      have escaped := escape_control control rest
      rw [Char.ofNat_toNat] at escaped
      exact readTextChars_escape ['u', '0', '0', _, _] escaped taken
    · rename_i quote backslash _ _ _ _ _ printed
      rw [List.singleton_append, readTextChars]
      · simp [printed, taken, bind, Except.bind]
      · exact quote
      · exact backslash

theorem readText_textChars (text : String) (rest : Source) :
    readText (text.toList.flatMap textChar ++ '"' :: rest) = .ok (text, rest) := by
  have taken : readTextChars (text.toList.flatMap textChar ++ '"' :: rest)
      = .ok (text.toList, rest) := by
    induction text.toList with
    | nil => rw [List.flatMap_nil, List.nil_append, readTextChars]
    | cons char chars ih =>
        rw [List.flatMap_cons, List.append_assoc]
        exact readTextChars_textChar ih
  simp [readText, taken, Except.map]

/-- What may follow a value: nothing with which a number goes on. -/
def Ends (rest : Source) : Prop :=
  ∀ char ∈ rest.head?, isDigit char = false ∧ char ≠ '.' ∧ char ≠ 'e' ∧ char ≠ 'E'

theorem isDigit_of_mem_toDigits {number : Nat} {char : Char}
    (present : char ∈ Nat.toDigits 10 number) : isDigit char = true := by
  have digit := Nat.isDigit_of_mem_toDigits (by decide) (by decide) present
  simpa [isDigit, Char.isDigit, Char.le_def] using digit

theorem le_ofDigitChars (digits : List Char) (word : Nat) :
    word ≤ Nat.ofDigitChars 10 digits word := by
  induction digits generalizing word with
  | nil => simp
  | cons digit digits ih =>
      rw [Nat.ofDigitChars_cons]
      have later := ih (10 * word + (digit.toNat - '0'.toNat))
      omega

theorem gather_digits {digits : List Char} {rest : Source} {word : Nat} (count : Nat)
    (all : ∀ digit ∈ digits, isDigit digit = true) (ends : Ends rest)
    (fits : Nat.ofDigitChars 10 digits word ≤ greatestWord) :
    gather word count (digits ++ rest)
      = (Nat.ofDigitChars 10 digits word, count + digits.length, rest) := by
  induction digits generalizing word count with
  | nil =>
      cases rest with
      | nil => rfl
      | cons char rest =>
          have other := (ends char rfl).1
          simp [gather, other]
  | cons digit digits ih =>
      rw [Nat.ofDigitChars_cons] at fits ⊢
      have grown := Nat.le_trans (le_ofDigitChars digits _) fits
      have first := all digit List.mem_cons_self
      have same : 10 * word + (digit.toNat - '0'.toNat) = word * 10 + digitValue digit := by
        rw [Nat.mul_comm, digitValue]
      rw [same] at fits grown ⊢
      rw [List.cons_append, gather]
      simp only [first, grown, and_self, if_true]
      rw [ih _ (fun other present => all other (List.mem_cons_of_mem _ present)) fits,
        List.length_cons]
      simp only [Nat.add_right_comm, Nat.add_assoc]

theorem head_toDigits {number : Nat} (positive : 0 < number) :
    ∃ digit digits, Nat.toDigits 10 number = digit :: digits ∧ digit ≠ '0' := by
  induction number using Nat.strongRecOn with
  | ind number ih =>
      by_cases small : number < 10
      · refine ⟨Nat.digitChar number, [], Nat.toDigits_of_lt_base small, ?_⟩
        simp
        omega
      · have split := Nat.toDigits_of_base_le (b := 10) (by decide) (Nat.le_of_not_lt small)
        obtain ⟨digit, digits, found, other⟩ := ih (number / 10) (by omega) (by omega)
        exact ⟨digit, digits ++ [Nat.digitChar (number % 10)], by rw [split, found]; rfl, other⟩

theorem readTail_ends (word : Nat) {rest : Source} (ends : Ends rest) :
    readTail false word rest = .ok (.whole word, rest) := by
  cases rest with
  | nil => rfl
  | cons char rest =>
      obtain ⟨_, point, small, large⟩ := ends char rfl
      unfold readTail
      split <;> simp_all [signed]

theorem IsDigits.cons {digits : List Char} (written : IsDigits digits) :
    ∃ char others, digits = char :: others ∧ isDigit char = true := by
  obtain ⟨char, others, split⟩ := List.exists_cons_of_ne_nil written.inhabited
  exact ⟨char, others, split, written.all char (split ▸ List.mem_cons_self)⟩

theorem readMagnitude_whole {digits : List Char} {rest : Source} (whole : IsWhole digits)
    (fits : Nat.ofDigitChars 10 digits 0 ≤ greatestWord) (ends : Ends rest) :
    readMagnitude false (digits ++ rest)
      = .ok (.whole (Nat.ofDigitChars 10 digits 0), rest) := by
  have gathered := gather_digits 0 whole.all ends fits
  have tail := readTail_ends (Nat.ofDigitChars 10 digits 0) ends
  obtain ⟨char, others, split, first⟩ := whole.toIsDigits.cons
  by_cases zero : char = '0'
  · have alone := whole.alone (by rw [split, zero]; rfl)
    rw [alone] at tail ⊢
    cases rest with
    | nil => rfl
    | cons next later =>
        have stop := (ends next rfl).1
        simp [readMagnitude, stop]
        exact tail
  · rw [split, List.cons_append] at gathered ⊢
    rw [readMagnitude]
    · simp only [first, if_true, gathered]
      rw [split] at tail
      cases rest with
      | nil => exact tail
      | cons next later =>
          have stop := (ends next rfl).1
          simp [stop, tail]
    · exact zero

theorem readNumber_whole {digits : List Char} {rest : Source} (whole : IsWhole digits)
    (fits : Nat.ofDigitChars 10 digits 0 ≤ greatestWord) (ends : Ends rest) :
    readNumber (digits ++ rest) = .ok (.whole (Nat.ofDigitChars 10 digits 0), rest) := by
  have magnitude := readMagnitude_whole whole fits ends
  obtain ⟨char, others, split, first⟩ := whole.toIsDigits.cons
  unfold readNumber
  split
  · next found =>
      rw [split, List.cons_append] at found
      rw [(List.cons.inj found).1] at first
      contradiction
  · exact magnitude

theorem isWhole_toDigits (number : Nat) : IsWhole (Nat.toDigits 10 number) := by
  refine ⟨⟨Nat.toDigits_ne_nil, fun char => isDigit_of_mem_toDigits⟩, ?_⟩
  intro zero
  by_cases positive : 0 < number
  · obtain ⟨digit, digits, found, other⟩ := head_toDigits positive
    rw [found] at zero
    exact absurd (Option.some.inj zero) other
  · obtain rfl : number = 0 := by omega
    rfl

theorem readNumber_toDigits {number : Nat} {rest : Source} (fits : number ≤ greatestWord)
    (ends : Ends rest) :
    readNumber (Nat.toDigits 10 number ++ rest) = .ok (.whole number, rest) := by
  have value : Nat.ofDigitChars 10 (Nat.toDigits 10 number) 0 = number :=
    Nat.ofDigitChars_ten_toDigits
  have reads := readNumber_whole (isWhole_toDigits number) (value.symm ▸ fits) ends
  rw [value] at reads
  exact reads

/-! ### Values and their readers -/

/-- The reader takes this text for the value, wherever a value may end. -/
def Takes {α : Type} (read : Reader α) (chars : List Char) (value : α) : Prop :=
  ∀ rest, Ends rest → read (chars ++ rest) = .ok (value, rest)

theorem skipBlanks_cons {char : Char} (rest : Source) (visible : isBlank char = false) :
    skipBlanks (char :: rest) = char :: rest := by
  simp [skipBlanks, visible]

theorem takes_readFlag (flag : Bool) : Takes readFlag (Value.flag flag).chars flag := by
  intro rest _
  cases flag <;> rfl

theorem isBlank_of_isDigit {char : Char} (digit : isDigit char = true) : isBlank char = false := by
  cases blank : isBlank char with
  | false => rfl
  | true =>
      simp only [isBlank, Bool.or_eq_true, beq_iff_eq] at blank
      rcases blank with ((rfl | rfl) | rfl) | rfl <;> contradiction

theorem chars_whole (number : Nat) : (Value.whole number).chars = Nat.toDigits 10 number := by
  simp [Value.chars, wholeChars]

theorem takes_readWord (wanted : String) (word : UInt64) :
    Takes (readWord wanted) (Value.whole word.toNat).chars word := by
  intro rest ends
  have fits : word.toNat ≤ greatestWord := by
    have bound := word.toNat_lt
    exact Nat.le_pred_of_lt bound
  have number := readNumber_toDigits fits ends
  rw [chars_whole]
  cases digits : Nat.toDigits 10 word.toNat with
  | nil => exact absurd digits Nat.toDigits_ne_nil
  | cons digit others =>
      have first : isDigit digit = true := isDigit_of_mem_toDigits (digits ▸ List.mem_cons_self)
      rw [digits, List.cons_append] at number
      simp [readWord, skipBlanks_cons _ (isBlank_of_isDigit first), first, number]

theorem takes_readString (wanted : String) (text : String) :
    Takes (readString wanted) (Value.text text).chars text := by
  intro rest _
  have chars : (Value.text text).chars ++ rest
      = '"' :: (text.toList.flatMap textChar ++ '"' :: rest) := by
    simp [Value.chars, textChars]
  rw [chars, readString, skipBlanks_cons _ (by decide)]
  exact readText_textChars text rest

def Opens (chars : List Char) : Prop :=
  ∃ first others, chars = first :: others ∧ isBlank first = false ∧ first ≠ 'n'

theorem takes_none {α : Type} (read : Reader α) :
    Takes (readOptional read) Value.null.chars none := by
  intro rest _
  rfl

theorem Takes.present {α : Type} {read : Reader α} {chars : List Char} {value : α}
    (takes : Takes read chars value) (opens : Opens chars) :
    Takes (readOptional read) chars (some value) := by
  intro rest ends
  have taken := takes rest ends
  obtain ⟨first, others, rfl, visible, other⟩ := opens
  rw [List.cons_append] at taken ⊢
  unfold readOptional
  rw [skipBlanks_cons _ visible]
  split
  · rename_i found
    exact absurd (List.cons.inj found).1 other
  · rw [taken]
    rfl

end Reactor.Json
