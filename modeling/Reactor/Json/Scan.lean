import Reactor.Json.Fault

/-!
The tokens of JSON: blanks, words, quoted text and numbers. A reader takes the rest of the
document and gives its value with what follows it. Whole numbers stay exact within 64 bits; all
others are scaled from at most 64 bits of leading digits, one rounding for the digits and one for
each scaling by a power of ten.
-/

namespace Reactor.Json

abbrev Source := List Char

abbrev Reader (α : Type) := Source → Except Fault (α × Source)

def isBlank (char : Char) : Bool :=
  char == ' ' || char == '\n' || char == '\t' || char == '\r'

def skipBlanks (source : Source) : Source := source.dropWhile isBlank

def finishWord : List Char → Source → Except Fault Source
  | [], source => .ok source
  | _ :: _, [] => .error .unfinishedValue
  | wanted :: letters, char :: source =>
    if wanted = char then finishWord letters source else .error .wordExpected

def hexDigit (char : Char) : Option Nat :=
  if '0' ≤ char ∧ char ≤ '9' then some (char.toNat - '0'.toNat)
  else if 'a' ≤ char ∧ char ≤ 'f' then some (char.toNat - 'a'.toNat + 10)
  else if 'A' ≤ char ∧ char ≤ 'F' then some (char.toNat - 'A'.toNat + 10)
  else none

/-- Four hexadecimal digits. The text is unfinished when fewer than four bytes are left. -/
def hexUnit (source : Source) : Except Fault Nat :=
  match source with
  | first :: second :: third :: fourth :: _ =>
    match hexDigit first, hexDigit second, hexDigit third, hexDigit fourth with
    | some a, some b, some c, some d => .ok (((a * 16 + b) * 16 + c) * 16 + d)
    | _, _, _, _ => .error .badEscape
  | short =>
    let bytes := short.foldl (fun bytes char => bytes + char.utf8Size) 0
    if bytes < 4 then .error .unfinishedText else .error .badEscape

def isLeading (unit : Nat) : Bool := 0xd800 ≤ unit && unit ≤ 0xdbff

def isTrailing (unit : Nat) : Bool := 0xdc00 ≤ unit && unit ≤ 0xdfff

/-- The character of a hexadecimal escape and the length of the escape behind its letter. -/
def unicodeEscape (source : Source) : Except Fault (Char × Nat) := do
  let unit ← hexUnit source
  if isTrailing unit then
    .error .loneSurrogate
  else if isLeading unit then
    match source.drop 4 with
    | [] => .error .unfinishedText
    | '\\' :: [] => .error .unfinishedText
    | '\\' :: 'u' :: rest =>
      let second ← hexUnit rest
      if isTrailing second then
        .ok (Char.ofNat ((unit - 0xd800) * 0x400 + (second - 0xdc00) + 0x10000), 10)
      else
        .error .loneSurrogate
    | _ => .error .brokenPair
  else
    .ok (Char.ofNat unit, 4)

/-- The character that the escape behind a backslash stands for, and the length of the escape. -/
def escape (source : Source) : Except Fault (Char × Nat) :=
  match source with
  | [] => .error .unfinishedText
  | '"' :: _ => .ok ('"', 1)
  | '\\' :: _ => .ok ('\\', 1)
  | '/' :: _ => .ok ('/', 1)
  | 'b' :: _ => .ok ('\x08', 1)
  | 'f' :: _ => .ok ('\x0c', 1)
  | 'n' :: _ => .ok ('\n', 1)
  | 'r' :: _ => .ok ('\r', 1)
  | 't' :: _ => .ok ('\t', 1)
  | 'u' :: rest => (unicodeEscape rest).map fun (char, length) => (char, length + 1)
  | _ => .error .badEscape

def readTextChars (source : Source) : Except Fault (List Char × Source) :=
  match source with
  | [] => .error .unfinishedText
  | '"' :: rest => .ok ([], rest)
  | '\\' :: rest => do
    let (char, length) ← escape rest
    let (chars, rest) ← readTextChars (rest.drop length)
    .ok (char :: chars, rest)
  | char :: rest =>
    if char.toNat < 0x20 then
      .error .controlCharacter
    else do
      let (chars, rest) ← readTextChars rest
      .ok (char :: chars, rest)
termination_by source.length
decreasing_by all_goals (simp only [List.length_drop, List.length_cons]; omega)

def readText : Reader String := fun source =>
  (readTextChars source).map fun (chars, rest) => (String.ofList chars, rest)

/-- The length of the escape behind a backslash in a text that nobody reads; surrogates may stand alone. -/
def escapeLength (source : Source) : Except Fault Nat :=
  match source with
  | 'u' :: rest => (hexUnit rest).map fun _ => 5
  | _ => (escape source).map (·.2)

def skipText (source : Source) : Except Fault Source :=
  match source with
  | [] => .error .unfinishedText
  | '"' :: rest => .ok rest
  | '\\' :: rest => do
    let length ← escapeLength rest
    skipText (rest.drop length)
  | char :: rest => if char.toNat < 0x20 then .error .controlCharacter else skipText rest
termination_by source.length
decreasing_by all_goals (simp only [List.length_drop, List.length_cons]; omega)

/-! ### Numbers -/

/-- A number is whole while 64 bits hold it and nothing but digits and a sign write it. -/
inductive Number where
  | whole (value : Int)
  | decimal (value : Binary64)
deriving DecidableEq

def Number.found : Number → Found
  | .whole value => .whole value
  | .decimal value => .decimal value

def isDigit (char : Char) : Bool := '0' ≤ char && char ≤ '9'

def digitValue (char : Char) : Nat := char.toNat - '0'.toNat

def skipDigits (source : Source) : Source := source.dropWhile isDigit

def greatestWord : Nat := Nat.pow 2 64 - 1

/-- Appends digits to `word` while 64 bits hold the result, and counts them. -/
def gather (word count : Nat) : Source → Nat × Nat × Source
  | [] => (word, count, [])
  | char :: rest =>
    let grown := word * 10 + digitValue char
    if isDigit char ∧ grown ≤ greatestWord then gather grown (count + 1) rest
    else (word, count, char :: rest)

/-- Divides by `10 ^ power`, in steps of the greatest power of ten there is. -/
def scaleDown (number : Binary64) (power : Nat) : Option Binary64 :=
  if power ≤ 308 then do
    number.div (← Binary64.powerOfTen power)
  else if number.isZero then
    some number
  else do
    let step ← Binary64.powerOfTen 308
    scaleDown (← number.div step) (power - 308)
termination_by power

def scaled (word : Nat) (power : Int) : Option Binary64 := do
  let number ← Binary64.ofNat word
  if power < 0 then
    scaleDown number power.natAbs
  else if power ≤ 308 then
    number.mul (← Binary64.powerOfTen power.toNat)
  else if number.isZero then
    some number
  else
    none

def finishDecimal (negative : Bool) (word : Nat) (power : Int) (rest : Source) :
    Except Fault (Number × Source) :=
  match scaled word power with
  | some number => .ok (.decimal (if negative then number.negate else number), rest)
  | none => .error .numberOutOfRange

def readExponent (negative : Bool) (word : Nat) (power : Int) (source : Source) :
    Except Fault (Number × Source) :=
  let (down, digits) :=
    match source with
    | '+' :: rest => (false, rest)
    | '-' :: rest => (true, rest)
    | _ => (false, source)
  match digits with
  | [] => .error .unfinishedValue
  | char :: _ =>
    if isDigit char then
      let size : Int := (digits.takeWhile isDigit).foldl (fun n c => n * 10 + digitValue c) 0
      finishDecimal negative word (if down then power - size else power + size) (skipDigits digits)
    else
      .error .badNumber

def readScale (negative : Bool) (word : Nat) (power : Int) (source : Source) :
    Except Fault (Number × Source) :=
  match source with
  | 'e' :: rest | 'E' :: rest => readExponent negative word power rest
  | _ => finishDecimal negative word power source

def readFraction (negative : Bool) (word : Nat) (power : Int) (source : Source) :
    Except Fault (Number × Source) :=
  let (grown, count, rest) := gather word 0 source
  match rest with
  | [] =>
    if count = 0 then .error .unfinishedValue else readScale negative grown (power - count) rest
  | char :: _ =>
    if isDigit char then readScale negative grown (power - count) (skipDigits rest)
    else if count = 0 then .error .badNumber
    else readScale negative grown (power - count) rest

/-- A sign in front of a whole number; there is no whole negative zero, and none below `-2 ^ 63`. -/
def signed (negative : Bool) (word : Nat) : Number :=
  if !negative then .whole word
  else if 0 < word ∧ word ≤ Nat.pow 2 63 then .whole (-(word : Int))
  else .decimal (((Binary64.ofNat word).getD (Binary64.zero false)).negate)

def readTail (negative : Bool) (word : Nat) (source : Source) : Except Fault (Number × Source) :=
  match source with
  | '.' :: rest => readFraction negative word 0 rest
  | 'e' :: rest | 'E' :: rest => readExponent negative word 0 rest
  | _ => .ok (signed negative word, source)

/-- What follows the leading digits that 64 bits hold, when there are more of them. -/
def readLongTail (negative : Bool) (word : Nat) (source : Source) :
    Except Fault (Number × Source) :=
  let power : Int := ((source.takeWhile isDigit).length : Nat)
  match skipDigits source with
  | '.' :: rest => readFraction negative word power rest
  | rest => readScale negative word power rest

def readMagnitude (negative : Bool) (source : Source) : Except Fault (Number × Source) :=
  match source with
  | [] => .error .unfinishedValue
  | '0' :: rest =>
    match rest with
    | char :: _ => if isDigit char then .error .badNumber else readTail negative 0 rest
    | [] => readTail negative 0 rest
  | char :: _ =>
    if isDigit char then
      let (word, _, rest) := gather 0 0 source
      match rest with
      | next :: _ =>
        if isDigit next then readLongTail negative word rest else readTail negative word rest
      | [] => readTail negative word rest
    else
      .error .badNumber

def readNumber : Reader Number := fun source =>
  match source with
  | '-' :: rest => readMagnitude true rest
  | _ => readMagnitude false source

def skipExponent (source : Source) : Except Fault Source :=
  let digits :=
    match source with
    | '+' :: rest | '-' :: rest => rest
    | _ => source
  match digits with
  | char :: _ => if isDigit char then .ok (skipDigits digits) else .error .badNumber
  | [] => .error .badNumber

def skipScale (source : Source) : Except Fault Source :=
  match source with
  | 'e' :: rest | 'E' :: rest => skipExponent rest
  | _ => .ok source

def skipFraction (source : Source) : Except Fault Source :=
  match source with
  | char :: _ => if isDigit char then skipScale (skipDigits source) else .error .badNumber
  | [] => .error .badNumber

def skipTail (source : Source) : Except Fault Source :=
  match source with
  | '.' :: rest => skipFraction rest
  | _ => skipScale source

/-- Passes over a number behind its sign, whatever its size. -/
def skipMagnitude (source : Source) : Except Fault Source :=
  match source with
  | '0' :: rest =>
    match rest with
    | char :: _ => if isDigit char then .error .badNumber else skipTail rest
    | [] => skipTail rest
  | char :: _ => if isDigit char then skipTail (skipDigits source) else .error .badNumber
  | [] => .error .badNumber

def skipNumber (source : Source) : Except Fault Source :=
  match source with
  | '-' :: rest => skipMagnitude rest
  | _ => skipMagnitude source

end Reactor.Json
