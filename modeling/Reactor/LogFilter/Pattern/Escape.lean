import Reactor.LogFilter.Pattern
import Reactor.Text.Ranges

/-!
Escapes of patterns, and the white space and comments that a spaced pattern may have between its
elements. A comment goes from a number sign to the end of its line.
-/

namespace Reactor.Pattern

def afterSpacing (inComment : Bool) : List Char → List Char
  | [] => []
  | char :: rest =>
    if inComment then afterSpacing (char != '\n') rest
    else if char = '#' then afterSpacing true rest
    else if Text.isBlank char then afterSpacing false rest
    else char :: rest

def skip (spaced : Bool) (chars : List Char) : List Char :=
  if spaced then afterSpacing false chars else chars

inductive Escape where
  | literal (sign : Literal)
  | shorthand (negated : Bool)
  | edge
  | wordEdge

def hexDigit? (char : Char) : Option Nat :=
  if char.isDigit then some (char.toNat - '0'.toNat)
  else if 'a' ≤ char.toLower ∧ char.toLower ≤ 'f' then some (char.toLower.toNat - 'a'.toNat + 10)
  else none

/-- Goes on with so many hexadecimal digits of a number, and gives what follows them. -/
def hexNumber? (spaced : Bool) (count value : Nat) (chars : List Char) :
    Option (Nat × List Char) :=
  match count, skip spaced chars with
  | 0, _ => some (value, chars)
  | _ + 1, [] => none
  | count + 1, char :: rest =>
    (hexDigit? char).bind fun digit => hexNumber? spaced count (value * 16 + digit) rest

def codePoint? (spaced : Bool) (count : Nat) (chars : List Char) : Option (Char × List Char) := do
  let (value, rest) ← hexNumber? spaced count 0 chars
  if value.isValidChar then some (Char.ofNat value, rest) else none

/-- Reads an escape from behind its backslash. Classes by properties are not among them, and no
letter or digit stands for itself. -/
def escape? (spaced : Bool) : List Char → Option (Escape × List Char)
  | [] => none
  | char :: rest =>
    let control (char : Char) : Option (Escape × List Char) := some (.literal ⟨char, false⟩, rest)
    let coded (count : Nat) : Option (Escape × List Char) :=
      (codePoint? spaced count rest).map fun (coded, rest) =>
        (.literal ⟨coded, char = 'x'⟩, rest)
    match char with
    | 'a' => control '\x07'
    | 'f' => control '\x0c'
    | 't' => control '\t'
    | 'r' => control '\r'
    | 'n' => control '\n'
    | 'v' => control '\x0b'
    | 'x' => coded 2
    | 'u' => coded 4
    | 'U' => coded 8
    | 'd' | 's' | 'w' => some (.shorthand false, rest)
    | 'D' | 'S' | 'W' => some (.shorthand true, rest)
    | 'A' | 'z' => some (.edge, rest)
    | 'b' | 'B' | '<' | '>' => some (.wordEdge, rest)
    | _ => if char.toNat < 0x80 && !char.isAlphanum then control char else none

end Reactor.Pattern
