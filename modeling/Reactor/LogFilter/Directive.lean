import Reactor.Log
import Reactor.LogFilter.Pattern.Reader
import Reactor.Text.Alphanumeric

/-!
Directives of log filters. A directive is a level; or a target, a span in brackets, or both, with
a level behind an equals sign. Inside the brackets, braces hold the names of fields, each with the
value that it should have behind an equals sign.

A directive is told apart into its parts by the places of its signs, counted in bytes and without
the white space around it. The parts are then cut from the text as it was written, at these same
places: white space before a directive shifts all its parts.
-/

namespace Reactor

structure FieldTest where
  name : String
  hasValue : Bool
deriving DecidableEq

structure Directive where
  target : Option String
  span : Option String
  fields : List FieldTest
  limit : Option Level
deriving DecidableEq

namespace Directive

/-- The levels by name, in any case, and by number; the outer option is none for other texts. -/
def limit? (text : String) : Option (Option Level) :=
  let digits := if text.toList.head? = some '+' then text.toList.tail else text.toList
  if !digits.isEmpty && digits.all Char.isDigit then
    match String.ofList (digits.dropWhile (· == '0')) with
    | "" => some none
    | "1" => some (some .error)
    | "2" => some (some .warn)
    | "3" => some (some .info)
    | "4" => some (some .debug)
    | "5" => some (some .trace)
    | _ => none
  else
    match text.toLower with
    | "off" => some none
    | "error" => some (some .error)
    | "warn" => some (some .warn)
    | "info" => some (some .info)
    | "debug" => some (some .debug)
    | "trace" => some (some .trace)
    | _ => none

/-- Whether characters are a decimal number, perhaps with a point or an exponent, or the name of
one that is not finite. -/
def isNumber (chars : List Char) : Bool :=
  let whole := chars.takeWhile Char.isDigit
  let (fraction, rest) :=
    match chars.dropWhile Char.isDigit with
    | '.' :: rest => (rest.takeWhile Char.isDigit, rest.dropWhile Char.isDigit)
    | rest => ([], rest)
  let scaled :=
    match rest with
    | [] => true
    | sign :: power =>
      let digits :=
        match power with
        | '-' :: digits | '+' :: digits => digits
        | digits => digits
      sign.toLower = 'e' && !digits.isEmpty && digits.all Char.isDigit
  ((!whole.isEmpty || !fraction.isEmpty) && scaled)
    || ["inf", "infinity", "nan"].contains (String.ofList chars).toLower

/-- Whether a text can be asked for as a value: it is a pattern that can be matched, or a number
behind a plus sign. -/
def isValue (text : String) : Bool :=
  ((Pattern.ofText? text).any Pattern.isUsable)
    || (text.toList.head? = some '+' && isNumber text.toList.tail)

/-- Reads what is between braces; what follows a second equals sign does not count. -/
def field? (text : String) : Option FieldTest :=
  match text.splitOn "=" with
  | [""] => none
  | [name] => some ⟨name, false⟩
  | name :: value :: _ => if isValue value then some ⟨name, true⟩ else none
  | [] => none

inductive Part where
  | start
  -- The text is a level or a target.
  | name (first : Nat)
  | span (first : Nat)
  | field (first : Nat)
  -- The braces have been closed.
  | fields
  -- The brackets have been closed.
  | closed
  | level (first : Nat)
deriving DecidableEq

/-- What is left after so many bytes; none where that is inside a character. -/
def afterBytes? (count : Nat) : List Char → Option (List Char)
  | [] => if count = 0 then some [] else none
  | char :: rest =>
    if count = 0 then some (char :: rest)
    else if char.utf8Size ≤ count then afterBytes? (count - char.utf8Size) rest
    else none

def firstBytes? (count : Nat) : List Char → Option (List Char)
  | [] => if count = 0 then some [] else none
  | char :: rest =>
    if count = 0 then some []
    else if char.utf8Size ≤ count then (firstBytes? (count - char.utf8Size) rest).map (char :: ·)
    else none

/-- The text from one place to before another. -/
def cut? (source : List Char) (first last : Nat) : Option String := do
  let rest ← afterBytes? first source
  let chars ← firstBytes? (last - first) rest
  return String.ofList chars

def opensName (char : Char) : Bool :=
  char == '-' || char == ':' || char == '_' || Text.isAlphanumeric char

/-- Goes on by the character at a place; none where a directive cannot go on so. -/
def advance (source : List Char) (directive : Directive) (place : Nat) (char : Char) :
    Part → Option (Directive × Part)
  | .start =>
    if char = '[' then some (directive, .span (place + 1))
    else if opensName char then some (directive, .name place)
    else none
  | .name first =>
    match char with
    | '=' => do
      let target ← cut? source first place
      return ({ directive with target := some target }, .level (place + 1))
    | '[' => do
      let target ← cut? source first place
      return ({ directive with target := some target }, .span (place + 1))
    | _ => some (directive, .name first)
  | .span first =>
    match char with
    | ']' => do
      let span ← cut? source first place
      return ({ directive with span := some span }, .closed)
    | '\x7b' => do
      let span ← cut? source first place
      return ({ directive with span := if span.isEmpty then none else some span },
        .field (place + 1))
    | _ => some (directive, .span first)
  | .field first =>
    if char = '\x7d' then do
      let field ← field? (← cut? source first place)
      return ({ directive with fields := directive.fields ++ [field] }, .fields)
    else
      some (directive, .field first)
  | .fields => if char = ']' then some (directive, .closed) else none
  | .closed => if char = '=' then some (directive, .level (place + 1)) else none
  | .level first => some (directive, .level first)

def advanceAll (source : List Char) (directive : Directive) (part : Part) (place : Nat) :
    List Char → Option (Directive × Part)
  | [] => some (directive, part)
  | char :: rest => do
    let (directive, part) ← directive.advance source place char part
    directive.advanceAll source part (place + char.utf8Size) rest

/-- Ends a directive. Without a level everything is let through. -/
def finish (source : List Char) (directive : Directive) : Part → Option Directive
  | .name first => do
    let text := String.ofList (← afterBytes? first source)
    match limit? text with
    | some limit => return { directive with limit }
    | none => return { directive with target := some text }
  | .level first => do
    let text := String.ofList (← afterBytes? first source)
    if text.isEmpty then
      return directive
    else
      return { directive with limit := ← limit? text }
  | .closed => some directive
  | .start | .span _ | .field _ | .fields => none

def read? (text : String) : Option Directive := do
  let source := text.toList
  let (directive, part) ←
    advanceAll source ⟨none, none, [], some .trace⟩ .start 0 (Text.trimmed source)
  directive.finish source part

end Directive

end Reactor
