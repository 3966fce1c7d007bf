import Reactor.LogFilter.Pattern.Escape

/-!
Reading of bracketed classes. They may be nested, hold named classes and ranges, and be joined by
operators, which group from the left and bind less than standing side by side.
-/

namespace Reactor.Pattern

structure OpenBracket where
  negated : Bool
  isOpening : Bool
  -- What stands left of the last operator.
  left : Option CharSet
  -- What has been read since, last first.
  members : List CharSet

namespace OpenBracket

def add (bracket : OpenBracket) (member : CharSet) : OpenBracket :=
  { bracket with isOpening := false, members := member :: bracket.members }

def inside (bracket : OpenBracket) : CharSet :=
  let right :=
    match bracket.members with
    | [] => .empty
    | [member] => member
    | members => .union members.reverse
  match bracket.left with
  | none => right
  | some left => .operation left right

def operate (bracket : OpenBracket) : OpenBracket :=
  { bracket with isOpening := false, left := some bracket.inside, members := [] }

def close (bracket : OpenBracket) : CharSet := .bracket bracket.negated bracket.inside

def start (spaced : Bool) (chars : List Char) : OpenBracket × List Char :=
  match skip spaced chars with
  | '^' :: rest => (⟨true, true, none, []⟩, rest)
  | rest => (⟨false, true, none, []⟩, rest)

end OpenBracket

def classNames : List String :=
  ["alnum", "alpha", "ascii", "blank", "cntrl", "digit", "graph", "lower", "print", "punct",
    "space", "upper", "word", "xdigit"]

def namedClass? (chars : List Char) : Option (CharSet × List Char) := do
  let (negated, inside) ←
    match chars with
    | ':' :: '^' :: rest => some (true, rest)
    | ':' :: rest => some (false, rest)
    | _ => none
  match inside.dropWhile (· != ':') with
  | ':' :: ']' :: rest =>
    if classNames.contains (String.ofList (inside.takeWhile (· != ':'))) then
      some (.named negated, rest)
    else
      none
  | _ => none

/-- A member that is no range, or one end of a range. -/
def member? (spaced : Bool) : List Char → Option (CharSet × List Char)
  | [] => none
  | '\\' :: rest =>
    match escape? spaced rest with
    | some (.literal sign, rest) => some (.literal sign, rest)
    | some (.shorthand negated, rest) => some (.shorthand negated, rest)
    | _ => none
  | char :: rest => some (.literal ⟨char, false⟩, rest)

/-- The sign that decides what a dash means. White space in front of it is passed over, but of a
comment only its number sign. -/
def signBehind? (spaced : Bool) (chars : List Char) : Option Char :=
  if spaced then
    match chars.dropWhile Text.isBlank with
    | '#' :: rest => (rest.dropWhile Text.isBlank).head?
    | rest => rest.head?
  else
    chars.head?

/-- A member or a range of them. A range ascends, and its dash is not followed by another dash or
the end of the bracket. -/
def range? (spaced : Bool) (chars : List Char) : Option (CharSet × List Char) := do
  let (first, rest) ← member? spaced chars
  match skip spaced rest with
  | '-' :: behind =>
    if [some ']', some '-'].contains (signBehind? spaced behind) then
      return (first, '-' :: behind)
    else
      let (last, rest) ← member? spaced (skip spaced behind)
      match first, last with
      | .literal first, .literal last =>
        if first.char ≤ last.char then some (.range first last, rest) else none
      | _, _ => none
  | rest => return (first, rest)

def goOnInside? (spaced : Bool) (fuel : Nat) (top : OpenBracket) (outer : List OpenBracket)
    (chars : List Char) : Option (CharSet × List Char) :=
  match fuel, skip spaced chars with
  | 0, _ | _, [] => none
  | fuel + 1, char :: rest =>
    let sign : CharSet := .literal ⟨char, false⟩
    if char = '-' && top.isOpening then
      goOnInside? spaced fuel { top with members := sign :: top.members } outer rest
    else if char = ']' && top.isOpening && top.members.isEmpty then
      goOnInside? spaced fuel (top.add sign) outer rest
    else if char = ']' then
      match outer with
      | [] => some (top.close, rest)
      | around :: outer => goOnInside? spaced fuel (around.add top.close) outer rest
    else if char = '[' then
      match namedClass? rest with
      | some (member, rest) => goOnInside? spaced fuel (top.add member) outer rest
      | none =>
        let (inner, rest) := OpenBracket.start spaced rest
        goOnInside? spaced fuel inner (top :: outer) rest
    else if ['&', '-', '~'].contains char && rest.head? = some char then
      goOnInside? spaced fuel top.operate outer rest.tail
    else
      (range? spaced (char :: rest)).bind fun (member, rest) =>
        goOnInside? spaced fuel (top.add member) outer rest

def bracket? (spaced : Bool) (chars : List Char) : Option (CharSet × List Char) :=
  let (top, rest) := OpenBracket.start spaced chars
  goOnInside? spaced (chars.length + 1) top [] rest

end Reactor.Pattern
