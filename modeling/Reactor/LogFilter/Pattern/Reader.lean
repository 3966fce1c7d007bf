import Reactor.LogFilter.Pattern.Bracket
import Reactor.Text.Alphanumeric

/-!
Reading of patterns: alternatives, groups, flags and repetition around literals, escapes and
bracketed classes. Bounded repetition needs a closing brace, which the text of a value cannot
hold, so an opening brace has no place in a pattern outside a class.
-/

namespace Reactor.Pattern

def flag? : Char → Option Flag
  | 'i' => some .ignoreCase
  | 'm' => some .manyLines
  | 's' => some .dotMatchesBreak
  | 'R' => some .carriageReturn
  | 'U' => some .swapGreed
  | 'u' => some .unicode
  | 'x' => some .spaced
  | _ => none

/-- Reads flags up to the colon or parenthesis that ends them. One dash turns off those behind
it, of which there has to be one. -/
def setting? (read : Setting) (isOn : Bool) : List Char → Option (Setting × List Char)
  | [] => none
  | '-' :: rest =>
    if isOn && rest.head? != some ':' && rest.head? != some ')' then setting? read false rest
    else none
  | char :: rest =>
    if char = ':' || char = ')' then
      some (read, char :: rest)
    else
      (flag? char).bind fun flag =>
        if (read.lookup flag).isSome then none else setting? (read ++ [(flag, isOn)]) isOn rest

def name? (chars : List Char) : Option (String × List Char) :=
  let name := chars.takeWhile (· != '>')
  match name, chars.dropWhile (· != '>') with
  | first :: others, _ :: rest =>
    if (first = '_' || Text.isAlphabetic first)
        && others.all (fun char => Text.isAlphanumeric char || "_.[]".toList.contains char) then
      some (String.ofList name, rest)
    else
      none
  | _, _ => none

inductive Opening where
  -- Flags for what follows, and no group.
  | setting (flags : Setting)
  | group (flags : Setting)
  | named (name : String)

def opening? (spaced : Bool) (chars : List Char) : Option (Opening × List Char) :=
  match skip spaced chars with
  | '?' :: 'P' :: '<' :: rest | '?' :: '<' :: rest =>
    (name? rest).map fun (name, rest) => (.named name, rest)
  | '?' :: rest => do
    match ← setting? [] true rest with
    | (flags, ':' :: rest) => some (.group flags, rest)
    | (flags, ')' :: rest) => if flags.isEmpty then none else some (.setting flags, rest)
    | _ => none
  | rest => some (.group [], rest)

structure OpenGroup where
  flags : Setting
  -- Whether white space and comments mean nothing from here on.
  spaced : Bool
  -- The branches that are complete, last first.
  branches : List Pattern
  parts : List Pattern

namespace OpenGroup

def add (group : OpenGroup) (part : Pattern) : OpenGroup :=
  { group with parts := part :: group.parts }

def branch (group : OpenGroup) : Pattern :=
  match group.parts with
  | [] => .empty
  | [part] => part
  | parts => .sequence parts.reverse

def nextBranch (group : OpenGroup) : OpenGroup :=
  { group with branches := group.branch :: group.branches, parts := [] }

def inside (group : OpenGroup) : Pattern :=
  match group.branches with
  | [] => group.branch
  | branches => .choice (group.branch :: branches).reverse

def close (group : OpenGroup) : Pattern := .group group.flags group.inside

def change (group : OpenGroup) (flags : Setting) : OpenGroup :=
  { group with spaced := (flags.lookup .spaced).getD group.spaced }

def start (group : OpenGroup) (flags : Setting) : OpenGroup :=
  ⟨flags, (group.change flags).spaced, [], []⟩

/-- Repeats the last part; a change of flags is nothing to repeat. -/
def repeated? (group : OpenGroup) : Option OpenGroup :=
  match group.parts with
  | [] | .setting _ :: _ => none
  | part :: others => some { group with parts := .repetition part :: others }

end OpenGroup

structure Progress where
  names : List String
  top : OpenGroup
  outer : List OpenGroup

namespace Progress

def initial : Progress := ⟨[], ⟨[], false, [], []⟩, []⟩

def add (progress : Progress) (part : Pattern) : Progress :=
  { progress with top := progress.top.add part }

def startGroup (progress : Progress) (flags : Setting) : Progress :=
  { progress with
    top := progress.top.start flags
    outer := progress.top :: progress.outer }

def takeOpening? (progress : Progress) : Opening → Option Progress
  | .setting flags => some { progress with top := (progress.top.change flags).add (.setting flags) }
  | .group flags => some (progress.startGroup flags)
  | .named name =>
    if progress.names.contains name then none
    else some { progress.startGroup [] with names := name :: progress.names }

def closeGroup? (progress : Progress) : Option Progress :=
  match progress.outer with
  | [] => none
  | around :: outer => some { progress with top := around.add progress.top.close, outer }

def takeEscape (progress : Progress) : Escape → Progress
  | .literal sign => progress.add (.literal sign)
  | .shorthand negated => progress.add (.shorthand negated)
  | .edge => progress.add .edge
  | .wordEdge => progress.add .wordEdge

/-- Takes the element that begins with `char`, and gives what follows it. A question mark right
behind a sign of repetition belongs to it. -/
def next? (progress : Progress) (char : Char) (rest : List Char) :
    Option (Progress × List Char) :=
  let spaced := progress.top.spaced
  match char with
  | '(' => do
    let (opening, rest) ← opening? spaced rest
    return (← progress.takeOpening? opening, rest)
  | ')' => progress.closeGroup?.map fun progress => (progress, rest)
  | '|' => some ({ progress with top := progress.top.nextBranch }, rest)
  | '*' | '+' | '?' => do
    let top ← progress.top.repeated?
    return ({ progress with top }, if rest.head? = some '?' then rest.tail else rest)
  | '\x7b' => none
  | '[' => (bracket? spaced rest).map fun (set, rest) => (progress.add (.oneOf set), rest)
  | '\\' => (escape? spaced rest).map fun (escape, rest) => (progress.takeEscape escape, rest)
  | '.' => some (progress.add .anything, rest)
  | '^' | '$' => some (progress.add .edge, rest)
  | _ => some (progress.add (.literal ⟨char, false⟩), rest)

def finish? (fuel : Nat) (progress : Progress) (chars : List Char) : Option Pattern :=
  match fuel, skip progress.top.spaced chars with
  | _, [] => if progress.outer.isEmpty then some progress.top.inside else none
  | 0, _ => none
  | fuel + 1, char :: rest =>
    (progress.next? char rest).bind fun (progress, rest) => progress.finish? fuel rest

end Progress

def ofText? (text : String) : Option Pattern :=
  Progress.initial.finish? (text.toList.length + 1) text.toList

end Reactor.Pattern
