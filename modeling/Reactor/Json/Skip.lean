import Reactor.Json.Scan

/-!
Passing over values that nobody reads. The value has to be well formed, at any depth; numbers of
any size and surrogates that stand alone pass.
-/

namespace Reactor.Json

mutual

/-- Passes over one value; `fuel` bounds the nesting and the number of items together. -/
def skipValueIn (fuel : Nat) (source : Source) : Except Fault Source :=
  match fuel with
  | 0 => .error .unfinishedValue
  | fuel + 1 =>
    match skipBlanks source with
    | [] => .error .unfinishedValue
    | 'n' :: rest => finishWord ['u', 'l', 'l'] rest
    | 't' :: rest => finishWord ['r', 'u', 'e'] rest
    | 'f' :: rest => finishWord ['a', 'l', 's', 'e'] rest
    | '"' :: rest => skipText rest
    | '[' :: rest =>
      match skipBlanks rest with
      | [] => .error .unfinishedList
      | ']' :: rest => .ok rest
      | rest => skipItemsIn fuel rest
    | '\x7b' :: rest =>
      match skipBlanks rest with
      | [] => .error .unfinishedObject
      | '\x7d' :: rest => .ok rest
      | rest => skipMembersIn fuel rest
    | char :: rest =>
      if char = '-' ∨ isDigit char then skipNumber (char :: rest) else .error .valueExpected

def skipItemsIn (fuel : Nat) (source : Source) : Except Fault Source :=
  match fuel with
  | 0 => .error .unfinishedList
  | fuel + 1 => do
    let rest ← skipValueIn fuel source
    match skipBlanks rest with
    | [] => .error .unfinishedList
    | ',' :: rest => skipItemsIn fuel rest
    | ']' :: rest => .ok rest
    | _ => .error .listEndExpected

def skipMembersIn (fuel : Nat) (source : Source) : Except Fault Source :=
  match fuel with
  | 0 => .error .unfinishedObject
  | fuel + 1 =>
    match skipBlanks source with
    | [] => .error .unfinishedObject
    | '"' :: rest => do
      let rest ← skipText rest
      match skipBlanks rest with
      | [] => .error .unfinishedObject
      | ':' :: rest =>
        let rest ← skipValueIn fuel rest
        match skipBlanks rest with
        | [] => .error .unfinishedObject
        | ',' :: rest => skipMembersIn fuel rest
        | '\x7d' :: rest => .ok rest
        | _ => .error .objectEndExpected
      | _ => .error .colonExpected
    | _ => .error .keyNotText

end

/-- Passes over one value; every item and every level takes at least one character. -/
def skipValue (source : Source) : Except Fault Source :=
  skipValueIn (2 * source.length + 2) source

end Reactor.Json
