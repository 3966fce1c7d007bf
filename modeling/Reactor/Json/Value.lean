import Reactor.Json.Scan

/-!
JSON values and their compact text. An object keeps the order of its members; `Value.read` sorts
them by name and keeps the last of two with one name, as readers of free-form values expect.
-/

namespace Reactor.Json

inductive Value where
  | null
  | flag (value : Bool)
  | whole (value : Int)
  | decimal (value : Binary64)
  | text (value : String)
  | array (items : List Value)
  | object (members : List (String × Value))
deriving Inhabited

/-- A character inside quotes: only quotes, backslashes and control characters are escaped. -/
def textChar (char : Char) : List Char :=
  match char with
  | '"' => ['\\', '"']
  | '\\' => ['\\', '\\']
  | '\x08' => ['\\', 'b']
  | '\x0c' => ['\\', 'f']
  | '\n' => ['\\', 'n']
  | '\r' => ['\\', 'r']
  | '\t' => ['\\', 't']
  | _ =>
    if char.toNat < 0x20 then
      let digits := Nat.toDigits 16 char.toNat
      ['\\', 'u'] ++ List.replicate (4 - digits.length) '0' ++ digits
    else
      [char]

def textChars (text : String) : List Char :=
  '"' :: text.toList.flatMap textChar ++ ['"']

def wholeChars (value : Int) : List Char :=
  if value < 0 then '-' :: Nat.toDigits 10 value.natAbs else Nat.toDigits 10 value.natAbs

def commaSeparated : List (List Char) → List Char
  | [] => []
  | [part] => part
  | part :: parts => part ++ ',' :: commaSeparated parts

namespace Value

mutual

def chars : Value → List Char
  | .null => ['n', 'u', 'l', 'l']
  | .flag true => ['t', 'r', 'u', 'e']
  | .flag false => ['f', 'a', 'l', 's', 'e']
  | .whole value => wholeChars value
  | .decimal value => value.chars
  | .text value => textChars value
  | .array items => '[' :: commaSeparated (itemChars items) ++ [']']
  | .object members => '\x7b' :: commaSeparated (memberChars members) ++ ['\x7d']

def itemChars : List Value → List (List Char)
  | [] => []
  | item :: items => item.chars :: itemChars items

def memberChars : List (String × Value) → List (List Char)
  | [] => []
  | (name, value) :: members => (textChars name ++ ':' :: value.chars) :: memberChars members

end

def compact (value : Value) : String := String.ofList value.chars

/-- The member of that name; `none` if there is none, or `null` stands there. -/
def get? (value : Value) (name : String) : Option Value :=
  match value with
  | .object members =>
    match members.find? (·.1 == name) with
    | some (_, .null) | none => none
    | some (_, found) => some found
  | _ => none

def text? : Value → Option String
  | .text value => some value
  | _ => none

def flag? : Value → Option Bool
  | .flag value => some value
  | _ => none

def count? : Value → Option Nat
  | .whole value => if 0 ≤ value then some value.toNat else none
  | _ => none

def items : Value → List Value
  | .array items => items
  | _ => []

/-- Puts a member into its place by name; it replaces one of the same name. -/
def putMember (name : String) (value : Value) : List (String × Value) → List (String × Value)
  | [] => [(name, value)]
  | (other, kept) :: members =>
    if name = other then (name, value) :: members
    else if name < other then (name, value) :: (other, kept) :: members
    else (other, kept) :: putMember name value members

mutual

def readIn (fuel : Nat) (source : Source) : Except Fault (Value × Source) :=
  match fuel with
  | 0 => .error .unfinishedValue
  | fuel + 1 =>
    match skipBlanks source with
    | [] => .error .unfinishedValue
    | 'n' :: rest => (finishWord ['u', 'l', 'l'] rest).map fun rest => (.null, rest)
    | 't' :: rest => (finishWord ['r', 'u', 'e'] rest).map fun rest => (.flag true, rest)
    | 'f' :: rest => (finishWord ['a', 'l', 's', 'e'] rest).map fun rest => (.flag false, rest)
    | '"' :: rest => (readText rest).map fun (content, rest) => (.text content, rest)
    | '[' :: rest =>
      match skipBlanks rest with
      | [] => .error .unfinishedList
      | ']' :: rest => .ok (.array [], rest)
      | rest => (readItemsIn fuel rest).map fun (items, rest) => (.array items, rest)
    | '\x7b' :: rest =>
      match skipBlanks rest with
      | [] => .error .unfinishedObject
      | '\x7d' :: rest => .ok (.object [], rest)
      | rest => (readMembersIn fuel [] rest).map fun (members, rest) => (.object members, rest)
    | char :: rest =>
      if char = '-' ∨ isDigit char then
        (readNumber (char :: rest)).map fun (number, rest) =>
          match number with
          | .whole value => (.whole value, rest)
          | .decimal value => (.decimal value, rest)
      else
        .error .valueExpected

def readItemsIn (fuel : Nat) (source : Source) : Except Fault (List Value × Source) :=
  match fuel with
  | 0 => .error .unfinishedList
  | fuel + 1 => do
    let (item, rest) ← readIn fuel source
    match skipBlanks rest with
    | [] => .error .unfinishedList
    | ']' :: rest => .ok ([item], rest)
    | ',' :: rest =>
      match skipBlanks rest with
      | [] => .error .unfinishedValue
      | ']' :: _ => .error .trailingComma
      | rest =>
        let (items, rest) ← readItemsIn fuel rest
        .ok (item :: items, rest)
    | _ => .error .listEndExpected

def readMembersIn (fuel : Nat) (members : List (String × Value)) (source : Source) :
    Except Fault (List (String × Value) × Source) :=
  match fuel with
  | 0 => .error .unfinishedObject
  | fuel + 1 =>
    match skipBlanks source with
    | [] => .error .unfinishedValue
    | '"' :: rest => do
      let (name, rest) ← readText rest
      match skipBlanks rest with
      | [] => .error .unfinishedObject
      | ':' :: rest =>
        let (value, rest) ← readIn fuel rest
        let members := putMember name value members
        match skipBlanks rest with
        | [] => .error .unfinishedObject
        | '\x7d' :: rest => .ok (members, rest)
        | ',' :: rest =>
          match skipBlanks rest with
          | '\x7d' :: _ => .error .trailingComma
          | rest => readMembersIn fuel members rest
        | _ => .error .objectEndExpected
      | _ => .error .colonExpected
    | _ => .error .keyNotText

end

def read (document : Source) : Except Fault Value := do
  let (value, rest) ← readIn (2 * document.length + 2) document
  match skipBlanks rest with
  | [] => .ok value
  | _ => .error .trailingCharacters

end Value

end Reactor.Json
