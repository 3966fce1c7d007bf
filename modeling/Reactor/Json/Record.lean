import Reactor.Json.Skip

/-!
Records read from JSON. A record is written as an object, whose members may come in any order,
may be missing and may have names nobody knows, or as the array of its first fields. Each field
reads its value as a change of the record, so a missing field leaves what was there.
-/

namespace Reactor.Json

def mismatch (wanted : String) (source : Source) : Fault :=
  match source with
  | 'n' :: rest => word ['u', 'l', 'l'] rest .null
  | 't' :: rest => word ['r', 'u', 'e'] rest (.flag true)
  | 'f' :: rest => word ['a', 'l', 's', 'e'] rest (.flag false)
  | '"' :: rest =>
    match readText rest with
    | .ok (text, _) => .wrongKind (.text text) wanted
    | .error fault => fault
  | '[' :: _ => .wrongKind .sequence wanted
  | '\x7b' :: _ => .wrongKind .object wanted
  | char :: _ =>
    if char = '-' ∨ isDigit char then
      match readNumber source with
      | .ok (number, _) => .wrongKind number.found wanted
      | .error fault => fault
    else
      .valueExpected
  | [] => .valueExpected
where
  word (letters : List Char) (rest : Source) (found : Found) : Fault :=
    match finishWord letters rest with
    | .ok _ => .wrongKind found wanted
    | .error fault => fault

def readFlag : Reader Bool := fun source =>
  match skipBlanks source with
  | [] => .error .unfinishedValue
  | 't' :: rest => (finishWord ['r', 'u', 'e'] rest).map fun rest => (true, rest)
  | 'f' :: rest => (finishWord ['a', 'l', 's', 'e'] rest).map fun rest => (false, rest)
  | other => .error (mismatch "a boolean" other)

def readWord (wanted : String) : Reader UInt64 := fun source =>
  match skipBlanks source with
  | [] => .error .unfinishedValue
  | char :: rest =>
    if char = '-' ∨ isDigit char then
      match readNumber (char :: rest) with
      | .ok (.whole value, rest) =>
        if 0 ≤ value then .ok (UInt64.ofNat value.toNat, rest)
        else .error (.outsideRange (.whole value) wanted)
      | .ok (number, _) => .error (.wrongKind number.found wanted)
      | .error fault => .error fault
    else
      .error (mismatch wanted (char :: rest))

def readString (wanted : String) : Reader String := fun source =>
  match skipBlanks source with
  | [] => .error .unfinishedValue
  | '"' :: rest => readText rest
  | other => .error (mismatch wanted other)

def readOptional {α : Type} (read : Reader α) : Reader (Option α) := fun source =>
  match skipBlanks source with
  | 'n' :: rest => (finishWord ['u', 'l', 'l'] rest).map fun rest => (none, rest)
  | other => (read other).map fun (value, rest) => (some value, rest)

structure Field (σ : Type) where
  name : String
  read : Reader (σ → σ)

def Field.of {σ α : Type} (name : String) (read : Reader α) (set : σ → α → σ) : Field σ :=
  ⟨name, fun source => (read source).map fun (value, rest) => (fun record => set record value, rest)⟩

structure Schema (σ : Type) where
  title : String
  fields : List (Field σ)
  initial : σ

section

variable {σ : Type}

def skipColon (source : Source) : Except Fault Source :=
  match skipBlanks source with
  | [] => .error .unfinishedObject
  | ':' :: rest => .ok rest
  | _ => .error .colonExpected

/-- One member behind the opening quote of its name. A known name may stand only once. -/
def readMember (fields : List (Field σ)) (seen : List String) (record : σ) (source : Source) :
    Except Fault (List String × σ × Source) := do
  let (name, rest) ← readText source
  match fields.find? (·.name == name) with
  | none =>
    let rest ← skipColon rest
    let rest ← skipValue rest
    .ok (seen, record, rest)
  | some field =>
    if seen.contains name then
      .error (.repeatedField name)
    else
      let rest ← skipColon rest
      let (change, rest) ← field.read rest
      .ok (name :: seen, change record, rest)

/-- The members behind the opening quote of the first name, up to the closing brace. -/
def readMembers (fuel : Nat) (fields : List (Field σ)) (seen : List String) (record : σ)
    (source : Source) : Except Fault (σ × Source) :=
  match fuel with
  | 0 => .error .unfinishedObject
  | fuel + 1 => do
    let (seen, record, rest) ← readMember fields seen record source
    match skipBlanks rest with
    | [] => .error .unfinishedObject
    | '\x7d' :: rest => .ok (record, rest)
    | ',' :: rest =>
      match skipBlanks rest with
      | [] => .error .unfinishedValue
      | '"' :: rest => readMembers fuel fields seen record rest
      | '\x7d' :: _ => .error .trailingComma
      | _ => .error .keyNotText
    | _ => .error .objectEndExpected

def readObject (schema : Schema σ) (source : Source) : Except Fault (σ × Source) :=
  match skipBlanks source with
  | [] => .error .unfinishedObject
  | '\x7d' :: rest => .ok (schema.initial, rest)
  | '"' :: rest => readMembers rest.length schema.fields [] schema.initial rest
  | _ => .error .keyNotText

def closeItems (record : σ) (source : Source) : Except Fault (σ × Source) :=
  match skipBlanks source with
  | [] => .error .unfinishedList
  | ']' :: rest => .ok (record, rest)
  | ',' :: rest =>
    match skipBlanks rest with
    | ']' :: _ => .error .trailingComma
    | _ => .error .trailingCharacters
  | _ => .error .trailingCharacters

def readItems (fields : List (Field σ)) (record : σ) (source : Source) :
    Except Fault (σ × Source) :=
  match fields with
  | [] => closeItems record source
  | field :: fields =>
    match skipBlanks source with
    | [] => .error .unfinishedList
    | ']' :: rest => .ok (record, rest)
    | ',' :: rest =>
      match skipBlanks rest with
      | [] => .error .unfinishedValue
      | ']' :: _ => .error .trailingComma
      | rest => do
        let (change, rest) ← field.read rest
        readItems fields (change record) rest
    | _ => .error .listEndExpected

/-- A record behind its opening bracket: the values of its first fields in their order. -/
def readArray (schema : Schema σ) (source : Source) : Except Fault (σ × Source) :=
  match schema.fields with
  | [] => closeItems schema.initial source
  | field :: fields =>
    match skipBlanks source with
    | [] => .error .unfinishedList
    | ']' :: rest => .ok (schema.initial, rest)
    | rest => do
      let (change, rest) ← field.read rest
      readItems fields (change schema.initial) rest

def readRecord (schema : Schema σ) : Reader σ := fun source =>
  match skipBlanks source with
  | [] => .error .unfinishedValue
  | '\x7b' :: rest => readObject schema rest
  | '[' :: rest => readArray schema rest
  | other => .error (mismatch schema.title other)

def readDocument (schema : Schema σ) (document : Source) : Except Fault σ := do
  let (record, rest) ← readRecord schema document
  match skipBlanks rest with
  | [] => .ok record
  | _ => .error .trailingCharacters

end

end Reactor.Json
