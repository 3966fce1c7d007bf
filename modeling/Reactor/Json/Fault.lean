import Reactor.Number.Shortest
import Reactor.Text.Quoted

/-!
What can be wrong with a JSON document. A fault is of one of three categories: the text ends too
early, the text is no JSON, or the text is JSON of another shape than the reader wants.
-/

namespace Reactor.Json

inductive Found where
  | null
  | flag (value : Bool)
  | whole (value : Int)
  | decimal (value : Binary64)
  | text (value : String)
  | sequence
  | object
deriving DecidableEq

def Found.describe : Found → String
  | .null => "null"
  | .flag true => "boolean `true`"
  | .flag false => "boolean `false`"
  | .whole value => "integer `" ++ toString value ++ "`"
  | .decimal value => "floating point `" ++ value.text ++ "`"
  | .text value => "string " ++ Text.quoted value
  | .sequence => "sequence"
  | .object => "map"

inductive Fault where
  | unfinishedList
  | unfinishedObject
  | unfinishedText
  | unfinishedValue
  | colonExpected
  | listEndExpected
  | objectEndExpected
  | wordExpected
  | valueExpected
  | badEscape
  | badNumber
  | numberOutOfRange
  | controlCharacter
  | keyNotText
  | loneSurrogate
  | brokenPair
  | trailingComma
  | trailingCharacters
  | wrongKind (found : Found) (wanted : String)
  -- A number of the right kind outside the range of the `wanted` type.
  | outsideRange (found : Found) (wanted : String)
  | repeatedField (name : String)
  | tooManyItems (count : Nat)
deriving DecidableEq

inductive Category where
  | truncated
  | malformed
  | mistyped
deriving DecidableEq

namespace Fault

def category : Fault → Category
  | .unfinishedList | .unfinishedObject | .unfinishedText | .unfinishedValue => .truncated
  | .wrongKind .. | .outsideRange .. | .repeatedField .. | .tooManyItems .. => .mistyped
  | _ => .malformed

def message : Fault → String
  | .unfinishedList => "EOF while parsing a list"
  | .unfinishedObject => "EOF while parsing an object"
  | .unfinishedText => "EOF while parsing a string"
  | .unfinishedValue => "EOF while parsing a value"
  | .colonExpected => "expected `:`"
  | .listEndExpected => "expected `,` or `]`"
  | .objectEndExpected => "expected `,` or `\x7d`"
  | .wordExpected => "expected ident"
  | .valueExpected => "expected value"
  | .badEscape => "invalid escape"
  | .badNumber => "invalid number"
  | .numberOutOfRange => "number out of range"
  | .controlCharacter => "control character (\\u0000-\\u001F) found while parsing a string"
  | .keyNotText => "key must be a string"
  | .loneSurrogate => "lone leading surrogate in hex escape"
  | .brokenPair => "unexpected end of hex escape"
  | .trailingComma => "trailing comma"
  | .trailingCharacters => "trailing characters"
  | .wrongKind found wanted => "invalid type: " ++ found.describe ++ ", expected " ++ wanted
  | .outsideRange found wanted => "invalid value: " ++ found.describe ++ ", expected " ++ wanted
  | .repeatedField name => "duplicate field `" ++ name ++ "`"
  | .tooManyItems count =>
    "invalid length " ++ toString count ++ ", expected fewer elements in array"

end Fault

end Reactor.Json
