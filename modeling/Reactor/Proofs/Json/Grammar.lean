import Reactor.Json.Scan

/-!
The grammar of JSON, said without a reader. A tree keeps of a text all but its blanks: numbers and
quoted texts stand in it as they are written. A phrase spans a source up to a rest; in an array or
an object its parts span one stretch each.
-/

namespace Reactor.Json

abbrev Literal := List Char

inductive Tree where
  | null
  | flag (value : Bool)
  | number (literal : Literal)
  | text (literal : Literal)
  | list (items : List Tree)
  | object (members : List (Literal × Tree))

structure IsDigits (chars : List Char) : Prop where
  inhabited : chars ≠ []
  all : ∀ char ∈ chars, isDigit char = true

/-- The digits in front of the point: a zero stands alone. -/
structure IsWhole (chars : List Char) : Prop extends IsDigits chars where
  alone : chars.head? = some '0' → chars = ['0']

inductive IsFraction : List Char → Prop where
  | nil : IsFraction []
  | digits {digits : List Char} : IsDigits digits → IsFraction ('.' :: digits)

inductive IsExponent : List Char → Prop where
  | nil : IsExponent []
  | digits {mark : Char} {sign digits : List Char} : mark = 'e' ∨ mark = 'E' →
      sign = [] ∨ sign = ['+'] ∨ sign = ['-'] → IsDigits digits →
        IsExponent (mark :: (sign ++ digits))

inductive IsNumber : Literal → Prop where
  | parts {sign whole fraction exponent : List Char} : sign = [] ∨ sign = ['-'] →
      IsWhole whole → IsFraction fraction → IsExponent exponent →
        IsNumber (sign ++ (whole ++ (fraction ++ exponent)))

/-- What stands behind a value: the end, a blank, or what goes on with an array or an object. -/
def Follows (rest : Source) : Prop :=
  ∀ char ∈ rest.head?, isBlank char = true ∨ char = ',' ∨ char = ']' ∨ char = '\x7d'

def letterEscape (letter : Char) : Option Char :=
  match letter with
  | '"' => some '"'
  | '\\' => some '\\'
  | '/' => some '/'
  | 'b' => some '\x08'
  | 'f' => some '\x0c'
  | 'n' => some '\n'
  | 'r' => some '\r'
  | 't' => some '\t'
  | _ => none

/-- Four hexadecimal digits and their value. -/
inductive IsUnit : List Char → Nat → Prop where
  | digits {first second third fourth : Char} {a b c d : Nat} : hexDigit first = some a →
      hexDigit second = some b → hexDigit third = some c → hexDigit fourth = some d →
        IsUnit [first, second, third, fourth] (((a * 16 + b) * 16 + c) * 16 + d)

structure IsPlain (char : Char) : Prop where
  notQuote : char ≠ '"'
  notBackslash : char ≠ '\\'
  printed : ¬ char.toNat < 0x20

/-- What may stand between quotes; surrogates need not come in pairs. -/
inductive IsQuoted : Literal → Prop where
  | nil : IsQuoted []
  | plain {char : Char} {literal : Literal} : IsPlain char → IsQuoted literal →
      IsQuoted (char :: literal)
  | letter {letter char : Char} {literal : Literal} : letterEscape letter = some char →
      IsQuoted literal → IsQuoted ('\\' :: letter :: literal)
  | unit {digits : List Char} {unit : Nat} {literal : Literal} : IsUnit digits unit →
      IsQuoted literal → IsQuoted ('\\' :: 'u' :: (digits ++ literal))

inductive IsEscape : List Char → Char → Prop where
  | letter {letter char : Char} : letterEscape letter = some char → IsEscape [letter] char
  | unit {digits : List Char} {unit : Nat} : IsUnit digits unit → isLeading unit = false →
      isTrailing unit = false → IsEscape ('u' :: digits) (Char.ofNat unit)
  | pair {digits others : List Char} {leading trailing : Nat} : IsUnit digits leading →
      isLeading leading = true → IsUnit others trailing → isTrailing trailing = true →
        IsEscape ('u' :: (digits ++ '\\' :: 'u' :: others))
          (Char.ofNat ((leading - 0xd800) * 0x400 + (trailing - 0xdc00) + 0x10000))

/-- The characters that a literal stands for. -/
inductive Spells : Literal → List Char → Prop where
  | nil : Spells [] []
  | plain {char : Char} {literal : Literal} {chars : List Char} : IsPlain char →
      Spells literal chars → Spells (char :: literal) (char :: chars)
  | escape {letters : List Char} {char : Char} {literal : Literal} {chars : List Char} :
      IsEscape letters char → Spells literal chars →
        Spells ('\\' :: (letters ++ literal)) (char :: chars)

/-- What is written in one stretch: a value, or the rest of an array or an object from the start
of an item or a member on. -/
inductive Phrase where
  | value (tree : Tree)
  | items (trees : List Tree)
  | members (members : List (Literal × Tree))

/-- The phrase is written from the front of the source, after blanks, up to the rest. -/
inductive Spans : Phrase → Source → Source → Prop where
  | null {source rest : Source} : skipBlanks source = 'n' :: 'u' :: 'l' :: 'l' :: rest →
      Spans (.value .null) source rest
  | yes {source rest : Source} : skipBlanks source = 't' :: 'r' :: 'u' :: 'e' :: rest →
      Spans (.value (.flag true)) source rest
  | no {source rest : Source} : skipBlanks source = 'f' :: 'a' :: 'l' :: 's' :: 'e' :: rest →
      Spans (.value (.flag false)) source rest
  | number {literal : Literal} {source rest : Source} : skipBlanks source = literal ++ rest →
      IsNumber literal → Follows rest → Spans (.value (.number literal)) source rest
  | text {literal : Literal} {source rest : Source} :
      skipBlanks source = '"' :: (literal ++ '"' :: rest) → IsQuoted literal →
        Spans (.value (.text literal)) source rest
  | emptyList {source inner rest : Source} : skipBlanks source = '[' :: inner →
      skipBlanks inner = ']' :: rest → Spans (.value (.list [])) source rest
  | list {trees : List Tree} {source inner rest : Source} : skipBlanks source = '[' :: inner →
      Spans (.items trees) inner rest → Spans (.value (.list trees)) source rest
  | emptyObject {source inner rest : Source} : skipBlanks source = '\x7b' :: inner →
      skipBlanks inner = '\x7d' :: rest → Spans (.value (.object [])) source rest
  | object {members : List (Literal × Tree)} {source inner rest : Source} :
      skipBlanks source = '\x7b' :: inner → Spans (.members members) inner rest →
        Spans (.value (.object members)) source rest
  | lastItem {tree : Tree} {source middle rest : Source} : Spans (.value tree) source middle →
      skipBlanks middle = ']' :: rest → Spans (.items [tree]) source rest
  | item {tree : Tree} {trees : List Tree} {source middle next rest : Source} :
      Spans (.value tree) source middle → skipBlanks middle = ',' :: next →
        Spans (.items trees) next rest → Spans (.items (tree :: trees)) source rest
  | lastMember {literal : Literal} {tree : Tree} {source colon inner middle rest : Source} :
      skipBlanks source = '"' :: (literal ++ '"' :: colon) → IsQuoted literal →
        skipBlanks colon = ':' :: inner → Spans (.value tree) inner middle →
          skipBlanks middle = '\x7d' :: rest → Spans (.members [(literal, tree)]) source rest
  | member {literal : Literal} {tree : Tree} {members : List (Literal × Tree)}
      {source colon inner middle next rest : Source} :
      skipBlanks source = '"' :: (literal ++ '"' :: colon) → IsQuoted literal →
        skipBlanks colon = ':' :: inner → Spans (.value tree) inner middle →
          skipBlanks middle = ',' :: next → Spans (.members members) next rest →
            Spans (.members ((literal, tree) :: members)) source rest

def Document (document : Source) (tree : Tree) : Prop :=
  ∃ rest, Spans (.value tree) document rest ∧ skipBlanks rest = []

end Reactor.Json
