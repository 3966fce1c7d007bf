/-!
File paths as text. Joining appends one path to another and changes nothing else: an absolute
path replaces what it is joined to, and a separator is added only where one is missing. The
components of a path leave out what means nothing: repeated and trailing separators, and single
dots that do not open a relative path.
-/

namespace Reactor.Path

def isAbsolute (path : String) : Bool := path.toList.head? == some '/'

def join (base tail : String) : String :=
  if isAbsolute tail then tail
  else if base.toList.isEmpty || base.toList.getLast? == some '/' then base ++ tail
  else base ++ "/" ++ tail

inductive Component where
  | root
  | current
  | parent
  | name (text : String)
deriving DecidableEq

/-- Splits at every separator; there is one piece more than there are separators. -/
def pieces : List Char → List (List Char)
  | [] => [[]]
  | char :: rest =>
    match pieces rest with
    | [] => [[char]]
    | piece :: others => if char = '/' then [] :: piece :: others else (char :: piece) :: others

/-- The component that a piece stands for; empty pieces and single dots stand for none. -/
def component? (piece : List Char) : Option Component :=
  match piece with
  | [] => none
  | ['.'] => none
  | ['.', '.'] => some .parent
  | chars => some (.name (String.ofList chars))

def components (path : String) : List Component :=
  let split := pieces path.toList
  let opening :=
    if isAbsolute path then [Component.root]
    else if split.head? == some ['.'] then [Component.current]
    else []
  opening ++ split.filterMap component?

/-- Whether the path ends in a separator or a single dot, and so can only name a directory. -/
def namesDirectory (path : String) : Bool :=
  match (pieces path.toList).getLast? with
  | some [] | some ['.'] | some ['.', '.'] => true
  | _ => false

def trimmedPieces (split : List (List Char)) : List (List Char) :=
  (split.reverse.dropWhile fun piece => (component? piece).isNone).reverse

def directory (path : String) : String :=
  match pieces path.toList with
  | [] => ""
  | first :: others =>
    let root := if isAbsolute path then "/" else ""
    match trimmedPieces others with
    | [] => root
    | named =>
      let text := String.ofList (['/'].intercalate (first :: trimmedPieces named.dropLast))
      if text.isEmpty then root else text

end Reactor.Path
