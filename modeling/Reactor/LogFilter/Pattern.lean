/-!
Patterns on field values as trees, with what is asked of a pattern beyond its form: it may be
nested only so deeply, and it may need nothing that is known of characters beyond ASCII alone.
Of an element is kept what these demands look at.
-/

namespace Reactor

namespace Pattern

inductive Flag where
  | ignoreCase
  | manyLines
  | dotMatchesBreak
  | carriageReturn
  | swapGreed
  | unicode
  | spaced
deriving DecidableEq

/-- Flags as they are written, each with whether it is turned on; none comes twice. -/
abbrev Setting := List (Flag × Bool)

structure Mode where
  ignoresCase : Bool
  unicode : Bool
deriving DecidableEq

def Mode.initial : Mode := ⟨false, true⟩

def Mode.change (mode : Mode) (flags : Setting) : Mode :=
  ⟨(flags.lookup .ignoreCase).getD mode.ignoresCase, (flags.lookup .unicode).getD mode.unicode⟩

structure Literal where
  char : Char
  isByte : Bool
deriving DecidableEq

inductive CharSet where
  | empty
  | literal (sign : Literal)
  | range (first last : Literal)
  -- A class that is told by its name, or all characters but those.
  | named (negated : Bool)
  -- Digits, white space or letters of words, told by one letter, or all others.
  | shorthand (negated : Bool)
  | union (members : List CharSet)
  | bracket (negated : Bool) (inside : CharSet)
  | operation (left right : CharSet)

end Pattern

inductive Pattern where
  | empty
  | literal (sign : Pattern.Literal)
  | anything
  -- An end of the text or of a line.
  | edge
  -- An end of a word, or a place that is none.
  | wordEdge
  | shorthand (negated : Bool)
  | oneOf (set : Pattern.CharSet)
  -- Changes flags up to the end of the group around it.
  | setting (flags : Pattern.Setting)
  | group (flags : Pattern.Setting) (inside : Pattern)
  | repetition (part : Pattern)
  | sequence (parts : List Pattern)
  | choice (branches : List Pattern)

namespace Pattern

def CharSet.height : CharSet → Nat
  | .union members => 1 + heights members
  | .bracket _ inside => 1 + inside.height
  | .operation left right => 1 + max left.height right.height
  | .empty | .literal _ | .range _ _ | .named _ | .shorthand _ => 0
where
  heights : List CharSet → Nat
    | [] => 0
    | member :: others => max member.height (heights others)

def height : Pattern → Nat
  | .oneOf set => set.height
  | .group _ inside => 1 + inside.height
  | .repetition part => 1 + part.height
  | .sequence parts => 1 + heights parts
  | .choice branches => 1 + heights branches
  | .empty | .literal _ | .anything | .edge | .wordEdge | .shorthand _ | .setting _ => 0
where
  heights : List Pattern → Nat
    | [] => 0
    | part :: others => max part.height (heights others)

def heightLimit : Nat := 250

/-- A literal has no cases beyond ASCII, and its byte is no part of a longer character. -/
def Literal.isSupported (mode : Mode) (sign : Literal) : Bool :=
  if mode.unicode then !mode.ignoresCase else !(sign.isByte && 0x80 ≤ sign.char.toNat)

/-- Whether a class can be told without knowing the characters beyond ASCII. A class of bytes
holds none of those above ASCII, so it has no others to name or to leave over. -/
def CharSet.isSupported (mode : Mode) : CharSet → Bool
  | .empty => true
  | .literal sign => holds sign
  | .range first last => holds first && holds last
  | .named negated => if mode.unicode then !mode.ignoresCase else !negated
  | .shorthand negated => !mode.unicode && !negated
  | .union members => allSupported members
  | .bracket negated inside => (mode.unicode || !negated) && inside.isSupported mode
  | .operation left right => left.isSupported mode && right.isSupported mode
where
  holds (sign : Literal) : Bool :=
    if mode.unicode then !mode.ignoresCase else sign.char.toNat < 0x80
  allSupported : List CharSet → Bool
    | [] => true
    | member :: others => member.isSupported mode && allSupported others

/-- The mode behind an element that is read in `mode`; none where the element is not supported. -/
def after? (mode : Mode) : Pattern → Option Mode
  | .empty | .edge => some mode
  | .literal sign => if sign.isSupported mode then some mode else none
  | .anything => if mode.unicode then some mode else none
  | .wordEdge => if mode.unicode then none else some mode
  | .shorthand negated => if mode.unicode || negated then none else some mode
  | .oneOf set => if set.isSupported mode then some mode else none
  | .setting flags => some (mode.change flags)
  | .group flags inside => (inside.after? (mode.change flags)).map fun _ => mode
  | .repetition part => part.after? mode
  | .sequence parts => afterAll? mode parts
  | .choice branches => afterAll? mode branches
where
  afterAll? (mode : Mode) : List Pattern → Option Mode
    | [] => some mode
    | part :: others => (part.after? mode).bind fun mode => afterAll? mode others

def isUsable (pattern : Pattern) : Bool :=
  pattern.height ≤ heightLimit && (pattern.after? .initial).isSome

end Pattern

end Reactor
