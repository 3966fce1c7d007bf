/-!
Sets of characters as ascending lists of closed ranges of code points.
-/

namespace Reactor.Text

/-- Whether the ascending closed `ranges` hold `code`; the search ends at the first range above it. -/
def covers (ranges : List (Nat × Nat)) (code : Nat) : Bool :=
  match ranges with
  | [] => false
  | (first, last) :: rest =>
    if code < first then false else if code ≤ last then true else covers rest code

def blanks : List (Nat × Nat) :=
  [ (0x9, 0xd), (0x20, 0x20), (0x85, 0x85), (0xa0, 0xa0), (0x1680, 0x1680), (0x2000, 0x200a),
    (0x2028, 0x2029), (0x202f, 0x202f), (0x205f, 0x205f), (0x3000, 0x3000) ]

def isBlank (char : Char) : Bool := covers blanks char.toNat

def trimmed (chars : List Char) : List Char :=
  ((chars.dropWhile isBlank).reverse.dropWhile isBlank).reverse

end Reactor.Text
