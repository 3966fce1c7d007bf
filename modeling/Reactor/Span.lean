/-!
Spans of time, counted in whole nanoseconds. Configuration and reports show them in whole
milliseconds, rounded down; a 64-bit millisecond field keeps the count modulo `2 ^ 64`.
`Span.text` writes a span in the largest unit that gives a whole part.
-/

namespace Reactor

/-- A length of time in whole nanoseconds. -/
structure Span where
  nanos : Nat
deriving DecidableEq, Inhabited

namespace Span

def zero : Span := ⟨0⟩

def ofMillis (count : Nat) : Span := ⟨count * 1000000⟩

def ofSeconds (count : Nat) : Span := ⟨count * 1000000000⟩

def isZero (span : Span) : Bool := span.nanos == 0

/-- Whole milliseconds, rounded down. -/
def millis (span : Span) : Nat := span.nanos / 1000000

/-- The millisecond count as a 64-bit field holds it. -/
def millisWord (span : Span) : UInt64 := UInt64.ofNat span.millis

instance : LT Span := ⟨fun first second => first.nanos < second.nanos⟩

instance (first second : Span) : Decidable (first < second) :=
  inferInstanceAs (Decidable (first.nanos < second.nanos))

/-- The digits of `part / 10 ^ width` behind the point, without trailing zeros. -/
private def fraction (part width : Nat) : List Char :=
  let digits := Nat.toDigits 10 part
  let padded := List.replicate (width - digits.length) '0' ++ digits
  (padded.reverse.dropWhile (· == '0')).reverse

private def inUnit (whole part width : Nat) (unit : String) : String :=
  if part = 0 then
    toString whole ++ unit
  else
    toString whole ++ "." ++ String.ofList (fraction part width) ++ unit

/-- Seconds, else milliseconds, else microseconds, else nanoseconds. -/
def text (span : Span) : String :=
  let nanos := span.nanos
  if 1000000000 ≤ nanos then
    inUnit (nanos / 1000000000) (nanos % 1000000000) 9 "s"
  else if 1000000 ≤ nanos then
    inUnit (nanos / 1000000) (nanos % 1000000) 6 "ms"
  else if 1000 ≤ nanos then
    inUnit (nanos / 1000) (nanos % 1000) 3 "µs"
  else
    toString nanos ++ "ns"

@[simp] theorem millis_ofMillis (count : Nat) : (ofMillis count).millis = count := by
  simp [millis, ofMillis]

end Span

end Reactor
