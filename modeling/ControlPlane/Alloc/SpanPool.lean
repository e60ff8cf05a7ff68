import ControlPlane.Operation

/-! # Pools of consecutive places

A `SpanPool` hands out runs of places from `0` up to its size.  It keeps the free places as a list
of spans in increasing order, no two of which touch.  A run is taken from the first span that is
long enough, and a run given back is joined to the spans it touches.  Runs that are out are never
moved, so a request can fail although enough places are free in all. -/

namespace ControlPlane

/-- The places from `low` up to but not including `high`. -/
structure Span where
  low : Nat
  high : Nat
  deriving DecidableEq

namespace Span

def size (s : Span) : Nat := s.high - s.low

/-- Whether a place is in the span. -/
def Holds (s : Span) (n : Nat) : Prop := s.low ≤ n ∧ n < s.high

instance (s : Span) (n : Nat) : Decidable (s.Holds n) := inferInstanceAs (Decidable (_ ∧ _))

/-- A span in front of others, joined to the first of them if they touch. -/
def join (s : Span) : List Span → List Span
  | t :: rest => if s.high = t.low then ⟨s.low, t.high⟩ :: rest else s :: t :: rest
  | [] => [s]

/-- Takes `count` places from the first span that has them. -/
def takeFirst (count : Nat) : List Span → Option (Nat × List Span)
  | [] => none
  | s :: rest =>
    if count < s.size then
      some (s.low, ⟨s.low + count, s.high⟩ :: rest)
    else if count = s.size then
      some (s.low, rest)
    else
      (takeFirst count rest).map fun (base, rest) => (base, s :: rest)

/-- Adds a span to a list in order, unless they overlap. -/
def insert (s : Span) : List Span → Option (List Span)
  | [] => some [s]
  | t :: rest =>
    if t.high ≤ s.low then
      (insert s rest).map (join t)
    else if s.high ≤ t.low then
      some (join s (t :: rest))
    else
      none

end Span

structure SpanPool where
  name : String
  size : Nat
  free : List Span

namespace SpanPool

/-- A pool with every place free. -/
def fresh (name : String) (size : Nat) : SpanPool := ⟨name, size, [⟨0, size⟩]⟩

/-- Whether a place is free. -/
def IsFree (p : SpanPool) (n : Nat) : Prop := ∃ s ∈ p.free, s.Holds n

instance (p : SpanPool) (n : Nat) : Decidable (p.IsFree n) :=
  inferInstanceAs (Decidable (∃ s ∈ p.free, s.Holds n))

/-- Hands out `count` consecutive places; the answer is the first of them. -/
def alloc (count : Nat) : Operation SpanPool Nat := fun p =>
  if count = 0 ∨ p.size < count then
    .error (.invalid (.spanCount p.name count)) p
  else
    match Span.takeFirst count p.free with
    | some (base, free) => .ok base { p with free := free }
    | none => .error (.full (.table p.name)) p

/-- Gives `count` places back from `base` on. -/
def release (base count : Nat) : Operation SpanPool Unit := fun p =>
  if count = 0 ∨ p.size < base + count then
    .error (.invalid (.spanOutside p.name base count)) p
  else
    match Span.insert ⟨base, base + count⟩ p.free with
    | some free => .ok () { p with free := free }
    | none => .error (.invalid (.spanFree p.name base count)) p

/-- The number of free places. -/
def freeCount (p : SpanPool) : Nat := p.free.foldr (fun s n => s.size + n) 0

/-- Places have numbers below this. -/
def placeLimit : Nat := 65535

/-- Whether any of `count` places from `base` on is out. -/
def isUsed (p : SpanPool) (base count : Nat) : Bool :=
  (List.range' base (min (base + count) placeLimit - base)).any fun n => !decide (p.IsFree n)

end SpanPool

end ControlPlane
