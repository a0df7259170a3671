namespace FeatureLabels

/-- A number of seconds, counted in units of `2 ^ -62` seconds. Whole milliseconds keep their 53
significant bits in this unit, and so do their sums. -/
structure Seconds where
  units : Nat
deriving DecidableEq, Repr

namespace Seconds

def unitsPerSecond : Nat := 1 <<< 62

/-- A quotient rounded to a whole number; a half goes to the even neighbour. -/
def roundDiv (n d : Nat) : Nat :=
  let rest := 2 * (n % d)
  if rest < d ∨ (rest = d ∧ n / d % 2 = 0) then n / d else n / d + 1

def rounded (n d : Nat) : Seconds :=
  let step := 1 <<< (Nat.log2 (n / d) - 52)
  ⟨roundDiv n (d * step) * step⟩

def ofMillis (n : Nat) : Seconds := rounded (n * unitsPerSecond) 1000

def add (a b : Seconds) : Seconds := rounded (a.units + b.units) 1

instance : Add Seconds := ⟨add⟩

def decimal (digits places : Nat) : String :=
  let fraction := toString (digits % Nat.pow 10 places)
  if places = 0 then toString digits
  else
    toString (digits / Nat.pow 10 places) ++ "." ++
      String.ofList (List.replicate (places - fraction.length) '0') ++ fraction

/-- The decimal of that many places that reads back as the number and comes closest to it. -/
def reading? (s : Seconds) (places : Nat) : Option String :=
  let scaled := s.units * Nat.pow 10 places
  let low := scaled / unitsPerSecond
  let readsBack := fun digits => rounded (digits * unitsPerSecond) (Nat.pow 10 places) == s
  let lowIsCloser := 2 * (scaled % unitsPerSecond) ≤ unitsPerSecond
  if readsBack low && (lowIsCloser || !readsBack (low + 1)) then some (decimal low places)
  else if readsBack (low + 1) then some (decimal (low + 1) places)
  else none

def text (s : Seconds) : String :=
  ((List.range 63).findSome? s.reading?).getD <|
    decimal (s.units * Nat.pow 10 62 / unitsPerSecond) 62

end Seconds

end FeatureLabels
