namespace FeatureLabels

structure Duration where
  nanoseconds : Nat
deriving DecidableEq, Repr

namespace Duration

def ofMillis (n : Nat) : Duration := ⟨n * 1000000⟩

def ofSeconds (n : Nat) : Duration := ⟨n * 1000000000⟩

def millis (d : Duration) : Nat := d.nanoseconds / 1000000

def seconds (d : Duration) : Nat := d.nanoseconds / 1000000000

def subsecond (d : Duration) : Nat := d.nanoseconds % 1000000000

instance : LE Duration := ⟨fun a b => a.nanoseconds ≤ b.nanoseconds⟩

instance : DecidableLE Duration := fun a b =>
  inferInstanceAs (Decidable (a.nanoseconds ≤ b.nanoseconds))

instance : Min Duration := ⟨fun a b => ⟨min a.nanoseconds b.nanoseconds⟩⟩

instance : Max Duration := ⟨fun a b => ⟨max a.nanoseconds b.nanoseconds⟩⟩

instance : Add Duration := ⟨fun a b => ⟨a.nanoseconds + b.nanoseconds⟩⟩

def times (d : Duration) (n : Nat) : Duration := ⟨n * d.nanoseconds⟩

theorem le_iff {a b : Duration} : a ≤ b ↔ a.nanoseconds ≤ b.nanoseconds := Iff.rfl

@[simp] theorem nanoseconds_min (a b : Duration) :
    (min a b).nanoseconds = min a.nanoseconds b.nanoseconds := rfl

@[simp] theorem nanoseconds_max (a b : Duration) :
    (max a b).nanoseconds = max a.nanoseconds b.nanoseconds := rfl

@[simp] theorem nanoseconds_times (n : Nat) (d : Duration) :
    (d.times n).nanoseconds = n * d.nanoseconds := rfl

end Duration

end FeatureLabels
