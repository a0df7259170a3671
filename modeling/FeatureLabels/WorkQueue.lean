import FeatureLabels.Resource.Basic

namespace FeatureLabels

structure Work where
  kind : Kind
  id : ObjectId
deriving DecidableEq, Repr

/-- The waiting work, each with the millisecond at which it is due. -/
structure WorkQueue where
  entries : List (Work × Nat) := []

namespace WorkQueue

def due? (q : WorkQueue) (work : Work) : Option Nat :=
  (q.entries.find? fun e => e.1 == work).map Prod.snd

def remove (q : WorkQueue) (work : Work) : WorkQueue :=
  ⟨q.entries.filter fun e => e.1 != work⟩

/-- Lets work wait until a time, unless it is due before that already. -/
def add (q : WorkQueue) (work : Work) (time : Nat) : WorkQueue :=
  match q.due? work with
  | none => ⟨q.entries ++ [(work, time)]⟩
  | some old => if old ≤ time then q else ⟨(q.remove work).entries ++ [(work, time)]⟩

/-- The work that is due first; of several, the one that has waited longest. -/
def first? (q : WorkQueue) : Option (Work × Nat) :=
  q.entries.foldl
    (fun best e =>
      match best with
      | some b => if e.2 < b.2 then some e else some b
      | none => some e)
    none

end WorkQueue

end FeatureLabels
