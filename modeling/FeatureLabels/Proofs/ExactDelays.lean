import Mathlib.Algebra.Ring.Nat
import FeatureLabels.Proofs.RetryHistory

/-!
The arithmetic of delays. A machine computes them in words, with a saturating count, a checked shift
and a checked product; no step of this overflows or wraps around, so that the delays are those of
unbounded arithmetic. They double from the base up to the cap, and stay there.
-/

namespace FeatureLabels

structure Span where
  seconds : UInt64
  nanoseconds : UInt32
  nanoseconds_lt : nanoseconds.toNat < 1000000000

namespace Span

def duration (s : Span) : Duration := ⟨s.seconds.toNat * 1000000000 + s.nanoseconds.toNat⟩

def mul? (a b : UInt64) : Option UInt64 :=
  if a.toNat * b.toNat < UInt64.size then some (a * b) else none

def add? (a b : UInt64) : Option UInt64 :=
  if a.toNat + b.toNat < UInt64.size then some (a + b) else none

/-- A span taken `factor` times, unless its seconds no longer fit into a word. -/
def times? (s : Span) (factor : UInt32) : Option Span := do
  let nanoseconds := s.nanoseconds.toUInt64 * factor.toUInt64
  let seconds ← mul? s.seconds factor.toUInt64
  let seconds ← add? seconds (nanoseconds / 1000000000)
  some
    { seconds
      nanoseconds := (nanoseconds % 1000000000).toUInt32
      nanoseconds_lt := by
        rw [UInt64.toNat_toUInt32, UInt64.toNat_mod]
        exact Nat.lt_of_le_of_lt (Nat.mod_le _ _) (Nat.mod_lt _ (by decide)) }

instance : LE Span := ⟨fun a b =>
  a.seconds < b.seconds ∨ a.seconds = b.seconds ∧ a.nanoseconds ≤ b.nanoseconds⟩

instance : DecidableLE Span := fun a b =>
  inferInstanceAs (Decidable (a.seconds < b.seconds ∨ _ ∧ _))

instance : Min Span := ⟨fun a b => if a ≤ b then a else b⟩

instance : Max Span := ⟨fun a b => if a ≤ b then b else a⟩

variable {s a b r : Span} {factor : UInt32}

theorem toNat_mul? {a b c : UInt64} (h : mul? a b = some c) : c.toNat = a.toNat * b.toNat := by
  obtain ⟨hfits, hc⟩ := Option.ite_none_right_eq_some.mp h
  rw [← Option.some.inj hc, UInt64.toNat_mul, Nat.mod_eq_of_lt hfits]

theorem toNat_add? {a b c : UInt64} (h : add? a b = some c) : c.toNat = a.toNat + b.toNat := by
  obtain ⟨hfits, hc⟩ := Option.ite_none_right_eq_some.mp h
  rw [← Option.some.inj hc, UInt64.toNat_add, Nat.mod_eq_of_lt hfits]

theorem toNat_mul_nanoseconds (s : Span) (factor : UInt32) :
    (s.nanoseconds.toUInt64 * factor.toUInt64).toNat = s.nanoseconds.toNat * factor.toNat := by
  have hbound : s.nanoseconds.toNat * factor.toNat ≤ 1000000000 * 2 ^ 32 :=
    Nat.mul_le_mul (Nat.le_of_lt s.nanoseconds_lt) (Nat.le_of_lt factor.toNat_lt)
  rw [UInt64.toNat_mul, UInt32.toNat_toUInt64, UInt32.toNat_toUInt64,
    Nat.mod_eq_of_lt (Nat.lt_of_le_of_lt hbound (by decide))]

theorem duration_times (s : Span) (n : Nat) :
    s.duration.times n = ⟨s.seconds.toNat * n * 1000000000 + s.nanoseconds.toNat * n⟩ := by
  rw [Duration.times, duration, Nat.mul_add, Nat.mul_comm n s.nanoseconds.toNat, Nat.mul_comm n,
    Nat.mul_right_comm]

theorem seconds_times (s : Span) (n : Nat) :
    (s.duration.times n).seconds =
      (s.seconds.toNat * n * 1000000000 + s.nanoseconds.toNat * n) / 1000000000 := by
  rw [duration_times]
  rfl

theorem duration_times? (h : s.times? factor = some r) :
    r.duration = s.duration.times factor.toNat := by
  obtain ⟨product, hproduct, h⟩ := Option.bind_eq_some_iff.mp h
  obtain ⟨seconds, hseconds, h⟩ := Option.bind_eq_some_iff.mp h
  obtain rfl := Option.some.inj h
  have hrest : s.nanoseconds.toNat * factor.toNat % 1000000000 < 2 ^ 32 :=
    Nat.lt_trans (Nat.mod_lt _ (by decide)) (by decide)
  rw [duration_times, duration, toNat_add? hseconds, toNat_mul? hproduct, UInt32.toNat_toUInt64,
    UInt64.toNat_div, UInt64.toNat_toUInt32, UInt64.toNat_mod, toNat_mul_nanoseconds]
  simp only [UInt64.reduceToNat]
  rw [Nat.mod_eq_of_lt hrest, Duration.mk.injEq]
  omega

theorem exists_times? (h : (s.duration.times factor.toNat).seconds < UInt64.size) :
    ∃ r, s.times? factor = some r := by
  rw [seconds_times] at h
  have hmul : s.seconds.toNat * factor.toUInt64.toNat < UInt64.size := by
    rw [UInt32.toNat_toUInt64]
    omega
  have hproduct : mul? s.seconds factor.toUInt64 = some (s.seconds * factor.toUInt64) := if_pos hmul
  have hadd : (s.seconds * factor.toUInt64).toNat +
      (s.nanoseconds.toUInt64 * factor.toUInt64 / 1000000000).toNat < UInt64.size := by
    rw [toNat_mul? hproduct, UInt32.toNat_toUInt64, UInt64.toNat_div, toNat_mul_nanoseconds]
    simp only [UInt64.reduceToNat]
    omega
  simp only [times?, hproduct, add?, if_pos hadd, Option.bind_eq_bind, Option.bind_some]
  exact ⟨_, rfl⟩

theorem le_iff : a ≤ b ↔ a.duration ≤ b.duration := by
  have ha := a.nanoseconds_lt
  have hb := b.nanoseconds_lt
  change a.seconds < b.seconds ∨ a.seconds = b.seconds ∧ a.nanoseconds ≤ b.nanoseconds ↔
    a.seconds.toNat * 1000000000 + a.nanoseconds.toNat ≤
      b.seconds.toNat * 1000000000 + b.nanoseconds.toNat
  rw [UInt64.lt_iff_toNat_lt, UInt32.le_iff_toNat_le, ← UInt64.toNat_inj]
  omega

theorem duration_min (a b : Span) : (min a b).duration = min a.duration b.duration := by
  change (if a ≤ b then a else b).duration =
    ⟨min a.duration.nanoseconds b.duration.nanoseconds⟩
  split
  · rename_i h
    rw [Nat.min_eq_left (le_iff.mp h)]
  · rename_i h
    rw [Nat.min_eq_right (Nat.le_of_not_le fun hle => h (le_iff.mpr hle))]

theorem duration_max (a b : Span) : (max a b).duration = max a.duration b.duration := by
  change (if a ≤ b then b else a).duration =
    ⟨max a.duration.nanoseconds b.duration.nanoseconds⟩
  split
  · rename_i h
    rw [Nat.max_eq_right (le_iff.mp h)]
  · rename_i h
    rw [Nat.max_eq_left (Nat.le_of_not_le fun hle => h (le_iff.mpr hle))]

end Span

/-- The calls about a task's delays: a failure asks for one, and a success resets its count. -/
inductive RetryCall where
  | fail (task : Task)
  | reset (task : Task)

/-- How often a task has failed since it was last reset, given the calls, the latest one first. -/
def failuresSince (task : Task) : List RetryCall → Nat
  | [] => 0
  | .fail other :: earlier =>
    if other = task then failuresSince task earlier + 1 else failuresSince task earlier
  | .reset other :: earlier => if other = task then 0 else failuresSince task earlier

namespace Retries

def after (maximum : Duration) : List RetryCall → Retries
  | [] => .ofMaximum maximum
  | .fail task :: earlier => (after maximum earlier).fail task
  | .reset task :: earlier => (after maximum earlier).reset task

end Retries

structure RetryWords where
  cap : Span
  failures : Std.ExtTreeMap Task UInt32 Task.order := ∅

namespace RetryWords

def base : Span := ⟨0, 5000000, by decide⟩

def ofMaximum (maximum : Span) : RetryWords := { cap := max maximum base }

def count (r : RetryWords) (task : Task) : UInt32 := r.failures[task]?.getD 0

/-- Two to the power of a count, unless this shifts the bit out of the word. -/
def factor? (count : UInt32) : Option UInt32 := if count < 32 then some (1 <<< count) else none

/-- The next count, which is the same again once it is the largest one. -/
def saturated (count : UInt32) : UInt32 := if count = 0xFFFFFFFF then count else count + 1

def delay (r : RetryWords) (task : Task) : Span :=
  match (factor? (r.count task)).bind base.times? with
  | some delay => min delay r.cap
  | none => r.cap

def fail (r : RetryWords) (task : Task) : RetryWords :=
  { r with failures := r.failures.insert task (saturated (r.count task)) }

def reset (r : RetryWords) (task : Task) : RetryWords :=
  { r with failures := r.failures.erase task }

def after (maximum : Span) : List RetryCall → RetryWords
  | [] => .ofMaximum maximum
  | .fail task :: earlier => (after maximum earlier).fail task
  | .reset task :: earlier => (after maximum earlier).reset task

/-- Words stand for unbounded counts. -/
structure Represents (words : RetryWords) (r : Retries) : Prop where
  cap_eq : words.cap.duration = r.limit.cap
  count_eq : ∀ task, (words.count task).toNat = r.count task

variable {words : RetryWords} {r : Retries} {task : Task} {n : UInt32}

theorem count_fail (words : RetryWords) (task other : Task) :
    (words.fail task).count other =
      if task = other then saturated (words.count task) else words.count other := by
  by_cases h : task = other <;> simp [count, fail, Std.ExtTreeMap.getElem?_insert, h]

theorem count_reset (words : RetryWords) (task other : Task) :
    (words.reset task).count other = if task = other then 0 else words.count other := by
  by_cases h : task = other <;> simp [count, reset, Std.ExtTreeMap.getElem?_erase, h]

theorem toNat_factor? (h : n.toNat < 32) :
    ∃ factor, factor? n = some factor ∧ factor.toNat = 2 ^ n.toNat := by
  refine ⟨1 <<< n, if_pos (UInt32.lt_iff_toNat_lt.mpr h), ?_⟩
  rw [UInt32.toNat_shiftLeft, Nat.mod_eq_of_lt h, UInt32.toNat_one, Nat.one_shiftLeft,
    Nat.mod_eq_of_lt (Nat.pow_lt_pow_right (by decide) h)]

theorem toNat_saturated (n : UInt32) :
    (saturated n).toNat = min (n.toNat + 1) Retries.maxFailures := by
  have hmax : Retries.maxFailures = 4294967295 := rfl
  have hbound := n.toNat_lt
  rw [saturated, hmax]
  split
  · rename_i h
    subst h
    rfl
  · rename_i h
    have hne : n.toNat ≠ 4294967295 := fun heq => h (UInt32.toNat_inj.mp heq)
    rw [UInt32.toNat_add, UInt32.toNat_one, Nat.mod_eq_of_lt (by omega)]
    omega

theorem exists_times?_base (factor : UInt32) :
    ∃ r, base.times? factor = some r ∧ r.duration = baseDelay.times factor.toNat := by
  have hbound := factor.toNat_lt
  have hbase : base.duration = baseDelay := rfl
  have hfits : (base.duration.times factor.toNat).seconds < UInt64.size := by
    rw [Span.seconds_times]
    change (0 * factor.toNat * 1000000000 + 5000000 * factor.toNat) / 1000000000 < 2 ^ 64
    omega
  obtain ⟨r, hr⟩ := Span.exists_times? hfits
  exact ⟨r, hr, hbase ▸ Span.duration_times? hr⟩

theorem represents_ofMaximum (maximum : Span) :
    (ofMaximum maximum).Represents (.ofMaximum maximum.duration) where
  cap_eq := Span.duration_max maximum base
  count_eq task := by simp [count, ofMaximum, Retries.count, Retries.ofMaximum]

theorem Represents.fail (h : words.Represents r) (task : Task) :
    (words.fail task).Represents (r.fail task) where
  cap_eq := h.cap_eq
  count_eq other := by
    rw [Retries.count_fail, count_fail, apply_ite UInt32.toNat, toNat_saturated, h.count_eq,
      h.count_eq]

theorem Represents.reset (h : words.Represents r) (task : Task) :
    (words.reset task).Represents (r.reset task) where
  cap_eq := h.cap_eq
  count_eq other := by
    rw [Retries.count_reset, count_reset, apply_ite UInt32.toNat, h.count_eq]
    rfl

theorem represents_after (maximum : Span) (calls : List RetryCall) :
    (after maximum calls).Represents (Retries.after maximum.duration calls) := by
  induction calls with
  | nil => exact represents_ofMaximum maximum
  | cons call earlier ih =>
      cases call with
      | fail task => exact ih.fail task
      | reset task => exact ih.reset task

theorem Represents.delay_eq (h : words.Represents r) (task : Task) :
    (words.delay task).duration = r.delay task := by
  rw [delay, Retries.delay, DelayCap.delay, DelayCap.factorBits, ← h.count_eq, ← h.cap_eq]
  by_cases hsmall : (words.count task).toNat < 32
  · obtain ⟨factor, hfactor, hpower⟩ := toNat_factor? hsmall
    obtain ⟨product, hproduct, hduration⟩ := exists_times?_base factor
    rw [if_pos hsmall, hfactor, Option.bind_some, hproduct, Nat.one_shiftLeft, ← hpower,
      ← hduration]
    exact Span.duration_min product words.cap
  · have hlarge : factor? (words.count task) = none :=
      if_neg fun hlt => hsmall (UInt32.lt_iff_toNat_lt.mp hlt)
    rw [if_neg hsmall, hlarge]
    rfl

end RetryWords

namespace DelayCap

variable {c : DelayCap} {m n : Nat}

theorem delay_of_lt (h : n < 32) : c.delay n = min (baseDelay.times (2 ^ n)) c.cap := by
  rw [delay, factorBits, if_pos h, Nat.one_shiftLeft]

theorem delay_of_le (h : 32 ≤ n) : c.delay n = c.cap := by
  rw [delay, factorBits, if_neg (Nat.not_lt.mpr h)]

theorem delay_mono (c : DelayCap) (h : m ≤ n) : c.delay m ≤ c.delay n := by
  by_cases hn : n < 32
  · have hpower : 2 ^ m ≤ 2 ^ n := Nat.pow_le_pow_right (by decide) h
    rw [delay_of_lt hn, delay_of_lt (Nat.lt_of_le_of_lt h hn)]
    exact Nat.le_min.mpr ⟨Nat.le_trans (Nat.min_le_left _ _) (Nat.mul_le_mul_right _ hpower),
      Nat.min_le_right _ _⟩
  · rw [delay_of_le (Nat.le_of_not_lt hn)]
    exact c.delay_le_cap m

/-- Under a cap of at most a week the delay is that of unbounded doubling. The last factor that is
computed belongs to a delay of more than a hundred days. -/
theorem delay_eq_min (hcap : c.cap ≤ Settings.longestDelay) (n : Nat) :
    c.delay n = min (baseDelay.times (2 ^ n)) c.cap := by
  by_cases hn : n < 32
  · exact delay_of_lt hn
  · have hpower : 2 ^ 32 ≤ 2 ^ n := Nat.pow_le_pow_right (by decide) (Nat.le_of_not_lt hn)
    have hlong : Settings.longestDelay ≤ baseDelay.times (2 ^ n) :=
      Nat.le_trans (by decide) (Nat.mul_le_mul_right baseDelay.nanoseconds hpower)
    rw [delay_of_le (Nat.le_of_not_lt hn)]
    exact congrArg Duration.mk (Nat.min_eq_right (Nat.le_trans hcap hlong)).symm

theorem delay_min_maxFailures (c : DelayCap) (n : Nat) :
    c.delay (min n Retries.maxFailures) = c.delay n := by
  by_cases hn : n ≤ Retries.maxFailures
  · rw [Nat.min_eq_left hn]
  · have hmax : 32 ≤ Retries.maxFailures := by decide
    rw [Nat.min_eq_right (by omega), delay_of_le hmax, delay_of_le (by omega)]

end DelayCap

namespace Retries

theorem limit_after (maximum : Duration) (calls : List RetryCall) :
    (after maximum calls).limit = .ofMaximum maximum := by
  induction calls with
  | nil => rfl
  | cons call earlier ih => cases call <;> exact ih

theorem count_after (maximum : Duration) (task : Task) (calls : List RetryCall) :
    (after maximum calls).count task = min (failuresSince task calls) maxFailures := by
  induction calls with
  | nil => simp [after, failuresSince, count, ofMaximum]
  | cons call earlier ih =>
      cases call with
      | fail other =>
          rw [after, count_fail, failuresSince, ih]
          split
          · rename_i hsame
            rw [hsame, ih]
            omega
          · rfl
      | reset other =>
          rw [after, count_reset, failuresSince, ih]
          split
          · rfl
          · rfl

theorem delay_after (maximum : Duration) (task : Task) (calls : List RetryCall) :
    (after maximum calls).delay task =
      (DelayCap.ofMaximum maximum).delay (failuresSince task calls) := by
  rw [delay, limit_after, count_after, DelayCap.delay_min_maxFailures]

end Retries

open RetryWords

/-- What words compute after any calls is the delay of unbounded arithmetic: it doubles with each
failure in a row up to the cap, never falls below the base, never shrinks while failures go on, and
is the cap from the 33rd failure on. -/
theorem delays_areExact (maximum : Span) (task : Task) (calls : List RetryCall) :
    let words := RetryWords.after maximum calls
    let delay := (Retries.after maximum.duration calls).delay task
    let cap := max maximum.duration baseDelay
    let n := failuresSince task calls
    (words.delay task).duration = delay ∧
    (words.count task).toNat = min n (2 ^ 32 - 1) ∧
    (n < 32 → ∃ factor product, factor? (words.count task) = some factor ∧ factor.toNat = 2 ^ n ∧
      base.times? factor = some product ∧ product.duration = baseDelay.times (2 ^ n)) ∧
    (maximum.duration ≤ Settings.longestDelay → delay = min (baseDelay.times (2 ^ n)) cap) ∧
    (baseDelay ≤ delay ∧ delay ≤ cap) ∧
    (32 ≤ n → delay = cap) ∧
    ∀ calls', n ≤ failuresSince task calls' →
      delay ≤ (Retries.after maximum.duration calls').delay task := by
  intro words delay cap n
  have hrepresents := represents_after maximum calls
  have hdelay : delay = (DelayCap.ofMaximum maximum.duration).delay n :=
    Retries.delay_after maximum.duration task calls
  have hcount : (words.count task).toNat = min n (2 ^ 32 - 1) := by
    rw [hrepresents.count_eq, Retries.count_after]
    rfl
  refine ⟨hrepresents.delay_eq task, hcount, ?_, ?_, ?_, ?_, ?_⟩
  · intro hsmall
    have hexact : (words.count task).toNat = n := by omega
    obtain ⟨factor, hfactor, hpower⟩ := toNat_factor? (n := words.count task) (by omega)
    obtain ⟨product, hproduct, hduration⟩ := exists_times?_base factor
    rw [hexact] at hpower
    exact ⟨factor, product, hfactor, hpower, hproduct, hpower ▸ hduration⟩
  · intro hmaximum
    rw [hdelay]
    exact DelayCap.delay_eq_min (DelayCap.ofMaximum_le hmaximum) n
  · rw [hdelay]
    exact ⟨DelayCap.base_le_delay _ n, DelayCap.delay_le_cap _ n⟩
  · intro hlarge
    rw [hdelay, DelayCap.delay_of_le hlarge]
    rfl
  · intro calls' hle
    rw [hdelay, Retries.delay_after]
    exact DelayCap.delay_mono _ hle

namespace Sample

def eighteenMillis : Span := ⟨0, 18000000, by decide⟩

def endless : Span := ⟨0xFFFFFFFFFFFFFFFF, 999999999, by decide⟩

def mixedCalls : List RetryCall :=
  [.fail (.addOn "a" "b"), .fail (.cluster "a/b"), .fail (.cluster "a/b"),
   .reset (.cluster "a/b"), .fail (.cluster "a/b")]

def failedTimes (n : Nat) : List RetryCall := List.replicate n (.fail (.cluster "c1"))

end Sample

theorem delays_areExact_sample :
    Sample.eighteenMillis.duration ≤ Settings.longestDelay ∧
    (Retries.after Sample.eighteenMillis.duration Sample.mixedCalls).delay (.cluster "a/b") =
      .ofMillis 18 ∧
    (∃ factor product,
      factor? ((RetryWords.after Sample.endless (Sample.failedTimes 31)).count (.cluster "c1")) =
        some factor ∧ factor.toNat = 2 ^ 31 ∧
      base.times? factor = some product ∧ product.duration = .ofSeconds 10737418 + .ofMillis 240) ∧
    (Retries.after Sample.endless.duration (Sample.failedTimes 31)).delay (.cluster "c1") ≤
      (Retries.after Sample.endless.duration (Sample.failedTimes 32)).delay (.cluster "c1") ∧
    (Retries.after Sample.endless.duration (Sample.failedTimes 32)).delay (.cluster "c1") =
      Sample.endless.duration := by
  have hmaximum : Sample.eighteenMillis.duration ≤ Settings.longestDelay := by decide
  obtain ⟨-, -, -, hformula, -⟩ :=
    delays_areExact Sample.eighteenMillis (.cluster "a/b") Sample.mixedCalls
  obtain ⟨-, -, hwords, -, -, -, hgrows⟩ :=
    delays_areExact Sample.endless (.cluster "c1") (Sample.failedTimes 31)
  obtain ⟨-, -, -, -, -, hcap, -⟩ :=
    delays_areExact Sample.endless (.cluster "c1") (Sample.failedTimes 32)
  exact ⟨hmaximum, hformula hmaximum, hwords (by decide), hgrows _ (by decide),
    hcap (by decide)⟩

end FeatureLabels
