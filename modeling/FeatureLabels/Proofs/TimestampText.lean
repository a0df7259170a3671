import Mathlib.Data.List.TakeWhile
import FeatureLabels.Timestamp

namespace FeatureLabels.Timestamp

variable {n : Nat}

theorem digit_of_forall {p : Char → Prop} (h : ∀ d < 10, p (Char.ofNat (48 + d))) (n : Nat) :
    p (digit n) :=
  h (n % 10) (Nat.mod_lt n (by decide))

theorem toNat_digit (n : Nat) : (digit n).toNat = 48 + n % 10 := by
  have hdigits : ∀ d < 10, (Char.ofNat (48 + d)).toNat = 48 + d := by decide
  exact hdigits (n % 10) (Nat.mod_lt n (by decide))

theorem isDigit_digit (n : Nat) : (digit n).isDigit = true :=
  digit_of_forall (p := fun c => c.isDigit = true) (by decide) n

theorem isBlank_digit (n : Nat) : isBlank (digit n) = false :=
  digit_of_forall (p := fun c => isBlank c = false) (by decide) n

theorem skipBlanks_cons_of_not {c : Char} (h : isBlank c = false) (text : List Char) :
    skipBlanks (c :: text) = c :: text :=
  List.dropWhile_cons_of_neg (by simp [h])

theorem digits?_append {digits : List Char} (hne : digits ≠ [])
    (hdigits : ∀ c ∈ digits, c.isDigit = true) (rest : List Char) :
    digits? digits.length (digits ++ rest) = some (Text.digitsValue digits, rest) := by
  have hall : digits.takeWhile Char.isDigit = digits := List.takeWhile_eq_self_iff.mpr hdigits
  rw [digits?, List.take_left, hall]
  simp [hne]

theorem digitsValue_pair (n : Nat) : Text.digitsValue (pair n) = n % 100 := by
  simp only [pair, Text.digitsValue, List.foldl_cons, List.foldl_nil, toNat_digit]
  omega

theorem isDigit_of_mem_pair : ∀ c ∈ pair n, c.isDigit = true :=
  List.forall_mem_cons.mpr ⟨isDigit_digit _, List.forall_mem_singleton.mpr (isDigit_digit n)⟩

theorem twoDigits?_pair (h : n < 100) (rest : List Char) :
    twoDigits? (pair n ++ rest) = some (n, rest) := by
  have hskip : skipBlanks (pair n ++ rest) = pair n ++ rest :=
    skipBlanks_cons_of_not (isBlank_digit (n / 10)) (digit n :: rest)
  have hread := digits?_append (by simp [pair]) (isDigit_of_mem_pair (n := n)) rest
  rw [digitsValue_pair, Nat.mod_eq_of_lt h] at hread
  rw [twoDigits?, hskip]
  exact hread

theorem expect?_cons {c : Char} (h : isBlank c = false) (rest : List Char) :
    expect? c (c :: rest) = some rest := by
  simp [expect?, skipBlanks_cons_of_not h]

/-- The years that are written with four digits. -/
def FourDigitYear (t : Timestamp) : Prop := 0 ≤ t.date.year ∧ t.date.year ≤ 9999

theorem year?_digit_cons (n : Nat) (text : List Char) :
    year? (digit n :: text) =
      (digits? 4 (digit n :: text)).bind fun found =>
        if yearInRange found.1 then some ((found.1 : Int), found.2) else none := by
  have hsign : ∀ c, c.isDigit = false → digit n ≠ c := by
    rintro c hc rfl
    rw [isDigit_digit] at hc
    contradiction
  rw [year?, skipBlanks_cons_of_not (isBlank_digit n)]
  split
  · rename_i heq
    exact absurd (List.cons.inj heq).1 (hsign '-' rfl)
  · rename_i heq
    exact absurd (List.cons.inj heq).1 (hsign '+' rfl)
  · cases digits? 4 (digit n :: text) <;> rfl

theorem year?_yearDigits {year : Int} (hlow : 0 ≤ year) (hhigh : year ≤ 9999)
    (rest : List Char) : year? (yearDigits year ++ rest) = some (year, rest) := by
  obtain ⟨n, rfl⟩ := Int.eq_ofNat_of_zero_le hlow
  have hn : n < 10000 := by omega
  have hyear : yearDigits n = pair (n / 100) ++ pair n := by
    rw [yearDigits, if_pos (by omega), Int.natAbs_natCast, if_pos hn]
  have hvalue : Text.digitsValue (pair (n / 100) ++ pair n) = n := by
    simp only [pair, Text.digitsValue, List.cons_append, List.nil_append, List.foldl_cons,
      List.foldl_nil, toNat_digit]
    omega
  have hread : digits? 4 (pair (n / 100) ++ pair n ++ rest) = some (n, rest) := by
    have hdigits : ∀ c ∈ pair (n / 100) ++ pair n, c.isDigit = true :=
      List.forall_mem_append.mpr ⟨isDigit_of_mem_pair, isDigit_of_mem_pair⟩
    have hfour := digits?_append (by simp [pair]) hdigits rest
    rwa [hvalue] at hfour
  have hrange : yearInRange n = true := by
    simp only [yearInRange, Bool.and_eq_true, decide_eq_true_eq]
    omega
  rw [hyear]
  change year? (digit (n / 100 / 10) :: _) = _
  rw [year?_digit_cons]
  change (digits? 4 (pair (n / 100) ++ pair n ++ rest)).bind _ = _
  rw [hread, Option.bind_some, if_pos hrange]

theorem of?_eq (d : Date) : Date.of? d.year d.month d.day = some d :=
  dif_pos ⟨d.month_mem, d.day_mem⟩

theorem ofLocal?_zero (t : Timestamp) :
    ofLocal? t.date t.hour t.minute t.second 0 = some t := by
  have hhour := t.hour_lt
  have hminute := t.minute_lt
  have hhour' : ((t.hour * 60 + t.minute : Int) - 0).toNat / 60 = t.hour := by omega
  have hminute' : ((t.hour * 60 + t.minute : Int) - 0).toNat % 60 = t.minute := by omega
  rw [ofLocal?, dif_pos ⟨hhour, hminute, t.second_le, by decide, by decide⟩]
  dsimp only
  rw [dif_neg (by omega), dif_neg (by omega)]
  simp only [hhour', hminute']

theorem dropSeparator?_cons (rest : List Char) : dropSeparator? ('T' :: rest) = some rest := rfl

theorem dropFraction?_utc : dropFraction? ['Z'] = some ['Z'] := rfl

theorem offset?_utc : offset? ['Z'] = some (0, []) := rfl

theorem write_eq (t : Timestamp) :
    t.write = yearDigits t.date.year ++ '-' :: (pair t.date.month ++ '-' :: (pair t.date.day ++
      'T' :: (pair t.hour ++ ':' :: (pair t.minute ++ ':' :: (pair t.second ++ ['Z']))))) := by
  simp only [write, List.append_assoc, List.cons_append]

theorem read?_write {t : Timestamp} (h : t.FourDigitYear) : read? t.write = some t := by
  have hmonth : t.date.month < 100 := Nat.lt_of_le_of_lt t.date.month_mem.2 (by decide)
  have hday : t.date.day < 100 :=
    Nat.lt_of_le_of_lt (t.date.day_mem.2.trans (daysInMonth_bounds _ _).2) (by decide)
  have hhour : t.hour < 100 := Nat.lt_trans t.hour_lt (by decide)
  have hminute : t.minute < 100 := Nat.lt_trans t.minute_lt (by decide)
  have hsecond : t.second < 100 := Nat.lt_of_le_of_lt t.second_le (by decide)
  have hdash : isBlank '-' = false := rfl
  have hcolon : isBlank ':' = false := rfl
  rw [read?, write_eq]
  -- one line for each step of the reader
  refine Option.bind_eq_some_iff.mpr ⟨_, year?_yearDigits h.1 h.2 _, ?_⟩
  refine Option.bind_eq_some_iff.mpr ⟨_, expect?_cons hdash _, ?_⟩
  refine Option.bind_eq_some_iff.mpr ⟨_, twoDigits?_pair hmonth _, ?_⟩
  refine Option.bind_eq_some_iff.mpr ⟨_, expect?_cons hdash _, ?_⟩
  refine Option.bind_eq_some_iff.mpr ⟨_, twoDigits?_pair hday _, ?_⟩
  refine Option.bind_eq_some_iff.mpr ⟨_, of?_eq t.date, ?_⟩
  refine Option.bind_eq_some_iff.mpr ⟨_, dropSeparator?_cons _, ?_⟩
  refine Option.bind_eq_some_iff.mpr ⟨_, twoDigits?_pair hhour _, ?_⟩
  refine Option.bind_eq_some_iff.mpr ⟨_, expect?_cons hcolon _, ?_⟩
  refine Option.bind_eq_some_iff.mpr ⟨_, twoDigits?_pair hminute _, ?_⟩
  refine Option.bind_eq_some_iff.mpr ⟨_, expect?_cons hcolon _, ?_⟩
  refine Option.bind_eq_some_iff.mpr ⟨_, twoDigits?_pair hsecond _, ?_⟩
  refine Option.bind_eq_some_iff.mpr ⟨_, dropFraction?_utc, ?_⟩
  refine Option.bind_eq_some_iff.mpr ⟨_, offset?_utc, ?_⟩
  exact ofLocal?_zero t

theorem ofText?_text {t : Timestamp} (h : t.FourDigitYear) : ofText? t.text = some t := by
  rw [ofText?, text, String.toList_ofList, read?_write h]

end FeatureLabels.Timestamp
