import FeatureLabels.Text.Decimal

namespace FeatureLabels

def isLeapYear (year : Int) : Bool :=
  year % 4 == 0 && (year % 100 != 0 || year % 400 == 0)

/-- The number of days of a month, counted from 1; months outside the calendar have 31. -/
def daysInMonth (year : Int) (month : Nat) : Nat :=
  if month = 2 then (if isLeapYear year then 29 else 28)
  else if month = 4 ∨ month = 6 ∨ month = 9 ∨ month = 11 then 30
  else 31

theorem daysInMonth_bounds (year : Int) (month : Nat) :
    28 ≤ daysInMonth year month ∧ daysInMonth year month ≤ 31 := by
  unfold daysInMonth
  split
  · split <;> omega
  · split <;> omega

structure Date where
  year : Int
  month : Nat
  day : Nat
  month_mem : 1 ≤ month ∧ month ≤ 12
  day_mem : 1 ≤ day ∧ day ≤ daysInMonth year month
deriving DecidableEq

namespace Date

def of? (year : Int) (month day : Nat) : Option Date :=
  if h : (1 ≤ month ∧ month ≤ 12) ∧ 1 ≤ day ∧ day ≤ daysInMonth year month then
    some ⟨year, month, day, h.1, h.2⟩
  else none

def next (d : Date) : Date :=
  if h : d.day < daysInMonth d.year d.month then
    ⟨d.year, d.month, d.day + 1, d.month_mem, by omega⟩
  else if h : d.month < 12 then
    ⟨d.year, d.month + 1, 1, by omega, by have := daysInMonth_bounds d.year (d.month + 1); omega⟩
  else
    ⟨d.year + 1, 1, 1, by omega, by have := daysInMonth_bounds (d.year + 1) 1; omega⟩

def previous (d : Date) : Date :=
  if h : 1 < d.day then
    ⟨d.year, d.month, d.day - 1, d.month_mem, by have := d.day_mem; omega⟩
  else if h : 1 < d.month then
    ⟨d.year, d.month - 1, daysInMonth d.year (d.month - 1),
      by have := d.month_mem; omega,
      by have := daysInMonth_bounds d.year (d.month - 1); omega⟩
  else
    ⟨d.year - 1, 12, 31, by omega, by simp [daysInMonth]⟩

end Date

/-- A point in time, in UTC. A leap second is the second 60 of its minute. -/
structure Timestamp where
  date : Date
  hour : Nat
  minute : Nat
  second : Nat
  hour_lt : hour < 24
  minute_lt : minute < 60
  second_le : second ≤ 60
deriving DecidableEq

namespace Timestamp

/-- The point in time that a clock shows as this date and time when it runs `offset` minutes
ahead of UTC. An offset is shorter than a day, so that the date moves by one day at most. -/
def ofLocal? (date : Date) (hour minute second : Nat) (offset : Int) : Option Timestamp :=
  if h : hour < 24 ∧ minute < 60 ∧ second ≤ 60 ∧ -1440 < offset ∧ offset < 1440 then
    let total : Int := hour * 60 + minute - offset
    if hneg : total < 0 then
      some ⟨date.previous, (total + 1440).toNat / 60, (total + 1440).toNat % 60, second,
        by omega, by omega, h.2.2.1⟩
    else if hover : 1440 ≤ total then
      some ⟨date.next, (total - 1440).toNat / 60, (total - 1440).toNat % 60, second,
        by omega, by omega, h.2.2.1⟩
    else
      some ⟨date, total.toNat / 60, total.toNat % 60, second, by omega, by omega, h.2.2.1⟩
  else none

def isBlank (c : Char) : Bool :=
  let n := c.toNat
  (9 ≤ n && n ≤ 13) || n == 0x20 || n == 0x85 || n == 0xA0 || n == 0x1680 ||
    (0x2000 ≤ n && n ≤ 0x200A) || n == 0x2028 || n == 0x2029 || n == 0x202F || n == 0x205F ||
    n == 0x3000

def skipBlanks (text : List Char) : List Char := text.dropWhile isBlank

def digits? (width : Nat) (text : List Char) : Option (Nat × List Char) :=
  let found := (text.take width).takeWhile Char.isDigit
  if found.isEmpty then none else some (Text.digitsValue found, text.drop found.length)

def expect? (c : Char) (text : List Char) : Option (List Char) :=
  match skipBlanks text with
  | d :: rest => if d = c then some rest else none
  | [] => none

def yearInRange (year : Int) : Bool := -262143 ≤ year && year ≤ 262142

/-- A year has up to four digits, or any number of digits after a sign. -/
def year? (text : List Char) : Option (Int × List Char) := do
  let (year, rest) ← match skipBlanks text with
    | '-' :: rest => (digits? rest.length rest).map fun (n, rest) => (-(n : Int), rest)
    | '+' :: rest => (digits? rest.length rest).map fun (n, rest) => ((n : Int), rest)
    | rest => (digits? 4 rest).map fun (n, rest) => ((n : Int), rest)
  if yearInRange year then some (year, rest) else none

def twoDigits? (text : List Char) : Option (Nat × List Char) := digits? 2 (skipBlanks text)

def dropFraction? : List Char → Option (List Char)
  | '.' :: rest => (digits? rest.length rest).map Prod.snd
  | rest => some rest

def digitPair? : List Char → Option (Nat × List Char)
  | a :: b :: rest => if a.isDigit && b.isDigit then some (Text.digitsValue [a, b], rest) else none
  | _ => none

/-- The minutes of an offset after its sign: hours and minutes, two digits each, with colons or
blanks between them. -/
def offsetMinutes? (text : List Char) : Option (Nat × List Char) := do
  let (hours, rest) ← digitPair? text
  let (minutes, rest) ← digitPair? (rest.dropWhile fun c => c == ':' || isBlank c)
  if minutes < 60 then some (hours * 60 + minutes, rest) else none

def offset? (text : List Char) : Option (Int × List Char) :=
  match skipBlanks text with
  | [] => none
  | c :: rest =>
    if ((c :: rest).take 3).map Char.toUpper = ['U', 'T', 'C'] then some (0, rest.drop 2)
    else if c = 'Z' ∨ c = 'z' then some (0, rest)
    else if c = '+' then (offsetMinutes? rest).map fun (n, rest) => ((n : Int), rest)
    else if c = '-' ∨ c = '−' then (offsetMinutes? rest).map fun (n, rest) => (-(n : Int), rest)
    else none

def dropSeparator? : List Char → Option (List Char)
  | c :: rest => if c = 'T' ∨ c = 't' ∨ c = ' ' then some rest else none
  | [] => none

/-- Reads a date, a time and an offset. Blanks are allowed around numbers, and numbers may be
shorter than usual. -/
def read? (text : List Char) : Option Timestamp := do
  let (year, rest) ← year? text
  let (month, rest) ← twoDigits? (← expect? '-' rest)
  let (day, rest) ← twoDigits? (← expect? '-' rest)
  let date ← Date.of? year month day
  let (hour, rest) ← twoDigits? (← dropSeparator? rest)
  let (minute, rest) ← twoDigits? (← expect? ':' rest)
  let (second, rest) ← twoDigits? (← expect? ':' rest)
  let (offset, rest) ← offset? (← dropFraction? rest)
  if (skipBlanks rest).isEmpty then ofLocal? date hour minute second offset else none

def ofText? (text : String) : Option Timestamp := read? text.toList

def digit (n : Nat) : Char := Char.ofNat (48 + n % 10)

def pair (n : Nat) : List Char := [digit (n / 10), digit n]

/-- A year is written with four digits; outside of 0 to 9999 a sign comes first and there may be
more digits. -/
def yearDigits (year : Int) : List Char :=
  let n := year.natAbs
  let body := if n < 10000 then pair (n / 100) ++ pair n else (toString n).toList
  if 0 ≤ year ∧ year < 10000 then body else (if year < 0 then '-' else '+') :: body

def write (t : Timestamp) : List Char :=
  yearDigits t.date.year ++ '-' :: pair t.date.month ++ '-' :: pair t.date.day ++
    'T' :: pair t.hour ++ ':' :: pair t.minute ++ ':' :: pair t.second ++ ['Z']

def text (t : Timestamp) : String := String.ofList t.write

end Timestamp

end FeatureLabels
