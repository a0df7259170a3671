import FeatureLabels.Json.Basic
import FeatureLabels.Text.Decimal

namespace FeatureLabels.Json

def isBlank (c : Char) : Bool := c == ' ' || c == '\n' || c == '\r' || c == '\t'

def skipBlanks (text : List Char) : List Char := text.dropWhile isBlank

def hexValue? (c : Char) : Option Nat :=
  if '0' ≤ c ∧ c ≤ '9' then some (c.toNat - 48)
  else if 'a' ≤ c ∧ c ≤ 'f' then some (c.toNat - 87)
  else if 'A' ≤ c ∧ c ≤ 'F' then some (c.toNat - 55)
  else none

def hexQuad? : List Char → Option (Nat × List Char)
  | a :: b :: c :: d :: rest => do
    let n := ((((← hexValue? a) * 16 + (← hexValue? b)) * 16 + (← hexValue? c)) * 16
      + (← hexValue? d))
    some (n, rest)
  | _ => none

def shortEscape? (c : Char) : Option Char :=
  if c = '"' then some '"'
  else if c = '\\' then some '\\'
  else if c = '/' then some '/'
  else if c = 'b' then some '\x08'
  else if c = 'f' then some '\x0c'
  else if c = 'n' then some '\n'
  else if c = 'r' then some '\r'
  else if c = 't' then some '\t'
  else none

/-- The character that a long escape stands for, read after its `u`. A character beyond the
first plane is written as two halves, and neither half may stand alone. -/
def longEscape? (text : List Char) : Option (Char × List Char) := do
  let (high, rest) ← hexQuad? text
  if 0xD800 ≤ high ∧ high < 0xDC00 then
    match rest with
    | '\\' :: 'u' :: rest => do
      let (low, rest) ← hexQuad? rest
      if 0xDC00 ≤ low ∧ low < 0xE000 then
        some (Char.ofNat (0x10000 + (high - 0xD800) * 0x400 + (low - 0xDC00)), rest)
      else none
    | _ => none
  else if 0xDC00 ≤ high ∧ high < 0xE000 then none
  else some (Char.ofNat high, rest)

def readString (fuel : Nat) (text : List Char) : Option (List Char × List Char) :=
  match fuel, text with
  | 0, _ => none
  | _, [] => none
  | fuel + 1, c :: rest =>
    if c = '"' then some ([], rest)
    else if c = '\\' then
      match rest with
      | 'u' :: rest => do
        let (c, rest) ← longEscape? rest
        let (cs, rest) ← readString fuel rest
        some (c :: cs, rest)
      | e :: rest => do
        let c ← shortEscape? e
        let (cs, rest) ← readString fuel rest
        some (c :: cs, rest)
      | [] => none
    else if c.toNat < 0x20 then none
    else do
      let (cs, rest) ← readString fuel rest
      some (c :: cs, rest)

def isNumberChar (c : Char) : Bool :=
  c.isDigit || c == '-' || c == '+' || c == '.' || c == 'e' || c == 'E'

def isWholePart (digits : List Char) : Bool :=
  digits.all Char.isDigit &&
    match digits with
    | [] => false
    | ['0'] => true
    | d :: _ => d != '0'

def isExponent : List Char → Bool
  | '+' :: digits => !digits.isEmpty && digits.all Char.isDigit
  | '-' :: digits => !digits.isEmpty && digits.all Char.isDigit
  | digits => !digits.isEmpty && digits.all Char.isDigit

/-- What follows the whole part of a number: a fraction, an exponent, or both in this order. -/
def isTail : List Char → Bool
  | '.' :: rest =>
    let fraction := rest.takeWhile Char.isDigit
    !fraction.isEmpty &&
      match rest.drop fraction.length with
      | [] => true
      | e :: exponent => (e == 'e' || e == 'E') && isExponent exponent
  | e :: exponent => (e == 'e' || e == 'E') && isExponent exponent
  | [] => false

def numberOf? (literal : List Char) : Option JsonNumber :=
  let magnitude := if literal.head? = some '-' then literal.drop 1 else literal
  let whole := magnitude.takeWhile Char.isDigit
  let tail := magnitude.drop whole.length
  if isWholePart whole then
    if tail.isEmpty then
      if magnitude.length = literal.length then some (.integer (Text.digitsValue whole))
      else if whole = ['0'] then some (.real "-0")
      else some (.integer (-(Text.digitsValue whole : Int)))
    else if isTail tail then some (.real (String.ofList literal))
    else none
  else none

def readNumber (text : List Char) : Option (Json × List Char) :=
  let literal := text.takeWhile isNumberChar
  (numberOf? literal).map fun n => (.number n, text.drop literal.length)

mutual

def readValue (fuel : Nat) (text : List Char) : Option (Json × List Char) :=
  match fuel with
  | 0 => none
  | fuel + 1 =>
    match text with
    | 'n' :: 'u' :: 'l' :: 'l' :: rest => some (.null, rest)
    | 't' :: 'r' :: 'u' :: 'e' :: rest => some (.bool true, rest)
    | 'f' :: 'a' :: 'l' :: 's' :: 'e' :: rest => some (.bool false, rest)
    | '"' :: rest => do
      let (cs, rest) ← readString (rest.length + 1) rest
      some (.string (String.ofList cs), rest)
    | '[' :: rest =>
      match skipBlanks rest with
      | ']' :: rest => some (.array [], rest)
      | rest => do
        let (items, rest) ← readItems fuel rest
        some (.array items, rest)
    | '{' :: rest =>
      match skipBlanks rest with
      | '}' :: rest => some (.object [], rest)
      | rest => do
        let (members, rest) ← readMembers fuel rest
        some (.object members, rest)
    | text => readNumber text

def readItems (fuel : Nat) (text : List Char) : Option (List Json × List Char) :=
  match fuel with
  | 0 => none
  | fuel + 1 => do
    let (item, rest) ← readValue fuel text
    match skipBlanks rest with
    | ']' :: rest => some ([item], rest)
    | ',' :: rest =>
      let (items, rest) ← readItems fuel (skipBlanks rest)
      some (item :: items, rest)
    | _ => none

def readMembers (fuel : Nat) (text : List Char) : Option (List (String × Json) × List Char) :=
  match fuel with
  | 0 => none
  | fuel + 1 =>
    match text with
    | '"' :: rest => do
      let (name, rest) ← readString (rest.length + 1) rest
      match skipBlanks rest with
      | ':' :: rest =>
        let (value, rest) ← readValue fuel (skipBlanks rest)
        match skipBlanks rest with
        | '}' :: rest => some ([(String.ofList name, value)], rest)
        | ',' :: rest =>
          let (members, rest) ← readMembers fuel (skipBlanks rest)
          some ((String.ofList name, value) :: members, rest)
        | _ => none
      | _ => none
    | _ => none

end

/-- The document that a list of characters stands for. Every two steps of the reader take at
least one character, so twice the length is fuel enough. -/
def read? (text : List Char) : Option Json :=
  match readValue (2 * text.length + 2) (skipBlanks text) with
  | some (json, rest) => if (skipBlanks rest).isEmpty then some json else none
  | none => none

def ofText? (text : String) : Option Json := read? text.toList

end FeatureLabels.Json
