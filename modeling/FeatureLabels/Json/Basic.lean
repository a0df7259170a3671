/-!
JSON documents. Objects are lists of members in their order; a name may occur again, and its
last occurrence counts.
-/

namespace FeatureLabels

/-- A JSON number: an integer, or the literal of a number with a fraction, an exponent or a
negative zero. -/
inductive JsonNumber where
  | integer (value : Int)
  | real (literal : String)
deriving DecidableEq, Repr

inductive Json where
  | null
  | bool (value : Bool)
  | number (value : JsonNumber)
  | string (value : String)
  | array (items : List Json)
  | object (members : List (String × Json))
deriving BEq, Repr, Inhabited

namespace Json

mutual

def decEq : (a b : Json) → Decidable (a = b)
  | .null, .null => .isTrue rfl
  | .bool a, .bool b => decidable_of_iff (a = b) (by rw [Json.bool.injEq])
  | .number a, .number b => decidable_of_iff (a = b) (by rw [Json.number.injEq])
  | .string a, .string b => decidable_of_iff (a = b) (by rw [Json.string.injEq])
  | .array a, .array b =>
    match decEqItems a b with
    | .isTrue h => .isTrue (congrArg Json.array h)
    | .isFalse h => .isFalse fun heq => h (Json.array.inj heq)
  | .object a, .object b =>
    match decEqMembers a b with
    | .isTrue h => .isTrue (congrArg Json.object h)
    | .isFalse h => .isFalse fun heq => h (Json.object.inj heq)
  | .null, .bool _ | .null, .number _ | .null, .string _ | .null, .array _ | .null, .object _
  | .bool _, .null | .bool _, .number _ | .bool _, .string _ | .bool _, .array _
  | .bool _, .object _ | .number _, .null | .number _, .bool _ | .number _, .string _
  | .number _, .array _ | .number _, .object _ | .string _, .null | .string _, .bool _
  | .string _, .number _ | .string _, .array _ | .string _, .object _ | .array _, .null
  | .array _, .bool _ | .array _, .number _ | .array _, .string _ | .array _, .object _
  | .object _, .null | .object _, .bool _ | .object _, .number _ | .object _, .string _
  | .object _, .array _ => .isFalse nofun

def decEqItems : (a b : List Json) → Decidable (a = b)
  | [], [] => .isTrue rfl
  | [], _ :: _ | _ :: _, [] => .isFalse nofun
  | item :: items, other :: others =>
    match decEq item other, decEqItems items others with
    | .isTrue hfirst, .isTrue hrest => .isTrue (by rw [hfirst, hrest])
    | .isFalse hfirst, _ => .isFalse fun heq => hfirst (List.cons.inj heq).1
    | _, .isFalse hrest => .isFalse fun heq => hrest (List.cons.inj heq).2

def decEqMembers : (a b : List (String × Json)) → Decidable (a = b)
  | [], [] => .isTrue rfl
  | [], _ :: _ | _ :: _, [] => .isFalse nofun
  | (name, value) :: members, (name', value') :: others =>
    match decEq value value', decEqMembers members others with
    | .isTrue hvalue, .isTrue hrest =>
      decidable_of_iff (name = name') (by rw [hvalue, hrest]; simp)
    | .isFalse hvalue, _ => .isFalse fun heq => hvalue (congrArg Prod.snd (List.cons.inj heq).1)
    | _, .isFalse hrest => .isFalse fun heq => hrest (List.cons.inj heq).2

end

instance : DecidableEq Json := decEq

/-- The value that the last member of that name has. -/
def lookup (members : List (String × Json)) (name : String) : Option Json :=
  (members.reverse.find? fun m => m.1 == name).map Prod.snd

def members? : Json → Option (List (String × Json))
  | .object members => some members
  | _ => none

/-- The members of a record with these fields: an object that has none of them twice, or an
array with one item for each, in their order. -/
def record? (fields : List String) : Json → Option (List (String × Json))
  | .object members =>
    if fields.all fun f => (members.filter fun m => m.1 == f).length ≤ 1 then some members
    else none
  | .array items => if items.length = fields.length then some (fields.zip items) else none
  | _ => none

def items? : Json → Option (List Json)
  | .array items => some items
  | _ => none

def string? : Json → Option String
  | .string value => some value
  | _ => none

def bool? : Json → Option Bool
  | .bool value => some value
  | _ => none

/-- An integer between `low` and `high`, both included. A number that is written with a
fraction or an exponent is no integer, whatever its value. -/
def intBetween? (low high : Int) : Json → Option Int
  | .number (.integer n) => if low ≤ n ∧ n ≤ high then some n else none
  | _ => none

/-- The member `name` of an object, where a missing member and a null are the same. -/
def member? (json : Json) (name : String) : Option Json :=
  match json with
  | .object members =>
    match lookup members name with
    | some .null => none
    | found => found
  | _ => none

/-- An optional member: absent or null is no value, and anything else has to be read. -/
def optional {α : Type} (members : List (String × Json)) (name : String)
    (read : Json → Option α) : Option (Option α) :=
  match lookup members name with
  | none => some none
  | some .null => some none
  | some value => (read value).map some

def required {α : Type} (members : List (String × Json)) (name : String)
    (read : Json → Option α) : Option α :=
  match lookup members name with
  | none => none
  | some value => read value

end Json

end FeatureLabels
