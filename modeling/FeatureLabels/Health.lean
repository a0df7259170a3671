namespace FeatureLabels

inductive Verdict where
  | yes
  | no
  | unknown
deriving DecidableEq, Repr

namespace Verdict

/-- Only the exact words `True` and `False` are verdicts; any other text is no verdict. -/
def ofText (text : String) : Verdict :=
  if text = "True" then .yes else if text = "False" then .no else .unknown

def text : Verdict → String
  | .yes => "True"
  | .no => "False"
  | .unknown => "Unknown"

@[simp] theorem ofText_text (v : Verdict) : ofText v.text = v := by
  cases v <;> decide

end Verdict

inductive Health where
  | available
  | unhealthy
  | unreachable
deriving DecidableEq, Repr

namespace Health

def all : List Health := [.available, .unhealthy, .unreachable]

theorem mem_all (h : Health) : h ∈ all := by
  cases h <;> decide

def text : Health → String
  | .available => "available"
  | .unhealthy => "unhealthy"
  | .unreachable => "unreachable"

theorem text_injective {a b : Health} (h : a.text = b.text) : a = b := by
  cases a <;> cases b <;> simp [text] at h ⊢

def ofVerdict : Option Verdict → Health
  | some .yes => .available
  | some .no => .unhealthy
  | some .unknown => .unreachable
  | none => .unreachable

def conditionType : String := "Available"

def report (conditions : List (String × String)) : Option String :=
  (conditions.find? fun c => c.1 == conditionType).map Prod.snd

/-- Health as told by a list of conditions, each a type and the text of its verdict. Only the
first condition of the type `Available` is consulted. -/
def ofConditions (conditions : List (String × String)) : Health :=
  ofVerdict ((report conditions).map Verdict.ofText)

end Health

end FeatureLabels
