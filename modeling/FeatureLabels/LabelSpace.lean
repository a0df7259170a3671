import FeatureLabels.Health
import FeatureLabels.LabelEdit

/-!
The label keys that this program owns: all that start with `feature.<domain>/addon-`. Inside of
it every label is made equal to a wanted one; outside of it nothing is read or written.
-/

namespace FeatureLabels

structure LabelSpace where
  domain : String
deriving DecidableEq, Repr

namespace LabelSpace

def defaultDomain : String := "open-cluster-management.io"

def nameStem : String := "addon-"

/-- The longest name part, in bytes, that a label key may have. -/
def maxNameBytes : Nat := 63

def stem (s : LabelSpace) : String := "feature." ++ s.domain ++ "/" ++ nameStem

def key (s : LabelSpace) (addOn : String) : String := s.stem ++ addOn

/-- Whether an apiserver takes the label key of an add-on. Add-ons may have longer names than
labels. -/
def fits (addOn : String) : Bool :=
  !addOn.isEmpty && nameStem.utf8ByteSize + addOn.utf8ByteSize ≤ maxNameBytes

def owns (s : LabelSpace) (key : String) : Bool := s.stem.toList.isPrefixOf key.toList

theorem key_injective (s : LabelSpace) {a b : String} (h : s.key a = s.key b) : a = b :=
  String.append_right_inj _ |>.1 h

theorem owns_key (s : LabelSpace) (addOn : String) : s.owns (s.key addOn) = true := by
  simp [owns, key, String.toList_append]

def proper (e : LabelEdit) : Option LabelEdit := if e.isEmpty then none else some e

def difference (s : LabelSpace) (current wanted : LabelMap) : LabelEdit where
  upserts := wanted.filter fun key value => current[key]? != some value
  removals := .ofList <| current.keys.filter fun key => s.owns key && !wanted.contains key

/-- The change that makes the owned part of a label map equal to the wanted labels. -/
def diff (s : LabelSpace) (current wanted : LabelMap) : Option LabelEdit :=
  proper (s.difference current wanted)

/-- The change that makes the label of one add-on equal to its wanted health, or absent. -/
def diffOne (s : LabelSpace) (current : LabelMap) (addOn : String) (wanted : Option Health) :
    Option LabelEdit :=
  match wanted, current[s.key addOn]? with
  | some health, found =>
    if found = some health.text then none
    else some { upserts := (∅ : LabelMap).insert (s.key addOn) health.text }
  | none, some _ => some { removals := (∅ : KeySet).insert (s.key addOn) }
  | none, none => none

end LabelSpace

end FeatureLabels
