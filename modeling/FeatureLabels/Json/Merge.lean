import FeatureLabels.Json.Basic

/-!
Merge patches: a patch is a document of the same shape as its target, in which null stands for
removal.
-/

namespace FeatureLabels.Json

def setMember (members : List (String × Json)) (name : String) (value : Json) :
    List (String × Json) :=
  if members.any fun m => m.1 == name then
    members.map fun m => if m.1 == name then (name, value) else m
  else members ++ [(name, value)]

def dropMember (members : List (String × Json)) (name : String) : List (String × Json) :=
  members.filter fun m => m.1 != name

mutual

/-- The document that a patch makes of a target. A patch that is no object replaces the target;
a target that is no object counts as an empty one. -/
def merge (target : Json) : Json → Json
  | .object patch =>
    match target with
    | .object members => .object (mergeMembers members patch)
    | _ => .object (mergeMembers [] patch)
  | patch => patch

def mergeMembers (members : List (String × Json)) :
    List (String × Json) → List (String × Json)
  | [] => members
  | (name, .null) :: patch => mergeMembers (dropMember members name) patch
  | (name, value) :: patch =>
    mergeMembers (setMember members name (merge ((lookup members name).getD .null) value)) patch

end

end FeatureLabels.Json
