import FeatureLabels.Json.Sorted
import FeatureLabels.Resource.Basic

/-!
Objects as JSON documents. Reading is lenient: unknown members are skipped, nulls count as
missing where a member is optional, and the written kind does not matter. Writing gives one
normal form.
-/

namespace FeatureLabels

namespace Json

def labels? : Json → Option LabelMap
  | .object members => do
    let pairs ← members.mapM fun m => (string? m.2).map fun value => (m.1, value)
    some (LabelMap.ofPairs pairs)
  | _ => none

def ofLabels (labels : LabelMap) : Json :=
  .object (labels.toList.map fun p => (p.1, .string p.2))

def timestamp? (json : Json) : Option Timestamp := json.string?.bind Timestamp.ofText?

def int64? : Json → Option Int :=
  intBetween? (-9223372036854775808) 9223372036854775807

def ofInt (n : Int) : Json := .number (.integer n)

/-- A document of any shape. A null would not be told from a missing member. -/
def content? : Json → Option Json
  | .null => none
  | json => some json.sorted

variable {α : Type}

def list? (read : Json → Option α) (json : Json) : Option (List α) := do
  (← json.items?).mapM read

def ofList (write : α → Json) (values : List α) : Json := .array (values.map write)

def optionalText (members : List (String × Json)) (name : String) : Option String :=
  (optional members name string?).map fun text => text.getD ""

def field (name : String) (value : Option α) (write : α → Json) : List (String × Json) :=
  match value with
  | some value => [(name, write value)]
  | none => []

end Json

namespace Timestamp

def toJson (t : Timestamp) : Json := .string t.text

end Timestamp

namespace ManagedFields

def ofJson? (json : Json) : Option ManagedFields := do
  let members ← json.members?
  let apiVersion ← Json.optional members "apiVersion" Json.string?
  let fieldsType ← Json.optional members "fieldsType" Json.string?
  let fields ← Json.optional members "fieldsV1" Json.content?
  let manager ← Json.optional members "manager" Json.string?
  let operation ← Json.optional members "operation" Json.string?
  let subresource ← Json.optional members "subresource" Json.string?
  let time ← Json.optional members "time" Json.timestamp?
  some { manager, operation, subresource, apiVersion, time, fieldsType, fields }

def toJson (f : ManagedFields) : Json :=
  .object <|
    Json.field "apiVersion" f.apiVersion .string ++
    Json.field "fieldsType" f.fieldsType .string ++
    Json.field "fieldsV1" f.fields id ++
    Json.field "manager" f.manager .string ++
    Json.field "operation" f.operation .string ++
    Json.field "subresource" f.subresource .string ++
    Json.field "time" f.time Timestamp.toJson

end ManagedFields

namespace OwnerReference

def ofJson? (json : Json) : Option OwnerReference := do
  let members ← json.members?
  let apiVersion ← Json.optionalText members "apiVersion"
  let blockOwnerDeletion ← Json.optional members "blockOwnerDeletion" Json.bool?
  let controller ← Json.optional members "controller" Json.bool?
  let kind ← Json.optionalText members "kind"
  let name ← Json.optionalText members "name"
  let uid ← Json.optionalText members "uid"
  some { apiVersion, kind, name, uid, controller, blockOwnerDeletion }

def toJson (r : OwnerReference) : Json :=
  .object <|
    [("apiVersion", .string r.apiVersion)] ++
    Json.field "blockOwnerDeletion" r.blockOwnerDeletion .bool ++
    Json.field "controller" r.controller .bool ++
    [("kind", .string r.kind), ("name", .string r.name), ("uid", .string r.uid)]

end OwnerReference

namespace Metadata

def ofJson? (json : Json) : Option Metadata := do
  let members ← json.members?
  let name ← Json.optional members "name" Json.string?
  let generateName ← Json.optional members "generateName" Json.string?
  let inNamespace ← Json.optional members "namespace" Json.string?
  let labels ← Json.optional members "labels" Json.labels?
  let annotations ← Json.optional members "annotations" Json.labels?
  let generation ← Json.optional members "generation" Json.int64?
  let creationTimestamp ← Json.optional members "creationTimestamp" Json.timestamp?
  let deletionTimestamp ← Json.optional members "deletionTimestamp" Json.timestamp?
  let deletionGracePeriodSeconds ←
    Json.optional members "deletionGracePeriodSeconds" Json.int64?
  let finalizers ← Json.optional members "finalizers" (Json.list? Json.string?)
  let managedFields ←
    Json.optional members "managedFields" (Json.list? ManagedFields.ofJson?)
  let ownerReferences ←
    Json.optional members "ownerReferences" (Json.list? OwnerReference.ofJson?)
  let resourceVersion ← Json.optional members "resourceVersion" Json.string?
  let selfLink ← Json.optional members "selfLink" Json.string?
  let uid ← Json.optional members "uid" Json.string?
  some { name, generateName, inNamespace, labels, annotations, generation, creationTimestamp,
         deletionTimestamp, deletionGracePeriodSeconds, finalizers, managedFields,
         ownerReferences, resourceVersion, selfLink, uid }

def toJson (m : Metadata) : Json :=
  .object <|
    Json.field "annotations" m.annotations Json.ofLabels ++
    Json.field "creationTimestamp" m.creationTimestamp Timestamp.toJson ++
    Json.field "deletionGracePeriodSeconds" m.deletionGracePeriodSeconds Json.ofInt ++
    Json.field "deletionTimestamp" m.deletionTimestamp Timestamp.toJson ++
    Json.field "finalizers" m.finalizers (Json.ofList .string) ++
    Json.field "generateName" m.generateName .string ++
    Json.field "generation" m.generation Json.ofInt ++
    Json.field "labels" m.labels Json.ofLabels ++
    Json.field "managedFields" m.managedFields (Json.ofList ManagedFields.toJson) ++
    Json.field "name" m.name .string ++
    Json.field "namespace" m.inNamespace .string ++
    Json.field "ownerReferences" m.ownerReferences (Json.ofList OwnerReference.toJson) ++
    Json.field "resourceVersion" m.resourceVersion .string ++
    Json.field "selfLink" m.selfLink .string ++
    Json.field "uid" m.uid .string

end Metadata

namespace Kind

def members (kind : Kind) : List (String × Json) :=
  [("apiVersion", .string kind.definition.apiVersion), ("kind", .string kind.name)]

end Kind

namespace Cluster

def ofJson? (json : Json) : Option Cluster := do
  let members ← json.record? ["metadata", "spec"]
  let metadata ← Json.required members "metadata" Metadata.ofJson?
  let spec ← Json.required members "spec" <|
    Json.record? ["hubAcceptsClient", "leaseDurationSeconds"]
  let hubAcceptsClient ← match Json.lookup spec "hubAcceptsClient" with
    | some value => value.bool?
    | none => some false
  let leaseDurationSeconds ←
    Json.optional spec "leaseDurationSeconds" (Json.intBetween? (-2147483648) 2147483647)
  some { metadata, hubAcceptsClient, leaseDurationSeconds }

def toJson (c : Cluster) : Json :=
  .object <| Kind.cluster.members ++
    [("metadata", c.metadata.toJson),
     ("spec", .object <| ("hubAcceptsClient", .bool c.hubAcceptsClient) ::
       Json.field "leaseDurationSeconds" c.leaseDurationSeconds Json.ofInt)]

end Cluster

namespace Condition

/-- Reads a condition. Only the time of its last change has to be there. -/
def ofJson? (json : Json) : Option Condition := do
  let members ← json.members?
  let lastTransitionTime ← Json.required members "lastTransitionTime" Json.timestamp?
  let message ← Json.optionalText members "message"
  let observedGeneration ← Json.optional members "observedGeneration" Json.int64?
  let reason ← Json.optionalText members "reason"
  let status ← Json.optionalText members "status"
  let type ← Json.optionalText members "type"
  some { type, status, lastTransitionTime, reason, message, observedGeneration }

def toJson (c : Condition) : Json :=
  .object <|
    [("lastTransitionTime", c.lastTransitionTime.toJson), ("message", .string c.message)] ++
    Json.field "observedGeneration" c.observedGeneration Json.ofInt ++
    [("reason", .string c.reason), ("status", .string c.status), ("type", .string c.type)]

end Condition

namespace AddOnStatus

/-- Reads the status of an add-on. Its only field may be missing from an array, too. -/
def ofJson? : Json → Option AddOnStatus
  | .array [] => some {}
  | json => do
    let members ← json.record? ["conditions"]
    let conditions ← Json.optional members "conditions" (Json.list? Condition.ofJson?)
    some { conditions }

def toJson (s : AddOnStatus) : Json :=
  .object (Json.field "conditions" s.conditions (Json.ofList Condition.toJson))

end AddOnStatus

namespace AddOn

def ofJson? (json : Json) : Option AddOn := do
  let members ← json.record? ["metadata", "spec", "status"]
  let metadata ← Json.required members "metadata" Metadata.ofJson?
  let spec ← Json.required members "spec" (Json.record? ["installNamespace"])
  let installNamespace ← Json.optional spec "installNamespace" Json.string?
  let status ← Json.optional members "status" AddOnStatus.ofJson?
  some { metadata, installNamespace, status }

def toJson (a : AddOn) : Json :=
  .object <| Kind.addOn.members ++
    [("metadata", a.metadata.toJson),
     ("spec", .object (Json.field "installNamespace" a.installNamespace .string))] ++
    Json.field "status" a.status AddOnStatus.toJson

end AddOn

end FeatureLabels
