import FeatureLabels.Proofs.NormalForm

namespace FeatureLabels

open Json

namespace ManagedFields

def FourDigitYear (f : ManagedFields) : Prop := ∀ t ∈ f.time, t.FourDigitYear

theorem ofJson?_eq_some_iff {json : Json} {f : ManagedFields} :
    ofJson? json = some f ↔ ∃ members, json.members? = some members ∧
      Json.optional members "apiVersion" string? = some f.apiVersion ∧
      Json.optional members "fieldsType" string? = some f.fieldsType ∧
      Json.optional members "fieldsV1" content? = some f.fields ∧
      Json.optional members "manager" string? = some f.manager ∧
      Json.optional members "operation" string? = some f.operation ∧
      Json.optional members "subresource" string? = some f.subresource ∧
      Json.optional members "time" timestamp? = some f.time := by
  constructor
  · intro h
    simp only [ofJson?, Option.bind_eq_bind, Option.bind_eq_some_iff, Option.some.injEq] at h
    obtain ⟨members, hmembers, version, hversion, type, htype, fields, hfields, manager, hmanager,
      operation, hoperation, subresource, hsubresource, time, htime, rfl⟩ := h
    exact ⟨members, hmembers, hversion, htype, hfields, hmanager, hoperation, hsubresource, htime⟩
  · rintro ⟨members, hmembers, hversion, htype, hfields, hmanager, hoperation, hsubresource, htime⟩
    simp [ofJson?, hmembers, hversion, htype, hfields, hmanager, hoperation, hsubresource, htime]

theorem toJson_members (f : ManagedFields) : ∃ members, f.toJson.members? = some members ∧
    lookup members "apiVersion" = f.apiVersion.map .string ∧
    lookup members "fieldsType" = f.fieldsType.map .string ∧
    lookup members "fieldsV1" = f.fields.map id ∧
    lookup members "manager" = f.manager.map .string ∧
    lookup members "operation" = f.operation.map .string ∧
    lookup members "subresource" = f.subresource.map .string ∧
    lookup members "time" = f.time.map Timestamp.toJson := by
  refine ⟨_, rfl, ?_⟩
  simp [lookup_append, lookup_field]

theorem normalises : Normalises ofJson? toJson FourDigitYear := by
  intro json f h hyear
  obtain ⟨members, -, hversion, htype, hfields, hmanager, hoperation, hsubresource, htime⟩ :=
    ofJson?_eq_some_iff.mp h
  obtain ⟨written, hwritten, wversion, wtype, wfields, wmanager, woperation, wsubresource, wtime⟩ :=
    f.toJson_members
  exact ⟨nofun, ofJson?_eq_some_iff.mpr ⟨written, hwritten,
    normalises_string.optional hversion (by simp) wversion,
    normalises_string.optional htype (by simp) wtype,
    normalises_content.optional hfields (by simp) wfields,
    normalises_string.optional hmanager (by simp) wmanager,
    normalises_string.optional hoperation (by simp) woperation,
    normalises_string.optional hsubresource (by simp) wsubresource,
    normalises_timestamp.optional htime hyear wtime⟩⟩

end ManagedFields

namespace OwnerReference

theorem ofJson?_eq_some_iff {json : Json} {r : OwnerReference} :
    ofJson? json = some r ↔ ∃ members, json.members? = some members ∧
      optionalText members "apiVersion" = some r.apiVersion ∧
      Json.optional members "blockOwnerDeletion" bool? = some r.blockOwnerDeletion ∧
      Json.optional members "controller" bool? = some r.controller ∧
      optionalText members "kind" = some r.kind ∧
      optionalText members "name" = some r.name ∧
      optionalText members "uid" = some r.uid := by
  constructor
  · intro h
    simp only [ofJson?, Option.bind_eq_bind, Option.bind_eq_some_iff, Option.some.injEq] at h
    obtain ⟨members, hmembers, version, hversion, blocks, hblocks, controller, hcontroller, kind,
      hkind, name, hname, uid, huid, rfl⟩ := h
    exact ⟨members, hmembers, hversion, hblocks, hcontroller, hkind, hname, huid⟩
  · rintro ⟨members, hmembers, hversion, hblocks, hcontroller, hkind, hname, huid⟩
    simp [ofJson?, hmembers, hversion, hblocks, hcontroller, hkind, hname, huid]

theorem toJson_members (r : OwnerReference) : ∃ members, r.toJson.members? = some members ∧
    lookup members "apiVersion" = some (.string r.apiVersion) ∧
    lookup members "blockOwnerDeletion" = r.blockOwnerDeletion.map .bool ∧
    lookup members "controller" = r.controller.map .bool ∧
    lookup members "kind" = some (.string r.kind) ∧
    lookup members "name" = some (.string r.name) ∧
    lookup members "uid" = some (.string r.uid) := by
  refine ⟨_, rfl, ?_⟩
  simp [lookup_append, lookup_cons, lookup_nil, lookup_field]

theorem normalises : Normalises ofJson? toJson fun _ => True := by
  intro json r h _
  obtain ⟨members, -, -, hblocks, hcontroller, -⟩ := ofJson?_eq_some_iff.mp h
  obtain ⟨written, hwritten, wversion, wblocks, wcontroller, wkind, wname, wuid⟩ :=
    r.toJson_members
  exact ⟨nofun, ofJson?_eq_some_iff.mpr ⟨written, hwritten, optionalText_of_lookup wversion,
    normalises_bool.optional hblocks (by simp) wblocks,
    normalises_bool.optional hcontroller (by simp) wcontroller, optionalText_of_lookup wkind,
    optionalText_of_lookup wname, optionalText_of_lookup wuid⟩⟩

end OwnerReference

namespace Metadata

variable {m : Metadata} {members written : List (String × Json)}

/-- All timestamps of an object are in years of four digits. -/
structure FourDigitYears (m : Metadata) : Prop where
  creation : ∀ t ∈ m.creationTimestamp, t.FourDigitYear
  deletion : ∀ t ∈ m.deletionTimestamp, t.FourDigitYear
  managed : ∀ parts ∈ m.managedFields, ∀ f ∈ parts, f.FourDigitYear

/-- Members of a document are read as the metadata. -/
structure ReadFrom (members : List (String × Json)) (m : Metadata) : Prop where
  name : Json.optional members "name" string? = some m.name
  generateName : Json.optional members "generateName" string? = some m.generateName
  inNamespace : Json.optional members "namespace" string? = some m.inNamespace
  labels : Json.optional members "labels" labels? = some m.labels
  annotations : Json.optional members "annotations" labels? = some m.annotations
  generation : Json.optional members "generation" int64? = some m.generation
  creation : Json.optional members "creationTimestamp" timestamp? = some m.creationTimestamp
  deletion : Json.optional members "deletionTimestamp" timestamp? = some m.deletionTimestamp
  grace : Json.optional members "deletionGracePeriodSeconds" int64? =
    some m.deletionGracePeriodSeconds
  finalizers : Json.optional members "finalizers" (list? string?) = some m.finalizers
  managed : Json.optional members "managedFields" (list? ManagedFields.ofJson?) =
    some m.managedFields
  owners : Json.optional members "ownerReferences" (list? OwnerReference.ofJson?) =
    some m.ownerReferences
  version : Json.optional members "resourceVersion" string? = some m.resourceVersion
  link : Json.optional members "selfLink" string? = some m.selfLink
  uid : Json.optional members "uid" string? = some m.uid

structure WrittenTo (written : List (String × Json)) (m : Metadata) : Prop where
  name : lookup written "name" = m.name.map .string
  generateName : lookup written "generateName" = m.generateName.map .string
  inNamespace : lookup written "namespace" = m.inNamespace.map .string
  labels : lookup written "labels" = m.labels.map ofLabels
  annotations : lookup written "annotations" = m.annotations.map ofLabels
  generation : lookup written "generation" = m.generation.map ofInt
  creation : lookup written "creationTimestamp" = m.creationTimestamp.map Timestamp.toJson
  deletion : lookup written "deletionTimestamp" = m.deletionTimestamp.map Timestamp.toJson
  grace : lookup written "deletionGracePeriodSeconds" = m.deletionGracePeriodSeconds.map ofInt
  finalizers : lookup written "finalizers" = m.finalizers.map (ofList .string)
  managed : lookup written "managedFields" = m.managedFields.map (ofList ManagedFields.toJson)
  owners : lookup written "ownerReferences" =
    m.ownerReferences.map (ofList OwnerReference.toJson)
  version : lookup written "resourceVersion" = m.resourceVersion.map .string
  link : lookup written "selfLink" = m.selfLink.map .string
  uid : lookup written "uid" = m.uid.map .string

theorem ofJson?_eq_some_iff {json : Json} :
    ofJson? json = some m ↔ ∃ members, json.members? = some members ∧ ReadFrom members m := by
  constructor
  · intro h
    rw [ofJson?] at h
    obtain ⟨members, hmembers, h⟩ := Option.bind_eq_some_iff.mp h
    obtain ⟨name, hname, h⟩ := Option.bind_eq_some_iff.mp h
    obtain ⟨generateName, hgenerateName, h⟩ := Option.bind_eq_some_iff.mp h
    obtain ⟨inNamespace, hinNamespace, h⟩ := Option.bind_eq_some_iff.mp h
    obtain ⟨labels, hlabels, h⟩ := Option.bind_eq_some_iff.mp h
    obtain ⟨annotations, hannotations, h⟩ := Option.bind_eq_some_iff.mp h
    obtain ⟨generation, hgeneration, h⟩ := Option.bind_eq_some_iff.mp h
    obtain ⟨creation, hcreation, h⟩ := Option.bind_eq_some_iff.mp h
    obtain ⟨deletion, hdeletion, h⟩ := Option.bind_eq_some_iff.mp h
    obtain ⟨grace, hgrace, h⟩ := Option.bind_eq_some_iff.mp h
    obtain ⟨finalizers, hfinalizers, h⟩ := Option.bind_eq_some_iff.mp h
    obtain ⟨managed, hmanaged, h⟩ := Option.bind_eq_some_iff.mp h
    obtain ⟨owners, howners, h⟩ := Option.bind_eq_some_iff.mp h
    obtain ⟨version, hversion, h⟩ := Option.bind_eq_some_iff.mp h
    obtain ⟨link, hlink, h⟩ := Option.bind_eq_some_iff.mp h
    obtain ⟨uid, huid, h⟩ := Option.bind_eq_some_iff.mp h
    obtain rfl := Option.some.inj h
    exact ⟨members, hmembers, hname, hgenerateName, hinNamespace, hlabels, hannotations,
      hgeneration, hcreation, hdeletion, hgrace, hfinalizers, hmanaged, howners, hversion, hlink,
      huid⟩
  · rintro ⟨members, hmembers, h⟩
    rw [ofJson?, bind_of_eq_some hmembers, bind_of_eq_some h.name, bind_of_eq_some h.generateName,
      bind_of_eq_some h.inNamespace, bind_of_eq_some h.labels, bind_of_eq_some h.annotations,
      bind_of_eq_some h.generation, bind_of_eq_some h.creation, bind_of_eq_some h.deletion,
      bind_of_eq_some h.grace, bind_of_eq_some h.finalizers, bind_of_eq_some h.managed,
      bind_of_eq_some h.owners, bind_of_eq_some h.version, bind_of_eq_some h.link,
      bind_of_eq_some h.uid]

theorem toJson_members (m : Metadata) :
    ∃ written, m.toJson.members? = some written ∧ WrittenTo written m := by
  refine ⟨_, rfl, ?_⟩
  constructor <;> simp [lookup_append, lookup_field]

theorem ReadFrom.again (h : ReadFrom members m) (hyears : m.FourDigitYears)
    (hwritten : WrittenTo written m) : ReadFrom written m where
  name := normalises_string.optional h.name (by simp) hwritten.name
  generateName := normalises_string.optional h.generateName (by simp) hwritten.generateName
  inNamespace := normalises_string.optional h.inNamespace (by simp) hwritten.inNamespace
  labels := normalises_labels.optional h.labels (by simp) hwritten.labels
  annotations := normalises_labels.optional h.annotations (by simp) hwritten.annotations
  generation := normalises_int64.optional h.generation (by simp) hwritten.generation
  creation := normalises_timestamp.optional h.creation hyears.creation hwritten.creation
  deletion := normalises_timestamp.optional h.deletion hyears.deletion hwritten.deletion
  grace := normalises_int64.optional h.grace (by simp) hwritten.grace
  finalizers := normalises_string.list.optional h.finalizers (by simp) hwritten.finalizers
  managed := ManagedFields.normalises.list.optional h.managed hyears.managed hwritten.managed
  owners := OwnerReference.normalises.list.optional h.owners (by simp) hwritten.owners
  version := normalises_string.optional h.version (by simp) hwritten.version
  link := normalises_string.optional h.link (by simp) hwritten.link
  uid := normalises_string.optional h.uid (by simp) hwritten.uid

theorem normalises : Normalises ofJson? toJson FourDigitYears := by
  intro json m h hyears
  obtain ⟨members, -, hread⟩ := ofJson?_eq_some_iff.mp h
  obtain ⟨written, hmembers, hwritten⟩ := m.toJson_members
  exact ⟨nofun, ofJson?_eq_some_iff.mpr ⟨written, hmembers, hread.again hyears hwritten⟩⟩

end Metadata

namespace Cluster

theorem ofJson?_eq_some_iff {json : Json} {c : Cluster} :
    ofJson? json = some c ↔ ∃ members spec, json.record? ["metadata", "spec"] = some members ∧
      Json.required members "metadata" Metadata.ofJson? = some c.metadata ∧
      Json.required members "spec" (record? ["hubAcceptsClient", "leaseDurationSeconds"]) =
        some spec ∧
      (lookup spec "hubAcceptsClient").elim (some false) bool? = some c.hubAcceptsClient ∧
      Json.optional spec "leaseDurationSeconds" (intBetween? (-2147483648) 2147483647) =
        some c.leaseDurationSeconds := by
  constructor
  · intro h
    simp only [ofJson?, Option.bind_eq_bind, Option.bind_eq_some_iff] at h
    obtain ⟨members, hmembers, metadata, hmetadata, spec, hspec, h⟩ := h
    refine ⟨members, spec, hmembers, ?_⟩
    cases hfound : lookup spec "hubAcceptsClient" with
    | none =>
        simp only [hfound, Option.bind_some, Option.bind_eq_some_iff, Option.some.injEq] at h
        obtain ⟨lease, hlease, rfl⟩ := h
        exact ⟨hmetadata, hspec, rfl, hlease⟩
    | some value =>
        simp only [hfound, Option.bind_eq_some_iff, Option.some.injEq] at h
        obtain ⟨accepts, haccepts, lease, hlease, rfl⟩ := h
        exact ⟨hmetadata, hspec, haccepts, hlease⟩
  · rintro ⟨members, spec, hmembers, hmetadata, hspec, haccepts, hlease⟩
    obtain ⟨metadata, accepts, lease⟩ := c
    cases hfound : lookup spec "hubAcceptsClient" with
    | none =>
        obtain rfl : false = accepts := by simpa [hfound] using haccepts
        simp [ofJson?, hmembers, hmetadata, hspec, hfound, hlease]
    | some value =>
        rw [hfound, Option.elim_some] at haccepts
        simp [ofJson?, hmembers, hmetadata, hspec, hfound, haccepts, hlease]

theorem toJson_members (c : Cluster) :
    ∃ members spec, c.toJson.record? ["metadata", "spec"] = some members ∧
      lookup members "metadata" = some c.metadata.toJson ∧
      Json.required members "spec" (record? ["hubAcceptsClient", "leaseDurationSeconds"]) =
        some spec ∧
      lookup spec "hubAcceptsClient" = some (.bool c.hubAcceptsClient) ∧
      lookup spec "leaseDurationSeconds" = c.leaseDurationSeconds.map ofInt := by
  refine ⟨_, ("hubAcceptsClient", .bool c.hubAcceptsClient) ::
    field "leaseDurationSeconds" c.leaseDurationSeconds ofInt, record?_object ?_, ?_, ?_, ?_, ?_⟩
  · simp [Kind.members]
  · simp [lookup_append, lookup_cons, lookup_nil]
  · have hspec : ∀ f ∈ ["hubAcceptsClient", "leaseDurationSeconds"],
        ((("hubAcceptsClient", .bool c.hubAcceptsClient) ::
          field "leaseDurationSeconds" c.leaseDurationSeconds ofInt).filter fun m =>
            m.1 == f).length ≤ 1 := by
      cases c.leaseDurationSeconds <;> simp [field]
    simp [Json.required, lookup_append, lookup_cons, lookup_nil, record?_object hspec]
  · simp [lookup_cons, lookup_field]
  · simp [lookup_cons, lookup_field]

theorem normalises : Normalises ofJson? toJson fun c => c.metadata.FourDigitYears := by
  intro json c h hyears
  obtain ⟨members, spec, -, hmetadata, -, -, hlease⟩ := ofJson?_eq_some_iff.mp h
  obtain ⟨written, wspec, hwritten, wmetadata, hwspec, waccepts, wlease⟩ := c.toJson_members
  refine ⟨nofun, ofJson?_eq_some_iff.mpr ⟨written, wspec, hwritten, ?_, hwspec, ?_, ?_⟩⟩
  · exact Metadata.normalises.required hmetadata hyears wmetadata
  · rw [waccepts]
    rfl
  · exact (normalises_intBetween _ _).optional hlease (by simp) wlease

end Cluster

namespace Condition

def FourDigitYear (c : Condition) : Prop := c.lastTransitionTime.FourDigitYear

theorem ofJson?_eq_some_iff {json : Json} {c : Condition} :
    ofJson? json = some c ↔ ∃ members, json.members? = some members ∧
      Json.required members "lastTransitionTime" timestamp? = some c.lastTransitionTime ∧
      optionalText members "message" = some c.message ∧
      Json.optional members "observedGeneration" int64? = some c.observedGeneration ∧
      optionalText members "reason" = some c.reason ∧
      optionalText members "status" = some c.status ∧
      optionalText members "type" = some c.type := by
  constructor
  · intro h
    simp only [ofJson?, Option.bind_eq_bind, Option.bind_eq_some_iff, Option.some.injEq] at h
    obtain ⟨members, hmembers, time, htime, message, hmessage, generation, hgeneration, reason,
      hreason, status, hstatus, type, htype, rfl⟩ := h
    exact ⟨members, hmembers, htime, hmessage, hgeneration, hreason, hstatus, htype⟩
  · rintro ⟨members, hmembers, htime, hmessage, hgeneration, hreason, hstatus, htype⟩
    simp [ofJson?, hmembers, htime, hmessage, hgeneration, hreason, hstatus, htype]

theorem toJson_members (c : Condition) : ∃ members, c.toJson.members? = some members ∧
    lookup members "lastTransitionTime" = some c.lastTransitionTime.toJson ∧
    lookup members "message" = some (.string c.message) ∧
    lookup members "observedGeneration" = c.observedGeneration.map ofInt ∧
    lookup members "reason" = some (.string c.reason) ∧
    lookup members "status" = some (.string c.status) ∧
    lookup members "type" = some (.string c.type) := by
  refine ⟨_, rfl, ?_⟩
  simp [lookup_append, lookup_cons, lookup_nil, lookup_field]

theorem normalises : Normalises ofJson? toJson FourDigitYear := by
  intro json c h hyear
  obtain ⟨members, -, htime, -, hgeneration, -⟩ := ofJson?_eq_some_iff.mp h
  obtain ⟨written, hwritten, wtime, wmessage, wgeneration, wreason, wstatus, wtype⟩ :=
    c.toJson_members
  exact ⟨nofun, ofJson?_eq_some_iff.mpr ⟨written, hwritten,
    normalises_timestamp.required htime hyear wtime, optionalText_of_lookup wmessage,
    normalises_int64.optional hgeneration (by simp) wgeneration,
    optionalText_of_lookup wreason, optionalText_of_lookup wstatus,
    optionalText_of_lookup wtype⟩⟩

end Condition

namespace AddOnStatus

def FourDigitYears (s : AddOnStatus) : Prop :=
  ∀ cs ∈ s.conditions, ∀ c ∈ cs, c.FourDigitYear

/-- Nothing but an empty array is read as a status other than by its members; it shows no
conditions, as an object without members does. -/
theorem exists_members_of_ofJson? {json : Json} {s : AddOnStatus} (h : ofJson? json = some s) :
    ∃ members,
      Json.optional members "conditions" (list? Condition.ofJson?) = some s.conditions := by
  rw [ofJson?.eq_def] at h
  split at h
  · obtain rfl := Option.some.inj h
    exact ⟨[], rfl⟩
  · simp only [Option.bind_eq_bind, Option.bind_eq_some_iff, Option.some.injEq] at h
    obtain ⟨members, -, conditions, hconditions, rfl⟩ := h
    exact ⟨members, hconditions⟩

theorem normalises : Normalises ofJson? toJson FourDigitYears := by
  intro json s h hyears
  obtain ⟨members, hconditions⟩ := exists_members_of_ofJson? h
  have hlookup : lookup (field "conditions" s.conditions (ofList Condition.toJson)) "conditions" =
      s.conditions.map (ofList Condition.toJson) := by
    simp [lookup_field]
  have hback := Condition.normalises.list.optional hconditions hyears hlookup
  refine ⟨nofun, ?_⟩
  rw [toJson, ofJson?, record?_field, Option.bind_eq_bind, Option.bind_some, hback]
  · rfl
  · nofun

end AddOnStatus

namespace AddOn

def FourDigitYears (a : AddOn) : Prop :=
  a.metadata.FourDigitYears ∧ ∀ c ∈ a.conditions, c.FourDigitYear

theorem fourDigitYears_of_mem_status {a : AddOn} (h : a.FourDigitYears) :
    ∀ s ∈ a.status, s.FourDigitYears := by
  intro s hs cs hcs c hc
  have hstatus : a.status = some s := hs
  have hconditions : s.conditions = some cs := hcs
  refine h.2 c ?_
  rw [conditions, hstatus, Option.bind_some, hconditions, Option.getD_some]
  exact hc

theorem ofJson?_eq_some_iff {json : Json} {a : AddOn} :
    ofJson? json = some a ↔ ∃ members spec,
      json.record? ["metadata", "spec", "status"] = some members ∧
      Json.required members "metadata" Metadata.ofJson? = some a.metadata ∧
      Json.required members "spec" (record? ["installNamespace"]) = some spec ∧
      Json.optional spec "installNamespace" string? = some a.installNamespace ∧
      Json.optional members "status" AddOnStatus.ofJson? = some a.status := by
  constructor
  · intro h
    simp only [ofJson?, Option.bind_eq_bind, Option.bind_eq_some_iff, Option.some.injEq] at h
    obtain ⟨members, hmembers, metadata, hmetadata, spec, hspec, space, hspace, status, hstatus,
      rfl⟩ := h
    exact ⟨members, spec, hmembers, hmetadata, hspec, hspace, hstatus⟩
  · rintro ⟨members, spec, hmembers, hmetadata, hspec, hspace, hstatus⟩
    simp [ofJson?, hmembers, hmetadata, hspec, hspace, hstatus]

theorem toJson_members (a : AddOn) :
    ∃ members spec, a.toJson.record? ["metadata", "spec", "status"] = some members ∧
      lookup members "metadata" = some a.metadata.toJson ∧
      Json.required members "spec" (record? ["installNamespace"]) = some spec ∧
      lookup spec "installNamespace" = a.installNamespace.map .string ∧
      lookup members "status" = a.status.map AddOnStatus.toJson := by
  refine ⟨_, field "installNamespace" a.installNamespace .string, record?_object ?_, ?_, ?_, ?_,
    ?_⟩
  · cases a.status <;> simp [Kind.members, field]
  · simp [lookup_append, lookup_cons, lookup_field]
  · simp [Json.required, lookup_append, lookup_cons, lookup_field, record?_field]
  · simp [lookup_field]
  · simp [Kind.members, lookup_cons, lookup_field]

theorem normalises : Normalises ofJson? toJson FourDigitYears := by
  intro json a h hyears
  obtain ⟨members, spec, -, hmetadata, -, hspace, hstatus⟩ := ofJson?_eq_some_iff.mp h
  obtain ⟨written, wspec, hwritten, wmetadata, hwspec, wspace, wstatus⟩ := a.toJson_members
  exact ⟨nofun, ofJson?_eq_some_iff.mpr ⟨written, wspec, hwritten,
    Metadata.normalises.required hmetadata hyears.1 wmetadata, hwspec,
    normalises_string.optional hspace (by simp) wspace,
    AddOnStatus.normalises.optional hstatus (fourDigitYears_of_mem_status hyears) wstatus⟩⟩

end AddOn

/-- Metadata that agree on all that labels depend on. -/
structure Metadata.Agrees (a b : Metadata) : Prop where
  givenName : a.givenName = b.givenName
  inNamespace : a.inNamespace = b.inNamespace
  labels : a.labels = b.labels
  generation : a.generation = b.generation
  isTerminating : a.isTerminating = b.isTerminating

theorem Metadata.agrees_refl (m : Metadata) : m.Agrees m := ⟨rfl, rfl, rfl, rfl, rfl⟩

/-- What is written for an object that was read from any document is read again, as an object of
which the same is written and which agrees with the first on all that labels depend on. -/
theorem reading_normalises (json : Json) :
    (∀ c, Cluster.ofJson? json = some c → c.metadata.FourDigitYears →
      ∃ again, Cluster.ofJson? c.toJson = some again ∧ again.toJson = c.toJson ∧
        again.metadata.Agrees c.metadata) ∧
    (∀ a, AddOn.ofJson? json = some a → a.FourDigitYears →
      ∃ again, AddOn.ofJson? a.toJson = some again ∧ again.toJson = a.toJson ∧
        again.metadata.Agrees a.metadata ∧ again.health = a.health) := by
  constructor
  · intro c hc hyears
    obtain ⟨-, hback⟩ := Cluster.normalises json c hc hyears
    exact ⟨c, hback, rfl, c.metadata.agrees_refl⟩
  · intro a ha hyears
    obtain ⟨-, hback⟩ := AddOn.normalises json a ha hyears
    exact ⟨a, hback, rfl, a.metadata.agrees_refl, rfl⟩

namespace Sample

/-- A document with a wrong kind, nulls, an unknown member, an empty name and empty labels, members
in no order, and times that are in the next month by UTC. -/
def untidyCluster : Json :=
  .object
    [("kind", .string "Pod"),
     ("metadata", .object
       [("name", .null), ("generateName", .string "c-"), ("labels", .object []),
        ("generation", .number (.integer 7)), ("clusterName", .string "hub"),
        ("annotations", .object [("b", .string "2"), ("a", .string "")]),
        ("creationTimestamp", .string "2024-02-29t21:30:59-04:00"),
        ("deletionTimestamp", .string "2024-02-29T23:30:59.75-02:00"),
        ("deletionGracePeriodSeconds", .number (.integer 0)),
        ("finalizers", .array [.string "z", .string "a"]),
        ("managedFields", .array
          [.object [("manager", .string "agent"), ("time", .string "2024-3-1 01:30:59 UTC"),
            ("fieldsV1", .object
              [("f:spec", .object []), ("f:metadata", .array [.null]), ("f:spec", .null)])],
           .object [("fieldsV1", .null)]]),
        ("ownerReferences", .array
          [.object [("uid", .null), ("kind", .string "Hub"), ("controller", .bool true)]])]),
     ("spec", .object [("leaseDurationSeconds", .null)]),
     ("status", .null)]

def untidyAddOn : Json :=
  .array
    [.object [("name", .string "a"), ("namespace", .string "c1"), ("name", .string "b")],
     .array [.null],
     .object [("conditions", .array
       [.object [("type", .string "Available"), ("status", .string "True"), ("reason", .null),
         ("lastTransitionTime", .string "2024-3-1 01:30:59 UTC")]])]]

def halfPastOne : Timestamp where
  date := ⟨2024, 3, 1, by decide, by decide⟩
  hour := 1
  minute := 30
  second := 59
  hour_lt := by decide
  minute_lt := by decide
  second_le := by decide

def tidyCluster : Cluster where
  metadata :=
    { generateName := some "c-"
      labels := some ∅
      annotations := some (.ofPairs [("b", "2"), ("a", "")])
      generation := some 7
      creationTimestamp := some halfPastOne
      deletionTimestamp := some halfPastOne
      deletionGracePeriodSeconds := some 0
      finalizers := some ["z", "a"]
      managedFields := some
        [{ manager := some "agent"
           time := some halfPastOne
           fields := some <| .object [("f:metadata", .array [.null]), ("f:spec", .null)] },
         {}]
      ownerReferences := some [{ kind := "Hub", controller := some true }] }

def tidyAddOn : AddOn where
  metadata := { name := some "b", inNamespace := some "c1" }
  status := some
    { conditions := some
        [{ type := "Available", status := "True", lastTransitionTime := halfPastOne }] }

end Sample

theorem reading_normalises_sample :
    Cluster.ofJson? Sample.untidyCluster = some Sample.tidyCluster ∧
    AddOn.ofJson? Sample.untidyAddOn = some Sample.tidyAddOn ∧
    (∃ again, Cluster.ofJson? Sample.tidyCluster.toJson = some again ∧
      again.toJson = Sample.tidyCluster.toJson ∧ again.metadata.isTerminating = true) ∧
    (∃ again, AddOn.ofJson? Sample.tidyAddOn.toJson = some again ∧
      again.toJson = Sample.tidyAddOn.toJson ∧ again.health = .available) := by
  have hcluster : Cluster.ofJson? Sample.untidyCluster = some Sample.tidyCluster := by
    decide +kernel
  have haddOn : AddOn.ofJson? Sample.untidyAddOn = some Sample.tidyAddOn := by decide +kernel
  have hyear : Sample.halfPastOne.FourDigitYear := ⟨by decide, by decide⟩
  have hyears : Sample.tidyCluster.metadata.FourDigitYears := by
    constructor <;> simp [Sample.tidyCluster, ManagedFields.FourDigitYear, hyear]
  have hnone : Sample.tidyAddOn.metadata.FourDigitYears := by
    constructor <;> simp [Sample.tidyAddOn]
  obtain ⟨again, hagain, hsame, hagrees⟩ := (reading_normalises Sample.untidyCluster).1 _ hcluster
    hyears
  obtain ⟨twin, htwin, htwice, -, hhealth⟩ := (reading_normalises Sample.untidyAddOn).2 _ haddOn
    ⟨hnone, List.forall_mem_singleton.mpr hyear⟩
  exact ⟨hcluster, haddOn, ⟨again, hagain, hsame, hagrees.isTerminating⟩,
    twin, htwin, htwice, hhealth⟩

end FeatureLabels
