import Molejo.Store.Cluster

/-!
# Bindings

An operator binds a storage profile, or the publication of hostnames, to a resource of one
cluster. The Agent looks at the resources and reports on them with its heartbeats, and
`reconcileBindingObservations` records the report: for each binding what was seen, whether it is
healthy, until when that may be relied on, and the session and the number of the heartbeat.

A report has to be about bindings as they are: each observation names a target, in the version
that the target has now, and repeats what the target asks for. A complete report also says of
every binding that it does not mention that it was not seen.

`Molejo.Store` reads bindings of storage when it creates a volume, and only as much of them
as decides whether one can be used (`ClusterStorageBinding.view`).
-/

namespace Molejo.Store

open Transaction

/-! ### Rows -/

/-- `kubernetesbinding.Health`. -/
inductive BindingHealth
  | unknown
  | healthy
  | degraded
  | unavailable
deriving DecidableEq

/-- `kubernetesbinding.Health` as it is written. -/
def BindingHealth.ofString? : String → Option BindingHealth
  | "Unknown" => some .unknown
  | "Healthy" => some .healthy
  | "Degraded" => some .degraded
  | "Unavailable" => some .unavailable
  | _ => none

/-- What every binding records of its last observation. -/
structure BindingRecord where
  health : BindingHealth
  reasonCode : String
  observedAt : Option Time
  expiresAt : Option Time
  observedSessionId : String
  observedSequence : ℕ
deriving DecidableEq

/-- A row of `cluster_storage_bindings`. -/
structure ClusterStorageBinding where
  clusterId : ℕ
  storageProfileId : String
  storageClassName : String
  provisioner : String
  accessModes : List String
  allowExpansion : Bool
  volumeBindingMode : String
  observed : BindingRecord
  version : ℕ
deriving DecidableEq

/-- A row of `cluster_publication_bindings`. -/
structure ClusterPublicationBinding where
  clusterId : ℕ
  gatewayNamespace : String
  gatewayName : String
  sectionName : String
  gatewayClassName : String
  gatewayClassAccepted : Bool
  gatewayProgrammed : Bool
  listenerReady : Bool
  supportedRouteKinds : List String
  observed : BindingRecord
  version : ℕ
deriving DecidableEq

/-- The bindings of all clusters. -/
structure Bindings where
  storage : Table ClusterStorageBinding
  publication : Table ClusterPublicationBinding

/-- A binding of storage, as `createAppVolume` reads it. -/
def ClusterStorageBinding.view (b : ClusterStorageBinding) : StorageBinding where
  clusterId := b.clusterId
  storageProfileId := b.storageProfileId
  storageClassName := b.storageClassName
  version := b.version
  healthy := decide (b.observed.health = .healthy)
  expiresAt := b.observed.expiresAt.getD 0

/-! ### Targets and observations -/

/-- `kubernetesbinding.StorageTarget` and `kubernetesbinding.PublicationTarget`; the kind of a
target is which of the two it has. -/
inductive BindingResource
  | storage (storageClassName : String)
  | publication (gatewayNamespace gatewayName sectionName : String)
deriving DecidableEq

/-- The texts of `kubernetesbinding.Kind`. -/
def BindingResource.kind : BindingResource → String
  | .storage _ => "Storage"
  | .publication .. => "PublicationHTTP"

/-- `kubernetesbinding.Target`. -/
structure BindingTarget where
  id : String
  version : ℕ
  resource : BindingResource
deriving DecidableEq

/-- `kubernetesbinding.StorageObservation`. -/
structure StorageObservation where
  storageClassName : String
  provisioner : String
  accessModes : List String
  allowExpansion : Bool
  volumeBindingMode : String
deriving DecidableEq

/-- `kubernetesbinding.PublicationObservation`. -/
structure PublicationObservation where
  gatewayNamespace : String
  gatewayName : String
  sectionName : String
  gatewayClassName : String
  gatewayClassAccepted : Bool
  gatewayProgrammed : Bool
  listenerReady : Bool
  supportedRouteKinds : List String
deriving DecidableEq

/-- `kubernetesbinding.Observation`. -/
structure BindingObservation where
  id : String
  kind : String
  version : ℤ
  health : String
  reasonCode : String
  sampledAt : Option Time
  storage : Option StorageObservation
  publication : Option PublicationObservation
deriving DecidableEq

/-- The pattern `^[a-z][a-z0-9…]{0,127}$`, with the other characters that it allows. -/
def isIdentifier (others : List Char) (value : String) : Bool :=
  match value.toList with
  | [] => false
  | c :: rest => c.isLower && decide (rest.length ≤ 127) &&
      rest.all fun c => c.isLower || c.isDigit || others.contains c

/-- `validLabel`. -/
def validLabel (value : String) : Bool :=
  decide (value.utf8ByteSize ≤ 63) && isLabel value.toList

/-- `validSubdomain`. -/
def validSubdomain (value : String) : Bool :=
  let alphanum := fun c : Char => c.isLower || c.isDigit
  decide (value.utf8ByteSize ≤ 253) &&
    value.toList.all (fun c => alphanum c || c == '-' || c == '.') &&
    value.toList.head?.any alphanum && value.toList.getLast?.any alphanum

/-- `validUnique`. -/
def ValidUnique (values : List String) : Prop :=
  values.length ≤ 8 ∧ values.Nodup ∧ ∀ v ∈ values, isBlank v = false ∧ v.utf8ByteSize ≤ 64
deriving Decidable

/-- The resource of a target is named as it has to be. -/
def BindingResource.Valid : BindingResource → Prop
  | .storage storageClassName => validSubdomain storageClassName = true
  | .publication gatewayNamespace gatewayName sectionName =>
    validLabel gatewayNamespace = true ∧ validSubdomain gatewayName = true ∧
      validLabel sectionName = true

instance : DecidablePred BindingResource.Valid
  | .storage storageClassName =>
    inferInstanceAs (Decidable (validSubdomain storageClassName = true))
  | .publication gatewayNamespace gatewayName sectionName =>
    inferInstanceAs (Decidable (validLabel gatewayNamespace = true ∧
      validSubdomain gatewayName = true ∧ validLabel sectionName = true))

/-- `ValidateTarget`. -/
def BindingTarget.Valid (target : BindingTarget) : Prop :=
  isIdentifier [':', '-'] target.id = true ∧ 1 ≤ target.version ∧ target.resource.Valid

instance : DecidablePred BindingTarget.Valid := fun target =>
  inferInstanceAs (Decidable (isIdentifier [':', '-'] target.id = true ∧ 1 ≤ target.version ∧
    target.resource.Valid))

/-- What was observed is about the resource of the target. -/
def BindingObservation.About (o : BindingObservation) : BindingResource → Prop
  | .storage storageClassName =>
    o.publication = none ∧ ∃ x ∈ o.storage, x.storageClassName = storageClassName ∧
      validSubdomain x.storageClassName = true ∧ x.provisioner.utf8ByteSize ≤ 253 ∧
      ValidUnique x.accessModes ∧ x.volumeBindingMode.utf8ByteSize ≤ 64
  | .publication gatewayNamespace gatewayName sectionName =>
    o.storage = none ∧ ∃ x ∈ o.publication, x.gatewayNamespace = gatewayNamespace ∧
      x.gatewayName = gatewayName ∧ x.sectionName = sectionName ∧
      x.gatewayClassName.utf8ByteSize ≤ 253 ∧ ValidUnique x.supportedRouteKinds

instance (o : BindingObservation) : DecidablePred o.About
  | .storage storageClassName => inferInstanceAs (Decidable (
      o.publication = none ∧ ∃ x ∈ o.storage, x.storageClassName = storageClassName ∧
        validSubdomain x.storageClassName = true ∧ x.provisioner.utf8ByteSize ≤ 253 ∧
        ValidUnique x.accessModes ∧ x.volumeBindingMode.utf8ByteSize ≤ 64))
  | .publication gatewayNamespace gatewayName sectionName => inferInstanceAs (Decidable (
      o.storage = none ∧ ∃ x ∈ o.publication, x.gatewayNamespace = gatewayNamespace ∧
        x.gatewayName = gatewayName ∧ x.sectionName = sectionName ∧
        x.gatewayClassName.utf8ByteSize ≤ 253 ∧ ValidUnique x.supportedRouteKinds))

/-- `ValidateObservation`. -/
def ValidateObservation (target : BindingTarget) (o : BindingObservation) (now : Time) : Prop :=
  target.Valid ∧
  (o.id = target.id ∧ o.kind = target.resource.kind ∧ o.version = target.version ∧
    BindingHealth.ofString? o.health ≠ none ∧ ∃ t ∈ o.sampledAt, t ≤ now + 60) ∧
  (o.reasonCode ≠ "" → isIdentifier ['_'] o.reasonCode = true) ∧
  o.About target.resource
deriving Decidable

/-- `storageBindingTargetID`. -/
def storageBindingTargetId (profileId : String) : String := "storage:" ++ profileId

/-- `publicationBindingTargetID`. -/
def publicationBindingTargetId : String := "publication:http"

/-- `storageBindingTargets` and `publicationBindingTargets` of a cluster. -/
def bindingTargets (b : Bindings) (clusterId : ℕ) : List BindingTarget :=
  (b.storage.select fun _ x => x.clusterId = clusterId).map (fun x =>
    { id := storageBindingTargetId x.2.storageProfileId
      version := x.2.version
      resource := .storage x.2.storageClassName }) ++
  (b.publication.select fun _ x => x.clusterId = clusterId).map (fun x =>
    { id := publicationBindingTargetId
      version := x.2.version
      resource := .publication x.2.gatewayNamespace x.2.gatewayName x.2.sectionName })

/-! ### Recording -/

/-- The heartbeat that a record is from. -/
structure Heard where
  sessionId : String
  sequence : ℕ
  receivedAt : Time

/-- The record of a binding that a complete report does not mention. -/
def BindingRecord.missing (h : Heard) : BindingRecord where
  health := .unknown
  reasonCode := "binding_observation_missing"
  observedAt := none
  expiresAt := none
  observedSessionId := h.sessionId
  observedSequence := h.sequence

/-- The record of an observation; it may be relied on for 90 seconds. -/
def BindingObservation.record (o : BindingObservation) (h : Heard) : BindingRecord where
  health := (BindingHealth.ofString? o.health).getD .unknown
  reasonCode := o.reasonCode
  observedAt := o.sampledAt
  expiresAt := some (h.receivedAt + 90)
  observedSessionId := h.sessionId
  observedSequence := h.sequence

/-- The two statements of a complete report. -/
def markMissing (h : Heard) (clusterId : ℕ) (b : Bindings) : Bindings where
  storage := b.storage.modify (fun _ x => x.clusterId = clusterId)
    fun x => { x with observed := .missing h }
  publication := b.publication.modify (fun _ x => x.clusterId = clusterId)
    fun x => { x with observed := .missing h }

/-- The binding of storage that an observation is about. -/
def BindingObservation.OfStorage (o : BindingObservation) (clusterId : ℕ)
    (x : ClusterStorageBinding) : Prop :=
  x.clusterId = clusterId ∧ o.id = storageBindingTargetId x.storageProfileId ∧
    (x.version : ℤ) = o.version
deriving Decidable

/-- The binding of publication that an observation is about. -/
def BindingObservation.OfPublication (o : BindingObservation) (clusterId : ℕ)
    (x : ClusterPublicationBinding) : Prop :=
  x.clusterId = clusterId ∧ (x.version : ℤ) = o.version
deriving Decidable

/-- The statement that records an observation. -/
def recordBinding (h : Heard) (clusterId : ℕ) (b : Bindings) (o : BindingObservation) :
    Except Err Bindings :=
  match o.storage, o.publication with
  | some x, _ => do
    require (b.storage.Any fun _ row => o.OfStorage clusterId row) .versionConflict
    return { b with
      storage := b.storage.modify (fun _ row => o.OfStorage clusterId row) fun row =>
        { row with
          provisioner := x.provisioner
          accessModes := x.accessModes.mergeSort
          allowExpansion := x.allowExpansion
          volumeBindingMode := x.volumeBindingMode
          observed := o.record h } }
  | none, some x => do
    require (b.publication.Any fun _ row => o.OfPublication clusterId row) .versionConflict
    return { b with
      publication := b.publication.modify (fun _ row => o.OfPublication clusterId row) fun row =>
        { row with
          gatewayClassName := x.gatewayClassName
          gatewayClassAccepted := x.gatewayClassAccepted
          gatewayProgrammed := x.gatewayProgrammed
          listenerReady := x.listenerReady
          supportedRouteKinds := x.supportedRouteKinds.mergeSort
          observed := o.record h } }
  | none, none => return b

/-- A heartbeat that reports on bindings. -/
structure BindingReport where
  clusterPublicId : String
  sessionId : String
  sequence : ℕ
  observations : List BindingObservation
  complete : Bool
  receivedAt : Time

/-- Every observation is about a target of the cluster, and no target is observed twice. -/
def ReportValid (targets : List BindingTarget) (report : BindingReport) : Prop :=
  (∀ o ∈ report.observations, ∃ target ∈ targets.find? (·.id = o.id),
    ValidateObservation target o report.receivedAt) ∧
  (report.observations.map (·.id)).Nodup
deriving Decidable

/-- `ReconcileBindingObservations`, with the cluster that the report is about. -/
def reconcileBindingObservations (db : Db) (b : Bindings) (report : BindingReport) :
    Except Err (ℕ × Bindings) := do
  require (report.sessionId ≠ "" ∧ SequenceValid report.sequence ∧
    report.observations.length ≤ 32) .agentIdentityMismatch
  let cluster ← expect (db.installations.first fun _ r =>
    r.publicId = report.clusterPublicId ∧ r.status = .active) .agentIdentityMismatch
  require (cluster.2.controlSessionId = some report.sessionId ∧
    cluster.2.controlSessionSequence = report.sequence) .agentIdentityMismatch
  require (ReportValid (bindingTargets b cluster.1) report) .invalidObservation
  let heard : Heard := ⟨report.sessionId, report.sequence, report.receivedAt⟩
  let marked := if report.complete = true then markMissing heard cluster.1 b else b
  let recorded ← report.observations.foldlM (recordBinding heard cluster.1) marked
  return (cluster.1, recorded)

end Molejo.Store
