import Mathlib.Logic.Relation
import Molejo.Store.Operation

/-!
# Observations of an Agent

The Agent of a cluster reports the runtime objects it sees with its heartbeats.
`reconcileAgentObservations` records what was reported and, if the report is a
complete snapshot, repairs *drift*: a volume or a deployment that is missing, or was
observed under another version or specification than the one applied last, gets a
new operation.

Volumes and deployments are compared in turn. A volume is a candidate unless an
operation *on that volume* is active; a deployment is a candidate unless an
operation *on its environment* is active, and is passed over if the volume of the
environment was just queued.
-/

namespace Molejo.Store

open Transaction

/-! ### Normalising a report -/

/-- `RuntimeObservation`, as the Agent sends it. -/
structure RuntimeObservation where
  kind : String
  namespaceName : String
  name : String
  state : String
  message : String
  generation : ℤ
  observedGeneration : ℤ
  observedRelease : String
  observedSizeGiB : ℤ
  desiredVersion : ℤ
  specHash : String
deriving DecidableEq

/-- `runtimeObservationKey`. -/
def runtimeObservationKey (namespaceName name : String) : String := namespaceName ++ "/" ++ name

/-- The key of the object an observation is about. -/
def RuntimeObservation.key (o : RuntimeObservation) : String :=
  runtimeObservationKey o.namespaceName o.name

/-- `unicode.IsControl`. -/
def isControl (c : Char) : Bool := c.toNat < 32 || (127 ≤ c.toNat && c.toNat < 160)

/-- `sanitizeRuntimeMessage`: without control characters, and at most 500 runes. -/
def sanitizeRuntimeMessage (value : String) : String :=
  String.ofList ((value.toList.filter fun c => !isControl c).take 500)

/-- The states of an `AppDeployment`. -/
def RuntimeState.ofString? : String → Option RuntimeState
  | "Pending" => some .pending
  | "Progressing" => some .progressing
  | "Ready" => some .ready
  | "Degraded" => some .degraded
  | "Unknown" => some .unknown
  | _ => none

/-- `validRuntimeObjectName`. -/
def validRuntimeObjectName (value : String) : Bool :=
  decide (value.length ≤ 63) && isLabel value.toList

/-- `validRuntimeState`. -/
def ValidRuntimeState (kind state : String) : Prop :=
  if kind = "AppDeployment" then RuntimeState.ofString? state ≠ none
  else VolumeState.ofString? state ≠ none
deriving Decidable

/-- What `normalizeRuntimeObservations` wants of one observation. -/
def ObservationValid (o : RuntimeObservation) : Prop :=
  (o.kind = "AppDeployment" ∨ o.kind = "AppVolume") ∧
  (validRuntimeObjectName o.namespaceName = true ∧ validRuntimeObjectName o.name = true) ∧
  (0 ≤ o.generation ∧ 0 ≤ o.observedGeneration ∧ 0 ≤ o.observedSizeGiB ∧ 0 ≤ o.desiredVersion) ∧
  ValidRuntimeState o.kind o.state ∧
  (o.observedRelease.utf8ByteSize ≤ 512 ∧ o.observedRelease.toList.all (!isControl ·) = true) ∧
  (o.specHash ≠ "" → SpecHashValid o.specHash) ∧
  (0 < o.desiredVersion → o.specHash ≠ "")
deriving Decidable

/-- `normalizeRuntimeObservations`: at most a thousand objects, each valid and none twice; the
messages are sanitised. -/
def normalizeRuntimeObservations (items : List RuntimeObservation) :
    Except Err (List RuntimeObservation) := do
  require (items.length ≤ 1000 ∧ (∀ o ∈ items, ObservationValid o) ∧
    (items.map fun o => o.kind ++ ":" ++ o.key).Nodup) .invalidObservation
  pure (items.map fun o => { o with message := sanitizeRuntimeMessage o.message })

/-! ### Recording -/

/-- The environment is the one on the cluster that runs under this name in this namespace. -/
def RunsAs (db : Db) (clusterId : ℕ) (namespaceName name : String) (ae : AppEnvironment) : Prop :=
  ae.clusterId = some clusterId ∧ ae.runtimeName = name ∧ ae.archivedAt = none ∧
    ∃ w ∈ db.workspaces.lookup ae.workspaceId, w.namespaceName = namespaceName
deriving Decidable

/-- The volume is the one on the cluster with this public id in this namespace. -/
def StoredAs (db : Db) (clusterId : ℕ) (namespaceName name : String) (v : AppVolume) : Prop :=
  v.publicId = name ∧ ∃ ae ∈ db.appEnvironments.lookup v.appEnvironmentId,
    ae.clusterId = some clusterId ∧
      ∃ w ∈ db.workspaces.lookup ae.workspaceId, w.namespaceName = namespaceName
deriving Decidable

/-- The row of an environment whose deployment was seen. -/
def seenRow (now : Time) (o : RuntimeObservation) (ae : AppEnvironment) : AppEnvironment :=
  { ae with
    runtimeObservedGeneration := o.observedGeneration.toNat
    runtimeObservedAt := some now }

/-- The row of an environment whose state was taken over from a report. -/
def reportedRow (state : RuntimeState) (message : String) (ae : AppEnvironment) :
    AppEnvironment :=
  { ae with lastState := state, lastMessage := message }

/-- An observed deployment: the state is taken over unless an operation on the environment is
active. -/
def observeDeployment (now : Time) (db : Db) (clusterId : ℕ) (o : RuntimeObservation)
    (state : RuntimeState) : Db :=
  let seen := db.appEnvironments.modify
    (fun _ ae => RunsAs db clusterId o.namespaceName o.name ae) (seenRow now o)
  { db with
    appEnvironments := seen.modify
      (fun i ae => RunsAs db clusterId o.namespaceName o.name ae ∧
        ¬ HasActiveOperation db.operations i)
      (reportedRow state o.message) }

/-- The row of a volume that was seen. -/
def observedRow (state : VolumeState) (o : RuntimeObservation) (v : AppVolume) : AppVolume :=
  { v with
    observedState := state
    message := o.message
    observedSizeGiB := min v.requestedSizeGiB o.observedSizeGiB }

/-- An observed volume: state and size are taken over as reported. -/
def observeVolume (db : Db) (clusterId : ℕ) (o : RuntimeObservation) (state : VolumeState) : Db :=
  { db with
    appVolumes := db.appVolumes.modify
      (fun _ v => StoredAs db clusterId o.namespaceName o.name v) (observedRow state o) }

/-- The body of the loop of `ReconcileAgentObservations`. -/
def observe (now : Time) (clusterId : ℕ) (db : Db) (o : RuntimeObservation) : Db :=
  if o.kind = "AppDeployment" then
    match RuntimeState.ofString? o.state with
    | some state => observeDeployment now db clusterId o state
    | none => db
  else
    match VolumeState.ofString? o.state with
    | some state => observeVolume db clusterId o state
    | none => db

/-! ### Drift -/

/-- `observedVolumeTarget` and `observedRuntimeTarget`: a candidate for repair. -/
structure DriftTarget where
  workspaceId : ℕ
  environmentId : ℕ
  /-- The volume, or the deployment. -/
  subjectId : ℕ
  /-- The user, or the principal, the new operation is in the name of. -/
  actorId : ℕ
  desiredVersion : ℕ
  expectedVersion : ℕ
  expectedHash : String
  key : String

/-- What was applied last is what was seen last. -/
def DriftTarget.Matches (target : DriftTarget) (o : RuntimeObservation) : Prop :=
  o.desiredVersion = target.expectedVersion ∧ o.specHash = target.expectedHash
deriving Decidable

/-- The observation of a candidate, if there was one. -/
def DriftTarget.seen (target : DriftTarget) (kind : String) (seen : List RuntimeObservation) :
    Option RuntimeObservation :=
  seen.find? fun o => o.kind = kind ∧ o.key = target.key

/-- A candidate has drifted: it was not seen, or was seen as something else. -/
def DriftTarget.Drifted (target : DriftTarget) (kind : String) (seen : List RuntimeObservation) :
    Prop :=
  ∀ o ∈ target.seen kind seen, ¬ target.Matches o
deriving Decidable

/-- The condition of `volumeDriftCandidates`. -/
def VolumeCandidate (db : Db) (clusterId volumeId : ℕ) (v : AppVolume) : Prop :=
  (∃ ae ∈ db.appEnvironments.lookup v.appEnvironmentId,
    ae.clusterId = some clusterId ∧ ae.archivedAt = none) ∧
  db.workspaces.lookup v.workspaceId ≠ none ∧
  v.deletionRequestedAt = none ∧ v.desiredState = .ready ∧
  ¬ db.operations.Any fun _ o => o.appVolumeId = some volumeId ∧ o.Active
deriving Decidable

/-- A row of `volumeDriftCandidates`. The new operation is in the name of the user of the first
operation on the volume; the query fails if there is no such user. -/
def volumeTarget (db : Db) (r : ℕ × AppVolume) : Except Err DriftTarget := do
  let actor ← expect ((db.operations.first fun _ o => o.appVolumeId = some r.1).bind
    fun o => o.2.requestedByUserId) .database
  let workspace ← expect (db.workspaces.lookup r.2.workspaceId) .database
  pure
    { workspaceId := r.2.workspaceId
      environmentId := r.2.appEnvironmentId
      subjectId := r.1
      actorId := actor
      desiredVersion := r.2.version
      expectedVersion := r.2.runtimeDesiredVersion
      expectedHash := r.2.runtimeSpecHash.getD ""
      key := runtimeObservationKey workspace.namespaceName r.2.publicId }

/-- `volumeDriftCandidates`. -/
def volumeDriftCandidates (db : Db) (clusterId : ℕ) : Except Err (List DriftTarget) :=
  (db.appVolumes.select fun i v => VolumeCandidate db clusterId i v).mapM (volumeTarget db)

/-- The condition of `deploymentDriftCandidates`. -/
def DeploymentCandidate (db : Db) (clusterId appEnvironmentId : ℕ) (ae : AppEnvironment) : Prop :=
  ae.clusterId = some clusterId ∧ ae.archivedAt = none ∧ ae.deletionRequestedAt = none ∧
  db.workspaces.lookup ae.workspaceId ≠ none ∧
  ae.desiredDeploymentId.bind db.deployments.lookup ≠ none ∧
  ¬ HasActiveOperation db.operations appEnvironmentId
deriving Decidable

/-- A row of `deploymentDriftCandidates`. -/
def deploymentTarget (db : Db) (r : ℕ × AppEnvironment) : Except Err DriftTarget := do
  let deploymentId ← expect r.2.desiredDeploymentId .database
  let d ← expect (db.deployments.lookup deploymentId) .database
  let workspace ← expect (db.workspaces.lookup r.2.workspaceId) .database
  pure
    { workspaceId := r.2.workspaceId
      environmentId := r.1
      subjectId := deploymentId
      actorId := d.requestedByPrincipalId
      desiredVersion := r.2.version
      expectedVersion := r.2.runtimeDesiredVersion
      expectedHash := r.2.runtimeSpecHash.getD ""
      key := runtimeObservationKey workspace.namespaceName r.2.runtimeName }

/-- `deploymentDriftCandidates`. -/
def deploymentDriftCandidates (db : Db) (clusterId : ℕ) : Except Err (List DriftTarget) :=
  (db.appEnvironments.select fun i ae => DeploymentCandidate db clusterId i ae).mapM
    (deploymentTarget db)

/-! ### Repairing drift -/

/-- The idempotency key of a repair: what is repaired and how often it was repaired before. -/
def reconcileKey (tag : String) (environmentId subjectId generation : ℕ) : Digest :=
  sha256 (tag ++ ":" ++ toString environmentId ++ ":" ++ toString subjectId ++ ":" ++
    toString generation)

/-- The operation that provisions a drifted volume again. -/
def DriftTarget.ensureVolume (target : DriftTarget) (publicId : String) (principalId : ℕ)
    (key : Digest) : NewOperation where
  publicId := publicId
  workspaceId := target.workspaceId
  appEnvironmentId := some target.environmentId
  deploymentId := none
  appVolumeId := some target.subjectId
  requestedByUserId := some target.actorId
  requestedByPrincipalId := principalId
  kind := .ensureVolume
  idempotencyHash := key
  payloadHash := key
  desiredVersion := target.desiredVersion

/-- The operation that applies a drifted deployment again, for the version its environment has
now. -/
def DriftTarget.applyDeployment (target : DriftTarget) (publicId : String) (key : Digest) :
    NewOperation where
  publicId := publicId
  workspaceId := target.workspaceId
  appEnvironmentId := some target.environmentId
  deploymentId := some target.subjectId
  appVolumeId := none
  requestedByUserId := none
  requestedByPrincipalId := target.actorId
  kind := .applyDeployment
  idempotencyHash := key
  payloadHash := key
  desiredVersion := target.desiredVersion

/-- The row of a volume that is repaired once more. -/
def repairVolumeRow (v : AppVolume) : AppVolume :=
  { v with runtimeReconciliationGeneration := v.runtimeReconciliationGeneration + 1 }

/-- The row of an environment whose deployment is repaired once more. -/
def repairEnvironmentRow (message : String) (ae : AppEnvironment) : AppEnvironment :=
  { ae with
    reconciliationGeneration := ae.reconciliationGeneration + 1
    lastState := .progressing
    lastMessage := message }

/-- `enqueueVolumeReconciliation`. The principal of the new operation is left to the trigger. -/
def enqueueVolumeReconciliation (now : Time) (publicId : String) (db : Db)
    (target : DriftTarget) (existed : Bool) : Except Err Db := do
  let v ← expect (db.appVolumes.lookup target.subjectId) .database
  let key := reconcileKey "runtime-volume-reconcile" target.environmentId target.subjectId
    (v.runtimeReconciliationGeneration + 1)
  let principalId ← principalIdForUser db target.actorId
  let volumes := db.appVolumes.modify (fun i _ => i = target.subjectId) repairVolumeRow
  let db ← insertOperationForPrincipal now { db with appVolumes := volumes } target.environmentId
    (target.ensureVolume publicId principalId key)
  let message :=
    if existed then "persistent storage specification drift detected; reconciliation queued"
    else "persistent storage resource is missing; reconciliation queued"
  pure { db with
    appEnvironments := db.appEnvironments.modify (fun i _ => i = target.environmentId)
      (reportedRow .progressing message) }

/-- `enqueueRuntimeReconciliation`. -/
def enqueueRuntimeReconciliation (now : Time) (publicId : String) (db : Db)
    (target : DriftTarget) (existed : Bool) : Except Err Db := do
  let ae ← expect (db.appEnvironments.lookup target.environmentId) .database
  let key := reconcileKey "runtime-reconcile" target.environmentId target.subjectId
    (ae.reconciliationGeneration + 1)
  let message :=
    if existed then "runtime specification drift detected; reconciliation queued"
    else "runtime resource is missing; reconciliation queued"
  let environments := db.appEnvironments.modify (fun i _ => i = target.environmentId)
    (repairEnvironmentRow message)
  insertOperationForPrincipal now { db with appEnvironments := environments } target.environmentId
    (target.applyDeployment publicId key)

/-- The two loops over the candidates: each that has drifted is queued. The public id of a new
operation is drawn by `ids`, from the key it will have. -/
def repair (ids : ℕ → String) (kind : String) (seen : List RuntimeObservation)
    (enqueue : String → Db → DriftTarget → Bool → Except Err Db) :
    Db → List DriftTarget → Except Err Db
  | db, [] => .ok db
  | db, target :: rest =>
    if target.Drifted kind seen then do
      let db ← enqueue (ids db.operations.nextId) db target (target.seen kind seen).isSome
      repair ids kind seen enqueue db rest
    else repair ids kind seen enqueue db rest

/-- What a complete snapshot brings about: volumes first, then the deployments of the
environments whose volume was not just queued. -/
def repairDrift (now : Time) (ids : ℕ → String) (db : Db) (clusterId : ℕ)
    (seen : List RuntimeObservation) : Except Err Db := do
  let volumes ← volumeDriftCandidates db clusterId
  let db ← repair ids "AppVolume" seen (enqueueVolumeReconciliation now) db volumes
  let queued := (volumes.filter fun t => t.Drifted "AppVolume" seen).map DriftTarget.environmentId
  let deployments ← deploymentDriftCandidates db clusterId
  repair ids "AppDeployment" seen (enqueueRuntimeReconciliation now) db
    (deployments.filter fun t => t.environmentId ∉ queued)

/-- `strings.TrimSpace` leaves nothing. -/
def isBlank (value : String) : Bool :=
  value.toList.all fun c =>
    c.toNat ∈ [9, 10, 11, 12, 13, 32, 0x85, 0xA0, 0x1680, 0x2028, 0x2029, 0x202F, 0x205F, 0x3000] ||
      (0x2000 ≤ c.toNat && c.toNat ≤ 0x200A)

/-- `strings.TrimSpace`. -/
def trimSpace (value : String) : String :=
  let trimLeft := List.dropWhile fun c => isBlank (String.singleton c)
  String.ofList (trimLeft (trimLeft value.toList).reverse).reverse

/-- A heartbeat that reports observations. -/
structure Heartbeat where
  clusterPublicId : String
  sessionId : String
  sequence : ℕ
  observations : List RuntimeObservation
  complete : Bool

/-- A sequence number is positive and fits a signed word of 64 bits. -/
def SequenceValid (sequence : ℕ) : Prop := 0 < sequence ∧ sequence < 2 ^ 63
deriving Decidable

/-- The installation a heartbeat belongs to: active, with this session and this sequence number
as the last one touched. -/
def sessionOf (db : Db) (h : Heartbeat) : Except Err ℕ := do
  let cluster ← expect (db.installations.first fun _ r => r.publicId = h.clusterPublicId ∧
    r.status = .active) .agentIdentityMismatch
  require (cluster.2.controlSessionId = some h.sessionId ∧
    cluster.2.controlSessionSequence = h.sequence) .agentIdentityMismatch
  pure cluster.1

/-- The drift a snapshot repairs; an incomplete one repairs none. -/
def repairIfComplete (now : Time) (ids : ℕ → String) (db : Db) (clusterId : ℕ)
    (seen : List RuntimeObservation) (complete : Bool) : Except Err Db :=
  if complete = true then repairDrift now ids db clusterId seen else .ok db

/-- `ReconcileAgentObservations`. -/
def reconcileAgentObservations (now : Time) (ids : ℕ → String) (db : Db) (h : Heartbeat) :
    Except Err Db := do
  require (isBlank h.sessionId = false ∧ SequenceValid h.sequence) .agentIdentityMismatch
  let normalized ← normalizeRuntimeObservations h.observations
  let clusterId ← sessionOf db h
  repairIfComplete now ids (normalized.foldl (observe now clusterId) db) clusterId normalized
    h.complete

end Molejo.Store
