import Mathlib.Algebra.BigOperators.Group.List.Basic
import Mathlib.Algebra.Ring.Int.Defs
import Molejo.Store.Operation

/-!
# Volumes

A stateful environment has one volume, made in the transaction that makes the
environment. A volume is expanded or removed by changing its row and sending an
operation to the cluster; the row says what is desired, the Agent reports what is
observed. Removal is requested by setting `deletion_requested_at`, which no
transaction ever clears.
-/

namespace Molejo.Store

open Transaction Table

/-! ### Capacity -/

/-- `SUM(requested_size_gib)` over the volumes of a storage profile. -/
def globalUsed (db : Db) (profileId : String) : ℤ :=
  ((db.appVolumes.select fun _ v => v.storageProfileId = profileId).map
    fun r => r.2.requestedSizeGiB).sum

/-- `SUM(requested_size_gib)` over the volumes of a storage profile in one workspace. -/
def workspaceUsed (db : Db) (workspaceId : ℕ) (profileId : String) : ℤ :=
  ((db.appVolumes.select fun _ v => v.storageProfileId = profileId ∧
    v.workspaceId = workspaceId).map fun r => r.2.requestedSizeGiB).sum

/-- Growing the volumes of a profile by `delta` would exceed its capacity or the quota of the
workspace. -/
def OverCapacity (db : Db) (workspaceId : ℕ) (profile : StorageProfile) (delta : ℤ) : Prop :=
  profile.totalCapacityGiB < globalUsed db profile.profileId + delta ∨
    profile.workspaceQuotaGiB < workspaceUsed db workspaceId profile.profileId + delta
deriving Decidable

/-- The volume is attached: its environment is not archived and one of its deployments has not
failed. -/
def Attached (db : Db) (volumeId : ℕ) (v : AppVolume) : Prop :=
  (∃ ae ∈ db.appEnvironments.lookup v.appEnvironmentId, ae.archivedAt = none) ∧
    db.deployments.Any fun _ d => d.appVolumeId = some volumeId ∧
      (d.status = .pending ∨ d.status = .progressing ∨ d.status = .ready)
deriving Decidable

/-! ### Creating -/

/-- The identities a request draws for the volume it makes, and the digest of its payload. -/
structure VolumeIds where
  publicId : String
  operationPublicId : String
  payloadHash : Digest

/-- `app_volumes_mount_path_valid`: no control characters; the rest of the pattern was checked by
`ValidateVolumeRequest`. -/
def MountPathValid (path : String) : Prop :=
  ∀ c ∈ path.toList, 32 ≤ c.toNat ∧ c.toNat ≠ 127
deriving Decidable

/-- The row of a new volume. -/
def newVolume (workspaceId appEnvironmentId : ℕ) (request : VolumeRequest) (publicId : String)
    (binding : StorageBinding) : AppVolume where
  publicId := publicId
  workspaceId := workspaceId
  appEnvironmentId := appEnvironmentId
  storageProfileId := request.storageProfileId
  requestedSizeGiB := request.sizeGiB
  observedSizeGiB := 0
  mountPath := request.mountPath
  runtimeStorageClassName := binding.storageClassName
  storageBindingVersion := binding.version
  desiredState := .ready
  observedState := .pending
  message := ""
  version := 1
  deletionRequestedAt := none
  runtimeDesiredVersion := 0
  runtimeSpecHash := none
  runtimeReconciliationGeneration := 0

/-- `INSERT INTO app_volumes`. -/
def insertVolume (volumes : Table AppVolume) (v : AppVolume) : Except Err (Table AppVolume) := do
  require (0 < v.requestedSizeGiB ∧ MountPathValid v.mountPath) .database
  require (¬ volumes.Any fun _ w => w.publicId = v.publicId ∨
    w.appEnvironmentId = v.appEnvironmentId ∧ w.deletionRequestedAt = none) .conflict
  pure (volumes.insert v)

/-- Note on an environment that work on its storage is under way. -/
def storageProgress (message : String) (ae : AppEnvironment) : AppEnvironment :=
  { ae with lastState := .progressing, lastMessage := message }

/-- The operation that provisions a new volume. -/
def VolumeIds.operation (ids : VolumeIds) (workspaceId appEnvironmentId volumeId actorId : ℕ)
    (principalId : ℕ) : NewOperation where
  publicId := ids.operationPublicId
  workspaceId := workspaceId
  appEnvironmentId := some appEnvironmentId
  deploymentId := none
  appVolumeId := some volumeId
  requestedByUserId := some actorId
  requestedByPrincipalId := principalId
  kind := .ensureVolume
  idempotencyHash := sha256 ("ensure-volume:" ++ ids.publicId)
  payloadHash := ids.payloadHash
  desiredVersion := 1

/-- `createAppVolume`. -/
def createAppVolume (now : Time) (db : Db) (workspaceId actorId appEnvironmentId : ℕ)
    (ae : AppEnvironment) (request : VolumeRequest) (ids : VolumeIds) : Except Err Db := do
  let profile ← expect (db.storageProfiles.first fun _ p => p.profileId = request.storageProfileId)
    .storageProfileUnavailable
  require (profile.2.enabled = true ∧ profile.2.minimumSizeGiB ≤ request.sizeGiB ∧
    request.sizeGiB ≤ profile.2.maximumSizeGiB) .storageProfileUnavailable
  let binding ← expect (db.storageBindings.first fun _ b => some b.clusterId = ae.clusterId ∧
    b.storageProfileId = profile.2.profileId ∧ b.healthy = true ∧ now < b.expiresAt)
    .storageProfileUnavailable
  require (¬ OverCapacity db workspaceId profile.2 request.sizeGiB) .storageQuotaExceeded
  let volumes ← insertVolume db.appVolumes
    (newVolume workspaceId appEnvironmentId request ids.publicId binding.2)
  let principalId ← principalIdForUser db actorId
  let db ← insertOperationForPrincipal now { db with appVolumes := volumes } appEnvironmentId
    (ids.operation workspaceId appEnvironmentId db.appVolumes.nextId actorId principalId)
  pure { db with
    appEnvironments := db.appEnvironments.modify (fun i _ => i = appEnvironmentId)
      (storageProgress "persistent storage is being prepared") }

/-! ### Expanding and removing -/

/-- What a user's request to change a volume says. -/
structure VolumeChange where
  workspaceId : ℕ
  actorId : ℕ
  appEnvironmentPublicId : String
  expectedVersion : ℕ
  idempotencyHash : Digest
  payloadHash : Digest
  operationPublicId : String

/-- The volume of an environment, by the environment's public id, if it has the expected version
and its removal was not requested. -/
def volumeForChange (db : Db) (change : VolumeChange) : Except Err (ℕ × AppVolume) := do
  let r ← expect (db.appVolumes.first fun _ v => v.workspaceId = change.workspaceId ∧
    ∃ ae ∈ db.appEnvironments.lookup v.appEnvironmentId,
      ae.publicId = change.appEnvironmentPublicId) .notFound
  require (r.2.version = change.expectedVersion ∧ r.2.deletionRequestedAt = none) .versionConflict
  pure r

/-- The operation of a change, for the next version of the volume. -/
def VolumeChange.operation (change : VolumeChange) (principalId volumeId : ℕ) (v : AppVolume)
    (kind : OperationKind) : NewOperation where
  publicId := change.operationPublicId
  workspaceId := change.workspaceId
  appEnvironmentId := some v.appEnvironmentId
  deploymentId := none
  appVolumeId := some volumeId
  requestedByUserId := some change.actorId
  requestedByPrincipalId := principalId
  kind := kind
  idempotencyHash := change.idempotencyHash
  payloadHash := change.payloadHash
  desiredVersion := v.version + 1

/-- The row of a volume that is to grow. -/
def expandRow (requestedSizeGiB : ℤ) (v : AppVolume) : AppVolume :=
  { v with
    requestedSizeGiB := requestedSizeGiB
    observedState := .expanding
    message := ""
    version := v.version + 1 }

/-- The row of a volume that is to be removed. -/
def removeRow (now : Time) (v : AppVolume) : AppVolume :=
  { v with
    desiredState := .deleted
    deletionRequestedAt := some now
    version := v.version + 1 }

/-- The part of `ExpandAppVolume` after the idempotency key was found to be new. -/
def expandVolume (now : Time) (db : Db) (change : VolumeChange) (requestedSizeGiB : ℤ)
    (principalId : ℕ) : Except Err Db := do
  let (volumeId, v) ← volumeForChange db change
  let profile ← expect (db.storageProfiles.first fun _ p => p.profileId = v.storageProfileId ∧
    p.enabled = true) .storageProfileUnavailable
  require (profile.2.expandable = true ∧ v.requestedSizeGiB < requestedSizeGiB ∧
    requestedSizeGiB ≤ profile.2.maximumSizeGiB) .conflict
  require (¬ OverCapacity db change.workspaceId profile.2 (requestedSizeGiB - v.requestedSizeGiB))
    .storageQuotaExceeded
  let volumes := db.appVolumes.modify (fun i _ => i = volumeId) (expandRow requestedSizeGiB)
  let db ← (insertOperationForPrincipal now { db with appVolumes := volumes } v.appEnvironmentId
    (change.operation principalId volumeId v .expandVolume)).mapError translateDBError
  pure { db with
    appEnvironments := db.appEnvironments.modify (fun i _ => i = v.appEnvironmentId)
      (storageProgress "persistent storage is being expanded") }

/-- The part of `DeleteAppVolume` after the idempotency key was found to be new. -/
def deleteVolume (now : Time) (db : Db) (change : VolumeChange) (principalId : ℕ) :
    Except Err Db := do
  let (volumeId, v) ← volumeForChange db change
  require (¬ Attached db volumeId v) .volumeAttached
  let volumes := db.appVolumes.modify (fun i _ => i = volumeId) (removeRow now)
  let db ← (insertOperationForPrincipal now { db with appVolumes := volumes } v.appEnvironmentId
    (change.operation principalId volumeId v .deleteVolume)).mapError translateDBError
  pure { db with
    appEnvironments := db.appEnvironments.modify
      (fun i ae => i = v.appEnvironmentId ∧ ae.archivedAt = none)
      (storageProgress "persistent storage removal is in progress") }

/-- A change asked for before is answered from the operation it made; a new one is carried out. -/
def changeVolume (db : Db) (change : VolumeChange) (carryOut : ℕ → Except Err Db) :
    Except Err Db := do
  let principalId ← principalIdForUser db change.actorId
  let existing ← operationByPrincipalIdempotency db change.workspaceId principalId
    change.idempotencyHash change.payloadHash
  match existing with
  | some _ => pure db
  | none => carryOut principalId

/-- `ExpandAppVolume`. -/
def expandAppVolume (now : Time) (db : Db) (change : VolumeChange) (requestedSizeGiB : ℤ) :
    Except Err Db :=
  changeVolume db change (expandVolume now db change requestedSizeGiB)

/-- `DeleteAppVolume`. -/
def deleteAppVolume (now : Time) (db : Db) (change : VolumeChange) : Except Err Db :=
  changeVolume db change (deleteVolume now db change)

/-! ### What a committed transaction did -/

section Specs

variable {now : Time} {db db' : Db} {change : VolumeChange}

/-- What creating a volume does: the volume, its first operation, a note on the environment. -/
theorem createAppVolume_eq_ok {workspaceId actorId appEnvironmentId : ℕ} {ae : AppEnvironment}
    {request : VolumeRequest} {ids : VolumeIds}
    (h : createAppVolume now db workspaceId actorId appEnvironmentId ae request ids = .ok db') :
    ∃ binding principalId cluster o, (¬ db.appVolumes.Any fun _ w => w.publicId = ids.publicId ∨
        w.appEnvironmentId = appEnvironmentId ∧ w.deletionRequestedAt = none) ∧
      principalIdForUser db actorId = .ok principalId ∧
      o = (ids.operation workspaceId appEnvironmentId db.appVolumes.nextId actorId
        principalId).row now cluster ∧
      (Insertable db.operations o ∧ PlacedOn db appEnvironmentId cluster) ∧
      db' =
        { db with
          appVolumes := db.appVolumes.insert
            (newVolume workspaceId appEnvironmentId request ids.publicId binding)
          operations := db.operations.insert o
          appEnvironments := db.appEnvironments.modify (fun i _ => i = appEnvironmentId)
            (storageProgress "persistent storage is being prepared") } := by
  simp only [createAppVolume, ok_iff, insertVolume, insertOperationForPrincipal_eq_ok] at h
  obtain ⟨_, -, -, binding, -, -, _, ⟨-, hn, rfl⟩, principalId, hp, _,
    ⟨cluster, hc, hi, rfl⟩, rfl⟩ := h
  exact ⟨binding.2, principalId, cluster, _, hn, hp, rfl, ⟨hi, hc⟩, rfl⟩

theorem volumeForChange_eq_ok {r : ℕ × AppVolume} (h : volumeForChange db change = .ok r) :
    db.appVolumes.lookup r.1 = some r.2 ∧ r.2.workspaceId = change.workspaceId ∧
      (∃ ae, db.appEnvironments.lookup r.2.appEnvironmentId = some ae ∧
        ae.publicId = change.appEnvironmentPublicId) ∧
      r.2.version = change.expectedVersion ∧ r.2.deletionRequestedAt = none := by
  simp only [volumeForChange, ok_iff] at h
  obtain ⟨_, hf, ⟨hv, hd⟩, rfl⟩ := h
  obtain ⟨hw, hae⟩ := pos_of_first hf
  exact ⟨lookup_of_first hf, hw, hae, hv, hd⟩

/-- A change either was made before, and changes nothing, or is carried out. -/
theorem changeVolume_eq_ok {carryOut : ℕ → Except Err Db}
    (h : changeVolume db change carryOut = .ok db') :
    db' = db ∨ ∃ principalId, principalIdForUser db change.actorId = .ok principalId ∧
      carryOut principalId = .ok db' := by
  simp only [changeVolume, bind_eq_ok] at h
  obtain ⟨principalId, hp, existing, -, h⟩ := h
  cases existing with
  | some =>
    cases h
    exact .inl rfl
  | none => exact .inr ⟨principalId, hp, h⟩

end Specs

end Molejo.Store
