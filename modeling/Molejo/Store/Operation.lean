import Molejo.Store.Publication

/-!
# Operations

An operation is a piece of work for the Agent of one cluster. It is inserted
`Pending` by the transaction that wants the work done, *claimed* by a worker – which
makes it `Running` under a lease and gives it a new fencing token – and then
completed, failed, released, or claimed again once its lease has expired.

A worker does not pass the row back. It passes the `domain.Operation` it was given
when it claimed the row or reloaded it, here a `ClaimedOperation`: the key and the
columns as they were then. Completing and failing check the lease against that
copy; everything else they do is done by what the copy says.
-/

namespace Molejo.Store

open Transaction Table

/-! ### Inserting -/

/-- The constraint `operations_target_valid`. -/
def TargetValid (o : Operation) : Prop :=
  (o.kind = .ensureWorkspace ∧
    o.appEnvironmentId = none ∧ o.deploymentId = none ∧ o.appVolumeId = none) ∨
  (o.kind = .applyDeployment ∧
    o.appEnvironmentId ≠ none ∧ o.deploymentId ≠ none ∧ o.appVolumeId = none) ∨
  (o.kind = .deleteAppEnvironment ∧
    o.appEnvironmentId ≠ none ∧ o.deploymentId = none ∧ o.appVolumeId = none) ∨
  (o.kind ∈ [.ensureVolume, .expandVolume, .deleteVolume] ∧
    o.appEnvironmentId ≠ none ∧ o.deploymentId = none ∧ o.appVolumeId ≠ none)
deriving Decidable

/-- Some unique index of `operations` other than the one on public ids refuses `new`: an active
operation of the same environment, an active `EnsureWorkspace` for the same workspace and
cluster, or one with the same idempotency key of the same user or principal. -/
def OperationTaken (operations : Table Operation) (new : Operation) : Prop :=
  operations.Any fun _ o =>
    (o.Active ∧ o.appEnvironmentId ≠ none ∧ o.appEnvironmentId = new.appEnvironmentId) ∨
    (o.Active ∧ o.kind = .ensureWorkspace ∧ new.kind = .ensureWorkspace ∧
      o.workspaceId = new.workspaceId ∧ o.agentInstallationId = new.agentInstallationId ∧
      o.agentInstallationId ≠ none) ∨
    (o.workspaceId = new.workspaceId ∧ o.idempotencyHash = new.idempotencyHash ∧
      (o.requestedByPrincipalId = new.requestedByPrincipalId ∨
        o.requestedByUserId ≠ none ∧ o.requestedByUserId = new.requestedByUserId))
deriving Decidable

/-- What the inserting transaction says about a new operation. -/
structure NewOperation where
  publicId : String
  workspaceId : ℕ
  appEnvironmentId : Option ℕ
  deploymentId : Option ℕ
  appVolumeId : Option ℕ
  requestedByUserId : Option ℕ
  requestedByPrincipalId : ℕ
  kind : OperationKind
  idempotencyHash : Digest
  payloadHash : Digest
  desiredVersion : ℕ

/-- The row of a new operation: `Pending`, never attempted, due now. -/
def NewOperation.row (n : NewOperation) (now : Time) (cluster : ℕ) : Operation where
  publicId := n.publicId
  workspaceId := n.workspaceId
  appEnvironmentId := n.appEnvironmentId
  deploymentId := n.deploymentId
  appVolumeId := n.appVolumeId
  agentInstallationId := some cluster
  requestedByUserId := n.requestedByUserId
  requestedByPrincipalId := n.requestedByPrincipalId
  kind := n.kind
  status := .pending
  idempotencyHash := n.idempotencyHash
  payloadHash := n.payloadHash
  desiredVersion := n.desiredVersion
  attempts := 0
  nextAttemptAt := now
  leaseUntil := none
  workerId := none
  fencingToken := 0
  errorCode := ""
  errorMessage := ""
  startedAt := none
  completedAt := none

/-- `INSERT INTO operations`. The public id is the last one drawn: a collision after the third
draw fails the transaction. -/
def insertRow (operations : Table Operation) (new : Operation) : Except Err (Table Operation) := do
  require (¬ operations.Any fun _ o => o.publicId = new.publicId) .publicIDCollision
  require (0 < new.desiredVersion ∧ TargetValid new) .database
  require (¬ OperationTaken operations new) .uniqueViolation
  pure (operations.insert new)

/-- `principalIDForUser`. -/
def principalIdForUser (db : Db) (userId : ℕ) : Except Err ℕ := do
  let user ← expect (db.users.lookup userId) .database
  pure user.principalId

/-- The cluster of an environment, which every operation on it is sent to. -/
def clusterOf (db : Db) (appEnvironmentId : ℕ) : Except Err ℕ :=
  expect ((db.appEnvironments.lookup appEnvironmentId).bind AppEnvironment.clusterId)
    .agentUnavailable

/-- The environment is on the cluster. -/
def PlacedOn (db : Db) (appEnvironmentId cluster : ℕ) : Prop :=
  (db.appEnvironments.lookup appEnvironmentId).bind AppEnvironment.clusterId = some cluster

/-- The cluster is there and its status is `Active`. -/
def ClusterActive (db : Db) (cluster : ℕ) : Prop :=
  ∃ r, db.installations.lookup cluster = some r ∧ r.status = .active

/-- `insertOperationForPrincipal` and `insertVolumeOperation`: an operation on an environment.
The second leaves the principal to the trigger, which takes it from the user. -/
def insertOperationForPrincipal (now : Time) (db : Db) (appEnvironmentId : ℕ)
    (new : NewOperation) : Except Err Db := do
  let cluster ← clusterOf db appEnvironmentId
  let operations ← insertRow db.operations (new.row now cluster)
  pure { db with operations := operations }

/-- `operationByPrincipalIdempotency`: the operation an earlier request with the same key made,
if its payload is the same. -/
def operationByPrincipalIdempotency (db : Db) (workspaceId principalId : ℕ)
    (idempotencyHash payloadHash : Digest) : Except Err (Option (ℕ × Operation)) :=
  match db.operations.first fun _ o => o.workspaceId = workspaceId ∧
      o.requestedByPrincipalId = principalId ∧ o.idempotencyHash = idempotencyHash with
  | none => .ok none
  | some r =>
    if r.2.payloadHash = payloadHash then .ok (some r) else .error .idempotencyConflict

/-- Some operation of the environment is `Pending` or `Running`. -/
def HasActiveOperation (operations : Table Operation) (appEnvironmentId : ℕ) : Prop :=
  operations.Any fun _ o => o.appEnvironmentId = some appEnvironmentId ∧ o.Active
deriving Decidable

/-- The user or the principal has used the key in the workspace. -/
def KeyTaken (operations : Table Operation) (workspaceId : ℕ) (userId : Option ℕ)
    (principalId : ℕ) (key : Digest) : Prop :=
  operations.Any fun _ o => o.workspaceId = workspaceId ∧ o.idempotencyHash = key ∧
    (o.requestedByPrincipalId = principalId ∨
      o.requestedByUserId ≠ none ∧ o.requestedByUserId = userId)
deriving Decidable

/-! ### Claiming -/

/-- `domain.Operation` as a worker holds it: the key of a row and its columns when it was read. -/
abbrev ClaimedOperation := ℕ × Operation

/-- `NOT EXISTS` of the claiming query: another operation of the same cluster is running under a
lease that has not expired. A row without a cluster blocks nothing. -/
def ClusterBusy (now : Time) (operations : Table Operation) (i : ℕ) (o : Operation) : Prop :=
  operations.Any fun j active =>
    active.agentInstallationId ≠ none ∧ active.agentInstallationId = o.agentInstallationId ∧
      active.status = .running ∧ (∃ t ∈ active.leaseUntil, now ≤ t) ∧ j ≠ i
deriving Decidable

/-- The condition of the claiming query, for the cluster with the public id `installation`, or
for any cluster if that is empty. -/
def Claimable (now : Time) (db : Db) (installation : String) (i : ℕ) (o : Operation) : Prop :=
  (o.status = .pending ∨ o.status = .running ∧ ∃ t ∈ o.leaseUntil, t < now) ∧
  o.nextAttemptAt ≤ now ∧
  (installation = "" ∨ ∃ r ∈ o.agentInstallationId.bind db.installations.lookup,
    r.publicId = installation) ∧
  ¬ ClusterBusy now db.operations i o
deriving Decidable

/-- The row of a claimed operation. -/
def claimRow (now lease : Time) (worker : String) (o : Operation) : Operation :=
  { o with
    status := .running
    attempts := o.attempts + 1
    startedAt := some (o.startedAt.getD now)
    leaseUntil := some (now + lease)
    workerId := some worker
    fencingToken := o.fencingToken + 1 }

/-- What claiming an operation does to the row it is about: a workspace being prepared, a volume
being provisioned, a deployment in progress. -/
def startWork (now : Time) (db : Db) (o : Operation) : Except Err Db :=
  match o.kind with
  | .ensureWorkspace => pure
    { db with
      workspaceClusters := db.workspaceClusters.modify
        (fun _ wc => wc.workspaceId = o.workspaceId ∧
          some wc.installationId = o.agentInstallationId)
        fun wc => { wc with state := .running, message := "" }
      workspaces := db.workspaces.modify
        (fun i w => i = o.workspaceId ∧ w.bootstrapState = .pending)
        fun w => { w with bootstrapState := .running } }
  | .deleteAppEnvironment => do
    let _ ← expect (o.appEnvironmentId.bind db.appEnvironments.lookup) .database
    pure db
  | .ensureVolume | .expandVolume | .deleteVolume => do
    let _ ← expect (o.appEnvironmentId.bind db.appEnvironments.lookup) .database
    let _ ← expect (o.appVolumeId.bind db.appVolumes.lookup) .database
    pure { db with
      appVolumes := db.appVolumes.modify (fun i _ => some i = o.appVolumeId) fun v =>
        { v with observedState := if o.kind = .expandVolume then .expanding else .provisioning } }
  | .applyDeployment => do
    let _ ← expect (o.appEnvironmentId.bind db.appEnvironments.lookup) .database
    let _ ← expect (o.deploymentId.bind db.deployments.lookup) .database
    pure { db with
      deployments := db.deployments.modify (fun i _ => some i = o.deploymentId) fun d =>
        { d with status := .progressing, startedAt := some (d.startedAt.getD now) } }

/-- `claimNext`: the first operation that can be claimed, and the database with it claimed;
`none` if there is none. -/
def claimNext (now lease : Time) (worker installation : String) (db : Db) :
    Except Err (Option (Db × ClaimedOperation)) :=
  match db.operations.first fun i o => Claimable now db installation i o with
  | none => .ok none
  | some (i, o) => do
    let claimed := claimRow now lease worker o
    let db ← startWork now
      { db with operations := db.operations.modify (fun j _ => j = i) fun _ => claimed } claimed
    pure (some (db, (i, claimed)))

/-- `ClaimNextForAgent`: a worker of an Agent claims for its own cluster only. -/
def claimNextForAgent (now lease : Time) (worker installation : String) (db : Db) :
    Except Err (Option (Db × ClaimedOperation)) := do
  require (installation ≠ "") .agentUnavailable
  claimNext now lease worker installation db

/-- `ClaimedOperationForAgent`: the running operation with that public id and fencing token, if
the Agent of the cluster still holds its lease. -/
def claimedOperationForAgent (now : Time) (installation operationPublicId : String)
    (fencingToken : ℕ) (db : Db) : Except Err ClaimedOperation :=
  expect (db.operations.first fun _ o =>
    (∃ r ∈ o.agentInstallationId.bind db.installations.lookup, r.publicId = installation) ∧
    o.publicId = operationPublicId ∧ o.status = .running ∧
    o.workerId = some ("agent:" ++ installation) ∧ o.fencingToken = fencingToken ∧
    ∃ t ∈ o.leaseUntil, now < t) .leaseLost

/-! ### What a committed transaction did -/

section Specs

variable {now lease : Time} {db db' : Db} {i : ℕ} {o : Operation}

/-- The constraints of `operations` admit a new row. -/
structure Insertable (operations : Table Operation) (new : Operation) : Prop where
  publicId : ¬ operations.Any fun _ o => o.publicId = new.publicId
  desiredVersion : 0 < new.desiredVersion
  target : TargetValid new
  free : ¬ OperationTaken operations new

theorem insertRow_eq_ok {operations operations' : Table Operation} {new : Operation} :
    insertRow operations new = .ok operations' ↔
      Insertable operations new ∧ operations' = operations.insert new := by
  simp only [insertRow, ok_iff]
  constructor
  · rintro ⟨hp, ⟨hd, ht⟩, hf, rfl⟩
    exact ⟨⟨hp, hd, ht, hf⟩, rfl⟩
  · rintro ⟨⟨hp, hd, ht, hf⟩, rfl⟩
    exact ⟨hp, ⟨hd, ht⟩, hf, rfl⟩

/-- What the indexes refuse of an operation on an environment. -/
theorem operationTaken_iff {operations : Table Operation} {new : Operation} {e : ℕ}
    (he : new.appEnvironmentId = some e) (hk : new.kind ≠ .ensureWorkspace) :
    OperationTaken operations new ↔ HasActiveOperation operations e ∨
      KeyTaken operations new.workspaceId new.requestedByUserId new.requestedByPrincipalId
        new.idempotencyHash := by
  simp only [OperationTaken, HasActiveOperation, KeyTaken, any_iff]
  constructor
  · rintro ⟨i, o, hl, ⟨ha, -, hoe⟩ | ⟨-, -, hw, -⟩ | hkey⟩
    · exact .inl ⟨i, o, hl, hoe.trans he, ha⟩
    · exact absurd hw hk
    · exact .inr ⟨i, o, hl, hkey⟩
  · rintro (⟨i, o, hl, hoe, ha⟩ | ⟨i, o, hl, hkey⟩)
    · exact ⟨i, o, hl, .inl ⟨ha, by simp [hoe], hoe.trans he.symm⟩⟩
    · exact ⟨i, o, hl, .inr (.inr hkey)⟩

theorem principalIdForUser_eq_ok {userId principalId : ℕ} :
    principalIdForUser db userId = .ok principalId ↔
      ∃ u, db.users.lookup userId = some u ∧ u.principalId = principalId := by
  simp only [principalIdForUser, ok_iff]

/-- An inserted operation goes to the cluster of its environment, and nothing else changes. -/
theorem insertOperationForPrincipal_eq_ok {appEnvironmentId : ℕ} {new : NewOperation} :
    insertOperationForPrincipal now db appEnvironmentId new = .ok db' ↔
      ∃ cluster, PlacedOn db appEnvironmentId cluster ∧
        Insertable db.operations (new.row now cluster) ∧
        db' = { db with operations := db.operations.insert (new.row now cluster) } := by
  simp only [insertOperationForPrincipal, clusterOf, PlacedOn, ok_iff, insertRow_eq_ok]
  constructor
  · rintro ⟨cluster, hc, _, ⟨hi, rfl⟩, rfl⟩
    exact ⟨cluster, hc, hi, rfl⟩
  · rintro ⟨cluster, hc, hi, rfl⟩
    exact ⟨cluster, hc, _, ⟨hi, rfl⟩, rfl⟩

/-- **What starting work writes**: the placement of the workspace, nothing, the reported state
of the volume, or the status of the deployment. -/
theorem startWork_cases (h : startWork now db o = .ok db') :
    (∃ clusters, db' =
        { db with
          workspaceClusters := clusters
          workspaces := db.workspaces.modify
            (fun i w => i = o.workspaceId ∧ w.bootstrapState = .pending)
            fun w => { w with bootstrapState := .running } }) ∨
      db' = db ∨
      (∃ state, db' =
        { db with
          appVolumes := db.appVolumes.modify (fun i _ => some i = o.appVolumeId)
            fun v => { v with observedState := state } }) ∨
      o.kind = .applyDeployment ∧ db' =
        { db with
          deployments := db.deployments.modify (fun i _ => some i = o.deploymentId) fun d =>
            { d with status := .progressing, startedAt := some (d.startedAt.getD now) } } := by
  unfold startWork at h
  cases hk : o.kind with
  | ensureWorkspace =>
    simp only [hk, pure_eq_ok] at h
    exact .inl ⟨_, h.symm⟩
  | deleteAppEnvironment =>
    simp only [hk, ok_iff] at h
    obtain ⟨_, -, rfl⟩ := h
    exact .inr (.inl rfl)
  | applyDeployment =>
    simp only [hk, ok_iff] at h
    obtain ⟨_, -, _, -, rfl⟩ := h
    exact .inr (.inr (.inr ⟨rfl, rfl⟩))
  | ensureVolume | expandVolume | deleteVolume =>
    simp only [hk, ok_iff] at h
    obtain ⟨_, -, _, -, rfl⟩ := h
    exact .inr (.inr (.inl ⟨_, rfl⟩))

/-- So it leaves the operations, the environments and the claims alone. -/
theorem startWork_eq_ok (h : startWork now db o = .ok db') :
    db'.operations = db.operations ∧ db'.appEnvironments = db.appEnvironments ∧
      db'.publicationClaims = db.publicationClaims ∧ db'.revisions = db.revisions ∧
      (∃ workspaces, db'.toSurroundings = { db.toSurroundings with workspaces := workspaces }) ∧
      db'.installations = db.installations ∧ db'.boundParameters = db.boundParameters := by
  rcases startWork_cases h with ⟨_, rfl⟩ | rfl | ⟨_, rfl⟩ | ⟨-, rfl⟩ <;>
    exact ⟨rfl, rfl, rfl, rfl, ⟨_, rfl⟩, rfl, rfl⟩

/-- **What a claim does.** The operation claimed met the condition of the query, and its row is
the claimed one; what else changes is `startWork`. -/
theorem claimNext_eq_ok {worker installation : String} {op : ClaimedOperation}
    (h : claimNext now lease worker installation db = .ok (some (db', op))) :
    ∃ o, db.operations.lookup op.1 = some o ∧ Claimable now db installation op.1 o ∧
      op.2 = claimRow now lease worker o ∧
      startWork now
        { db with operations := db.operations.modify (fun j _ => j = op.1) fun _ => op.2 } op.2 =
          .ok db' := by
  unfold claimNext at h
  split at h
  · cases h
  · rename_i i o hf
    simp only [ok_iff, Option.some.injEq, Prod.mk.injEq] at h
    obtain ⟨_, hs, rfl, rfl⟩ := h
    exact ⟨o, lookup_of_first hf, pos_of_first hf, rfl, hs⟩

end Specs

end Molejo.Store
