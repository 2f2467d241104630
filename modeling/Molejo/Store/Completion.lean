import Molejo.Store.Operation

/-!
# Completing, failing and releasing operations

A worker that has claimed an operation ends its claim in one of three ways. It
completes it, which makes the operation `Succeeded` and applies what the work was
for: a deployment is ready and live, a volume has its size, an environment is
archived. It fails it, which makes it due again or, for good, `Failed`. Or it
releases everything it runs when it stops.

The first two are guarded by `LeaseHeld`, which compares the row with the copy the
worker holds; the statement that ends the lease is the first of the transaction, so
that nothing else is done without it. Releasing is not guarded by a token.
-/

namespace Molejo.Store

open Transaction

variable {message specHash : String}

/-! ### The lease -/

/-- The row `i` is the running operation that `op` was read from, under a lease that has not
expired: the guard of every completing and failing statement. -/
def LeaseHeld (now : Time) (op : ClaimedOperation) (i : ℕ) (o : Operation) : Prop :=
  i = op.1 ∧ o.status = .running ∧ (o.workerId ≠ none ∧ o.workerId = op.2.workerId) ∧
    o.fencingToken = op.2.fencingToken ∧ ∃ t ∈ o.leaseUntil, now < t
deriving Decidable

/-- The row of a completed operation. -/
def succeedRow (now : Time) (o : Operation) : Operation :=
  { o with
    status := .succeeded
    completedAt := some now
    leaseUntil := none
    workerId := none
    errorCode := ""
    errorMessage := "" }

/-- `completeOperationLease`. -/
def completeOperationLease (now : Time) (db : Db) (op : ClaimedOperation) : Except Err Db := do
  require (db.operations.Any (LeaseHeld now op)) .leaseLost
  pure { db with operations := db.operations.modify (LeaseHeld now op) fun o => succeedRow now o }

/-! ### Completing -/

/-- What the volume of a stateful deployment reported: `deploymentVolumeCompletion`. -/
structure VolumeCompletion where
  message : String
  observedSizeGiB : ℤ
deriving DecidableEq

/-- The constraint `app_volumes_size_valid` on an observed size. -/
def SizeValid (v : AppVolume) (observedSizeGiB : ℤ) : Prop :=
  0 ≤ observedSizeGiB ∧ observedSizeGiB ≤ v.requestedSizeGiB
deriving Decidable

/-- The row of a deployment that has been applied. -/
def readyRow (now : Time) (message observedRelease : String) (d : Deployment) : Deployment :=
  { d with
    status := .ready
    message := message
    observedRelease := observedRelease
    completedAt := some now }

/-- The row of an environment whose desired deployment has been applied. -/
def currentRow (deploymentId releaseId : ℕ) (message : String) (desiredVersion : ℕ)
    (specHash : String) (ae : AppEnvironment) : AppEnvironment :=
  { ae with
    currentDeploymentId := some deploymentId
    currentReleaseId := some releaseId
    lastState := .ready
    lastMessage := message
    runtimeDesiredVersion := desiredVersion
    runtimeSpecHash := some specHash }

/-- The environment of an operation still desires the operation's deployment. -/
def StillDesired (op : Operation) (deploymentId i : ℕ) (ae : AppEnvironment) : Prop :=
  some i = op.appEnvironmentId ∧ ae.desiredDeploymentId = some deploymentId
deriving Decidable

/-- The part of `completeDeployment` about the deployment and its environment: the deployment is
ready, and it is the current one if it is still the desired one. -/
def finishDeployment (now : Time) (db : Db) (op : Operation) (deploymentId : ℕ)
    (d : Deployment) (message observedRelease specHash : String) : Except Err Db := do
  require (some d.appEnvironmentId = op.appEnvironmentId) .leaseLost
  require (SpecHashValid specHash ∨ ¬ db.appEnvironments.Any (StillDesired op deploymentId))
    .database
  pure { db with
    deployments := db.deployments.modify (fun i _ => i = deploymentId)
      (readyRow now message observedRelease)
    appEnvironments := db.appEnvironments.modify (StillDesired op deploymentId)
      (currentRow deploymentId d.releaseId message op.desiredVersion specHash) }

/-- The row of a volume that a deployment has mounted. -/
def mountedRow (c : VolumeCompletion) (v : AppVolume) : AppVolume :=
  { v with
    observedState := .ready
    message := c.message
    observedSizeGiB := c.observedSizeGiB }

/-- The part of `completeDeployment` about the volume of a stateful deployment. -/
def finishVolume (db : Db) (op : Operation) (d : Deployment) :
    Option VolumeCompletion → Except Err Db
  | none => .ok db
  | some volume => do
    let v ← expect (d.appVolumeId.bind db.appVolumes.lookup) .leaseLost
    require (some v.appEnvironmentId = op.appEnvironmentId ∧ SizeValid v volume.observedSizeGiB)
      .leaseLost
    pure { db with
      appVolumes := db.appVolumes.modify (fun i _ => some i = d.appVolumeId)
        (mountedRow volume) }

/-- The part of `completeDeployment` about publication: the deployment's endpoints go live. -/
def goLive (policy : PublicationPolicy) (db : Db) (appEnvironmentId : ℕ) (d : Deployment) :
    Except Err Db := do
  let claims ← activatePublicationClaims policy db.publicationClaims appEnvironmentId
    d.configurationVersion d.workloadKind d.configuration
  pure { db with publicationClaims := claims }

/-- `completeDeployment`. -/
def completeDeployment (policy : PublicationPolicy) (now : Time) (db : Db)
    (op : ClaimedOperation) (message observedRelease specHash : String)
    (volume : Option VolumeCompletion) : Except Err Db := do
  let db ← completeOperationLease now db op
  let deploymentId ← expect op.2.deploymentId .database
  let appEnvironmentId ← expect op.2.appEnvironmentId .database
  let d ← expect (db.deployments.lookup deploymentId) .database
  let db ← finishDeployment now db op.2 deploymentId d message observedRelease specHash
  let db ← finishVolume db op.2 d volume
  goLive policy db appEnvironmentId d

/-- The environment of an operation is to be deleted and is not archived yet. -/
def Deleting (op : Operation) (i : ℕ) (ae : AppEnvironment) : Prop :=
  some i = op.appEnvironmentId ∧ ae.deletionRequestedAt ≠ none ∧ ae.archivedAt = none
deriving Decidable

/-- The row of an archived environment. -/
def archiveRow (now : Time) (message : String) (ae : AppEnvironment) : AppEnvironment :=
  { ae with archivedAt := some now, lastMessage := message }

/-- `CompleteAppEnvironmentDeletion`. -/
def completeAppEnvironmentDeletion (now : Time) (db : Db) (op : ClaimedOperation)
    (message : String) : Except Err Db := do
  let db ← completeOperationLease now db op
  require (db.appEnvironments.Any (Deleting op.2)) .leaseLost
  pure { db with
    appEnvironments := db.appEnvironments.modify (Deleting op.2) (archiveRow now message)
    publicationClaims := db.publicationClaims.delete fun _ c =>
      some c.appEnvironmentId = op.2.appEnvironmentId }

/-- `CompleteWorkspace`. -/
def completeWorkspace (now : Time) (db : Db) (op : ClaimedOperation) : Except Err Db := do
  let db ← completeOperationLease now db op
  pure { db with
    workspaceClusters := db.workspaceClusters.modify
      (fun _ wc => wc.workspaceId = op.2.workspaceId ∧
        some wc.installationId = op.2.agentInstallationId)
      fun wc =>
        { wc with
          state := .ready
          message := ""
          observedGeneration := max wc.observedGeneration 1 }
    workspaces := db.workspaces.modify (fun i _ => i = op.2.workspaceId) fun w =>
      { w with bootstrapState := .ready } }

/-- The environment's state once its volume is ready, or will be bound by the first deployment. -/
def settleEnvironment (ae : AppEnvironment) (state : VolumeState) : AppEnvironment :=
  match state with
  | .ready =>
    if ae.currentDeploymentId = none then
      { ae with
        lastState := .pending
        lastMessage := "persistent storage is ready; no release is deployed" }
    else { ae with lastState := .ready, lastMessage := "" }
  | .provisioning =>
    { ae with
      lastState := .pending
      lastMessage := "persistent storage will bind during the first deployment" }
  | _ => ae

/-- The row of a volume whose operation was completed. -/
def preparedRow (state : VolumeState) (message : String) (observedSizeGiB : ℤ)
    (desiredVersion : ℕ) (specHash : String) (v : AppVolume) : AppVolume :=
  { v with
    observedState := state
    message := message
    observedSizeGiB := observedSizeGiB
    runtimeDesiredVersion := desiredVersion
    runtimeSpecHash := some specHash }

/-- `CompleteVolume`. A state or size the table does not admit loses the lease, like a volume
that has moved on to another version. -/
def completeVolume (now : Time) (db : Db) (op : ClaimedOperation) (state message : String)
    (observedSizeGiB : ℤ) (specHash : String) : Except Err Db := do
  let db ← completeOperationLease now db op
  let state ← expect (VolumeState.ofString? state) .leaseLost
  let v ← expect (op.2.appVolumeId.bind db.appVolumes.lookup) .leaseLost
  require (v.version = op.2.desiredVersion ∧ SizeValid v observedSizeGiB ∧
    SpecHashValid specHash) .leaseLost
  pure { db with
    appVolumes := db.appVolumes.modify (fun i _ => some i = op.2.appVolumeId)
      (preparedRow state message observedSizeGiB op.2.desiredVersion specHash)
    appEnvironments := db.appEnvironments.modify
      (fun i ae => some i = op.2.appEnvironmentId ∧ ae.archivedAt = none)
      fun ae => settleEnvironment ae state }

/-! ### Failing and releasing -/

/-- The row of an operation that is tried again: due after a delay that doubles with every
attempt, and is never more than five minutes. -/
def retryRow (now : Time) (code message : String) (o : Operation) : Operation :=
  { o with
    status := .pending
    nextAttemptAt := now + min 300 (2 ^ o.attempts)
    completedAt := none
    leaseUntil := none
    workerId := none
    errorCode := code
    errorMessage := message }

/-- The row of an operation that failed for good. -/
def failRow (now : Time) (code message : String) (o : Operation) : Operation :=
  { o with
    status := .failed
    completedAt := some now
    leaseUntil := none
    workerId := none
    errorCode := code
    errorMessage := message }

/-- Mark an environment as degraded. -/
def degrade (message : String) (ae : AppEnvironment) : AppEnvironment :=
  { ae with lastState := .degraded, lastMessage := message }

/-- What the final failure of an operation does to the row it is about. -/
def reportFailure (now : Time) (db : Db) (op : Operation) (message : String) : Db :=
  match op.kind with
  | .ensureWorkspace =>
    let clusters := db.workspaceClusters.modify
      (fun _ wc => wc.workspaceId = op.workspaceId ∧
        some wc.installationId = op.agentInstallationId)
      fun wc => { wc with state := .failed, message := message }
    { db with
      workspaceClusters := clusters
      workspaces := db.workspaces.modify (fun i _ => i = op.workspaceId) fun w =>
        { w with bootstrapState :=
          if clusters.Any fun _ wc => wc.workspaceId = op.workspaceId ∧ wc.state = .ready
          then .ready else .failed } }
  | .applyDeployment =>
    { db with
      deployments := db.deployments.modify (fun i _ => some i = op.deploymentId) fun d =>
        { d with status := .degraded, message := message, completedAt := some now }
      appEnvironments := db.appEnvironments.modify
        (fun i ae => some i = op.appEnvironmentId ∧ ae.desiredDeploymentId ≠ none ∧
          ae.desiredDeploymentId = op.deploymentId)
        (degrade message) }
  | .deleteAppEnvironment =>
    { db with
      appEnvironments := db.appEnvironments.modify (fun i _ => some i = op.appEnvironmentId)
        (degrade message) }
  | .ensureVolume | .expandVolume | .deleteVolume =>
    { db with
      appVolumes := db.appVolumes.modify (fun i _ => some i = op.appVolumeId) fun v =>
        { v with observedState := .degraded, message := message }
      appEnvironments := db.appEnvironments.modify
        (fun i ae => some i = op.appEnvironmentId ∧ ae.archivedAt = none) (degrade message) }

/-- `Fail` tries again: the failure may be temporary and the worker saw fewer than eight
attempts. -/
def Retries (op : Operation) (retry : Bool) : Prop :=
  retry = true ∧ op.attempts < 8
deriving Decidable

/-- `Fail`. -/
def fail (now : Time) (db : Db) (op : ClaimedOperation) (code message : String) (retry : Bool) :
    Except Err Db := do
  require (db.operations.Any (LeaseHeld now op)) .leaseLost
  if Retries op.2 retry then
    pure { db with
      operations := db.operations.modify (LeaseHeld now op) (retryRow now code message) }
  else
    pure (reportFailure now
      { db with operations := db.operations.modify (LeaseHeld now op) (failRow now code message) }
      op.2 message)

/-- The row of a released operation. -/
def releaseRow (now : Time) (o : Operation) : Operation :=
  { o with status := .pending, nextAttemptAt := now, leaseUntil := none, workerId := none }

/-- `ReleaseClaims`: everything the worker runs is due again at once. -/
def releaseClaims (now : Time) (db : Db) (worker : String) : Db :=
  { db with
    operations := db.operations.modify
      (fun _ o => o.status = .running ∧ o.workerId = some worker) (releaseRow now) }

/-! ### What a committed transaction did -/

section Specs

variable {policy : PublicationPolicy} {now : Time} {db db' : Db} {op : ClaimedOperation}

theorem completeOperationLease_eq_ok :
    completeOperationLease now db op = .ok db' ↔ db.operations.Any (LeaseHeld now op) ∧
      db' = { db with operations := db.operations.modify (LeaseHeld now op) (succeedRow now) } := by
  simp only [completeOperationLease, ok_iff]
  exact and_congr_right fun _ => eq_comm

/-- Finishing the volume of a deployment writes what was observed of that volume. -/
theorem finishVolume_eq_ok {o : Operation} {d : Deployment} {volume : Option VolumeCompletion} :
    finishVolume db o d volume = .ok db' ↔
      (volume = none ∧ db' = db) ∨
      ∃ c v, volume = some c ∧ d.appVolumeId.bind db.appVolumes.lookup = some v ∧
        (some v.appEnvironmentId = o.appEnvironmentId ∧ SizeValid v c.observedSizeGiB) ∧
        db' = { db with
          appVolumes := db.appVolumes.modify (fun i _ => some i = d.appVolumeId)
            (mountedRow c) } := by
  cases volume with
  | none => simp [finishVolume, eq_comm]
  | some c =>
    simp only [finishVolume, ok_iff, reduceCtorEq, false_and, false_or, Option.some.injEq]
    constructor
    · rintro ⟨v, hv, hs, rfl⟩
      exact ⟨c, v, rfl, hv, hs, rfl⟩
    · rintro ⟨_, v, rfl, hv, hs, rfl⟩
      exact ⟨v, hv, hs, rfl⟩

/-- **What completing a deployment does.** The lease is the operation's own, the deployment is
ready, it is current if it is still desired, and its endpoints are live. -/
theorem completeDeployment_eq_ok {observedRelease : String} {volume : Option VolumeCompletion}
    (h : completeDeployment policy now db op message observedRelease specHash volume = .ok db') :
    ∃ deploymentId d volumes claims, db.operations.Any (LeaseHeld now op) ∧
      op.2.deploymentId = some deploymentId ∧ op.2.appEnvironmentId = some d.appEnvironmentId ∧
      db.deployments.lookup deploymentId = some d ∧
      (volumes = db.appVolumes ∨ ∃ c, volume = some c ∧ volumes =
        db.appVolumes.modify (fun i _ => some i = d.appVolumeId) (mountedRow c)) ∧
      activatePublicationClaims policy db.publicationClaims d.appEnvironmentId
        d.configurationVersion d.workloadKind d.configuration = .ok claims ∧
      db' =
        { db with
          operations := db.operations.modify (LeaseHeld now op) (succeedRow now)
          deployments := db.deployments.modify (fun i _ => i = deploymentId)
            (readyRow now message observedRelease)
          appEnvironments := db.appEnvironments.modify (StillDesired op.2 deploymentId)
            (currentRow deploymentId d.releaseId message op.2.desiredVersion specHash)
          appVolumes := volumes
          publicationClaims := claims } := by
  simp only [completeDeployment, goLive, ok_iff, completeOperationLease_eq_ok,
    finishDeployment] at h
  obtain ⟨_, ⟨hl, rfl⟩, deploymentId, hd, appEnvironmentId, he, d, hr, _, ⟨hde, -, rfl⟩, _, hv,
    claims, hc, rfl⟩ := h
  obtain rfl : d.appEnvironmentId = appEnvironmentId := by
    rw [he] at hde
    exact Option.some.inj hde
  rcases finishVolume_eq_ok.mp hv with ⟨-, rfl⟩ | ⟨c, _, hc', -, -, rfl⟩
  · exact ⟨deploymentId, d, _, claims, hl, hd, he, hr, .inl rfl, hc, rfl⟩
  · exact ⟨deploymentId, d, _, claims, hl, hd, he, hr, .inr ⟨c, hc', rfl⟩, hc, rfl⟩

/-- What archiving an environment does. -/
theorem completeAppEnvironmentDeletion_eq_ok :
    completeAppEnvironmentDeletion now db op message = .ok db' ↔
      db.operations.Any (LeaseHeld now op) ∧ db.appEnvironments.Any (Deleting op.2) ∧
      db' =
        { db with
          operations := db.operations.modify (LeaseHeld now op) (succeedRow now)
          appEnvironments := db.appEnvironments.modify (Deleting op.2) (archiveRow now message)
          publicationClaims := db.publicationClaims.delete fun _ c =>
            some c.appEnvironmentId = op.2.appEnvironmentId } := by
  simp only [completeAppEnvironmentDeletion, ok_iff, completeOperationLease_eq_ok]
  constructor
  · rintro ⟨_, ⟨hl, rfl⟩, ha, rfl⟩
    exact ⟨hl, ha, rfl⟩
  · rintro ⟨hl, ha, rfl⟩
    exact ⟨_, ⟨hl, rfl⟩, ha, rfl⟩

/-- What completing an operation on a volume does: the volume still had the version the operation
was for, and it has the reported state and size. -/
theorem completeVolume_eq_ok {state : String} {observedSizeGiB : ℤ} :
    completeVolume now db op state message observedSizeGiB specHash = .ok db' ↔
      ∃ observed v, VolumeState.ofString? state = some observed ∧
        db.operations.Any (LeaseHeld now op) ∧
        op.2.appVolumeId.bind db.appVolumes.lookup = some v ∧
        (v.version = op.2.desiredVersion ∧ SizeValid v observedSizeGiB ∧
          SpecHashValid specHash) ∧
        db' =
          { db with
            operations := db.operations.modify (LeaseHeld now op) (succeedRow now)
            appVolumes := db.appVolumes.modify (fun i _ => some i = op.2.appVolumeId)
              (preparedRow observed message observedSizeGiB op.2.desiredVersion specHash)
            appEnvironments := db.appEnvironments.modify
              (fun i ae => some i = op.2.appEnvironmentId ∧ ae.archivedAt = none)
              fun ae => settleEnvironment ae observed } := by
  simp only [completeVolume, ok_iff, completeOperationLease_eq_ok]
  constructor
  · rintro ⟨_, ⟨hl, rfl⟩, observed, hs, v, hv, hc, rfl⟩
    exact ⟨observed, v, hs, hl, hv, hc, rfl⟩
  · rintro ⟨observed, v, hs, hl, hv, hc, rfl⟩
    exact ⟨_, ⟨hl, rfl⟩, observed, hs, v, hv, hc, rfl⟩

/-- Completing the preparation of a workspace writes the workspace and its cluster only, and keeps
the namespaces. -/
theorem completeWorkspace_eq_ok (h : completeWorkspace now db op = .ok db') :
    ∃ workspaces clusters, db.operations.Any (LeaseHeld now op) ∧
      Table.Agree Workspace.namespaceName db.workspaces workspaces ∧
      db' =
        { db with
          operations := db.operations.modify (LeaseHeld now op) (succeedRow now)
          workspaces := workspaces
          workspaceClusters := clusters } := by
  simp only [completeWorkspace, ok_iff, completeOperationLease_eq_ok] at h
  obtain ⟨_, ⟨hl, rfl⟩, rfl⟩ := h
  refine ⟨_, _, hl, ?_, rfl⟩
  exact Table.agree_modify fun _ => rfl

/-- Failing leaves the row due again, or failed for good and reported. -/
theorem fail_eq_ok {code : String} {retry : Bool} :
    fail now db op code message retry = .ok db' ↔ db.operations.Any (LeaseHeld now op) ∧
      db' =
        if Retries op.2 retry then
          { db with
            operations := db.operations.modify (LeaseHeld now op) (retryRow now code message) }
        else
          reportFailure now
            { db with
              operations := db.operations.modify (LeaseHeld now op) (failRow now code message) }
            op.2 message := by
  unfold fail
  by_cases hr : Retries op.2 retry
  all_goals
    simp only [hr, if_true, if_false, ok_iff]
    exact and_congr_right fun _ => eq_comm

/-- A failure that is reported leaves the operations and the claims alone. -/
theorem reportFailure_frame (o : Operation) (message : String) :
    (reportFailure now db o message).operations = db.operations ∧
      (reportFailure now db o message).publicationClaims = db.publicationClaims ∧
      (reportFailure now db o message).revisions = db.revisions ∧
      (∃ workspaces, (reportFailure now db o message).toSurroundings =
        { db.toSurroundings with workspaces := workspaces }) ∧
      (reportFailure now db o message).installations = db.installations ∧
      (reportFailure now db o message).boundParameters = db.boundParameters := by
  unfold reportFailure
  cases o.kind <;> exact ⟨rfl, rfl, rfl, ⟨_, rfl⟩, rfl, rfl⟩

end Specs

end Molejo.Store
