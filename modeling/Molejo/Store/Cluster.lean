import Molejo.Store.Observation

/-!
# Clusters

An installation is one cluster with its Agent. The Agent opens a *session* when it
connects (`activateAgent`) and counts its heartbeats in it (`touchAgent`). A
workspace is attached to a cluster by an `EnsureWorkspace` operation. Revoking a
cluster ends everything on it at once: its session, its credentials and its active
operations, which fail for good.

Who may open a session – the certificate, the identity of the cluster, the reported
capabilities – is decided elsewhere and only refuses; the model opens any session
that such a check could let through.
-/

namespace Molejo.Store

open Transaction Table

/-! ### Sessions -/

/-- The part of `ActivateAgent` about the installation: a new session with no heartbeat yet. -/
def activateAgent (db : Db) (publicId sessionId : String) : Except Err Db := do
  require (isBlank sessionId = false ∧ sessionId.utf8ByteSize ≤ 80) .agentIdentityMismatch
  let r ← expect (db.installations.first fun _ r => r.publicId = publicId) .agentIdentityMismatch
  require (r.2.status ≠ .revoked) .agentIdentityMismatch
  pure { db with
    installations := db.installations.modify (fun i _ => i = r.1) fun r =>
      { r with
        status := .active
        controlSessionId := some sessionId
        controlSessionSequence := 0 } }

/-- The part of `TouchAgent` about the installation: the sequence number of the session grows. -/
def touchAgent (db : Db) (publicId sessionId : String) (sequence : ℕ) : Except Err Db := do
  require (isBlank sessionId = false ∧ SequenceValid sequence) .agentIdentityMismatch
  let r ← expect (db.installations.first fun _ r => r.publicId = publicId) .agentIdentityMismatch
  require (r.2.status = .active ∧ r.2.controlSessionId = some sessionId ∧
    r.2.controlSessionSequence < sequence) .agentIdentityMismatch
  pure { db with
    installations := db.installations.modify (fun i _ => i = r.1) fun r =>
      { r with controlSessionSequence := sequence } }

/-! ### Workspaces -/

/-- The request of `AttachWorkspaceCluster`. -/
structure Attachment where
  workspaceId : ℕ
  actorId : ℕ
  clusterPublicId : String
  operationPublicId : String
  idempotencyHash : Digest
  payloadHash : Digest

/-- The part of `AttachWorkspaceCluster` after the idempotency key was found to be new. -/
def attachCluster (now : Time) (db : Db) (request : Attachment) (principalId : ℕ) :
    Except Err Db := do
  let cluster ← expect (db.installations.first fun _ r => r.publicId = request.clusterPublicId ∧
    r.status = .active) .agentUnavailable
  let workspace ← expect (db.workspaces.lookup request.workspaceId) .agentUnavailable
  require (¬ db.workspaceClusters.Any fun _ wc => wc.installationId = cluster.1 ∧
    (wc.workspaceId = request.workspaceId ∨ wc.namespaceName = workspace.namespaceName)) .conflict
  let new : NewOperation :=
    { publicId := request.operationPublicId
      workspaceId := request.workspaceId
      appEnvironmentId := none
      deploymentId := none
      appVolumeId := none
      requestedByUserId := some request.actorId
      requestedByPrincipalId := principalId
      kind := .ensureWorkspace
      idempotencyHash := request.idempotencyHash
      payloadHash := request.payloadHash
      desiredVersion := 1 }
  let operations ← (insertRow db.operations (new.row now cluster.1)).mapError translateDBError
  pure { db with
    workspaceClusters := db.workspaceClusters.insert
      { workspaceId := request.workspaceId
        installationId := cluster.1
        namespaceName := workspace.namespaceName
        state := .pending
        message := ""
        observedGeneration := 0 }
    operations := operations }

/-- `AttachWorkspaceCluster`. -/
def attachWorkspaceCluster (now : Time) (db : Db) (request : Attachment) : Except Err Db := do
  let principalId ← principalIdForUser db request.actorId
  let existing ← operationByPrincipalIdempotency db request.workspaceId principalId
    request.idempotencyHash request.payloadHash
  match existing with
  | some _ => pure db
  | none => attachCluster now db request principalId

/-! ### Revoking -/

/-- The row of an operation whose cluster was revoked. -/
def revokeRow (now : Time) (o : Operation) : Operation :=
  { o with
    status := .failed
    completedAt := some now
    leaseUntil := none
    workerId := none
    errorCode := "cluster_revoked"
    errorMessage := "target cluster was revoked" }

/-- What `RevokeCluster` does to a cluster that is not revoked yet. -/
def revoke (now : Time) (db : Db) (installationId : ℕ) (reason : String) : Db :=
  { db with
    installations := db.installations.modify (fun i _ => i = installationId) fun r =>
      { r with
        status := .revoked
        revokedAt := some now
        revocationReason := some reason
        controlSessionId := none
        controlSessionSequence := 0 }
    credentials := db.credentials.modify (fun _ c => c.installationId = installationId) fun c =>
      { c with status := .revoked, overlapNotAfter := none }
    operations := db.operations.modify
      (fun _ o => o.agentInstallationId = some installationId ∧ o.Active) (revokeRow now)
    workspaceClusters := db.workspaceClusters.modify
      (fun _ wc => wc.installationId = installationId)
      fun wc => { wc with state := .failed, message := "target cluster was revoked" }
    appEnvironments := db.appEnvironments.modify
      (fun _ ae => ae.clusterId = some installationId ∧ ae.archivedAt = none)
      fun ae =>
        { ae with lastState := .unknown, lastMessage := "target cluster was revoked" } }

/-- `RevokeCluster`. -/
def revokeCluster (now : Time) (db : Db) (publicId reason : String) : Except Err Db := do
  require (trimSpace reason ≠ "" ∧ (trimSpace reason).utf8ByteSize ≤ 500) .agentEnrollmentInvalid
  let r ← expect (db.installations.first fun _ r => r.publicId = publicId) .clusterNotFound
  if r.2.status = .revoked then pure db else pure (revoke now db r.1 (trimSpace reason))

/-! ### Which clusters are revoked -/

/-- The same clusters are revoked. -/
def SameRevoked (t u : Table Installation) : Prop :=
  ∀ i, (∃ r ∈ u.lookup i, r.status = .revoked) ↔ ∃ r ∈ t.lookup i, r.status = .revoked

theorem sameRevoked_modify {t : Table Installation} {p : ℕ → Installation → Prop}
    [∀ i r, Decidable (p i r)] {f : Installation → Installation}
    (h : ∀ i r, t.lookup i = some r → p i r → ((f r).status = .revoked ↔ r.status = .revoked)) :
    SameRevoked t (t.modify p f) := by
  intro i
  rcases hl : t.lookup i with _ | r
  · simp [lookup_modify, hl]
  · by_cases hp : p i r
    · simp [lookup_modify_of_pos hl hp, h i r hl hp]
    · simp [lookup_modify_of_neg hl hp]

end Molejo.Store
