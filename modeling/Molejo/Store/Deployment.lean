import Molejo.Store.AppEnvironment

/-!
# Creating a deployment

`createDeployment` is the one transaction that moves the *desired* deployment of an
environment. It is asked for by a user or by an automation principal, names the
version of the environment and the current deployment it saw, and refuses when
either has moved on, when another operation of the environment is active, or when
the environment is being deleted. What it inserts – the deployment and the
`ApplyDeployment` operation that carries it out – refers to the next version of the
environment.
-/

namespace Molejo.Store

open Transaction Table

/-- `domain.DeploymentRequest`, with the actor and the identity the operation draws. -/
structure DeploymentRequest where
  workspaceId : ℕ
  actorUserId : Option ℕ
  actorPrincipalId : ℕ
  deploymentPublicId : String
  appEnvironmentPublicId : String
  releasePublicId : String
  configurationVersion : ℕ
  expectedVersion : ℕ
  /-- The public id of the current deployment, empty if there is none. -/
  expectedCurrentDeploymentPublicId : String
  idempotencyHash : Digest
  payloadHash : Digest
  operationPublicId : String

/-- The public id of the current deployment of an environment, empty if there is none. -/
def currentDeploymentPublicId (db : Db) (ae : AppEnvironment) : String :=
  ((ae.currentDeploymentId.bind db.deployments.lookup).map Deployment.publicId).getD ""

/-- `configurationRevision`. -/
def configurationRevision (db : Db) (appEnvironmentId version : ℕ) : Except Err Revision := do
  let r ← expect (db.revisions.first fun _ r => r.appEnvironmentId = appEnvironmentId ∧
    r.version = version) .notFound
  pure r.2

/-- The volume a deployment mounts: none for a stateless workload; for a stateful one the volume
that is, or is about to be, ready. -/
def deploymentVolume (db : Db) (appEnvironmentId : ℕ) (kind : WorkloadKind) :
    Except Err (Option ℕ) :=
  match kind with
  | .stateless => .ok none
  | .stateful => do
    let r ← expect (db.appVolumes.first fun _ v => v.appEnvironmentId = appEnvironmentId ∧
      v.desiredState = .ready ∧ (v.observedState = .provisioning ∨ v.observedState = .ready) ∧
      v.deletionRequestedAt = none) .conflict
    pure (some r.1)

/-- The row of a new deployment. -/
def DeploymentRequest.row (request : DeploymentRequest) (appEnvironmentId : ℕ)
    (ae : AppEnvironment) (releaseId : ℕ) (configuration : RuntimeConfig)
    (appVolumeId : Option ℕ) : Deployment where
  publicId := request.deploymentPublicId
  workspaceId := request.workspaceId
  appEnvironmentId := appEnvironmentId
  appId := ae.appId
  releaseId := releaseId
  requestedByUserId := request.actorUserId
  requestedByPrincipalId := request.actorPrincipalId
  configurationVersion := request.configurationVersion
  configuration := configuration
  workloadKind := ae.workloadKind
  appVolumeId := appVolumeId
  status := .pending
  message := ""
  observedRelease := ""
  startedAt := none
  completedAt := none

/-- The operation that applies a deployment, for the next version of its environment. -/
def DeploymentRequest.operation (request : DeploymentRequest) (appEnvironmentId : ℕ)
    (ae : AppEnvironment) (deploymentId : ℕ) : NewOperation where
  publicId := request.operationPublicId
  workspaceId := request.workspaceId
  appEnvironmentId := some appEnvironmentId
  deploymentId := some deploymentId
  appVolumeId := none
  requestedByUserId := request.actorUserId
  requestedByPrincipalId := request.actorPrincipalId
  kind := .applyDeployment
  idempotencyHash := request.idempotencyHash
  payloadHash := request.payloadHash
  desiredVersion := ae.version + 1

/-- The row of an environment that desires a new deployment. -/
def desireRow (deploymentId : ℕ) (ae : AppEnvironment) : AppEnvironment :=
  { ae with
    desiredDeploymentId := some deploymentId
    lastState := .progressing
    lastMessage := ""
    version := ae.version + 1 }

/-- What `createDeployment` writes once everything is found: the deployment, the environment that
now desires it, and the operation. -/
def insertDeployment (now : Time) (db : Db) (request : DeploymentRequest) (appEnvironmentId : ℕ)
    (ae : AppEnvironment) (d : Deployment) : Except Err Db := do
  require (¬ db.deployments.Any fun _ e => e.publicId = d.publicId) .publicIDCollision
  let deploymentId := db.deployments.nextId
  let environments := db.appEnvironments.modify (fun i _ => i = appEnvironmentId)
    (desireRow deploymentId)
  let deployments := db.deployments.insert d
  (insertOperationForPrincipal now
    { db with deployments := deployments, appEnvironments := environments } appEnvironmentId
    (request.operation appEnvironmentId ae deploymentId)).mapError translateDBError

/-- The part of `createDeployment` after the idempotency key was found to be new. -/
def deploy (policy : PublicationPolicy) (now : Time) (db : Db) (request : DeploymentRequest) :
    Except Err Db := do
  let (appEnvironmentId, ae) ← appEnvironmentForUpdate db request.workspaceId
    request.appEnvironmentPublicId
  require (ae.version = request.expectedVersion ∧
    currentDeploymentPublicId db ae = request.expectedCurrentDeploymentPublicId) .versionConflict
  let release ← expect (db.releases.first fun _ r => r.publicId = request.releasePublicId ∧
    r.workspaceId = request.workspaceId ∧ r.appId = ae.appId ∧ r.available = true) .notFound
  require (¬ HasActiveOperation db.operations appEnvironmentId ∧ ae.deletionRequestedAt = none)
    .conflict
  let revision ← configurationRevision db appEnvironmentId request.configurationVersion
  let (claims, configuration) ← reservePublicationClaims policy db.publicationClaims
    appEnvironmentId revision.version ae.workloadKind
    (inheritAllocatedPorts revision.configuration ae.configuration)
  let volume ← deploymentVolume db appEnvironmentId ae.workloadKind
  insertDeployment now { db with publicationClaims := claims } request appEnvironmentId ae
    (request.row appEnvironmentId ae release.1 configuration volume)

/-- `createDeployment`. -/
def createDeployment (policy : PublicationPolicy) (now : Time) (db : Db)
    (request : DeploymentRequest) : Except Err Db := do
  let existing ← operationByPrincipalIdempotency db request.workspaceId request.actorPrincipalId
    request.idempotencyHash request.payloadHash
  match existing with
  | some _ => pure db
  | none => deploy policy now db request

/-! ### What a committed transaction did -/

section Specs

variable {policy : PublicationPolicy} {now : Time} {db db' : Db} {request : DeploymentRequest}

theorem configurationRevision_eq_ok {appEnvironmentId version : ℕ} {r : Revision}
    (h : configurationRevision db appEnvironmentId version = .ok r) :
    ∃ i, db.revisions.lookup i = some r ∧ r.appEnvironmentId = appEnvironmentId ∧
      r.version = version := by
  simp only [configurationRevision, ok_iff] at h
  obtain ⟨⟨i, _⟩, hf, rfl⟩ := h
  exact ⟨i, lookup_of_first hf, pos_of_first hf⟩

/-- The volume of a new deployment is one of its environment and is not to be removed. -/
theorem volume_of_deploymentVolume {appEnvironmentId : ℕ} {kind : WorkloadKind}
    {volume : Option ℕ} (h : deploymentVolume db appEnvironmentId kind = .ok volume) {j : ℕ}
    (hj : volume = some j) :
    ∃ v, db.appVolumes.lookup j = some v ∧ v.appEnvironmentId = appEnvironmentId ∧
      v.deletionRequestedAt = none := by
  cases kind with
  | stateless =>
    cases h
    cases hj
  | stateful =>
    simp only [deploymentVolume, ok_iff] at h
    obtain ⟨r, hf, rfl⟩ := h
    cases hj
    obtain ⟨he, -, -, hd⟩ := pos_of_first hf
    exact ⟨r.2, lookup_of_first hf, he, hd⟩

/-- **What creating a deployment does.** The environment was not archived, not being deleted and
had no active operation. It now desires the new deployment, whose configuration is the revision
with its endpoints reserved, and one operation applies it. -/
theorem deploy_eq_ok (h : deploy policy now db request = .ok db') :
    ∃ appEnvironmentId ae releaseId revision claims reserved volume cluster o,
      appEnvironmentForUpdate db request.workspaceId request.appEnvironmentPublicId =
        .ok (appEnvironmentId, ae) ∧
      ae.deletionRequestedAt = none ∧ ¬ HasActiveOperation db.operations appEnvironmentId ∧
      configurationRevision db appEnvironmentId request.configurationVersion = .ok revision ∧
      reservePublicationClaims policy db.publicationClaims appEnvironmentId revision.version
        ae.workloadKind (inheritAllocatedPorts revision.configuration ae.configuration) =
          .ok (claims, reserved) ∧
      o = (request.operation appEnvironmentId ae db.deployments.nextId).row now cluster ∧
      (Insertable db.operations o ∧ ae.clusterId = some cluster ∧
        deploymentVolume db appEnvironmentId ae.workloadKind = .ok volume) ∧
      db' =
        { db with
          publicationClaims := claims
          deployments := db.deployments.insert
            (request.row appEnvironmentId ae releaseId reserved volume)
          appEnvironments := db.appEnvironments.modify (fun i _ => i = appEnvironmentId)
            (desireRow db.deployments.nextId)
          operations := db.operations.insert o } := by
  simp only [deploy, insertDeployment, ok_iff, insertOperationForPrincipal_eq_ok, Prod.exists] at h
  obtain ⟨i, ae, hf, -, releaseId, _, -, ⟨hn, hd⟩, revision, hrev, claims, reserved, hres,
    volume, hvol, -, cluster, hc, hi, rfl⟩ := h
  have hl := (appEnvironmentForUpdate_eq_ok hf).1
  refine ⟨i, ae, releaseId, revision, claims, reserved, volume, cluster, _, hf, hd, hn, hrev, hres,
    rfl, ⟨hi, ?_, hvol⟩, rfl⟩
  rw [PlacedOn, lookup_modify_of_pos hl rfl] at hc
  exact hc

/-- A deployment that can be created under some public ids can be created under all that are not
taken. -/
theorem deploy_eq_error_of_ids {deploymentId operationId : String} {e : Err}
    (h : deploy policy now db request = .ok db') (he : deploy policy now db { request with
      deploymentPublicId := deploymentId, operationPublicId := operationId } = .error e) :
    e = .publicIDCollision := by
  simp only [deploy, ok_iff, Prod.exists] at h
  obtain ⟨_, _, hf, hv, _, _, hrel, hfree, _, hrev, _, _, hres, volume, hvol, hins⟩ := h
  simp only [insertDeployment, insertOperationForPrincipal, ok_iff,
    insertRow_eq_ok] at hins
  obtain ⟨-, _, hc, _, ⟨hi, -⟩, -⟩ := hins
  simp only [deploy, hf, ok_bind, require, if_pos hv, hrel, expect, if_pos hfree, hrev, hres,
    hvol] at he
  simp only [insertDeployment, insertOperationForPrincipal, insertRow, bind_eq_error,
    mapError_eq_error, require_eq_error, require_eq_ok, exists_const, pure_ne_error, and_false,
    or_false] at he
  rcases he with ⟨-, rfl⟩ | ⟨-, _, hop, rfl⟩
  · rfl
  · rcases hop with hcluster | ⟨_, hcluster, ⟨-, rfl⟩ | ⟨-, ⟨hvalid, -⟩ | ⟨-, htaken, -⟩⟩⟩
    · cases hc.symm.trans hcluster
    · rfl
    · exact absurd ⟨hi.desiredVersion, hi.target⟩ hvalid
    · cases Except.ok.inj (hc.symm.trans hcluster)
      exact absurd hi.free htaken

/-- **What a deployment can be refused for.** -/
theorem deploy_eq_error {e : Err} (h : deploy policy now db request = .error e) :
    e = .notFound ∧ (db.appEnvironments.first fun _ ae => ae.workspaceId = request.workspaceId ∧
        ae.publicId = request.appEnvironmentPublicId ∧ ae.archivedAt = none) = none ∨
      ∃ i ae, appEnvironmentForUpdate db request.workspaceId request.appEnvironmentPublicId =
          .ok (i, ae) ∧
        (e = .conflict ∨ e = .versionConflict ∨
          e = .notFound ∧ (db.releases.first fun _ r => r.publicId = request.releasePublicId ∧
            r.workspaceId = request.workspaceId ∧ r.appId = ae.appId ∧ r.available = true) = none ∨
          e = .notFound ∧ (db.revisions.first fun _ r => r.appEnvironmentId = i ∧
            r.version = request.configurationVersion) = none ∨
          (∃ revision, configurationRevision db i request.configurationVersion = .ok revision ∧
            reservePublicationClaims policy db.publicationClaims i revision.version ae.workloadKind
              (inheritAllocatedPorts revision.configuration ae.configuration) = .error e) ∨
          e = .publicIDCollision ∧
            ((db.deployments.Any fun _ d => d.publicId = request.deploymentPublicId) ∨
              db.operations.Any fun _ o => o.publicId = request.operationPublicId) ∨
          e = .agentUnavailable ∧ ae.clusterId = none) := by
  simp only [deploy, bind_eq_error, require_eq_error, expect_eq_error, require_eq_ok] at h
  rcases h with h | ⟨⟨i, ae⟩, hf, h⟩
  · simp only [appEnvironmentForUpdate, expect_eq_error] at h
    exact .inl ⟨h.2.symm, h.1⟩
  refine .inr ⟨i, ae, hf, ?_⟩
  rcases h with ⟨-, rfl⟩ | ⟨-, -, h⟩
  · exact .inr (.inl rfl)
  rcases h with ⟨hnone, rfl⟩ | ⟨_, -, h⟩
  · exact .inr (.inr (.inl ⟨rfl, hnone⟩))
  rcases h with ⟨-, rfl⟩ | ⟨-, -, h⟩
  · exact .inl rfl
  rcases h with h | ⟨revision, hrev, h⟩
  · simp only [configurationRevision, bind_eq_error, expect_eq_error, pure_ne_error, and_false,
      exists_false, or_false] at h
    exact .inr (.inr (.inr (.inl ⟨h.2.symm, h.1⟩)))
  rcases h with h | ⟨⟨claims, configuration⟩, -, h⟩
  · exact .inr (.inr (.inr (.inr (.inl ⟨revision, hrev, h⟩))))
  rcases h with h | ⟨volume, -, h⟩
  · refine .inl ?_
    cases hkind : ae.workloadKind with
    | stateless =>
      rw [hkind] at h
      cases h
    | stateful =>
      rw [hkind] at h
      simp only [deploymentVolume, bind_eq_error, expect_eq_error, pure_ne_error, and_false,
        exists_false, or_false] at h
      exact h.2.symm
  simp only [insertDeployment, insertOperationForPrincipal, clusterOf, insertRow, bind_eq_error,
    require_eq_error, expect_eq_error, mapError_eq_error, pure_ne_error, exists_false, and_false,
    or_false] at h
  rcases h with ⟨htaken, rfl⟩ | ⟨-, -, _, ⟨hnone, rfl⟩ | ⟨_, -, hrow⟩, rfl⟩
  · exact .inr (.inr (.inr (.inr (.inr (.inl ⟨rfl, .inl (not_not.mp htaken)⟩)))))
  · have hl : (db.appEnvironments.modify (fun j _ => j = i)
        (desireRow db.deployments.nextId)).lookup i = some _ :=
      lookup_modify_of_pos (appEnvironmentForUpdate_eq_ok hf).1 rfl
    rw [hl] at hnone
    exact .inr (.inr (.inr (.inr (.inr (.inr ⟨rfl, hnone⟩)))))
  · rcases hrow with ⟨htaken, rfl⟩ | ⟨-, -, ⟨hvalid, -⟩ | ⟨-, -, -, rfl⟩⟩
    · exact .inr (.inr (.inr (.inr (.inr (.inl ⟨rfl, .inr (not_not.mp htaken)⟩)))))
    · exact absurd ⟨Nat.succ_pos _, .inr (.inl ⟨rfl, Option.some_ne_none _, Option.some_ne_none _,
        rfl⟩)⟩ hvalid
    · exact .inl rfl
end Specs

end Molejo.Store
