import Molejo.Delivery.Build

/-!
# Delivery targets

A push or a release on GitHub is delivered to every environment that follows the
branch. Each of them gets a *target*: a build of the commit and, once that has
succeeded, a deployment of the release. Targets are advanced by workers that read a
batch of them and then go through the batch one by one, in the order in which the
targets were made. What a worker knows of a target is what it read with the batch; the
deployment of a target is made in three transactions, which read the environment,
create the deployment and attach it to the target.
-/

namespace Molejo.Delivery

open Transaction

/-! ### Rows -/

/-- The column `status` of `delivery_targets`. -/
inductive TargetStatus
  | building
  | deployPending
  | deploying
  | succeeded
  | failed
  | superseded
deriving DecidableEq

/-- A row of `delivery_targets`. -/
structure Target where
  publicId : String
  deliveryId : ℕ
  workspaceId : ℕ
  projectId : ℕ
  appId : ℕ
  appEnvironmentId : ℕ
  requestedByUserId : ℕ
  triggerType : TriggerType
  sourceBranch : String
  commitSha : String
  buildId : Option ℕ
  deploymentId : Option ℕ
  status : TargetStatus
  errorCode : String
  errorMessage : String
  completedAt : Option Time
deriving DecidableEq

/-- A target without how far it has come. -/
def Target.core (t : Target) : Target :=
  { t with
    deploymentId := none
    status := .building
    errorCode := ""
    errorMessage := ""
    completedAt := none }

/-! ### Scheduling -/

/-- `domain.GitHubDelivery`, as far as a target needs it. -/
structure GitHubDelivery where
  id : ℕ
  deliveryId : String
  installationExternalId : ℕ
  repositoryId : ℕ

/-- `domain.DeliveryCandidate`: an environment the delivery is for. -/
structure DeliveryCandidate where
  workspaceId : ℕ
  projectId : ℕ
  appId : ℕ
  appEnvironmentId : ℕ
  appEnvironmentPublicId : String
  sourceBranch : String
  requestedByActorId : ℕ

/-- The arguments of `CreateDeliveryTargetBuild`. -/
structure TargetRequest where
  delivery : GitHubDelivery
  candidate : DeliveryCandidate
  commitSha : String
  trigger : TriggerType
  targetPublicId : String
  buildPublicId : String

/-- `TriggerPush` and `TriggerRelease` as they are hashed. -/
def TriggerType.text : TriggerType → String
  | .manual => "Manual"
  | .push => "Push"
  | .release => "Release"

/-- The row of the new target, with the build it will have. -/
def TargetRequest.target (r : TargetRequest) (buildId : ℕ) : Target where
  publicId := r.targetPublicId
  deliveryId := r.delivery.id
  workspaceId := r.candidate.workspaceId
  projectId := r.candidate.projectId
  appId := r.candidate.appId
  appEnvironmentId := r.candidate.appEnvironmentId
  requestedByUserId := r.candidate.requestedByActorId
  triggerType := r.trigger
  sourceBranch := r.candidate.sourceBranch
  commitSha := r.commitSha
  buildId := some buildId
  deploymentId := none
  status := .building
  errorCode := ""
  errorMessage := ""
  completedAt := none

/-- The row of its build. -/
def TargetRequest.build (r : TargetRequest) : Build :=
  newBuild r.buildPublicId r.candidate.workspaceId r.candidate.projectId r.candidate.appId
    r.candidate.appEnvironmentId r.candidate.requestedByActorId r.delivery.installationExternalId
    r.delivery.repositoryId r.candidate.sourceBranch r.commitSha r.trigger (some r.delivery.id)
    (sha256 ("github-delivery\n" ++ r.delivery.deliveryId ++ "\n" ++
      r.candidate.appEnvironmentPublicId))
    (sha256 (r.trigger.text ++ "\n" ++ r.commitSha ++ "\n" ++ r.candidate.sourceBranch))

/-- The build waits for the environment and was delivered. -/
def Outdated (appEnvironmentId : ℕ) (b : Build) : Prop :=
  b.appEnvironmentId = appEnvironmentId ∧ b.status = .pending ∧ b.triggerType ≠ .manual
deriving Decidable

/-- The row of a build that a later delivery has replaced. -/
def supersedeBuildRow (now : Time) (b : Build) : Build :=
  { b with status := .superseded, completedAt := some now }

/-- The row of its target. -/
def supersedeTargetRow (now : Time) (t : Target) : Target :=
  { t with status := .superseded, completedAt := some now }

/-- The statement that replaces what waits for the environment. -/
def supersede (now : Time) (builds : Table Build) (targets : Table Target)
    (appEnvironmentId : ℕ) : Table Build × Table Target :=
  (builds.modify (fun _ b => Outdated appEnvironmentId b) (supersedeBuildRow now),
    targets.modify (fun _ t => ∃ b ∈ t.buildId.bind builds.lookup, Outdated appEnvironmentId b)
      (supersedeTargetRow now))

/-- The foreign keys and checks of `delivery_targets`. -/
def TargetRequest.Admissible (db : Db) (r : TargetRequest) : Prop :=
  (∃ ae ∈ db.appEnvironments.lookup r.candidate.appEnvironmentId,
    ae.appId = r.candidate.appId) ∧
  db.users.lookup r.candidate.requestedByActorId ≠ none ∧ r.trigger ≠ .manual ∧
  CommitShaValid r.commitSha
deriving Decidable

/-- `CreateDeliveryTargetBuild`: a delivery that has a target in the environment keeps it;
otherwise what waits for the environment is replaced by a new target and its build. -/
def createDeliveryTargetBuild (now : Time) (db : Db) (installations : Table GitHubInstallation)
    (builds : Table Build) (targets : Table Target) (r : TargetRequest) :
    Except Err (Table Build × Table Target) :=
  if targets.Any fun _ t => t.deliveryId = r.delivery.id ∧
      t.appEnvironmentId = r.candidate.appEnvironmentId then .ok (builds, targets)
  else do
    let left := supersede now builds targets r.candidate.appEnvironmentId
    require (r.Admissible db) .database
    require (¬ left.2.Any fun _ t => t.publicId = r.targetPublicId) .publicIDCollision
    require (installations.Any fun _ i => i.externalId = r.delivery.installationExternalId ∧
      i.active = true) .database
    let builds ← insertBuild left.1 r.build
    pure (builds, left.2.insert (r.target left.1.nextId))

/-! ### Advancing -/

/-- A target as `DeliveryTargetsToAdvance` reads it. -/
structure TargetSnapshot where
  id : ℕ
  target : Target
  appEnvironmentPublicId : String
  releasePublicId : String
  buildStatus : Option BuildStatus
  deploymentStatus : Option RuntimeState

/-- What is read of one target. -/
def snapshot (db : Db) (builds : Table Build) (i : ℕ) (t : Target) : TargetSnapshot where
  id := i
  target := t
  appEnvironmentPublicId :=
    ((db.appEnvironments.lookup t.appEnvironmentId).map AppEnvironment.publicId).getD ""
  releasePublicId :=
    ((t.buildId.bind fun b => db.releases.first fun _ r => r.buildId = some b).map
      fun r => r.2.publicId).getD ""
  buildStatus := (t.buildId.bind builds.lookup).map Build.status
  deploymentStatus := (t.deploymentId.bind db.deployments.lookup).map Deployment.status

/-- `Building`, `DeployPending` or `Deploying`. -/
def Target.Open (t : Target) : Prop :=
  t.status = .building ∨ t.status = .deployPending ∨ t.status = .deploying
deriving Decidable

/-- `DeliveryTargetsToAdvance`, with the limit `AdvanceOnce` gives it. -/
def deliveryTargetsToAdvance (db : Db) (builds : Table Build) (targets : Table Target) :
    List TargetSnapshot :=
  ((targets.select fun _ t => t.Open).take 50).map fun x => snapshot db builds x.1 x.2

/-- The row of a target that was marked. -/
def markRow (now : Time) (status : TargetStatus) (code message : String) (t : Target) : Target :=
  { t with
    status := status
    errorCode := code
    errorMessage := message
    completedAt :=
      if status = .succeeded ∨ status = .failed ∨ status = .superseded then some now else none }

/-- `MarkDeliveryTarget`: whatever the status was. -/
def markDeliveryTarget (now : Time) (targets : Table Target) (i : ℕ) (status : TargetStatus)
    (code message : String) : Except Err (Table Target) := do
  let _ ← expect (targets.lookup i) .notFound
  pure (targets.modify (fun j _ => j = i) (markRow now status code message))

/-- The row of a target that has its deployment. -/
def attachRow (deploymentId : ℕ) (t : Target) : Target :=
  { t with deploymentId := some deploymentId, status := .deploying }

/-- `AttachDeliveryDeployment`. -/
def attachDeliveryDeployment (targets : Table Target) (i deploymentId : ℕ) :
    Except Err (Table Target) := do
  require (targets.Any fun j t => j = i ∧ t.status = .deployPending) .conflict
  pure (targets.modify (fun j t => j = i ∧ t.status = .deployPending) (attachRow deploymentId))

/-- How `AdvanceOnce` marks a target, if it does: by the status of its build while it is building,
by the status of its deployment while it is deploying. -/
def TargetSnapshot.mark (t : TargetSnapshot) : Option (TargetStatus × String × String) :=
  match t.target.status with
  | .building =>
    match t.buildStatus with
    | some .succeeded => some (.deployPending, "", "")
    | some .failed | some .timedOut =>
      some (.failed, "build_failed", "automated build did not succeed")
    | some .superseded => some (.superseded, "", "")
    | _ => none
  | .deploying =>
    match t.deploymentStatus with
    | some .ready => some (.succeeded, "", "")
    | some .degraded =>
      some (.failed, "deployment_degraded", "automated deployment became degraded")
    | _ => none
  | _ => none

/-- The key under which the deployment of a target is asked for. -/
def Target.key (t : Target) : Digest := sha256 ("delivery-target:" ++ t.publicId)

/-- The request `createDeployment` of the worker makes, from the environment it has read. The
public ids are drawn for it. -/
def TargetSnapshot.request (t : TargetSnapshot) (principalId configurationVersion version : ℕ)
    (currentDeploymentPublicId deploymentPublicId operationPublicId : String) :
    Store.DeploymentRequest where
  workspaceId := t.target.workspaceId
  actorUserId := some t.target.requestedByUserId
  actorPrincipalId := principalId
  deploymentPublicId := deploymentPublicId
  appEnvironmentPublicId := t.appEnvironmentPublicId
  releasePublicId := t.releasePublicId
  configurationVersion := configurationVersion
  expectedVersion := version
  expectedCurrentDeploymentPublicId := currentDeploymentPublicId
  idempotencyHash := t.target.key
  payloadHash := sha256 (t.releasePublicId ++ "\n" ++ currentDeploymentPublicId ++ "\n" ++
    t.target.commitSha)
  operationPublicId := operationPublicId

/-- The deployment `CreateDeployment` returns: the one the key was used for, or the new one. -/
def returnedDeployment (db : Db) (request : Store.DeploymentRequest) : Except Err ℕ := do
  let existing ← Store.operationByPrincipalIdempotency db request.workspaceId
    request.actorPrincipalId request.idempotencyHash request.payloadHash
  match existing with
  | some op => do
    let i ← expect op.2.deploymentId .database
    let _ ← expect (db.deployments.lookup i) .database
    pure i
  | none => pure db.deployments.nextId

/-- `CreateDeployment`, and the deployment it returns. -/
def createDeployment (policy : PublicationPolicy) (now : Time) (db : Db) (t : TargetSnapshot)
    (configurationVersion version : ℕ)
    (currentDeploymentPublicId deploymentPublicId operationPublicId : String) :
    Except Err (Db × ℕ) := do
  let principalId ← Store.principalIdForUser db t.target.requestedByUserId
  let request := t.request principalId configurationVersion version currentDeploymentPublicId
    deploymentPublicId operationPublicId
  let i ← returnedDeployment db request
  let db ← Store.createDeployment policy now db request
  pure (db, i)

/-- The errors after which `AdvanceOnce` goes on with the next target: `ErrConflict`, and what is
made from it. -/
def Tolerated (e : Err) : Prop :=
  e = .conflict ∨ e = .versionConflict ∨ e = .nameConflict ∨ e = .idempotencyConflict ∨
    e = .governanceInvariant
deriving Decidable

/-! ### What a committed transaction did -/

@[simp] theorem core_markRow (now : Time) (status : TargetStatus) (code message : String)
    (t : Target) : (markRow now status code message t).core = t.core := rfl

@[simp] theorem core_attachRow (deploymentId : ℕ) (t : Target) :
    (attachRow deploymentId t).core = t.core := rfl

@[simp] theorem core_supersedeTargetRow (now : Time) (t : Target) :
    (supersedeTargetRow now t).core = t.core := rfl

/-- What scheduling a target does: nothing, if it is there; otherwise what waits for the
environment is replaced, and the target and its build are new. -/
theorem createDeliveryTargetBuild_eq_ok {now : Time} {db : Db}
    {installations : Table GitHubInstallation} {builds builds' : Table Build}
    {targets targets' : Table Target} {r : TargetRequest}
    (h : createDeliveryTargetBuild now db installations builds targets r =
      .ok (builds', targets')) :
    (builds' = builds ∧ targets' = targets) ∨
      r.Admissible db ∧
      builds' = (supersede now builds targets r.candidate.appEnvironmentId).1.insert r.build ∧
      targets' = (supersede now builds targets r.candidate.appEnvironmentId).2.insert
        (r.target builds.nextId) := by
  unfold createDeliveryTargetBuild at h
  split at h
  · cases h
    exact .inl ⟨rfl, rfl⟩
  · simp only [ok_iff, Prod.mk.injEq] at h
    obtain ⟨hadm, -, -, _, hi, rfl, rfl⟩ := h
    exact .inr ⟨hadm, insertBuild_eq_ok hi, rfl⟩

end Molejo.Delivery
