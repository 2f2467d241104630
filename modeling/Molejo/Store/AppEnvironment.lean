import Molejo.Store.Volume

/-!
# Application environments and deployments

An application environment is an application placed on a stage of its project and
on a cluster. Its configuration is versioned: every change makes a new *revision*,
and a *deployment* puts one release of the application under one revision.

Three transactions adopt a configuration, and each reserves the publication claims
for it: creating an environment, updating it, and creating a deployment – the
last for the revision it was asked for, which need not be the newest. Only creating
a deployment and deleting look at the operations of the environment and refuse if
one is active; an update does not.
-/

namespace Molejo.Store

open Transaction Table

variable {ae : AppEnvironment}

/-! ### Adopting a configuration -/

/-- The body of the loop of `replaceParameterBindings`. -/
def bindParameter (db : Db) (workspaceId appEnvironmentId : ℕ) (bound : Table BoundParameter)
    (binding : ParameterBinding) : Except Err (Table BoundParameter) := do
  let p ← expect (db.parameters.first fun _ p => p.workspaceId = workspaceId ∧
    p.publicId = binding.parameterPublicId ∧ p.archivedAt = none) .parameterBinding
  require (db.versions.Any fun _ v => v.parameterId = p.1 ∧ v.version = binding.parameterVersion)
    .parameterBinding
  require (¬ bound.Any fun _ b => b.appEnvironmentId = appEnvironmentId ∧
    b.environmentName = binding.name) .conflict
  pure (bound.insert
    { appEnvironmentId := appEnvironmentId
      environmentName := binding.name
      parameterId := p.1
      parameterVersion := binding.parameterVersion })

/-- `replaceParameterBindings`. -/
def replaceParameterBindings (db : Db) (workspaceId appEnvironmentId : ℕ)
    (bindings : List ParameterBinding) : Except Err Db := do
  let bound ← bindings.foldlM (bindParameter db workspaceId appEnvironmentId)
    (db.boundParameters.delete fun _ b => b.appEnvironmentId = appEnvironmentId)
  pure { db with boundParameters := bound }

/-- `INSERT INTO app_environment_configuration_revisions`. -/
def insertRevision (db : Db) (revision : Revision) : Except Err Db := do
  require (¬ db.revisions.Any fun _ r => r.appEnvironmentId = revision.appEnvironmentId ∧
    r.version = revision.version) .uniqueViolation
  pure { db with revisions := db.revisions.insert revision }

/-- The row of an environment under another configuration. -/
def configureRow (configuration : RuntimeConfig) (ae : AppEnvironment) : AppEnvironment :=
  { ae with configuration := configuration }

/-- What creating and updating an environment do with its new configuration: reserve its
endpoints, store it with the ports it was given, bind its parameters, record the revision. -/
def adoptConfiguration (policy : PublicationPolicy) (db : Db) (appEnvironmentId : ℕ)
    (ae : AppEnvironment) (configuration : RuntimeConfig) : Except Err Db := do
  let (claims, configuration) ← reservePublicationClaims policy db.publicationClaims
    appEnvironmentId ae.configurationVersion ae.workloadKind configuration
  let environments := db.appEnvironments.modify (fun i _ => i = appEnvironmentId)
    (configureRow configuration)
  let db ← replaceParameterBindings
    { db with publicationClaims := claims, appEnvironments := environments }
    ae.workspaceId appEnvironmentId configuration.parameters
  insertRevision db
    { appEnvironmentId := appEnvironmentId
      version := ae.configurationVersion
      configuration := configuration }

/-! ### Creating an environment -/

/-- The request of `CreateAppEnvironmentOnCluster`, with the identities it draws. -/
structure NewAppEnvironment where
  workspaceId : ℕ
  actorId : ℕ
  publicId : String
  projectPublicId : String
  appPublicId : String
  environmentPublicId : String
  clusterPublicId : String
  branch : String
  workloadKind : WorkloadKind
  configuration : RuntimeConfig
  volume : Option (VolumeRequest × VolumeIds)

/-- The workspace is ready on the cluster. -/
def ClusterReady (db : Db) (workspaceId installationId : ℕ) : Prop :=
  db.workspaceClusters.Any fun _ wc => wc.workspaceId = workspaceId ∧
    wc.installationId = installationId ∧ wc.state = .ready
deriving Decidable

/-- The row of a new environment. -/
def NewAppEnvironment.row (new : NewAppEnvironment) (projectId appId stageId clusterId : ℕ) :
    AppEnvironment where
  publicId := new.publicId
  workspaceId := new.workspaceId
  projectId := projectId
  appId := appId
  environmentId := stageId
  clusterId := some clusterId
  sourceBranch := new.branch
  runtimeName := runtimeName new.publicId
  workloadKind := new.workloadKind
  configuration := normalizeRuntimeConfig new.configuration
  configurationVersion := 1
  version := 1
  desiredDeploymentId := none
  currentDeploymentId := none
  currentReleaseId := none
  lastState := .pending
  lastMessage := ""
  deletionRequestedAt := none
  archivedAt := none
  runtimeObservedGeneration := 0
  runtimeObservedAt := none
  reconciliationGeneration := 0
  runtimeDesiredVersion := 0
  runtimeSpecHash := none

/-- The row that `INSERT INTO app_environments … SELECT` inserts: the project, the application,
the stage and the cluster are found by their public ids. -/
def placeAppEnvironment (db : Db) (new : NewAppEnvironment) : Except Err AppEnvironment := do
  let cluster ← expect (db.installations.first fun i r => r.publicId = new.clusterPublicId ∧
    r.status = .active ∧ ClusterReady db new.workspaceId i) .agentUnavailable
  let project ← expect (db.projects.first fun _ p => p.workspaceId = new.workspaceId ∧
    p.publicId = new.projectPublicId ∧ p.archivedAt = none) .notFound
  let app ← expect (db.apps.first fun _ a => a.projectId = project.1 ∧
    a.publicId = new.appPublicId ∧ a.archivedAt = none) .notFound
  let stage ← expect (db.stages.first fun _ e => e.projectId = project.1 ∧
    e.publicId = new.environmentPublicId ∧ e.archivedAt = none) .notFound
  pure (new.row project.1 app.1 stage.1 cluster.1)

/-- The unique indexes of `app_environments`. -/
def insertAppEnvironment (environments : Table AppEnvironment) (ae : AppEnvironment) :
    Except Err (Table AppEnvironment) := do
  require (¬ environments.Any fun _ e => e.publicId = ae.publicId) .publicIDCollision
  require (¬ environments.Any fun _ e =>
    e.workspaceId = ae.workspaceId ∧ e.runtimeName = ae.runtimeName ∨
    e.appId = ae.appId ∧ e.environmentId = ae.environmentId ∧ e.archivedAt = none) .conflict
  pure (environments.insert ae)

/-- The volume of a stateful environment is made with it. -/
def createVolumeOf (now : Time) (db : Db) (new : NewAppEnvironment) (appEnvironmentId : ℕ)
    (ae : AppEnvironment) : Except Err Db :=
  match new.workloadKind, new.volume with
  | .stateful, some (request, ids) =>
    createAppVolume now db new.workspaceId new.actorId appEnvironmentId ae request ids
  | _, _ => .ok db

/-- `createAppEnvironmentOnCluster`. -/
def createAppEnvironment (policy : PublicationPolicy) (now : Time) (db : Db)
    (new : NewAppEnvironment) : Except Err Db := do
  require (ValidateWorkloadConfiguration new.workloadKind
    (normalizeRuntimeConfig new.configuration) (new.volume.map Prod.fst)) .database
  let ae ← placeAppEnvironment db new
  let environments ← insertAppEnvironment db.appEnvironments ae
  let adopted ← adoptConfiguration policy { db with appEnvironments := environments }
    db.appEnvironments.nextId ae ae.configuration
  createVolumeOf now adopted new db.appEnvironments.nextId ae

/-! ### Updating and deleting -/

/-- `appEnvironmentForUpdate`. -/
def appEnvironmentForUpdate (db : Db) (workspaceId : ℕ) (publicId : String) :
    Except Err (ℕ × AppEnvironment) :=
  expect (db.appEnvironments.first fun _ ae => ae.workspaceId = workspaceId ∧
    ae.publicId = publicId ∧ ae.archivedAt = none) .notFound

/-- The row of an environment whose branch was changed. -/
def branchRow (branch : String) (ae : AppEnvironment) : AppEnvironment :=
  { ae with sourceBranch := branch, version := ae.version + 1 }

/-- The row of an environment whose configuration was changed. -/
def updateRow (branch : String) (configuration : RuntimeConfig) (ae : AppEnvironment) :
    AppEnvironment :=
  { ae with
    sourceBranch := branch
    configuration := configuration
    configurationVersion := ae.configurationVersion + 1
    version := ae.version + 1 }

/-- The part of `UpdateAppEnvironment` once the row is locked: a configuration equal to the
current one is no change of configuration, and an update that changes nothing writes nothing. -/
def changeConfiguration (policy : PublicationPolicy) (db : Db) (appEnvironmentId : ℕ)
    (current : AppEnvironment) (branch : String) (configuration : RuntimeConfig) :
    Except Err Db :=
  if configuration = current.configuration then
    if branch = current.sourceBranch then .ok db
    else .ok { db with
      appEnvironments := db.appEnvironments.modify (fun i _ => i = appEnvironmentId)
        (branchRow branch) }
  else
    adoptConfiguration policy
      { db with
        appEnvironments := db.appEnvironments.modify (fun i _ => i = appEnvironmentId)
          (updateRow branch configuration) }
      appEnvironmentId (updateRow branch configuration current) configuration

/-- `UpdateAppEnvironment`. -/
def updateAppEnvironment (policy : PublicationPolicy) (db : Db) (workspaceId : ℕ)
    (publicId branch : String) (configuration : RuntimeConfig) (version : ℕ) : Except Err Db := do
  let current ← appEnvironmentForUpdate db workspaceId publicId
  require (current.2.version = version ∧ current.2.deletionRequestedAt = none) .versionConflict
  changeConfiguration policy db current.1 current.2 branch
    (inheritAllocatedPorts (normalizeRuntimeConfig configuration) current.2.configuration)

/-- The request of `DeleteAppEnvironment`. -/
structure EnvironmentDeletion where
  workspaceId : ℕ
  actorId : ℕ
  publicId : String
  version : ℕ
  idempotencyHash : Digest
  payloadHash : Digest
  operationPublicId : String

/-- The operation that deletes an environment, for its next version. -/
def EnvironmentDeletion.operation (request : EnvironmentDeletion) (principalId : ℕ)
    (appEnvironmentId : ℕ) (ae : AppEnvironment) : NewOperation where
  publicId := request.operationPublicId
  workspaceId := request.workspaceId
  appEnvironmentId := some appEnvironmentId
  deploymentId := none
  appVolumeId := none
  requestedByUserId := some request.actorId
  requestedByPrincipalId := principalId
  kind := .deleteAppEnvironment
  idempotencyHash := request.idempotencyHash
  payloadHash := request.payloadHash
  desiredVersion := ae.version + 1

/-- The row of an environment that is to be deleted. -/
def deleteRow (now : Time) (ae : AppEnvironment) : AppEnvironment :=
  { ae with deletionRequestedAt := some now, version := ae.version + 1 }

/-- The part of `DeleteAppEnvironment` after the idempotency key was found to be new. -/
def requestDeletion (now : Time) (db : Db) (request : EnvironmentDeletion) (principalId : ℕ) :
    Except Err Db := do
  let (appEnvironmentId, ae) ← appEnvironmentForUpdate db request.workspaceId request.publicId
  require (ae.version = request.version ∧ ae.deletionRequestedAt = none) .versionConflict
  require (¬ HasActiveOperation db.operations appEnvironmentId) .conflict
  let environments := db.appEnvironments.modify (fun i _ => i = appEnvironmentId) (deleteRow now)
  (insertOperationForPrincipal now { db with appEnvironments := environments } appEnvironmentId
    (request.operation principalId appEnvironmentId ae)).mapError translateDBError

/-- `DeleteAppEnvironment`. -/
def deleteAppEnvironment (now : Time) (db : Db) (request : EnvironmentDeletion) :
    Except Err Db := do
  let principalId ← principalIdForUser db request.actorId
  let existing ← operationByPrincipalIdempotency db request.workspaceId principalId
    request.idempotencyHash request.payloadHash
  match existing with
  | some _ => pure db
  | none => requestDeletion now db request principalId

/-! ### What a committed transaction did -/

section Specs

variable {policy : PublicationPolicy} {now : Time} {db db' : Db}

/-- The database after an environment adopted a configuration: the claims are those of the
reservation, and the environment and the new revision have the configuration with the ports it was
given. -/
abbrev adoptedDb (db : Db) (appEnvironmentId version : ℕ) (claims : Table PublicationClaim)
    (reserved : RuntimeConfig) (bound : Table BoundParameter) : Db :=
  { db with
    publicationClaims := claims
    appEnvironments := db.appEnvironments.modify (fun i _ => i = appEnvironmentId)
      (configureRow reserved)
    boundParameters := bound
    revisions := db.revisions.insert ⟨appEnvironmentId, version, reserved⟩ }

/-- What adopting a configuration does. -/
structure Adopts (policy : PublicationPolicy) (db : Db) (appEnvironmentId : ℕ)
    (ae : AppEnvironment) (configuration : RuntimeConfig) (claims : Table PublicationClaim)
    (reserved : RuntimeConfig) (bound : Table BoundParameter) : Prop where
  ok : adoptConfiguration policy db appEnvironmentId ae configuration =
    .ok (adoptedDb db appEnvironmentId ae.configurationVersion claims reserved bound)
  reserves : reservePublicationClaims policy db.publicationClaims appEnvironmentId
    ae.configurationVersion ae.workloadKind configuration = .ok (claims, reserved)

theorem adoptConfiguration_eq_ok {appEnvironmentId : ℕ} {configuration : RuntimeConfig}
    (h : adoptConfiguration policy db appEnvironmentId ae configuration = .ok db') :
    ∃ claims reserved bound,
      Adopts policy db appEnvironmentId ae configuration claims reserved bound ∧
        db' = adoptedDb db appEnvironmentId ae.configurationVersion claims reserved bound := by
  have hok := h
  simp only [adoptConfiguration, replaceParameterBindings, insertRevision, ok_iff, Prod.exists] at h
  obtain ⟨claims, reserved, hr, _, ⟨bound, -, rfl⟩, -, rfl⟩ := h
  exact ⟨claims, reserved, bound, ⟨hok, hr⟩, rfl⟩

/-- A new environment is on a cluster its workspace is ready on, and is new. -/
theorem placeAppEnvironment_eq_ok {new : NewAppEnvironment}
    (h : placeAppEnvironment db new = .ok ae) :
    ∃ projectId appId stageId clusterId, ae = new.row projectId appId stageId clusterId ∧
      ClusterActive db clusterId := by
  simp only [placeAppEnvironment, ok_iff] at h
  obtain ⟨cluster, hc, _, -, _, -, _, -, rfl⟩ := h
  exact ⟨_, _, _, _, rfl, cluster.2, lookup_of_first hc, (pos_of_first hc).2.1⟩

theorem appEnvironmentForUpdate_eq_ok {workspaceId : ℕ} {publicId : String}
    {r : ℕ × AppEnvironment} (h : appEnvironmentForUpdate db workspaceId publicId = .ok r) :
    db.appEnvironments.lookup r.1 = some r.2 ∧ r.2.workspaceId = workspaceId ∧
      r.2.publicId = publicId ∧ r.2.archivedAt = none := by
  simp only [appEnvironmentForUpdate, expect_eq_ok] at h
  exact ⟨lookup_of_first h, pos_of_first h⟩

end Specs

end Molejo.Store
