import Molejo.Domain.RuntimeConfig
import Molejo.Parameters.Store

/-!
# The tables of the store

The rows of the control plane's database that its runtime side works on:
application environments with their configuration revisions, deployments and
volumes, the *operations* that carry work to a cluster's Agent, and the claims
that reserve hostnames and external ports. Next to them stand the tables that this
side only reads – projects, applications, environments, users, releases, storage
profiles and the parameters.

Columns that no modelled function reads (`created_at`, `updated_at`, descriptions,
audit events) are left out. A nullable column is an `Option`; an identity column is
the key of the table.
-/

namespace Molejo

/-! ### States -/

/-- The column `status` of `operations`. -/
inductive OperationStatus
  | pending
  | running
  | succeeded
  | failed
deriving DecidableEq

/-- The column `kind` of `operations`. -/
inductive OperationKind
  | ensureWorkspace
  | ensureVolume
  | expandVolume
  | deleteVolume
  | applyDeployment
  | deleteAppEnvironment
deriving DecidableEq

/-- The column `last_state` of `app_environments` and `status` of `deployments`. -/
inductive RuntimeState
  | pending
  | progressing
  | ready
  | degraded
  | unknown
deriving DecidableEq

/-- The column `desired_state` of `app_volumes`. -/
inductive VolumeDesiredState
  | ready
  | deleted
deriving DecidableEq

/-- The column `observed_state` of `app_volumes`. -/
inductive VolumeState
  | pending
  | provisioning
  | ready
  | expanding
  | retained
  | degraded
deriving DecidableEq

/-- The states `app_volumes_observed_state_valid` admits, as an Agent spells them. -/
def VolumeState.ofString? : String → Option VolumeState
  | "Pending" => some .pending
  | "Provisioning" => some .provisioning
  | "Ready" => some .ready
  | "Expanding" => some .expanding
  | "Retained" => some .retained
  | "Degraded" => some .degraded
  | _ => none

/-- The column `status` of `agent_installations`. -/
inductive InstallationStatus
  | pending
  | active
  | revoked
deriving DecidableEq

/-- The column `status` of `agent_credentials`. -/
inductive CredentialStatus
  | active
  | superseded
  | revoked
deriving DecidableEq

/-! ### Rows the runtime side only reads -/

/-- A row of `users`. -/
structure User where
  principalId : ℕ
deriving DecidableEq

/-- A row of `projects`. -/
structure Project where
  publicId : String
  workspaceId : ℕ
  archivedAt : Option Time
deriving DecidableEq

/-- A row of `apps`. -/
structure App where
  publicId : String
  projectId : ℕ
  archivedAt : Option Time
deriving DecidableEq

/-- A row of `environments`, the stages of a project. -/
structure Environment where
  publicId : String
  projectId : ℕ
  archivedAt : Option Time
deriving DecidableEq

/-- A row of `releases`; `available` says that `availability_status` is `Available`. -/
structure Release where
  publicId : String
  workspaceId : ℕ
  appId : ℕ
  buildId : Option ℕ
  available : Bool
deriving DecidableEq

/-- A row of `storage_profiles`. -/
structure StorageProfile where
  profileId : String
  minimumSizeGiB : ℤ
  maximumSizeGiB : ℤ
  totalCapacityGiB : ℤ
  workspaceQuotaGiB : ℤ
  expandable : Bool
  enabled : Bool
deriving DecidableEq

/-- A row of `cluster_storage_bindings`; `healthy` says that `health` is `Healthy`. -/
structure StorageBinding where
  clusterId : ℕ
  storageProfileId : String
  storageClassName : String
  version : ℕ
  healthy : Bool
  expiresAt : Time
deriving DecidableEq

/-- The tables other parts of the control plane own: the runtime side reads them only. -/
structure Surroundings extends Parameters.Tables where
  users : Table User
  projects : Table Project
  apps : Table App
  stages : Table Environment
  releases : Table Release
  storageProfiles : Table StorageProfile
  storageBindings : Table StorageBinding

/-! ### Rows the runtime side writes -/

/-- A row of `agent_installations`: one cluster and its Agent. -/
structure Installation where
  publicId : String
  status : InstallationStatus
  controlSessionId : Option String
  controlSessionSequence : ℕ
  revokedAt : Option Time
  revocationReason : Option String
deriving DecidableEq

/-- A row of `agent_credentials`. -/
structure Credential where
  installationId : ℕ
  status : CredentialStatus
  overlapNotAfter : Option Time
deriving DecidableEq

/-- A row of `workspace_clusters`. -/
structure WorkspaceCluster where
  workspaceId : ℕ
  installationId : ℕ
  namespaceName : String
  state : ProvisioningState
  message : String
  observedGeneration : ℕ
deriving DecidableEq

/-- A row of `app_environments`: an application placed on a stage of its project. -/
structure AppEnvironment where
  publicId : String
  workspaceId : ℕ
  projectId : ℕ
  appId : ℕ
  environmentId : ℕ
  clusterId : Option ℕ
  sourceBranch : String
  runtimeName : String
  workloadKind : WorkloadKind
  configuration : RuntimeConfig
  configurationVersion : ℕ
  version : ℕ
  desiredDeploymentId : Option ℕ
  currentDeploymentId : Option ℕ
  currentReleaseId : Option ℕ
  lastState : RuntimeState
  lastMessage : String
  deletionRequestedAt : Option Time
  archivedAt : Option Time
  runtimeObservedGeneration : ℕ
  runtimeObservedAt : Option Time
  reconciliationGeneration : ℕ
  runtimeDesiredVersion : ℕ
  runtimeSpecHash : Option String
deriving DecidableEq

/-- An environment without what is merely reported about it. -/
def AppEnvironment.core (ae : AppEnvironment) : AppEnvironment :=
  { ae with
    lastState := .pending
    lastMessage := ""
    runtimeObservedGeneration := 0
    runtimeObservedAt := none
    reconciliationGeneration := 0 }

/-- A row of `app_environment_configuration_revisions`. -/
structure Revision where
  appEnvironmentId : ℕ
  version : ℕ
  configuration : RuntimeConfig
deriving DecidableEq

/-- A row of `app_environment_parameter_bindings`. -/
structure BoundParameter where
  appEnvironmentId : ℕ
  environmentName : String
  parameterId : ℕ
  parameterVersion : ℕ
deriving DecidableEq

/-- A row of `deployments`. -/
structure Deployment where
  publicId : String
  workspaceId : ℕ
  appEnvironmentId : ℕ
  appId : ℕ
  releaseId : ℕ
  requestedByUserId : Option ℕ
  requestedByPrincipalId : ℕ
  configurationVersion : ℕ
  configuration : RuntimeConfig
  workloadKind : WorkloadKind
  appVolumeId : Option ℕ
  status : RuntimeState
  message : String
  observedRelease : String
  startedAt : Option Time
  completedAt : Option Time
deriving DecidableEq

/-- A deployment without what became of it. -/
def Deployment.core (d : Deployment) : Deployment :=
  { d with
    status := .pending
    message := ""
    observedRelease := ""
    startedAt := none
    completedAt := none }

/-- A row of `app_volumes`. -/
structure AppVolume where
  publicId : String
  workspaceId : ℕ
  appEnvironmentId : ℕ
  storageProfileId : String
  requestedSizeGiB : ℤ
  observedSizeGiB : ℤ
  mountPath : String
  runtimeStorageClassName : String
  storageBindingVersion : ℕ
  desiredState : VolumeDesiredState
  observedState : VolumeState
  message : String
  version : ℕ
  deletionRequestedAt : Option Time
  runtimeDesiredVersion : ℕ
  runtimeSpecHash : Option String
  runtimeReconciliationGeneration : ℕ
deriving DecidableEq

/-- A volume without what is merely reported about it. -/
def AppVolume.core (v : AppVolume) : AppVolume :=
  { v with
    observedState := .pending
    message := ""
    observedSizeGiB := 0
    runtimeDesiredVersion := 0
    runtimeSpecHash := none
    runtimeReconciliationGeneration := 0 }

/-- A row of `publication_claims`: a hostname, and for TCP an external port, held by one
application environment. The *desired* version is the configuration that last reserved it, the
*current* one the configuration that serves it. -/
structure PublicationClaim where
  appEnvironmentId : ℕ
  endpointName : String
  endpointType : EndpointType
  hostname : String
  externalPort : Option ℤ
  desiredConfigurationVersion : Option ℕ
  currentConfigurationVersion : Option ℕ
deriving DecidableEq

/-- A row of `operations`: one piece of work for the Agent of a cluster. -/
structure Operation where
  publicId : String
  workspaceId : ℕ
  appEnvironmentId : Option ℕ
  deploymentId : Option ℕ
  appVolumeId : Option ℕ
  agentInstallationId : Option ℕ
  requestedByUserId : Option ℕ
  requestedByPrincipalId : ℕ
  kind : OperationKind
  status : OperationStatus
  idempotencyHash : Digest
  payloadHash : Digest
  desiredVersion : ℕ
  attempts : ℕ
  nextAttemptAt : Time
  leaseUntil : Option Time
  workerId : Option String
  fencingToken : ℕ
  errorCode : String
  errorMessage : String
  startedAt : Option Time
  completedAt : Option Time
deriving DecidableEq

/-- An operation that is `Pending` or `Running`. -/
def Operation.Active (o : Operation) : Prop :=
  o.status = .pending ∨ o.status = .running
deriving Decidable

/-- A digest of 64 hexadecimal digits: `validRuntimeSpecHash`, `validSpecHash`, and the check
constraints on `runtime_spec_hash`. -/
def SpecHashValid (hash : String) : Prop :=
  hash.length = 64 ∧ ∀ c ∈ hash.toList, c.isDigit ∨ ('a' ≤ c ∧ c ≤ 'f')
deriving Decidable

/-- The database. -/
structure Db extends Surroundings where
  installations : Table Installation
  credentials : Table Credential
  workspaceClusters : Table WorkspaceCluster
  appEnvironments : Table AppEnvironment
  revisions : Table Revision
  boundParameters : Table BoundParameter
  deployments : Table Deployment
  appVolumes : Table AppVolume
  publicationClaims : Table PublicationClaim
  operations : Table Operation

end Molejo
