import Molejo.Store.Cluster
import Molejo.Store.Deployment
import Molejo.Store.Dispatch

/-!
# The store at work

The state of the store is its database, the time, and what its workers hold: every
operation that was ever claimed or reloaded, as it was then. A worker that was slow,
disconnected or replaced may use what it holds at any later time, so a step may take
any of them up again.

An action is one transaction of one method, with the request as its argument; the
identities that a method draws are part of the request. Three kinds of action are
not requests: the clock moves, another part of the control plane changes the tables
it owns, and a worker reloads an operation. A transaction that fails changes
nothing, so that a run is a list of actions and every interleaving of any number of
workers is a run.

`Initial` says what the store starts from: no environment, no volume, no operation,
nothing reserved and nothing held – and any workspaces, users, clusters and
releases.
-/

namespace Molejo.Store

open Transaction

/-! ### States and actions -/

/-- The state of the store and its workers. -/
structure State where
  now : Time
  db : Db
  /-- Every operation handed to a worker, as it was then. -/
  held : Table ClaimedOperation

/-- One step of the store, of a worker, or of what surrounds them. -/
inductive Action
  /-- Time passes. -/
  | tick (seconds : ℕ)
  /-- Other parts of the control plane change the tables they own. -/
  | elsewhere (surroundings : Surroundings)
  | activateAgent (publicId sessionId : String)
  | touchAgent (publicId sessionId : String) (sequence : ℕ)
  | attachWorkspaceCluster (request : Attachment)
  | revokeCluster (publicId reason : String)
  | createAppEnvironment (request : NewAppEnvironment)
  | updateAppEnvironment (workspaceId : ℕ) (publicId branch : String)
      (configuration : RuntimeConfig) (version : ℕ)
  | deleteAppEnvironment (request : EnvironmentDeletion)
  | expandAppVolume (change : VolumeChange) (requestedSizeGiB : ℤ)
  | deleteAppVolume (change : VolumeChange)
  | createDeployment (request : DeploymentRequest)
  | reconcile (ids : ℕ → String) (heartbeat : Heartbeat)
  /-- `ClaimNext` if `installation` is empty, `ClaimNextForAgent` otherwise. -/
  | claimNext (worker installation : String) (lease : ℕ)
  /-- `ClaimedOperationForAgent`. -/
  | reload (installation operationPublicId : String) (fencingToken : ℕ)
  /-- `HandleResult`, with the operation that was reloaded for it. -/
  | handleResult (held : ℕ) (result : RuntimeResult)
  /-- `Fail`, from `Abandon` or from a command that could not be prepared. -/
  | fail (held : ℕ) (code message : String) (retry : Bool)
  | releaseClaims (worker : String)

/-- The actions that open and touch sessions. -/
def Action.OfSession : Action → Prop
  | .activateAgent .. | .touchAgent .. => True
  | .tick _ | .elsewhere _ | .attachWorkspaceCluster _ | .revokeCluster .. | .createAppEnvironment _
  | .updateAppEnvironment .. | .deleteAppEnvironment _ | .expandAppVolume .. | .deleteAppVolume _
  | .createDeployment _ | .reconcile .. | .claimNext .. | .reload .. | .handleResult .. | .fail ..
  | .releaseClaims _ => False

/-- What other parts of the control plane may not do: foreign keys keep the users and workspaces
that exist, and neither changes its principal or its namespace. -/
def Surroundings.Keeps (old new : Surroundings) : Prop :=
  (∀ i u, old.users.lookup i = some u → new.users.lookup i = some u) ∧
  ∀ i w, old.workspaces.lookup i = some w →
    ∃ w' ∈ new.workspaces.lookup i, w'.namespaceName = w.namespaceName
deriving Decidable

/-! ### Steps -/

/-- Run a transaction. -/
def State.transact (s : State) (x : Except Err Db) : State :=
  { s with db := commit s.db x }

/-- The call an action makes with the operation held under a key, if it makes one. -/
def Action.call? : Action → Option (ℕ × (Operation → Call))
  | .handleResult k result => some (k, fun op => answer op result)
  | .fail k code message retry => some (k, fun _ => .fail code message retry)
  | _ => none

/-- The call a worker makes with an operation it holds. -/
def heldCall (policy : PublicationPolicy) (s : State) (k : ℕ) (call : Operation → Call) :
    Except Err Db :=
  match s.held.lookup k with
  | none => .error .leaseLost
  | some op => execute policy s.now s.db op (call op.2)

/-- A worker claims an operation and holds it. -/
def claim (s : State) (worker installation : String) (lease : ℕ) : State :=
  match claimNext s.now lease worker installation s.db with
  | .ok (some (db, op)) => { s with db := db, held := s.held.insert op }
  | _ => s

/-- A worker reloads an operation and holds it. -/
def reload (s : State) (installation operationPublicId : String) (fencingToken : ℕ) : State :=
  match claimedOperationForAgent s.now installation operationPublicId fencingToken s.db with
  | .ok op => { s with held := s.held.insert op }
  | .error _ => s

/-- One step. -/
def step (policy : PublicationPolicy) (s : State) : Action → State
  | .tick seconds => { s with now := s.now + seconds }
  | .elsewhere surroundings =>
    if Surroundings.Keeps s.db.toSurroundings surroundings then
      { s with db := { s.db with toSurroundings := surroundings } }
    else s
  | .activateAgent publicId sessionId => s.transact (activateAgent s.db publicId sessionId)
  | .touchAgent publicId sessionId sequence =>
    s.transact (touchAgent s.db publicId sessionId sequence)
  | .attachWorkspaceCluster request => s.transact (attachWorkspaceCluster s.now s.db request)
  | .revokeCluster publicId reason => s.transact (revokeCluster s.now s.db publicId reason)
  | .createAppEnvironment request =>
    s.transact (createAppEnvironment policy s.now s.db request)
  | .updateAppEnvironment workspaceId publicId branch configuration version =>
    s.transact (updateAppEnvironment policy s.db workspaceId publicId branch configuration version)
  | .deleteAppEnvironment request => s.transact (deleteAppEnvironment s.now s.db request)
  | .expandAppVolume change requestedSizeGiB =>
    s.transact (expandAppVolume s.now s.db change requestedSizeGiB)
  | .deleteAppVolume change => s.transact (deleteAppVolume s.now s.db change)
  | .createDeployment request => s.transact (createDeployment policy s.now s.db request)
  | .reconcile ids heartbeat =>
    s.transact (reconcileAgentObservations s.now ids s.db heartbeat)
  | .claimNext worker installation lease => claim s worker installation lease
  | .reload installation operationPublicId fencingToken =>
    reload s installation operationPublicId fencingToken
  | .handleResult k result => s.transact (heldCall policy s k fun op => answer op result)
  | .fail k code message retry => s.transact (heldCall policy s k fun _ => .fail code message retry)
  | .releaseClaims worker => { s with db := releaseClaims s.now s.db worker }

/-- The operation an action completes: the call completes it and its transaction commits. -/
def completed (policy : PublicationPolicy) (s : State) (a : Action) : Option ClaimedOperation :=
  match a.call? with
  | none => none
  | some (k, f) =>
    match s.held.lookup k with
    | none => none
    | some op =>
      if (f op.2).Completes ∧ (execute policy s.now s.db op (f op.2)).isOk = true then some op
      else none

/-- The operation an action claims. -/
def claimed (s : State) : Action → Option ClaimedOperation
  | .claimNext worker installation lease =>
    match claimNext s.now lease worker installation s.db with
    | .ok (some (_, op)) => some op
    | _ => none
  | _ => none

/-- The configuration whose endpoints an action reserves for an environment that is there, with
the environment and its kind. -/
def adopted (s : State) : Action → Option (ℕ × WorkloadKind × RuntimeConfig)
  | .updateAppEnvironment workspaceId publicId _ configuration _ =>
    match appEnvironmentForUpdate s.db workspaceId publicId with
    | .ok (i, ae) => some (i, ae.workloadKind,
      inheritAllocatedPorts (normalizeRuntimeConfig configuration) ae.configuration)
    | .error _ => none
  | .createDeployment request =>
    match appEnvironmentForUpdate s.db request.workspaceId request.appEnvironmentPublicId with
    | .ok (i, ae) =>
      match configurationRevision s.db i request.configurationVersion with
      | .ok revision => some (i, ae.workloadKind,
        inheritAllocatedPorts revision.configuration ae.configuration)
      | .error _ => none
    | .error _ => none
  | _ => none

/-- What the store starts from. -/
structure Initial (s : State) : Prop where
  environments : s.db.appEnvironments = .empty
  revisions : s.db.revisions = .empty
  boundParameters : s.db.boundParameters = .empty
  deployments : s.db.deployments = .empty
  volumes : s.db.appVolumes = .empty
  claims : s.db.publicationClaims = .empty
  operations : s.db.operations = .empty
  held : s.held = .empty

/-! ### A small store -/

/-- One domain, and a pool of two ports. -/
def smallPolicy : PublicationPolicy where
  domains := [⟨"default", "apps.test", [.stateless, .stateful], [.http, .tcp], ["cloud"]⟩]
  tcpEnabled := true
  tcpMinimumPort := 7000
  tcpMaximumPort := 7001

/-- One workspace that is ready on one cluster, with a project, two applications and a release of
each, and nothing deployed. -/
def smallStore : State where
  now := 0
  db :=
    { workspaces := Table.empty.insert ⟨"wsp-one", "ws-one", .ready⟩
      parameters := .empty
      versions := .empty
      reservations := .empty
      users := Table.empty.insert ⟨7⟩
      projects := Table.empty.insert ⟨"prj-one", 1, none⟩
      apps := (Table.empty.insert ⟨"app-one", 1, none⟩).insert ⟨"app-two", 1, none⟩
      stages := Table.empty.insert ⟨"stg-one", 1, none⟩
      releases := (Table.empty.insert ⟨"rel-one", 1, 1, none, true⟩).insert
        ⟨"rel-two", 1, 2, none, true⟩
      storageProfiles := Table.empty.insert ⟨"standard", 1, 10, 100, 50, true, true⟩
      storageBindings := Table.empty.insert ⟨1, "standard", "local-path", 1, true, 1000⟩
      installations := Table.empty.insert ⟨"cls-one", .active, none, 0, none, none⟩
      credentials := .empty
      workspaceClusters := Table.empty.insert ⟨1, 1, "ws-one", .ready, "", 1⟩
      appEnvironments := .empty
      revisions := .empty
      boundParameters := .empty
      deployments := .empty
      appVolumes := .empty
      publicationClaims := .empty
      operations := .empty }
  held := .empty

theorem smallStore_initial : Initial smallStore :=
  ⟨rfl, rfl, rfl, rfl, rfl, rfl, rfl, rfl⟩

/-- A configuration with one port, that publishes the given endpoints. -/
def smallConfig (endpoints : List PublicEndpoint) : RuntimeConfig where
  replicas := 1
  ports := [⟨"http", 8080, some .tcp⟩]
  resources := ⟨⟨100, 128⟩, ⟨200, 256⟩⟩
  probes := ⟨⟨some .http, "http", "/"⟩, ⟨some .http, "http", "/"⟩, ⟨some .http, "http", "/"⟩⟩
  publicEndpoints := endpoints
  runtimeVariables := []
  parameters := []

/-- A request for an environment of the first application. -/
def newEnvironment (publicId : String) (endpoints : List PublicEndpoint) : NewAppEnvironment where
  workspaceId := 1
  actorId := 1
  publicId := publicId
  projectPublicId := "prj-one"
  appPublicId := "app-one"
  environmentPublicId := "stg-one"
  clusterPublicId := "cls-one"
  branch := "main"
  workloadKind := .stateless
  configuration := smallConfig endpoints
  volume := none

/-- The request that first deploys an environment, at the version it has. -/
def firstDeployment (appEnvironmentPublicId : String) (version : ℕ) : DeploymentRequest where
  workspaceId := 1
  actorUserId := some 1
  actorPrincipalId := 7
  deploymentPublicId := "dep-one"
  appEnvironmentPublicId := appEnvironmentPublicId
  releasePublicId := "rel-one"
  configurationVersion := 1
  expectedVersion := version
  expectedCurrentDeploymentPublicId := ""
  idempotencyHash := sha256 "deploy-one"
  payloadHash := sha256 "payload-one"
  operationPublicId := "op-one"

/-- The result of a command that went well, for the second version of an environment. -/
def goodResult : RuntimeResult where
  errorCode := ""
  retryable := false
  state := "Ready"
  message := ""
  desiredVersion := 2
  specHash := "0123456789abcdef0123456789abcdef0123456789abcdef0123456789abcdef"
  observedRelease := "rel-one"
  volumeState := ""
  volumeMessage := ""
  observedSizeGiB := 0

/-- A request for an environment with a volume. -/
def statefulEnvironment : NewAppEnvironment :=
  { newEnvironment "env-one" [] with
    workloadKind := .stateful
    volume := some (⟨"standard", 10, "/data"⟩,
      ⟨"vol-one", "op-volume", sha256 "payload-volume"⟩) }

/-- The result of a command on a volume that went well, for the given version of the volume. -/
def volumeResult (state : String) (version : ℕ) : RuntimeResult :=
  { goodResult with desiredVersion := version, volumeState := state, observedSizeGiB := 10 }

end Molejo.Store
