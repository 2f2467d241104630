import Molejo.Store.Deployment

/-!
# Preparing a command

When an operation has been claimed, the worker prepares the command that the Agent is to carry
out (`commandPayload`). Most of a command is copied from rows. What a deployment binds to
parameters is not: a binding names a parameter and a version, and the value is looked up when
the command is prepared – plain text in the database (`resolveParameterBindings`), and secrets in
the key–value store, which is a function here.

The rows of the environment and of the deployment are read with the claim, and the rest
afterwards. Nothing that a command takes from the two rows changes later, so they are read
here together with the rest.
-/

namespace Molejo.Store

open Transaction

/-! ### Payloads -/

/-- `runtimecontract.WorkspacePlacementIntent`. -/
structure WorkspacePlacementIntent where
  workspaceId : String
  namespaceName : String
  accessProfile : String
  lifecycleState : String
deriving DecidableEq

/-- `runtimecontract.VolumeIntent`. -/
structure VolumeIntent where
  runtimeBinding : String
  sizeGiB : ℤ
  retentionPolicy : String
  desiredState : VolumeDesiredState
deriving DecidableEq

/-- `runtimecontract.PublicEndpoint`: an endpoint with its hostname. -/
structure ResolvedEndpoint where
  name : String
  type : EndpointType
  portName : String
  hostnameLabel : String
  hostname : String
  externalPort : ℤ
deriving DecidableEq

/-- `runtimecontract.AppVolume`. -/
structure MountedVolume where
  publicId : String
  mountPath : String
  sizeGiB : ℤ
  retentionPolicy : String
deriving DecidableEq

/-- `runtimecontract.DeploymentIntent`. The image is not part of the model. -/
structure DeploymentIntent where
  replicas : ℤ
  configurationVersion : ℕ
  workloadKind : WorkloadKind
  resources : Resources
  probes : Probes
  ports : List RuntimePort
  publicEndpoints : List ResolvedEndpoint
  /-- `Variables`. -/
  runtimeVariables : List Variable
  secretVariables : List Variable
  volume : Option MountedVolume
deriving DecidableEq

/-- `runtimecontract.Payload`. -/
structure Payload where
  /-- `Namespace`. -/
  namespaceName : String
  name : String
  placement : Option WorkspacePlacementIntent
  volume : Option VolumeIntent
  deployment : Option DeploymentIntent
deriving DecidableEq

/-- `app_volumes_retention_valid`: the only retention policy. -/
def preserve : String := "Preserve"

/-! ### Parameters -/

/-- `domain.ResolvedParameter`. -/
structure ResolvedParameter where
  binding : ParameterBinding
  kind : Parameters.Kind
  plainTextValue : String
  secretReference : String
  secretBackendVersion : ℕ
deriving DecidableEq

/-- The parameter that a binding names. -/
def boundParameter (db : Parameters.Tables) (workspaceId : ℕ) (binding : ParameterBinding) :
    Option (ℕ × Parameters.Parameter) :=
  db.parameters.first fun _ p => p.workspaceId = workspaceId ∧
    p.publicId = binding.parameterPublicId

/-- The version of the parameter `parameterId` that a binding names. -/
def boundVersion (db : Parameters.Tables) (parameterId : ℕ) (binding : ParameterBinding) :
    Option (ℕ × Parameters.ParameterVersion) :=
  db.versions.first fun _ v => v.parameterId = parameterId ∧
    v.version = binding.parameterVersion

/-- The body of the loop of `ResolveParameterBindings`. The query looks at no state: neither of
the parameter nor of the version. A value that is `NULL` is the empty text. -/
def resolveParameterBinding (db : Parameters.Tables) (workspaceId : ℕ)
    (binding : ParameterBinding) : Except Err ResolvedParameter := do
  let p ← expect (boundParameter db workspaceId binding) .notFound
  let v ← expect (boundVersion db p.1 binding) .notFound
  return {
    binding := binding
    kind := p.2.kind
    plainTextValue := v.2.plaintextValue.getD ""
    secretReference := v.2.secretReference.getD ""
    secretBackendVersion := v.2.secretBackendVersion.getD 0 }

/-- `ResolveParameterBindings`. -/
def resolveParameterBindings (db : Parameters.Tables) (workspaceId : ℕ)
    (bindings : List ParameterBinding) : Except Err (List ResolvedParameter) :=
  bindings.mapM (resolveParameterBinding db workspaceId)

/-- The body of the loop of `commandPayload` over the parameters, on the variables and the secret
variables. -/
def addParameter (secrets : String → ℕ → Except Err String)
    (acc : List Variable × List Variable) (parameter : ResolvedParameter) :
    Except Err (List Variable × List Variable) :=
  match parameter.kind with
  | .plainText => .ok (acc.1 ++ [⟨parameter.binding.name, parameter.plainTextValue⟩], acc.2)
  | .secret => do
    let value ← secrets parameter.secretReference parameter.secretBackendVersion
    return (acc.1, acc.2 ++ [⟨parameter.binding.name, value⟩])

/-- The variable that a resolved parameter adds to the environment. -/
def plainVariable (r : ResolvedParameter) : Option Variable :=
  if r.kind = .plainText then some ⟨r.binding.name, r.plainTextValue⟩ else none

/-- The secret variable that it adds. -/
def secretVariable (secrets : String → ℕ → Except Err String) (r : ResolvedParameter) :
    Except Err Variable := do
  let value ← secrets r.secretReference r.secretBackendVersion
  return ⟨r.binding.name, value⟩

/-- The loop over the parameters adds the plain ones and the secret ones, each in their order and
under their names. -/
theorem variables_of_addParameter {secrets : String → ℕ → Except Err String}
    {rs : List ResolvedParameter} {acc acc' : List Variable × List Variable}
    (h : rs.foldlM (addParameter secrets) acc = .ok acc') :
    ∃ vs, (rs.filter (·.kind = .secret)).mapM (secretVariable secrets) = .ok vs ∧
      acc' = (acc.1 ++ rs.filterMap plainVariable, acc.2 ++ vs) ∧
      ((rs.filterMap plainVariable ++ vs).map Variable.name).Perm
        (rs.map fun r => r.binding.name) := by
  induction rs generalizing acc with
  | nil =>
    cases h
    exact ⟨[], rfl, by simp⟩
  | cons r _ ih =>
    simp only [List.foldlM_cons, bind_eq_ok] at h
    obtain ⟨_, hadd, hrest⟩ := h
    obtain ⟨vs, hvs, rfl, hperm⟩ := ih hrest
    unfold addParameter at hadd
    cases hk : r.kind with
    | plainText =>
      simp only [hk] at hadd
      cases hadd
      refine ⟨vs, by simpa [hk] using hvs, ?_⟩
      simpa [plainVariable, hk] using hperm
    | secret =>
      simp only [hk, ok_iff] at hadd
      obtain ⟨value, hvalue, rfl⟩ := hadd
      refine ⟨⟨r.binding.name, value⟩ :: vs, ?_, by simp [plainVariable, hk], ?_⟩
      · simp [hk, secretVariable, hvalue, hvs]
      · simp only [List.filterMap_cons, plainVariable, hk, reduceCtorEq, if_false,
          List.map_append, List.map_cons] at hperm ⊢
        exact List.perm_middle.trans (hperm.cons _)

/-! ### Commands -/

/-- The endpoint of a command. -/
def resolveEndpoint (policy : PublicationPolicy) (workloadKind : WorkloadKind)
    (endpoint : PublicEndpoint) : Except Err ResolvedEndpoint := do
  let hostname ← policy.resolve workloadKind endpoint
  return ⟨endpoint.name, endpoint.type, endpoint.portName, endpoint.hostnameLabel, hostname,
    endpoint.externalPort⟩

/-- `FindAppVolume`, as much of it as a command has. -/
def findAppVolume (db : Db) (workspaceId : ℕ) (appEnvironmentPublicId : String) :
    Except Err MountedVolume := do
  let v ← expect (db.appVolumes.first fun _ v => v.workspaceId = workspaceId ∧
    ∃ ae ∈ db.appEnvironments.lookup v.appEnvironmentId, ae.publicId = appEnvironmentPublicId)
    .notFound
  return ⟨v.2.publicId, v.2.mountPath, v.2.requestedSizeGiB, preserve⟩

/-- The volume of a deployment: only a stateful one has it. -/
def commandVolume (db : Db) (ae : AppEnvironment) (d : Deployment) :
    Except Err (Option MountedVolume) :=
  match d.workloadKind with
  | .stateless => .ok none
  | .stateful => do
    let v ← findAppVolume db d.workspaceId ae.publicId
    return some v

/-- The deployment of a command. -/
def deploymentIntent (policy : PublicationPolicy) (secrets : String → ℕ → Except Err String)
    (db : Db) (ae : AppEnvironment) (d : Deployment) : Except Err DeploymentIntent := do
  let configuration := normalizeRuntimeConfig d.configuration
  let endpoints ← configuration.publicEndpoints.mapM (resolveEndpoint policy d.workloadKind)
  let volume ← commandVolume db ae d
  let resolved ← resolveParameterBindings db.toTables d.workspaceId d.configuration.parameters
  let added ← resolved.foldlM (addParameter secrets) (configuration.runtimeVariables, [])
  return {
    replicas := configuration.replicas
    configurationVersion := d.configurationVersion
    workloadKind := d.workloadKind
    resources := configuration.resources
    probes := configuration.probes
    ports := configuration.ports
    publicEndpoints := endpoints
    runtimeVariables := added.1
    secretVariables := added.2
    volume := volume }

/-- `VolumeRuntime`, as much of it as a command has. -/
def volumeIntent (db : Db) (workspaceId volumeId : ℕ) : Except Err (String × VolumeIntent) := do
  let v ← expect (db.appVolumes.first fun i v => v.workspaceId = workspaceId ∧ i = volumeId)
    .notFound
  return (v.2.publicId, ⟨v.2.runtimeStorageClassName, v.2.requestedSizeGiB, preserve,
    v.2.desiredState⟩)

/-- `commandPayload`. -/
def commandPayload (policy : PublicationPolicy) (secrets : String → ℕ → Except Err String)
    (db : Db) (op : Operation) : Except Err Payload := do
  if op.kind = .ensureWorkspace then
    let workspace ← expect (db.workspaces.lookup op.workspaceId) .database
    return ⟨workspace.namespaceName, workspace.publicId,
      some ⟨workspace.publicId, workspace.namespaceName, "NamespacedRuntime", "Ready"⟩, none, none⟩
  let ae ← expect (op.appEnvironmentId.bind db.appEnvironments.lookup) .database
  let workspace ← expect (db.workspaces.lookup ae.workspaceId) .database
  if op.kind = .deleteAppEnvironment then
    return ⟨workspace.namespaceName, ae.runtimeName, none, none, none⟩
  match op.appVolumeId with
  | some volumeId =>
    let (name, volume) ← volumeIntent db ae.workspaceId volumeId
    return ⟨workspace.namespaceName, name, none, some volume, none⟩
  | none =>
    let d ← expect (op.deploymentId.bind db.deployments.lookup) .database
    let intent ← deploymentIntent policy secrets db ae d
    return ⟨workspace.namespaceName, ae.runtimeName, none, none, some intent⟩

/-- A command with a deployment is one for the deployment of its operation. -/
theorem commandPayload_deployment {policy : PublicationPolicy}
    {secrets : String → ℕ → Except Err String} {db : Db} {op : Operation} {payload : Payload}
    {intent : DeploymentIntent} (h : commandPayload policy secrets db op = .ok payload)
    (hi : payload.deployment = some intent) :
    ∃ ae d, op.appEnvironmentId.bind db.appEnvironments.lookup = some ae ∧
      op.deploymentId.bind db.deployments.lookup = some d ∧
      deploymentIntent policy secrets db ae d = .ok intent := by
  unfold commandPayload at h
  split at h
  · simp only [ok_iff] at h
    obtain ⟨_, -, rfl⟩ := h
    cases hi
  simp only [ok_iff] at h
  obtain ⟨ae, hae, _, -, h⟩ := h
  split at h
  · cases h
    cases hi
  split at h
  · simp only [ok_iff, Prod.exists] at h
    obtain ⟨_, _, -, rfl⟩ := h
    cases hi
  · simp only [ok_iff] at h
    obtain ⟨d, hd, _, hintent, rfl⟩ := h
    cases hi
    exact ⟨ae, d, hae, hd, hintent⟩

end Molejo.Store
