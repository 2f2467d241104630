import Molejo.Runtime.AppDeployment
import Molejo.Store.System

/-!
# What an accepted configuration becomes in the cluster

A user declares ports, probes, endpoints, variables and parameters, and the control plane checks
them once (`ValidateRuntimeConfig`). From there on they are only copied: into a command, into an
`AppDeployment`, into a Service and a workload. So whatever Kubernetes asks of these has to follow
from that one check.

For the references to ports it does. For the ports themselves it does not: two of them may have
different names and one number, and a label need not be the name of a service. Nothing else is
missing (`applicable_iff`).
-/

namespace Molejo.Runtime

open Store Transaction Parameters

/-! ### What is accepted -/

/-- `slugPattern`, up to a length. -/
def labelWithin (n : ℕ) (value : String) : Bool :=
  isLabel value.toList && decide (value.length ≤ n)

/-- `validPath`. -/
def validPath (path : String) : Bool :=
  path.toList.head?.any (· == '/') && decide (path.utf8ByteSize ≤ 2048) &&
    path.toList.all fun c => c != '\r' && c != '\n'

/-- `variableNamePattern`, up to a length. -/
def validVariableName (name : String) : Bool :=
  name.toList.head?.any (!·.isDigit) && decide (name.utf8ByteSize ≤ 253) &&
    name.toList.all fun c => c.isAlphanum || c == '_'

/-- `ValidateRuntimeConfig`. -/
structure ValidateRuntimeConfig (config : RuntimeConfig) (maxReplicas maxCPU maxMemory : ℤ) :
    Prop where
  replicas : 1 ≤ config.replicas ∧ config.replicas ≤ maxReplicas
  count : 1 ≤ config.ports.length ∧ config.ports.length ≤ 8
  ports : ∀ p ∈ config.ports, labelWithin 15 p.name = true ∧
    (1 ≤ p.containerPort ∧ p.containerPort ≤ 65535) ∧ p.protocol = some .tcp
  portNames : (config.ports.map RuntimePort.name).Nodup
  cpu : 1 ≤ config.resources.requests.cpuMillis ∧
    config.resources.requests.cpuMillis ≤ config.resources.limits.cpuMillis ∧
    config.resources.limits.cpuMillis ≤ maxCPU
  memory : 1 ≤ config.resources.requests.memoryMiB ∧
    config.resources.requests.memoryMiB ≤ config.resources.limits.memoryMiB ∧
    config.resources.limits.memoryMiB ≤ maxMemory
  probes : ∀ probe ∈ [config.probes.startup, config.probes.readiness, config.probes.liveness],
    probe.portName ∈ config.ports.map RuntimePort.name ∧
      (probe.type = some .http ∧ validPath probe.path = true ∨
        probe.type = some .tcp ∧ probe.path = "")
  endpoints : config.publicEndpoints.length ≤ 2 ∧ ∀ e ∈ config.publicEndpoints,
    labelWithin 15 e.name = true ∧ e.portName ∈ config.ports.map RuntimePort.name ∧
    labelWithin 63 e.hostnameLabel = true ∧ labelWithin 63 e.domainId = true ∧
    (e.externalPort = 0 ∨ e.type = .tcp ∧ 1 ≤ e.externalPort ∧ e.externalPort ≤ 65535)
  endpointNames : (config.publicEndpoints.map PublicEndpoint.name).Nodup
  endpointTypes : (config.publicEndpoints.map PublicEndpoint.type).Nodup
  values : config.runtimeVariables.length + config.parameters.length ≤ 100
  runtimeVariables : ∀ v ∈ config.runtimeVariables, validVariableName v.name = true ∧
    v.value.utf8ByteSize ≤ 4096 ∧ ∀ c ∈ v.value.toList, c ∉ ['\x00', '\r', '\n']
  parameters : ∀ b ∈ config.parameters, validVariableName b.name = true ∧
    PublicIdValid b.parameterPublicId ∧ 1 ≤ b.parameterVersion
  names : (config.runtimeVariables.map Variable.name ++
    config.parameters.map ParameterBinding.name).Nodup

/-! ### What Kubernetes asks for -/

/-- `corev1.ServicePort`. -/
structure ServicePort where
  name : String
  protocol : PortProtocol
  port : ℤ
  targetPort : String
deriving DecidableEq

/-- `configureService`, as much of it as depends on the spec. -/
def configureService (spec : AppDeploymentSpec) : List ServicePort :=
  (effectivePorts spec).map fun p => ⟨p.name, .tcp, p.containerPort, p.name⟩

/-- The port of a probe by `desiredProbe`. -/
def probePort (probe : Probe) : String :=
  if probe.portName = "" then "http" else probe.portName

instance decidableExistsCharIn {p : Char → Prop} [DecidablePred p] (cs : List Char) :
    Decidable (∃ c ∈ cs, p c) :=
  List.decidableBEx p cs

/-- What a label lacks to be the name of a service. -/
def ServiceLike (name : String) : Prop :=
  (∃ c ∈ name.toList, c.isLower = true) ∧ ¬ ['-', '-'] <:+: name.toList
deriving Decidable

/-- A service name of at most 15 characters. -/
def IsServiceName (name : String) : Prop :=
  name.length ≤ 15 ∧ (∀ c ∈ name.toList, c.isLower = true ∨ c.isDigit = true ∨ c = '-') ∧
    name.toList.head? ≠ some '-' ∧ name.toList.getLast? ≠ some '-' ∧ ServiceLike name
deriving Decidable

/-- **The ports of the Service and of the containers are as Kubernetes wants them**, and probes and
endpoints name one of them. -/
def Applicable (spec : AppDeploymentSpec) : Prop :=
  ((configureService spec).map fun p => (p.protocol, p.port)).Nodup ∧
  ((configureService spec).map ServicePort.name).Nodup ∧
  (∀ name ∈ (configureService spec).map ServicePort.name ++
    (workloadSpec spec).template.ports.map AppPort.name, IsServiceName name) ∧
  (∀ probe ∈ [spec.probes.startup, spec.probes.readiness, spec.probes.liveness],
    probePort probe ∈ (configureService spec).map ServicePort.name) ∧
  ∀ e ∈ spec.publicEndpoints, e.portName ∈ (configureService spec).map ServicePort.name
deriving Decidable

theorem isServiceName_iff {name : String} (h : labelWithin 15 name = true) :
    IsServiceName name ↔ ServiceLike name := by
  simp only [labelWithin, isLabel, Bool.and_eq_true, List.all_eq_true, Bool.or_eq_true, beq_iff_eq,
    Option.any_eq_true, decide_eq_true_eq] at h
  obtain ⟨⟨⟨hall, c, hc, hhead⟩, e, he, hlast⟩, hlen⟩ := h
  refine ⟨fun hname => hname.2.2.2.2, fun hlike => ⟨?_, ?_, ?_, ?_, hlike⟩⟩
  · exact hlen
  · exact fun c hc => or_assoc.mp (hall c hc)
  · rintro hdash
    cases hc.symm.trans hdash
    simp at hhead
  · rintro hdash
    cases he.symm.trans hdash
    simp at hlast

section Derived

variable {policy : PublicationPolicy} {secrets : String → ℕ → Except Err String} {db : Db}
  {ae : AppEnvironment} {d : Deployment} {intent : DeploymentIntent} {spec : AppDeploymentSpec}
  {image configMapRef secretRef : String} {maxReplicas maxCPU maxMemory : ℤ}

/-- What of a spec is copied from the command. -/
theorem appDeploymentSpec_eq_ok
    (h : appDeploymentSpec image intent configMapRef secretRef = .ok spec) :
    spec.ports = intent.ports.map (fun p => ⟨p.name, p.containerPort⟩) ∧
      spec.probes = intent.probes ∧
      spec.publicEndpoints = intent.publicEndpoints.map appEndpoint ∧
      spec.runtimeVariables = (if 0 < intent.configurationVersion then []
        else intent.runtimeVariables) ∧
      spec.configMapRef = configMapRef ∧ spec.secretRef = secretRef := by
  unfold appDeploymentSpec at h
  dsimp only at h
  split at h
  · cases h
    exact ⟨rfl, rfl, rfl, rfl, rfl, rfl⟩
  · split at h
    · cases h
    · cases h
      exact ⟨rfl, rfl, rfl, rfl, rfl, rfl⟩

/-- **Which accepted configurations are applicable**: those whose ports have different numbers, and
names with a letter and without two hyphens in a row. -/
theorem applicable_iff
    (hvalid : ValidateRuntimeConfig (normalizeRuntimeConfig d.configuration) maxReplicas maxCPU
      maxMemory)
    (hintent : deploymentIntent policy secrets db ae d = .ok intent)
    (hspec : appDeploymentSpec image intent configMapRef secretRef = .ok spec) :
    Applicable spec ↔ (d.configuration.ports.map RuntimePort.containerPort).Nodup ∧
      ∀ p ∈ d.configuration.ports, ServiceLike p.name := by
  simp only [deploymentIntent, ok_iff] at hintent
  obtain ⟨endpoints, hendpoints, _, -, _, -, _, -, rfl⟩ := hintent
  obtain ⟨hports, hprobes, hpublic, -⟩ := appDeploymentSpec_eq_ok hspec
  have heffective : effectivePorts spec = spec.ports := by
    refine if_neg (List.length_pos_iff.mp ?_)
    rw [hports, List.length_map]
    exact hvalid.count.1
  have hnames : (configureService spec).map ServicePort.name =
      (normalizeRuntimeConfig d.configuration).ports.map RuntimePort.name := by
    simp only [configureService, heffective, hports, List.map_map, Function.comp_def]
  have hpairs : (configureService spec).map (fun p => (p.protocol, p.port)) =
      (d.configuration.ports.map RuntimePort.containerPort).map (PortProtocol.tcp, ·) := by
    simp only [configureService, heffective, hports, normalizeRuntimeConfig, List.map_map,
      Function.comp_def]
  have hmem : ∀ {name}, name ∈ (normalizeRuntimeConfig d.configuration).ports.map
      RuntimePort.name ↔ ∃ p ∈ d.configuration.ports, p.name = name := by
    simp [normalizeRuntimeConfig]
  have hlabel : ∀ p ∈ d.configuration.ports, labelWithin 15 p.name = true := by
    intro p hp
    obtain ⟨_, hq, hname⟩ := List.mem_map.mp (hmem.mpr ⟨p, hp, rfl⟩)
    exact hname ▸ (hvalid.ports _ hq).1
  have hcontainers : (workloadSpec spec).template.ports.map AppPort.name =
      (configureService spec).map ServicePort.name := by
    simp only [workloadSpec, configureService, List.map_map, Function.comp_def]
  unfold Applicable
  rw [hcontainers, hpairs, hnames, List.nodup_map_iff (Prod.mk_right_injective _)]
  constructor
  · rintro ⟨hnumbers, -, hservice, -⟩
    refine ⟨hnumbers, fun p hp => ?_⟩
    exact (hservice p.name (List.mem_append_left _ (hmem.mpr ⟨p, hp, rfl⟩))).2.2.2.2
  rintro ⟨hnumbers, hlike⟩
  refine ⟨hnumbers, hvalid.portNames, fun name hname => ?_, fun probe hp => ?_, fun e he => ?_⟩
  · obtain ⟨p, hp, rfl⟩ := hmem.mp ((List.mem_append.mp hname).elim id id)
    exact (isServiceName_iff (hlabel p hp)).mpr (hlike p hp)
  · rw [hprobes] at hp
    have hport := (hvalid.probes probe hp).1
    obtain ⟨p, hp, hname⟩ := hmem.mp hport
    have hempty : probe.portName ≠ "" := by
      intro hempty
      have := hlabel p hp
      rw [hname, hempty] at this
      cases this
    rwa [probePort, if_neg hempty]
  · rw [hpublic] at he
    obtain ⟨r, hr, rfl⟩ := List.mem_map.mp he
    obtain ⟨e', he', hresolve⟩ := mem_of_mapM_eq_ok hendpoints hr
    simp only [resolveEndpoint, ok_iff] at hresolve
    obtain ⟨_, -, rfl⟩ := hresolve
    exact (hvalid.endpoints.2 e' he').2.1

end Derived

/-! ### Two configurations -/

/-- An environment that was just created. -/
def someEnvironment : AppEnvironment :=
  ((step smallPolicy smallStore (.createAppEnvironment (newEnvironment "env-one"
    []))).db.appEnvironments.lookup 1).get (by decide +kernel)

/-- The first deployment of it, with two ports. -/
def twoPorts (name : String) (containerPort : ℤ) : Deployment where
  publicId := "dep-one"
  workspaceId := 1
  appEnvironmentId := 1
  appId := 1
  releaseId := 1
  requestedByUserId := some 1
  requestedByPrincipalId := 7
  configurationVersion := 1
  configuration :=
    { smallConfig [] with ports := [⟨"http", 8080, none⟩, ⟨name, containerPort, none⟩] }
  workloadKind := .stateless
  appVolumeId := none
  status := .pending
  message := ""
  observedRelease := ""
  startedAt := none
  completedAt := none

/-- The configuration of a deployment is accepted, and `P` holds of what becomes of it. -/
def Derived (d : Deployment) (P : AppDeploymentSpec → Prop) : Prop :=
  ValidateRuntimeConfig (normalizeRuntimeConfig d.configuration) 1 200 256 ∧
  ∃ intent spec, deploymentIntent smallPolicy (fun _ _ => .error .notFound) smallStore.db
      someEnvironment d = .ok intent ∧
    appDeploymentSpec "image@one" intent "ap-env-one-c1" "" = .ok spec ∧ P spec

/-- Two numbers and two names of services. -/
theorem applicable_twoPorts : Derived (twoPorts "admin" 8081) Applicable := by
  have hvalid : ValidateRuntimeConfig
      (normalizeRuntimeConfig (twoPorts "admin" 8081).configuration) 1 200 256 := by
    constructor <;> decide
  have hintent : deploymentIntent smallPolicy (fun _ _ => .error .notFound) smallStore.db
      someEnvironment (twoPorts "admin" 8081) = .ok _ := rfl
  exact ⟨hvalid, _, _, hintent, rfl, (applicable_iff hvalid hintent rfl).mpr (by decide)⟩

/-- **Accepted, and refused by Kubernetes**: one number under two names, and a name without a
letter. -/
theorem not_applicable_twoPorts :
    Derived (twoPorts "admin" 8080) (fun spec => ¬ Applicable spec) ∧
      Derived (twoPorts "1" 8081) (fun spec => ¬ Applicable spec) := by
  refine ⟨⟨?_, _, _, rfl, rfl, by decide⟩, ?_, _, _, rfl, rfl, by decide⟩ <;>
    constructor <;> decide

end Molejo.Runtime
