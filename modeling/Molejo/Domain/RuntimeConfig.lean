import Mathlib.Data.Int.Notation
import Mathlib.Data.List.Basic
import Molejo.Store.Basic

/-!
# Runtime configurations

A runtime configuration is what a user declares about an application environment:
how many replicas run, which ports they open, which of those are published and
under which hostname, which variables and parameters they see. The store keeps it
as canonical JSON and compares configurations by comparing that JSON; the model
compares the records, which is the same on the fields that are written out.

A public endpoint does not name a hostname. It names a *domain* of the publication
policy and a label under it, and `PublicationPolicy.resolve` composes the two. The
external port of a TCP endpoint is part of the configuration although no user
chooses it: it is filled in when the endpoint is reserved, and
`inheritAllocatedPorts` carries it from one configuration to the next.

The fields `Port`, `Exposure`, `Slug` and `PublicEndpoint.Hostname` are left out:
they are not part of the JSON, so no configuration that was decoded or stored has
them.
-/

namespace Molejo

/-! ### The records -/

/-- `domain.WorkloadKind`. -/
inductive WorkloadKind
  | stateless
  | stateful
deriving DecidableEq

/-- `EndpointHTTP`, `EndpointTCP`. -/
inductive EndpointType
  | http
  | tcp
deriving DecidableEq

/-- `ProbeHTTP`, `ProbeTCP`. -/
inductive ProbeType
  | http
  | tcp
deriving DecidableEq

/-- `PortProtocolTCP`, the only protocol. -/
inductive PortProtocol
  | tcp
deriving DecidableEq

/-- `domain.ResourceValues`. -/
structure ResourceValues where
  cpuMillis : ℤ
  memoryMiB : ℤ
deriving DecidableEq

/-- `domain.Resources`. -/
structure Resources where
  requests : ResourceValues
  limits : ResourceValues
deriving DecidableEq

/-- `domain.Probe`; a type that is not given is `none`. -/
structure Probe where
  type : Option ProbeType
  portName : String
  path : String
deriving DecidableEq

/-- `domain.Probes`. -/
structure Probes where
  startup : Probe
  liveness : Probe
  readiness : Probe
deriving DecidableEq

/-- `domain.RuntimePort`; a protocol that is not given is `none`. -/
structure RuntimePort where
  name : String
  containerPort : ℤ
  protocol : Option PortProtocol
deriving DecidableEq

/-- `domain.PublicEndpoint`. The external port is `0` until one is allocated. -/
structure PublicEndpoint where
  name : String
  type : EndpointType
  portName : String
  domainId : String
  hostnameLabel : String
  externalPort : ℤ
deriving DecidableEq

/-- `domain.Variable`. -/
structure Variable where
  name : String
  value : String
deriving DecidableEq

/-- `domain.ParameterBinding`. -/
structure ParameterBinding where
  name : String
  parameterPublicId : String
  parameterVersion : ℕ
deriving DecidableEq

/-- `domain.RuntimeConfig`; `Variables` is `runtimeVariables`, since the plain word is reserved. -/
structure RuntimeConfig where
  replicas : ℤ
  ports : List RuntimePort
  resources : Resources
  probes : Probes
  publicEndpoints : List PublicEndpoint
  runtimeVariables : List Variable
  parameters : List ParameterBinding
deriving DecidableEq

/-- `domain.VolumeRequest`. -/
structure VolumeRequest where
  storageProfileId : String
  sizeGiB : ℤ
  mountPath : String
deriving DecidableEq

/-! ### Names and paths -/

/-- The pattern `^[a-z0-9](?:[-a-z0-9]*[a-z0-9])?$`, shared by slugs, storage profiles,
endpoint names and hostname labels: letters, digits and inner hyphens. -/
def isLabel (cs : List Char) : Bool :=
  let alphanum := fun c : Char => c.isLower || c.isDigit
  cs.all (fun c => alphanum c || c == '-') && cs.head?.any alphanum && cs.getLast?.any alphanum

/-- The pattern `^[a-z0-9](?:[-a-z0-9]*[a-z0-9])?\.[a-z0-9.-]+$`: a label, a dot, and what
follows. -/
def isHostname (cs : List Char) : Bool :=
  let rest := cs.dropWhile (· != '.')
  isLabel (cs.takeWhile (· != '.')) && decide (1 < rest.length) &&
    rest.all fun c => c.isLower || c.isDigit || c == '.' || c == '-'

/-- A path that is absolute, not the root, and equal to its `path.Clean`: no segment is empty,
`.` or `..`. -/
def isCleanPath (path : String) : Bool :=
  match path.toList with
  | '/' :: rest => (rest.splitOn '/').all fun seg => seg != [] && seg != ['.'] && seg != ['.', '.']
  | _ => false

/-- `ValidateVolumeRequest`. -/
def ValidateVolumeRequest (volume : VolumeRequest) : Prop :=
  (isLabel volume.storageProfileId.toList = true ∧ volume.storageProfileId.length ≤ 63) ∧
  1 ≤ volume.sizeGiB ∧
  (volume.mountPath.utf8ByteSize ≤ 255 ∧ isCleanPath volume.mountPath = true) ∧
  ∀ reserved ∈ ["/dev", "/proc", "/sys"], volume.mountPath ≠ reserved ∧
    ¬ (reserved ++ "/").toList <+: volume.mountPath.toList
deriving Decidable

/-- `ValidateWorkloadConfiguration`: a stateful workload has one replica and a volume, a
stateless one has no volume. -/
def ValidateWorkloadConfiguration (kind : WorkloadKind) (configuration : RuntimeConfig)
    (volume : Option VolumeRequest) : Prop :=
  match kind, volume with
  | .stateless, none => True
  | .stateless, some _ => False
  | .stateful, none => False
  | .stateful, some volume => configuration.replicas = 1 ∧ ValidateVolumeRequest volume

instance (kind : WorkloadKind) (configuration : RuntimeConfig) (volume : Option VolumeRequest) :
    Decidable (ValidateWorkloadConfiguration kind configuration volume) :=
  match kind, volume with
  | .stateless, none => inferInstanceAs (Decidable True)
  | .stateless, some _ => inferInstanceAs (Decidable False)
  | .stateful, none => inferInstanceAs (Decidable False)
  | .stateful, some volume =>
    inferInstanceAs (Decidable (configuration.replicas = 1 ∧ ValidateVolumeRequest volume))

/-- `RuntimeName`. -/
def runtimeName (publicId : String) : String :=
  if "ap-".toList <+: publicId.toList then publicId
  else "ap-" ++ String.ofList (publicId.toList.map fun c => if c = '_' then '-' else c)

/-! ### Defaults -/

/-- The defaults of a probe. -/
def normalizeProbe (defaultPortName : String) (probe : Probe) : Probe where
  type := some (probe.type.getD .http)
  portName := if probe.portName = "" then defaultPortName else probe.portName
  path := probe.path

/-- The defaults of an endpoint. -/
def normalizeEndpoint (endpoint : PublicEndpoint) : PublicEndpoint :=
  { endpoint with domainId := if endpoint.domainId = "" then "default" else endpoint.domainId }

/-- `NormalizeRuntimeConfig`: fill in what a configuration left open. A startup probe that is
not declared is the readiness probe. -/
def normalizeRuntimeConfig (config : RuntimeConfig) : RuntimeConfig :=
  let defaultPortName := (config.ports.head?.map RuntimePort.name).getD ""
  let readiness := normalizeProbe defaultPortName config.probes.readiness
  { config with
    replicas := if config.replicas = 0 then 1 else config.replicas
    ports := config.ports.map fun port =>
      { port with protocol := some (port.protocol.getD .tcp) }
    publicEndpoints := config.publicEndpoints.map normalizeEndpoint
    probes :=
      { readiness := readiness
        liveness := normalizeProbe defaultPortName config.probes.liveness
        startup :=
          if config.probes.startup.type = none ∧ config.probes.startup.path = "" then readiness
          else normalizeProbe defaultPortName config.probes.startup } }

/-! ### The publication policy -/

/-- `PublicationDomain`. -/
structure PublicationDomain where
  id : String
  suffix : String
  workloadKinds : List WorkloadKind
  endpointTypes : List EndpointType
  reservedLabels : List String
deriving DecidableEq

/-- `PublicationPolicy`. -/
structure PublicationPolicy where
  domains : List PublicationDomain
  tcpEnabled : Bool
  tcpMinimumPort : ℤ
  tcpMaximumPort : ℤ
deriving DecidableEq

/-- `PublicationPolicy.Resolve`: the hostname of an endpoint under the first domain that has
its identifier. -/
def PublicationPolicy.resolve (p : PublicationPolicy) (workloadKind : WorkloadKind)
    (endpoint : PublicEndpoint) : Except Err String :=
  match p.domains.find? (·.id = endpoint.domainId) with
  | none => .error .publicationDomainNotAllowed
  | some candidate =>
    if workloadKind ∉ candidate.workloadKinds ∨ endpoint.type ∉ candidate.endpointTypes then
      .error .publicationDomainNotAllowed
    else if endpoint.hostnameLabel ∈ candidate.reservedLabels then
      .error .publicationHostnameReserved
    else .ok (endpoint.hostnameLabel ++ "." ++ candidate.suffix)

/-- The external port a TCP endpoint keeps from an earlier configuration: the one of the first
endpoint there with the same type, name, domain and label, and `0` if there is none. -/
def inheritedPort (endpoint : PublicEndpoint) (current : RuntimeConfig) : ℤ :=
  ((current.publicEndpoints.find? fun existing =>
    existing.type = endpoint.type ∧ existing.name = endpoint.name ∧
      existing.domainId = endpoint.domainId ∧
      existing.hostnameLabel = endpoint.hostnameLabel).map PublicEndpoint.externalPort).getD 0

/-- `inheritAllocatedPorts`: whatever external port the new configuration gave a TCP endpoint
is replaced by the one it had. -/
def inheritAllocatedPorts (configuration current : RuntimeConfig) : RuntimeConfig :=
  { configuration with
    publicEndpoints := configuration.publicEndpoints.map fun endpoint =>
      match endpoint.type with
      | .http => endpoint
      | .tcp => { endpoint with externalPort := inheritedPort endpoint current } }

/-! ### What they preserve -/

/-- Normalising a configuration twice is normalising it once. -/
theorem normalizeRuntimeConfig_idem (config : RuntimeConfig) :
    normalizeRuntimeConfig (normalizeRuntimeConfig config) = normalizeRuntimeConfig config := by
  have hprobe (d : String) (q : Probe) :
      normalizeProbe d (normalizeProbe d q) = normalizeProbe d q := by
    simp only [normalizeProbe, Option.getD_some, Probe.mk.injEq, true_and, and_true]
    split <;> simp_all
  have hname : ((config.ports.map fun port =>
      ({ port with protocol := some (port.protocol.getD .tcp) } : RuntimePort)).head?.map
        RuntimePort.name).getD "" = (config.ports.head?.map RuntimePort.name).getD "" := by
    cases config.ports <;> rfl
  simp only [normalizeRuntimeConfig, hname, hprobe, List.map_map, RuntimeConfig.mk.injEq,
    Probes.mk.injEq, true_and, and_true]
  refine ⟨by split <;> simp_all, rfl, ?_, ?_⟩
  · split
    · rw [if_neg (by simp [normalizeProbe])]
      exact hprobe _ _
    · rw [if_neg (by simp [normalizeProbe])]
      exact hprobe _ _
  · refine List.map_congr_left fun e _ => ?_
    simp only [Function.comp_apply, normalizeEndpoint, PublicEndpoint.mk.injEq, true_and, and_true]
    split <;> simp_all

end Molejo
