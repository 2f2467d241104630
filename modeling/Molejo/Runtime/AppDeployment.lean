import Molejo.Runtime.Configuration
import Molejo.Store.Dispatch

/-!
# The runtime intent of an environment

An `AppDeployment` is what the control plane wants to run for one environment. The Agent writes its
spec from a command (`appDeploymentSpec`), and the operator keeps a workload, a service and routes
according to it. This file has the spec, and what is read off it: the ports and the template of the
workload, the endpoints and their hostnames.
-/

namespace Molejo.Runtime

open Store

/-! ### The spec -/

/-- `AppDeploymentWorkload`. -/
inductive Workload
  | stateless
  | stateful (volumeRef mountPath : String)
deriving DecidableEq

/-- `AppDeploymentPort`. -/
structure AppPort where
  name : String
  containerPort : ℤ
deriving DecidableEq

/-- `AppDeploymentPublicEndpoint`. -/
structure AppEndpoint where
  name : String
  type : EndpointType
  portName : String
  hostnameLabel : String
  hostname : String
  externalPort : Option ℤ
deriving DecidableEq

/-- `AppDeploymentSpec`. -/
structure AppDeploymentSpec where
  workload : Workload
  image : String
  replicas : Option ℤ
  ports : List AppPort
  /-- Kept for older objects, as are `exposed` and `slug`. -/
  port : ℤ
  resources : Resources
  probes : Probes
  publicEndpoints : List AppEndpoint
  /-- `Exposure` is `Public`. -/
  exposed : Bool
  slug : String
  /-- `Variables`. -/
  runtimeVariables : List Variable
  configMapRef : String
  secretRef : String
deriving DecidableEq

/-- The endpoints of an `AppDeployment`. -/
def appEndpoint (endpoint : ResolvedEndpoint) : AppEndpoint where
  name := endpoint.name
  type := endpoint.type
  portName := endpoint.portName
  hostnameLabel := endpoint.hostnameLabel
  hostname := endpoint.hostname
  externalPort := if endpoint.externalPort ≠ 0 then some endpoint.externalPort else none

/-- The spec that `ApplyDeployment` writes. The last HTTP endpoint gives the slug. -/
def appDeploymentSpec (image : String) (intent : DeploymentIntent)
    (configMapRef secretRef : String) : Except RuntimeErr AppDeploymentSpec := do
  let http := intent.publicEndpoints.filter fun e => e.type = .http
  let workload ← match intent.workloadKind with
    | .stateless => .ok Workload.stateless
    | .stateful =>
      match intent.volume with
      | none => .error .failed
      | some volume => .ok (.stateful volume.publicId volume.mountPath)
  return {
    workload := workload
    image := image
    replicas := some intent.replicas
    ports := intent.ports.map fun p => ⟨p.name, p.containerPort⟩
    port := (intent.ports.head?.map RuntimePort.containerPort).getD 0
    resources := intent.resources
    probes := intent.probes
    publicEndpoints := intent.publicEndpoints.map appEndpoint
    exposed := !http.isEmpty
    slug := (http.getLast?.map ResolvedEndpoint.hostnameLabel).getD ""
    runtimeVariables := if 0 < intent.configurationVersion then [] else intent.runtimeVariables
    configMapRef := configMapRef
    secretRef := secretRef }

/-! ### What the operator makes of it -/

/-- `effectivePorts`. -/
def effectivePorts (spec : AppDeploymentSpec) : List AppPort :=
  if spec.ports = [] then [⟨"http", spec.port⟩] else spec.ports

/-- `desiredReplicas`. -/
def desiredReplicas (spec : AppDeploymentSpec) : ℤ := spec.replicas.getD 1

/-- What the pods of a workload depend on. -/
structure PodTemplate where
  image : String
  environment : List Variable
  configMapRef : String
  secretRef : String
  ports : List AppPort
  resources : Resources
  probes : Probes
  volume : Option (String × String)
deriving DecidableEq

/-- The spec of a `Deployment` or a `StatefulSet`. -/
structure WorkloadSpec where
  replicas : ℤ
  template : PodTemplate
deriving DecidableEq

/-- `configureDeployment` and `configureStatefulSet`, as much of them as depends on the spec. -/
def workloadSpec (spec : AppDeploymentSpec) : WorkloadSpec where
  replicas :=
    match spec.workload with
    | .stateless => desiredReplicas spec
    | .stateful .. => 1
  template :=
    { image := spec.image
      environment := spec.runtimeVariables
      configMapRef := spec.configMapRef
      secretRef := spec.secretRef
      ports := effectivePorts spec
      resources := spec.resources
      probes := spec.probes
      volume :=
        match spec.workload with
        | .stateless => none
        | .stateful volumeRef mountPath => some (volumeRef, mountPath) }

/-- `publicEndpoint`. -/
def publicEndpoint (spec : AppDeploymentSpec) (type : EndpointType) : Option AppEndpoint :=
  match spec.publicEndpoints.find? fun e => e.type = type with
  | some endpoint => some endpoint
  | none =>
    if type = .http ∧ spec.exposed then some ⟨"web", .http, "http", spec.slug, "", none⟩ else none

/-- `publicEndpointHostname`. -/
def publicEndpointHostname (endpoint : AppEndpoint) : String :=
  if endpoint.hostname ≠ "" then endpoint.hostname else endpoint.hostnameLabel ++ ".molejo.dev"

end Molejo.Runtime
