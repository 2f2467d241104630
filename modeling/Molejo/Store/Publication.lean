import Mathlib.Data.Int.Order.Basic
import Molejo.Store.Schema

/-!
# Publication claims

A hostname, and the external port of a TCP endpoint, belong to at most one
application environment at a time. The table `publication_claims` is where they are
handed out. Its rows are keyed by hostname and carry two configuration versions:
the *desired* version last reserved the row, the *current* version is the one whose
deployment completed and is being served.

`reservePublicationClaims` runs in every transaction that adopts a configuration,
`activatePublicationClaims` in the one that completes a deployment. The first
writes a row in place: name, type, port and desired version of an existing row are
overwritten, and rows that neither the new configuration nor a live one refers to
are dropped. The second marks the rows of the completed configuration as current
and drops what is neither current nor desired.

Both work on one table. The advisory lock on the TCP pool serialises allocations
and is not modelled: a transaction is one step here.
-/

namespace Molejo.Store

open Transaction

/-! ### Checks -/

/-- The check constraints of `publication_claims`. -/
def ClaimValid (c : PublicationClaim) : Prop :=
  (isLabel c.endpointName.toList = true ∧ c.endpointName.length ≤ 15) ∧
  (isHostname c.hostname.toList = true ∧ c.hostname.length ≤ 253) ∧
  (c.endpointType = .http ∧ c.externalPort = none ∨
    c.endpointType = .tcp ∧ c.externalPort.any (fun p => 1 ≤ p ∧ p ≤ 65535) = true) ∧
  (c.desiredConfigurationVersion ≠ none ∨ c.currentConfigurationVersion ≠ none)
deriving Decidable

/-- Another row than `i` has the external port of `c`: the index
`publication_claims_external_port` refuses `c`. -/
def PortTaken (claims : Table PublicationClaim) (i : ℕ) (c : PublicationClaim) : Prop :=
  claims.Any fun j q => j ≠ i ∧ q.externalPort ≠ none ∧ q.externalPort = c.externalPort
deriving Decidable

/-! ### Reserving -/

/-- The external port an endpoint already has: the one in its configuration, or the one of the
environment's own TCP claim under the same name and hostname. -/
def allocatedPort (claims : Table PublicationClaim) (appEnvironmentId : ℕ)
    (endpoint : PublicEndpoint) (hostname : String) : ℤ :=
  if endpoint.externalPort ≠ 0 then endpoint.externalPort
  else
    ((claims.first fun _ c => c.appEnvironmentId = appEnvironmentId ∧
      c.endpointName = endpoint.name ∧ c.endpointType = .tcp ∧ c.hostname = hostname).bind
        fun r => r.2.externalPort).getD 0

/-- The smallest port of the pool that no claim has. -/
def freePort (policy : PublicationPolicy) (claims : Table PublicationClaim) : Option ℤ :=
  let size := (policy.tcpMaximumPort - policy.tcpMinimumPort + 1).toNat
  ((List.range size).map fun n => policy.tcpMinimumPort + n).find? fun candidate =>
    ¬ claims.Any fun _ c => c.externalPort = some candidate

/-- The external port of an endpoint: none for HTTP; for TCP the one it has, or a free one. -/
def externalPort (policy : PublicationPolicy) (claims : Table PublicationClaim)
    (appEnvironmentId : ℕ) (endpoint : PublicEndpoint) (hostname : String) :
    Except Err (Option ℤ) :=
  match endpoint.type with
  | .http => .ok none
  | .tcp => do
    require (policy.tcpEnabled = true ∧ 1 ≤ policy.tcpMinimumPort ∧
      policy.tcpMinimumPort ≤ policy.tcpMaximumPort) .publicationUnavailable
    let allocated := allocatedPort claims appEnvironmentId endpoint hostname
    if allocated = 0 then
      let candidate ← expect (freePort policy claims) .publicationUnavailable
      pure (some candidate)
    else pure (some allocated)

/-- `INSERT … ON CONFLICT(hostname) DO UPDATE`: take the hostname, or rewrite the row of the
same environment that has it. A violated constraint and a row of another environment are the
same error. -/
def upsertClaim (claims : Table PublicationClaim) (new : PublicationClaim) :
    Except Err (Table PublicationClaim) :=
  match claims.first fun _ c => c.hostname = new.hostname with
  | none => do
    require (ClaimValid new ∧ ¬ PortTaken claims claims.nextId new) .publicationConflict
    pure (claims.insert new)
  | some (i, c) => do
    require (ClaimValid new ∧ ¬ PortTaken claims i new ∧
      c.appEnvironmentId = new.appEnvironmentId) .publicationConflict
    pure (claims.modify (fun j _ => j = i) fun c =>
      { c with
        endpointName := new.endpointName
        endpointType := new.endpointType
        externalPort := new.externalPort
        desiredConfigurationVersion := new.desiredConfigurationVersion })

/-- The row that reserves a hostname for an endpoint. -/
def reservation (appEnvironmentId configurationVersion : ℕ) (endpoint : PublicEndpoint)
    (hostname : String) (port : Option ℤ) : PublicationClaim where
  appEnvironmentId := appEnvironmentId
  endpointName := endpoint.name
  endpointType := endpoint.type
  hostname := hostname
  externalPort := port
  desiredConfigurationVersion := some configurationVersion
  currentConfigurationVersion := none

/-- The endpoint with the port it was given. -/
def withPort (endpoint : PublicEndpoint) : Option ℤ → PublicEndpoint
  | none => endpoint
  | some port => { endpoint with externalPort := port }

/-- The body of the loop of `reservePublicationClaims`. -/
def reserveEndpoint (policy : PublicationPolicy) (claims : Table PublicationClaim)
    (appEnvironmentId configurationVersion : ℕ) (workloadKind : WorkloadKind)
    (endpoint : PublicEndpoint) : Except Err (Table PublicationClaim × PublicEndpoint) := do
  let hostname ← policy.resolve workloadKind endpoint
  let port ← externalPort policy claims appEnvironmentId endpoint hostname
  let claims ← upsertClaim claims
    (reservation appEnvironmentId configurationVersion endpoint hostname port)
  pure (claims, withPort endpoint port)

/-- The loop of `reservePublicationClaims`. -/
def reserveEndpoints (policy : PublicationPolicy) (appEnvironmentId configurationVersion : ℕ)
    (workloadKind : WorkloadKind) :
    Table PublicationClaim → List PublicEndpoint →
      Except Err (Table PublicationClaim × List PublicEndpoint)
  | claims, [] => .ok (claims, [])
  | claims, endpoint :: rest => do
    let reserved ← reserveEndpoint policy claims appEnvironmentId configurationVersion
      workloadKind endpoint
    let tail ← reserveEndpoints policy appEnvironmentId configurationVersion workloadKind
      reserved.1 rest
    pure (tail.1, reserved.2 :: tail.2)

/-- What `reservePublicationClaims` does to the environment's other rows: those that are not
served are dropped, those that are served lose their reservation. -/
def releaseUndesired (claims : Table PublicationClaim)
    (appEnvironmentId configurationVersion : ℕ) : Table PublicationClaim :=
  (claims.delete fun _ c => c.appEnvironmentId = appEnvironmentId ∧
      c.currentConfigurationVersion = none ∧
      c.desiredConfigurationVersion ≠ some configurationVersion).modify
    (fun _ c => c.appEnvironmentId = appEnvironmentId ∧
      c.currentConfigurationVersion ≠ none ∧
      c.desiredConfigurationVersion ≠ some configurationVersion)
    fun c => { c with desiredConfigurationVersion := none }

/-- `reservePublicationClaims`: the claims afterwards, and the configuration with the external
ports filled in. -/
def reservePublicationClaims (policy : PublicationPolicy) (claims : Table PublicationClaim)
    (appEnvironmentId configurationVersion : ℕ) (workloadKind : WorkloadKind)
    (configuration : RuntimeConfig) : Except Err (Table PublicationClaim × RuntimeConfig) := do
  let reserved ← reserveEndpoints policy appEnvironmentId configurationVersion workloadKind
    claims configuration.publicEndpoints
  pure (releaseUndesired reserved.1 appEnvironmentId configurationVersion,
    { configuration with publicEndpoints := reserved.2 })

/-! ### Activating -/

/-- The body of the loop of `activatePublicationClaims`. Since hostnames are unique, one row is
updated or none. -/
def activateEndpoint (policy : PublicationPolicy) (claims : Table PublicationClaim)
    (appEnvironmentId configurationVersion : ℕ) (workloadKind : WorkloadKind)
    (endpoint : PublicEndpoint) : Except Err (Table PublicationClaim) := do
  let hostname ← policy.resolve workloadKind endpoint
  require (claims.Any fun _ c => c.appEnvironmentId = appEnvironmentId ∧ c.hostname = hostname)
    .publicationConflict
  pure (claims.modify
    (fun _ c => c.appEnvironmentId = appEnvironmentId ∧ c.hostname = hostname)
    fun c => { c with currentConfigurationVersion := some configurationVersion })

/-- The loop of `activatePublicationClaims`. -/
def activateEndpoints (policy : PublicationPolicy) (appEnvironmentId configurationVersion : ℕ)
    (workloadKind : WorkloadKind) :
    Table PublicationClaim → List PublicEndpoint → Except Err (Table PublicationClaim)
  | claims, [] => .ok claims
  | claims, endpoint :: rest => do
    let claims ← activateEndpoint policy claims appEnvironmentId configurationVersion
      workloadKind endpoint
    activateEndpoints policy appEnvironmentId configurationVersion workloadKind claims rest

/-- `activatePublicationClaims`. -/
def activatePublicationClaims (policy : PublicationPolicy) (claims : Table PublicationClaim)
    (appEnvironmentId configurationVersion : ℕ) (workloadKind : WorkloadKind)
    (configuration : RuntimeConfig) : Except Err (Table PublicationClaim) := do
  let claims ← activateEndpoints policy appEnvironmentId configurationVersion workloadKind
    claims configuration.publicEndpoints
  pure (claims.delete fun _ c => c.appEnvironmentId = appEnvironmentId ∧
    c.currentConfigurationVersion ≠ some configurationVersion ∧
    c.desiredConfigurationVersion = none)

end Molejo.Store
