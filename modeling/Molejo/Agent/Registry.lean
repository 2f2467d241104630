import Molejo.Store.Cluster

/-!
# The identities of Agents

A cluster is enrolled once. An administrator invites it, which makes an *installation* with
one enrollment token. The Agent of the cluster presents the token with a certificate signing
request and gets a certificate, which is kept as the `Active` *credential* of the
installation. With the certificate it opens sessions (`activateAgent`), counts its
heartbeats in them (`touchAgent`) and, before the certificate expires, exchanges it for the
next one (`renewAgent`); the credential it had is then `Superseded`, and good for heartbeats
for one more hour at most. Revoking the cluster revokes all its credentials.

Requests are made with an *attempt id* that the Agent chooses. If an answer is lost, the Agent
repeats the attempt with the same signing request, and is given the certificate that was issued
for it.

This file follows the methods of the store write by write. The part of a method that a session
of the control plane sees is also modelled, without the credentials, in `Molejo.Store`;
`Molejo.Agent.Sessions` shows that the two agree.
-/

namespace Molejo.Agent

open Transaction Store

/-! ### Rows -/

/-- A value of the type `[]byte`. -/
abbrev Bytes := List UInt8

/-- The columns of a certificate. -/
structure Certificate where
  certificatePem : Bytes
  caCertificatePem : Bytes
  serverCaPem : Bytes
  serial : String
  fingerprint : Bytes
  notAfter : Time
  trustBundleId : String
deriving DecidableEq

/-- `AgentCertificate`: a certificate and the public id of the installation it is for. -/
structure AgentCertificate extends Certificate where
  installationId : String
deriving DecidableEq

/-- A row of `agent_installations`. -/
structure AgentInstallation where
  publicId : String
  name : String
  status : InstallationStatus
  clusterUid : Option String
  /-- The attempt that consumed the enrollment token, and its signing request. -/
  enrollmentAttemptId : Option String
  csrFingerprint : Option Bytes
  controlSessionId : Option String
  controlSessionSequence : ℕ
  revokedAt : Option Time
  revocationReason : Option String
deriving DecidableEq

/-- A row of `agent_enrollment_tokens`. -/
structure EnrollmentToken where
  installationId : ℕ
  tokenHash : Bytes
  expiresAt : Time
  consumedAt : Option Time
deriving DecidableEq

/-- A row of `agent_credentials`. -/
structure AgentCredential extends Certificate where
  installationId : ℕ
  status : CredentialStatus
  enrollmentAttemptId : Option String
  csrFingerprint : Option Bytes
  overlapNotAfter : Option Time
deriving DecidableEq

/-- The tables of the registry. -/
structure Registry where
  installations : Table AgentInstallation
  tokens : Table EnrollmentToken
  credentials : Table AgentCredential

/-! ### Invitations -/

/-- The row of a new installation. -/
def newInstallation (publicId name : String) : AgentInstallation where
  publicId := publicId
  name := name
  status := .pending
  clusterUid := none
  enrollmentAttemptId := none
  csrFingerprint := none
  controlSessionId := none
  controlSessionSequence := 0
  revokedAt := none
  revocationReason := none

/-- An invitation, with the name of the cluster without surrounding blanks. -/
structure Invitation where
  publicId : String
  name : String
  tokenHash : Bytes
  expiresAt : Time

/-- What both ways to invite a cluster check first. -/
def Invitation.Valid (now : Time) (v : Invitation) : Prop :=
  isBlank v.name = false ∧ v.name.utf8ByteSize ≤ 80 ∧ v.tokenHash ≠ [] ∧ now < v.expiresAt
deriving Decidable

/-- The two inserts of an invitation: the installation and its token. -/
def invite (g : Registry) (v : Invitation) : Except Err Registry := do
  require (¬ g.installations.Any fun _ r => r.publicId = v.publicId) .uniqueViolation
  require (¬ g.tokens.Any fun _ t => t.tokenHash = v.tokenHash) .uniqueViolation
  pure { g with
    installations := g.installations.insert (newInstallation v.publicId v.name)
    tokens := g.tokens.insert
      { installationId := g.installations.nextId
        tokenHash := v.tokenHash
        expiresAt := v.expiresAt
        consumedAt := none } }

/-- `CreateAgentInstallation`. -/
def createAgentInstallation (now : Time) (g : Registry) (v : Invitation) :
    Except Err Registry := do
  require (v.Valid now) .agentEnrollmentInvalid
  invite g v

/-- The part of `EnsureBootstrapAgentInstallation` about the registry. The installation that is
not there is made in the name of `administrator`, if there is one. -/
def ensureBootstrapAgentInstallation (now : Time) (g : Registry) (v : Invitation)
    (administrator : Option ℕ) : Except Err Registry := do
  require (v.publicId ≠ "" ∧ v.Valid now) .agentEnrollmentInvalid
  match g.installations.first fun _ r => r.publicId = v.publicId with
  | none => do
    let _ ← expect administrator .database
    invite g v
  | some (i, r) =>
    if r.status = .active then pure g
    else do
      require (r.status = .pending) .agentEnrollmentInvalid
      require (g.tokens.Any fun _ t => t.installationId = i ∧ t.consumedAt = none)
        .agentEnrollmentConsumed
      require (¬ g.tokens.Any fun _ t => t.tokenHash = v.tokenHash ∧ t.installationId ≠ i)
        .uniqueViolation
      pure { g with
        tokens := g.tokens.modify (fun _ t => t.installationId = i ∧ t.consumedAt = none) fun t =>
          { t with tokenHash := v.tokenHash, expiresAt := v.expiresAt } }

/-- `ReissueClusterEnrollment`. -/
def reissueClusterEnrollment (now : Time) (g : Registry) (publicId : String) (tokenHash : Bytes)
    (expiresAt : Time) : Except Err Registry := do
  require (tokenHash ≠ [] ∧ now < expiresAt) .agentEnrollmentInvalid
  let r ← expect (g.installations.first fun _ r => r.publicId = publicId) .clusterNotFound
  require (r.2.status = .pending) .clusterNotPending
  require (¬ g.tokens.Any fun _ t => t.tokenHash = tokenHash ∧ t.installationId ≠ r.1)
    .uniqueViolation
  let token : EnrollmentToken :=
    { installationId := r.1, tokenHash := tokenHash, expiresAt := expiresAt, consumedAt := none }
  if g.tokens.Any fun _ t => t.installationId = r.1 then
    pure { g with tokens := g.tokens.modify (fun _ t => t.installationId = r.1) fun _ => token }
  else pure { g with tokens := g.tokens.insert token }

/-! ### Credentials -/

/-- `validTrustBundleID`. -/
def validTrustBundleId (value : String) : Bool :=
  value.utf8ByteSize = 64 && value.toList.all fun c =>
    ('0' ≤ c && c ≤ '9') || ('a' ≤ c && c ≤ 'f')

/-- The certificate as it is kept: the CA stands in for a missing CA of the server. -/
def Certificate.withServerCa (c : Certificate) : Certificate :=
  { c with serverCaPem := if c.serverCaPem = [] then c.caCertificatePem else c.serverCaPem }

/-- `validateIssuedCredential`. -/
def IssuedValid (now : Time) (issued : Certificate) : Prop :=
  issued.certificatePem ≠ [] ∧ issued.caCertificatePem ≠ [] ∧
    issued.withServerCa.serverCaPem ≠ [] ∧ issued.serial ≠ "" ∧ issued.fingerprint ≠ [] ∧
    validTrustBundleId issued.trustBundleId = true ∧ now < issued.notAfter
deriving Decidable

/-- The unique indexes of `agent_credentials` refuse the row: a fingerprint is there once, an
installation has one `Active` credential, and one credential for each attempt. -/
def CredentialTaken (credentials : Table AgentCredential) (new : AgentCredential) : Prop :=
  credentials.Any fun _ c => c.fingerprint = new.fingerprint ∨
    (c.installationId = new.installationId ∧ c.status = .active ∧ new.status = .active) ∨
    (c.installationId = new.installationId ∧ c.enrollmentAttemptId ≠ none ∧
      c.enrollmentAttemptId = new.enrollmentAttemptId)
deriving Decidable

/-- The row of a credential that was just issued. -/
def issuedRow (installationId : ℕ) (attemptId : String) (csrFingerprint : Bytes)
    (issued : Certificate) : AgentCredential where
  toCertificate := issued.withServerCa
  installationId := installationId
  status := .active
  enrollmentAttemptId := some attemptId
  csrFingerprint := some csrFingerprint
  overlapNotAfter := none

/-- `insertAgentCredential`, for the status `Active`. -/
def insertAgentCredential (credentials : Table AgentCredential) (installationId : ℕ)
    (attemptId : String) (csrFingerprint : Bytes) (issued : Certificate) :
    Except Err (Table AgentCredential) := do
  let new := issuedRow installationId attemptId csrFingerprint issued
  require (¬ CredentialTaken credentials new) .uniqueViolation
  pure (credentials.insert new)

/-- `credentialForAttempt`: what was issued for the attempt, if the signing request is the same. -/
def credentialForAttempt (credentials : Table AgentCredential) (installationId : ℕ)
    (attemptId : String) (csrFingerprint : Bytes) : Option Certificate :=
  match credentials.first fun _ c => c.installationId = installationId ∧
      c.enrollmentAttemptId = some attemptId with
  | none => none
  | some (_, c) => if c.csrFingerprint = some csrFingerprint then some c.toCertificate else none

/-- `validCredential`: the status of the credential with the fingerprint, if it can still be
used. -/
def validCredential (now : Time) (credentials : Table AgentCredential) (installationId : ℕ)
    (fingerprint : Bytes) : Except Err CredentialStatus := do
  let c ← expect (credentials.first fun _ c => c.installationId = installationId ∧
    c.fingerprint = fingerprint) .agentIdentityMismatch
  require (now < c.2.notAfter ∧ c.2.status ≠ .revoked) .agentIdentityMismatch
  require (c.2.status = .superseded → ∃ t ∈ c.2.overlapNotAfter, now < t) .agentIdentityMismatch
  pure c.2.status

/-! ### Enrolling and renewing -/

/-- A request for a certificate. `issue` is what the signer makes of the signing request. -/
structure SigningRequest where
  attemptId : String
  csrFingerprint : Bytes
  issue : String → Except Err Certificate

/-- What both methods check of a request first. -/
def SigningRequest.Valid (r : SigningRequest) : Prop :=
  isBlank r.attemptId = false ∧ r.csrFingerprint ≠ []
deriving Decidable

/-- The installation after its token was consumed. -/
def enrolledRow (r : SigningRequest) (row : AgentInstallation) : AgentInstallation :=
  { row with
    enrollmentAttemptId := some r.attemptId
    csrFingerprint := some r.csrFingerprint }

/-- `EnrollAgent`. A token that was consumed gives the certificate of the attempt again. -/
def enrollAgent (now : Time) (g : Registry) (tokenHash : Bytes) (r : SigningRequest) :
    Except Err (Registry × AgentCertificate) := do
  require (tokenHash ≠ [] ∧ r.Valid) .agentEnrollmentInvalid
  let token ← expect (g.tokens.first fun _ t => t.tokenHash = tokenHash) .agentEnrollmentInvalid
  let i := token.2.installationId
  let installation ← expect (g.installations.lookup i) .agentEnrollmentInvalid
  require (¬ (token.2.expiresAt ≤ now ∧ token.2.consumedAt = none) ∧
    installation.status ≠ .revoked) .agentEnrollmentInvalid
  if token.2.consumedAt ≠ none then do
    let certificate ← expect (credentialForAttempt g.credentials i r.attemptId r.csrFingerprint)
      .agentEnrollmentConsumed
    pure (g, ⟨certificate, installation.publicId⟩)
  else do
    let issued ← r.issue installation.publicId
    require (IssuedValid now issued) .incompleteCertificate
    let credentials ← insertAgentCredential g.credentials i r.attemptId r.csrFingerprint issued
    pure
      ({ installations := g.installations.modify (fun j _ => j = i) (enrolledRow r)
         tokens := g.tokens.modify (fun _ t => t.installationId = i) fun t =>
           { t with consumedAt := some now }
         credentials := credentials },
        ⟨issued, installation.publicId⟩)

/-- `agentCredentialOverlap`. -/
def agentCredentialOverlap : Time := 3600

/-- The row of a credential that was exchanged for another one. -/
def supersededRow (now : Time) (c : AgentCredential) : AgentCredential :=
  { c with
    status := .superseded
    overlapNotAfter := some (min c.notAfter (now + agentCredentialOverlap)) }

/-- `RenewAgent`. -/
def renewAgent (now : Time) (g : Registry) (publicId : String) (currentFingerprint : Bytes)
    (r : SigningRequest) : Except Err (Registry × AgentCertificate) := do
  require (publicId ≠ "" ∧ currentFingerprint ≠ [] ∧ r.Valid) .agentIdentityMismatch
  let installation ← expect (g.installations.first fun _ row => row.publicId = publicId)
    .agentIdentityMismatch
  let i := installation.1
  require (installation.2.status = .active) .agentIdentityMismatch
  let status ← validCredential now g.credentials i currentFingerprint
  match credentialForAttempt g.credentials i r.attemptId r.csrFingerprint with
  | some existing => pure (g, ⟨existing, publicId⟩)
  | none => do
    require (status = .active) .agentIdentityMismatch
    let issued ← r.issue publicId
    require (IssuedValid now issued) .incompleteCertificate
    let credentials ← insertAgentCredential
      (g.credentials.modify (fun _ c => c.installationId = i ∧ c.status = .active)
        (supersededRow now)) i r.attemptId r.csrFingerprint issued
    pure ({ g with credentials := credentials }, ⟨issued, publicId⟩)

/-! ### Sessions -/

/-- `ParseProvisioningMode` accepts the value. -/
def validProvisioningMode (value : String) : Bool :=
  trimSpace value ∈ ["", "Disabled", "Namespaced"]

/-- What an Agent says when it connects. -/
structure Hello where
  publicId : String
  fingerprint : Bytes
  clusterUid : String
  agentVersion : String
  kubernetesVersion : String
  capabilities : List String
  provisioningMode : String
  trustBundleId : String
  sessionId : String

/-- What `ActivateAgent` checks before it reads the database. -/
def Hello.Valid (h : Hello) : Prop :=
  validProvisioningMode h.provisioningMode = true ∧ isBlank h.clusterUid = false ∧
    isBlank h.agentVersion = false ∧ isBlank h.kubernetesVersion = false ∧
    h.capabilities ≠ [] ∧ (h.trustBundleId ≠ "" → validTrustBundleId h.trustBundleId = true) ∧
    isBlank h.sessionId = false ∧ h.sessionId.utf8ByteSize ≤ 80
deriving Decidable

/-- The row of an installation whose Agent has connected. -/
def activatedRow (h : Hello) (row : AgentInstallation) : AgentInstallation :=
  { row with
    status := .active
    clusterUid := some h.clusterUid
    controlSessionId := some h.sessionId
    controlSessionSequence := 0 }

/-- `ActivateAgent`. The second component says that the Agent had never connected before. -/
def activateAgent (now : Time) (g : Registry) (h : Hello) : Except Err (Registry × Bool) := do
  require h.Valid .agentIdentityMismatch
  let installation ← expect (g.installations.first fun _ row => row.publicId = h.publicId)
    .agentIdentityMismatch
  require (installation.2.status ≠ .revoked ∧
    ∀ uid ∈ installation.2.clusterUid, uid = h.clusterUid) .agentIdentityMismatch
  let status ← validCredential now g.credentials installation.1 h.fingerprint
  require (status = .active) .agentIdentityMismatch
  require (¬ g.installations.Any fun j row => j ≠ installation.1 ∧
    row.clusterUid = some h.clusterUid ∧ row.status ≠ .revoked) .uniqueViolation
  pure ({ g with
    installations := g.installations.modify (fun j _ => j = installation.1) (activatedRow h) },
    installation.2.status = .pending)

/-- `TouchAgent`. -/
def touchAgent (now : Time) (g : Registry) (publicId : String) (fingerprint : Bytes)
    (sessionId : String) (sequence : ℕ) : Except Err Registry := do
  require (isBlank sessionId = false ∧ SequenceValid sequence) .agentIdentityMismatch
  let installation ← expect (g.installations.first fun _ row => row.publicId = publicId)
    .agentIdentityMismatch
  require (installation.2.status = .active) .agentIdentityMismatch
  let _ ← validCredential now g.credentials installation.1 fingerprint
  require (installation.2.controlSessionId = some sessionId ∧
    installation.2.controlSessionSequence < sequence) .agentIdentityMismatch
  pure { g with
    installations := g.installations.modify (fun j _ => j = installation.1) fun row =>
      { row with controlSessionSequence := sequence } }

/-! ### Revoking -/

/-- The row of an installation that is revoked. -/
def revokedInstallationRow (now : Time) (reason : String) (row : AgentInstallation) :
    AgentInstallation :=
  { row with
    status := .revoked
    revokedAt := some now
    revocationReason := some reason
    controlSessionId := none
    controlSessionSequence := 0 }

/-- The row of a credential that is revoked. -/
def revokedCredentialRow (c : AgentCredential) : AgentCredential :=
  { c with status := .revoked, overlapNotAfter := none }

/-- The part of `RevokeCluster` about the registry. -/
def revokeCluster (now : Time) (g : Registry) (publicId reason : String) :
    Except Err Registry := do
  require (trimSpace reason ≠ "" ∧ (trimSpace reason).utf8ByteSize ≤ 500) .agentEnrollmentInvalid
  let r ← expect (g.installations.first fun _ row => row.publicId = publicId) .clusterNotFound
  if r.2.status = .revoked then pure g
  else pure { g with
    installations := g.installations.modify (fun j _ => j = r.1)
      (revokedInstallationRow now (trimSpace reason))
    credentials := g.credentials.modify (fun _ c => c.installationId = r.1)
      revokedCredentialRow }

/-! ### Runs -/

/-- The registry at a point in time. -/
structure State where
  now : Time
  registry : Registry

/-- One call, or the passing of time. -/
inductive Action
  | tick (seconds : ℕ)
  | createAgentInstallation (invitation : Invitation)
  | ensureBootstrapAgentInstallation (invitation : Invitation) (administrator : Option ℕ)
  | reissueClusterEnrollment (publicId : String) (tokenHash : Bytes) (expiresAt : Time)
  | enrollAgent (tokenHash : Bytes) (request : SigningRequest)
  | renewAgent (publicId : String) (currentFingerprint : Bytes) (request : SigningRequest)
  | activateAgent (hello : Hello)
  | touchAgent (publicId : String) (fingerprint : Bytes) (sessionId : String) (sequence : ℕ)
  | revokeCluster (publicId reason : String)

/-- What a call makes of the registry. -/
def attempt (now : Time) (g : Registry) : Action → Except Err Registry
  | .tick _ => .ok g
  | .createAgentInstallation invitation => createAgentInstallation now g invitation
  | .ensureBootstrapAgentInstallation invitation administrator =>
    ensureBootstrapAgentInstallation now g invitation administrator
  | .reissueClusterEnrollment publicId tokenHash expiresAt =>
    reissueClusterEnrollment now g publicId tokenHash expiresAt
  | .enrollAgent tokenHash request => (enrollAgent now g tokenHash request).map Prod.fst
  | .renewAgent publicId currentFingerprint request =>
    (renewAgent now g publicId currentFingerprint request).map Prod.fst
  | .activateAgent hello => (activateAgent now g hello).map Prod.fst
  | .touchAgent publicId fingerprint sessionId sequence =>
    touchAgent now g publicId fingerprint sessionId sequence
  | .revokeCluster publicId reason => revokeCluster now g publicId reason

/-- The time that passes with an action. -/
def Action.seconds : Action → ℕ
  | .tick seconds => seconds
  | _ => 0

/-- One step: the clock never runs backwards, and a call that fails changes nothing. -/
def step (s : State) (a : Action) : State where
  now := s.now + a.seconds
  registry := commit s.registry (attempt s.now s.registry a)

/-- Nothing has been invited yet. -/
def Initial (s : State) : Prop :=
  s.registry = ⟨.empty, .empty, .empty⟩

end Molejo.Agent
