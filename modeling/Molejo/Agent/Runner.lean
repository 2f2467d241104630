import Molejo.Agent.Lifecycle

/-!
# The Agent

The process on the other side of `Molejo.Agent.Registry`. It keeps its identity in a Secret of
its cluster: a private key with its certificate, the signing request of its enrollment, and,
while it renews, the key and the signing request of what is to come. Everything else it
forgets when it stops.

`ReconcileOnce` is a walk through `Phase`. It loads the identity; without a certificate it
makes a key, *saves it*, and only then asks for a certificate; with a certificate that is about
to expire it makes another key, saves it beside the first, and asks for the next one. The answer
is checked against the key and written in one update of the Secret, key and certificate
together. So whatever the process forgets, it asks again with the same attempt and the same
signing request.

Between the two sides is a network. A call that was sent (`calls`) may be handled at any later
time, any number of times, or never; its answer (`responses`) may be received or lost. The process
may stop after each of its steps, and it stops when an update of the Secret fails, with one
exception: a renewal that cannot be saved leaves the Agent connecting with the identity it has in
memory, whether the update was made or not (`saveFails`).

What keys and certificates are is left open (`RunnerConfig`): a signer may issue what it likes, and
the Agent checks what it gets, by a clock of its own.
-/

namespace Molejo.Agent

open Transaction Store

/-! ### The identity Secret -/

/-- `agentidentity.StoredIdentity`. -/
structure StoredIdentity where
  attemptId : String
  privateKeyPem : Bytes
  csrPem : Bytes
  installationId : String
  certificatePem : Bytes
  caCertificatePem : Bytes
  trustBundleId : String
  expiresAt : Option Time
  renewalAttemptId : String
  renewalKeyPem : Bytes
  renewalCsrPem : Bytes
deriving DecidableEq

/-- `agentidentity.EnrollmentIdentity`: a new key with a signing request, and the name of the
attempt to have it signed. -/
structure EnrollmentIdentity where
  attemptId : String
  privateKeyPem : Bytes
  csrPem : Bytes

/-- All of an identity is there. -/
def EnrollmentIdentity.Complete (x : EnrollmentIdentity) : Prop :=
  x.attemptId ≠ "" ∧ x.privateKeyPem ≠ [] ∧ x.csrPem ≠ []
deriving Decidable

/-- Nothing of an identity is there. -/
def EnrollmentIdentity.Empty (x : EnrollmentIdentity) : Prop :=
  x.attemptId = "" ∧ x.privateKeyPem = [] ∧ x.csrPem = []
deriving Decidable

namespace StoredIdentity

variable (stored : StoredIdentity)

/-- What the Agent enrolls with. -/
def enrollment : EnrollmentIdentity := ⟨stored.attemptId, stored.privateKeyPem, stored.csrPem⟩

/-- What the Agent renews with. -/
def renewal : EnrollmentIdentity :=
  ⟨stored.renewalAttemptId, stored.renewalKeyPem, stored.renewalCsrPem⟩

/-- `SaveEnrollmentIdentity`. -/
def withEnrollment (x : EnrollmentIdentity) : StoredIdentity :=
  { stored with attemptId := x.attemptId, privateKeyPem := x.privateKeyPem, csrPem := x.csrPem }

/-- `SaveRenewalIdentity`. -/
def withRenewal (x : EnrollmentIdentity) : StoredIdentity :=
  { stored with
    renewalAttemptId := x.attemptId, renewalKeyPem := x.privateKeyPem, renewalCsrPem := x.csrPem }

/-- `SaveCertificate`, with the private key if it is to be replaced. -/
def withCertificate (key : Option Bytes) (c : AgentCertificate) : StoredIdentity :=
  { stored with
    installationId := c.installationId
    privateKeyPem := key.getD stored.privateKeyPem
    certificatePem := c.certificatePem
    caCertificatePem := c.caCertificatePem
    trustBundleId := c.trustBundleId
    expiresAt := some c.notAfter
    renewalAttemptId := ""
    renewalKeyPem := []
    renewalCsrPem := [] }

/-- What the runner has in memory after it enrolled. -/
def enrolledWith (c : AgentCertificate) : StoredIdentity :=
  { stored with
    installationId := c.installationId
    certificatePem := c.certificatePem
    caCertificatePem := c.caCertificatePem
    trustBundleId := c.trustBundleId
    expiresAt := some c.notAfter }

/-- What the runner has in memory after it renewed its certificate. -/
def renewedWith (c : AgentCertificate) : StoredIdentity :=
  { stored with
    privateKeyPem := stored.renewalKeyPem
    certificatePem := c.certificatePem
    caCertificatePem := c.caCertificatePem
    trustBundleId := c.trustBundleId
    expiresAt := some c.notAfter
    renewalAttemptId := ""
    renewalKeyPem := []
    renewalCsrPem := [] }

end StoredIdentity

/-- What `SaveCertificate` asks of a certificate. -/
def Saveable (c : AgentCertificate) : Prop :=
  c.installationId ≠ "" ∧ c.certificatePem ≠ [] ∧ c.caCertificatePem ≠ [] ∧ c.trustBundleId ≠ ""
deriving Decidable

/-! ### The system -/

/-- What the two sides compute, and what the Agent is configured with. -/
structure RunnerConfig where
  /-- `auth.HashToken`. -/
  hashToken : String → Bytes
  /-- The digest of a signing request. -/
  csrFingerprint : Bytes → Bytes
  /-- The digest of a certificate. -/
  certificateFingerprint : Bytes → Bytes
  /-- The certificate has the public key of the private key. -/
  belongs : Bytes → Bytes → Bool
  /-- The rest of `ValidateCertificate`. -/
  verifies : AgentCertificate → Time → Bool
  renewalWindow : Time

/-- `ValidateCertificate`. -/
def RunnerConfig.validateCertificate (config : RunnerConfig) (key : Bytes) (c : AgentCertificate)
    (now : Time) : Bool :=
  config.belongs key c.certificatePem && config.verifies c now

/-- Who calls the control plane: `Enroll` takes a token, `Renew` the certificate that the Agent
has. -/
inductive Caller
  | token (token : String)
  | certificate (installationId : String) (fingerprint : Bytes)

/-- The call, with its attempt and its signing request. -/
structure Call where
  caller : Caller
  attemptId : String
  csrPem : Bytes

/-- Where the runner is in `ReconcileOnce`. In the last two `last` says that the trust bundle was
updated already. -/
inductive Phase
  | stopped
  /-- The identity was loaded, or an enrollment identity saved. -/
  | loaded (stored : StoredIdentity)
  /-- `Enroll` was called. -/
  | enrolling (stored : StoredIdentity) (call : ℕ)
  /-- It has returned a certificate that is valid. -/
  | enrolled (stored : StoredIdentity) (certificate : AgentCertificate)
  /-- There is a certificate in the Secret. -/
  | paired (stored : StoredIdentity)
  /-- The enrollment token is cleared. -/
  | cleared (stored : StoredIdentity)
  /-- `renewCertificate`. -/
  | renewable (stored : StoredIdentity) (last : Bool)
  /-- `Renew` was called. -/
  | renewing (stored : StoredIdentity) (call : ℕ) (last : Bool)
  /-- It has returned a certificate that is valid. -/
  | renewed (stored : StoredIdentity) (certificate : AgentCertificate) (last : Bool)
  /-- `connectFor`. -/
  | connecting (stored : StoredIdentity) (last : Bool)

/-- The control plane, the Secrets of the Agent, its process, and the network. -/
structure RunnerState where
  now : Time
  registry : Registry
  /-- What the Agent was invited as, and with what token. -/
  publicId : String
  invitation : String
  /-- The identity Secret. -/
  secret : StoredIdentity
  /-- The token in the enrollment Secret. -/
  token : String
  phase : Phase
  calls : Table Call
  responses : ℕ → Option AgentCertificate

/-- One step. -/
inductive RunnerAction
  | tick (seconds : ℕ)
  /-- The registry is called by somebody else. -/
  | elsewhere (a : Action)
  /-- The runner goes on; `draw` is the identity that it makes if it needs one. -/
  | proceed (clock : Time) (draw : EnrollmentIdentity)
  /-- A renewal cannot be saved, or so the runner is told. -/
  | saveFails (draw : EnrollmentIdentity) (applied : Bool)
  /-- The control plane handles a call, and signs what it is asked to sign. -/
  | serve (call : ℕ) (issue : String → Except Err Certificate)
  /-- The runner gets the answer to its call. -/
  | receive (clock : Time)
  /-- The call of the runner has failed, or took too long. -/
  | giveUp
  /-- The Agent opens a session. -/
  | connect (hello : Hello)
  /-- The Agent sends a heartbeat. -/
  | heartbeat (sessionId : String) (sequence : ℕ)
  /-- The connection ends, perhaps because the trust bundle has to be updated. -/
  | disconnect (trustBundleUpdate : Bool)
  /-- The process stops. -/
  | stop

/-- The call is not one that the Agent makes for a certificate, and not one by which an
administrator invites the cluster again or revokes it. -/
def Elsewhere (publicId : String) (tokenHash : Bytes) : Action → Prop
  | .ensureBootstrapAgentInstallation invitation _ => invitation.publicId ≠ publicId
  | .reissueClusterEnrollment p _ _ => p ≠ publicId
  | .enrollAgent h _ => h ≠ tokenHash
  | .renewAgent p _ _ => p ≠ publicId
  | .revokeCluster p _ => p ≠ publicId
  | .tick _ | .createAgentInstallation _ | .activateAgent _ | .touchAgent .. => True

instance (publicId : String) (tokenHash : Bytes) : DecidablePred (Elsewhere publicId tokenHash)
  | .ensureBootstrapAgentInstallation invitation _ =>
    inferInstanceAs (Decidable (invitation.publicId ≠ publicId))
  | .reissueClusterEnrollment p _ _ => inferInstanceAs (Decidable (p ≠ publicId))
  | .enrollAgent h _ => inferInstanceAs (Decidable (h ≠ tokenHash))
  | .renewAgent p _ _ => inferInstanceAs (Decidable (p ≠ publicId))
  | .revokeCluster p _ => inferInstanceAs (Decidable (p ≠ publicId))
  | .tick _ | .createAgentInstallation _ | .activateAgent _ | .touchAgent .. =>
    inferInstanceAs (Decidable True)

/-! ### Steps -/

namespace RunnerState

variable (config : RunnerConfig) (s : RunnerState)

/-- The identity can be saved: it is complete, and its attempt, which is drawn at random, is not one
that was made before. -/
def Drawable (draw : EnrollmentIdentity) : Prop :=
  draw.Complete ∧ ∀ x ∈ s.calls.rows, x.2.attemptId ≠ draw.attemptId
deriving Decidable

/-- The runner sends a call and waits. -/
def send (caller : Caller) (x : EnrollmentIdentity) (phase : ℕ → Phase) : RunnerState :=
  { s with
    calls := s.calls.insert ⟨caller, x.attemptId, x.csrPem⟩
    phase := phase s.calls.nextId }

/-- `renewCertificate` has failed: the Agent connects with what it has, but for an update of the
trust bundle. -/
def afterFailure (stored : StoredIdentity) (last : Bool) : Phase :=
  if last = true then .stopped else .connecting stored true

/-- The next step of the runner. -/
def proceed (clock : Time) (draw : EnrollmentIdentity) : RunnerState :=
  match s.phase with
  | .stopped => { s with phase := .loaded s.secret }
  | .loaded stored =>
    if stored.certificatePem ≠ [] then { s with phase := .paired stored }
    else if stored.enrollment.Complete then
      if s.token = "" then { s with phase := .stopped }
      else s.send (.token s.token) stored.enrollment (.enrolling stored)
    else if stored.enrollment.Empty ∧ s.Drawable draw then
      { s with
        secret := s.secret.withEnrollment draw
        phase := .loaded (stored.withEnrollment draw) }
    else { s with phase := .stopped }
  | .enrolled stored certificate =>
    if Saveable certificate then
      { s with
        secret := s.secret.withCertificate none certificate
        phase := .paired (stored.enrolledWith certificate) }
    else { s with phase := .stopped }
  | .paired stored => { s with token := "", phase := .cleared stored }
  | .cleared stored =>
    if ∃ t ∈ stored.expiresAt, clock < t then
      if ∃ t ∈ stored.expiresAt, clock + config.renewalWindow < t then
        { s with phase := .connecting stored false }
      else { s with phase := .renewable stored false }
    else { s with phase := .stopped }
  | .renewable stored last =>
    if stored.renewal.Complete then
      s.send (.certificate stored.installationId
        (config.certificateFingerprint stored.certificatePem)) stored.renewal
        (.renewing stored · last)
    else if stored.renewal.Empty ∧ s.Drawable draw then
      { s with
        secret := s.secret.withRenewal draw
        phase := .renewable (stored.withRenewal draw) last }
    else { s with phase := afterFailure stored last }
  | .renewed stored certificate last =>
    if Saveable certificate then
      { s with
        secret := s.secret.withCertificate (some stored.renewalKeyPem) certificate
        phase := .connecting (stored.renewedWith certificate) last }
    else { s with phase := afterFailure stored last }
  | .enrolling .. | .renewing .. | .connecting .. => s

/-- The runner is told that an update of the identity Secret has failed in `renewCertificate`. -/
def saveFails (draw : EnrollmentIdentity) (applied : Bool) : RunnerState :=
  match s.phase with
  | .renewable stored last =>
    if ¬ stored.renewal.Complete ∧ stored.renewal.Empty ∧ s.Drawable draw then
      { s with
        secret := if applied = true then s.secret.withRenewal draw else s.secret
        phase := afterFailure (stored.withRenewal draw) last }
    else s
  | .renewed stored certificate last =>
    if Saveable certificate then
      { s with
        secret := if applied = true then
          s.secret.withCertificate (some stored.renewalKeyPem) certificate else s.secret
        phase := afterFailure stored last }
    else s
  | .stopped | .loaded _ | .enrolling .. | .enrolled .. | .paired _ | .cleared _ | .renewing ..
  | .connecting .. => s

/-- The runner gets the answer to its call, and checks it against its key. -/
def receive (clock : Time) : RunnerState :=
  match s.phase with
  | .enrolling stored call =>
    match s.responses call with
    | some c =>
      if config.validateCertificate stored.privateKeyPem c clock = true then
        { s with phase := .enrolled stored c }
      else { s with phase := .stopped }
    | none => s
  | .renewing stored call last =>
    match s.responses call with
    | some c =>
      if config.validateCertificate stored.renewalKeyPem c clock = true then
        { s with phase := .renewed stored c last }
      else { s with phase := afterFailure stored last }
    | none => s
  | .stopped | .loaded _ | .enrolled .. | .paired _ | .cleared _ | .renewable .. | .renewed ..
  | .connecting .. => s

/-- The call of the runner has failed. -/
def giveUp : RunnerState :=
  match s.phase with
  | .enrolling .. => { s with phase := .stopped }
  | .renewing stored _ last => { s with phase := afterFailure stored last }
  | .stopped | .loaded _ | .enrolled .. | .paired _ | .cleared _ | .renewable .. | .renewed ..
  | .connecting .. => s

/-- The signer writes the digest of a certificate beside it. -/
def signed (issue : String → Except Err Certificate) (publicId : String) :
    Except Err Certificate :=
  (issue publicId).map fun c =>
    { c with fingerprint := config.certificateFingerprint c.certificatePem }

/-- What a call asks of the registry. -/
def request (call : Call) (issue : String → Except Err Certificate) : SigningRequest where
  attemptId := call.attemptId
  csrFingerprint := config.csrFingerprint call.csrPem
  issue := signed config issue

/-- The method of the registry that handles a call. -/
def handle (call : Call) (issue : String → Except Err Certificate) :
    Except Err (Registry × AgentCertificate) :=
  match call.caller with
  | .token token =>
    enrollAgent s.now s.registry (config.hashToken token) (request config call issue)
  | .certificate installationId fingerprint =>
    renewAgent s.now s.registry installationId fingerprint (request config call issue)

/-- The control plane handles a call. -/
def serve (n : ℕ) (issue : String → Except Err Certificate) : RunnerState :=
  match s.calls.lookup n with
  | none => s
  | some call =>
    match s.handle config call issue with
    | .ok (registry, c) =>
      { s with registry := registry, responses := Function.update s.responses n (some c) }
    | .error _ => s

/-- The registry does something. -/
def act (a : Action) : RunnerState :=
  { s with registry := (Agent.step ⟨s.now, s.registry⟩ a).registry }

/-- One step. -/
def step : RunnerAction → RunnerState
  | .tick seconds => { s with now := s.now + seconds }
  | .elsewhere a =>
    if Elsewhere s.publicId (config.hashToken s.invitation) a then s.act a else s
  | .proceed clock draw => s.proceed config clock draw
  | .saveFails draw applied => s.saveFails draw applied
  | .serve call issue => s.serve config call issue
  | .receive clock => s.receive config clock
  | .giveUp => s.giveUp
  | .connect hello =>
    match s.phase with
    | .connecting stored _ => s.act (.activateAgent { hello with
        publicId := stored.installationId
        fingerprint := config.certificateFingerprint stored.certificatePem })
    | .stopped | .loaded _ | .enrolling .. | .enrolled .. | .paired _ | .cleared _ | .renewable ..
    | .renewing .. | .renewed .. => s
  | .heartbeat sessionId sequence =>
    match s.phase with
    | .connecting stored _ => s.act (.touchAgent stored.installationId
        (config.certificateFingerprint stored.certificatePem) sessionId sequence)
    | .stopped | .loaded _ | .enrolling .. | .enrolled .. | .paired _ | .cleared _ | .renewable ..
    | .renewing .. | .renewed .. => s
  | .disconnect trustBundleUpdate =>
    match s.phase with
    | .connecting stored last =>
      if trustBundleUpdate = true ∧ last = false then { s with phase := .renewable stored true }
      else { s with phase := .stopped }
    | .stopped | .loaded _ | .enrolling .. | .enrolled .. | .paired _ | .cleared _ | .renewable ..
    | .renewing .. | .renewed .. => s
  | .stop => { s with phase := .stopped }

/-- What a run starts from: the cluster is invited, and its Agent has the token and has not started
yet. -/
structure Initial : Prop where
  sound : Sound s.registry
  invited : ∃ i j row t, s.registry.installations.lookup i = some row ∧
    row.publicId = s.publicId ∧ row.status ≠ .revoked ∧ s.registry.tokens.lookup j = some t ∧
    t.installationId = i ∧ t.tokenHash = config.hashToken s.invitation ∧ t.consumedAt = none ∧
    ∀ k c, s.registry.credentials.lookup k = some c → c.installationId ≠ i
  tokenHash : config.hashToken s.invitation ≠ []
  token : s.token = s.invitation
  certificate : s.secret.certificatePem = []
  renewal : s.secret.renewal.Empty
  phase : s.phase = .stopped
  calls : s.calls = .empty
  responses : ∀ n, s.responses n = none

end RunnerState

end Molejo.Agent
