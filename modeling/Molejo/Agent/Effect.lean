import Molejo.Agent.Registry
import Molejo.Lib.Keyed

/-!
# What a call does to the registry

`Effect now g a g'` lists everything a call `a` can make of the registry `g`, with what the
call has checked; `attempt_effect` says that there is nothing else. From it come the
constraints of the tables (`Sound`), which hold in every reachable state, and the few ways in
which a single row can change: an installation that is revoked stays as it is, and a
credential keeps its certificate and only ever loses rights.
-/

namespace Molejo.Agent

open Transaction Store Table Transition

variable {publicId attemptId : String} {i : ℕ} {fingerprint tokenHash : Bytes} {s : State}

variable {now : Time} {g g' : Registry} {a : Action}

/-! ### Effects -/

/-- The token of a reissued invitation. -/
def reissuedToken (i : ℕ) (tokenHash : Bytes) (expiresAt : Time) : EnrollmentToken where
  installationId := i
  tokenHash := tokenHash
  expiresAt := expiresAt
  consumedAt := none

/-- The registry after a token was consumed and a first credential issued. -/
def enrolledRegistry (now : Time) (g : Registry) (i : ℕ) (r : SigningRequest)
    (issued : Certificate) : Registry where
  installations := g.installations.modify (fun j _ => j = i) (enrolledRow r)
  tokens := g.tokens.modify (fun _ t => t.installationId = i) fun t =>
    { t with consumedAt := some now }
  credentials := g.credentials.insert (issuedRow i r.attemptId r.csrFingerprint issued)

/-- The credentials of an installation after a renewal. -/
def renewedCredentials (now : Time) (credentials : Table AgentCredential) (i : ℕ) :
    Table AgentCredential :=
  credentials.modify (fun _ c => c.installationId = i ∧ c.status = .active) (supersededRow now)

/-- The credential with the key `k` can be used: it is neither expired nor revoked, and its
overlap is not over. -/
structure Usable (now : Time) (g : Registry) (i : ℕ) (fingerprint : Bytes) (k : ℕ)
    (c : AgentCredential) : Prop where
  lookup : g.credentials.lookup k = some c
  installation : c.installationId = i
  fingerprint : c.fingerprint = fingerprint
  notAfter : now < c.notAfter
  status : c.status ≠ .revoked
  overlap : c.status = .superseded → ∃ t ∈ c.overlapNotAfter, now < t

/-- The installation with the key `i` is the one with the public id. -/
structure Named (g : Registry) (publicId : String) (i : ℕ) (row : AgentInstallation) : Prop where
  lookup : g.installations.lookup i = some row
  publicId : row.publicId = publicId

/-- Everything a call does. -/
inductive Effect (now : Time) (g : Registry) : Action → Registry → Prop
  /-- Nothing: the call failed, or repeats an earlier one. -/
  | idle (a : Action) : Effect now g a g
  /-- A cluster is invited. -/
  | invited (a : Action) (v : Invitation)
      (hp : ∀ i r, g.installations.lookup i = some r → r.publicId ≠ v.publicId)
      (ht : ∀ j t, g.tokens.lookup j = some t → t.tokenHash ≠ v.tokenHash) :
      Effect now g a
        { g with
          installations := g.installations.insert (newInstallation v.publicId v.name)
          tokens := g.tokens.insert
            (reissuedToken g.installations.nextId v.tokenHash v.expiresAt) }
  /-- A token that is not consumed is replaced. -/
  | refreshed (v : Invitation) (administrator : Option ℕ) (i : ℕ) (row : AgentInstallation)
      (hrow : Named g v.publicId i row)
      (hu : ∀ j t, g.tokens.lookup j = some t → t.tokenHash = v.tokenHash →
        t.installationId = i) :
      Effect now g (.ensureBootstrapAgentInstallation v administrator)
        { g with
          tokens := g.tokens.modify (fun _ t => t.installationId = i ∧ t.consumedAt = none)
            fun t => { t with tokenHash := v.tokenHash, expiresAt := v.expiresAt } }
  /-- A token is replaced, whether it is consumed or not. -/
  | reissued (publicId : String) (tokenHash : Bytes) (expiresAt : Time) (i : ℕ)
      (row : AgentInstallation) (hrow : Named g publicId i row) (hs : row.status = .pending)
      (hu : ∀ j t, g.tokens.lookup j = some t → t.tokenHash = tokenHash → t.installationId = i) :
      Effect now g (.reissueClusterEnrollment publicId tokenHash expiresAt)
        { g with
          tokens := g.tokens.modify (fun _ t => t.installationId = i) fun _ =>
            reissuedToken i tokenHash expiresAt }
  /-- An installation gets a token that it does not have. -/
  | reissuedNew (publicId : String) (tokenHash : Bytes) (expiresAt : Time) (i : ℕ)
      (row : AgentInstallation) (hrow : Named g publicId i row)
      (hno : ∀ j t, g.tokens.lookup j = some t → t.installationId ≠ i)
      (hu : ∀ j t, g.tokens.lookup j = some t → t.tokenHash ≠ tokenHash) :
      Effect now g (.reissueClusterEnrollment publicId tokenHash expiresAt)
        { g with tokens := g.tokens.insert (reissuedToken i tokenHash expiresAt) }
  /-- A token is consumed and a first credential issued. -/
  | enrolled (tokenHash : Bytes) (r : SigningRequest) (j : ℕ) (t : EnrollmentToken)
      (row : AgentInstallation) (issued : Certificate)
      (hj : g.tokens.lookup j = some t) (ht : t.tokenHash = tokenHash)
      (hrow : g.installations.lookup t.installationId = some row)
      (hs : row.status ≠ .revoked) (hc : t.consumedAt = none)
      (hfree : ¬ CredentialTaken g.credentials
        (issuedRow t.installationId r.attemptId r.csrFingerprint issued)) :
      Effect now g (.enrollAgent tokenHash r)
        (enrolledRegistry now g t.installationId r issued)
  /-- The `Active` credential is exchanged for another one. -/
  | renewed (publicId : String) (fingerprint : Bytes) (r : SigningRequest) (i : ℕ)
      (row : AgentInstallation) (k : ℕ) (c : AgentCredential) (issued : Certificate)
      (hrow : Named g publicId i row) (hs : row.status = .active)
      (hk : Usable now g i fingerprint k c) (hc : c.status = .active)
      (hfree : ¬ CredentialTaken (renewedCredentials now g.credentials i)
        (issuedRow i r.attemptId r.csrFingerprint issued)) :
      Effect now g (.renewAgent publicId fingerprint r)
        { g with
          credentials := (renewedCredentials now g.credentials i).insert
            (issuedRow i r.attemptId r.csrFingerprint issued) }
  /-- A session is opened. -/
  | activated (h : Hello) (i : ℕ) (row : AgentInstallation) (k : ℕ) (c : AgentCredential)
      (hrow : Named g h.publicId i row) (hs : row.status ≠ .revoked)
      (hk : Usable now g i h.fingerprint k c) (hc : c.status = .active) :
      Effect now g (.activateAgent h)
        { g with
          installations := g.installations.modify (fun j _ => j = i) (activatedRow h) }
  /-- A heartbeat is counted. -/
  | touched (publicId : String) (fingerprint : Bytes) (sessionId : String) (sequence i : ℕ)
      (row : AgentInstallation) (k : ℕ) (c : AgentCredential)
      (hrow : Named g publicId i row) (hs : row.status = .active)
      (hk : Usable now g i fingerprint k c) :
      Effect now g (.touchAgent publicId fingerprint sessionId sequence)
        { g with
          installations := g.installations.modify (fun j _ => j = i) fun row =>
            { row with controlSessionSequence := sequence } }
  /-- A cluster is revoked with all its credentials. -/
  | revoked (publicId reason : String) (i : ℕ) (row : AgentInstallation)
      (hrow : Named g publicId i row) (hs : row.status ≠ .revoked) :
      Effect now g (.revokeCluster publicId reason)
        { g with
          installations := g.installations.modify (fun j _ => j = i)
            (revokedInstallationRow now (trimSpace reason))
          credentials := g.credentials.modify (fun _ c => c.installationId = i)
            revokedCredentialRow }

/-! ### Every call has one of the effects -/

theorem named_of_first {x : ℕ × AgentInstallation}
    (h : (g.installations.first fun _ row => row.publicId = publicId) = some x) :
    Named g publicId x.1 x.2 :=
  ⟨lookup_of_first h, pos_of_first h⟩

/-- **What `validCredential` accepts.** -/
theorem validCredential_eq_ok {status : CredentialStatus}
    (h : validCredential now g.credentials i fingerprint = .ok status) :
    ∃ k c, Usable now g i fingerprint k c ∧ c.status = status := by
  simp only [validCredential, ok_iff] at h
  obtain ⟨⟨k, c⟩, hf, ⟨hn, hr⟩, ho, rfl⟩ := h
  obtain ⟨hi, hfp⟩ := pos_of_first hf
  exact ⟨k, c, ⟨lookup_of_first hf, hi, hfp, hn, hr, ho⟩, rfl⟩

theorem insertAgentCredential_eq_ok {credentials credentials' : Table AgentCredential}
    {csrFingerprint : Bytes} {issued : Certificate} :
    insertAgentCredential credentials i attemptId csrFingerprint issued = .ok credentials' ↔
      ¬ CredentialTaken credentials (issuedRow i attemptId csrFingerprint issued) ∧
        credentials' = credentials.insert (issuedRow i attemptId csrFingerprint issued) := by
  simp only [insertAgentCredential, ok_iff]
  exact and_congr_right fun _ => eq_comm

theorem invite_effect {v : Invitation} (h : invite g v = .ok g') : Effect now g a g' := by
  simp only [invite, ok_iff] at h
  obtain ⟨hp, ht, rfl⟩ := h
  exact .invited a v (not_any_iff.mp hp) (not_any_iff.mp ht)

theorem ensureBootstrapAgentInstallation_effect {v : Invitation} {administrator : Option ℕ}
    (h : ensureBootstrapAgentInstallation now g v administrator = .ok g') :
    Effect now g (.ensureBootstrapAgentInstallation v administrator) g' := by
  simp only [ensureBootstrapAgentInstallation, ok_iff] at h
  obtain ⟨-, h⟩ := h
  split at h
  · obtain ⟨-, -, h⟩ := bind_eq_ok.mp h
    exact invite_effect h
  · rename_i i r hf
    split at h
    · cases h
      exact .idle _
    · simp only [ok_iff] at h
      obtain ⟨-, -, hu, rfl⟩ := h
      refine .refreshed v administrator i r (named_of_first hf) fun j t hj ht => ?_
      exact not_not.mp fun hne => not_any_iff.mp hu j t hj ⟨ht, hne⟩

theorem reissueClusterEnrollment_effect {expiresAt : Time}
    (h : reissueClusterEnrollment now g publicId tokenHash expiresAt = .ok g') :
    Effect now g (.reissueClusterEnrollment publicId tokenHash expiresAt) g' := by
  simp only [reissueClusterEnrollment, ok_iff] at h
  obtain ⟨-, ⟨i, row⟩, hf, hs, hu, h⟩ := h
  have hown : ∀ j t, g.tokens.lookup j = some t → t.tokenHash = tokenHash →
      t.installationId = i := fun j t hj ht =>
    not_not.mp fun hne => not_any_iff.mp hu j t hj ⟨ht, hne⟩
  split at h
  · cases h
    exact .reissued publicId tokenHash expiresAt i row (named_of_first hf) hs hown
  · rename_i hno
    cases h
    have hnone := not_any_iff.mp hno
    exact .reissuedNew publicId tokenHash expiresAt i row (named_of_first hf) hnone
      fun j t hj ht => hnone j t hj (hown j t hj ht)

/-- **What enrolling comes to.** A certificate that was issued is given again, or a token is
consumed. -/
theorem enrollAgent_eq_ok {r : SigningRequest} {c : AgentCertificate}
    (h : enrollAgent now g tokenHash r = .ok (g', c)) :
    ∃ j t row, (g.tokens.first fun _ t => t.tokenHash = tokenHash) = some (j, t) ∧
      g.installations.lookup t.installationId = some row ∧ row.status ≠ .revoked ∧
      c.installationId = row.publicId ∧
      (t.consumedAt ≠ none ∧ g' = g ∧
          credentialForAttempt g.credentials t.installationId r.attemptId r.csrFingerprint =
            some c.toCertificate ∨
        t.consumedAt = none ∧
          (r.issue row.publicId = .ok c.toCertificate ∧ IssuedValid now c.toCertificate) ∧
          ¬ CredentialTaken g.credentials
            (issuedRow t.installationId r.attemptId r.csrFingerprint c.toCertificate) ∧
          g' = enrolledRegistry now g t.installationId r c.toCertificate) := by
  simp only [enrollAgent, ok_iff] at h
  obtain ⟨-, ⟨j, t⟩, hf, row, hrow, ⟨-, hs⟩, h⟩ := h
  refine ⟨j, t, row, hf, hrow, hs, ?_⟩
  split at h
  · rename_i hc
    simp only [ok_iff, Prod.mk.injEq] at h
    obtain ⟨_, hcert, rfl, rfl⟩ := h
    exact ⟨rfl, .inl ⟨hc, rfl, hcert⟩⟩
  · rename_i hc
    simp only [ok_iff, insertAgentCredential_eq_ok, Prod.mk.injEq] at h
    obtain ⟨_, hissue, hvalid, _, ⟨hfree, rfl⟩, rfl, rfl⟩ := h
    exact ⟨rfl, .inr ⟨not_not.mp hc, ⟨hissue, hvalid⟩, hfree, rfl⟩⟩

/-- **What renewing comes to.** A certificate that was issued is given again, or the `Active`
credential is superseded by a new one. -/
theorem renewAgent_eq_ok {r : SigningRequest} {c : AgentCertificate}
    (h : renewAgent now g publicId fingerprint r = .ok (g', c)) :
    ∃ i row k cr, Named g publicId i row ∧ row.status = .active ∧
      Usable now g i fingerprint k cr ∧
      (g' = g ∧ credentialForAttempt g.credentials i r.attemptId r.csrFingerprint =
          some c.toCertificate ∨
        cr.status = .active ∧
          (r.issue publicId = .ok c.toCertificate ∧ IssuedValid now c.toCertificate) ∧
          ¬ CredentialTaken (renewedCredentials now g.credentials i)
            (issuedRow i r.attemptId r.csrFingerprint c.toCertificate) ∧
          g' = { g with
            credentials := (renewedCredentials now g.credentials i).insert
              (issuedRow i r.attemptId r.csrFingerprint c.toCertificate) }) := by
  simp only [renewAgent, ok_iff] at h
  obtain ⟨-, ⟨i, row⟩, hf, hs, status, hv, h⟩ := h
  obtain ⟨k, cr, hk, rfl⟩ := validCredential_eq_ok hv
  refine ⟨i, row, k, cr, named_of_first hf, hs, hk, ?_⟩
  split at h
  · rename_i existing hex
    cases h
    exact .inl ⟨rfl, hex⟩
  · simp only [ok_iff, insertAgentCredential_eq_ok, Prod.mk.injEq] at h
    obtain ⟨hactive, _, hissue, hvalid, _, ⟨hfree, rfl⟩, rfl, rfl⟩ := h
    exact .inr ⟨hactive, ⟨hissue, hvalid⟩, hfree, rfl⟩

/-- What opening a session takes. -/
theorem activateAgent_eq_ok {h : Hello} {first : Bool}
    (ha : activateAgent now g h = .ok (g', first)) :
    ∃ i row k c, Named g h.publicId i row ∧ row.status ≠ .revoked ∧
      Usable now g i h.fingerprint k c ∧ c.status = .active ∧
      g' = { g with
        installations := g.installations.modify (fun j _ => j = i) (activatedRow h) } := by
  simp only [activateAgent, ok_iff, Prod.mk.injEq] at ha
  obtain ⟨-, ⟨i, row⟩, hf, ⟨hs, -⟩, _, hv, hstatus, -, rfl, -⟩ := ha
  obtain ⟨k, c, hk, rfl⟩ := validCredential_eq_ok hv
  exact ⟨i, row, k, c, named_of_first hf, hs, hk, hstatus, rfl⟩

/-- What a heartbeat takes. -/
theorem touchAgent_eq_ok {sessionId : String} {sequence : ℕ}
    (h : touchAgent now g publicId fingerprint sessionId sequence = .ok g') :
    ∃ i row k c, Named g publicId i row ∧ row.status = .active ∧
      Usable now g i fingerprint k c ∧
      g' = { g with
        installations := g.installations.modify (fun j _ => j = i) fun row =>
          { row with controlSessionSequence := sequence } } := by
  simp only [touchAgent, ok_iff] at h
  obtain ⟨-, ⟨i, row⟩, hf, hs, _, hv, -, rfl⟩ := h
  obtain ⟨k, c, hk, -⟩ := validCredential_eq_ok hv
  exact ⟨i, row, k, c, named_of_first hf, hs, hk, rfl⟩

/-- What revoking comes to: the cluster is revoked already, or is revoked now. -/
theorem revokeCluster_eq_ok {reason : String} (h : revokeCluster now g publicId reason = .ok g') :
    ∃ i row, Named g publicId i row ∧
      (row.status = .revoked ∧ g' = g ∨
        row.status ≠ .revoked ∧
          g' = { g with
            installations := g.installations.modify (fun j _ => j = i)
              (revokedInstallationRow now (trimSpace reason))
            credentials := g.credentials.modify (fun _ c => c.installationId = i)
              revokedCredentialRow }) := by
  simp only [revokeCluster, ok_iff] at h
  obtain ⟨-, ⟨i, row⟩, hf, h⟩ := h
  refine ⟨i, row, named_of_first hf, ?_⟩
  split at h
  · rename_i hs
    cases h
    exact .inl ⟨hs, rfl⟩
  · rename_i hs
    cases h
    exact .inr ⟨hs, rfl⟩

/-- **A call that commits has one of the effects.** -/
theorem attempt_effect (h : attempt now g a = .ok g') : Effect now g a g' := by
  cases a with
  | tick =>
    cases h
    exact .idle _
  | createAgentInstallation =>
    simp only [attempt, createAgentInstallation, ok_iff] at h
    exact invite_effect h.2
  | ensureBootstrapAgentInstallation =>
    exact ensureBootstrapAgentInstallation_effect h
  | reissueClusterEnrollment =>
    exact reissueClusterEnrollment_effect h
  | enrollAgent tokenHash r =>
    obtain ⟨⟨_, c⟩, hok, rfl⟩ := map_eq_ok.mp h
    obtain ⟨j, t, row, hf, hrow, hs, -, ⟨-, rfl, -⟩ | ⟨hc, -, hfree, rfl⟩⟩ :=
      enrollAgent_eq_ok hok
    · exact .idle _
    · exact .enrolled tokenHash r j t row c.toCertificate (lookup_of_first hf)
        (pos_of_first hf) hrow hs hc hfree
  | renewAgent publicId fingerprint r =>
    obtain ⟨⟨_, c⟩, hok, rfl⟩ := map_eq_ok.mp h
    obtain ⟨i, row, k, cr, hrow, hs, hk, ⟨rfl, -⟩ | ⟨hc, -, hfree, rfl⟩⟩ := renewAgent_eq_ok hok
    · exact .idle _
    · exact .renewed publicId fingerprint r i row k cr c.toCertificate hrow hs hk hc hfree
  | activateAgent hello =>
    obtain ⟨⟨_, _⟩, hok, rfl⟩ := map_eq_ok.mp h
    obtain ⟨i, row, k, c, hrow, hs, hk, hc, rfl⟩ := activateAgent_eq_ok hok
    exact .activated hello i row k c hrow hs hk hc
  | touchAgent publicId fingerprint sessionId sequence =>
    obtain ⟨i, row, k, c, hrow, hs, hk, rfl⟩ := touchAgent_eq_ok h
    exact .touched publicId fingerprint sessionId sequence i row k c hrow hs hk
  | revokeCluster publicId reason =>
    obtain ⟨i, row, hrow, ⟨-, rfl⟩ | ⟨hs, rfl⟩⟩ := revokeCluster_eq_ok h
    · exact .idle _
    · exact .revoked publicId reason i row hrow hs

/-- **A step has one of the effects.** -/
theorem step_effect (s : State) (a : Action) :
    Effect s.now s.registry a (step s a).registry := by
  rcases commit_cases s.registry (attempt s.now s.registry a) with ⟨_, -, hc⟩ | ⟨_, h, hc⟩
  · rw [step, hc]
    exact .idle a
  · rw [step, hc]
    exact attempt_effect h

/-! ### The constraints of the tables -/

/-- The entry of a credential in the index `agent_credentials_active`. -/
def activeIndex (c : AgentCredential) : Option ℕ :=
  if c.status = .active then some c.installationId else none

/-- The entry of a credential in the index `agent_credentials_attempt`. -/
def attemptIndex (c : AgentCredential) : Option (ℕ × String) :=
  c.enrollmentAttemptId.map fun attemptId => (c.installationId, attemptId)

theorem activeIndex_eq_some {c : AgentCredential} :
    activeIndex c = some i ↔ c.status = .active ∧ c.installationId = i := by
  simp [activeIndex]

theorem attemptIndex_eq_some {c : AgentCredential} :
    attemptIndex c = some (i, attemptId) ↔
      c.installationId = i ∧ c.enrollmentAttemptId = some attemptId := by
  simp only [attemptIndex, Option.map_eq_some_iff, Prod.mk.injEq]
  constructor
  · rintro ⟨_, hx, rfl, rfl⟩
    exact ⟨rfl, hx⟩
  · rintro ⟨rfl, hx⟩
    exact ⟨attemptId, hx, rfl, rfl⟩

/-- The unique indexes and the foreign keys of the registry. -/
structure Sound (g : Registry) : Prop where
  publicId : Table.KeyUnique AgentInstallation.publicId g.installations
  tokenHash : Table.KeyUnique EnrollmentToken.tokenHash g.tokens
  tokenOwner : Table.KeyUnique EnrollmentToken.installationId g.tokens
  tokenInstallation : ∀ j t, g.tokens.lookup j = some t →
    ∃ row, g.installations.lookup t.installationId = some row
  fingerprint : Table.KeyUnique (fun c => c.fingerprint) g.credentials
  active : Table.IndexUnique activeIndex g.credentials
  attempt : Table.IndexUnique attemptIndex g.credentials
  credentialInstallation : ∀ k c, g.credentials.lookup k = some c →
    ∃ row, g.installations.lookup c.installationId = some row

theorem Sound.named_unique (h : Sound g) {j : ℕ} {row row' : AgentInstallation}
    (hi : Named g publicId i row) (hj : Named g publicId j row') :
    i = j ∧ row = row' := by
  obtain rfl := h.publicId i j row row' hi.lookup hj.lookup (hi.publicId.trans hj.publicId.symm)
  exact ⟨rfl, Option.some.inj (hi.lookup.symm.trans hj.lookup)⟩

/-- Rows are found again after an update. -/
theorem exists_row_modify {ρ : Type*} {t : Table ρ} {p : ℕ → ρ → Prop} [∀ i r, Decidable (p i r)]
    {f : ρ → ρ} (h : ∃ r, t.lookup i = some r) :
    ∃ r, (t.modify p f).lookup i = some r := by
  obtain ⟨_, hr⟩ := h
  exact ⟨_, by rw [lookup_modify, hr, Option.map_some]⟩

section Changes

variable (h : Sound g)
include h

/-- Installations may change in everything but their public id. -/
theorem Sound.modifyInstallations {p : ℕ → AgentInstallation → Prop}
    [∀ i r, Decidable (p i r)] {f : AgentInstallation → AgentInstallation}
    (hf : ∀ row, (f row).publicId = row.publicId) :
    Sound { g with installations := g.installations.modify p f } :=
  { h with
    publicId := keyUnique_modify h.publicId hf
    tokenInstallation := fun j t hj => exists_row_modify (h.tokenInstallation j t hj)
    credentialInstallation := fun k c hk =>
      exists_row_modify (h.credentialInstallation k c hk) }

/-- Credentials may lose their rights. -/
theorem Sound.modifyCredentials {p : ℕ → AgentCredential → Prop} [∀ i r, Decidable (p i r)]
    {f : AgentCredential → AgentCredential}
    (hf : ∀ c, (f c).toCertificate = c.toCertificate ∧ (f c).installationId = c.installationId ∧
      (f c).enrollmentAttemptId = c.enrollmentAttemptId ∧ (f c).status ≠ .active) :
    Sound { g with credentials := g.credentials.modify p f } where
  publicId := h.publicId
  tokenHash := h.tokenHash
  tokenOwner := h.tokenOwner
  tokenInstallation := h.tokenInstallation
  fingerprint := keyUnique_modify h.fingerprint fun c =>
    congrArg Certificate.fingerprint (hf c).1
  active := indexUnique_modify h.active fun i c _ _ y hy =>
    absurd (activeIndex_eq_some.mp hy).1 (hf c).2.2.2
  attempt := indexUnique_modify h.attempt fun i c _ _ y hy => by
    rw [attemptIndex, (hf c).2.1, (hf c).2.2.1] at hy
    exact hy
  credentialInstallation := fun k c hk => by
    obtain ⟨c', hc', hi⟩ := exists_of_lookup_modify hk AgentCredential.installationId
      fun c => (hf c).2.1
    rw [hi]
    exact h.credentialInstallation k c' hc'

/-- A credential that the indexes admit. -/
theorem Sound.insertCredential {csrFingerprint : Bytes} {issued : Certificate}
    (hfree : ¬ CredentialTaken g.credentials (issuedRow i attemptId csrFingerprint issued))
    (hi : ∃ row, g.installations.lookup i = some row) :
    Sound { g with
      credentials := g.credentials.insert (issuedRow i attemptId csrFingerprint issued) } where
  publicId := h.publicId
  tokenHash := h.tokenHash
  tokenOwner := h.tokenOwner
  tokenInstallation := h.tokenInstallation
  fingerprint := by
    refine keyUnique_insert h.fingerprint (find_eq_none.mpr fun k c hk hf => ?_)
    exact not_any_iff.mp hfree k c hk (.inl hf)
  active := by
    refine indexUnique_insert h.active fun y hy k c hk hc => ?_
    obtain ⟨-, rfl⟩ := activeIndex_eq_some.mp hy
    obtain ⟨hs, hci⟩ := activeIndex_eq_some.mp hc
    exact not_any_iff.mp hfree k c hk (.inr (.inl ⟨hci, hs, rfl⟩))
  attempt := by
    refine indexUnique_insert h.attempt fun y hy k c hk hc => ?_
    obtain ⟨_, _⟩ := y
    obtain ⟨rfl, ha⟩ := attemptIndex_eq_some.mp hy
    obtain ⟨hci, hca⟩ := attemptIndex_eq_some.mp hc
    refine not_any_iff.mp hfree k c hk (.inr (.inr ⟨hci, ?_, hca.trans ha.symm⟩))
    rw [hca]
    exact Option.some_ne_none _
  credentialInstallation := forall_insert h.credentialInstallation hi

/-- Tokens may be replaced as long as the indexes admit it. -/
theorem Sound.replaceTokens {tokens : Table EnrollmentToken}
    (hhash : Table.KeyUnique EnrollmentToken.tokenHash tokens)
    (howner : Table.KeyUnique EnrollmentToken.installationId tokens)
    (hrow : ∀ j t, tokens.lookup j = some t →
      ∃ row, g.installations.lookup t.installationId = some row) :
    Sound { g with tokens := tokens } :=
  { h with
    tokenHash := hhash
    tokenOwner := howner
    tokenInstallation := hrow }

/-- The token of one installation is replaced by one that no other installation has. -/
theorem Sound.replaceToken {p : ℕ → EnrollmentToken → Prop} [∀ j t, Decidable (p j t)]
    {f : EnrollmentToken → EnrollmentToken} (hp : ∀ j t, p j t → t.installationId = i)
    (hf : ∀ t, t.installationId = i → (f t).installationId = i ∧ (f t).tokenHash = tokenHash)
    (hu : ∀ j t, g.tokens.lookup j = some t → t.tokenHash = tokenHash → t.installationId = i) :
    Sound { g with tokens := g.tokens.modify p f } := by
  have hold : ∀ {j t}, (g.tokens.modify p f).lookup j = some t →
      ∃ u, g.tokens.lookup j = some u ∧ t.installationId = u.installationId ∧
        (t.tokenHash = u.tokenHash ∨ u.installationId = i ∧ t.tokenHash = tokenHash) := by
    intro j t hj
    obtain ⟨u, hu', ⟨hpu, rfl⟩ | ⟨-, rfl⟩⟩ := lookup_modify_eq_some.mp hj
    · have hi := hp j u hpu
      exact ⟨u, hu', (hf u hi).1.trans hi.symm, .inr ⟨hi, (hf u hi).2⟩⟩
    · exact ⟨t, hu', rfl, .inl rfl⟩
  refine h.replaceTokens ?_ ?_ fun j t hj => ?_
  · intro j k t u hj hk htu
    obtain ⟨t', hj', -, ht⟩ := hold hj
    obtain ⟨u', hk', -, hu'⟩ := hold hk
    have hsame : t'.installationId = i → u'.installationId = i → j = k := fun hi hi' =>
      h.tokenOwner j k t' u' hj' hk' (hi.trans hi'.symm)
    rcases ht with ht | ⟨hi, ht⟩ <;> rcases hu' with hu' | ⟨hi', hu'⟩
    · exact h.tokenHash j k t' u' hj' hk' (ht.symm.trans (htu.trans hu'))
    · exact hsame (hu j t' hj' (ht.symm.trans (htu.trans hu'))) hi'
    · exact hsame hi (hu k u' hk' (hu'.symm.trans (htu.symm.trans ht)))
    · exact hsame hi hi'
  · intro j k t u hj hk htu
    obtain ⟨t', hj', ht, -⟩ := hold hj
    obtain ⟨u', hk', hu', -⟩ := hold hk
    exact h.tokenOwner j k t' u' hj' hk' (ht.symm.trans (htu.trans hu'))
  · obtain ⟨t', hj', ht, -⟩ := hold hj
    rw [ht]
    exact h.tokenInstallation j t' hj'

end Changes

/-- **The constraints hold after every call.** -/
theorem Sound.effect (h : Sound g) (he : Effect now g a g') : Sound g' := by
  cases he with
  | idle => exact h
  | invited _ v hp ht =>
    have hkept {i : ℕ} (hi : ∃ row, g.installations.lookup i = some row) :
        ∃ row, (g.installations.insert (newInstallation v.publicId v.name)).lookup i =
          some row := by
      obtain ⟨row, hrow⟩ := hi
      exact ⟨row, lookup_insert_of_lookup hrow⟩
    have hnew (j : ℕ) (t : EnrollmentToken) (hj : g.tokens.lookup j = some t) :
        t.installationId ≠ g.installations.nextId := by
      obtain ⟨_, hrow⟩ := h.tokenInstallation j t hj
      exact (lt_nextId hrow).ne
    exact
      { h with
        publicId := keyUnique_insert h.publicId (find_eq_none.mpr hp)
        tokenHash := keyUnique_insert h.tokenHash (find_eq_none.mpr ht)
        tokenOwner := keyUnique_insert h.tokenOwner (find_eq_none.mpr hnew)
        tokenInstallation := forall_insert (fun j t hj => hkept (h.tokenInstallation j t hj))
          ⟨_, lookup_insert_self⟩
        credentialInstallation := fun k c hk => hkept (h.credentialInstallation k c hk) }
  | refreshed _ _ _ _ _ hu =>
    exact h.replaceToken (fun _ _ hp => hp.1) (fun _ hi => ⟨hi, rfl⟩) hu
  | reissued _ _ _ _ _ _ _ hu =>
    exact h.replaceToken (fun _ _ hp => hp) (fun _ _ => ⟨rfl, rfl⟩) hu
  | reissuedNew _ _ _ _ row hrow hno hu =>
    exact h.replaceTokens (keyUnique_insert h.tokenHash (find_eq_none.mpr hu))
      (keyUnique_insert h.tokenOwner (find_eq_none.mpr hno))
      (forall_insert h.tokenInstallation ⟨row, hrow.lookup⟩)
  | enrolled _ r j t row issued _ _ hrow _ _ hfree =>
    have hissued := h.insertCredential hfree ⟨row, hrow⟩
    have hconsumed : Sound
        { g with
          tokens := g.tokens.modify (fun _ u => u.installationId = t.installationId) fun u =>
            { u with consumedAt := some now }
          credentials := g.credentials.insert
            (issuedRow t.installationId r.attemptId r.csrFingerprint issued) } := by
      exact hissued.replaceTokens (keyUnique_modify hissued.tokenHash fun _ => rfl)
        (keyUnique_modify hissued.tokenOwner fun _ => rfl)
        (forall_modify hissued.tokenInstallation fun j u hu _ => hissued.tokenInstallation j u hu)
    exact hconsumed.modifyInstallations fun _ => rfl
  | renewed _ _ _ i row _ _ _ hrow _ _ _ hfree =>
    have hsuperseded : Sound { g with credentials := renewedCredentials now g.credentials i } :=
      h.modifyCredentials fun _ => ⟨rfl, rfl, rfl, nofun⟩
    exact hsuperseded.insertCredential hfree ⟨row, hrow.lookup⟩
  | activated | touched => exact h.modifyInstallations fun _ => rfl
  | revoked _ reason i =>
    have hinstallations := h.modifyInstallations (p := fun j _ => j = i)
      (f := revokedInstallationRow now (trimSpace reason)) fun _ => rfl
    exact hinstallations.modifyCredentials fun _ => ⟨rfl, rfl, rfl, nofun⟩

theorem Sound.step (h : Sound s.registry) (a : Action) :
    Sound (step s a).registry :=
  h.effect (step_effect s a)

theorem Initial.sound (h : Initial s) : Sound s.registry := by
  rw [Initial] at h
  rw [h]
  exact ⟨keyUnique_empty, keyUnique_empty, keyUnique_empty, nofun,
    keyUnique_empty, indexUnique_empty, indexUnique_empty, nofun⟩

theorem Initial.sound_run (h : Initial s) (acts : List Action) :
    Sound (run Agent.step s acts).registry :=
  run_induction (I := fun s : State => Sound s.registry) h.sound
    fun _ a hs => hs.step a

/-! ### Rows after a call -/

section Rows

variable {i k : ℕ} {c c' : AgentCredential} {row : AgentInstallation}

/-- A credential stays as it is, or is superseded, or revoked. -/
theorem Effect.credential (he : Effect now g a g') (hk : g.credentials.lookup k = some c) :
    ∃ c', g'.credentials.lookup k = some c' ∧
      (c' = c ∨ c.status = .active ∧ c' = supersededRow now c ∨ c' = revokedCredentialRow c) := by
  cases he with
  | enrolled => exact ⟨c, lookup_insert_of_lookup hk, .inl rfl⟩
  | renewed _ _ _ i =>
    by_cases hp : c.installationId = i ∧ c.status = .active
    · exact ⟨supersededRow now c, lookup_insert_of_lookup
        (lookup_modify_of_pos hk hp), .inr (.inl ⟨hp.2, rfl⟩)⟩
    · exact ⟨c, lookup_insert_of_lookup (lookup_modify_of_neg hk hp), .inl rfl⟩
  | revoked _ _ i =>
    exact exists_lookup_modify hk (.inl rfl) fun _ => .inr (.inr rfl)
  | idle | invited | refreshed | reissued | reissuedNew | activated | touched =>
    exact ⟨c, hk, .inl rfl⟩

/-- An installation keeps its public id, and stays as it is once it is revoked. -/
theorem Effect.installation (he : Effect now g a g') (hi : g.installations.lookup i = some row) :
    ∃ row', g'.installations.lookup i = some row' ∧ row'.publicId = row.publicId ∧
      (row.status = .revoked → row' = row) := by
  have hmodify {j : ℕ} {q : AgentInstallation} {f : AgentInstallation → AgentInstallation}
      (hj : g.installations.lookup j = some q) (hq : q.status ≠ .revoked)
      (hf : ∀ row, (f row).publicId = row.publicId) :
      ∃ row', (g.installations.modify (fun x _ => x = j) f).lookup i = some row' ∧
        row'.publicId = row.publicId ∧ (row.status = .revoked → row' = row) := by
    refine exists_lookup_modify hi ⟨rfl, fun _ => rfl⟩ ?_
    rintro rfl
    obtain rfl : q = row := Option.mem_unique hj hi
    exact ⟨hf q, fun hr => absurd hr hq⟩
  cases he with
  | invited => exact ⟨row, lookup_insert_of_lookup hi, rfl, fun _ => rfl⟩
  | enrolled _ _ _ _ _ _ _ _ hq hs => exact hmodify hq hs fun _ => rfl
  | activated _ _ _ _ _ hq hs => exact hmodify hq.lookup hs fun _ => rfl
  | touched _ _ _ _ _ _ _ _ hq hs =>
    exact hmodify hq.lookup (by rw [hs]; nofun) fun _ => rfl
  | revoked _ _ _ _ hq hs => exact hmodify hq.lookup hs fun _ => rfl
  | idle | refreshed | reissued | reissuedNew | renewed => exact ⟨row, hi, rfl, fun _ => rfl⟩

end Rows

end Molejo.Agent
