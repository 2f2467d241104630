import Molejo.Agent.Effect

/-!
# The life of a credential

An Agent proves who it is with a certificate, and may prove it as long as the credential behind
the certificate is accepted. Four things are expected of the registry, over whole runs and
whatever is called in between (`Lifecycle`):

* an installation has at most one `Active` credential;
* an enrollment token is good for one signing request: whoever repeats the request is given
  the same certificate again, and nobody else is given any;
* once a credential was renewed it opens no session and buys no certificate, and its heartbeats
  count for an hour at most, and never after it has expired;
* once a cluster is revoked, none of its credentials is good for anything.

The first, the third and the fourth hold in every run, since the rights of a credential only ever
shrink. The second does not: what is given again is looked up by the attempt alone, among
*all* credentials of the installation, so a consumed token also gives out the certificates that
were issued for renewals; and a token that is reissued after it was consumed no longer gives
out what it did. `lifecycle_run` proves it for calls that avoid the two (`Careful`).
-/

namespace Molejo.Agent

open Transaction Store Table Transition

variable {publicId : String} {fingerprint tokenHash : Bytes} {c : AgentCredential} {bound : Time}
  {r : SigningRequest}

variable {now : Time} {g g' : Registry} {a : Action} {s : State} {i j k : ℕ}

/-! ### The property -/

/-- The certificates are the same, and for the same installation. Where no CA of the server was
issued, the CA stands in for it. -/
def AgentCertificate.SameAs (c c' : AgentCertificate) : Prop :=
  c.withServerCa = c'.withServerCa ∧ c.installationId = c'.installationId

/-- The cluster with the public id is revoked. -/
def Revoked (g : Registry) (publicId : String) : Prop :=
  ∃ i row, Named g publicId i row ∧ row.status = .revoked

/-- No session, no heartbeat and no renewal is accepted for the cluster, or with the fingerprint of
one of its credentials, and no certificate is given out for it. -/
structure Shut (s : State) (publicId : String) : Prop where
  enroll : ∀ tokenHash r g' c, enrollAgent s.now s.registry tokenHash r = .ok (g', c) →
    c.installationId ≠ publicId
  renew : ∀ p fingerprint r x, renewAgent s.now s.registry p fingerprint r = .ok x →
    p ≠ publicId ∧ ∀ i row k c, Named s.registry publicId i row →
      s.registry.credentials.lookup k = some c → c.installationId = i → c.fingerprint ≠ fingerprint
  activate : ∀ h x, activateAgent s.now s.registry h = .ok x →
    h.publicId ≠ publicId ∧ ∀ i row k c, Named s.registry publicId i row →
      s.registry.credentials.lookup k = some c → c.installationId = i →
        c.fingerprint ≠ h.fingerprint
  touch : ∀ p fingerprint sessionId sequence x,
    touchAgent s.now s.registry p fingerprint sessionId sequence = .ok x →
    p ≠ publicId ∧ ∀ i row k c, Named s.registry publicId i row →
      s.registry.credentials.lookup k = some c → c.installationId = i → c.fingerprint ≠ fingerprint

/-- A credential that was renewed: it opens no session and buys no certificate, and its heartbeats
count before `bound` only. -/
structure Outlived (s : State) (fingerprint : Bytes) (bound : Time) : Prop where
  touch : ∀ p sessionId sequence x,
    touchAgent s.now s.registry p fingerprint sessionId sequence = .ok x → s.now < bound
  activate : ∀ h x, activateAgent s.now s.registry h = .ok x → h.fingerprint ≠ fingerprint
  renew : ∀ p r g' c, renewAgent s.now s.registry p fingerprint r = .ok (g', c) → g' = s.registry

/-- **The life of a credential**, from a state on; tokens are considered in runs that meet
`G`. -/
structure Lifecycle (G : State → Action → Prop) (s : State) : Prop where
  /-- At most one credential of an installation is `Active`. -/
  active : ∀ k k' c c', s.registry.credentials.lookup k = some c →
    s.registry.credentials.lookup k' = some c' → c.installationId = c'.installationId →
    c.status = .active → c'.status = .active → k = k'
  /-- A token that enrolls a signing request gives out one certificate, for this attempt and this
  request only; and gives it out as long as the cluster is not revoked. -/
  token : ∀ tokenHash r g' c, G s (.enrollAgent tokenHash r) →
    enrollAgent s.now s.registry tokenHash r = .ok (g', c) →
    ∀ acts, Guarded step G (step s (.enrollAgent tokenHash r)) acts →
      (∀ r' g'' c', G (run step (step s (.enrollAgent tokenHash r)) acts)
          (.enrollAgent tokenHash r') →
        enrollAgent (run step (step s (.enrollAgent tokenHash r)) acts).now
          (run step (step s (.enrollAgent tokenHash r)) acts).registry tokenHash r' =
            .ok (g'', c') →
        r'.attemptId = r.attemptId ∧ r'.csrFingerprint = r.csrFingerprint ∧ c'.SameAs c) ∧
      (¬ Revoked (run step (step s (.enrollAgent tokenHash r)) acts).registry
          c.installationId →
        ∀ issue, ∃ g'' c',
          enrollAgent (run step (step s (.enrollAgent tokenHash r)) acts).now
            (run step (step s (.enrollAgent tokenHash r)) acts).registry tokenHash
            { r with issue := issue } = .ok (g'', c') ∧ c'.SameAs c)
  /-- A renewal that issues a certificate outlives the credential that was `Active`. -/
  renewal : ∀ publicId fingerprint r,
    (step s (.renewAgent publicId fingerprint r)).registry.credentials.nextId ≠
      s.registry.credentials.nextId →
    ∀ i row k c, Named s.registry publicId i row → s.registry.credentials.lookup k = some c →
      c.installationId = i → c.status = .active →
      ∀ acts, Outlived
        (run step (step s (.renewAgent publicId fingerprint r)) acts) c.fingerprint
        (min c.notAfter (s.now + agentCredentialOverlap))
  /-- A cluster that was revoked is shut for ever. -/
  revocation : ∀ publicId reason g', revokeCluster s.now s.registry publicId reason = .ok g' →
    ∀ acts, Shut (run step (step s (.revokeCluster publicId reason)) acts) publicId

/-! ### Revoked clusters -/

/-- A revoked cluster stays revoked. -/
theorem Revoked.step (h : Revoked s.registry publicId) (a : Action) :
    Revoked (step s a).registry publicId := by
  obtain ⟨i, _, hrow, hs⟩ := h
  obtain ⟨row', hl, hp, hr⟩ := (step_effect s a).installation hrow.lookup
  exact ⟨i, row', ⟨hl, hp.trans hrow.publicId⟩, by rw [hr hs]; exact hs⟩

theorem Revoked.run (h : Revoked s.registry publicId) (acts : List Action) :
    Revoked (run Agent.step s acts).registry publicId :=
  run_induction (I := fun s : State => Revoked s.registry publicId) h
    fun _ a h => h.step a

/-- Who uses a credential that the constraints admit is not a cluster that is revoked. -/
theorem Sound.not_usable_of_revoked (h : Sound g) {p : String} {row : AgentInstallation}
    (hr : Revoked g publicId) (hrow : Named g p i row) (hs : row.status ≠ .revoked)
    (hk : Usable now g i fingerprint k c) :
    p ≠ publicId ∧ ∀ i row k c, Named g publicId i row → g.credentials.lookup k = some c →
      c.installationId = i → c.fingerprint ≠ fingerprint := by
  obtain ⟨i₀, row₀, hrow₀, hs₀⟩ := hr
  have hne : i ≠ i₀ := by
    rintro rfl
    cases hrow.lookup.symm.trans hrow₀.lookup
    exact hs hs₀
  constructor
  · rintro rfl
    exact hne (h.named_unique hrow hrow₀).1
  · rintro i' row' k' c' hrow' hk' rfl hf
    obtain rfl : k = k' := h.fingerprint k k' c c' hk.lookup hk' (hk.fingerprint.trans hf.symm)
    cases hk.lookup.symm.trans hk'
    exact hne (hk.installation.symm.trans (h.named_unique hrow' hrow₀).1)

theorem Sound.shut (h : Sound s.registry) (hr : Revoked s.registry publicId) :
    Shut s publicId where
  enroll tokenHash r g' c hok := by
    obtain ⟨_, _, _, -, hrow, hs, hc, -⟩ := enrollAgent_eq_ok hok
    rintro rfl
    obtain ⟨_, _, hrow', hs'⟩ := hr
    obtain ⟨-, rfl⟩ := h.named_unique hrow' ⟨hrow, hc.symm⟩
    exact hs hs'
  renew p fingerprint r x hok := by
    obtain ⟨_, _⟩ := x
    obtain ⟨_, _, _, _, hrow, hs, hk, -⟩ := renewAgent_eq_ok hok
    exact h.not_usable_of_revoked hr hrow (by rw [hs]; nofun) hk
  activate hello x hok := by
    obtain ⟨_, _⟩ := x
    obtain ⟨_, _, _, _, hrow, hs, hk, -⟩ := activateAgent_eq_ok hok
    exact h.not_usable_of_revoked hr hrow hs hk
  touch p fingerprint sessionId sequence x hok := by
    obtain ⟨_, _, _, _, hrow, hs, hk, -⟩ := touchAgent_eq_ok hok
    exact h.not_usable_of_revoked hr hrow (by rw [hs]; nofun) hk

/-- A call that revokes a cluster leaves it revoked. -/
theorem revoked_of_revokeCluster {reason : String}
    (h : revokeCluster s.now s.registry publicId reason = .ok g') :
    Revoked (step s (.revokeCluster publicId reason)).registry publicId := by
  have hstep : (step s (.revokeCluster publicId reason)).registry = g' := by
    simp only [step, attempt, h, commit]
  rw [hstep]
  obtain ⟨i, row, hrow, ⟨hs, rfl⟩ | ⟨-, rfl⟩⟩ := revokeCluster_eq_ok h
  · exact ⟨i, row, hrow, hs⟩
  · exact ⟨i, _, ⟨lookup_modify_of_pos hrow.lookup rfl, hrow.publicId⟩, rfl⟩

/-! ### Renewed credentials -/

/-- The credential was renewed: it is superseded, until `bound`, or revoked. -/
def Retired (g : Registry) (fingerprint : Bytes) (bound : Time) : Prop :=
  ∃ k c, g.credentials.lookup k = some c ∧ c.fingerprint = fingerprint ∧
    (c.status = .superseded ∧ c.overlapNotAfter = some bound ∨ c.status = .revoked)

/-- A retired credential stays retired. -/
theorem Retired.step (h : Retired s.registry fingerprint bound) (a : Action) :
    Retired (step s a).registry fingerprint bound := by
  obtain ⟨k, _, hk, hf, hs⟩ := h
  obtain ⟨c', hk', rfl | ⟨hactive, -⟩ | rfl⟩ := (step_effect s a).credential hk
  · exact ⟨k, c', hk', hf, hs⟩
  · rcases hs with ⟨hs, -⟩ | hs
    all_goals
      rw [hactive] at hs
      cases hs
  · exact ⟨k, _, hk', hf, .inr rfl⟩

theorem Retired.run (h : Retired s.registry fingerprint bound) (acts : List Action) :
    Retired (run Agent.step s acts).registry fingerprint bound :=
  run_induction (I := fun s : State => Retired s.registry fingerprint bound) h
    fun _ a h => h.step a

/-- A retired credential that can be used is superseded, and its overlap is not over. -/
theorem Retired.usable (h : Retired g fingerprint bound) (hsound : Sound g)
    (hk : Usable now g i fingerprint k c) :
    c.status = .superseded ∧ now < bound := by
  obtain ⟨k', c', hk', hf, hs⟩ := h
  obtain rfl : k = k' := hsound.fingerprint k k' c c' hk.lookup hk' (hk.fingerprint.trans hf.symm)
  cases hk.lookup.symm.trans hk'
  rcases hs with ⟨hs, ho⟩ | hs
  · have hlt := of_found (hk.overlap hs) ho
    exact ⟨hs, hlt⟩
  · exact absurd hs hk.status

theorem Retired.outlived (h : Retired s.registry fingerprint bound) (hsound : Sound s.registry) :
    Outlived s fingerprint bound where
  touch p sessionId sequence x hok := by
    obtain ⟨_, _, _, _, -, -, hk, -⟩ := touchAgent_eq_ok hok
    exact (h.usable hsound hk).2
  activate hello x hok := by
    rintro rfl
    obtain ⟨_, _⟩ := x
    obtain ⟨_, _, _, _, -, -, hk, hc, -⟩ := activateAgent_eq_ok hok
    rw [(h.usable hsound hk).1] at hc
    cases hc
  renew p r g' c hok := by
    obtain ⟨_, _, _, _, -, -, hk, ⟨rfl, -⟩ | ⟨hc, -⟩⟩ := renewAgent_eq_ok hok
    · rfl
    · rw [(h.usable hsound hk).1] at hc
      cases hc

/-- A renewal that issues a certificate retires the credential that was `Active`. -/
theorem retired_of_renewAgent (hsound : Sound s.registry) {row : AgentInstallation}
    (hissued : (step s (.renewAgent publicId fingerprint r)).registry.credentials.nextId ≠
      s.registry.credentials.nextId) (hrow : Named s.registry publicId i row)
    (hk : s.registry.credentials.lookup k = some c) (hi : c.installationId = i)
    (hc : c.status = .active) :
    Retired (step s (.renewAgent publicId fingerprint r)).registry c.fingerprint
      (min c.notAfter (s.now + agentCredentialOverlap)) := by
  generalize hg : (step s (.renewAgent publicId fingerprint r)).registry = g' at hissued ⊢
  have he := step_effect s (.renewAgent publicId fingerprint r)
  rw [hg] at he
  cases he with
  | idle | invited => exact absurd rfl hissued
  | renewed _ _ _ i' _ _ _ _ hrow' =>
    obtain rfl : i' = i := (hsound.named_unique hrow' hrow).1
    exact ⟨k, supersededRow s.now c, lookup_insert_of_lookup
      (lookup_modify_of_pos hk ⟨hi, hc⟩), rfl, .inl ⟨rfl, rfl⟩⟩

/-! ### Consumed tokens -/

/-- The attempt and the signing request are those of a credential of the installation, but not
those its token was consumed by. -/
def NamesRenewal (g : Registry) (i : ℕ) (r : SigningRequest) : Prop :=
  (∃ row ∈ g.installations.lookup i, row.enrollmentAttemptId ≠ some r.attemptId) ∧
    g.credentials.Any fun _ c => c.installationId = i ∧
      c.enrollmentAttemptId = some r.attemptId ∧ c.csrFingerprint = some r.csrFingerprint
deriving Decidable

/-- Some credential of the installation is `Active`. -/
def HasActive (g : Registry) (i : ℕ) : Prop :=
  g.credentials.Any fun _ c => c.installationId = i ∧ c.status = .active
deriving Decidable

/-- The credential is one of the installation. -/
structure Own (g : Registry) (i k : ℕ) (c : AgentCredential) : Prop where
  lookup : g.credentials.lookup k = some c
  installation : c.installationId = i

theorem hasActive_iff : HasActive g i ↔ ∃ k c, Own g i k c ∧ c.status = .active := by
  rw [HasActive, any_iff]
  exact ⟨fun ⟨k, c, hk, hi, hs⟩ => ⟨k, c, ⟨hk, hi⟩, hs⟩,
    fun ⟨k, c, ⟨hk, hi⟩, hs⟩ => ⟨k, c, hk, hi, hs⟩⟩

theorem own_of_credentials (h : g'.credentials = g.credentials) (k : ℕ) (c : AgentCredential) :
    Own g' i k c ↔ Own g i k c := by
  constructor
  · rintro ⟨hk, hi⟩
    exact ⟨h ▸ hk, hi⟩
  · rintro ⟨hk, hi⟩
    exact ⟨h ▸ hk, hi⟩

theorem own_insert_iff {z : AgentCredential} (hne : z.installationId ≠ i)
    {installations : Table AgentInstallation} {tokens : Table EnrollmentToken} :
    Own ⟨installations, tokens, g.credentials.insert z⟩ i k c ↔ Own g i k c := by
  constructor
  · rintro ⟨hk, hi⟩
    rcases lookup_insert_eq_some.mp hk with ⟨-, rfl⟩ | hk
    · exact absurd hi hne
    · exact ⟨hk, hi⟩
  · rintro ⟨hk, hi⟩
    exact ⟨lookup_insert_of_lookup hk, hi⟩

theorem own_modify_iff {p : ℕ → AgentCredential → Prop} {_ : ∀ k c, Decidable (p k c)}
    {f : AgentCredential → AgentCredential} {installations : Table AgentInstallation}
    {tokens : Table EnrollmentToken} (hf : ∀ c, (f c).installationId = c.installationId)
    (hp : ∀ k c, p k c → c.installationId ≠ i) :
    Own ⟨installations, tokens, g.credentials.modify p f⟩ i k c ↔ Own g i k c := by
  constructor
  · rintro ⟨hk, hi⟩
    obtain ⟨c₀, hk₀, ⟨hpk, rfl⟩ | ⟨-, rfl⟩⟩ := lookup_modify_eq_some.mp hk
    · exact absurd ((hf c₀).symm.trans hi) (hp k c₀ hpk)
    · exact ⟨hk₀, hi⟩
  · rintro ⟨hk, hi⟩
    exact ⟨lookup_modify_of_neg hk fun hpk => hp k c hpk hi, hi⟩

/-- What the calls have to avoid: giving a consumed token the attempt of a renewal, and reissuing
the invitation of an installation that has an `Active` credential. -/
def Careful (s : State) : Action → Prop
  | .enrollAgent tokenHash r => ¬ s.registry.tokens.Any fun _ t =>
    t.tokenHash = tokenHash ∧ t.consumedAt ≠ none ∧ NamesRenewal s.registry t.installationId r
  | .reissueClusterEnrollment publicId _ _ => ¬ s.registry.installations.Any fun i row =>
    row.publicId = publicId ∧ HasActive s.registry i
  | _ => True

/-- An installation that ever had a credential and is not revoked has an `Active` one. -/
def Alive (g : Registry) : Prop :=
  ∀ k c row, g.credentials.lookup k = some c →
    g.installations.lookup c.installationId = some row → row.status ≠ .revoked →
    HasActive g c.installationId

theorem Alive.effect (h : Alive g) (hsound : Sound g) (he : Effect now g a g') : Alive g' := by
  have hmodify {x : ℕ} {q : AgentInstallation} {f : AgentInstallation → AgentInstallation}
      (hx : g.installations.lookup x = some q) (hq : q.status ≠ .revoked) :
      Alive { g with installations := g.installations.modify (fun y _ => y = x) f } := by
    intro k c row hk hrow hs
    obtain ⟨_, hrow₀, ⟨rfl, -⟩ | ⟨-, rfl⟩⟩ := lookup_modify_eq_some.mp hrow
    · exact h k c q hk hx hq
    · exact h k c row hk hrow₀ hs
  cases he with
  | invited =>
    intro k c row hk hrow hs
    obtain ⟨row₀, hrow₀⟩ := hsound.credentialInstallation k c hk
    obtain rfl : row₀ = row :=
      Option.some.inj ((lookup_insert_of_lookup hrow₀).symm.trans hrow)
    exact h k c row₀ hk hrow₀ hs
  | enrolled _ _ _ _ _ _ _ _ hq hqs =>
    intro k c row hk hrow hs
    rcases lookup_insert_eq_some.mp hk with ⟨-, rfl⟩ | hk
    · exact any_iff.mpr ⟨_, _, lookup_insert_self, rfl, rfl⟩
    · obtain ⟨k', c', hk', hc'⟩ := any_iff.mp (hmodify hq hqs k c row hk hrow hs)
      exact any_iff.mpr ⟨k', c', lookup_insert_of_lookup hk', hc'⟩
  | renewed _ _ _ i =>
    intro k c row hk hrow hs
    by_cases hi : c.installationId = i
    · exact any_iff.mpr ⟨_, _, lookup_insert_self, hi.symm, rfl⟩
    · rcases lookup_insert_eq_some.mp hk with ⟨-, rfl⟩ | hk
      · exact absurd rfl hi
      · obtain ⟨_, hk₀, ⟨hp, rfl⟩ | ⟨-, rfl⟩⟩ := lookup_modify_eq_some.mp hk
        · exact absurd hp.1 hi
        · obtain ⟨k', c', hk', hc', hs'⟩ := any_iff.mp (h k c row hk₀ hrow hs)
          refine any_iff.mpr ⟨k', c', lookup_insert_of_lookup
            (lookup_modify_of_neg hk' fun hp => hi ?_), hc', hs'⟩
          exact hc'.symm.trans hp.1
  | activated _ _ _ _ _ hq hqs => exact hmodify hq.lookup hqs
  | touched _ _ _ _ _ _ _ _ hq hqs => exact hmodify hq.lookup (by rw [hqs]; nofun)
  | revoked _ _ i _ hq =>
    intro k c row hk hrow hs
    obtain ⟨c₀, hk₀, hc₀⟩ := exists_of_lookup_modify hk AgentCredential.installationId
      fun _ => rfl
    rw [hc₀] at hrow ⊢
    by_cases hi : c₀.installationId = i
    · rw [hi, lookup_modify_of_pos hq.lookup rfl, Option.some.injEq] at hrow
      subst hrow
      exact absurd rfl hs
    · obtain ⟨_, hrow₀, ⟨hp, -⟩ | ⟨-, rfl⟩⟩ := lookup_modify_eq_some.mp hrow
      · exact absurd hp hi
      · obtain ⟨k', c', hk', hc', hs'⟩ := any_iff.mp (h k c₀ row hk₀ hrow₀ hs)
        refine any_iff.mpr ⟨k', c', lookup_modify_of_neg hk' fun hp => hi ?_, hc', hs'⟩
        exact hc'.symm.trans hp
  | idle | refreshed | reissued | reissuedNew => exact h

theorem Initial.alive_run (h : Initial s) (acts : List Action) :
    Sound (run step s acts).registry ∧ Alive (run step s acts).registry := by
  refine run_induction (I := fun s : State => Sound s.registry ∧ Alive s.registry)
    ⟨h.sound, fun k c row hk => ?_⟩
    fun s a hs => ⟨hs.1.step a, hs.2.effect hs.1 (step_effect s a)⟩
  rw [Initial] at h
  rw [h] at hk
  cases hk

/-- The token was consumed by the attempt, for the certificate. -/
structure Enrolled (g : Registry) (tokenHash : Bytes) (r : SigningRequest) (c : AgentCertificate)
    (i j k : ℕ) : Prop where
  token : ∃ t, g.tokens.lookup j = some t ∧ t.tokenHash = tokenHash ∧ t.installationId = i ∧
    t.consumedAt ≠ none
  installation : ∃ row, g.installations.lookup i = some row ∧ row.publicId = c.installationId ∧
    row.enrollmentAttemptId = some r.attemptId
  credential : ∃ cr, g.credentials.lookup k = some cr ∧ cr.installationId = i ∧
    cr.enrollmentAttemptId = some r.attemptId ∧ cr.csrFingerprint = some r.csrFingerprint ∧
    cr.withServerCa = c.withServerCa

section Enrolled

variable {tokenHash : Bytes} {r : SigningRequest} {c : AgentCertificate}
  (h : Enrolled s.registry tokenHash r c i j k)
include h

/-- The credential that was issued stays what it is, but for its rights. -/
theorem Enrolled.credential_step (a : Action) :
    ∃ cr, (step s a).registry.credentials.lookup k = some cr ∧ cr.installationId = i ∧
      cr.enrollmentAttemptId = some r.attemptId ∧ cr.csrFingerprint = some r.csrFingerprint ∧
      cr.withServerCa = c.withServerCa := by
  obtain ⟨_, hk, hcr⟩ := h.credential
  obtain ⟨_, hk', rfl | ⟨-, rfl⟩ | rfl⟩ := (step_effect s a).credential hk
  all_goals exact ⟨_, hk', hcr⟩

/-- **The token stays consumed by the attempt**, as long as it is not reissued. -/
theorem Enrolled.step (hsound : Sound s.registry) (halive : Alive s.registry)
    (hcareful : Careful s a) : Enrolled (step s a).registry tokenHash r c i j k := by
  have hcredential := h.credential_step a
  obtain ⟨t, hj, ht, hti, hconsumed⟩ := h.token
  obtain ⟨row, hrow, hpublic, hattempt⟩ := h.installation
  obtain ⟨cr, hk, hcr, -⟩ := h.credential
  have htoken : ∃ u, s.registry.tokens.lookup j = some u ∧ u.tokenHash = tokenHash ∧
      u.installationId = i ∧ u.consumedAt ≠ none := ⟨t, hj, ht, hti, hconsumed⟩
  have hkept {x : ℕ} {f : AgentInstallation → AgentInstallation}
      (hf : ∀ q, (f q).publicId = q.publicId ∧ (f q).enrollmentAttemptId = q.enrollmentAttemptId) :
      ∃ q, (s.registry.installations.modify (fun y _ => y = x) f).lookup i = some q ∧
        q.publicId = c.installationId ∧ q.enrollmentAttemptId = some r.attemptId :=
    exists_lookup_modify hrow ⟨hpublic, hattempt⟩ fun _ =>
      ⟨(hf row).1.trans hpublic, (hf row).2.trans hattempt⟩
  have he := step_effect s a
  generalize (Agent.step s a).registry = g' at he hcredential ⊢
  cases he with
  | idle => exact h
  | invited =>
    exact ⟨⟨t, lookup_insert_of_lookup hj, ht, hti, hconsumed⟩,
      ⟨row, lookup_insert_of_lookup hrow, hpublic, hattempt⟩, hcredential⟩
  | refreshed =>
    exact ⟨⟨t, lookup_modify_of_neg hj fun hp => hconsumed hp.2, ht, hti, hconsumed⟩,
      h.installation, hcredential⟩
  | reissued _ _ _ x q hq hs =>
    -- The installation is not revoked and has a credential, so it has an `Active` one.
    have hne : t.installationId ≠ x := by
      intro hx
      have hxi : x = i := hx.symm.trans hti
      subst hxi
      refine not_any_iff.mp hcareful x q hq.lookup ⟨hq.publicId, ?_⟩
      rw [← hcr]
      refine halive k cr q hk (by rw [hcr]; exact hq.lookup) ?_
      rw [hs]
      nofun
    exact ⟨⟨t, lookup_modify_of_neg hj hne, ht, hti, hconsumed⟩, h.installation, hcredential⟩
  | reissuedNew =>
    exact ⟨⟨t, lookup_insert_of_lookup hj, ht, hti, hconsumed⟩, h.installation, hcredential⟩
  | enrolled _ _ j' t' _ _ hj' _ _ _ hfresh =>
    have hne : t.installationId ≠ t'.installationId := by
      intro hx
      obtain rfl := hsound.tokenOwner j j' t t' hj hj' hx
      cases hj.symm.trans hj'
      exact hconsumed hfresh
    have hi : i ≠ t'.installationId := fun hi => hne (hti.trans hi)
    exact ⟨⟨t, lookup_modify_of_neg hj hne, ht, hti, hconsumed⟩,
      ⟨row, lookup_modify_of_neg hrow hi, hpublic, hattempt⟩, hcredential⟩
  | renewed => exact ⟨htoken, h.installation, hcredential⟩
  | activated | touched | revoked => exact ⟨htoken, hkept fun _ => ⟨rfl, rfl⟩, hcredential⟩

end Enrolled

theorem Certificate.withServerCa_idem (c : Certificate) :
    c.withServerCa.withServerCa = c.withServerCa := by
  unfold withServerCa
  by_cases hs : c.serverCaPem = []
  · simp [hs]
  · simp [hs]

/-- A certificate that is given out again is that of a credential for the attempt and the signing
request. -/
theorem credentialForAttempt_eq_some {attemptId : String} {csrFingerprint : Bytes}
    {certificate : Certificate}
    (h : credentialForAttempt g.credentials i attemptId csrFingerprint = some certificate) :
    ∃ k c, g.credentials.lookup k = some c ∧ c.installationId = i ∧
      c.enrollmentAttemptId = some attemptId ∧ c.csrFingerprint = some csrFingerprint ∧
      c.toCertificate = certificate := by
  unfold credentialForAttempt at h
  split at h
  · cases h
  · rename_i k c hf
    split at h
    · rename_i hcsr
      obtain ⟨hi, ha⟩ := pos_of_first hf
      exact ⟨k, c, lookup_of_first hf, hi, ha, hcsr, Option.some.inj h⟩
    · cases h

/-- The certificate of a credential is given out again for its attempt and its request. -/
theorem Sound.credentialForAttempt_eq (hsound : Sound g) {attemptId : String}
    {csrFingerprint : Bytes} (hk : g.credentials.lookup k = some c) (hi : c.installationId = i)
    (ha : c.enrollmentAttemptId = some attemptId) (hcsr : c.csrFingerprint = some csrFingerprint) :
    credentialForAttempt g.credentials i attemptId csrFingerprint = some c.toCertificate := by
  have hfirst : (g.credentials.first fun _ c => c.installationId = i ∧
      c.enrollmentAttemptId = some attemptId) = some (k, c) :=
    hsound.attempt.first_eq hk ⟨hi, ha⟩ fun _ _ hq => attemptIndex_eq_some.mpr hq
  rw [credentialForAttempt, hfirst]
  exact if_pos hcsr

theorem valid_of_enrollAgent {c : AgentCertificate}
    (h : enrollAgent now g tokenHash r = .ok (g', c)) : tokenHash ≠ [] ∧ r.Valid := by
  simp only [enrollAgent, ok_iff] at h
  exact h.1

theorem valid_of_renewAgent {c : AgentCertificate}
    (h : renewAgent now g publicId fingerprint r = .ok (g', c)) :
    r.Valid := by
  simp only [renewAgent, ok_iff] at h
  exact h.1.2.2

/-- A call that enrolls leaves the token consumed by it. -/
theorem enrolled_of_enrollAgent {c : AgentCertificate}
    (hcareful : Careful s (.enrollAgent tokenHash r))
    (h : enrollAgent s.now s.registry tokenHash r = .ok (g', c)) :
    ∃ i j k, Enrolled (step s (.enrollAgent tokenHash r)).registry tokenHash r c i j k := by
  have hstep : (step s (.enrollAgent tokenHash r)).registry = g' := by
    simp only [step, attempt, h, commit, Except.map]
  rw [hstep]
  obtain ⟨j, t, row, hf, hrow, -, hc, ⟨hconsumed, rfl, hfound⟩ | ⟨-, -, -, rfl⟩⟩ :=
    enrollAgent_eq_ok h
  · obtain ⟨k, cr, hk, hi, ha, hcsr, hcert⟩ := credentialForAttempt_eq_some hfound
    have hattempt : row.enrollmentAttemptId = some r.attemptId := by
      by_contra hne
      refine not_any_iff.mp hcareful j t (lookup_of_first hf)
        ⟨pos_of_first hf, hconsumed, ⟨row, hrow, hne⟩, ?_⟩
      exact any_iff.mpr ⟨k, cr, hk, hi, ha, hcsr⟩
    exact ⟨t.installationId, j, k, ⟨t, lookup_of_first hf, pos_of_first hf, rfl, hconsumed⟩,
      ⟨row, hrow, hc.symm, hattempt⟩, ⟨cr, hk, hi, ha, hcsr, by rw [hcert]⟩⟩
  · refine ⟨t.installationId, j, s.registry.credentials.nextId, ⟨_,
      lookup_modify_of_pos (lookup_of_first hf) rfl, pos_of_first hf, rfl,
      Option.some_ne_none _⟩, ⟨_, lookup_modify_of_pos hrow rfl, hc.symm, rfl⟩,
      ⟨_, lookup_insert_self, rfl, rfl, rfl, ?_⟩⟩
    exact Certificate.withServerCa_idem _

/-- A consumed token gives out its certificate, and only for the attempt and the signing request
that consumed it. -/
theorem Enrolled.certificate {r' : SigningRequest} {c c' : AgentCertificate}
    (h : Enrolled s.registry tokenHash r c i j k) (hsound : Sound s.registry)
    (hcareful : Careful s (.enrollAgent tokenHash r'))
    (hok : enrollAgent s.now s.registry tokenHash r' = .ok (g', c')) :
    r'.attemptId = r.attemptId ∧ r'.csrFingerprint = r.csrFingerprint ∧ c'.SameAs c := by
  obtain ⟨t, hj, ht, rfl, hconsumed⟩ := h.token
  obtain ⟨row, hrow, hpublic, hattempt⟩ := h.installation
  obtain ⟨cr, hk, hcr, ha, hcsr, hcert⟩ := h.credential
  obtain ⟨j', t', row', hf, hrow', -, hc', hresult⟩ := enrollAgent_eq_ok hok
  obtain rfl : j = j' := hsound.tokenHash j j' t t' hj (lookup_of_first hf)
    (ht.trans (pos_of_first hf).symm)
  cases hj.symm.trans (lookup_of_first hf)
  cases hrow.symm.trans hrow'
  obtain ⟨-, -, hfound⟩ | ⟨hfresh, -⟩ := hresult
  · obtain ⟨k', cr', hk', hcr', ha', hcsr', hcert'⟩ := credentialForAttempt_eq_some hfound
    have hsame : r'.attemptId = r.attemptId := by
      by_contra hne
      refine not_any_iff.mp hcareful j t hj ⟨ht, hconsumed, ⟨row, hrow, ?_⟩,
        any_iff.mpr ⟨k', cr', hk', hcr', ha', hcsr'⟩⟩
      rw [hattempt]
      exact fun heq => hne (Option.some.inj heq).symm
    rw [hsame] at ha'
    obtain rfl : k' = k := hsound.attempt k' k cr' cr (t.installationId, r.attemptId) hk' hk
      (attemptIndex_eq_some.mpr ⟨hcr', ha'⟩) (attemptIndex_eq_some.mpr ⟨hcr, ha⟩)
    cases hk'.symm.trans hk
    refine ⟨hsame, Option.mem_unique hcsr' hcsr, ?_, hc'.trans hpublic⟩
    rw [← hcert, hcert']
  · exact absurd hfresh hconsumed

/-- A consumed token gives out its certificate again, as long as the cluster is not revoked. -/
theorem Enrolled.replay {c : AgentCertificate} (h : Enrolled s.registry tokenHash r c i j k)
    (hsound : Sound s.registry) (hvalid : tokenHash ≠ [] ∧ r.Valid)
    (hr : ¬ Revoked s.registry c.installationId) (issue : String → Except Err Certificate) :
    ∃ g' c', enrollAgent s.now s.registry tokenHash { r with issue := issue } = .ok (g', c') ∧
      c'.SameAs c := by
  obtain ⟨t, hj, ht, rfl, hconsumed⟩ := h.token
  obtain ⟨row, hrow, hpublic, -⟩ := h.installation
  obtain ⟨cr, hk, hcr, ha, hcsr, hcert⟩ := h.credential
  have hfirst : (s.registry.tokens.first fun _ t => t.tokenHash = tokenHash) = some (j, t) :=
    hsound.tokenHash.first_eq hj ht
  have hs : row.status ≠ .revoked := fun hs => hr ⟨t.installationId, row, ⟨hrow, hpublic⟩, hs⟩
  refine ⟨s.registry, ⟨cr.toCertificate, row.publicId⟩, ?_, hcert, hpublic⟩
  have hfound := hsound.credentialForAttempt_eq hk hcr ha hcsr
  simp only [enrollAgent, ok_iff]
  refine ⟨hvalid, (j, t), hfirst, row, hrow, ⟨fun he => hconsumed he.2, hs⟩, ?_⟩
  rw [if_pos hconsumed]
  simp only [ok_iff]
  exact ⟨cr.toCertificate, hfound, rfl⟩

/-- **Credentials live as they should**, in every run and from every point of it on; for tokens,
as long as the calls are careful. -/
theorem lifecycle_run (s₀ : State) (acts : List Action) (h₀ : Initial s₀) :
    Lifecycle Careful (run step s₀ acts) := by
  obtain ⟨hsound, halive⟩ := h₀.alive_run acts
  generalize run step s₀ acts = s at hsound halive
  have hsounds (s : State) (h : Sound s.registry) (more : List Action) :
      Sound (run step s more).registry :=
    run_induction (I := fun s : State => Sound s.registry) h fun _ a h => h.step a
  constructor
  case active =>
    intro k k' c c' hk hk' hi hc hc'
    exact hsound.active k k' c c' c.installationId hk hk' (activeIndex_eq_some.mpr ⟨hc, rfl⟩)
      (activeIndex_eq_some.mpr ⟨hc', hi.symm⟩)
  case token =>
    intro tokenHash r g' c hcareful hok more hmore
    have hvalid := valid_of_enrollAgent hok
    obtain ⟨i, j, k, henrolled⟩ := enrolled_of_enrollAgent hcareful hok
    obtain ⟨hsound', -, henrolled'⟩ := guarded_run_induction
      (I := fun s : State => Sound s.registry ∧ Alive s.registry ∧
        Enrolled s.registry tokenHash r c i j k)
      ⟨hsound.step _, halive.effect hsound (step_effect s _), henrolled⟩
      (fun s a h hg => ⟨h.1.step a, h.2.1.effect h.1 (step_effect s a),
        h.2.2.step h.1 h.2.1 hg⟩) hmore
    exact ⟨fun r' g'' c' hcareful' hok' => henrolled'.certificate hsound' hcareful' hok',
      fun hr issue => henrolled'.replay hsound' hvalid hr issue⟩
  case renewal =>
    intro publicId fingerprint r hissued i row k c hrow hk hi hc more
    have hretired := retired_of_renewAgent hsound hissued hrow hk hi hc
    exact (hretired.run more).outlived (hsounds _ (hsound.step _) more)
  case revocation =>
    intro publicId reason g' hok more
    have hrevoked := revoked_of_revokeCluster hok
    exact (hsounds _ (hsound.step _) more).shut (hrevoked.run more)

/-! ### A small registry -/

/-- A registry without any cluster. -/
def emptyState : State := ⟨0, .empty, .empty, .empty⟩

/-- An invitation for a cluster, good for ten minutes. -/
def invitation : Invitation := ⟨"cls-one", "one", [1], 600⟩

/-- A certificate with the fingerprint, good for a day. -/
def certificate (fingerprint : Bytes) : Certificate where
  certificatePem := [1]
  caCertificatePem := [2]
  serverCaPem := [3]
  serial := "01"
  fingerprint := fingerprint
  notAfter := 86400
  trustBundleId := "0123456789abcdef0123456789abcdef0123456789abcdef0123456789abcdef"

/-- An attempt to get a certificate with the fingerprint. -/
def request (attemptId : String) (fingerprint : Bytes) : SigningRequest where
  attemptId := attemptId
  csrFingerprint := fingerprint
  issue _ := .ok (certificate fingerprint)

/-- The cluster connects. -/
def hello (fingerprint : Bytes) : Hello where
  publicId := "cls-one"
  fingerprint := fingerprint
  clusterUid := "uid-one"
  agentVersion := "v0.1.0"
  kubernetesVersion := "v1.31"
  capabilities := ["runtime.v1alpha1"]
  provisioningMode := ""
  trustBundleId := ""
  sessionId := "session-one"

/-- A cluster enrolls, connects, and renews its certificate. -/
def renewalRun : List Action :=
  [.createAgentInstallation invitation, .enrollAgent [1] (request "attempt-one" [1]),
    .activateAgent (hello [1]), .renewAgent "cls-one" [1] (request "attempt-two" [2])]

theorem lifecycle_renewalRun :
    (run step emptyState renewalRun).registry.credentials.nextId = 3 ∧
      Lifecycle Careful (run step emptyState renewalRun) :=
  ⟨by decide +kernel, lifecycle_run emptyState renewalRun rfl⟩

/-- **A token does not enroll one signing request only.** The token of the invitation gives out
the certificate of the renewal as well. And once the invitation was reissued, the request that
consumed the token is refused. -/
theorem not_lifecycle_invitation :
    ¬ Lifecycle (fun _ _ => True) (step emptyState (.createAgentInstallation invitation)) ∧
    (enrollAgent 0 (run step emptyState
        [.createAgentInstallation invitation, .enrollAgent [1] (request "attempt-one" [1]),
          .reissueClusterEnrollment "cls-one" [2] 600]).registry
      [1] (request "attempt-one" [1])).isOk = false := by
  refine ⟨fun h => ?_, by decide +kernel⟩
  obtain ⟨⟨g', c⟩, hok⟩ : ∃ x, enrollAgent 0
      (step emptyState (.createAgentInstallation invitation)).registry [1]
      (request "attempt-one" [1]) = .ok x := isOk_iff.mp (by decide +kernel)
  obtain ⟨⟨g'', c'⟩, hok'⟩ : ∃ x, enrollAgent 0
      (run step (step emptyState (.createAgentInstallation invitation))
        [.enrollAgent [1] (request "attempt-one" [1]), .activateAgent (hello [1]),
          .renewAgent "cls-one" [1] (request "attempt-two" [2])]).registry [1]
      (request "attempt-two" [2]) = .ok x := isOk_iff.mp (by decide +kernel)
  have hsame := (h.token [1] (request "attempt-one" [1]) g' c trivial hok
    [.activateAgent (hello [1]), .renewAgent "cls-one" [1] (request "attempt-two" [2])]
    ⟨trivial, trivial, trivial⟩).1 (request "attempt-two" [2]) g'' c' trivial hok'
  exact absurd hsame.1 (by decide)

end Molejo.Agent
