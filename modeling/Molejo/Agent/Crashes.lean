import Molejo.Agent.Runner

/-!
# The identity of an Agent survives crashes

An Agent may stop at any point of its enrollment or of a renewal, and any answer may be lost.
What remains is its Secret on one side and the registry on the other, and
`survivesCrashes_run` says that the two always fit:

* the key and the certificate in the Secret belong together;
* what was issued is issued once: every call that is repeated, however late, is given the
  certificate of its attempt again, and changes nothing;
* the `Active` credential of the cluster is the one in the Secret, or the one that the Secret
  still asks for;
* once a certificate is saved, and nothing is pending, it is the `Active` one.

The invariant (`Related`) ties the two sides together by the attempts. The Secret keeps an attempt
from before its first call until its certificate is saved, so a credential that is not in the
Secret was issued for the attempt that is; and the attempt of a renewal is never one that was used
before, so what is found for it is what was issued for it.
-/

namespace Molejo.Agent

open Transaction Store Table Transition

variable {publicId attemptId : String} {g g' : Registry} {csrPem : Bytes} {k n : ℕ}
  {c : AgentCredential} {call : Call} {answer : AgentCertificate} {phase : Phase} {now : Time}

/-! ### The property -/

/-- The credential was issued to the installation for the attempt and the signing request. -/
structure IssuedFor (config : RunnerConfig) (g : Registry) (i : ℕ) (attemptId : String)
    (csrPem : Bytes) (k : ℕ) (c : AgentCredential) : Prop where
  lookup : g.credentials.lookup k = some c
  installation : c.installationId = i
  attempt : c.enrollmentAttemptId = some attemptId
  csr : c.csrFingerprint = some (config.csrFingerprint csrPem)

/-- What the Agent asks for next. -/
def StoredIdentity.pending (stored : StoredIdentity) : EnrollmentIdentity :=
  if stored.certificatePem = [] then stored.enrollment else stored.renewal

/-- The caller is still accepted. A token that was consumed is good for a repetition for ever; a
certificate is good until it expires, and until its overlap ends if it was renewed. -/
def Caller.InTime (s : RunnerState) (i : ℕ) : Caller → Prop
  | .token _ => True
  | .certificate _ fingerprint => ∀ k c, s.registry.credentials.lookup k = some c →
      c.installationId = i → c.fingerprint = fingerprint →
      s.now < c.notAfter ∧ ∀ t ∈ c.overlapNotAfter, s.now < t

/-- **The identity of the Agent is whole**, whatever was lost. -/
structure SurvivesCrashes (config : RunnerConfig) (s : RunnerState) : Prop where
  /-- The key and the certificate belong together. -/
  belongs : s.secret.certificatePem ≠ [] →
    config.belongs s.secret.privateKeyPem s.secret.certificatePem = true
  /-- A call whose certificate was issued is given this certificate, and issues no other. -/
  replay : ∀ i row, Named s.registry s.publicId i row →
    ∀ n call, s.calls.lookup n = some call →
    ∀ k c, IssuedFor config s.registry i call.attemptId call.csrPem k c →
    call.caller.InTime s i →
    ∀ issue, s.handle config call issue = .ok (s.registry, ⟨c.toCertificate, s.publicId⟩)
  /-- A credential that is not in the Secret is asked for again. -/
  resumes : ∀ i row, Named s.registry s.publicId i row →
    ∀ k c, s.registry.credentials.lookup k = some c → c.installationId = i →
    c.status = .active → c.certificatePem = s.secret.certificatePem ∨
      IssuedFor config s.registry i s.secret.pending.attemptId s.secret.pending.csrPem k c
  /-- Once everything is saved, the Agent holds the `Active` credential. -/
  completed : ∀ i row, Named s.registry s.publicId i row →
    s.secret.certificatePem ≠ [] → s.secret.renewalAttemptId = "" →
    ∃ k c, s.registry.credentials.lookup k = some c ∧ c.installationId = i ∧
      c.status = .active ∧ c.certificatePem = s.secret.certificatePem

/-! ### What others do to the registry -/

/-- Nothing happens to the credentials and the token of the installation, and it stays active if it
is. -/
structure Untouched (i : ℕ) (g g' : Registry) : Prop where
  sound : Sound g'
  own : ∀ k c, Own g' i k c ↔ Own g i k c
  token : ∀ j t, g.tokens.lookup j = some t → t.installationId = i → g'.tokens.lookup j = some t
  installation : ∀ row, g.installations.lookup i = some row → row.status ≠ .revoked →
    ∃ row', g'.installations.lookup i = some row' ∧ row'.publicId = row.publicId ∧
      row'.status ≠ .revoked ∧ (row.status = .active → row'.status = .active)

section Untouched

variable {g g' : Registry} {i k x : ℕ} {c : AgentCredential} {now : Time} {a : Action}

/-- An installation is updated, and not revoked. -/
theorem installation_modify {f : AgentInstallation → AgentInstallation}
    (hf : ∀ q, (f q).publicId = q.publicId ∧
      ((f q).status = q.status ∨ (f q).status = .active))
    (row : AgentInstallation) (hrow : g.installations.lookup i = some row)
    (hs : row.status ≠ .revoked) :
    ∃ row', (g.installations.modify (fun y _ => y = x) f).lookup i = some row' ∧
      row'.publicId = row.publicId ∧ row'.status ≠ .revoked ∧
      (row.status = .active → row'.status = .active) := by
  refine exists_lookup_modify hrow ⟨rfl, hs, id⟩ fun _ => ⟨(hf row).1, ?_⟩
  rcases (hf row).2 with h | h
  · rw [h]
    exact ⟨hs, id⟩
  · rw [h]
    exact ⟨nofun, fun _ => rfl⟩

/-- **Calls of others do not touch the identity of the Agent.** -/
theorem untouched_of_elsewhere {tokenHash : Bytes} {j : ℕ} {t : EnrollmentToken}
    {row : AgentInstallation} (hsound : Sound g) (hrow : Named g publicId i row)
    (hj : g.tokens.lookup j = some t) (hi : t.installationId = i) (ht : t.tokenHash = tokenHash)
    (ha : Elsewhere publicId tokenHash a) (he : Effect now g a g') : Untouched i g g' := by
  have hother {p : String} {x : ℕ} {q : AgentInstallation} (hne : p ≠ publicId)
      (hq : Named g p x q) : i ≠ x := by
    rintro rfl
    cases hrow.lookup.symm.trans hq.lookup
    exact hne (hq.publicId.symm.trans hrow.publicId)
  have hsame : ∀ row, g.installations.lookup i = some row → row.status ≠ .revoked →
      ∃ row', g.installations.lookup i = some row' ∧ row'.publicId = row.publicId ∧
        row'.status ≠ .revoked ∧ (row.status = .active → row'.status = .active) :=
    fun row hrow hs => ⟨row, hrow, rfl, hs, id⟩
  have hsound' := hsound.effect he
  cases he with
  | idle => exact ⟨hsound', fun _ _ => Iff.rfl, fun _ _ h _ => h, hsame⟩
  | invited =>
    exact ⟨hsound', own_of_credentials rfl, fun _ _ h _ => lookup_insert_of_lookup h,
      fun row hrow hs => ⟨row, lookup_insert_of_lookup hrow, rfl, hs, id⟩⟩
  | refreshed _ _ _ _ hq =>
    refine ⟨hsound', own_of_credentials rfl, fun j u h hu => ?_, hsame⟩
    exact lookup_modify_of_neg h fun hx => hother ha hq (hu.symm.trans hx.1)
  | reissued _ _ _ _ _ hq =>
    refine ⟨hsound', own_of_credentials rfl, fun j u h hu => ?_, hsame⟩
    exact lookup_modify_of_neg h fun hx => hother ha hq (hu.symm.trans hx)
  | reissuedNew =>
    exact ⟨hsound', own_of_credentials rfl, fun _ _ h _ => lookup_insert_of_lookup h, hsame⟩
  | enrolled _ _ j' u _ _ hj' hu =>
    have hne : i ≠ u.installationId := by
      intro hx
      obtain rfl := hsound.tokenOwner j j' t u hj hj' (hi.trans hx)
      obtain rfl := Option.mem_unique hj hj'
      exact ha (hu.symm.trans ht)
    exact ⟨hsound', fun _ _ => own_insert_iff hne.symm,
      fun j v h hv => lookup_modify_of_neg h fun hx => hne (hv.symm.trans hx),
      installation_modify fun _ => ⟨rfl, .inl rfl⟩⟩
  | renewed _ _ r x _ _ _ issued hq =>
    have hne := hother ha hq
    have hmodified (k : ℕ) (c : AgentCredential) :
        Own { g with credentials := renewedCredentials now g.credentials x } i k c ↔
          Own g i k c :=
      own_modify_iff (fun _ => rfl) fun _ c hp => hp.1.trans_ne hne.symm
    exact ⟨hsound', fun k c => (own_insert_iff
      (z := issuedRow x r.attemptId r.csrFingerprint issued) hne.symm).trans (hmodified k c),
      fun _ _ h _ => h, hsame⟩
  | activated =>
    exact ⟨hsound', own_of_credentials rfl, fun _ _ h _ => h,
      installation_modify fun _ => ⟨rfl, .inr rfl⟩⟩
  | touched =>
    exact ⟨hsound', own_of_credentials rfl, fun _ _ h _ => h,
      installation_modify fun _ => ⟨rfl, .inl rfl⟩⟩
  | revoked _ _ _ _ hq =>
    have hne := hother ha hq
    exact ⟨hsound', fun _ _ => own_modify_iff (fun _ => rfl) fun _ c hp => hp.trans_ne hne.symm,
      fun _ _ h _ => h,
      fun row hrow hs => ⟨row, lookup_modify_of_neg hrow hne, rfl, hs, id⟩⟩

end Untouched

/-! ### The two sides are related -/

namespace RunnerState

variable (config : RunnerConfig) (i : ℕ) (s : RunnerState)

/-- What is known of a credential of the Agent: it was issued for one of its calls, and is not
revoked. -/
structure CredentialSound (calls : Table Call) (c : AgentCredential) : Prop where
  fingerprint : c.fingerprint = config.certificateFingerprint c.certificatePem
  nonempty : c.fingerprint ≠ []
  status : c.status ≠ .revoked
  overlap : c.status = .superseded → c.overlapNotAfter ≠ none
  call : ∃ n call, calls.lookup n = some call ∧ c.enrollmentAttemptId = some call.attemptId ∧
    c.csrFingerprint = some (config.csrFingerprint call.csrPem) ∧
    isBlank call.attemptId = false ∧ config.csrFingerprint call.csrPem ≠ []

/-- What is known of a call. An enrollment is the one of the Secret. A renewal is the one of the
Secret, or its certificate was issued. -/
def CallSound (call : Call) : Prop :=
  match call.caller with
  | .token token => token = s.invitation ∧ call.attemptId = s.secret.attemptId ∧
      call.csrPem = s.secret.csrPem
  | .certificate installationId fingerprint =>
      installationId = s.publicId ∧ call.attemptId ≠ s.secret.attemptId ∧
      s.secret.certificatePem ≠ [] ∧ (∃ k c, Own s.registry i k c ∧ c.fingerprint = fingerprint) ∧
      (call.attemptId = s.secret.renewalAttemptId ∧ call.csrPem = s.secret.renewalCsrPem ∨
        ∃ k c, IssuedFor config s.registry i call.attemptId call.csrPem k c)

/-- What is known of an answer that the Agent may get for an attempt. -/
structure AnswerSound (g : Registry) (publicId attemptId : String) (csrPem : Bytes)
    (answer : AgentCertificate) : Prop where
  installationId : answer.installationId = publicId
  issued : ∃ k c, IssuedFor config g i attemptId csrPem k c ∧
    c.certificatePem = answer.certificatePem

/-- The `Active` credential is the one in the Secret, and the renewal in the Secret is still to be
made; or it is the one of this renewal. -/
def Current (g : Registry) (secret : StoredIdentity) (c : AgentCredential) : Prop :=
  c.status = .active ∧ (∀ k' c', Own g i k' c' →
      c'.enrollmentAttemptId ≠ some secret.renewalAttemptId) ∨
    secret.renewalAttemptId ≠ "" ∧ ∃ k' c', IssuedFor config g i secret.renewalAttemptId
      secret.renewalCsrPem k' c' ∧ c'.status = .active

/-- The Secret holds a certificate. -/
structure Holding (g : Registry) (calls : Table Call) (publicId : String)
    (secret : StoredIdentity) : Prop where
  named : publicId ≠ ""
  installationId : secret.installationId = publicId
  belongs : config.belongs secret.privateKeyPem secret.certificatePem = true
  enrolled : ∃ n call, calls.lookup n = some call ∧ call.attemptId = secret.attemptId
  distinct : secret.renewalAttemptId ≠ secret.attemptId
  credential : ∃ k c, Own g i k c ∧ c.certificatePem = secret.certificatePem ∧
    Current config i g secret c

/-- **The Secret and the registry are related.** -/
structure Related : Prop where
  sound : Sound s.registry
  installation : ∃ row, s.registry.installations.lookup i = some row ∧
    row.publicId = s.publicId ∧ row.status ≠ .revoked ∧
    ((∃ k c, Own s.registry i k c ∧ c.enrollmentAttemptId ≠ some s.secret.attemptId) →
      row.status = .active)
  token : ∃ j t, s.registry.tokens.lookup j = some t ∧ t.installationId = i ∧
    t.tokenHash = config.hashToken s.invitation ∧
    (t.consumedAt ≠ none ↔ ∃ k c, Own s.registry i k c)
  tokenHash : config.hashToken s.invitation ≠ []
  credentials : ∀ k c, Own s.registry i k c → CredentialSound config s.calls c
  secretToken : s.secret.certificatePem = [] → s.token = s.invitation
  attemptId : ∀ n call, s.calls.lookup n = some call → call.attemptId ≠ ""
  calls : ∀ n call, s.calls.lookup n = some call → s.CallSound config i call
  responses : ∀ n answer, s.responses n = some answer → ∃ call, s.calls.lookup n = some call ∧
    AnswerSound config i s.registry s.publicId call.attemptId call.csrPem answer
  enrolling : s.secret.certificatePem = [] → s.secret.renewal.Empty ∧
    ∀ k c, Own s.registry i k c →
      c.status = .active ∧ c.enrollmentAttemptId = some s.secret.attemptId
  holding : s.secret.certificatePem ≠ [] →
    Holding config i s.registry s.calls s.publicId s.secret

/-- What the runner knows in each phase. Only after a renewal that could not be saved is it not what
the Secret has. -/
def PhaseSound : Phase → Prop
  | .stopped => True
  | .loaded stored => stored = s.secret
  | .enrolling stored n => stored = s.secret ∧ s.secret.certificatePem = [] ∧
      ∃ call, s.calls.lookup n = some call ∧ call.attemptId = stored.attemptId ∧
        call.csrPem = stored.csrPem
  | .enrolled stored answer => stored = s.secret ∧ s.secret.certificatePem = [] ∧
      config.belongs stored.privateKeyPem answer.certificatePem = true ∧
      AnswerSound config i s.registry s.publicId stored.attemptId stored.csrPem answer
  | .paired stored | .cleared stored | .renewable stored _ =>
      stored = s.secret ∧ s.secret.certificatePem ≠ []
  | .renewing stored n _ => stored = s.secret ∧ s.secret.certificatePem ≠ [] ∧
      ∃ call, s.calls.lookup n = some call ∧ call.attemptId = stored.renewalAttemptId ∧
        call.csrPem = stored.renewalCsrPem
  | .renewed stored answer _ => stored = s.secret ∧ s.secret.certificatePem ≠ [] ∧
      stored.renewalAttemptId ≠ "" ∧
      config.belongs stored.renewalKeyPem answer.certificatePem = true ∧
      AnswerSound config i s.registry s.publicId stored.renewalAttemptId stored.renewalCsrPem answer
  | .connecting stored last => last = false → stored = s.secret ∧ s.secret.certificatePem ≠ []

/-! ### Credentials stay what they were issued for -/

variable {config i s}

/-- Every credential of the installation is still there, for the same attempt. -/
def KeepsOwn (i : ℕ) (g g' : Registry) : Prop :=
  ∀ k c, Own g i k c → ∃ c', Own g' i k c' ∧ c'.toCertificate = c.toCertificate ∧
    c'.enrollmentAttemptId = c.enrollmentAttemptId ∧ c'.csrFingerprint = c.csrFingerprint

theorem keepsOwn_of_iff (h : ∀ k c, Own g' i k c ↔ Own g i k c) :
    KeepsOwn i g g' :=
  fun k c hk => ⟨c, (h k c).mpr hk, rfl, rfl, rfl⟩

section Keeps

variable {g' : Registry} {responses : ℕ → Option AgentCertificate}
  (hkeeps : KeepsOwn i s.registry g')
include hkeeps

theorem exists_issuedFor (h : IssuedFor config s.registry i attemptId csrPem k c) :
    ∃ c', IssuedFor config g' i attemptId csrPem k c' ∧ c'.toCertificate = c.toCertificate := by
  obtain ⟨c', hk', hcert, hattempt, hcsr⟩ := hkeeps k c ⟨h.lookup, h.installation⟩
  exact ⟨c', ⟨hk'.lookup, hk'.installation, hattempt.trans h.attempt, hcsr.trans h.csr⟩, hcert⟩

theorem CallSound.keeps (h : s.CallSound config i call) :
    CallSound config i { s with registry := g', responses := responses } call := by
  obtain ⟨caller, _, _⟩ := call
  cases caller with
  | token => exact h
  | certificate =>
    obtain ⟨hp, hne, hcert, ⟨k, c, hk, hf⟩, hissued⟩ := h
    obtain ⟨c', hk', hcert', -⟩ := hkeeps k c hk
    refine ⟨hp, hne, hcert, ⟨k, c', hk', ?_⟩, hissued.imp_right ?_⟩
    · exact (congrArg Certificate.fingerprint hcert').trans hf
    · rintro ⟨k, _, hc⟩
      obtain ⟨c', hc', -⟩ := exists_issuedFor hkeeps hc
      exact ⟨k, c', hc'⟩

theorem AnswerSound.keeps (h : AnswerSound config i s.registry publicId attemptId csrPem answer) :
    AnswerSound config i g' publicId attemptId csrPem answer := by
  obtain ⟨k, _, hc, hpem⟩ := h.issued
  obtain ⟨c', hc', hcert⟩ := exists_issuedFor hkeeps hc
  exact ⟨h.installationId, k, c', hc', (congrArg Certificate.certificatePem hcert).trans hpem⟩

theorem PhaseSound.keeps (h : s.PhaseSound config i phase) :
    PhaseSound config i { s with registry := g', responses := responses } phase := by
  cases phase with
  | enrolled => exact ⟨h.1, h.2.1, h.2.2.1, h.2.2.2.keeps hkeeps⟩
  | renewed =>
    exact ⟨h.1, h.2.1, h.2.2.1, h.2.2.2.1, h.2.2.2.2.keeps hkeeps⟩
  | _ => exact h

end Keeps

/-! ### Calls of others -/

/-- What others do keeps the relation. -/
theorem Related.untouched (h : s.Related config i) (hu : Untouched i s.registry g') :
    Related config i { s with registry := g' } where
  sound := hu.sound
  installation := by
    obtain ⟨row, hrow, hp, hs, hactive⟩ := h.installation
    obtain ⟨row', hrow', hp', hs', hactive'⟩ := hu.installation row hrow hs
    refine ⟨row', hrow', hp'.trans hp, hs', ?_⟩
    rintro ⟨k, c, hk, hc⟩
    exact hactive' (hactive ⟨k, c, (hu.own k c).mp hk, hc⟩)
  token := by
    obtain ⟨j, t, hj, hi, ht, hconsumed⟩ := h.token
    refine ⟨j, t, hu.token j t hj hi, hi, ht, hconsumed.trans ?_⟩
    exact exists_congr fun k => exists_congr fun c => (hu.own k c).symm
  tokenHash := h.tokenHash
  credentials k c hk := h.credentials k c ((hu.own k c).mp hk)
  secretToken := h.secretToken
  attemptId := h.attemptId
  calls n call hn := (h.calls n call hn).keeps (keepsOwn_of_iff hu.own)
  responses n answer hn := by
    obtain ⟨call, hcall, hanswer⟩ := h.responses n answer hn
    exact ⟨call, hcall, hanswer.keeps (keepsOwn_of_iff hu.own)⟩
  enrolling hcert :=
    ⟨(h.enrolling hcert).1, fun k c hk => (h.enrolling hcert).2 k c ((hu.own k c).mp hk)⟩
  holding hcert := by
    have hh := h.holding hcert
    obtain ⟨k, c, hk, hpem, hcurrent⟩ := hh.credential
    refine { hh with credential := ⟨k, c, (hu.own k c).mpr hk, hpem, ?_⟩ }
    rcases hcurrent with ⟨hs, hno⟩ | ⟨hne, k', c', hc', hs'⟩
    · exact .inl ⟨hs, fun k' c' hk' => hno k' c' ((hu.own k' c').mp hk')⟩
    · have hown := (hu.own k' c').mpr ⟨hc'.lookup, hc'.installation⟩
      exact .inr ⟨hne, k', c', { hc' with lookup := hown.lookup }, hs'⟩

/-! ### Calls that are served -/

/-- What is found for an attempt of the Agent is a sound answer. -/
theorem answerSound_of_credentialForAttempt (hp : answer.installationId = publicId)
    (h : credentialForAttempt g.credentials i attemptId (config.csrFingerprint csrPem) =
      some answer.toCertificate) : AnswerSound config i g publicId attemptId csrPem answer := by
  obtain ⟨k, c, hk, hi, hattempt, hcsr, hcert⟩ := credentialForAttempt_eq_some h
  exact ⟨hp, k, c, ⟨hk, hi, hattempt, hcsr⟩, congrArg Certificate.certificatePem hcert⟩

/-- An answer is kept. -/
theorem Related.answered (h : s.Related config i) (hn : s.calls.lookup n = some call)
    (ha : AnswerSound config i s.registry s.publicId call.attemptId call.csrPem answer) :
    Related config i { s with responses := Function.update s.responses n (some answer) } :=
  { h with
    responses := fun m answer' hm => by
      by_cases hmn : m = n
      · subst hmn
        obtain rfl : answer = answer' := by
          simpa only [Function.update_self, Option.some.injEq] using hm
        exact ⟨call, hn, ha⟩
      · have hm' : s.responses m = some answer' := by
          simpa only [Function.update_of_ne hmn] using hm
        exact h.responses m answer' hm' }

/-- A credential that was just issued for a call. -/
theorem credentialSound_issuedRow {issue : String → Except Err Certificate} {issued : Certificate}
    (hn : s.calls.lookup n = some call) (hvalid : (request config call issue).Valid)
    (hissue : signed config issue publicId = .ok issued) (hissued : IssuedValid now issued) :
    CredentialSound config s.calls
      (issuedRow i call.attemptId (config.csrFingerprint call.csrPem) issued) where
  fingerprint := by
    obtain ⟨_, -, rfl⟩ := map_eq_ok.mp hissue
    rfl
  nonempty := hissued.2.2.2.2.1
  status := nofun
  overlap := nofun
  call := ⟨n, call, hn, rfl, rfl, hvalid.1, hvalid.2⟩

/-- A call with the token is served: its certificate is given out again, or issued. -/
theorem Related.enrolled (h : s.Related config i) {token : String}
    {issue : String → Except Err Certificate}
    (hn : s.calls.lookup n = some ⟨.token token, attemptId, csrPem⟩)
    (hok : enrollAgent s.now s.registry (config.hashToken token)
      (request config ⟨.token token, attemptId, csrPem⟩ issue) = .ok (g', answer)) :
    KeepsOwn i s.registry g' ∧ Related config i { s with registry := g' } ∧
      AnswerSound config i g' s.publicId attemptId csrPem answer := by
  have hvalid := (valid_of_enrollAgent hok).2
  obtain ⟨rfl, hattempt, -⟩ : token = s.invitation ∧ attemptId = s.secret.attemptId ∧
    csrPem = s.secret.csrPem := h.calls n _ hn
  obtain ⟨j, t, hj, rfl, ht, hconsumed⟩ := h.token
  obtain ⟨row, hrow, hp, hs, _⟩ := h.installation
  obtain ⟨j', t', row', hf, hrow', -, hc, hresult⟩ := enrollAgent_eq_ok hok
  obtain rfl : j = j' := h.sound.tokenHash j j' t t' hj (lookup_of_first hf)
    (ht.trans (pos_of_first hf).symm)
  cases hj.symm.trans (lookup_of_first hf)
  cases hrow.symm.trans hrow'
  obtain ⟨-, rfl, hfound⟩ | ⟨hfresh, ⟨hissue, hissued⟩, hfree, hg⟩ := hresult
  · exact ⟨keepsOwn_of_iff fun _ _ => Iff.rfl, h,
      answerSound_of_credentialForAttempt (hc.trans hp) hfound⟩
  -- The token was not consumed, so this is the first credential of the Agent.
  have hnone : ∀ k c, ¬ Own s.registry t.installationId k c :=
    fun k c hk => hconsumed.mpr ⟨k, c, hk⟩ hfresh
  have hcert : s.secret.certificatePem = [] := by
    by_contra hne
    obtain ⟨k, c, hk, -⟩ := (h.holding hne).credential
    exact hnone k c hk
  have hkeeps : KeepsOwn t.installationId s.registry g' := fun k c hk => absurd hk (hnone k c)
  have hnew {k : ℕ} {c : AgentCredential} (hk : Own g' t.installationId k c) :
      c = issuedRow t.installationId attemptId (config.csrFingerprint csrPem)
        answer.toCertificate := by
    obtain ⟨hk, hi⟩ := hk
    rw [hg] at hk
    rcases lookup_insert_eq_some.mp hk with ⟨-, rfl⟩ | hk
    · rfl
    · exact absurd ⟨hk, hi⟩ (hnone k c)
  have hown : Own g' t.installationId s.registry.credentials.nextId
      (issuedRow t.installationId attemptId (config.csrFingerprint csrPem)
        answer.toCertificate) := by
    rw [hg]
    exact ⟨lookup_insert_self, rfl⟩
  refine ⟨hkeeps, ?_, hc.trans hp, _, _, ⟨hown.lookup, rfl, rfl, rfl⟩, rfl⟩
  exact
    { sound := by
        rw [hg]
        exact h.sound.effect (Effect.enrolled _ _ j t row _ hj rfl hrow hs hfresh hfree)
      installation := by
        refine ⟨enrolledRow (request config ⟨.token s.invitation, attemptId, csrPem⟩ issue) row,
          ?_, hp, hs, ?_⟩
        · rw [hg]
          exact lookup_modify_of_pos hrow rfl
        rintro ⟨_, _, hk, hne⟩
        rw [hnew hk] at hne
        exact absurd (congrArg some hattempt) hne
      token := by
        refine ⟨j, { t with consumedAt := some s.now }, ?_, rfl, ht, iff_of_true nofun ⟨_, _, hown⟩⟩
        rw [hg]
        exact lookup_modify_of_pos hj rfl
      tokenHash := h.tokenHash
      credentials := fun k c hk => by
        rw [hnew hk]
        exact credentialSound_issuedRow hn hvalid hissue hissued
      secretToken := h.secretToken
      attemptId := h.attemptId
      calls := fun m call hm => (h.calls m call hm).keeps hkeeps
      responses := fun m answer' hm => by
        obtain ⟨call, hcall, hanswer⟩ := h.responses m answer' hm
        exact ⟨call, hcall, hanswer.keeps hkeeps⟩
      enrolling := fun _ => ⟨(h.enrolling hcert).1, fun k c hk => by
        rw [hnew hk]
        exact ⟨rfl, congrArg some hattempt⟩⟩
      holding := fun hne => absurd hcert hne }

/-- A credential of the installation after a renewal. -/
theorem own_renewed {z : AgentCredential}
    (h : Own { g with credentials := (renewedCredentials now g.credentials i).insert z } i k c) :
    c = z ∨ ∃ c₀, Own g i k c₀ ∧ (c = c₀ ∨ c = supersededRow now c₀) := by
  obtain ⟨hk, hi⟩ := h
  rcases lookup_insert_eq_some.mp hk with ⟨-, rfl⟩ | hk
  · exact .inl rfl
  · obtain ⟨c₀, hk₀, ⟨-, rfl⟩ | ⟨-, rfl⟩⟩ := lookup_modify_eq_some.mp hk
    · exact .inr ⟨c₀, ⟨hk₀, hi⟩, .inr rfl⟩
    · exact .inr ⟨c, ⟨hk₀, hi⟩, .inl rfl⟩

theorem keepsOwn_renewed {z : AgentCredential} :
    KeepsOwn i g { g with credentials := (renewedCredentials now g.credentials i).insert z } := by
  intro k c hk
  by_cases hp : c.installationId = i ∧ c.status = .active
  · exact ⟨supersededRow now c, ⟨lookup_insert_of_lookup
      (lookup_modify_of_pos hk.lookup hp), hk.installation⟩, rfl, rfl, rfl⟩
  · exact ⟨c, ⟨lookup_insert_of_lookup (lookup_modify_of_neg hk.lookup hp),
      hk.installation⟩, rfl, rfl, rfl⟩

/-- A call with a certificate is served: its certificate is given out again, or issued. -/
theorem Related.renewed (h : s.Related config i) {fingerprint : Bytes}
    {issue : String → Except Err Certificate}
    (hn : s.calls.lookup n = some ⟨.certificate publicId fingerprint, attemptId, csrPem⟩)
    (hok : renewAgent s.now s.registry publicId fingerprint
      (request config ⟨.certificate publicId fingerprint, attemptId, csrPem⟩ issue) =
        .ok (g', answer)) (hanswer : answer.installationId = publicId) :
    KeepsOwn i s.registry g' ∧ Related config i { s with registry := g' } ∧
      AnswerSound config i g' s.publicId attemptId csrPem answer := by
  have hvalid := valid_of_renewAgent hok
  obtain ⟨rfl, _, hcert, -, hcase⟩ : publicId = s.publicId ∧ attemptId ≠ s.secret.attemptId ∧
    s.secret.certificatePem ≠ [] ∧ (∃ k c, Own s.registry i k c ∧ c.fingerprint = fingerprint) ∧
    (attemptId = s.secret.renewalAttemptId ∧ csrPem = s.secret.renewalCsrPem ∨
      ∃ k c, IssuedFor config s.registry i attemptId csrPem k c) := h.calls n _ hn
  obtain ⟨row, hrow, hp, hs, -⟩ := h.installation
  obtain ⟨_, _, k, cr, hrow', hactive, hk, hresult⟩ := renewAgent_eq_ok hok
  obtain ⟨rfl, rfl⟩ := h.sound.named_unique ⟨hrow, hp⟩ hrow'
  obtain ⟨rfl, hfound⟩ | ⟨hcr, ⟨hissue, hissued⟩, hfree, rfl⟩ := hresult
  · exact ⟨keepsOwn_of_iff fun _ _ => Iff.rfl, h,
      answerSound_of_credentialForAttempt hanswer hfound⟩
  -- Nothing was issued for the attempt, so it is the one that the Secret asks for.
  have hunused : ∀ k c, ¬ IssuedFor config s.registry i attemptId csrPem k c := by
    intro k c hc
    obtain ⟨c'', hk'', hattempt''⟩ : ∃ c'', (renewedCredentials s.now s.registry.credentials
        i).lookup k = some c'' ∧ c''.installationId = i ∧
          c''.enrollmentAttemptId = some attemptId :=
      exists_lookup_modify hc.lookup ⟨hc.installation, hc.attempt⟩ fun _ =>
        ⟨hc.installation, hc.attempt⟩
    refine not_any_iff.mp hfree k c'' hk'' (.inr (.inr ⟨hattempt''.1, ?_, hattempt''.2⟩))
    rw [hattempt''.2]
    exact Option.some_ne_none _
  obtain ⟨rfl, rfl⟩ := hcase.resolve_right fun ⟨k, c, hc⟩ => hunused k c hc
  have hkeeps : KeepsOwn i s.registry { s.registry with
      credentials := (renewedCredentials s.now s.registry.credentials i).insert
        (issuedRow i s.secret.renewalAttemptId (config.csrFingerprint s.secret.renewalCsrPem)
          answer.toCertificate) } := keepsOwn_renewed
  have hown : IssuedFor config { s.registry with
      credentials := (renewedCredentials s.now s.registry.credentials i).insert
        (issuedRow i s.secret.renewalAttemptId (config.csrFingerprint s.secret.renewalCsrPem)
          answer.toCertificate) } i s.secret.renewalAttemptId s.secret.renewalCsrPem _ _ :=
    ⟨lookup_insert_self, rfl, rfl, rfl⟩
  refine ⟨hkeeps, ?_, hanswer, _, _, hown, rfl⟩
  exact
    { sound := h.sound.effect (Effect.renewed _ _ _ i row k cr _ hrow' hactive hk hcr hfree)
      installation := ⟨row, hrow, hp, hs, fun _ => hactive⟩
      token := by
        obtain ⟨j, t, hj, hi, ht, hconsumed⟩ := h.token
        exact ⟨j, t, hj, hi, ht, iff_of_true
          (hconsumed.mpr ⟨k, cr, hk.lookup, hk.installation⟩) ⟨_, _, hown.lookup, rfl⟩⟩
      tokenHash := h.tokenHash
      credentials := fun k c hk => by
        rcases own_renewed hk with rfl | ⟨c₀, hk₀, rfl | rfl⟩
        · exact credentialSound_issuedRow hn hvalid hissue hissued
        · exact h.credentials k c hk₀
        · have hc₀ := h.credentials k c₀ hk₀
          exact ⟨hc₀.fingerprint, hc₀.nonempty, nofun, fun _ => nofun, hc₀.call⟩
      secretToken := h.secretToken
      attemptId := h.attemptId
      calls := fun m call hm => (h.calls m call hm).keeps hkeeps
      responses := fun m answer' hm => by
        obtain ⟨call, hcall, hanswer⟩ := h.responses m answer' hm
        exact ⟨call, hcall, hanswer.keeps hkeeps⟩
      enrolling := fun he => absurd he hcert
      holding := fun _ => by
        have hh := h.holding hcert
        obtain ⟨k, c, hk, hpem, -⟩ := hh.credential
        obtain ⟨c', hk', hcert', -⟩ := hkeeps k c hk
        exact { hh with
          credential := ⟨k, c', hk', (congrArg Certificate.certificatePem hcert').trans hpem,
            .inr ⟨h.attemptId n _ hn, _, _, hown, rfl⟩⟩ } }

theorem installationId_of_renewAgent {fingerprint : Bytes} {r : SigningRequest}
    {c : AgentCertificate} (h : renewAgent now g publicId fingerprint r = .ok (g', c)) :
    c.installationId = publicId := by
  simp only [renewAgent, ok_iff] at h
  obtain ⟨-, _, -, -, _, -, h⟩ := h
  split at h
  · cases h
    rfl
  · simp only [ok_iff, Prod.mk.injEq] at h
    obtain ⟨-, _, -, -, _, -, -, rfl⟩ := h
    rfl

/-- **A call may be served at any time.** -/
theorem Related.serve (h : s.Related config i) (hp : s.PhaseSound config i phase) (n : ℕ)
    (issue : String → Except Err Certificate) :
    (s.serve config n issue).Related config i ∧
      (s.serve config n issue).PhaseSound config i phase := by
  unfold RunnerState.serve
  split
  · exact ⟨h, hp⟩
  rename_i call hn
  split
  · rename_i g' answer hok
    have hserved : KeepsOwn i s.registry g' ∧ Related config i { s with registry := g' } ∧
        AnswerSound config i g' s.publicId call.attemptId call.csrPem answer := by
      obtain ⟨caller, _, _⟩ := call
      cases caller with
      | token => exact h.enrolled hn hok
      | certificate =>
        exact h.renewed hn hok (installationId_of_renewAgent hok)
    obtain ⟨hkeeps, hrelated, hanswer⟩ := hserved
    exact ⟨hrelated.answered hn hanswer, hp.keeps hkeeps⟩
  · exact ⟨h, hp⟩

/-! ### The runner -/

/-- Another call is sent. -/
theorem Related.send (h : s.Related config i) {caller : Caller} {x : EnrollmentIdentity}
    {phase : ℕ → Phase} (hx : x.attemptId ≠ "")
    (hcall : s.CallSound config i ⟨caller, x.attemptId, x.csrPem⟩) :
    (s.send caller x phase).Related config i := by
  have hkept {n : ℕ} {call : Call} (hn : s.calls.lookup n = some call) :
      (s.send caller x phase).calls.lookup n = some call := lookup_insert_of_lookup hn
  have hsound {call : Call} (hc : s.CallSound config i call) :
      (s.send caller x phase).CallSound config i call := hc
  refine { h with
    credentials := fun k c hk => ?_
    attemptId := forall_insert h.attemptId hx
    calls := forall_insert (fun n call hn => hsound (h.calls n call hn)) (hsound hcall)
    responses := fun n answer hn => ?_
    holding := fun hcert => ?_ }
  · have hc := h.credentials k c hk
    obtain ⟨n, call, hn, hrest⟩ := hc.call
    exact { hc with call := ⟨n, call, hkept hn, hrest⟩ }
  · obtain ⟨call, hn', hanswer⟩ := h.responses n answer hn
    exact ⟨call, hkept hn', hanswer⟩
  · have hh := h.holding hcert
    obtain ⟨n, call, hn, hattempt⟩ := hh.enrolled
    exact { hh with enrolled := ⟨n, call, hkept hn, hattempt⟩ }

/-- Nothing was sent before there is an attempt. -/
theorem Related.not_sent (h : s.Related config i) (hcert : s.secret.certificatePem = [])
    (hattempt : s.secret.attemptId = "") (n : ℕ) (call : Call) :
    s.calls.lookup n ≠ some call := by
  intro hn
  have hc := h.calls n call hn
  have hne := h.attemptId n call hn
  obtain ⟨caller, _, _⟩ := call
  cases caller with
  | token => exact hne (hc.2.1.trans hattempt)
  | certificate => exact hc.2.2.1 hcert

/-- An enrollment identity is saved. -/
theorem Related.withEnrollment (h : s.Related config i) {draw : EnrollmentIdentity}
    (hcert : s.secret.certificatePem = []) (hempty : s.secret.enrollment.Empty) :
    Related config i { s with secret := s.secret.withEnrollment draw, phase := phase } := by
  have hsent := h.not_sent hcert hempty.1
  have hown (k : ℕ) (c : AgentCredential) : ¬ Own s.registry i k c := by
    intro hk
    obtain ⟨n, call, hn, -⟩ := (h.credentials k c hk).call
    exact hsent n call hn
  exact { h with
    installation := by
      obtain ⟨row, hrow, hp, hs, -⟩ := h.installation
      exact ⟨row, hrow, hp, hs, fun ⟨k, c, hk, _⟩ => absurd hk (hown k c)⟩
    credentials := fun k c hk => absurd hk (hown k c)
    calls := fun n call hn => absurd hn (hsent n call)
    responses := fun n answer hn => by
      obtain ⟨call, hn', -⟩ := h.responses n answer hn
      exact absurd hn' (hsent n call)
    enrolling := fun _ => ⟨(h.enrolling hcert).1, fun k c hk => absurd hk (hown k c)⟩
    holding := fun hne => absurd hcert hne }

/-- The attempt of a credential was sent, so it is not empty, nor one that is drawn now. -/
theorem Related.attempt_ne (h : s.Related config i) (hk : Own s.registry i k c)
    (hfresh : ∀ n call, s.calls.lookup n = some call → call.attemptId ≠ attemptId) :
    c.enrollmentAttemptId ≠ some attemptId := by
  obtain ⟨n, call, hn, hattempt, -⟩ := (h.credentials k c hk).call
  rw [hattempt]
  exact fun heq => hfresh n call hn (Option.some.inj heq)

/-- A renewal identity is saved. -/
theorem Related.withRenewal (h : s.Related config i) {draw : EnrollmentIdentity}
    (hcert : s.secret.certificatePem ≠ []) (hempty : s.secret.renewal.Empty)
    (hdraw : s.Drawable draw) :
    Related config i { s with secret := s.secret.withRenewal draw, phase := phase } := by
  have hfresh (n : ℕ) (call : Call) (hn : s.calls.lookup n = some call) :
      call.attemptId ≠ draw.attemptId := hdraw.2 (n, call) (mem_rows_iff.mpr hn)
  have hrenewal : s.secret.renewalAttemptId = "" := hempty.1
  refine { h with
    calls := fun n call hn => ?_
    enrolling := fun he => absurd he hcert
    holding := fun _ => ?_ }
  · have hc := h.calls n call hn
    have hne := h.attemptId n call hn
    obtain ⟨caller, _, _⟩ := call
    cases caller with
    | token => exact hc
    | certificate =>
      obtain ⟨hp, hattempt, -, hown, hcase⟩ := hc
      exact ⟨hp, hattempt, hcert, hown,
        .inr (hcase.resolve_left fun hx => hne (hx.1.trans hrenewal))⟩
  · have hh := h.holding hcert
    obtain ⟨n, call, hn, hattempt⟩ := hh.enrolled
    obtain ⟨k, c, hk, hpem, hcurrent⟩ := hh.credential
    have hactive : c.status = .active :=
      (hcurrent.resolve_right fun hx => hx.1 hrenewal).1
    exact { hh with
      distinct := fun heq => hfresh n call hn (hattempt.trans heq.symm)
      credential := ⟨k, c, hk, hpem, .inl ⟨hactive, fun k' c' hk' => h.attempt_ne hk' hfresh⟩⟩ }

/-- A certificate is saved that is the one of the Active credential. What the Secret asked for was
issued, if it asked for a renewal. -/
theorem Related.save (h : s.Related config i) {key : Option Bytes} (hsave : Saveable answer)
    (hbelongs : config.belongs (key.getD s.secret.privateKeyPem) answer.certificatePem = true)
    (hid : answer.installationId = s.publicId) (hk : Own s.registry i k c)
    (hpem : c.certificatePem = answer.certificatePem) (hactive : c.status = .active)
    (henrolled : ∃ n call, s.calls.lookup n = some call ∧ call.attemptId = s.secret.attemptId)
    (hissued : s.secret.certificatePem ≠ [] → ∃ k c, IssuedFor config s.registry i
      s.secret.renewalAttemptId s.secret.renewalCsrPem k c) :
    Related config i
      { s with secret := s.secret.withCertificate key answer, phase := phase } := by
  refine { h with
    secretToken := fun he => absurd he hsave.2.1
    calls := fun n call hn => ?_
    enrolling := fun he => absurd he hsave.2.1
    holding := fun _ => ?_ }
  · have hsound := h.calls n call hn
    obtain ⟨caller, _, _⟩ := call
    cases caller with
    | token => exact hsound
    | certificate =>
      obtain ⟨hp, hne, hcert, hown, hcase⟩ := hsound
      refine ⟨hp, hne, hsave.2.1, hown, .inr ?_⟩
      rcases hcase with ⟨rfl, rfl⟩ | hissued'
      · exact hissued hcert
      · exact hissued'
  · obtain ⟨n, call, hn, hcall⟩ := henrolled
    exact
      { named := fun he => hsave.1 (hid.trans he)
        installationId := hid
        belongs := hbelongs
        enrolled := ⟨n, call, hn, hcall⟩
        distinct := fun he => h.attemptId n call hn (hcall.trans he.symm)
        credential := ⟨k, c, hk, hpem, .inl ⟨hactive,
          fun k' c' hk' => h.attempt_ne hk' h.attemptId⟩⟩ }

/-- The certificate of the enrollment is saved. -/
theorem Related.saveEnrolled (h : s.Related config i) (hcert : s.secret.certificatePem = [])
    (hsave : Saveable answer)
    (hbelongs : config.belongs s.secret.privateKeyPem answer.certificatePem = true)
    (hanswer : AnswerSound config i s.registry s.publicId s.secret.attemptId s.secret.csrPem
      answer) :
    Related config i
      { s with secret := s.secret.withCertificate none answer, phase := phase } := by
  obtain ⟨k, c, hc, hpem⟩ := hanswer.issued
  have hk : Own s.registry i k c := ⟨hc.lookup, hc.installation⟩
  obtain ⟨n, call, hn, hattempt, -⟩ := (h.credentials k c hk).call
  exact h.save hsave hbelongs hanswer.installationId hk hpem ((h.enrolling hcert).2 k c hk).1
    ⟨n, call, hn, Option.some.inj (hattempt.symm.trans hc.attempt)⟩ fun hne => absurd hcert hne

/-- The certificate of a renewal is saved, with its key. -/
theorem Related.saveRenewed (h : s.Related config i) (hcert : s.secret.certificatePem ≠ [])
    (hsave : Saveable answer)
    (hbelongs : config.belongs s.secret.renewalKeyPem answer.certificatePem = true)
    (hanswer : AnswerSound config i s.registry s.publicId s.secret.renewalAttemptId
      s.secret.renewalCsrPem answer) :
    Related config i
      { s with
        secret := s.secret.withCertificate (some s.secret.renewalKeyPem) answer
        phase := phase } := by
  obtain ⟨k, c, hc, hpem⟩ := hanswer.issued
  have hk : Own s.registry i k c := ⟨hc.lookup, hc.installation⟩
  have hh := h.holding hcert
  -- What was issued for the renewal is the Active credential.
  have hactive : c.status = .active := by
    obtain ⟨-, -, -, -, ⟨-, hno⟩ | ⟨-, k', c', hc', hs'⟩⟩ := hh.credential
    · exact absurd hc.attempt (hno k c hk)
    · obtain rfl : k = k' := h.sound.attempt k k' c c' (i, s.secret.renewalAttemptId) hc.lookup
        hc'.lookup (attemptIndex_eq_some.mpr ⟨hc.installation, hc.attempt⟩)
        (attemptIndex_eq_some.mpr ⟨hc'.installation, hc'.attempt⟩)
      cases hc.lookup.symm.trans hc'.lookup
      exact hs'
  exact h.save hsave hbelongs hanswer.installationId hk hpem hactive hh.enrolled
    fun _ => ⟨k, c, hc⟩

/-- What the runner has in memory after it enrolled is what it saved. -/
theorem enrolledWith_eq {stored : StoredIdentity} (h : stored.renewal.Empty)
    (c : AgentCertificate) : stored.enrolledWith c = stored.withCertificate none c := by
  obtain ⟨hattempt, hkey, hcsr⟩ := h
  simp only [StoredIdentity.renewal] at hattempt hkey hcsr
  simp only [StoredIdentity.enrolledWith, StoredIdentity.withCertificate, Option.getD_none,
    hattempt, hkey, hcsr]

/-- What the runner has in memory after a renewal is what it saved. -/
theorem renewedWith_eq {stored : StoredIdentity} {c : AgentCertificate}
    (h : stored.installationId = c.installationId) :
    stored.renewedWith c = stored.withCertificate (some stored.renewalKeyPem) c := by
  simp only [StoredIdentity.renewedWith, StoredIdentity.withCertificate, Option.getD_some, h]

/-! ### Steps -/

/-- The relation, and what the runner knows. -/
structure Inv (config : RunnerConfig) (i : ℕ) (s : RunnerState) : Prop where
  related : s.Related config i
  phase : s.PhaseSound config i s.phase

/-- The relation is about neither the time nor the phase, and about the token only until it is
used. -/
theorem Related.frame (h : s.Related config i) {token : String}
    (htoken : s.secret.certificatePem = [] → token = s.invitation) :
    Related config i { s with now := now, token := token, phase := phase } :=
  { h with secretToken := htoken }

/-- The runner moves to another phase, and nothing else happens. -/
theorem Related.moveTo (h : s.Related config i) (hp : s.PhaseSound config i phase) :
    Inv config i { s with phase := phase } :=
  ⟨h.frame h.secretToken, hp⟩

theorem phaseSound_afterFailure (stored : StoredIdentity) (last : Bool) :
    s.PhaseSound config i (afterFailure stored last) := by
  cases last with
  | false => exact nofun
  | true => exact trivial

/-- **The runner goes on.** -/
theorem Inv.proceed (h : s.Inv config i) (clock : Time) (draw : EnrollmentIdentity) :
    (s.proceed config clock draw).Inv config i := by
  have hr := h.related
  have hp := h.phase
  unfold RunnerState.proceed
  cases hphase : s.phase with
  | stopped => exact hr.moveTo rfl
  | loaded stored =>
    rw [hphase] at hp
    obtain rfl : stored = s.secret := hp
    simp only
    split
    · rename_i hcert
      exact hr.moveTo ⟨rfl, hcert⟩
    rename_i hcert
    have hcert := not_not.mp hcert
    split
    · rename_i hcomplete
      split
      · exact hr.moveTo trivial
      · refine ⟨hr.send hcomplete.1 ⟨hr.secretToken hcert, rfl, rfl⟩, rfl, hcert, ?_⟩
        exact ⟨_, lookup_insert_self, rfl, rfl⟩
    · split
      · rename_i hempty
        exact ⟨hr.withEnrollment hcert hempty.1, rfl⟩
      · exact hr.moveTo trivial
  | enrolled stored answer =>
    rw [hphase] at hp
    obtain ⟨rfl, hcert, hbelongs, hanswer⟩ := hp
    simp only
    split
    · rename_i hsave
      exact ⟨hr.saveEnrolled hcert hsave hbelongs hanswer,
        enrolledWith_eq (hr.enrolling hcert).1 answer, hsave.2.1⟩
    · exact hr.moveTo trivial
  | paired =>
    rw [hphase] at hp
    exact ⟨hr.frame fun he => absurd he hp.2, hp⟩
  | cleared =>
    rw [hphase] at hp
    simp only
    split
    · split
      · exact hr.moveTo fun _ => hp
      · exact hr.moveTo hp
    · exact hr.moveTo trivial
  | renewable stored last =>
    rw [hphase] at hp
    obtain ⟨rfl, hcert⟩ := hp
    have hh := hr.holding hcert
    simp only
    split
    · rename_i hcomplete
      obtain ⟨k, c, hk, hpem, -⟩ := hh.credential
      refine ⟨hr.send hcomplete.1 ⟨hh.installationId, hh.distinct, hcert, ⟨k, c, hk, ?_⟩,
        .inl ⟨rfl, rfl⟩⟩, rfl, hcert, _, lookup_insert_self, rfl, rfl⟩
      exact (hr.credentials k c hk).fingerprint.trans
        (congrArg config.certificateFingerprint hpem)
    · split
      · rename_i hempty
        exact ⟨hr.withRenewal hcert hempty.1 hempty.2, rfl, hcert⟩
      · exact hr.moveTo (phaseSound_afterFailure _ _)
  | renewed stored answer last =>
    rw [hphase] at hp
    obtain ⟨rfl, hcert, -, hbelongs, hanswer⟩ := hp
    simp only
    split
    · rename_i hsave
      refine ⟨hr.saveRenewed hcert hsave hbelongs hanswer, fun _ => ⟨renewedWith_eq ?_, hsave.2.1⟩⟩
      exact (hr.holding hcert).installationId.trans hanswer.installationId.symm
    · exact hr.moveTo (phaseSound_afterFailure _ _)
  | enrolling | renewing | connecting => exact h

/-- A renewal cannot be saved. -/
theorem Inv.saveFails (h : s.Inv config i) (draw : EnrollmentIdentity) (applied : Bool) :
    (s.saveFails draw applied).Inv config i := by
  have hr := h.related
  have hp := h.phase
  unfold RunnerState.saveFails
  cases hphase : s.phase with
  | renewable stored last =>
    rw [hphase] at hp
    obtain ⟨rfl, hcert⟩ := hp
    simp only
    split
    · rename_i hempty
      cases applied with
      | false => exact hr.moveTo (phaseSound_afterFailure _ _)
      | true =>
        exact ⟨hr.withRenewal hcert hempty.2.1 hempty.2.2, phaseSound_afterFailure _ _⟩
    · exact h
  | renewed stored answer last =>
    rw [hphase] at hp
    obtain ⟨rfl, hcert, -, hbelongs, hanswer⟩ := hp
    simp only
    split
    · rename_i hsave
      cases applied with
      | false => exact hr.moveTo (phaseSound_afterFailure _ _)
      | true =>
        exact ⟨hr.saveRenewed hcert hsave hbelongs hanswer, phaseSound_afterFailure _ _⟩
    · exact h
  | _ => exact h

theorem Inv.receive (h : s.Inv config i) (clock : Time) :
    (s.receive config clock).Inv config i := by
  have hr := h.related
  have hp := h.phase
  unfold RunnerState.receive
  cases hphase : s.phase with
  | enrolling stored n =>
    rw [hphase] at hp
    obtain ⟨rfl, hcert, call, hn, hattempt, hcsr⟩ := hp
    simp only
    split
    · rename_i answer ha
      split
      · rename_i hvalid
        have hanswer := of_found (hr.responses n answer ha) hn
        rw [hattempt, hcsr] at hanswer
        exact hr.moveTo ⟨rfl, hcert, (Bool.and_eq_true_iff.mp hvalid).1, hanswer⟩
      · exact hr.moveTo trivial
    · exact h
  | renewing stored n last =>
    rw [hphase] at hp
    obtain ⟨rfl, hcert, call, hn, hattempt, hcsr⟩ := hp
    simp only
    split
    · rename_i answer ha
      split
      · rename_i hvalid
        have hanswer := of_found (hr.responses n answer ha) hn
        have hne := hr.attemptId n call hn
        rw [hattempt, hcsr] at hanswer
        rw [hattempt] at hne
        exact hr.moveTo ⟨rfl, hcert, hne, (Bool.and_eq_true_iff.mp hvalid).1, hanswer⟩
      · exact hr.moveTo (phaseSound_afterFailure _ _)
    · exact h
  | _ => exact h

theorem Inv.giveUp (h : s.Inv config i) : s.giveUp.Inv config i := by
  unfold RunnerState.giveUp
  cases s.phase with
  | enrolling => exact h.related.moveTo trivial
  | renewing => exact h.related.moveTo (phaseSound_afterFailure _ _)
  | _ => exact h

/-- The registry is called by somebody else, or for a session. -/
theorem Inv.act (h : s.Inv config i) {a : Action}
    (ha : Elsewhere s.publicId (config.hashToken s.invitation) a) : (s.act a).Inv config i := by
  have hr := h.related
  obtain ⟨_, hrow, hp, -⟩ := hr.installation
  obtain ⟨_, _, hj, hi, ht, -⟩ := hr.token
  have hu : Untouched i s.registry (Agent.step ⟨s.now, s.registry⟩ a).registry :=
    untouched_of_elsewhere hr.sound ⟨hrow, hp⟩ hj hi ht ha (step_effect ⟨s.now, s.registry⟩ a)
  exact ⟨hr.untouched hu, h.phase.keeps (keepsOwn_of_iff hu.own)⟩

/-- **Every step keeps the two sides related.** -/
theorem Inv.step (h : s.Inv config i) (a : RunnerAction) :
    (RunnerState.step config s a).Inv config i := by
  cases a with
  | tick => exact ⟨h.related.frame h.related.secretToken, h.phase⟩
  | elsewhere a =>
    simp only [RunnerState.step]
    split
    · rename_i ha
      exact h.act ha
    · exact h
  | proceed clock draw => exact h.proceed clock draw
  | saveFails draw applied => exact h.saveFails draw applied
  | serve n issue =>
    obtain ⟨hrelated, hphase⟩ := h.related.serve h.phase n issue
    refine ⟨hrelated, ?_⟩
    have hsame : (s.serve config n issue).phase = s.phase := by
      unfold RunnerState.serve
      split
      · rfl
      · split <;> rfl
    rw [RunnerState.step, hsame]
    exact hphase
  | receive clock => exact h.receive clock
  | giveUp => exact h.giveUp
  | connect | heartbeat =>
    simp only [RunnerState.step]
    cases s.phase with
    | connecting => exact h.act trivial
    | _ => exact h
  | disconnect trustBundleUpdate =>
    have hp := h.phase
    simp only [RunnerState.step]
    cases hphase : s.phase with
    | connecting stored last =>
      rw [hphase] at hp
      simp only
      split
      · rename_i hupdate
        exact h.related.moveTo (hp hupdate.2)
      · exact h.related.moveTo trivial
    | _ => exact h
  | stop => exact h.related.moveTo trivial

/-- The relation holds when the cluster was just invited. -/
theorem Initial.inv (h : s.Initial config) : ∃ i, s.Inv config i := by
  obtain ⟨i, j, row, t, hrow, hp, hs, hj, hi, ht, hfresh, hnone⟩ := h.invited
  have hown (k : ℕ) (c : AgentCredential) : ¬ Own s.registry i k c :=
    fun hk => hnone k c hk.lookup hk.installation
  have hcalls (n : ℕ) (call : Call) : s.calls.lookup n ≠ some call := by
    rw [h.calls, lookup_empty]
    exact nofun
  refine ⟨i, ⟨h.sound, ⟨row, hrow, hp, hs, fun ⟨k, c, hk, _⟩ => absurd hk (hown k c)⟩,
    ⟨j, t, hj, hi, ht, iff_of_false (not_not.mpr hfresh) fun ⟨k, c, hk⟩ => hown k c hk⟩,
    h.tokenHash, fun k c hk => absurd hk (hown k c), fun _ => h.token,
    fun n call hn => absurd hn (hcalls n call), fun n call hn => absurd hn (hcalls n call),
    fun n answer hn => absurd ((h.responses n).symm.trans hn) nofun,
    fun _ => ⟨h.renewal, fun k c hk => absurd hk (hown k c)⟩,
    fun hne => absurd h.certificate hne⟩, ?_⟩
  rw [h.phase]
  trivial

/-! ### What the relation gives -/

/-- A credential of the Agent that is in time can be used. -/
theorem Related.validCredential (h : s.Related config i) (hk : Own s.registry i k c)
    (hnow : s.now < c.notAfter) (hoverlap : ∀ t ∈ c.overlapNotAfter, s.now < t) :
    validCredential s.now s.registry.credentials i c.fingerprint = .ok c.status := by
  have hc := h.credentials k c hk
  have hfirst : (s.registry.credentials.first fun _ q => q.installationId = i ∧
      q.fingerprint = c.fingerprint) = some (k, c) :=
    first_eq_some_of_unique hk.lookup ⟨hk.installation, rfl⟩ fun j q hj hq =>
      h.sound.fingerprint j k q c hj hk.lookup hq.2
  simp only [Agent.validCredential, ok_iff]
  refine ⟨(k, c), hfirst, ⟨hnow, hc.status⟩, fun hs => ?_, rfl⟩
  obtain ⟨t, ht⟩ := Option.ne_none_iff_exists'.mp (hc.overlap hs)
  exact ⟨t, ht, hoverlap t ht⟩

/-- **What was issued is given out again.** -/
theorem Related.replay (h : s.Related config i) (hn : s.calls.lookup n = some call)
    (hc : IssuedFor config s.registry i call.attemptId call.csrPem k c)
    (htime : call.caller.InTime s i) (issue : String → Except Err Certificate) :
    s.handle config call issue = .ok (s.registry, ⟨c.toCertificate, s.publicId⟩) := by
  have hk : Own s.registry i k c := ⟨hc.lookup, hc.installation⟩
  have hfound := h.sound.credentialForAttempt_eq hc.lookup hc.installation hc.attempt hc.csr
  obtain ⟨row, hrow, hp, hs, hactive⟩ := h.installation
  have hvalid : (request config call issue).Valid := by
    obtain ⟨_, _, -, hattempt, hcsr, hblank, hne⟩ := (h.credentials k c hk).call
    rw [← Option.some.inj (hc.attempt.symm.trans hattempt)] at hblank
    rw [← Option.some.inj (hc.csr.symm.trans hcsr)] at hne
    exact ⟨hblank, hne⟩
  have hcall := h.calls n call hn
  obtain ⟨caller, attemptId, csrPem⟩ := call
  cases caller with
  | token =>
    obtain ⟨rfl, -⟩ := hcall
    obtain ⟨j, t, hj, rfl, ht, hconsumed⟩ := h.token
    have hused := hconsumed.mpr ⟨k, c, hk⟩
    simp only [RunnerState.handle, enrollAgent, ok_iff]
    refine ⟨⟨h.tokenHash, hvalid⟩, (j, t), h.sound.tokenHash.first_eq hj ht, row, hrow,
      ⟨fun he => hused he.2, hs⟩, ?_⟩
    rw [if_pos hused]
    simp only [ok_iff]
    exact ⟨c.toCertificate, hfound, by rw [hp]⟩
  | certificate =>
    obtain ⟨rfl, hne, hcert, ⟨k₀, c₀, hk₀, rfl⟩, -⟩ := hcall
    obtain ⟨hnow, hoverlap⟩ := htime k₀ c₀ hk₀.lookup hk₀.installation rfl
    have hstatus : row.status = .active := by
      refine hactive ⟨k, c, hk, ?_⟩
      rw [hc.attempt]
      exact fun he => hne (Option.some.inj he)
    have hfirst : (s.registry.installations.first fun _ q => q.publicId = s.publicId) =
        some (i, row) := h.sound.publicId.first_eq hrow hp
    simp only [RunnerState.handle, renewAgent, ok_iff]
    refine ⟨⟨(h.holding hcert).named, (h.credentials k₀ c₀ hk₀).nonempty, hvalid⟩, (i, row),
      hfirst, hstatus, c₀.status, h.validCredential hk₀ hnow hoverlap, ?_⟩
    have hfound' : credentialForAttempt s.registry.credentials i
        (request config ⟨.certificate s.publicId c₀.fingerprint, attemptId, csrPem⟩
          issue).attemptId
        (request config ⟨.certificate s.publicId c₀.fingerprint, attemptId, csrPem⟩
          issue).csrFingerprint = some c.toCertificate := hfound
    rw [hfound']
    rfl

/-- Before a certificate is saved, every credential is for the attempt of the Secret. -/
theorem Related.issuedFor_enrollment (h : s.Related config i) (hcert : s.secret.certificatePem = [])
    (hk : Own s.registry i k c) :
    IssuedFor config s.registry i s.secret.attemptId s.secret.csrPem k c := by
  have hattempt := ((h.enrolling hcert).2 k c hk).2
  obtain ⟨n, call, hn, -, hcsr, -⟩ := (h.credentials k c hk).call
  have hcall := h.calls n call hn
  obtain ⟨caller, _, _⟩ := call
  cases caller with
  | token =>
    obtain ⟨-, -, rfl⟩ := hcall
    exact ⟨hk.lookup, hk.installation, hattempt, hcsr⟩
  | certificate => exact absurd hcert hcall.2.2.1

theorem Related.survives (h : s.Related config i) : SurvivesCrashes config s := by
  obtain ⟨_, hrow, hp, -⟩ := h.installation
  have hi {i' : ℕ} {row' : AgentInstallation} (hrow' : Named s.registry s.publicId i' row') :
      i' = i := (h.sound.named_unique hrow' ⟨hrow, hp⟩).1
  constructor
  case belongs => exact fun hcert => (h.holding hcert).belongs
  case replay =>
    intro i' row' hrow' n call hn k c hc htime issue
    obtain rfl := hi hrow'
    exact h.replay hn hc htime issue
  case resumes =>
    intro i' row' hrow' k c hk hc hs
    obtain rfl := hi hrow'
    by_cases hcert : s.secret.certificatePem = []
    · right
      simp only [StoredIdentity.pending, if_pos hcert]
      exact h.issuedFor_enrollment hcert ⟨hk, hc⟩
    · have hunique {k' : ℕ} {c' : AgentCredential} (hk' : Own s.registry i' k' c')
          (hs' : c'.status = .active) : k' = k ∧ c' = c := by
        obtain rfl := h.sound.active k' k c' c i' hk'.lookup hk
          (activeIndex_eq_some.mpr ⟨hs', hk'.installation⟩) (activeIndex_eq_some.mpr ⟨hs, hc⟩)
        exact ⟨rfl, Option.some.inj (hk'.lookup.symm.trans hk)⟩
      obtain ⟨_, _, hk₀, hpem, ⟨hs₀, -⟩ | ⟨-, _, _, hc', hs'⟩⟩ :=
        (h.holding hcert).credential
      · obtain ⟨-, rfl⟩ := hunique hk₀ hs₀
        exact .inl hpem
      · obtain ⟨rfl, rfl⟩ := hunique ⟨hc'.lookup, hc'.installation⟩ hs'
        right
        simp only [StoredIdentity.pending, if_neg hcert]
        exact hc'
  case completed =>
    intro i' row' hrow' hcert hrenewal
    obtain rfl := hi hrow'
    obtain ⟨k, c, hk, hpem, hcurrent⟩ := (h.holding hcert).credential
    exact ⟨k, c, hk.lookup, hk.installation,
      (hcurrent.resolve_right fun hx => hx.1 hrenewal).1, hpem⟩

end RunnerState

/-- **The identity of an Agent survives crashes.** Wherever the process stops, whatever answer is
lost, and however often and late a call is handled: in every state that is reached, the key and the
certificate in the Secret belong together, a call whose certificate was issued is given this
certificate and changes nothing, the `Active` credential is in the Secret or asked for by it, and
once a certificate is saved it is the `Active` one. -/
theorem survivesCrashes_run (config : RunnerConfig) (s₀ : RunnerState)
    (acts : List RunnerAction) (h₀ : s₀.Initial config) :
    SurvivesCrashes config (run (RunnerState.step config) s₀ acts) := by
  obtain ⟨i, h⟩ := h₀.inv
  have hrun : (run (RunnerState.step config) s₀ acts).Inv config i :=
    run_induction (I := fun s : RunnerState => s.Inv config i) h
      fun _ a h => h.step a
  exact hrun.related.survives

/-! ### A small Agent -/

/-- A key stands for its certificate and for its signing request, and is its own digest. -/
def smallRunnerConfig : RunnerConfig where
  hashToken _ := [1]
  csrFingerprint := id
  certificateFingerprint := id
  belongs key certificate := key = certificate
  verifies _ _ := true
  renewalWindow := 3600

/-- A cluster was invited, and its Agent has not started yet. -/
def smallRunner : RunnerState where
  now := 0
  registry := (run step emptyState [.createAgentInstallation invitation]).registry
  publicId := "cls-one"
  invitation := "token"
  secret := ⟨"", [], [], "", [], [], "", none, "", [], []⟩
  token := "token"
  phase := .stopped
  calls := .empty
  responses _ := none

theorem smallRunner_initial : smallRunner.Initial smallRunnerConfig where
  sound := Initial.sound_run (s := emptyState) rfl _
  invited := by
    refine ⟨1, 1, newInstallation "cls-one" "one", reissuedToken 1 [1] 600, by decide +kernel,
      rfl, nofun, by decide +kernel, rfl, rfl, rfl, fun k c hk => ?_⟩
    have hempty : smallRunner.registry.credentials.lookup k = none := lookup_empty
    exact absurd (hempty.symm.trans hk) nofun
  tokenHash := by decide
  token := rfl
  certificate := rfl
  renewal := ⟨rfl, rfl, rfl⟩
  phase := rfl
  calls := rfl
  responses _ := rfl

/-- The signer makes the certificate of a key. -/
def signing (key : Bytes) (_ : String) : Except Err Certificate :=
  .ok { certificate key with certificatePem := key }

/-- The Agent enrolls, and then renews its certificate. Both times the answer is lost with the
process, and the Agent asks again. -/
def interruptedRun : List RunnerAction :=
  let draw (attemptId : String) (key : Bytes) := RunnerAction.proceed 0 ⟨attemptId, key, key⟩
  let goOn := RunnerAction.proceed 0 ⟨"", [], []⟩
  let late := RunnerAction.proceed 86000 ⟨"", [], []⟩
  [goOn, draw "attempt-one" [7], goOn, .serve 1 (signing [7]), .stop,
    goOn, goOn, .serve 2 (signing [9]), .receive 0, goOn, goOn, goOn,
    .connect (hello [7]), .disconnect false,
    goOn, goOn, goOn, late, draw "attempt-two" [8], goOn, .serve 3 (signing [8]), .stop,
    goOn, goOn, goOn, late, goOn, .serve 4 (signing [9]), .receive 0, goOn]

/-- Both certificates were issued once, and the Agent holds the second. -/
theorem survivesCrashes_interruptedRun :
    ((run (RunnerState.step smallRunnerConfig) smallRunner
        interruptedRun).registry.credentials.nextId = 3 ∧
      (run (RunnerState.step smallRunnerConfig) smallRunner
        interruptedRun).secret.certificatePem = [8]) ∧
    SurvivesCrashes smallRunnerConfig
      (run (RunnerState.step smallRunnerConfig) smallRunner interruptedRun) :=
  ⟨by decide +kernel,
    survivesCrashes_run smallRunnerConfig smallRunner interruptedRun smallRunner_initial⟩

end Molejo.Agent
