import Molejo.Agent.Lifecycle

/-!
# Enrolling again

An Agent that enrolled but lost its key before it ever connected has to enroll again. As long as
the installation is `Pending`, an administrator can reissue its invitation; the old token is
replaced by a new one that is not consumed. But the credential of the first enrollment is still
`Active`, and an installation has only one such credential. So the new token is accepted, a
certificate is signed, and then the row cannot be inserted.

`enrollAgent_reissued_iff` says that nothing else can go wrong: from every reachable state, the
reissued token enrolls just if the installation has no `Active` credential.
-/

namespace Molejo.Agent

open Transaction Store Table Transition

variable {now : Time} {g g' : Registry} {a : Action} {s : State} {i j k : ℕ}
  {publicId : String} {tokenHash : Bytes} {expiresAt : Time}

/-! ### Between the invitation and the enrollment -/

/-- A call that neither uses the token, nor replaces it, nor revokes the cluster. -/
def Leaves (publicId : String) (tokenHash : Bytes) : Action → Prop
  | .ensureBootstrapAgentInstallation invitation _ => invitation.publicId ≠ publicId
  | .reissueClusterEnrollment p _ _ => p ≠ publicId
  | .enrollAgent h _ => h ≠ tokenHash
  | .revokeCluster p _ => p ≠ publicId
  | _ => True

instance (publicId : String) (tokenHash : Bytes) : DecidablePred (Leaves publicId tokenHash) :=
  fun a => match a with
  | .ensureBootstrapAgentInstallation invitation _ =>
    inferInstanceAs (Decidable (invitation.publicId ≠ publicId))
  | .reissueClusterEnrollment p _ _ => inferInstanceAs (Decidable (p ≠ publicId))
  | .enrollAgent h _ => inferInstanceAs (Decidable (h ≠ tokenHash))
  | .revokeCluster p _ => inferInstanceAs (Decidable (p ≠ publicId))
  | .tick _ | .createAgentInstallation _ | .renewAgent _ _ _ | .activateAgent _
  | .touchAgent _ _ _ _ => inferInstanceAs (Decidable True)

/-- The installation has a token that is not consumed, and is not revoked. -/
structure Invited (g : Registry) (publicId : String) (tokenHash : Bytes) (expiresAt : Time)
    (i j : ℕ) : Prop where
  token : g.tokens.lookup j = some (reissuedToken i tokenHash expiresAt)
  installation : ∃ row, g.installations.lookup i = some row ∧ row.publicId = publicId ∧
    row.status ≠ .revoked

/-- Reissuing an invitation leaves the installation with the new token. -/
theorem invited_of_reissue
    (h : reissueClusterEnrollment now g publicId tokenHash expiresAt = .ok g') :
    ∃ i j, Invited g' publicId tokenHash expiresAt i j ∧ g'.credentials = g.credentials ∧
      g'.installations = g.installations := by
  simp only [reissueClusterEnrollment, ok_iff] at h
  obtain ⟨-, ⟨i, row⟩, hf, hs, -, h⟩ := h
  have hrow : ∃ row, g.installations.lookup i = some row ∧ row.publicId = publicId ∧
      row.status ≠ .revoked := by
    refine ⟨row, (named_of_first hf).lookup, (named_of_first hf).publicId, ?_⟩
    rw [hs]
    decide
  split at h
  · rename_i hany
    obtain ⟨j, _, hj, hi⟩ := any_iff.mp hany
    cases h
    exact ⟨i, j, ⟨lookup_modify_of_pos hj hi, hrow⟩, rfl, rfl⟩
  · cases h
    exact ⟨i, g.tokens.nextId, ⟨lookup_insert_self, hrow⟩, rfl, rfl⟩

/-- A credential of another installation. -/
theorem hasActive_insert_iff {c : AgentCredential} (hne : c.installationId ≠ i)
    {installations : Table AgentInstallation} {tokens : Table EnrollmentToken} :
    HasActive ⟨installations, tokens, g.credentials.insert c⟩ i ↔ HasActive g i := by
  simp only [hasActive_iff, own_insert_iff hne]

/-- An update of the credentials of other installations. -/
theorem hasActive_modify_iff {p : ℕ → AgentCredential → Prop} {_ : ∀ k c, Decidable (p k c)}
    {f : AgentCredential → AgentCredential} {installations : Table AgentInstallation}
    {tokens : Table EnrollmentToken} (hf : ∀ c, (f c).installationId = c.installationId)
    (hp : ∀ k c, p k c → c.installationId ≠ i) :
    HasActive ⟨installations, tokens, g.credentials.modify p f⟩ i ↔ HasActive g i := by
  simp only [hasActive_iff, own_modify_iff hf hp]

section Invited

variable (h : Invited s.registry publicId tokenHash expiresAt i j) (hsound : Sound s.registry)
  (hleaves : Leaves publicId tokenHash a)
include h hsound hleaves

/-- The cluster that is revoked, and the token that is consumed, are others. -/
theorem Invited.step : Invited (step s a).registry publicId tokenHash expiresAt i j := by
  obtain ⟨row, hrow, hp, hs⟩ := h.installation
  have hother {p : String} {x : ℕ} {q : AgentInstallation} (hne : p ≠ publicId)
      (hq : Named s.registry p x q) : i ≠ x := by
    rintro rfl
    cases hrow.symm.trans hq.lookup
    exact hne (hq.publicId.symm.trans hp)
  have hkept {x : ℕ} {f : AgentInstallation → AgentInstallation}
      (hf : ∀ q, (f q).publicId = q.publicId ∧ (q.status ≠ .revoked → (f q).status ≠ .revoked)) :
      ∃ q, (s.registry.installations.modify (fun y _ => y = x) f).lookup i = some q ∧
        q.publicId = publicId ∧ q.status ≠ .revoked :=
    exists_lookup_modify hrow ⟨hp, hs⟩ fun _ => ⟨(hf row).1.trans hp, (hf row).2 hs⟩
  have he := step_effect s a
  generalize (Agent.step s a).registry = g' at he ⊢
  cases he with
  | idle => exact h
  | invited =>
    exact ⟨lookup_insert_of_lookup h.token, ⟨row, lookup_insert_of_lookup hrow, hp, hs⟩⟩
  | refreshed _ _ _ _ hq =>
    exact ⟨lookup_modify_of_neg h.token fun hx => hother hleaves hq hx.1, h.installation⟩
  | reissued _ _ _ _ _ hq =>
    exact ⟨lookup_modify_of_neg h.token fun hx => hother hleaves hq hx, h.installation⟩
  | reissuedNew => exact ⟨lookup_insert_of_lookup h.token, h.installation⟩
  | enrolled _ _ j' t _ _ hj' ht =>
    have hne : i ≠ t.installationId := by
      intro hi
      obtain rfl := hsound.tokenOwner j j' _ t h.token hj' hi
      cases h.token.symm.trans hj'
      exact hleaves ht.symm
    exact ⟨lookup_modify_of_neg h.token hne, ⟨row, lookup_modify_of_neg hrow hne, hp, hs⟩⟩
  | renewed => exact ⟨h.token, h.installation⟩
  | activated => exact ⟨h.token, hkept fun _ => ⟨rfl, fun _ => nofun⟩⟩
  | touched => exact ⟨h.token, hkept fun _ => ⟨rfl, id⟩⟩
  | revoked _ _ _ _ hq =>
    exact ⟨h.token, ⟨row, lookup_modify_of_neg hrow (hother hleaves hq), hp, hs⟩⟩

/-- Whether the installation has an `Active` credential does not change. -/
theorem Invited.hasActive_iff :
    HasActive (Agent.step s a).registry i ↔ HasActive s.registry i := by
  have he := step_effect s a
  generalize (Agent.step s a).registry = g' at he ⊢
  cases he with
  | enrolled _ _ j' t _ _ hj' ht =>
    have hne : t.installationId ≠ i := by
      intro hi
      obtain rfl := hsound.tokenOwner j j' _ t h.token hj' hi.symm
      cases h.token.symm.trans hj'
      exact hleaves ht.symm
    exact hasActive_insert_iff hne
  | renewed _ _ r x _ k c issued _ _ hk hc =>
    by_cases hx : x = i
    · subst hx
      exact iff_of_true (any_iff.mpr ⟨_, _, lookup_insert_self, rfl, rfl⟩)
        (any_iff.mpr ⟨k, c, hk.lookup, hk.installation, hc⟩)
    · have hmodified : HasActive { s.registry with
          credentials := renewedCredentials s.now s.registry.credentials x } i ↔
            HasActive s.registry i :=
        hasActive_modify_iff (fun _ => rfl) fun _ c hp => hp.1.trans_ne hx
      exact (hasActive_insert_iff (c := issuedRow x r.attemptId r.csrFingerprint issued)
        hx).trans hmodified
  | revoked _ _ x q hq =>
    obtain ⟨row, hrow, hp, -⟩ := h.installation
    have hne : x ≠ i := by
      rintro rfl
      cases hrow.symm.trans hq.lookup
      exact hleaves (hq.publicId.symm.trans hp)
    exact hasActive_modify_iff (g := s.registry) (fun _ => rfl) fun _ c hp => hp.trans_ne hne
  | idle | invited | refreshed | reissued | reissuedNew | activated | touched => exact Iff.rfl

end Invited

/-! ### The enrollment -/

/-- What stands in the way of a request with a fresh attempt and a fresh fingerprint is another
`Active` credential, and nothing else. -/
theorem credentialTaken_iff {attemptId : String} {csrFingerprint : Bytes} {issued : Certificate}
    (hattempt : ∀ k c, g.credentials.lookup k = some c → c.installationId = i →
      c.enrollmentAttemptId ≠ some attemptId)
    (hfingerprint : ∀ k c, g.credentials.lookup k = some c → c.fingerprint ≠ issued.fingerprint) :
    CredentialTaken g.credentials (issuedRow i attemptId csrFingerprint issued) ↔
      HasActive g i := by
  constructor
  · intro h
    obtain ⟨k, c, hk, hf | ⟨hi, hs, -⟩ | ⟨hi, -, ha⟩⟩ := any_iff.mp h
    · exact absurd hf (hfingerprint k c hk)
    · exact any_iff.mpr ⟨k, c, hk, hi, hs⟩
    · exact absurd ha (hattempt k c hk hi)
  · intro h
    obtain ⟨k, c, hk, hi, hs⟩ := any_iff.mp h
    exact any_iff.mpr ⟨k, c, hk, .inr (.inl ⟨hi, hs, rfl⟩)⟩

/-- A token that is not consumed enrolls just if the installation has no `Active` credential. -/
theorem Invited.enrollAgent_iff (h : Invited g publicId tokenHash expiresAt i j)
    (hsound : Sound g) {r : SigningRequest} {issued : Certificate}
    (hnow : now < expiresAt) (htoken : tokenHash ≠ []) (hr : r.Valid)
    (hissue : r.issue publicId = .ok issued) (hvalid : IssuedValid now issued)
    (hattempt : ∀ k c, g.credentials.lookup k = some c → c.installationId = i →
      c.enrollmentAttemptId ≠ some r.attemptId)
    (hfingerprint : ∀ k c, g.credentials.lookup k = some c → c.fingerprint ≠ issued.fingerprint) :
    (∃ g', enrollAgent now g tokenHash r = .ok (g', ⟨issued, publicId⟩)) ↔ ¬ HasActive g i := by
  rw [← credentialTaken_iff hattempt hfingerprint]
  obtain ⟨row, hrow, hp, hs⟩ := h.installation
  have hfirst : (g.tokens.first fun _ t => t.tokenHash = tokenHash) =
      some (j, reissuedToken i tokenHash expiresAt) := hsound.tokenHash.first_eq h.token rfl
  constructor
  · rintro ⟨_, hok⟩
    obtain ⟨_, _, _, hf, -, -, -, hresult⟩ := enrollAgent_eq_ok hok
    obtain ⟨rfl, rfl⟩ := Prod.mk.inj (Option.mem_unique hfirst hf)
    obtain ⟨hconsumed, -⟩ | ⟨-, -, hfree, -⟩ := hresult
    · exact absurd rfl hconsumed
    · exact hfree
  · intro hfree
    simp only [enrollAgent, ok_iff]
    refine ⟨enrolledRegistry now g i r issued, ⟨htoken, hr⟩, _, hfirst, row, hrow,
      ⟨fun he => hnow.not_ge he.1, hs⟩, ?_⟩
    have hfresh : ¬ (reissuedToken i tokenHash expiresAt).consumedAt ≠ none := not_not.mpr rfl
    rw [if_neg hfresh, hp]
    simp only [ok_iff, insertAgentCredential_eq_ok, Prod.mk.injEq]
    exact ⟨issued, hissue, hvalid, _, ⟨hfree, rfl⟩, rfl, rfl⟩

/-- Some credential of the cluster is for the attempt. -/
def AttemptTaken (g : Registry) (publicId attemptId : String) : Prop :=
  g.credentials.Any fun _ c => c.enrollmentAttemptId = some attemptId ∧
    ∃ row ∈ g.installations.lookup c.installationId, row.publicId = publicId
deriving Decidable

/-- **A reissued token enrolls just if no credential is in the way.** From every reachable state, if
an invitation is reissued, and used before it expires with a fresh attempt, for a valid certificate
with a fresh fingerprint, then the certificate is given out if and only if the installation had no
`Active` credential when the invitation was reissued. -/
theorem enrollAgent_reissued_iff (s₀ : State) (acts : List Action) (h₀ : Initial s₀)
    (publicId : String) (tokenHash : Bytes) (expiresAt : Time)
    (hreissue : (reissueClusterEnrollment (run step s₀ acts).now
      (run step s₀ acts).registry publicId tokenHash expiresAt).isOk = true)
    (more : List Action) (hmore : ∀ a ∈ more, Leaves publicId tokenHash a) (s : State)
    (hs : s = run step s₀
      (acts ++ .reissueClusterEnrollment publicId tokenHash expiresAt :: more))
    (hnow : s.now < expiresAt) (r : SigningRequest) (hr : r.Valid) (issued : Certificate)
    (hissue : r.issue publicId = .ok issued) (hvalid : IssuedValid s.now issued)
    (hattempt : ¬ AttemptTaken s.registry publicId r.attemptId)
    (hfingerprint : ¬ s.registry.credentials.Any fun _ c => c.fingerprint = issued.fingerprint) :
    (∃ g', enrollAgent s.now s.registry tokenHash r = .ok (g', ⟨issued, publicId⟩)) ↔
      ¬ (run step s₀ acts).registry.installations.Any fun i row =>
        row.publicId = publicId ∧ HasActive (run step s₀ acts).registry i := by
  have hsound := h₀.sound_run acts
  rw [run_append, run_cons] at hs
  generalize run step s₀ acts = s₁ at hreissue hs hsound ⊢
  obtain ⟨g₁, hok⟩ := isOk_iff.mp hreissue
  obtain ⟨i, j, hinvited, hcredentials, hinstallations⟩ := invited_of_reissue hok
  have hstep :
      (step s₁ (.reissueClusterEnrollment publicId tokenHash expiresAt)).registry = g₁ := by
    simp only [step, attempt, hok, commit]
  have hactive₁ : HasActive g₁ i ↔ HasActive s₁.registry i := by
    rw [HasActive, hcredentials, HasActive]
  -- Nothing that happens in between matters.
  obtain ⟨hsound', hinvited', hactive⟩ : Sound s.registry ∧
      Invited s.registry publicId tokenHash expiresAt i j ∧
      (HasActive s.registry i ↔ HasActive s₁.registry i) := by
    rw [hs]
    refine guarded_run_induction
      (G := fun _ a => Leaves publicId tokenHash a)
      (I := fun s : State => Sound s.registry ∧
        Invited s.registry publicId tokenHash expiresAt i j ∧
        (HasActive s.registry i ↔ HasActive s₁.registry i)) ?_
      (fun s a h hleaves => ⟨h.1.step a, h.2.1.step h.1 hleaves,
        (h.2.1.hasActive_iff h.1 hleaves).trans h.2.2⟩)
      (guarded_of_forall fun a ha _ => hmore a ha)
    refine ⟨hsound.step _, ?_⟩
    rw [hstep]
    exact ⟨hinvited, hactive₁⟩
  obtain ⟨row, hrow, hp, -⟩ := hinvited'.installation
  obtain ⟨row₁, hrow₁, hp₁, -⟩ := hinvited.installation
  rw [hinstallations] at hrow₁
  have htoken : tokenHash ≠ [] := by
    simp only [reissueClusterEnrollment, ok_iff] at hok
    exact hok.1.1
  rw [hinvited'.enrollAgent_iff hsound' hnow htoken hr hissue hvalid ?_
    (Table.not_any_iff.mp hfingerprint), hactive]
  · refine not_congr ⟨fun h => Table.any_iff.mpr ⟨i, row₁, hrow₁, hp₁, h⟩, fun h => ?_⟩
    obtain ⟨i', row', hrow', hp', h⟩ := Table.any_iff.mp h
    obtain rfl := hsound.publicId i' i row' row₁ hrow' hrow₁ (hp'.trans hp₁.symm)
    exact h
  · rintro k c hk rfl ha
    exact hattempt (Table.any_iff.mpr ⟨k, c, hk, ha, row, hrow, hp⟩)

/-- An invitation that nobody used is reissued, and enrolls. -/
theorem enrollAgent_reissued_invitation :
    ∃ g', enrollAgent 5 (run step emptyState
        [.createAgentInstallation invitation, .reissueClusterEnrollment "cls-one" [2] 600,
          .tick 5]).registry [2] (request "attempt-two" [2]) =
      .ok (g', ⟨certificate [2], "cls-one"⟩) :=
  (enrollAgent_reissued_iff emptyState [.createAgentInstallation invitation] rfl "cls-one" [2] 600
    (by decide +kernel) [.tick 5] (by decide +kernel) _ rfl (by decide +kernel)
    (request "attempt-two" [2]) (by decide +kernel) (certificate [2]) rfl (by decide +kernel)
    (by decide +kernel) (by decide +kernel)).mpr (by decide +kernel)

/-- An Agent enrolls, but never connects. -/
def lostRun : List Action :=
  [.createAgentInstallation invitation, .enrollAgent [1] (request "attempt-one" [1])]

/-- **A reissued token need not enroll.** The installation is still `Pending` and its invitation
is reissued, but the credential of the first enrollment is in the way. -/
theorem not_enrollAgent_reissued_lostRun :
    ((run step emptyState lostRun).registry.installations.Any fun _ row =>
      row.publicId = "cls-one" ∧ row.status = .pending) ∧
    (reissueClusterEnrollment 0 (run step emptyState lostRun).registry "cls-one" [2]
      600).isOk = true ∧
    (request "attempt-two" [2]).Valid ∧ IssuedValid 0 (certificate [2]) ∧
    ¬ AttemptTaken (run step emptyState lostRun).registry "cls-one" "attempt-two" ∧
    ¬ ((run step emptyState lostRun).registry.credentials.Any fun _ c =>
      c.fingerprint = [2]) ∧
    enrollAgent 0 (step (run step emptyState lostRun)
        (.reissueClusterEnrollment "cls-one" [2] 600)).registry
      [2] (request "attempt-two" [2]) = .error .uniqueViolation := by
  decide +kernel

end Molejo.Agent
