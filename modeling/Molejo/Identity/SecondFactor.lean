import Molejo.Identity.AuthEffect

/-!
# Second factors are used once

A code, a recovery code and a challenge each lead to one session at most. The request that
presents them decides on earlier reads whether a code is valid, in transactions of their own;
what makes a factor single use is the transaction that accepts it, which has to find it unused
and leaves it used. So there are two parts to the argument.

* What was accepted is *spent* (`Acceptance.Spent`): the challenge is consumed, the recovery
  code used or gone, and the step is not above `last_used_step` of the credential. No step of
  any request makes it unspent (`Onward`), and nothing spent is accepted again
  (`Acceptance.Apart`).
* Every accepted factor is in the hands of one request, and then of one session (`Sole`).

For a step the first part needs a condition. The transaction that accepts it compares the step
with the credential of the user, whichever that is by then, and not with the credential that
the code was valid for. If another enrollment is confirmed in between, `last_used_step` is 0
again, and the code of the old credential is accepted a second time. So the condition is on the
step that accepts a code: the enrollment is still the one that the code was compared with
(`SameEnrollment`).
-/

namespace Molejo.Identity

open Transaction Transition Table

variable {i r : ℕ} {q : Request}

/-! ### The property and its condition -/

/-- The challenge that a factor was accepted for. -/
def Acceptance.challengeId : Acceptance → ℕ
  | .totp challengeId _ _ _ => challengeId
  | .recovery challengeId _ => challengeId

/-- The same step of the same credential, or the same recovery code. -/
def Acceptance.SameFactor : Acceptance → Acceptance → Prop
  | .totp _ user enrollment step, .totp _ user' enrollment' step' =>
    user = user' ∧ enrollment = enrollment' ∧ step = step'
  | .recovery _ code, .recovery _ code' => code = code'
  | .totp .., .recovery .. | .recovery .., .totp .. => False

theorem Acceptance.SameFactor.symm : ∀ {x y : Acceptance}, x.SameFactor y → y.SameFactor x
  | .totp .., .totp .., ⟨hu, he, hs⟩ => ⟨hu.symm, he.symm, hs.symm⟩
  | .recovery .., .recovery .., h => Eq.symm h

/-- The session rests on that acceptance. -/
def AuthState.Rests (s : AuthState) (session : ℕ) (x : Acceptance) : Prop :=
  ∃ issue k, s.trail.issued session = some issue ∧ issue.acceptance = some k ∧
    s.trail.accepted.lookup k = some x

/-- **Second factors are used once.** -/
structure SingleUse (s : AuthState) : Prop where
  /-- A step, a recovery code and a challenge lead to one session at most. -/
  sessions : ∀ i j x y, s.Rests i x → s.Rests j y →
    x.challengeId = y.challengeId ∨ x.SameFactor y → i = j
  /-- The steps of one credential are accepted in increasing order. -/
  increasing : ∀ k l c d user enrollment m n, k < l →
    s.trail.accepted.lookup k = some (.totp c user enrollment m) →
    s.trail.accepted.lookup l = some (.totp d user enrollment n) → m < n

/-- The user and the enrollment whose step is about to be accepted. -/
def Request.enrollment? : Request → Option (ℕ × ℕ)
  | .completing _ user _ (.totp enrollment _) => some (user.id, enrollment)
  | .completing _ _ _ (.recovery _) => none
  | .idle | .passwordChecked .. | .challenging .. | .challengeFound .. | .credentialFound ..
  | .refused _ | .issuing .. => none

/-- The request that goes on. -/
def AuthAction.proceeds? : AuthAction → Option ℕ
  | .proceed r _ => some r
  | .tick _ | .login .. | .completeTOTPLogin .. | .abandon _ | .changePassword ..
  | .setUserStatus .. | .createPasswordResetGrant .. | .verifyPasswordResetGrant ..
  | .completePasswordReset .. | .putSecret .. | .deleteSecret _ | .createEnrollment ..
  | .enableTOTP .. | .disableTOTP .. | .userSession _ => none

/-- A step that is accepted is a step of the enrollment in force. -/
def SameEnrollment (s : AuthState) (a : AuthAction) : Prop :=
  ∀ r ∈ a.proceeds?, ∀ x ∈ (s.requests r).enrollment?, s.trail.enrollments x.1 = x.2
deriving Decidable

/-! ### What is spent stays spent -/

/-- What was accepted cannot be accepted again. -/
structure Acceptance.Spent (s : AuthState) (x : Acceptance) : Prop where
  challenge : ∃ c, s.db.challenges.lookup x.challengeId = some c ∧ c.consumedAt ≠ none
  code : ∀ challengeId codeId, x = .recovery challengeId codeId →
    codeId < s.db.recoveryCodes.nextId ∧
      ∀ c, s.db.recoveryCodes.lookup codeId = some c → c.usedAt ≠ none
  step : ∀ challengeId user enrollment step, x = .totp challengeId user enrollment step →
    enrollment ≤ s.trail.enrollments user ∧ (enrollment = s.trail.enrollments user →
      ∀ i c, s.db.totpCredentials.lookup i = some c → c.userId = user → step ≤ c.lastUsedStep)

/-- No challenge is opened again, no recovery code becomes usable again, and `last_used_step` of a
credential does not go back. -/
structure Onward (s s' : AuthState) : Prop where
  challenges : ∀ i c, s.db.challenges.lookup i = some c → c.consumedAt ≠ none →
    ∃ c', s'.db.challenges.lookup i = some c' ∧ c'.consumedAt ≠ none
  codeIds : s.db.recoveryCodes.nextId ≤ s'.db.recoveryCodes.nextId
  codes : ∀ i c', i < s.db.recoveryCodes.nextId → s'.db.recoveryCodes.lookup i = some c' →
    ∃ c, s.db.recoveryCodes.lookup i = some c ∧ (c.usedAt ≠ none → c'.usedAt ≠ none)
  enrollments : ∀ user, s.trail.enrollments user ≤ s'.trail.enrollments user
  credentials : ∀ i c', s'.db.totpCredentials.lookup i = some c' →
    s.trail.enrollments c'.userId = s'.trail.enrollments c'.userId →
    ∃ j c, s.db.totpCredentials.lookup j = some c ∧ c.userId = c'.userId ∧
      c.lastUsedStep ≤ c'.lastUsedStep

section Onward

variable {s s' : AuthState} {x : Acceptance}

theorem Acceptance.Spent.onward (h : x.Spent s) (ho : Onward s s') : x.Spent s' where
  challenge := by
    obtain ⟨c, hc, hconsumed⟩ := h.challenge
    exact ho.challenges _ c hc hconsumed
  code challengeId codeId hx := by
    obtain ⟨hlt, hused⟩ := h.code challengeId codeId hx
    refine ⟨Nat.lt_of_lt_of_le hlt ho.codeIds, fun c' hc' => ?_⟩
    obtain ⟨c, hc, himp⟩ := ho.codes codeId c' hlt hc'
    exact himp (hused c hc)
  step challengeId user enrollment step hx := by
    obtain ⟨hle, hstep⟩ := h.step challengeId user enrollment step hx
    have hmono := ho.enrollments user
    refine ⟨Nat.le_trans hle hmono, fun heq i c' hc' huser => ?_⟩
    subst huser
    have hsame : s.trail.enrollments c'.userId = s'.trail.enrollments c'.userId := by omega
    obtain ⟨j, c, hc, hu, hlast⟩ := ho.credentials i c' hc' hsame
    exact Nat.le_trans (hstep (heq.trans hsame.symm) j c hc hu) hlast

/-- A step that opens no challenge again, and leaves the rest alone. -/
theorem Onward.of_challenges (hc : ∀ i c, s.db.challenges.lookup i = some c →
      c.consumedAt ≠ none → ∃ c', s'.db.challenges.lookup i = some c' ∧ c'.consumedAt ≠ none)
    (hr : s'.db.recoveryCodes = s.db.recoveryCodes)
    (ht : s'.db.totpCredentials = s.db.totpCredentials)
    (he : s'.trail.enrollments = s.trail.enrollments) : Onward s s' where
  challenges := hc
  codeIds := hr ▸ Nat.le_refl _
  codes _ c' _ h := ⟨c', hr ▸ h, id⟩
  enrollments _ := he ▸ Nat.le_refl _
  credentials i c' h _ := ⟨i, c', ht ▸ h, rfl, Nat.le_refl _⟩

/-- A step that leaves challenges, recovery codes, credentials and enrollments alone. -/
theorem Onward.of_eq (hc : s'.db.challenges = s.db.challenges)
    (hr : s'.db.recoveryCodes = s.db.recoveryCodes)
    (ht : s'.db.totpCredentials = s.db.totpCredentials)
    (he : s'.trail.enrollments = s.trail.enrollments) : Onward s s' :=
  .of_challenges (fun _ c h hconsumed => ⟨c, hc ▸ h, hconsumed⟩) hr ht he

/-- The table of challenges, when some of them are changed and none is opened again. -/
theorem consumed_of_modify {t : Table AuthenticationChallenge}
    {p : ℕ → AuthenticationChallenge → Prop} [∀ i r, Decidable (p i r)]
    {f : AuthenticationChallenge → AuthenticationChallenge}
    (hf : ∀ c, c.consumedAt ≠ none → (f c).consumedAt ≠ none) {c : AuthenticationChallenge}
    (hc : t.lookup i = some c) (hconsumed : c.consumedAt ≠ none) :
    ∃ c', (t.modify p f).lookup i = some c' ∧ c'.consumedAt ≠ none :=
  exists_lookup_modify hc hconsumed fun _ => hf c hconsumed

theorem consumed_of_insert {t : Table AuthenticationChallenge} {d : AuthenticationChallenge}
    (h : ∃ c, t.lookup i = some c ∧ c.consumedAt ≠ none) :
    ∃ c, (t.insert d).lookup i = some c ∧ c.consumedAt ≠ none := by
  obtain ⟨c, hc, hconsumed⟩ := h
  exact ⟨c, lookup_insert_of_lookup hc, hconsumed⟩

theorem lookup_insertCodes (userId : ℕ) (codeHashes : List Digest) (t : Table RecoveryCode) :
    t.nextId ≤ (codeHashes.foldl (fun t hash => t.insert ⟨userId, hash, none⟩) t).nextId ∧
      ∀ i c, i < t.nextId →
        (codeHashes.foldl (fun t hash => t.insert ⟨userId, hash, none⟩) t).lookup i = some c →
        t.lookup i = some c := by
  induction codeHashes generalizing t with
  | nil => exact ⟨Nat.le_refl _, fun i c _ h => h⟩
  | cons hash _ ih =>
    obtain ⟨hle, hlookup⟩ := ih (t.insert ⟨userId, hash, none⟩)
    rw [nextId_insert] at hle hlookup
    refine ⟨by rw [List.foldl_cons]; omega, fun i c hlt h => ?_⟩
    rcases lookup_insert_eq_some.mp (hlookup i c (by omega) h) with ⟨_, -⟩ | hold
    · omega
    · exact hold

theorem replaceRecoveryCodes_spec (db : Accounts) (userId : ℕ) (codeHashes : List Digest) :
    db.recoveryCodes.nextId ≤ (replaceRecoveryCodes db userId codeHashes).nextId ∧
      ∀ i c, i < db.recoveryCodes.nextId →
        (replaceRecoveryCodes db userId codeHashes).lookup i = some c →
        db.recoveryCodes.lookup i = some c := by
  obtain ⟨hle, hlookup⟩ := lookup_insertCodes userId codeHashes
    (db.recoveryCodes.delete fun _ c => c.userId = userId)
  exact ⟨hle, fun i c hlt h => (lookup_delete_eq_some.mp (hlookup i c hlt h)).1⟩

/-- The credentials of the others are not touched by an enrollment. -/
theorem lookup_upsertTOTPCredential {db : Accounts} {userId version : ℕ} {reference : String}
    {c : TOTPCredential} (h : (upsertTOTPCredential db userId reference version).lookup i = some c)
    (hne : c.userId ≠ userId) : db.totpCredentials.lookup i = some c := by
  unfold upsertTOTPCredential at h
  split at h
  · obtain ⟨_, hc₀, ⟨heq, rfl⟩ | ⟨-, rfl⟩⟩ := lookup_modify_eq_some.mp h
    · exact absurd heq hne
    · exact hc₀
  · rcases lookup_insert_eq_some.mp h with ⟨-, rfl⟩ | h
    · exact absurd rfl hne
    · exact h

theorem DbChange.onward {db : Accounts} (h : DbChange s.now s.db db) :
    Onward s { s with db := db } := by
  cases h with
  | password | status | grants | seen => exact .of_eq rfl rfl rfl rfl
  | enroll =>
    refine .of_challenges (fun i c hc hconsumed => ?_) rfl rfl rfl
    exact consumed_of_insert (consumed_of_modify (fun _ _ => Option.some_ne_none _) hc hconsumed)
  | disable =>
    exact {
      challenges := fun i c hc hconsumed => ⟨c, hc, hconsumed⟩
      codeIds := Nat.le_refl _
      codes := fun i c' _ hc' => ⟨c', (lookup_delete_eq_some.mp hc').1, id⟩
      enrollments := fun _ => Nat.le_refl _
      credentials := fun i c' hc' _ =>
        ⟨i, c', (lookup_delete_eq_some.mp hc').1, rfl, Nat.le_refl _⟩ }

end Onward

/-! ### Accepting a factor -/

section Accept

variable {s : AuthState} {challengeId : ℕ} {user : KnownUser} {factor : Factor} {db : Accounts}
  {x : Acceptance}

/-- The second of two acceptances is of another challenge and another factor, and if they are steps
of one credential, the second is later. -/
def Acceptance.Apart (x y : Acceptance) : Prop :=
  x.challengeId ≠ y.challengeId ∧ ¬ x.SameFactor y ∧
    ∀ c d user enrollment m n, x = .totp c user enrollment m → y = .totp d user enrollment n → m < n

/-- The challenge is consumed by the acceptance, and was open before. -/
theorem consumable_spec {kind : ChallengeKind} {userId : ℕ}
    (hany : s.db.challenges.Any (Consumable s.now kind challengeId userId)) :
    (∃ c, (s.db.challenges.modify (Consumable s.now kind challengeId userId)
        fun c => { c with consumedAt := some s.now }).lookup challengeId = some c ∧
          c.consumedAt ≠ none) ∧
      ∀ c, s.db.challenges.lookup challengeId = some c → c.consumedAt = none := by
  obtain ⟨i, _, hc, hp⟩ := any_iff.mp hany
  obtain rfl : i = challengeId := hp.1
  refine ⟨⟨_, lookup_modify_of_pos hc hp, Option.some_ne_none _⟩, fun c' hc' => ?_⟩
  rw [hc] at hc'
  cases hc'
  exact hp.2.2.2.1

/-- A request whose challenge is open presents something that was not spent. -/
theorem challengeId_ne_of_spent {y : Acceptance} (hy : y.Spent s)
    (hopen : ∀ c, s.db.challenges.lookup challengeId = some c → c.consumedAt = none) :
    y.challengeId ≠ challengeId := by
  rintro rfl
  obtain ⟨c, hc, hconsumed⟩ := hy.challenge
  exact hconsumed (hopen c hc)

/-- **A step is accepted**, of the enrollment in force. -/
theorem accept_totp {enrollment step : ℕ}
    (h : s.accept challengeId user (.totp enrollment step) = .ok (db, x))
    (he : s.trail.enrollments user.id = enrollment) {s' : AuthState} (hdb : s'.db = db)
    (ht : s'.trail.enrollments = s.trail.enrollments) :
    Onward s s' ∧ x.Spent s' ∧ ∀ y : Acceptance, y.Spent s → y.Apart x := by
  simp only [AuthState.accept, ok_iff, Prod.mk.injEq] at h
  obtain ⟨_, h, rfl, rfl⟩ := h
  obtain ⟨hstep, hchallenge, rfl⟩ := completeTOTPChallenge_eq_ok h
  obtain ⟨hconsumed, hopen⟩ := consumable_spec hchallenge
  subst he
  obtain ⟨_, db', _, _, _⟩ := s'
  obtain rfl : db' = _ := hdb
  refine ⟨⟨?_, ?_, ?_, ?_, ?_⟩, ⟨?_, by rintro _ _ ⟨⟩, ?_⟩, fun y hy => ?_⟩
  · exact fun i c => consumed_of_modify fun _ _ => Option.some_ne_none _
  · exact Nat.le_refl _
  · exact fun i c' _ hc' => ⟨c', hc', id⟩
  · exact fun u => ht ▸ Nat.le_refl _
  · intro i c' hc' _
    obtain ⟨c, hc, ⟨hp, rfl⟩ | ⟨-, rfl⟩⟩ := lookup_modify_eq_some.mp hc'
    · exact ⟨i, c, hc, rfl, Nat.le_of_lt hp.2⟩
    · exact ⟨i, c', hc, rfl, Nat.le_refl _⟩
  · exact hconsumed
  · rintro _ _ _ _ ⟨⟩
    dsimp only at ht ⊢
    rw [ht]
    refine ⟨Nat.le_refl _, fun _ i c' hc' huser => ?_⟩
    obtain ⟨_, _, ⟨hp, rfl⟩ | ⟨hp, rfl⟩⟩ := lookup_modify_eq_some.mp hc'
    · exact Nat.le_refl _
    · exact Nat.le_of_not_lt fun hlt => hp ⟨huser, hlt⟩
  · have hlater : ∀ c m, y = .totp c user.id (s.trail.enrollments user.id) m → m < step := by
      intro c m heq
      obtain ⟨i, credential, hc, huser, hlast⟩ := any_iff.mp hstep
      exact Nat.lt_of_le_of_lt ((hy.step _ _ _ _ heq).2 rfl i credential hc huser) hlast
    refine ⟨challengeId_ne_of_spent hy hopen, ?_, ?_⟩
    · cases y with
      | totp c _ _ m =>
        rintro ⟨rfl, rfl, rfl⟩
        exact Nat.lt_irrefl _ (hlater c m rfl)
      | recovery => exact id
    · rintro c d u e m n heq ⟨⟩
      exact hlater c m heq

/-- **A recovery code is accepted.** -/
theorem accept_recovery {codeHash : Digest}
    (h : s.accept challengeId user (.recovery codeHash) = .ok (db, x)) {s' : AuthState}
    (hdb : s'.db = db) (ht : s'.trail.enrollments = s.trail.enrollments) :
    Onward s s' ∧ x.Spent s' ∧ ∀ y : Acceptance, y.Spent s → y.Apart x := by
  simp only [AuthState.accept, ok_iff, Prod.mk.injEq, Prod.exists] at h
  obtain ⟨_, codeId, h, rfl, rfl⟩ := h
  obtain ⟨⟨code, hcode, hunused⟩, hchallenge, rfl⟩ := completeRecoveryChallenge_eq_ok h
  obtain ⟨hconsumed, hopen⟩ := consumable_spec hchallenge
  obtain ⟨_, db', _, _, _⟩ := s'
  obtain rfl : db' = _ := hdb
  refine ⟨⟨?_, ?_, ?_, ?_, ?_⟩, ⟨?_, ?_, by rintro _ _ _ _ ⟨⟩⟩, fun y hy => ?_⟩
  · exact fun i c => consumed_of_modify fun _ _ => Option.some_ne_none _
  · exact Nat.le_refl _
  · intro i c' _ hc'
    obtain ⟨c, hc, ⟨-, rfl⟩ | ⟨-, rfl⟩⟩ := lookup_modify_eq_some.mp hc'
    · exact ⟨c, hc, fun _ => Option.some_ne_none _⟩
    · exact ⟨c', hc, id⟩
  · exact fun u => ht ▸ Nat.le_refl _
  · exact fun i c' hc' _ => ⟨i, c', hc', rfl, Nat.le_refl _⟩
  · exact hconsumed
  · rintro _ _ ⟨⟩
    refine ⟨show codeId < s.db.recoveryCodes.nextId from lt_nextId hcode, fun c' hc' => ?_⟩
    obtain ⟨_, -, ⟨-, rfl⟩ | ⟨hp, -⟩⟩ := lookup_modify_eq_some.mp hc'
    · exact Option.some_ne_none _
    · exact absurd rfl hp
  · refine ⟨challengeId_ne_of_spent hy hopen, ?_, by rintro _ _ _ _ _ _ - ⟨⟩⟩
    cases y with
    | totp => exact id
    | recovery c =>
      rintro rfl
      exact (hy.code c _ rfl).2 code hcode hunused

end Accept

/-! ### Where an accepted factor is -/

/-- The number of the acceptance that a request is about to use. -/
def Request.acceptance? : Request → Option ℕ
  | .issuing _ _ _ acceptance => acceptance
  | .idle | .passwordChecked .. | .challenging .. | .challengeFound .. | .credentialFound ..
  | .completing .. | .refused _ => none

/-- What a request or a session holds. -/
def AuthState.holds (s : AuthState) : ℕ ⊕ ℕ → Option ℕ
  | .inl r => (s.requests r).acceptance?
  | .inr i => (s.trail.issued i).bind (·.acceptance)

/-- Every acceptance is held by one request or one session at most. -/
structure Sole (s : AuthState) : Prop where
  lt : ∀ x k, s.holds x = some k → k < s.trail.accepted.nextId
  sole : ∀ x y k, s.holds x = some k → s.holds y = some k → x = y

section Sole

variable {config : AuthConfig} {s s' : AuthState} {a : AuthAction}

/-- Nobody gets anything. -/
theorem Sole.of_kept (h : Sole s) (hn : s'.trail.accepted.nextId = s.trail.accepted.nextId)
    (hkept : ∀ x k, s'.holds x = some k → s.holds x = some k) : Sole s' where
  lt x k hx := hn ▸ h.lt x k (hkept x k hx)
  sole x y k hx hy := h.sole x y k (hkept x k hx) (hkept y k hy)

theorem Sole.of_eq (h : Sole s) (hrequests : s'.requests = s.requests)
    (hissued : s'.trail.issued = s.trail.issued)
    (hacc : s'.trail.accepted = s.trail.accepted) : Sole s' := by
  refine h.of_kept (hacc ▸ rfl) fun x k hx => ?_
  cases x with
  | inl => simpa only [AuthState.holds, hrequests] using hx
  | inr => simpa only [AuthState.holds, hissued] using hx

/-- A new acceptance goes to one holder. -/
theorem Sole.of_fresh (h : Sole s) (hn : s'.trail.accepted.nextId = s.trail.accepted.nextId + 1)
    {z : ℕ ⊕ ℕ} (hfresh : ∀ x k, s'.holds x = some k →
      s.holds x = some k ∨ x = z ∧ k = s.trail.accepted.nextId) : Sole s' where
  lt x k hx := by
    rcases hfresh x k hx with hold | ⟨-, rfl⟩
    · have := h.lt x k hold
      omega
    · omega
  sole x y k hx hy := by
    rcases hfresh x k hx with hx | ⟨rfl, rfl⟩
    · rcases hfresh y k hy with hy | ⟨-, rfl⟩
      · exact h.sole x y k hx hy
      · exact absurd (h.lt x _ hx) (Nat.lt_irrefl _)
    · rcases hfresh y _ hy with hy | ⟨rfl, -⟩
      · exact absurd (h.lt y _ hy) (Nat.lt_irrefl _)
      · rfl

/-- One holder hands over what it holds to another. -/
theorem Sole.of_moved (h : Sole s) (hn : s'.trail.accepted.nextId = s.trail.accepted.nextId)
    {z w : ℕ ⊕ ℕ} (hmoved : ∀ x k, s'.holds x = some k →
      (s.holds x = some k ∧ x ≠ z) ∨ x = w ∧ s.holds z = some k) : Sole s' where
  lt x k hx := by
    rw [hn]
    rcases hmoved x k hx with ⟨hold, -⟩ | ⟨-, hold⟩
    · exact h.lt x k hold
    · exact h.lt z k hold
  sole x y k hx hy := by
    rcases hmoved x k hx with ⟨hx, hxz⟩ | ⟨rfl, hx⟩
    · rcases hmoved y k hy with ⟨hy, -⟩ | ⟨-, hy⟩
      · exact h.sole x y k hx hy
      · exact absurd (h.sole x z k hx hy) hxz
    · rcases hmoved y k hy with ⟨hy, hyz⟩ | ⟨rfl, -⟩
      · exact absurd (h.sole y z k hy hx) hyz
      · rfl

theorem holds_setRequest {k : ℕ} {x : ℕ ⊕ ℕ} (h : (s.setRequest r q).holds x = some k) :
    (x = .inl r ∧ q.acceptance? = some k) ∨ (x ≠ .inl r ∧ s.holds x = some k) := by
  cases x with
  | inl r' =>
    by_cases hr : r' = r
    · subst hr
      simp only [AuthState.holds, AuthState.requests_setRequest_self] at h
      exact .inl ⟨rfl, h⟩
    · simp only [AuthState.holds, AuthState.requests_setRequest_of_ne s q hr] at h
      exact .inr ⟨fun heq => hr (Sum.inl.inj heq), h⟩
  | inr => exact .inr ⟨nofun, h⟩

/-- A request that goes on, or ends, without a factor. -/
theorem Sole.setRequest (h : Sole s) (hq : q.acceptance? = none) :
    Sole (s.setRequest r q) := by
  refine h.of_kept rfl fun x k hx => ?_
  rcases holds_setRequest hx with ⟨-, hk⟩ | ⟨-, hx⟩
  · rw [hq] at hk
    cases hk
  · exact hx

theorem Moves.acceptance? (h : Moves config s r a q) :
    q.acceptance? = none := by
  cases h with
  | _ => rfl

/-- A request has its factor accepted. -/
theorem Sole.accept (h : Sole s) (x : Acceptance) (r : ℕ) (user : KnownUser) (checked : String)
    (db : Accounts) :
    Sole ({ s with
      db := db
      trail := { s.trail with accepted := s.trail.accepted.insert x }
    }.setRequest r (.issuing user .aal2 checked (some s.trail.accepted.nextId))) := by
  refine h.of_fresh (z := .inl r) rfl fun y k hy => ?_
  rcases holds_setRequest hy with ⟨rfl, hk⟩ | ⟨-, hy⟩
  · exact .inr ⟨rfl, (Option.some.inj hk).symm⟩
  · cases y with
    | inl | inr => exact .inl hy

/-- A request has its session issued: what it holds is the session's from then on. -/
theorem Sole.issue (h : Sole s) {user : KnownUser} {level : AssuranceLevel} {checked : String}
    {acceptance : Option ℕ} (hr : s.requests r = .issuing user level checked acceptance)
    (t : AuthSession) :
    Sole ({ s with
      db := { s.db with sessions := s.db.sessions.insert t }
      trail := { s.trail with
        issued := Function.update s.trail.issued s.db.sessions.nextId (some ⟨checked, acceptance⟩) }
    }.setRequest r .idle) := by
  refine h.of_moved (z := .inl r) (w := .inr s.db.sessions.nextId) rfl fun x k hx => ?_
  rcases holds_setRequest hx with ⟨-, hk⟩ | ⟨hne, hx⟩
  · cases hk
  cases x with
  | inl => exact .inl ⟨hx, hne⟩
  | inr i =>
    by_cases hi : i = s.db.sessions.nextId
    · subst hi
      simp only [AuthState.holds, Function.update_self, Option.bind_some] at hx
      exact .inr ⟨rfl, by simpa only [AuthState.holds, hr, Request.acceptance?] using hx⟩
    · simp only [AuthState.holds, Function.update_of_ne hi] at hx
      exact .inl ⟨hx, hne⟩

end Sole

/-! ### The invariant -/

/-- What was accepted is spent, no two acceptances are of the same thing, and each has one
holder. -/
structure FactorsSound (s : AuthState) : Prop where
  spent : ∀ k x, s.trail.accepted.lookup k = some x → x.Spent s
  apart : ∀ k x l y, s.trail.accepted.lookup k = some x → s.trail.accepted.lookup l = some y →
    k < l → x.Apart y
  sole : Sole s

section Sound

variable {config : AuthConfig} {s s' : AuthState} {a : AuthAction}

theorem AuthState.Initial.factorsSound (h : s.Initial) : FactorsSound s where
  spent k x hx := by simp [h.accepted] at hx
  apart k x l y hx := by simp [h.accepted] at hx
  sole := by
    have hnone : ∀ x, s.holds x = none := by
      rintro (r | i)
      · simp only [AuthState.holds, h.requests r, Request.acceptance?]
      · simp only [AuthState.holds, h.issued i, Option.bind_none]
    exact ⟨fun x k hx => absurd ((hnone x).symm.trans hx) nofun,
      fun x y k hx => absurd ((hnone x).symm.trans hx) nofun⟩

theorem FactorsSound.singleUse (h : FactorsSound s) : SingleUse s where
  sessions i j x y hx hy hsame := by
    obtain ⟨_, k, hissue, hk, hx⟩ := hx
    obtain ⟨_, l, hissue', hl, hy⟩ := hy
    have hholds : s.holds (.inr i) = some k := by simp [AuthState.holds, hissue, hk]
    have hholds' : s.holds (.inr j) = some l := by simp [AuthState.holds, hissue', hl]
    rcases Nat.lt_trichotomy k l with hlt | rfl | hlt
    · obtain ⟨hchallenge, hfactor, -⟩ := h.apart k x l y hx hy hlt
      exact absurd hsame (not_or.mpr ⟨hchallenge, hfactor⟩)
    · exact Sum.inr.inj (h.sole.sole _ _ _ hholds hholds')
    · obtain ⟨hchallenge, hfactor, -⟩ := h.apart l y k x hy hx hlt
      exact absurd hsame
        (not_or.mpr ⟨hchallenge.symm, fun hf => hfactor (Acceptance.SameFactor.symm hf)⟩)
  increasing k l c d user enrollment m n hlt hx hy :=
    (h.apart k _ l _ hx hy hlt).2.2 c d user enrollment m n rfl rfl

/-- A step that accepts nothing. -/
theorem FactorsSound.of_onward (h : FactorsSound s) (ho : Onward s s')
    (hacc : s'.trail.accepted = s.trail.accepted) (hsole : Sole s') : FactorsSound s' where
  spent k x hx := (h.spent k x (hacc ▸ hx)).onward ho
  apart k x l y hx hy := h.apart k x l y (hacc ▸ hx) (hacc ▸ hy)
  sole := hsole

/-- The step that accepts a factor. -/
theorem FactorsSound.of_accept (h : FactorsSound s) {x : Acceptance}
    (haccept : Onward s s' ∧ x.Spent s' ∧ ∀ y : Acceptance, y.Spent s → y.Apart x)
    (hacc : s'.trail.accepted = s.trail.accepted.insert x) (hsole : Sole s') :
    FactorsSound s' where
  spent := by
    rw [hacc]
    exact forall_insert (fun k y hy => (h.spent k y hy).onward haccept.1) haccept.2.1
  apart := by
    rw [hacc]
    refine forall_pairs_insert h.apart (fun hlt => absurd hlt (Nat.lt_irrefl _)) fun k y hy =>
      ⟨fun hlt => ?_, fun _ => haccept.2.2 y (h.spent k y hy)⟩
    exact absurd (lt_nextId hy) (Nat.lt_asymm hlt)
  sole := hsole

/-- **One step.** -/
theorem FactorsSound.step (h : FactorsSound s) (hg : SameEnrollment s a) :
    FactorsSound (s.step config a) := by
  have heffect := step_effect config s a
  generalize s.step config a = s' at heffect
  cases heffect with
  | elsewhere =>
    exact h.of_onward (.of_eq rfl rfl rfl rfl) rfl (h.sole.of_eq rfl rfl rfl)
  | moves _ _ _ hmove =>
    exact h.of_onward (.of_eq rfl rfl rfl rfl) rfl (h.sole.setRequest hmove.acceptance?)
  | changes _ _ hdb => exact h.of_onward hdb.onward rfl (h.sole.of_eq rfl rfl rfl)
  | challenges =>
    refine h.of_onward (.of_challenges (fun i c hc hconsumed => ?_) rfl rfl rfl) rfl ?_
    · exact consumed_of_insert ⟨c, hc, hconsumed⟩
    · apply Sole.setRequest
      · exact h.sole.of_eq rfl rfl rfl
      · rfl
  | accepts r _ _ user checked factor db x hr haccept =>
    have hsole := h.sole.accept x r user checked db
    cases factor with
    | totp enrollment =>
      have henrollment := hg r rfl (user.id, enrollment) (by rw [hr]; rfl)
      exact h.of_accept (accept_totp haccept henrollment rfl rfl) rfl hsole
    | recovery => exact h.of_accept (accept_recovery haccept rfl rfl) rfl hsole
  | refuses =>
    refine h.of_onward (.of_challenges (fun i c hc hconsumed => ?_) rfl rfl rfl) rfl ?_
    · refine consumed_of_modify (fun c hc => ?_) hc hconsumed
      dsimp only
      split
      · exact Option.some_ne_none _
      · exact hc
    · apply Sole.setRequest
      · exact h.sole.of_eq rfl rfl rfl
      · rfl
  | issues _ _ _ _ _ _ t hr =>
    exact h.of_onward (.of_eq rfl rfl rfl rfl) rfl (h.sole.issue hr t)
  | enables challengeId userId reference version codeHashes =>
    -- the recovery codes are replaced, and a new count of steps begins
    refine h.of_onward ?_ rfl (h.sole.of_eq rfl rfl rfl)
    exact
      { challenges := fun i c => consumed_of_modify fun _ _ => Option.some_ne_none _
        codeIds := (replaceRecoveryCodes_spec s.db userId codeHashes).1
        codes := fun i c' hlt hc' =>
          ⟨c', (replaceRecoveryCodes_spec s.db userId codeHashes).2 i c' hlt hc', id⟩
        enrollments := fun u => by
          by_cases hu : u = userId
          · subst hu
            simp
          · simp [hu]
        credentials := fun i c' hc' hsame => by
          have hne : c'.userId ≠ userId := by
            intro heq
            simp [heq] at hsame
          exact ⟨i, c', lookup_upsertTOTPCredential hc' hne, rfl, Nat.le_refl _⟩ }

/-- **Second factors are used once**, in every state of a run in which every step that is accepted
is one of the enrollment in force. -/
theorem singleUse_run (hs : s.Initial) {acts : List AuthAction}
    (hg : Guarded (AuthState.step config) SameEnrollment s acts) :
    SingleUse (run (AuthState.step config) s acts) :=
  (guarded_run_induction hs.factorsSound (fun _ _ h hsame => h.step hsame) hg).singleUse

end Sound

/-! ### A code that is used twice -/

/-- Two requests present the same code, one after the other. -/
def codeTwice : List AuthAction :=
  enrolling ++ loggingIn 1 "one" ++ loggingIn 2 "two" ++ presenting 1 "one" ++ presenting 2 "two" ++
    finishing 1 "session-one" ++ finishing 2 "session-two"

theorem singleUse_codeTwice :
    (run (AuthState.step smallConfig) smallAccounts codeTwice).trail.issued 1 =
        some ⟨"first", some 1⟩ ∧
      SingleUse (run (AuthState.step smallConfig) smallAccounts codeTwice) :=
  ⟨by decide +kernel, singleUse_run smallAccounts_initial (by decide +kernel)⟩

/-- The same two requests, but before the second one has its code accepted, another enrollment is
confirmed. -/
def enrolledBetween : List AuthAction :=
  enrolling ++ loggingIn 1 "one" ++ loggingIn 2 "two" ++ presenting 1 "one" ++ presenting 2 "two" ++
    finishing 1 "session-one" ++
    [.putSecret "totp" "other" 1, .createEnrollment 1 "again" "totp" 2 [],
      .enableTOTP 4 1 "totp" 2 []] ++ finishing 2 "session-two"

/-- There are two sessions, both valid, from one step of one credential. -/
theorem not_singleUse_enrolledBetween :
    smallAccounts.Initial ∧
      (∀ i ∈ [1, 2],
        (run (AuthState.step smallConfig) smallAccounts enrolledBetween).db.sessions.Any
        fun j t => j = i ∧ t.Valid 60
          (run (AuthState.step smallConfig) smallAccounts enrolledBetween).db) ∧
      ¬ SingleUse (run (AuthState.step smallConfig) smallAccounts enrolledBetween) := by
  refine ⟨smallAccounts_initial, by decide +kernel, fun h => ?_⟩
  have hsame := h.sessions 1 2 (.totp 2 1 1 2) (.totp 3 1 1 2)
    ⟨⟨"first", some 1⟩, 1, by decide +kernel, rfl, by decide +kernel⟩
    ⟨⟨"first", some 2⟩, 2, by decide +kernel, rfl, by decide +kernel⟩ (.inr ⟨rfl, rfl, rfl⟩)
  exact absurd hsame (by decide)

end Molejo.Identity
