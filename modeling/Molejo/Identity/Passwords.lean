import Molejo.Identity.AuthEffect
import Molejo.Lib.Epoch

/-!
# Sessions and the password behind them

Whoever changes a password expects that what was obtained with the old one is worth nothing
from then on. The server does not keep with a session which password it came from. Every
change of a password raises the `auth_version` of the user, a session carries the version
that its request had read, and `UserSession` compares the two. This is sound as long as the
version is read together with the hash: what was checked against the hash `x` in the version
`e` *stands* in the sense of `Epoch.Stands`.

* A login without a second factor reads both in one statement (`AuthenticateUser`).
* A login with a second factor does not. The challenge in between carries the user and not the
  version, and `CompleteTOTPLogin` takes the version that it finds. If the password is
  changed between the two requests, the session belongs to the old password, has the new
  version, and is accepted.

So the main theorem has one condition, on the step that reads a challenge: the hash that the
challenge started from is still the one stored (`StandingChallenge`). Nothing is asked of
the order of any other steps.
-/

namespace Molejo.Identity

open Transaction Transition Table

/-! ### The register of passwords -/

/-- For every user the `auth_version` and the hash. -/
def register (db : Accounts) (i : ℕ) : Option (ℕ × Option String) :=
  (db.users.lookup i).map fun u => (u.authVersion, db.passwordHash i)

section Register

variable {db db' : Accounts} {now : Time}

theorem register_of_lookup {i : ℕ} {u : User} (h : db.users.lookup i = some u) :
    register db i = some (u.authVersion, db.passwordHash i) := by
  rw [register, h]
  rfl

/-- A transaction that leaves users and passwords alone. -/
theorem advances_of_eq (hu : db'.users = db.users) (hp : db'.passwords = db.passwords) :
    Epoch.Advances (register db) (register db') := by
  have heq : register db' = register db := by
    funext i
    rw [register, register, Accounts.passwordHash, Accounts.passwordHash, hu, hp]
  rw [heq]
  exact .refl _

/-- A transaction that raises the version of one user, and touches the password of no other. -/
theorem advances_of_updateUser {userId : ℕ} {f : User → User}
    (hf : ∀ u, u.authVersion < (f u).authVersion) (hu : db'.users = db.updateUser userId f)
    (hp : ∀ i, i ≠ userId → db'.passwordHash i = db.passwordHash i) :
    Epoch.Advances (register db) (register db') := by
  intro i e x h
  obtain ⟨u, hlookup, heq⟩ := Option.map_eq_some_iff.mp h
  cases heq
  by_cases hi : i = userId
  · have hlookup' : db'.users.lookup i = some (f u) := by
      rw [hu]
      exact lookup_modify_of_pos hlookup hi
    exact ⟨_, _, register_of_lookup hlookup', .inr (hf u)⟩
  · have hlookup' : db'.users.lookup i = some u := by
      rw [hu]
      exact lookup_modify_of_neg hlookup hi
    refine ⟨_, _, register_of_lookup hlookup', .inl ⟨rfl, hp i hi⟩⟩

theorem passwordHash_setPassword {userId i : ℕ} {hash : String} (hi : i ≠ userId)
    (hp : db'.passwords = db.setPassword userId hash) :
    db'.passwordHash i = db.passwordHash i := by
  rw [Accounts.passwordHash, Accounts.passwordHash, hp, Accounts.setPassword, first_modify_of_not]
  rintro j p rfl
  exact ⟨fun h => hi h.symm, fun h => hi h.symm⟩

/-- **No password is replaced without moving the version of its user on.** -/
theorem DbChange.advances (h : DbChange now db db') :
    Epoch.Advances (register db) (register db') := by
  cases h with
  | password =>
    exact advances_of_updateUser (f := User.revoked) (fun u => Nat.lt_succ_self _) rfl
      fun i hi => passwordHash_setPassword hi rfl
  | status _ status =>
    exact advances_of_updateUser (f := (UserUpdate.status status).apply)
      (fun u => Nat.lt_succ_self _) rfl fun i _ => rfl
  | grants | enroll | seen => exact advances_of_eq rfl rfl
  | disable =>
    exact advances_of_updateUser (f := User.revoked) (fun u => Nat.lt_succ_self _) rfl
      fun i _ => rfl

end Register

/-! ### The property and its condition -/

/-- The user that a request has read, and the hash that the password was checked against. -/
def Request.basis : Request → Option (KnownUser × String)
  | .idle => none
  | .passwordChecked user checked => some (user, checked)
  | .challenging user checked => some (user, checked)
  | .challengeFound _ user checked _ => some (user, checked)
  | .credentialFound _ user checked _ _ _ => some (user, checked)
  | .completing _ user checked _ => some (user, checked)
  | .refused _ => none
  | .issuing user _ checked _ => some (user, checked)

/-- **Every session that is accepted rests on the password that is stored.** -/
def RestsOnPassword (s : AuthState) : Prop :=
  ∀ tokenHash idleTTL found db', userSession s.now s.db tokenHash idleTTL = .ok (found, db') →
    ∃ issue, s.trail.issued found.1 = some issue ∧
      s.db.passwordHash found.2.userId = some issue.checked

/-- The token of the challenge that a request presents. -/
def AuthAction.challengeToken? : AuthAction → Option String
  | .completeTOTPLogin _ token _ => some token
  | .tick _ | .login .. | .proceed .. | .abandon _ | .changePassword .. | .setUserStatus ..
  | .createPasswordResetGrant .. | .verifyPasswordResetGrant .. | .completePasswordReset ..
  | .putSecret .. | .deleteSecret _ | .createEnrollment .. | .enableTOTP .. | .disableTOTP ..
  | .userSession _ => none

/-- A challenge that is read still stands: the hash that it started from is the one stored. -/
def StandingChallenge (s : AuthState) (a : AuthAction) : Prop :=
  ∀ token ∈ a.challengeToken?,
    ∀ found ∈ authenticationChallenge s.now s.db (sha256 token) .login,
      s.db.passwordHash found.2.id = s.trail.origin found.1
deriving Decidable

/-! ### The invariant -/

/-- What a login was checked against stands, wherever the login has got to: in a request, or in a
session. A challenge has only the hash. -/
structure LoginsSound (s : AuthState) : Prop where
  sessions : ∀ i t, s.db.sessions.lookup i = some t → ∃ issue, s.trail.issued i = some issue ∧
    Epoch.Stands (register s.db) t.userId t.authVersion (some issue.checked)
  requests : ∀ r user checked, (s.requests r).basis = some (user, checked) →
    Epoch.Stands (register s.db) user.id user.authVersion (some checked)
  challenges : ∀ i c, s.db.challenges.lookup i = some c → c.kind = .login →
    s.trail.origin i ≠ none

section Sound

variable {config : AuthConfig} {s : AuthState} {a : AuthAction}

theorem LoginsSound.restsOnPassword (h : LoginsSound s) : RestsOnPassword s := by
  intro tokenHash idleTTL found db' hfound
  obtain ⟨hlookup, ⟨-, -, -, _, hu, -, hversion⟩, -⟩ := userSession_eq_ok hfound
  obtain ⟨issue, hissue, hstands⟩ := h.sessions found.1 found.2 hlookup
  refine ⟨issue, hissue, hstands.eq ?_⟩
  rw [register_of_lookup hu, hversion]

theorem AuthState.Initial.loginsSound (h : s.Initial) : LoginsSound s where
  sessions i t ht := by simp [h.sessions] at ht
  requests r user checked hr := by simp [h.requests r, Request.basis] at hr
  challenges i c hc := by simp [h.challenges] at hc

/-- A step that issues nothing: it moves versions on, and gets no new sessions and no new login
challenges. -/
theorem LoginsSound.of_frame (h : LoginsSound s) {s' : AuthState}
    (hrequests : s'.requests = s.requests) (horigin : s'.trail.origin = s.trail.origin)
    (hissued : s'.trail.issued = s.trail.issued)
    (hadv : Epoch.Advances (register s.db) (register s'.db))
    (hsessions : ∀ i t, s'.db.sessions.lookup i = some t → ∃ t₀,
      s.db.sessions.lookup i = some t₀ ∧ t.userId = t₀.userId ∧ t.authVersion = t₀.authVersion)
    (hchallenges : ∀ i c, s'.db.challenges.lookup i = some c → c.kind = .login →
      ∃ c₀, s.db.challenges.lookup i = some c₀ ∧ c₀.kind = .login) : LoginsSound s' where
  sessions i t ht := by
    obtain ⟨t₀, ht₀, hu, hv⟩ := hsessions i t ht
    obtain ⟨issue, hissue, hstands⟩ := h.sessions i t₀ ht₀
    rw [hu, hv, hissued]
    exact ⟨issue, hissue, hstands.advance hadv⟩
  requests r user checked hr := (h.requests r user checked (hrequests ▸ hr)).advance hadv
  challenges i c hc hkind := by
    obtain ⟨c₀, hc₀, hkind₀⟩ := hchallenges i c hc hkind
    rw [horigin]
    exact h.challenges i c₀ hc₀ hkind₀

/-- A request goes on with what it has. -/
theorem LoginsSound.setRequest (h : LoginsSound s) {r : ℕ} {q : Request}
    (hq : ∀ user checked, q.basis = some (user, checked) →
      Epoch.Stands (register s.db) user.id user.authVersion (some checked)) :
    LoginsSound (s.setRequest r q) where
  sessions := h.sessions
  requests r' user checked hr := by
    by_cases hr' : r' = r
    · subst hr'
      rw [AuthState.requests_setRequest_self] at hr
      exact hq user checked hr
    · rw [AuthState.requests_setRequest_of_ne s q hr'] at hr
      exact h.requests r' user checked hr
  challenges := h.challenges

theorem LoginsSound.idle (h : LoginsSound s) (r : ℕ) : LoginsSound (s.setRequest r .idle) :=
  h.setRequest nofun

/-- The rows of `sessions`, when some of them are revoked or used. -/
theorem exists_session_of_modify {t : Table AuthSession} {p : ℕ → AuthSession → Prop}
    [∀ i r, Decidable (p i r)] {f : AuthSession → AuthSession} {i : ℕ} {x : AuthSession}
    (hf : ∀ y, (f y).userId = y.userId ∧ (f y).authVersion = y.authVersion)
    (h : (t.modify p f).lookup i = some x) :
    ∃ x₀, t.lookup i = some x₀ ∧ x.userId = x₀.userId ∧ x.authVersion = x₀.authVersion := by
  obtain ⟨x₀, hx₀, heq⟩ := exists_of_lookup_modify h
    (fun y => (y.userId, y.authVersion)) (fun y => Prod.ext (hf y).1 (hf y).2)
  exact ⟨x₀, hx₀, (Prod.mk.inj heq).1, (Prod.mk.inj heq).2⟩

theorem exists_challenge_of_modify {t : Table AuthenticationChallenge}
    {p : ℕ → AuthenticationChallenge → Prop} [∀ i r, Decidable (p i r)]
    {f : AuthenticationChallenge → AuthenticationChallenge} {i : ℕ} {c : AuthenticationChallenge}
    (h : (t.modify p f).lookup i = some c) (hc : c.kind = .login) (hf : ∀ y, (f y).kind = y.kind) :
    ∃ c₀, t.lookup i = some c₀ ∧ c₀.kind = .login := by
  obtain ⟨c₀, hc₀, heq⟩ := exists_of_lookup_modify h (·.kind) hf
  exact ⟨c₀, hc₀, heq ▸ hc⟩

theorem LoginsSound.dbChange (h : LoginsSound s) {db' : Accounts}
    (hdb : DbChange s.now s.db db') : LoginsSound { s with db := db' } := by
  have hadv := hdb.advances
  have hrevoked (userId : ℕ) (unseen : List ℕ) (i : ℕ) (t : AuthSession) :
      (s.db.revokeSessions s.now userId unseen).lookup i = some t → ∃ t₀,
        s.db.sessions.lookup i = some t₀ ∧ t.userId = t₀.userId ∧
          t.authVersion = t₀.authVersion :=
    exists_session_of_modify fun _ => ⟨rfl, rfl⟩
  cases hdb with
  | password userId _ unseen =>
    exact h.of_frame rfl rfl rfl hadv (hrevoked userId unseen) fun i c hc hkind => ⟨c, hc, hkind⟩
  | status userId _ _ hs =>
    refine h.of_frame rfl rfl rfl hadv ?_ fun i c hc hkind => ⟨c, hc, hkind⟩
    obtain rfl | ⟨unseen, rfl⟩ := hs
    · exact fun i t ht => ⟨t, ht, rfl, rfl⟩
    · exact hrevoked userId unseen
  | grants =>
    exact h.of_frame rfl rfl rfl hadv (fun i t ht => ⟨t, ht, rfl, rfl⟩)
      fun i c hc hkind => ⟨c, hc, hkind⟩
  | enroll =>
    refine h.of_frame rfl rfl rfl hadv (fun i t ht => ⟨t, ht, rfl, rfl⟩) fun i c hc hkind => ?_
    rcases lookup_insert_eq_some.mp hc with ⟨-, rfl⟩ | hc
    · exact nomatch hkind
    · exact exists_challenge_of_modify hc hkind fun _ => rfl
  | disable userId unseen =>
    exact h.of_frame rfl rfl rfl hadv (hrevoked userId unseen) fun i c hc hkind => ⟨c, hc, hkind⟩
  | seen =>
    refine h.of_frame rfl rfl rfl hadv (fun i t => exists_session_of_modify fun y => ?_)
      fun i c hc hkind => ⟨c, hc, hkind⟩
    unfold AuthSession.seen
    split
    · exact ⟨rfl, rfl⟩
    · exact ⟨rfl, rfl⟩

/-- A step that only reads. Of the two that read a user, `login` reads the hash with the version;
for `CompleteTOTPLogin` the condition says that the hash is still the same. -/
theorem LoginsSound.moves (h : LoginsSound s) (hg : StandingChallenge s a) {r : ℕ} {q : Request}
    (hmove : Moves config s r a q) {user : KnownUser} {checked : String}
    (hq : q.basis = some (user, checked)) :
    Epoch.Stands (register s.db) user.id user.authVersion (some checked) := by
  cases hmove with
  | stop | refuse => exact nomatch hq
  | login _ _ _ _ _ hauth =>
    cases hq
    simp only [Accounts.authenticateUser, Option.bind_eq_bind, Option.bind_eq_some_iff,
      Option.pure_def, Option.some.injEq, Prod.mk.injEq, Prod.exists] at hauth
    obtain ⟨_, _, hfirst, _, hhash, rfl, rfl, rfl⟩ := hauth
    apply Epoch.stands_of_eq
    rw [register_of_lookup (lookup_of_first hfirst), hhash]
  | second _ _ _ hr => exact h.requests r user checked (hr ▸ hq)
  | only _ _ _ hr => exact h.requests r user checked (hr ▸ hq)
  | challenge token _ i _ hfound =>
    cases hq
    have hstanding := hg token rfl (i, user) hfound
    simp only [authenticationChallenge, Option.bind_eq_bind, Option.bind_eq_some_iff,
      Option.pure_def, Option.some.injEq, Prod.mk.injEq, Prod.exists] at hfound
    obtain ⟨j, c, hfirst, _, hu, rfl, rfl⟩ := hfound
    obtain ⟨_, horigin⟩ := Option.ne_none_iff_exists'.mp
      (h.challenges j c (lookup_of_first hfirst) (pos_of_first hfirst).2.1)
    apply Epoch.stands_of_eq
    rw [register_of_lookup hu, hstanding, horigin]
    rfl
  | credential _ _ _ _ _ _ hr =>
    exact h.requests r user checked (hr ▸ hq)
  | valid _ _ _ _ _ _ _ _ hr =>
    exact h.requests r user checked (hr ▸ hq)

/-- **One step.** -/
theorem LoginsSound.step (h : LoginsSound s) (hg : StandingChallenge s a) :
    LoginsSound (s.step config a) := by
  obtain heffect := step_effect config s a
  generalize s.step config a = s' at heffect
  cases heffect with
  | elsewhere => exact ⟨h.sessions, h.requests, h.challenges⟩
  | moves _ _ _ hmove => exact h.setRequest fun user checked => h.moves hg hmove
  | changes _ _ hdb => exact h.dbChange hdb
  | challenges =>
    apply LoginsSound.idle
    refine ⟨h.sessions, h.requests, fun i c hc hkind => ?_⟩
    rcases lookup_insert_eq_some.mp hc with ⟨rfl, -⟩ | hc
    · simp
    · have hne : i ≠ s.db.challenges.nextId := Nat.ne_of_lt (lt_nextId hc)
      simpa [hne] using h.challenges i c hc hkind
  | accepts r _ _ user checked _ _ _ hr haccept =>
    have hstands := h.requests r user checked (by rw [hr]; rfl)
    obtain ⟨hu, hp, hs, hchallenges⟩ := accept_frame haccept
    have hadv := advances_of_eq hu hp
    apply LoginsSound.setRequest
    · refine h.of_frame rfl rfl rfl hadv (fun i t ht => ⟨t, hs ▸ ht, rfl, rfl⟩)
        fun i c hc hkind => ?_
      rw [hchallenges] at hc
      exact exists_challenge_of_modify hc hkind fun _ => rfl
    · rintro user' checked' ⟨⟩
      exact hstands.advance hadv
  | refuses =>
    apply LoginsSound.idle
    refine h.of_frame rfl rfl rfl (advances_of_eq rfl rfl) (fun i t ht => ⟨t, ht, rfl, rfl⟩) ?_
    exact fun i c hc hkind => exists_challenge_of_modify hc hkind fun _ => rfl
  | issues r _ user _ checked acceptance _ hr hu hv =>
    have hstands := h.requests r user checked (by rw [hr]; rfl)
    apply LoginsSound.idle
    refine ⟨fun i x hx => ?_, h.requests, h.challenges⟩
    rcases lookup_insert_eq_some.mp hx with ⟨rfl, rfl⟩ | hx
    · refine ⟨⟨checked, acceptance⟩, Function.update_self .., ?_⟩
      rw [hu, hv]
      exact hstands
    · obtain ⟨issue, hissue, hold⟩ := h.sessions i x hx
      exact ⟨issue, (Function.update_of_ne (Nat.ne_of_lt (lt_nextId hx)) ..).trans hissue, hold⟩
  | enables =>
    refine h.of_frame rfl rfl rfl (advances_of_eq rfl rfl) (fun i t ht => ⟨t, ht, rfl, rfl⟩) ?_
    exact fun i c hc hkind => exists_challenge_of_modify hc hkind fun _ => rfl

/-- **Sessions rest on the current password**, in every state of a run in which every challenge
that is read still stands. -/
theorem restsOnPassword_run (hs : s.Initial) {acts : List AuthAction}
    (hg : Guarded (AuthState.step config) StandingChallenge s acts) :
    RestsOnPassword (run (AuthState.step config) s acts) :=
  (guarded_run_induction hs.loginsSound (fun _ _ h hstanding => h.step hstanding)
    hg).restsOnPassword

end Sound

/-! ### A password that is changed in the middle of a login -/

/-- A login with a second factor. -/
def wholeLogin : List AuthAction :=
  enrolling ++ loggingIn 1 "challenge" ++ presenting 1 "challenge" ++ finishing 1 "session"

/-- The same login, but the password is changed between its two requests. -/
def changedBetween : List AuthAction :=
  enrolling ++ loggingIn 1 "challenge" ++ [.changePassword 1 "second" []] ++
    presenting 1 "challenge" ++ finishing 1 "session"

theorem restsOnPassword_wholeLogin :
    (run (AuthState.step smallConfig) smallAccounts wholeLogin).db.sessions.Any
      (fun _ t => t.Valid 60
        (run (AuthState.step smallConfig) smallAccounts wholeLogin).db) ∧
      RestsOnPassword (run (AuthState.step smallConfig) smallAccounts wholeLogin) :=
  ⟨by decide +kernel, restsOnPassword_run smallAccounts_initial (by decide +kernel)⟩

/-- The session is accepted, and rests on the old password. -/
theorem not_restsOnPassword_changedBetween :
    smallAccounts.Initial ∧
      ¬ RestsOnPassword (run (AuthState.step smallConfig) smallAccounts changedBetween) := by
  refine ⟨smallAccounts_initial, fun h => ?_⟩
  have hfirst : (run (AuthState.step smallConfig) smallAccounts changedBetween).db.sessions.first
      (fun _ t => t.tokenHash = sha256 "session" ∧ t.Valid 60
        (run (AuthState.step smallConfig) smallAccounts changedBetween).db) =
      some (1, ⟨"session", sha256 "session", 1, sha256 "csrf", 3660, 1860, 2, .aal2, 60, none⟩) :=
    by decide +kernel
  obtain ⟨db', haccepted⟩ := userSession_of_first hfirst 1800
  obtain ⟨issue, hissue, hstored⟩ := h _ _ _ _ haccepted
  have hold : issue = ⟨"first", some 1⟩ := Option.some.inj (hissue.symm.trans (by decide +kernel))
  subst hold
  exact absurd hstored (by decide +kernel)

end Molejo.Identity
