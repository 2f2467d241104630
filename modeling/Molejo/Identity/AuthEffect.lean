import Molejo.Identity.Authentication

/-!
# What a step of authentication does

Sixteen kinds of actions come down to eight effects on the state. Most transactions change
some of the tables and nothing else (`DbChange`); most transactions of requests only read
(`Moves`). The others are those that the properties of this part are about: a challenge
is created, a factor is accepted or refused, a session is issued, a user enrolls.
-/

namespace Molejo.Identity

open Transaction Table

variable {userId challengeId : ℕ} {unseen : List ℕ} {codeHash : Digest} {now : Time}
  {db db' : Accounts}

/-! ### Transactions -/

section Specs

theorem consumeChallenge_eq_ok {kind : ChallengeKind} {challenges : Table AuthenticationChallenge} :
    consumeChallenge now db kind challengeId userId = .ok challenges ↔
      db.challenges.Any (Consumable now kind challengeId userId) ∧
        db.challenges.modify (Consumable now kind challengeId userId)
          (fun c => { c with consumedAt := some now }) = challenges := by
  simp only [consumeChallenge, ok_iff]

theorem completeTOTPChallenge_eq_ok {step : ℕ}
    (h : completeTOTPChallenge now db challengeId userId step = .ok db') :
    (db.totpCredentials.Any fun _ c => StepUnused userId step c) ∧
      db.challenges.Any (Consumable now .login challengeId userId) ∧
      db' = { db with
        challenges := db.challenges.modify (Consumable now .login challengeId userId)
          fun c => { c with consumedAt := some now }
        totpCredentials := db.totpCredentials.modify (fun _ c => StepUnused userId step c)
          fun c => { c with lastUsedStep := step } } := by
  simp only [completeTOTPChallenge, ok_iff, consumeChallenge_eq_ok] at h
  obtain ⟨hstep, _, ⟨hany, rfl⟩, rfl⟩ := h
  exact ⟨hstep, hany, rfl⟩

theorem completeRecoveryChallenge_eq_ok {codeId : ℕ}
    (h : completeRecoveryChallenge now db challengeId userId codeHash = .ok (db', codeId)) :
    (∃ c, db.recoveryCodes.lookup codeId = some c ∧ c.usedAt = none) ∧
      db.challenges.Any (Consumable now .login challengeId userId) ∧
      db' = { db with
        challenges := db.challenges.modify (Consumable now .login challengeId userId)
          fun c => { c with consumedAt := some now }
        recoveryCodes := db.recoveryCodes.modify (fun i _ => i = codeId)
          fun c => { c with usedAt := some now } } := by
  simp only [completeRecoveryChallenge, ok_iff, consumeChallenge_eq_ok, Prod.exists,
    Prod.mk.injEq] at h
  obtain ⟨_, c, hf, _, ⟨hany, rfl⟩, rfl, rfl⟩ := h
  exact ⟨⟨c, lookup_of_first hf, (pos_of_first hf).2.2⟩, hany, rfl⟩

/-- What accepting a factor leaves alone, and that it consumes the challenge. -/
theorem accept_frame {s : AuthState} {user : KnownUser} {factor : Factor} {acceptance : Acceptance}
    (h : s.accept challengeId user factor = .ok (db', acceptance)) :
    db'.users = s.db.users ∧ db'.passwords = s.db.passwords ∧ db'.sessions = s.db.sessions ∧
      db'.challenges = s.db.challenges.modify (Consumable s.now .login challengeId user.id)
        fun c => { c with consumedAt := some s.now } := by
  cases factor with
  | totp =>
    simp only [AuthState.accept, ok_iff, Prod.mk.injEq] at h
    obtain ⟨_, h, rfl, -⟩ := h
    obtain ⟨-, -, rfl⟩ := completeTOTPChallenge_eq_ok h
    exact ⟨rfl, rfl, rfl, rfl⟩
  | recovery =>
    simp only [AuthState.accept, ok_iff, Prod.mk.injEq, Prod.exists] at h
    obtain ⟨_, _, h, rfl, -⟩ := h
    obtain ⟨-, -, rfl⟩ := completeRecoveryChallenge_eq_ok h
    exact ⟨rfl, rfl, rfl, rfl⟩

theorem userSession_eq_ok {tokenHash : Digest} {idleTTL : Time} {found : ℕ × AuthSession}
    (h : userSession now db tokenHash idleTTL = .ok (found, db')) :
    db.sessions.lookup found.1 = some found.2 ∧ found.2.Valid now db ∧
      db' = { db with
        sessions := db.sessions.modify (fun i _ => i = found.1) (·.seen now idleTTL) } := by
  simp only [userSession, ok_iff, Prod.mk.injEq] at h
  obtain ⟨_, hf, rfl, rfl⟩ := h
  exact ⟨lookup_of_first hf, (pos_of_first hf).2, rfl⟩

theorem userSession_of_first {tokenHash : Digest} {found : ℕ × AuthSession}
    (h : db.sessions.first (fun _ t => t.tokenHash = tokenHash ∧ t.Valid now db) = some found)
    (idleTTL : Time) : ∃ db', userSession now db tokenHash idleTTL = .ok (found, db') := by
  simp only [userSession, ok_iff, Prod.mk.injEq]
  exact ⟨_, found, h, rfl, rfl⟩

end Specs

/-- What a transaction that belongs to no request does to the tables. -/
inductive DbChange (now : Time) (db : Accounts) : Accounts → Prop
  | password (userId : ℕ) (hash : String) (unseen : List ℕ) (grants : Table PasswordResetGrant) :
      DbChange now db { changePassword now db userId hash unseen with resetGrants := grants }
  | status (userId : ℕ) (status : UserStatus) (sessions : Table AuthSession)
      (h : sessions = db.sessions ∨ ∃ unseen, sessions = db.revokeSessions now userId unseen) :
      DbChange now db { db with
        users := db.updateUser userId (UserUpdate.status status).apply, sessions := sessions }
  | grants (grants : Table PasswordResetGrant) : DbChange now db { db with resetGrants := grants }
  | enroll (challengeHash : Digest) (userId : ℕ) (payload : Option (String × ℕ))
      (expiresAt : Time) (unseen : List ℕ) :
      DbChange now db { db with
        challenges := (db.challenges.modify (fun i c => i ∉ unseen ∧ c.userId = userId ∧
            c.kind = .totpEnrollment ∧ c.consumedAt = none)
          fun c => { c with consumedAt := some now }).insert
            ⟨challengeHash, userId, .totpEnrollment, payload, 0, expiresAt, none⟩ }
  | disable (userId : ℕ) (unseen : List ℕ) :
      DbChange now db { db with
        totpCredentials := db.totpCredentials.delete fun _ c => c.userId = userId
        recoveryCodes := db.recoveryCodes.delete fun _ c => c.userId = userId
        users := db.updateUser userId User.revoked
        sessions := db.revokeSessions now userId unseen }
  | seen (i : ℕ) (idleTTL : Time) :
      DbChange now db { db with
        sessions := db.sessions.modify (fun j _ => j = i) (·.seen now idleTTL) }

/-! ### Requests -/

/-- Where a step that only reads takes a request. -/
inductive Moves (config : AuthConfig) (s : AuthState) (r : ℕ) : AuthAction → Request → Prop
  | stop (a : AuthAction) : Moves config s r a .idle
  | login (username password : String) (i : ℕ) (u : User) (hash : String)
      (h : s.db.authenticateUser username = some (i, u, hash)) :
      Moves config s r (.login r username password) (.passwordChecked ⟨i, u.authVersion⟩ hash)
  | second (user : KnownUser) (checked : String) (draws : Draws)
      (hr : s.requests r = .passwordChecked user checked) :
      Moves config s r (.proceed r draws) (.challenging user checked)
  | only (user : KnownUser) (checked : String) (draws : Draws)
      (hr : s.requests r = .passwordChecked user checked) :
      Moves config s r (.proceed r draws) (.issuing user .aal1 checked none)
  | challenge (token code : String) (i : ℕ) (user : KnownUser)
      (h : authenticationChallenge s.now s.db (sha256 token) .login = some (i, user)) :
      Moves config s r (.completeTOTPLogin r token code)
        (.challengeFound i user ((s.trail.origin i).getD "") code)
  | credential (challengeId : ℕ) (user : KnownUser) (checked code : String)
      (credential : TOTPCredential) (draws : Draws)
      (hr : s.requests r = .challengeFound challengeId user checked code)
      (h : totpCredential s.db user.id = some credential) :
      Moves config s r (.proceed r draws) (.credentialFound challengeId user checked code credential
        (s.trail.enrollments user.id))
  | valid (challengeId : ℕ) (user : KnownUser) (checked code : String)
      (credential : TOTPCredential) (enrollment : ℕ) (factor : Factor) (draws : Draws)
      (hr : s.requests r =
        .credentialFound challengeId user checked code credential enrollment)
      (hf : ∀ e step, factor = .totp e step → e = enrollment) :
      Moves config s r (.proceed r draws) (.completing challengeId user checked factor)
  | refuse (challengeId : ℕ) (draws : Draws) :
      Moves config s r (.proceed r draws) (.refused challengeId)

/-! ### Effects -/

/-- Everything that a step can do. -/
inductive AuthEffect (config : AuthConfig) (s : AuthState) : AuthAction → AuthState → Prop
  | elsewhere (a : AuthAction) (now : Time) (secrets : VersionedMap String String) :
      AuthEffect config s a { s with now := now, secrets := secrets }
  | moves (a : AuthAction) (r : ℕ) (q : Request) (h : Moves config s r a q) :
      AuthEffect config s a (s.setRequest r q)
  | changes (a : AuthAction) (db : Accounts) (h : DbChange s.now s.db db) :
      AuthEffect config s a { s with db := db }
  | challenges (r : ℕ) (draws : Draws) (user : KnownUser) (checked : String) (expiresAt : Time)
      (hr : s.requests r = .challenging user checked) :
      AuthEffect config s (.proceed r draws)
        ({ s with
          db := { s.db with
            challenges := s.db.challenges.insert
              ⟨sha256 draws.token, user.id, .login, none, 0, expiresAt, none⟩ }
          trail := { s.trail with
            origin := Function.update s.trail.origin s.db.challenges.nextId (some checked) }
        }.setRequest r .idle)
  | accepts (r : ℕ) (draws : Draws) (challengeId : ℕ) (user : KnownUser) (checked : String)
      (factor : Factor) (db : Accounts) (acceptance : Acceptance)
      (hr : s.requests r = .completing challengeId user checked factor)
      (h : s.accept challengeId user factor = .ok (db, acceptance)) :
      AuthEffect config s (.proceed r draws)
        ({ s with
          db := db
          trail := { s.trail with accepted := s.trail.accepted.insert acceptance }
        }.setRequest r (.issuing user .aal2 checked (some s.trail.accepted.nextId)))
  | refuses (r : ℕ) (draws : Draws) (challengeId : ℕ)
      (hr : s.requests r = .refused challengeId) :
      AuthEffect config s (.proceed r draws)
        ({ s with db := recordAuthenticationChallengeFailure s.now s.db challengeId }.setRequest
          r .idle)
  | issues (r : ℕ) (draws : Draws) (user : KnownUser) (level : AssuranceLevel) (checked : String)
      (acceptance : Option ℕ) (t : AuthSession)
      (hr : s.requests r = .issuing user level checked acceptance)
      (hu : t.userId = user.id) (hv : t.authVersion = user.authVersion) :
      AuthEffect config s (.proceed r draws)
        ({ s with
          db := { s.db with sessions := s.db.sessions.insert t }
          trail := { s.trail with
            issued := Function.update s.trail.issued s.db.sessions.nextId
              (some ⟨checked, acceptance⟩) }
        }.setRequest r .idle)
  | enables (challengeId userId : ℕ) (reference : String) (version : ℕ)
      (codeHashes : List Digest) :
      AuthEffect config s (.enableTOTP challengeId userId reference version codeHashes)
        { s with
          db := { s.db with
            challenges := s.db.challenges.modify
              (Consumable s.now .totpEnrollment challengeId userId)
              fun c => { c with consumedAt := some s.now }
            totpCredentials := upsertTOTPCredential s.db userId reference version
            recoveryCodes := replaceRecoveryCodes s.db userId codeHashes }
          trail := { s.trail with
            enrollments := Function.update s.trail.enrollments userId
              (s.trail.enrollments userId + 1) } }

section Step

variable {config : AuthConfig} {s : AuthState} {a : AuthAction}

theorem AuthEffect.same (a : AuthAction) : AuthEffect config s a s :=
  .elsewhere a s.now s.secrets

/-- A transaction that belongs to no request. -/
theorem AuthEffect.of_transact {x : Except Err Accounts}
    (h : ∀ db, x = .ok db → DbChange s.now s.db db) : AuthEffect config s a (s.transact x) := by
  cases x with
  | error => exact .same a
  | ok db => exact .changes a db (h db rfl)

/-- The transactions of a request. -/
theorem proceed_effect (config : AuthConfig) (s : AuthState) (r : ℕ) (draws : Draws) :
    AuthEffect config s (.proceed r draws) (s.proceed config r draws) := by
  unfold AuthState.proceed
  cases hr : s.requests r with
  | idle => exact .same _
  | passwordChecked user checked =>
    dsimp only
    split
    · exact .moves _ r _ (.second user checked draws hr)
    · exact .moves _ r _ (.only user checked draws hr)
  | challenging user checked =>
    dsimp only
    split
    · rename_i db h
      simp only [createAuthenticationChallenge, ok_iff] at h
      obtain ⟨-, -, rfl⟩ := h
      exact .challenges r draws user checked (s.now + 300) hr
    · exact .moves _ r _ (.stop _)
  | challengeFound challengeId user checked code =>
    dsimp only
    split
    · rename_i credential h
      exact .moves _ r _ (.credential challengeId user checked code credential draws hr h)
    · exact .moves _ r _ (.stop _)
  | credentialFound challengeId user checked code credential enrollment =>
    refine .moves _ r _ ?_
    unfold AuthState.compare
    split
    · refine .valid challengeId user checked code credential enrollment _ draws hr ?_
      rintro _ _ ⟨⟩
    split
    · exact .stop _
    split
    · split
      · exact .refuse challengeId draws
      · refine .valid challengeId user checked code credential enrollment _ draws hr ?_
        rintro e step ⟨⟩
        rfl
    · exact .refuse challengeId draws
  | completing challengeId user checked factor =>
    dsimp only
    split
    · rename_i db acceptance h
      exact .accepts r draws challengeId user checked factor db acceptance hr h
    · exact .moves _ r _ (.refuse challengeId draws)
  | refused challengeId => exact .refuses r draws challengeId hr
  | issuing user level checked acceptance =>
    dsimp only
    split
    · rename_i db h
      simp only [createUserSession, ok_iff] at h
      obtain ⟨-, -, rfl⟩ := h
      exact .issues r draws user level checked acceptance _ hr rfl rfl
    · exact .moves _ r _ (.stop _)

theorem dbChange_of_setAccountStatus {publicId : String} {status : UserStatus} {version : ℕ}
    {governed : Bool}
    (h : setAccountStatus now db publicId status version governed unseen = .ok db') :
    DbChange now db db' := by
  simp only [setAccountStatus, ok_iff] at h
  obtain ⟨⟨userId, _⟩, -, -, h⟩ := h
  have hstatus (sessions : Table AuthSession) (hs : sessions =
      if status = .active then db.sessions else db.revokeSessions now userId unseen) :
      DbChange now db { db with
        users := db.updateUser userId (UserUpdate.status status).apply
        sessions := sessions } := by
    refine .status userId status sessions ?_
    split_ifs at hs
    · exact .inl hs
    · exact .inr ⟨unseen, hs⟩
  split at h
  · simp only [ok_iff] at h
    obtain ⟨-, rfl⟩ := h
    exact hstatus _ rfl
  · simp only [pure_eq_ok] at h
    subst h
    exact hstatus _ rfl

theorem dbChange_of_grant {publicId : String} {expiresAt : Time}
    (h : createPasswordResetGrant now db publicId userId codeHash expiresAt unseen = .ok db') :
    DbChange now db db' := by
  simp only [createPasswordResetGrant, ok_iff] at h
  obtain ⟨-, -, -, rfl⟩ := h
  exact .grants _

theorem dbChange_of_verify {username : String}
    (h : verifyPasswordResetGrant now db username codeHash = .ok db') :
    DbChange now db db' := by
  simp only [verifyPasswordResetGrant, ok_iff] at h
  obtain ⟨⟨_, _⟩, -, ⟨_, _⟩, -, h⟩ := h
  split at h
  · cases h
    exact .grants _
  · cases h
    exact .grants _

theorem dbChange_of_reset {username grantPublicId hash : String}
    (h : completePasswordReset now db username grantPublicId hash unseen = .ok db') :
    DbChange now db db' := by
  simp only [completePasswordReset, ok_iff] at h
  obtain ⟨⟨_, g⟩, -, rfl⟩ := h
  exact .password g.userId hash unseen _

/-- **The list is complete.** -/
theorem step_effect (config : AuthConfig) (s : AuthState) (a : AuthAction) :
    AuthEffect config s a (s.step config a) := by
  cases a with
  | tick seconds => exact .elsewhere _ (s.now + seconds) s.secrets
  | login r username password =>
    simp only [AuthState.step, AuthState.login]
    split
    · rename_i i u hash h
      split
      · exact .moves _ r _ (.login username password i u hash h)
      · exact .moves _ r _ (.stop _)
    · exact .moves _ r _ (.stop _)
  | completeTOTPLogin r token code =>
    simp only [AuthState.step, AuthState.completeTOTPLogin]
    split
    · rename_i i user h
      exact .moves _ r _ (.challenge token code i user h)
    · exact .moves _ r _ (.stop _)
  | proceed r draws => exact proceed_effect config s r draws
  | abandon r => exact .moves _ r _ (.stop _)
  | changePassword userId hash unseen =>
    exact .changes _ _ (.password userId hash unseen s.db.resetGrants)
  | setUserStatus =>
    exact .of_transact fun db h => dbChange_of_setAccountStatus h
  | createPasswordResetGrant =>
    exact .of_transact fun db h => dbChange_of_grant h
  | verifyPasswordResetGrant =>
    exact .of_transact fun db h => dbChange_of_verify h
  | completePasswordReset =>
    exact .of_transact fun db h => dbChange_of_reset h
  | putSecret =>
    simp only [AuthState.step]
    split
    · exact .elsewhere _ s.now _
    · exact .same _
  | deleteSecret => exact .elsewhere _ s.now _
  | createEnrollment =>
    refine .of_transact fun db h => ?_
    simp only [createAuthenticationChallenge, ok_iff] at h
    obtain ⟨-, -, rfl⟩ := h
    exact .enroll _ _ _ _ _
  | enableTOTP challengeId userId reference version codeHashes =>
    simp only [AuthState.step, AuthState.enable]
    split
    · rename_i db h
      simp only [enableTOTP, ok_iff, consumeChallenge_eq_ok] at h
      obtain ⟨_, ⟨-, rfl⟩, -, rfl⟩ := h
      exact .enables challengeId userId reference version codeHashes
    · exact .same _
  | disableTOTP userId unseen =>
    refine .of_transact fun db h => ?_
    simp only [disableTOTP, ok_iff] at h
    obtain ⟨-, rfl⟩ := h
    exact .disable userId unseen
  | userSession token =>
    simp only [AuthState.step]
    split
    · rename_i found db h
      obtain ⟨-, -, rfl⟩ := userSession_eq_ok h
      exact .changes _ _ (.seen found.1 config.sessionIdleTTL)
    · exact .same _

end Step

end Molejo.Identity
