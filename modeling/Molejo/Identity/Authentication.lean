import Molejo.Identity.Directory
import Molejo.Lib.VersionedMap

/-!
# Logging in

A user logs in with a password, and if they have enrolled a second factor, with a code as
well. The password is checked in one request, which leaves a *challenge* behind, and the code
in another, which presents the challenge. What comes of a login is a session, and what a
session carries, besides its own token, is the `auth_version` of the user.

A request is not one transaction. It reads the user and the hash of the password, finds out
whether there is a second factor, and creates a challenge or a session; later it reads the
challenge, reads the credential, compares the code, completes the challenge, and creates
the session. Between any two of these, requests of others go on, passwords are changed and
factors enrolled or taken away. `proceed` is the next transaction of a request, and what
the request remembers between two of them is its `Request`.

Three things are in the state only to state properties: which hash the password behind a
challenge was checked against, which factors were accepted, and what each session rests
on (`Trail`). No transaction reads them.
-/

namespace Molejo.Identity

open Transaction

/-! ### Rows -/

/-- The column `assurance_level` of `sessions`. -/
inductive AssuranceLevel
  | aal1
  | aal2
deriving DecidableEq

/-- A row of `sessions`, with the columns that authentication reads. -/
structure AuthSession where
  publicId : String
  tokenHash : Digest
  userId : ℕ
  csrfHash : Digest
  expiresAt : Time
  idleExpiresAt : Time
  authVersion : ℕ
  assuranceLevel : AssuranceLevel
  lastSeenAt : Time
  revokedAt : Option Time
deriving DecidableEq

/-- The column `kind` of `authentication_challenges`; nothing creates the kind
`WebAuthnRegistration`. -/
inductive ChallengeKind
  | login
  | totpEnrollment
deriving DecidableEq

/-- A row of `authentication_challenges`. The payload of an enrollment is the reference of the
secret and its version. -/
structure AuthenticationChallenge where
  challengeHash : Digest
  userId : ℕ
  kind : ChallengeKind
  payload : Option (String × ℕ)
  attempts : ℕ
  expiresAt : Time
  consumedAt : Option Time
deriving DecidableEq

/-- A row of `totp_credentials`. -/
structure TOTPCredential where
  userId : ℕ
  secretReference : String
  secretVersion : ℕ
  lastUsedStep : ℕ
deriving DecidableEq

/-- A row of `recovery_codes`. -/
structure RecoveryCode where
  userId : ℕ
  codeHash : Digest
  usedAt : Option Time
deriving DecidableEq

/-- A row of `password_reset_grants`. -/
structure PasswordResetGrant where
  publicId : String
  userId : ℕ
  codeHash : Digest
  attempts : ℕ
  expiresAt : Time
  verifiedAt : Option Time
  consumedAt : Option Time
deriving DecidableEq

/-- The tables of authentication. -/
structure Accounts where
  users : Table User
  passwords : Table PasswordCredential
  sessions : Table AuthSession
  challenges : Table AuthenticationChallenge
  totpCredentials : Table TOTPCredential
  recoveryCodes : Table RecoveryCode
  resetGrants : Table PasswordResetGrant

/-- What the server computes, and what it is configured with. The algorithm of TOTP is any function
of a secret and a step. -/
structure AuthConfig where
  /-- `auth.VerifyPassword`. -/
  verifyPassword : String → String → Bool
  /-- `auth.HashResetCode` with the key of the server. -/
  hashResetCode : String → Digest
  /-- `totp.GenerateCode`. -/
  generateCode : String → ℕ → String
  sessionTTL : Time
  sessionIdleTTL : Time

/-! ### Passwords and users -/

namespace Accounts

variable (db : Accounts)

/-- The hash stored for a user. -/
def passwordHash (userId : ℕ) : Option String :=
  (db.passwords.first fun _ p => p.userId = userId).map fun p => p.2.passwordHash

/-- `AuthenticateUser`. -/
def authenticateUser (username : String) : Option (ℕ × User × String) := do
  let (i, u) ← db.users.first fun _ u => u.username = username
  let hash ← db.passwordHash i
  return (i, u, hash)

/-- `UPDATE sessions SET revoked_at=now() WHERE user_id=$1 AND revoked_at IS NULL`. The statement
does not see the sessions that are being inserted at the same time. -/
def revokeSessions (now : Time) (userId : ℕ) (unseen : List ℕ) : Table AuthSession :=
  db.sessions.modify (fun i s => i ∉ unseen ∧ s.userId = userId ∧ s.revokedAt = none)
    fun s => { s with revokedAt := some now }

/-- `UPDATE users SET … WHERE id=$1`. -/
def updateUser (userId : ℕ) (f : User → User) : Table User :=
  db.users.modify (fun i _ => i = userId) f

/-- `UPDATE password_credentials SET password_hash=$2 WHERE user_id=$1`. -/
def setPassword (userId : ℕ) (hash : String) : Table PasswordCredential :=
  db.passwords.modify (fun _ p => p.userId = userId) fun p => { p with passwordHash := hash }

end Accounts

/-- `SET auth_version=auth_version+1`. -/
def User.revoked (u : User) : User := { u with authVersion := u.authVersion + 1 }

/-- `ChangePassword`. -/
def changePassword (now : Time) (db : Accounts) (userId : ℕ) (hash : String)
    (unseen : List ℕ) : Accounts :=
  { db with
    passwords := db.setPassword userId hash
    users := db.updateUser userId User.revoked
    sessions := db.revokeSessions now userId unseen }

/-- `SetUserStatus`. The checks of governance are those of `Identity.setUserStatus`, and `governed`
is their answer. -/
def setAccountStatus (now : Time) (db : Accounts) (publicId : String) (status : UserStatus)
    (version : ℕ) (governed : Bool) (unseen : List ℕ) : Except Err Accounts := do
  let (userId, user) ← expect
    (db.users.first fun _ u => u.publicId = publicId ∧ u.version = version) .versionConflict
  require (canAdministrativelyTransition user.status status) .conflict
  if user.status = .active ∧ status ≠ .active then
    require (governed = true) .governanceInvariant
  return { db with
    users := db.updateUser userId (UserUpdate.status status).apply
    sessions := if status = .active then db.sessions else db.revokeSessions now userId unseen }

/-! ### Resetting a password -/

/-- `CreatePasswordResetGrant`. The first statement does not see the grants that are being inserted
at the same time, and then the index `password_reset_grants_one_active` refuses the second. -/
def createPasswordResetGrant (now : Time) (db : Accounts) (publicId : String) (userId : ℕ)
    (codeHash : Digest) (expiresAt : Time) (unseen : List ℕ) : Except Err Accounts := do
  let grants := db.resetGrants.modify
    (fun i g => i ∉ unseen ∧ g.userId = userId ∧ g.consumedAt = none)
    fun g => { g with consumedAt := some now }
  require (db.users.lookup userId ≠ none) .database
  require (¬ grants.Any fun _ g => g.publicId = publicId) .uniqueViolation
  require (¬ grants.Any fun _ g => g.userId = userId ∧ g.consumedAt = none) .uniqueViolation
  return { db with
    resetGrants := grants.insert ⟨publicId, userId, codeHash, 0, expiresAt, none, none⟩ }

/-- `VerifyPasswordResetGrant`: the grant with the code counts as verified, and a wrong code counts
against it. -/
def verifyPasswordResetGrant (now : Time) (db : Accounts) (username : String)
    (codeHash : Digest) : Except Err Accounts := do
  let (userId, _) ← expect
    (db.users.first fun _ u => u.username = username ∧ u.status = .active) .notFound
  let (grantId, g) ← expect
    ((db.resetGrants.select fun _ g => g.userId = userId ∧ g.verifiedAt = none ∧
      g.consumedAt = none ∧ now < g.expiresAt).getLast?) .notFound
  if 5 ≤ g.attempts ∨ g.codeHash ≠ codeHash then
    return { db with
      resetGrants := db.resetGrants.modify (fun i _ => i = grantId)
        fun g => { g with attempts := min (g.attempts + 1) 5 } }
  return { db with
    resetGrants := db.resetGrants.modify (fun i _ => i = grantId)
      fun g => { g with verifiedAt := some now } }

/-- `CompletePasswordReset`. -/
def completePasswordReset (now : Time) (db : Accounts) (username grantPublicId hash : String)
    (unseen : List ℕ) : Except Err Accounts := do
  let (_, g) ← expect (db.resetGrants.first fun _ g => g.publicId = grantPublicId ∧
    g.verifiedAt ≠ none ∧ g.consumedAt = none ∧ now < g.expiresAt ∧
    ∃ u ∈ db.users.lookup g.userId, u.username = username) .resetCodeInvalid
  return { changePassword now db g.userId hash unseen with
    resetGrants := db.resetGrants.modify (fun _ g => g.publicId = grantPublicId)
      fun g => { g with consumedAt := some now } }

/-! ### Sessions -/

/-- `identity.User` as a request has read it: as much of it as a session needs. -/
structure KnownUser where
  id : ℕ
  authVersion : ℕ
deriving DecidableEq

/-- The random values that a request may draw. -/
structure Draws where
  token : String
  csrf : String
  publicId : String

/-- `CreateUserSession`, with the expiry that `issueSession` computes. -/
def createUserSession (config : AuthConfig) (now : Time) (db : Accounts) (user : KnownUser)
    (level : AssuranceLevel) (draws : Draws) : Except Err Accounts := do
  require (¬ db.sessions.Any fun _ s => s.publicId = draws.publicId ∨
    s.tokenHash = sha256 draws.token) .uniqueViolation
  require (db.users.lookup user.id ≠ none) .database
  return { db with
    sessions := db.sessions.insert
      { publicId := draws.publicId
        tokenHash := sha256 draws.token
        userId := user.id
        csrfHash := sha256 draws.csrf
        expiresAt := now + config.sessionTTL
        idleExpiresAt := now + config.sessionIdleTTL
        authVersion := user.authVersion
        assuranceLevel := level
        lastSeenAt := now
        revokedAt := none } }

/-- What `UserSession` asks of a session. -/
def AuthSession.Valid (now : Time) (db : Accounts) (s : AuthSession) : Prop :=
  s.revokedAt = none ∧ now < s.expiresAt ∧ now < s.idleExpiresAt ∧
    ∃ u ∈ db.users.lookup s.userId, u.status = .active ∧ u.authVersion = s.authVersion
deriving Decidable

/-- The row of a session that was used. -/
def AuthSession.seen (now idleTTL : Time) (s : AuthSession) : AuthSession :=
  if s.lastSeenAt + 60 ≤ now then
    { s with lastSeenAt := now, idleExpiresAt := min s.expiresAt (now + idleTTL) }
  else s

/-- `UserSession`: the session of a token, and the user it is of. -/
def userSession (now : Time) (db : Accounts) (tokenHash : Digest) (idleTTL : Time) :
    Except Err ((ℕ × AuthSession) × Accounts) := do
  let found ← expect
    (db.sessions.first fun _ s => s.tokenHash = tokenHash ∧ s.Valid now db) .sessionInvalid
  return (found, { db with
    sessions := db.sessions.modify (fun i _ => i = found.1) (·.seen now idleTTL) })

/-! ### Challenges and second factors -/

/-- `UserMFAStatus`, as far as a login looks at it. -/
def totpEnabled (db : Accounts) (userId : ℕ) : Bool :=
  decide (db.totpCredentials.Any fun _ c => c.userId = userId)

/-- `CreateAuthenticationChallenge`. A new enrollment consumes those that are open, but the
statement does not see the ones that are being inserted at the same time. -/
def createAuthenticationChallenge (now : Time) (db : Accounts) (challengeHash : Digest)
    (userId : ℕ) (kind : ChallengeKind) (payload : Option (String × ℕ)) (expiresAt : Time)
    (unseen : List ℕ) : Except Err Accounts := do
  let challenges := if kind = .totpEnrollment then
      db.challenges.modify (fun i c => i ∉ unseen ∧ c.userId = userId ∧
        c.kind = .totpEnrollment ∧ c.consumedAt = none) fun c => { c with consumedAt := some now }
    else db.challenges
  require (db.users.lookup userId ≠ none) .database
  require (¬ challenges.Any fun _ c => c.challengeHash = challengeHash) .uniqueViolation
  return { db with
    challenges := challenges.insert ⟨challengeHash, userId, kind, payload, 0, expiresAt, none⟩ }

/-- What `AuthenticationChallenge` asks of a challenge. -/
def AuthenticationChallenge.Open (now : Time) (db : Accounts) (kind : ChallengeKind)
    (c : AuthenticationChallenge) : Prop :=
  c.kind = kind ∧ c.consumedAt = none ∧ now < c.expiresAt ∧ c.attempts < 5 ∧
    ∃ u ∈ db.users.lookup c.userId, u.status = .active
deriving Decidable

/-- `AuthenticationChallenge`: the challenge, and its user as they are now. -/
def authenticationChallenge (now : Time) (db : Accounts) (challengeHash : Digest)
    (kind : ChallengeKind) : Option (ℕ × KnownUser) := do
  let (i, c) ← db.challenges.first fun _ c => c.challengeHash = challengeHash ∧ c.Open now db kind
  let u ← db.users.lookup c.userId
  return (i, ⟨c.userId, u.authVersion⟩)

/-- `RecordAuthenticationChallengeFailure`. -/
def recordAuthenticationChallengeFailure (now : Time) (db : Accounts) (challengeId : ℕ) :
    Accounts :=
  { db with
    challenges := db.challenges.modify (fun i _ => i = challengeId) fun c =>
      { c with
        attempts := min (c.attempts + 1) 5
        consumedAt := if 5 ≤ c.attempts + 1 then some now else c.consumedAt } }

/-- `TOTPCredential`. -/
def totpCredential (db : Accounts) (userId : ℕ) : Option TOTPCredential :=
  (db.totpCredentials.first fun _ c => c.userId = userId).map Prod.snd

/-- The guard of the updates that consume a challenge. -/
def Consumable (now : Time) (kind : ChallengeKind) (challengeId userId i : ℕ)
    (c : AuthenticationChallenge) : Prop :=
  i = challengeId ∧ c.userId = userId ∧ c.kind = kind ∧ c.consumedAt = none ∧ now < c.expiresAt
deriving Decidable

/-- The update that consumes a challenge. -/
def consumeChallenge (now : Time) (db : Accounts) (kind : ChallengeKind)
    (challengeId userId : ℕ) : Except Err (Table AuthenticationChallenge) := do
  require (db.challenges.Any (Consumable now kind challengeId userId)) .conflict
  return db.challenges.modify (Consumable now kind challengeId userId)
    fun c => { c with consumedAt := some now }

/-- `INSERT INTO totp_credentials … ON CONFLICT(user_id) DO UPDATE`. -/
def upsertTOTPCredential (db : Accounts) (userId : ℕ) (reference : String) (version : ℕ) :
    Table TOTPCredential :=
  if totpEnabled db userId then
    db.totpCredentials.modify (fun _ c => c.userId = userId)
      fun c => { c with
        secretReference := reference, secretVersion := version, lastUsedStep := 0 }
  else db.totpCredentials.insert ⟨userId, reference, version, 0⟩

/-- The recovery codes of a user, replaced by those given. -/
def replaceRecoveryCodes (db : Accounts) (userId : ℕ) (codeHashes : List Digest) :
    Table RecoveryCode :=
  codeHashes.foldl (fun t hash => t.insert ⟨userId, hash, none⟩)
    (db.recoveryCodes.delete fun _ c => c.userId = userId)

/-- `EnableTOTP`. -/
def enableTOTP (now : Time) (db : Accounts) (challengeId userId : ℕ) (reference : String)
    (version : ℕ) (codeHashes : List Digest) : Except Err Accounts := do
  let challenges ← consumeChallenge now db .totpEnrollment challengeId userId
  require (0 < version) .database
  return { db with
    challenges := challenges
    totpCredentials := upsertTOTPCredential db userId reference version
    recoveryCodes := replaceRecoveryCodes db userId codeHashes }

/-- The guard of the update that uses up a step. -/
def StepUnused (userId step : ℕ) (c : TOTPCredential) : Prop :=
  c.userId = userId ∧ c.lastUsedStep < step
deriving Decidable

/-- `CompleteTOTPChallenge`. Neither the secret nor its version is compared. -/
def completeTOTPChallenge (now : Time) (db : Accounts) (challengeId userId step : ℕ) :
    Except Err Accounts := do
  require (db.totpCredentials.Any fun _ c => StepUnused userId step c) .conflict
  let challenges ← consumeChallenge now db .login challengeId userId
  return { db with
    challenges := challenges
    totpCredentials := db.totpCredentials.modify (fun _ c => StepUnused userId step c)
      fun c => { c with lastUsedStep := step } }

/-- `CompleteRecoveryChallenge`, with the code that is used up. -/
def completeRecoveryChallenge (now : Time) (db : Accounts) (challengeId userId : ℕ)
    (codeHash : Digest) : Except Err (Accounts × ℕ) := do
  let (codeId, _) ← expect (db.recoveryCodes.first fun _ c => c.userId = userId ∧
    c.codeHash = codeHash ∧ c.usedAt = none) .notFound
  let challenges ← consumeChallenge now db .login challengeId userId
  return ({ db with
    challenges := challenges
    recoveryCodes := db.recoveryCodes.modify (fun i _ => i = codeId)
      fun c => { c with usedAt := some now } }, codeId)

/-- `DisableTOTP`. -/
def disableTOTP (now : Time) (db : Accounts) (userId : ℕ) (unseen : List ℕ) :
    Except Err Accounts := do
  require (totpEnabled db userId) .notFound
  return { db with
    totpCredentials := db.totpCredentials.delete fun _ c => c.userId = userId
    recoveryCodes := db.recoveryCodes.delete fun _ c => c.userId = userId
    users := db.updateUser userId User.revoked
    sessions := db.revokeSessions now userId unseen }

/-- `validTOTPStep`: of the steps around the present one the first whose code it is. -/
def validTOTPStep (config : AuthConfig) (secret code : String) (now : Time) : Option ℕ :=
  [now / 30 - 1, now / 30, now / 30 + 1].find? fun step => config.generateCode secret step = code

/-! ### Requests -/

/-- The second factor that a request has found valid: a step of the enrollment that was in force, or
a recovery code. -/
inductive Factor
  | totp (enrollment step : ℕ)
  | recovery (codeHash : Digest)

/-- Where a request is. From the check of the password on it has the user, as it has read them, and
the hash that the password was checked against. -/
inductive Request
  | idle
  /-- `login` has checked the password. -/
  | passwordChecked (user : KnownUser) (checked : String)
  /-- It has found a second factor. -/
  | challenging (user : KnownUser) (checked : String)
  /-- `CompleteTOTPLogin` has read the challenge. -/
  | challengeFound (challengeId : ℕ) (user : KnownUser) (checked code : String)
  /-- It has read the credential, in the enrollment of that number. -/
  | credentialFound (challengeId : ℕ) (user : KnownUser) (checked code : String)
      (credential : TOTPCredential) (enrollment : ℕ)
  /-- It has found the code valid, or left that to the database. -/
  | completing (challengeId : ℕ) (user : KnownUser) (checked : String) (factor : Factor)
  /-- The code was refused. -/
  | refused (challengeId : ℕ)
  /-- `issueSession`, with the number of the accepted factor if there was one. -/
  | issuing (user : KnownUser) (level : AssuranceLevel) (checked : String)
      (acceptance : Option ℕ)

/-- A factor that was accepted, with the challenge it was accepted for. -/
inductive Acceptance
  | totp (challengeId userId enrollment step : ℕ)
  | recovery (challengeId codeId : ℕ)
deriving DecidableEq

/-- What a session rests on: the hash that the password was checked against, and a factor. -/
structure Issue where
  checked : String
  acceptance : Option ℕ
deriving DecidableEq

/-- What is recorded besides the tables. -/
structure Trail where
  /-- The hash behind each login challenge. -/
  origin : ℕ → Option String
  /-- How often each user has enrolled. -/
  enrollments : ℕ → ℕ
  /-- The factors in the order in which they were accepted. -/
  accepted : Table Acceptance
  /-- What each session rests on. -/
  issued : ℕ → Option Issue

/-- The state of authentication. -/
structure AuthState where
  now : Time
  db : Accounts
  /-- `authenticationSecrets`. -/
  secrets : VersionedMap String String
  requests : ℕ → Request
  trail : Trail

/-- One step. -/
inductive AuthAction
  /-- Time passes. -/
  | tick (seconds : ℕ)
  /-- `login`, up to the check of the password. -/
  | login (request : ℕ) (username password : String)
  /-- `CompleteTOTPLogin`, up to the challenge. -/
  | completeTOTPLogin (request : ℕ) (challengeToken code : String)
  /-- The next transaction of a request. -/
  | proceed (request : ℕ) (draws : Draws)
  /-- A request ends where it is. -/
  | abandon (request : ℕ)
  | changePassword (userId : ℕ) (hash : String) (unseen : List ℕ)
  | setUserStatus (publicId : String) (status : UserStatus) (version : ℕ) (governed : Bool)
      (unseen : List ℕ)
  | createPasswordResetGrant (publicId : String) (userId : ℕ) (codeHash : Digest)
      (expiresAt : Time) (unseen : List ℕ)
  | verifyPasswordResetGrant (username : String) (codeHash : Digest)
  | completePasswordReset (username grantPublicId hash : String) (unseen : List ℕ)
  /-- A secret is written or deleted by an enrollment. -/
  | putSecret (reference secret : String) (cas : ℕ)
  | deleteSecret (reference : String)
  /-- `BeginTOTPEnrollment` creates its challenge. -/
  | createEnrollment (userId : ℕ) (challengeToken reference : String) (version : ℕ)
      (unseen : List ℕ)
  | enableTOTP (challengeId userId : ℕ) (reference : String) (version : ℕ)
      (codeHashes : List Digest)
  | disableTOTP (userId : ℕ) (unseen : List ℕ)
  | userSession (token : String)

/-! ### Steps -/

namespace AuthState

variable (config : AuthConfig) (s : AuthState)

/-- The request goes on from there. -/
def setRequest (r : ℕ) (q : Request) : AuthState :=
  { s with requests := Function.update s.requests r q }

/-- A transaction of its own. -/
def transact (x : Except Err Accounts) : AuthState := { s with db := commit s.db x }

/-- `login`, up to the check of the password. -/
def login (r : ℕ) (username password : String) : AuthState :=
  match s.db.authenticateUser username with
  | some (i, u, hash) =>
    if config.verifyPassword password hash = true ∧ u.status = .active then
      s.setRequest r (.passwordChecked ⟨i, u.authVersion⟩ hash)
    else s.setRequest r .idle
  | none => s.setRequest r .idle

/-- `CompleteTOTPLogin`, up to the challenge. The user is read with the challenge. -/
def completeTOTPLogin (r : ℕ) (challengeToken code : String) : AuthState :=
  match authenticationChallenge s.now s.db (sha256 challengeToken) .login with
  | some (i, user) =>
    s.setRequest r (.challengeFound i user ((s.trail.origin i).getD "") code)
  | none => s.setRequest r .idle

/-- What becomes of a request that has the credential. A code with a hyphen is a recovery code;
otherwise the secret is read and the code compared. -/
def compare (challengeId : ℕ) (user : KnownUser) (checked code : String)
    (credential : TOTPCredential) (enrollment : ℕ) : Request :=
  if '-' ∈ code.toList then
    .completing challengeId user checked (.recovery (config.hashResetCode code))
  else
    match s.secrets.get credential.secretReference credential.secretVersion with
    | none => .idle
    | some secret =>
      match validTOTPStep config secret code s.now with
      | some step =>
        if step ≤ credential.lastUsedStep then .refused challengeId
        else .completing challengeId user checked (.totp enrollment step)
      | none => .refused challengeId

/-- The transaction that accepts a factor. -/
def accept (challengeId : ℕ) (user : KnownUser) : Factor → Except Err (Accounts × Acceptance)
  | .totp enrollment step => do
    let db ← completeTOTPChallenge s.now s.db challengeId user.id step
    return (db, .totp challengeId user.id enrollment step)
  | .recovery codeHash => do
    let (db, codeId) ← completeRecoveryChallenge s.now s.db challengeId user.id codeHash
    return (db, .recovery challengeId codeId)

/-- The next transaction of a request. -/
def proceed (r : ℕ) (draws : Draws) : AuthState :=
  match s.requests r with
  | .idle => s
  | .passwordChecked user checked =>
    if totpEnabled s.db user.id then s.setRequest r (.challenging user checked)
    else s.setRequest r (.issuing user .aal1 checked none)
  | .challenging user checked =>
    match createAuthenticationChallenge s.now s.db (sha256 draws.token) user.id .login none
        (s.now + 300) [] with
    | .ok db =>
      { s with
        db := db
        trail := { s.trail with
          origin := Function.update s.trail.origin s.db.challenges.nextId (some checked) }
      }.setRequest r .idle
    | .error _ => s.setRequest r .idle
  | .challengeFound challengeId user checked code =>
    match totpCredential s.db user.id with
    | some credential => s.setRequest r
        (.credentialFound challengeId user checked code credential (s.trail.enrollments user.id))
    | none => s.setRequest r .idle
  | .credentialFound challengeId user checked code credential enrollment =>
    s.setRequest r (s.compare config challengeId user checked code credential enrollment)
  | .completing challengeId user checked factor =>
    match s.accept challengeId user factor with
    | .ok (db, acceptance) =>
      { s with
        db := db
        trail := { s.trail with accepted := s.trail.accepted.insert acceptance }
      }.setRequest r (.issuing user .aal2 checked (some s.trail.accepted.nextId))
    | .error _ => s.setRequest r (.refused challengeId)
  | .refused challengeId =>
    { s with db := recordAuthenticationChallengeFailure s.now s.db challengeId }.setRequest r .idle
  | .issuing user level checked acceptance =>
    match createUserSession config s.now s.db user level draws with
    | .ok db =>
      { s with
        db := db
        trail := { s.trail with
          issued := Function.update s.trail.issued s.db.sessions.nextId
            (some ⟨checked, acceptance⟩) }
      }.setRequest r .idle
    | .error _ => s.setRequest r .idle

/-- `EnableTOTP`. -/
def enable (challengeId userId : ℕ) (reference : String) (version : ℕ)
    (codeHashes : List Digest) : AuthState :=
  match enableTOTP s.now s.db challengeId userId reference version codeHashes with
  | .ok db =>
    { s with
      db := db
      trail := { s.trail with
        enrollments := Function.update s.trail.enrollments userId
          (s.trail.enrollments userId + 1) } }
  | .error _ => s

/-- One step. -/
def step : AuthAction → AuthState
  | .tick seconds => { s with now := s.now + seconds }
  | .login r username password => s.login config r username password
  | .completeTOTPLogin r challengeToken code => s.completeTOTPLogin r challengeToken code
  | .proceed r draws => s.proceed config r draws
  | .abandon r => s.setRequest r .idle
  | .changePassword userId hash unseen =>
    { s with db := Identity.changePassword s.now s.db userId hash unseen }
  | .setUserStatus publicId status version governed unseen =>
    s.transact (setAccountStatus s.now s.db publicId status version governed unseen)
  | .createPasswordResetGrant publicId userId codeHash expiresAt unseen => s.transact
      (Identity.createPasswordResetGrant s.now s.db publicId userId codeHash expiresAt unseen)
  | .verifyPasswordResetGrant username codeHash =>
    s.transact (Identity.verifyPasswordResetGrant s.now s.db username codeHash)
  | .completePasswordReset username grantPublicId hash unseen =>
    s.transact (Identity.completePasswordReset s.now s.db username grantPublicId hash unseen)
  | .putSecret reference secret cas =>
    match s.secrets.put reference secret cas with
    | some (_, secrets) => { s with secrets := secrets }
    | none => s
  | .deleteSecret reference => { s with secrets := s.secrets.delete reference }
  | .createEnrollment userId challengeToken reference version unseen =>
    s.transact (createAuthenticationChallenge s.now s.db (sha256 challengeToken) userId
      .totpEnrollment (some (reference, version)) (s.now + 300) unseen)
  | .enableTOTP challengeId userId reference version codeHashes =>
    s.enable challengeId userId reference version codeHashes
  | .disableTOTP userId unseen => s.transact (Identity.disableTOTP s.now s.db userId unseen)
  | .userSession token =>
    match Identity.userSession s.now s.db (sha256 token) config.sessionIdleTTL with
    | .ok (_, db) => { s with db := db }
    | .error _ => s

/-- What a run starts from: users with or without second factors, but nobody has logged in. -/
structure Initial : Prop where
  sessions : s.db.sessions = .empty
  challenges : s.db.challenges = .empty
  requests : ∀ r, s.requests r = .idle
  accepted : s.trail.accepted = .empty
  issued : ∀ i, s.trail.issued i = none

@[simp] theorem requests_setRequest_self (r : ℕ) (q : Request) :
    (s.setRequest r q).requests r = q := by
  simp only [setRequest, Function.update_self]

theorem requests_setRequest_of_ne {r r' : ℕ} (q : Request) (h : r' ≠ r) :
    (s.setRequest r q).requests r' = s.requests r' := by
  simp only [setRequest, Function.update_of_ne h]

end AuthState

/-! ### A small installation -/

/-- A server for examples: a password is its own hash, and a secret is its own code, in the step
of the second minute. -/
def smallConfig : AuthConfig where
  verifyPassword password hash := decide (password = hash)
  hashResetCode := sha256
  generateCode secret step := if step = 2 then secret else ""
  sessionTTL := 3600
  sessionIdleTTL := 1800

/-- One user, without a second factor. -/
def smallAccounts : AuthState where
  now := 60
  db :=
    { users := Table.empty.insert ⟨"usr-one", "user", "User", .active, 1, 1⟩
      passwords := Table.empty.insert ⟨1, "first"⟩
      sessions := .empty
      challenges := .empty
      totpCredentials := .empty
      recoveryCodes := .empty
      resetGrants := .empty }
  secrets := .empty
  requests := fun _ => .idle
  trail :=
    { origin := fun _ => none
      enrollments := fun _ => 0
      accepted := .empty
      issued := fun _ => none }

theorem smallAccounts_initial : smallAccounts.Initial where
  sessions := rfl
  challenges := rfl
  requests _ := rfl
  accepted := rfl
  issued _ := rfl

/-- The user enrolls a second factor. -/
def enrolling : List AuthAction :=
  [.putSecret "totp" "code" 0, .createEnrollment 1 "enrollment" "totp" 1 [],
    .enableTOTP 1 1 "totp" 1 []]

/-- A request checks the password and creates a challenge. -/
def loggingIn (r : ℕ) (token : String) : List AuthAction :=
  [.login r "user" "first", .proceed r ⟨"", "", ""⟩, .proceed r ⟨token, "", ""⟩]

/-- A request presents a challenge and a code, up to where the code has been found valid. -/
def presenting (r : ℕ) (token : String) : List AuthAction :=
  [.completeTOTPLogin r token "code", .proceed r ⟨"", "", ""⟩, .proceed r ⟨"", "", ""⟩]

/-- The factor is accepted and a session issued. -/
def finishing (r : ℕ) (session : String) : List AuthAction :=
  [.proceed r ⟨"", "", ""⟩, .proceed r ⟨session, "csrf", session⟩]

end Molejo.Identity
