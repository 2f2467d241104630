import Molejo.Lib.Keyed
import Molejo.Lib.ReadCommitted
import Molejo.Store.Basic

/-!
# Users, administrators and members

A user of an installation is `Invited`, and becomes `Active` by accepting the invitation. An
administrator may disable, lock and activate users, make them administrators of the
installation, and give them a role in a workspace. Six methods of the store do this. They are
modelled here statement by statement, as `ReadCommitted.Script`s, because what matters about
them is what can happen *between* their statements: the four methods that can take something
away first take the advisory lock of `lockIdentityGovernance` and read only then, and the two
that only add, `createInvitedUser` and `acceptUserInvitation`, take no lock.

A statement that reads `FOR UPDATE` reads here without locking the row. So the interleavings of
the model are those of the database and more. A write stands at the commit of its
transaction, where others begin to see it.
-/

namespace Molejo.Identity

open ReadCommitted Script

/-! ### Rows -/

/-- `identity.Status…`. -/
inductive UserStatus
  | invited
  | active
  | disabled
  | locked
deriving DecidableEq

/-- A row of `users`. -/
structure User where
  publicId : String
  username : String
  displayName : String
  status : UserStatus
  version : ℕ
  authVersion : ℕ
deriving DecidableEq

/-- The table `users`, with its unique public ids. -/
structure Users where
  table : Table User
  unique : Table.KeyUnique User.publicId table

/-- The roles that an installation assigns; there is one. -/
inductive InstallationRole
  | administrator
deriving DecidableEq

/-- A row of `installation_role_assignments`. -/
structure RoleAssignment where
  userId : ℕ
  role : InstallationRole
deriving DecidableEq

/-- `authorization.Role…`. -/
inductive WorkspaceRole
  | owner
  | member
  | viewer
deriving DecidableEq

/-- The status of a membership. -/
inductive MembershipStatus
  | active
  | suspended
deriving DecidableEq

/-- A row of `workspace_memberships`. -/
structure Membership where
  workspaceId : ℕ
  userId : ℕ
  role : WorkspaceRole
  status : MembershipStatus
  version : ℕ
deriving DecidableEq

/-- The unique key of a membership. -/
def Membership.key (m : Membership) : ℕ × ℕ := (m.workspaceId, m.userId)

/-- The table `workspace_memberships`, with one membership for each user of a workspace. -/
structure Memberships where
  table : Table Membership
  unique : Table.KeyUnique Membership.key table

/-- A row of `user_invitations`. -/
structure UserInvitation where
  publicId : String
  userId : ℕ
  tokenHash : Digest
  expiresAt : Time
  acceptedAt : Option Time
  revokedAt : Option Time
  createdByUserId : ℕ
deriving DecidableEq

/-- A row of `password_credentials`. -/
structure PasswordCredential where
  userId : ℕ
  passwordHash : String
deriving DecidableEq

/-- A row of `sessions`. -/
structure LoginSession where
  userId : ℕ
  revokedAt : Option Time
deriving DecidableEq

/-- The tables that the six methods read and write. -/
structure Directory where
  /-- The ids of the workspaces. -/
  workspaces : List ℕ
  users : Users
  roleAssignments : Table RoleAssignment
  memberships : Memberships
  invitations : Table UserInvitation
  passwords : Table PasswordCredential
  sessions : Table LoginSession

/-! ### Statements -/

/-- `INSERT INTO users`. A violated index is named `users_public_id_unique` or
`users_username_key_unique`, and `translateUserManagementDBError` knows neither name. -/
def Users.insert (u : User) (t : Users) : Except Err Users :=
  if h : t.table.find User.publicId u.publicId = none then
    if t.table.find User.username u.username = none then
      .ok ⟨t.table.insert u, Table.keyUnique_insert t.unique h⟩
    else .error .conflict
  else .error .conflict

/-- The `SET` of an update of `users`. No method changes a public id. -/
structure UserUpdate where
  apply : User → User
  keeps : ∀ u, (apply u).publicId = u.publicId

/-- `UPDATE users … WHERE id = userId`. -/
def Users.update (t : Users) (userId : ℕ) (f : UserUpdate) : Users where
  table := t.table.modify (fun i _ => i = userId) f.apply
  unique := Table.keyUnique_modify t.unique f.keeps

/-- `SET status, version = version + 1, auth_version = auth_version + 1`. -/
def UserUpdate.status (status : UserStatus) : UserUpdate where
  apply u := { u with
    status := status, version := u.version + 1, authVersion := u.authVersion + 1 }
  keeps _ := rfl

/-- `SET version = version + 1, auth_version = auth_version + 1`. -/
def UserUpdate.version : UserUpdate where
  apply u := { u with version := u.version + 1, authVersion := u.authVersion + 1 }
  keeps _ := rfl

/-- `INSERT INTO workspace_memberships`, with the translated error. -/
def Memberships.insert (m : Membership) (t : Memberships) : Except Err Memberships :=
  if h : t.table.find Membership.key m.key = none then
    .ok ⟨t.table.insert m, Table.keyUnique_insert t.unique h⟩
  else .error .conflict

section Where

variable (t : Memberships) (p : ℕ → Membership → Prop) [∀ i m, Decidable (p i m)]

/-- `UPDATE workspace_memberships SET role, status, version`. -/
def Memberships.update (role : WorkspaceRole) (status : MembershipStatus) : Memberships where
  table := t.table.modify p fun m =>
    { m with role := role, status := status, version := m.version + 1 }
  unique := Table.keyUnique_modify t.unique fun _ => rfl

/-- `DELETE FROM workspace_memberships`. -/
def Memberships.delete : Memberships where
  table := t.table.delete p
  unique := Table.keyUnique_delete t.unique

end Where

namespace Directory

variable (d : Directory)

/-- `UPDATE sessions SET revoked_at=now() WHERE user_id=$1 AND revoked_at IS NULL`. -/
def revokeSessions (now : Time) (userId : ℕ) : Table LoginSession :=
  d.sessions.modify (fun _ s => s.userId = userId ∧ s.revokedAt = none)
    fun s => { s with revokedAt := some now }

/-- `SELECT EXISTS(SELECT 1 FROM installation_role_assignments WHERE user_id=$1 …)`. -/
def isAdministrator (userId : ℕ) : Bool :=
  decide (d.roleAssignments.Any fun _ r => r.userId = userId ∧ r.role = .administrator)

/-- `hasAnotherActiveAdministrator`. -/
def hasAnotherActiveAdministrator (excludedUserId : ℕ) : Bool :=
  decide (d.roleAssignments.Any fun _ r => r.role = .administrator ∧
    d.users.table.Any fun i u => i = r.userId ∧ u.status = .active ∧ i ≠ excludedUserId)

/-- `hasAnotherActiveWorkspaceOwner`. -/
def hasAnotherActiveWorkspaceOwner (workspaceId excludedUserId : ℕ) : Bool :=
  decide (d.memberships.table.Any fun _ m => m.workspaceId = workspaceId ∧
    m.userId ≠ excludedUserId ∧ m.role = .owner ∧ m.status = .active ∧
    d.users.table.Any fun i u => i = m.userId ∧ u.status = .active)

/-- `wouldOrphanOwnedWorkspace`; the condition under its `NOT EXISTS` is that of
`hasAnotherActiveWorkspaceOwner`. -/
def wouldOrphanOwnedWorkspace (userId : ℕ) : Bool :=
  decide (d.memberships.table.Any fun _ owned =>
    owned.userId = userId ∧ owned.role = .owner ∧ owned.status = .active ∧
    ¬ d.hasAnotherActiveWorkspaceOwner owned.workspaceId userId)

end Directory

/-! ### Methods -/

/-- What a method does up to its commit. -/
abbrev Method := Script Directory Err (Write Directory Err)

/-- `lockIdentityGovernance`. -/
def lockIdentityGovernance : Script Directory Err Unit := acquire

/-- `identity.CanAdministrativelyTransition`. -/
def canAdministrativelyTransition (current next : UserStatus) : Bool :=
  next ≠ .invited && current ≠ .invited

/-- What `SetUserStatus` checks before it takes the status `Active` from a user. -/
def checkDeactivation (userId : ℕ) : Script Directory Err Unit := do
  let administrator ← query fun d => d.isAdministrator userId
  if administrator then
    let hasAnother ← query fun d => d.hasAnotherActiveAdministrator userId
    require hasAnother .governanceInvariant
  let orphaned ← query fun d => d.wouldOrphanOwnedWorkspace userId
  require (¬ orphaned) .governanceInvariant

/-- `SetUserStatus`. -/
def setUserStatus (now : Time) (publicId : String) (status : UserStatus) (version : ℕ) :
    Method := do
  lockIdentityGovernance
  let found ← query fun d => d.users.table.first fun _ u => u.publicId = publicId ∧
    u.version = version
  let (userId, user) ← expect found .versionConflict
  require (canAdministrativelyTransition user.status status) .conflict
  if user.status = .active ∧ status ≠ .active then
    checkDeactivation userId
  return fun d =>
    .ok { d with
      users := d.users.update userId (.status status)
      sessions := if status = .active then d.sessions else d.revokeSessions now userId }

/-- What `SetInstallationAdministrator` writes. -/
def writeAdministrator (now : Time) (userId : ℕ) (administrator : Bool) :
    Write Directory Err := fun d => do
  if administrator then
    Transaction.require (¬ d.roleAssignments.Any fun _ r => r = ⟨userId, .administrator⟩)
      .uniqueViolation
  return { d with
    roleAssignments :=
      if administrator then d.roleAssignments.insert ⟨userId, .administrator⟩
      else d.roleAssignments.delete fun _ r => r.userId = userId ∧ r.role = .administrator
    users := d.users.update userId .version
    sessions := d.revokeSessions now userId }

/-- `SetInstallationAdministrator`. -/
def setInstallationAdministrator (now : Time) (publicId : String) (administrator : Bool)
    (version : ℕ) : Method := do
  lockIdentityGovernance
  let found ← query fun d =>
    (d.users.table.first fun _ u => u.publicId = publicId ∧ u.version = version).map
      fun (i, u) => (i, u.status, d.isAdministrator i)
  let (userId, status, current) ← expect found .versionConflict
  -- Nothing to do: the transaction is left without a write.
  if current = administrator then
    return .ok
  if current ∧ status = .active then
    let allowed ← query fun d => d.hasAnotherActiveAdministrator userId
    require allowed .governanceInvariant
  return writeAdministrator now userId administrator

/-- The `INSERT` of `PutWorkspaceMembership`. -/
def insertMembership (workspaceId userId : ℕ) (role : WorkspaceRole)
    (status : MembershipStatus) : Write Directory Err := fun d => do
  let memberships ← d.memberships.insert ⟨workspaceId, userId, role, status, 1⟩
  Transaction.require (workspaceId ∈ d.workspaces) .database
  return { d with memberships := memberships }

/-- The `UPDATE` of `PutWorkspaceMembership`. -/
def updateMembership (workspaceId userId : ℕ) (role : WorkspaceRole)
    (status : MembershipStatus) (version : ℕ) : Write Directory Err := fun d => do
  let affected := (d.memberships.table.select fun _ m => m.workspaceId = workspaceId ∧
    m.userId = userId ∧ m.version = version).length
  Transaction.require (affected = 1) .versionConflict
  return { d with
    memberships := d.memberships.update (fun _ m => m.workspaceId = workspaceId ∧
      m.userId = userId ∧ m.version = version) role status }

/-- `PutWorkspaceMembership`. -/
def putWorkspaceMembership (workspaceId : ℕ) (userPublicId : String) (role : WorkspaceRole)
    (status : MembershipStatus) (expectedVersion : Option ℕ) : Method := do
  lockIdentityGovernance
  let found ← query fun d => d.users.table.first fun _ u => u.publicId = userPublicId
  let (userId, user) ← expect found .notFound
  match expectedVersion with
  | none =>
    require (user.status = .active) .conflict
    return insertMembership workspaceId userId role status
  | some version =>
    let found ← query fun d => d.memberships.table.first fun _ m =>
      m.workspaceId = workspaceId ∧ m.userId = userId ∧ m.version = version
    let (_, current) ← expect found .versionConflict
    if current.role = .owner ∧ current.status = .active ∧ (role ≠ .owner ∨ status ≠ .active) then
      let hasAnother ← query fun d => d.hasAnotherActiveWorkspaceOwner workspaceId userId
      require hasAnother .governanceInvariant
    return updateMembership workspaceId userId role status version

/-- The `DELETE` of `DeleteWorkspaceMembership`, which finds the user once more. -/
def removeMembership (workspaceId : ℕ) (userPublicId : String) :
    Write Directory Err := fun d => do
  let affected := (d.memberships.table.select fun _ m => m.workspaceId = workspaceId ∧
    d.users.table.Any fun i u => i = m.userId ∧ u.publicId = userPublicId).length
  Transaction.require (affected = 1) .notFound
  return { d with
    memberships := d.memberships.delete fun _ m => m.workspaceId = workspaceId ∧
      d.users.table.Any fun i u => i = m.userId ∧ u.publicId = userPublicId }

/-- `DeleteWorkspaceMembership`. -/
def deleteWorkspaceMembership (workspaceId : ℕ) (userPublicId : String) : Method := do
  lockIdentityGovernance
  let found ← query fun d => d.memberships.table.first fun _ m => m.workspaceId = workspaceId ∧
    d.users.table.Any fun i u => i = m.userId ∧ u.publicId = userPublicId
  let (_, m) ← expect found .notFound
  if m.role = .owner ∧ m.status = .active then
    let hasAnother ← query fun d => d.hasAnotherActiveWorkspaceOwner workspaceId m.userId
    require hasAnother .governanceInvariant
  return removeMembership workspaceId userPublicId

/-- The user that `CreateInvitedUser` creates. -/
structure NewUser where
  publicId : String
  username : String
  displayName : String

/-- The `UserInvitation` that a method is given. -/
structure NewInvitation where
  publicId : String
  tokenHash : Digest
  expiresAt : Time

/-- `CreateInvitedUser`. -/
def createInvitedUser (user : NewUser) (installationAdmin : Bool) (invitation : NewInvitation)
    (createdByUserId : ℕ) : Method :=
  return fun d => do
    let userId := d.users.table.nextId
    let users ← d.users.insert ⟨user.publicId, user.username, user.displayName, .invited, 1, 1⟩
    -- The id of the user is new, so that this cannot violate an index of its own.
    let roleAssignments := if installationAdmin then
      d.roleAssignments.insert ⟨userId, .administrator⟩ else d.roleAssignments
    Transaction.require (¬ d.invitations.Any fun _ v => v.publicId = invitation.publicId ∨
      v.tokenHash = invitation.tokenHash) .publicIDCollision
    Transaction.require (users.table.lookup createdByUserId).isSome .database
    return { d with
      users := users
      roleAssignments := roleAssignments
      invitations := d.invitations.insert ⟨invitation.publicId, userId, invitation.tokenHash,
        invitation.expiresAt, none, none, createdByUserId⟩ }

/-- What `AcceptUserInvitation` writes. -/
def writeAcceptance (now : Time) (invitationId userId : ℕ) (passwordHash : String) :
    Write Directory Err := fun d => do
  Transaction.require (¬ d.passwords.Any fun _ c => c.userId = userId) .conflict
  Transaction.require (d.users.table.lookup userId).isSome .database
  return { d with
    passwords := d.passwords.insert ⟨userId, passwordHash⟩
    users := d.users.update userId (.status .active)
    invitations := d.invitations.modify (fun i _ => i = invitationId)
      fun v => { v with acceptedAt := some now } }

/-- `AcceptUserInvitation`. -/
def acceptUserInvitation (now : Time) (tokenHash : Digest) (passwordHash : String) : Method := do
  let found ← query fun d => d.invitations.first fun _ v => v.tokenHash = tokenHash ∧
    v.acceptedAt = none ∧ v.revokedAt = none ∧ now < v.expiresAt ∧
    d.users.table.Any fun i u => i = v.userId ∧ u.status = .invited
  let (invitationId, v) ← expect found .invitationInvalid
  return writeAcceptance now invitationId v.userId passwordHash

/-! ### The interleavings -/

/-- A call of one of the six methods, with the time of its transaction. -/
inductive Call
  | setUserStatus (now : Time) (publicId : String) (status : UserStatus) (version : ℕ)
  | setInstallationAdministrator (now : Time) (publicId : String) (administrator : Bool)
      (version : ℕ)
  | putWorkspaceMembership (workspaceId : ℕ) (userPublicId : String) (role : WorkspaceRole)
      (status : MembershipStatus) (expectedVersion : Option ℕ)
  | deleteWorkspaceMembership (workspaceId : ℕ) (userPublicId : String)
  | createInvitedUser (user : NewUser) (installationAdmin : Bool) (invitation : NewInvitation)
      (createdByUserId : ℕ)
  | acceptUserInvitation (now : Time) (tokenHash : Digest) (passwordHash : String)

/-- What a call does. -/
def Call.script : Call → Method
  | .setUserStatus now publicId status version =>
    Identity.setUserStatus now publicId status version
  | .setInstallationAdministrator now publicId administrator version =>
    Identity.setInstallationAdministrator now publicId administrator version
  | .putWorkspaceMembership workspaceId userPublicId role status expectedVersion =>
    Identity.putWorkspaceMembership workspaceId userPublicId role status expectedVersion
  | .deleteWorkspaceMembership workspaceId userPublicId =>
    Identity.deleteWorkspaceMembership workspaceId userPublicId
  | .createInvitedUser user installationAdmin invitation createdByUserId =>
    Identity.createInvitedUser user installationAdmin invitation createdByUserId
  | .acceptUserInvitation now tokenHash passwordHash =>
    Identity.acceptUserInvitation now tokenHash passwordHash

/-- What is committed after the events, on a directory on which no transaction was open. -/
def interleave (d : Directory) (events : List (Event Call)) : Directory :=
  (Transition.run (System.step Call.script) (System.idle d) events).store

end Molejo.Identity
