import Mathlib.Data.List.Sort
import Molejo.Lib.Table
import Molejo.Lib.Transition
import Molejo.Store.Basic

/-!
# Parameters in the store

A secret parameter lives in two places. The database keeps its path, its
description and one row per version; the values themselves are kept in a
versioned key–value store, and a version row only names the entry (its *secret
reference*) and the version of the entry that holds the value. Writing a new value
is therefore a *mutation* in three parts: a transaction that reserves the version
(`beginCreateSecretParameter`, `beginReplaceSecretParameter`), the write to the
key–value store, and a transaction that makes the version visible
(`completeSecretMutation`). A mutation whose write never came is undone by
`abandonSecretMutation`.

This file models the three tables and these transactions as the store has them.
What matters later is how a mutation is named. The `SecretMutation` handed out by
a reservation carries the parameter's identity and the version number it reserved
– not the identity of the row – and the two closing transactions look the row up by
that pair.

| Table | Constraints modelled |
|---|---|
| `parameters` | public id well formed and unique, one active parameter per path |
| `parameter_versions` | one row per version, one per idempotency key of a user, one pending per parameter |
| `parameter_path_reservations` | one per path, one per version |
-/

namespace Molejo.Parameters

open Transaction Table

variable {workspaceId actorId : ℕ} {key payload : Digest}

/-! ### Rows -/

/-- `domain.ParameterPlainText`, `domain.ParameterSecret`. -/
inductive Kind
  | plainText
  | secret
deriving DecidableEq

/-- The column `value_state` of parameters and of their versions. -/
inductive ValueState
  | pending
  | ready
  | purged
deriving DecidableEq

/-- The HMAC of a secret value under the installation's key, represented by the value. -/
structure Fingerprint where
  /-- The value fingerprinted. -/
  value : String
deriving DecidableEq

/-- `secretFingerprint`. -/
def secretFingerprint (value : String) : Fingerprint := ⟨value⟩

/-- A row of `parameters`. -/
structure Parameter where
  publicId : String
  workspaceId : ℕ
  path : String
  kind : Kind
  description : String
  currentVersion : ℕ
  version : ℕ
  valueState : ValueState
  archivedAt : Option Time
  purgeAfter : Option Time
  purgedAt : Option Time
deriving DecidableEq

/-- A row of `parameter_versions`. -/
structure ParameterVersion where
  parameterId : ℕ
  version : ℕ
  createdByUserId : ℕ
  plaintextValue : Option String
  secretReference : Option String
  secretBackendVersion : Option ℕ
  fingerprint : Option Fingerprint
  valueState : ValueState
  expectedSecretBackendVersion : Option ℕ
  idempotencyHash : Option Digest
  payloadHash : Option Digest
  requestedPath : Option String
  requestedDescription : Option String
  createdAt : Time
  completedAt : Option Time
deriving DecidableEq

/-- A row of `parameter_path_reservations`. -/
structure Reservation where
  workspaceId : ℕ
  path : String
  parameterId : ℕ
  parameterVersion : ℕ
deriving DecidableEq

/-- The tables of the parameter store. -/
structure Tables where
  workspaces : Table Workspace
  parameters : Table Parameter
  versions : Table ParameterVersion
  reservations : Table Reservation

/-- `domain.SecretMutation`. -/
structure SecretMutation where
  parameterId : ℕ
  parameterPublicId : String
  workspaceId : ℕ
  parameterVersion : ℕ
  resourceVersion : ℕ
  reference : String
  expectedBackendVersion : ℕ
  backendVersion : ℕ
  state : ValueState
  createdAt : Time
deriving DecidableEq

/-! ### Check constraints -/

/-- `public_id ~ '^par-[a-z2-7]{20}$'`. -/
def PublicIdValid (s : String) : Prop :=
  s.toList.take 4 = ['p', 'a', 'r', '-'] ∧ s.toList.length = 24 ∧
    ∀ c ∈ s.toList.drop 4, ('a' ≤ c ∧ c ≤ 'z') ∨ ('2' ≤ c ∧ c ≤ '7')
deriving Decidable

/-- The characters of a parameter path. -/
def pathChar (c : Char) : Bool :=
  c.isAlphanum || c == '.' || c == '_' || c == '/' || c == '-'

/-- `path ~ '^/[-a-zA-Z0-9._/]{1,254}$' AND path !~ '//'`. -/
def PathValid (s : String) : Prop :=
  s.toList.head? = some '/' ∧ 2 ≤ s.toList.length ∧ s.toList.length ≤ 255 ∧
    (∀ c ∈ s.toList, pathChar c = true) ∧ ¬ ['/', '/'] <:+: s.toList
deriving Decidable

/-- `char_length(description) <= 500`. -/
def DescriptionValid (s : String) : Prop := s.toList.length ≤ 500
deriving Decidable

/-- `char_length(secret_reference) BETWEEN 1 AND 512`. -/
def ReferenceValid (s : String) : Prop := 1 ≤ s.toList.length ∧ s.toList.length ≤ 512
deriving Decidable

/-! ### Insertions under the schema's constraints

A check is evaluated before the row enters any index, and the unique indexes are
consulted in the order in which the schema declares them. -/

/-- `INSERT INTO parameters`; returns the new identity. -/
def insertParameter (db : Tables) (row : Parameter) : Except Err (ℕ × Tables) := do
  require (PublicIdValid row.publicId ∧ PathValid row.path ∧ DescriptionValid row.description)
    .database
  require (¬ db.parameters.Any fun _ p => p.publicId = row.publicId) .publicIDCollision
  require (¬ db.parameters.Any fun _ p =>
    p.workspaceId = row.workspaceId ∧ p.path = row.path ∧ p.archivedAt = none) .nameConflict
  return (db.parameters.nextId, { db with parameters := db.parameters.insert row })

/-- `INSERT INTO parameter_versions` of a pending secret version. -/
def insertPendingVersion (db : Tables) (row : ParameterVersion) : Except Err Tables := do
  require (row.secretReference.all fun r => decide (ReferenceValid r)) .database
  require (row.requestedPath.all fun p => decide (PathValid p)) .database
  require (row.requestedDescription.all fun d => decide (DescriptionValid d)) .database
  require (¬ db.versions.Any fun _ w =>
    w.parameterId = row.parameterId ∧ w.version = row.version) .conflict
  require (¬ db.versions.Any fun _ w =>
    w.createdByUserId = row.createdByUserId ∧ w.idempotencyHash = row.idempotencyHash) .conflict
  require (¬ db.versions.Any fun _ w =>
    w.parameterId = row.parameterId ∧ w.valueState = .pending) .conflict
  return { db with versions := db.versions.insert row }

/-- `INSERT INTO parameter_path_reservations`. -/
def insertReservation (db : Tables) (row : Reservation) : Except Err Tables := do
  require (PathValid row.path) .database
  require (¬ db.reservations.Any fun _ r =>
    (r.workspaceId = row.workspaceId ∧ r.path = row.path) ∨
      (r.parameterId = row.parameterId ∧ r.parameterVersion = row.parameterVersion)) .conflict
  return { db with reservations := db.reservations.insert row }

/-! ### Reserving a version -/

/-- `lockWorkspaceParameterPaths`: the row lock makes the transaction atomic, and all that is
left of it here is that the workspace exists. -/
def lockWorkspaceParameterPaths (db : Tables) (workspaceId : ℕ) : Except Err Workspace :=
  expect (db.workspaces.lookup workspaceId) .notFound

/-- `parameterPathReserved`. -/
def ParameterPathReserved (db : Tables) (workspaceId parameterId : ℕ) (path : String) : Prop :=
  db.reservations.Any fun _ r =>
    r.workspaceId = workspaceId ∧ r.path = path ∧ r.parameterId ≠ parameterId
deriving Decidable

/-- The mutation a version row describes. The reference and the two backend versions are
scanned into variables that cannot hold `NULL`. -/
def scanMutation (parameterId : ℕ) (p : Parameter) (w : ParameterVersion) :
    Except Err SecretMutation := do
  let reference ← expect w.secretReference .database
  let expected ← expect w.expectedSecretBackendVersion .database
  let backend ← expect w.secretBackendVersion .database
  return {
    parameterId := parameterId
    parameterPublicId := p.publicId
    workspaceId := p.workspaceId
    parameterVersion := w.version
    resourceVersion := p.version
    reference := reference
    expectedBackendVersion := expected
    backendVersion := backend
    state := w.valueState
    createdAt := w.createdAt }

/-- `findSecretMutation`: the mutation made earlier under the same key, if there is one. -/
def findSecretMutation (db : Tables) (workspaceId actorId : ℕ)
    (idempotencyHash payloadHash : Digest) : Except Err (Option SecretMutation) :=
  match db.versions.first fun _ w =>
      w.createdByUserId = actorId ∧ w.idempotencyHash = some idempotencyHash ∧
        (db.parameters.lookup w.parameterId).any fun p => p.workspaceId = workspaceId with
  | none => return none
  | some (_, w) => do
    let p ← expect (db.parameters.lookup w.parameterId) .database
    let mutation ← scanMutation w.parameterId p w
    require (w.payloadHash = some payloadHash) .idempotencyConflict
    return some mutation

/-- The row of `parameters` a creation inserts. -/
def pendingParameter (workspaceId : ℕ) (publicId path description : String) : Parameter where
  publicId := publicId
  workspaceId := workspaceId
  path := path
  kind := .secret
  description := description
  currentVersion := 1
  version := 1
  valueState := .pending
  archivedAt := none
  purgeAfter := none
  purgedAt := none

/-- The row of `parameter_versions` a reservation inserts: the value is to become the version
after `expected` of the entry. -/
def pendingVersion (now : Time) (parameterId version actorId : ℕ) (reference : String)
    (expected : ℕ) (fingerprint : Fingerprint) (idempotencyHash payloadHash : Digest)
    (path description : String) : ParameterVersion where
  parameterId := parameterId
  version := version
  createdByUserId := actorId
  plaintextValue := none
  secretReference := some reference
  secretBackendVersion := some (expected + 1)
  fingerprint := some fingerprint
  valueState := .pending
  expectedSecretBackendVersion := some expected
  idempotencyHash := some idempotencyHash
  payloadHash := some payloadHash
  requestedPath := some path
  requestedDescription := some description
  createdAt := now
  completedAt := none

/-- The mutation a new reservation hands out. -/
def pendingMutation (now : Time) (parameterId : ℕ) (publicId : String)
    (workspaceId version resourceVersion : ℕ) (reference : String) (expected : ℕ) :
    SecretMutation where
  parameterId := parameterId
  parameterPublicId := publicId
  workspaceId := workspaceId
  parameterVersion := version
  resourceVersion := resourceVersion
  reference := reference
  expectedBackendVersion := expected
  backendVersion := expected + 1
  state := .pending
  createdAt := now

/-- `BeginCreateSecretParameter`; the second component says whether the mutation existed. -/
def beginCreateSecretParameter (now : Time) (db : Tables) (workspaceId actorId : ℕ)
    (publicId path description reference : String) (fingerprint : Fingerprint)
    (idempotencyHash payloadHash : Digest) : Except Err (SecretMutation × Bool × Tables) := do
  let _ ← lockWorkspaceParameterPaths db workspaceId
  match ← findSecretMutation db workspaceId actorId idempotencyHash payloadHash with
  | some existing => return (existing, true, db)
  | none =>
    require (¬ ParameterPathReserved db workspaceId 0 path) .nameConflict
    let (parameterId, db) ← insertParameter db
      (pendingParameter workspaceId publicId path description)
    let db ← insertReservation db { workspaceId, path, parameterId, parameterVersion := 1 }
    let db ← insertPendingVersion db (pendingVersion now parameterId 1 actorId reference 0
      fingerprint idempotencyHash payloadHash path description)
    return (pendingMutation now parameterId publicId workspaceId 1 1 reference 0, false, db)

/-- The version row a parameter currently shows. -/
def currentVersionRow (db : Tables) (parameterId : ℕ) (p : Parameter) :
    Option (ℕ × ParameterVersion) :=
  db.versions.first fun _ w => w.parameterId = parameterId ∧ w.version = p.currentVersion

/-- A version of the parameter is pending. -/
def HasPendingVersion (db : Tables) (parameterId : ℕ) : Prop :=
  db.versions.Any fun _ w => w.parameterId = parameterId ∧ w.valueState = .pending
deriving Decidable

/-- The newest version whose value is settled: none while the parameter is being created. -/
def settled (p : Parameter) : ℕ :=
  if p.valueState = .pending then 0 else p.currentVersion

/-- The condition under which `BeginReplaceSecretParameter` finds the parameter. -/
def Replaceable (db : Tables) (workspaceId : ℕ) (publicId : String) (resourceVersion : ℕ)
    (i : ℕ) (p : Parameter) : Prop :=
  p.workspaceId = workspaceId ∧ p.publicId = publicId ∧ p.version = resourceVersion ∧
    p.archivedAt = none ∧ p.valueState = .ready ∧
    ((currentVersionRow db i p).any fun w => w.2.valueState = .ready) = true ∧
    ¬ HasPendingVersion db i
deriving Decidable

/-- The error of `BeginReplaceSecretParameter` when it finds no parameter to replace. -/
def replaceRefusal (db : Tables) (workspaceId : ℕ) (publicId : String) : Err :=
  if db.parameters.Any fun i p => p.workspaceId = workspaceId ∧ p.publicId = publicId ∧
      p.archivedAt = none ∧ HasPendingVersion db i then .conflict
  else if db.parameters.Any fun _ p => p.workspaceId = workspaceId ∧ p.publicId = publicId ∧
      p.archivedAt = none then .versionConflict
  else .notFound

/-- `BeginReplaceSecretParameter`. -/
def beginReplaceSecretParameter (now : Time) (db : Tables) (workspaceId actorId : ℕ)
    (publicId path description : String) (resourceVersion : ℕ) (fingerprint : Fingerprint)
    (idempotencyHash payloadHash : Digest) : Except Err (SecretMutation × Bool × Tables) := do
  let _ ← lockWorkspaceParameterPaths db workspaceId
  match ← findSecretMutation db workspaceId actorId idempotencyHash payloadHash with
  | some existing =>
    require (existing.parameterPublicId = publicId) .idempotencyConflict
    return (existing, true, db)
  | none =>
    let (parameterId, p) ← expect
      (db.parameters.first (Replaceable db workspaceId publicId resourceVersion))
      (replaceRefusal db workspaceId publicId)
    let (_, current) ← expect (currentVersionRow db parameterId p) .database
    -- the reference and its version are scanned before the kind is looked at
    let reference ← expect current.secretReference .database
    let backendVersion ← expect current.secretBackendVersion .database
    require (p.kind = .secret) .conflict
    require (¬ ParameterPathReserved db workspaceId parameterId path) .nameConflict
    let nextVersion := p.currentVersion + 1
    let db ← insertPendingVersion db (pendingVersion now parameterId nextVersion actorId reference
      backendVersion fingerprint idempotencyHash payloadHash path description)
    let db ← insertReservation db
      { workspaceId, path, parameterId, parameterVersion := nextVersion }
    return (pendingMutation now parameterId publicId workspaceId nextVersion resourceVersion
      reference backendVersion, false, db)

/-! ### Closing a mutation -/

/-- The rows a mutation names: by parameter and version number, which is all the closing
transactions know of the row they were meant for. -/
def SecretMutation.Names (m : SecretMutation) (w : ParameterVersion) : Prop :=
  w.parameterId = m.parameterId ∧ w.version = m.parameterVersion
deriving Decidable

/-- The version row a mutation names. -/
def mutationRow (db : Tables) (m : SecretMutation) : Option (ℕ × ParameterVersion) :=
  db.versions.first fun _ w => m.Names w

/-- The update of the version row by `CompleteSecretMutation`. -/
def ParameterVersion.complete (now : Time) (w : ParameterVersion) : ParameterVersion :=
  { w with valueState := .ready, expectedSecretBackendVersion := none, completedAt := some now }

/-- The update of the parameter by `CompleteSecretMutation`. -/
def Parameter.complete (path description : String) (version : ℕ) (p : Parameter) : Parameter :=
  { p with
    path := path
    description := description
    currentVersion := version
    version := if p.valueState = .pending then p.version else p.version + 1
    valueState := .ready }

/-- The three statements of `CompleteSecretMutation`, which are for a pending row only. -/
def publishVersion (now : Time) (db : Tables) (m : SecretMutation) (w : ParameterVersion) :
    Except Err Tables :=
  if w.valueState = .pending then do
    let path ← expect w.requestedPath .database
    let description ← expect w.requestedDescription .database
    -- the active path index: a live parameter may not take the path of another one
    require (¬ db.parameters.Any fun i p => i = m.parameterId ∧ p.archivedAt = none ∧
      db.parameters.Any fun j q => j ≠ i ∧ q.workspaceId = p.workspaceId ∧ q.path = path ∧
        q.archivedAt = none) .nameConflict
    return { db with
      versions := db.versions.modify (fun _ w => m.Names w) (ParameterVersion.complete now)
      parameters := db.parameters.modify (fun i _ => i = m.parameterId)
        (Parameter.complete path description m.parameterVersion)
      reservations := db.reservations.delete fun _ r =>
        r.parameterId = m.parameterId ∧ r.parameterVersion = m.parameterVersion }
  else .ok db

/-- The parameter as `scanParameter` returns it: ready, showing a ready version. -/
def visibleParameter (db : Tables) (parameterId : ℕ) : Option Parameter :=
  (db.parameters.lookup parameterId).filter fun p => decide (p.valueState = .ready ∧
    ((currentVersionRow db parameterId p).any fun w => w.2.valueState = .ready) = true)

/-- `CompleteSecretMutation`. The row is looked up by parameter and version alone. -/
def completeSecretMutation (now : Time) (db : Tables) (m : SecretMutation) (backendVersion : ℕ) :
    Except Err (Parameter × Tables) := do
  require (backendVersion = m.backendVersion) .conflict
  let (_, w) ← expect (mutationRow db m) .database
  let db ← publishVersion now db m w
  let item ← expect (visibleParameter db m.parameterId) .database
  return (item, db)

/-- `AbandonSecretMutation`. When no pending row is deleted, the transaction rolls back. -/
def abandonSecretMutation (db : Tables) (m : SecretMutation) : Except Err Tables := do
  if ¬ db.versions.Any fun _ w => m.Names w ∧ w.valueState = .pending then return db
  else
    let versions := db.versions.delete fun _ w => m.Names w ∧ w.valueState = .pending
    -- `ON DELETE RESTRICT`: a parameter that still has versions cannot go
    require (¬ db.parameters.Any fun i p => i = m.parameterId ∧ p.valueState = .pending ∧
      versions.Any fun _ w => w.parameterId = i) .database
    return { db with
      versions := versions
      parameters := db.parameters.delete fun i p => i = m.parameterId ∧ p.valueState = .pending
      -- the reservation goes by its own statement, and with its parameter by the cascade
      reservations := db.reservations.delete fun _ r => r.parameterId = m.parameterId ∧
        (r.parameterVersion = m.parameterVersion ∨
          db.parameters.Any fun i p => i = m.parameterId ∧ p.valueState = .pending) }

/-- `ListPendingSecretMutations`: oldest first, then by parameter. -/
def listPendingSecretMutations (db : Tables) (limit : ℕ) : Except Err (List SecretMutation) :=
  let pending := (db.versions.select fun _ w => w.valueState = .pending).filterMap fun x =>
    (db.parameters.lookup x.2.parameterId).map fun p => (p, x.2)
  let sorted := pending.insertionSort fun x y =>
    x.2.createdAt < y.2.createdAt ∨
      (x.2.createdAt = y.2.createdAt ∧ x.2.parameterId ≤ y.2.parameterId)
  (sorted.take limit).mapM fun x => scanMutation x.2.parameterId x.1 x.2

/-- The tables after a completion. -/
abbrev completeTables (now : Time) (t : Tables) (m : SecretMutation) (path description : String) :
    Tables :=
  { t with
    versions := t.versions.modify (fun _ w => m.Names w) (ParameterVersion.complete now)
    parameters := t.parameters.modify (fun i _ => i = m.parameterId)
      (Parameter.complete path description m.parameterVersion)
    reservations := t.reservations.delete fun _ r =>
      r.parameterId = m.parameterId ∧ r.parameterVersion = m.parameterVersion }

/-- The tables after an abandonment. -/
abbrev abandonTables (t : Tables) (m : SecretMutation) : Tables :=
  { t with
    versions := t.versions.delete fun _ w => m.Names w ∧ w.valueState = .pending
    parameters := t.parameters.delete fun i p => i = m.parameterId ∧ p.valueState = .pending
    reservations := t.reservations.delete fun _ r => r.parameterId = m.parameterId ∧
      (r.parameterVersion = m.parameterVersion ∨
        t.parameters.Any fun i p => i = m.parameterId ∧ p.valueState = .pending) }

/-! ### What each transaction can do

One lemma per transaction says everything a committed call did; the proofs about
interleavings use these and never unfold a transaction again. -/

section Specs

variable {db db' : Tables} {now : Time} {m : SecretMutation}

theorem insertParameter_eq_ok {row : Parameter} {i : ℕ}
    (h : insertParameter db row = .ok (i, db')) :
    PublicIdValid row.publicId ∧
      (∀ j q, db.parameters.lookup j = some q → q.publicId ≠ row.publicId) ∧
      (∀ j q, db.parameters.lookup j = some q →
        ¬ (q.workspaceId = row.workspaceId ∧ q.path = row.path ∧ q.archivedAt = none)) ∧
      i = db.parameters.nextId ∧ db' = { db with parameters := db.parameters.insert row } := by
  simp only [insertParameter, bind_eq_ok, require_eq_ok, pure_eq_ok, not_any_iff,
    Prod.mk.injEq] at h
  obtain ⟨-, hvalid, -, hid, -, hpath, hi, hdb⟩ := h
  exact ⟨hvalid.1, hid, hpath, hi.symm, hdb.symm⟩

theorem insertPendingVersion_eq_ok {row : ParameterVersion}
    (h : insertPendingVersion db row = .ok db') :
    db' = { db with versions := db.versions.insert row } := by
  simp only [insertPendingVersion, ok_iff] at h
  obtain ⟨-, -, -, -, -, -, -, -, -, -, -, -, rfl⟩ := h
  rfl

theorem insertReservation_eq_ok {row : Reservation} (h : insertReservation db row = .ok db') :
    (∀ k r, db.reservations.lookup k = some r →
      ¬ (r.workspaceId = row.workspaceId ∧ r.path = row.path)) ∧
      db' = { db with reservations := db.reservations.insert row } := by
  simp only [insertReservation, bind_eq_ok, require_eq_ok, pure_eq_ok, not_any_iff] at h
  obtain ⟨-, -, -, hunique, hdb⟩ := h
  exact ⟨fun k r hr hk => hunique k r hr (.inl hk), hdb.symm⟩

/-- A mutation that describes a version row: what `scanMutation` returns. -/
structure Describes (db : Tables) (m : SecretMutation) (w : ParameterVersion) : Prop where
  parameter : ∃ p, db.parameters.lookup w.parameterId = some p ∧ m.parameterPublicId = p.publicId
  parameterId : w.parameterId = m.parameterId
  version : w.version = m.parameterVersion
  reference : w.secretReference = some m.reference
  expected : w.expectedSecretBackendVersion = some m.expectedBackendVersion
  backend : w.secretBackendVersion = some m.backendVersion

theorem scanMutation_eq_ok {i : ℕ} {p : Parameter} {w : ParameterVersion}
    (h : scanMutation i p w = .ok m) (hi : w.parameterId = i)
    (hp : db.parameters.lookup i = some p) : Describes db m w := by
  simp only [scanMutation, ok_iff] at h
  obtain ⟨_, hr, _, he, _, hb, rfl⟩ := h
  exact ⟨⟨p, by rw [hi, hp], rfl⟩, hi, rfl, hr, he, hb⟩

/-- A replayed request is handed the mutation of the row its key created. -/
theorem findSecretMutation_eq_some
    (h : findSecretMutation db workspaceId actorId key payload = .ok (some m)) :
    ∃ j w, db.versions.lookup j = some w ∧ Describes db m w := by
  unfold findSecretMutation at h
  split at h
  · simp at h
  · rename_i j w hfirst
    simp only [ok_iff, Option.some.injEq] at h
    obtain ⟨_, hp, _, hscan, -, -, rfl⟩ := h
    exact ⟨j, w, lookup_of_first hfirst, scanMutation_eq_ok hscan rfl hp⟩

/-- **A committed creation** either returned the mutation of an earlier call, and changed
nothing, or inserted a pending parameter with one pending version, whose path it reserved. -/
theorem beginCreateSecretParameter_eq_ok {publicId path description reference : String}
    {fingerprint : Fingerprint} {existing : Bool}
    (h : beginCreateSecretParameter now db workspaceId actorId publicId path description reference
      fingerprint key payload = .ok (m, existing, db')) :
    (existing = true ∧ db' = db ∧ ∃ j w, db.versions.lookup j = some w ∧ Describes db m w) ∨
    (existing = false ∧ PublicIdValid publicId ∧
      (∀ j q, db.parameters.lookup j = some q → q.publicId ≠ publicId) ∧
      (∀ j q, db.parameters.lookup j = some q →
        ¬ (q.workspaceId = workspaceId ∧ q.path = path ∧ q.archivedAt = none)) ∧
      (∀ k r, db.reservations.lookup k = some r →
        ¬ (r.workspaceId = workspaceId ∧ r.path = path)) ∧
      m = pendingMutation now db.parameters.nextId publicId workspaceId 1 1 reference 0 ∧
      db' = { db with
        parameters := db.parameters.insert (pendingParameter workspaceId publicId path description)
        versions := db.versions.insert (pendingVersion now db.parameters.nextId 1 actorId reference
          0 fingerprint key payload path description)
        reservations := db.reservations.insert
          ⟨workspaceId, path, db.parameters.nextId, 1⟩ }) := by
  simp only [beginCreateSecretParameter, bind_eq_ok] at h
  obtain ⟨-, -, found, hfound, h⟩ := h
  cases found with
  | some =>
    simp only [pure_eq_ok, Prod.mk.injEq] at h
    obtain ⟨rfl, rfl, rfl⟩ := h
    exact .inl ⟨rfl, rfl, findSecretMutation_eq_some hfound⟩
  | none =>
    simp only [bind_eq_ok, pure_eq_ok, Prod.mk.injEq, Prod.exists] at h
    obtain ⟨-, -, _, _, hp, _, hr, _, hv, rfl, rfl, rfl⟩ := h
    obtain ⟨hvalid, hfresh, hpath, rfl, rfl⟩ := insertParameter_eq_ok hp
    obtain ⟨hunique, rfl⟩ := insertReservation_eq_ok hr
    obtain rfl := insertPendingVersion_eq_ok hv
    exact .inr ⟨rfl, hvalid, hfresh, hpath, hunique, rfl, rfl⟩

/-- **A committed replacement** either returned the mutation of an earlier call, and changed
nothing, or inserted the next version of a parameter that had none pending, and reserved the path
asked for. -/
theorem beginReplaceSecretParameter_eq_ok {resourceVersion : ℕ} {publicId path description : String}
    {fingerprint : Fingerprint} {existing : Bool}
    (h : beginReplaceSecretParameter now db workspaceId actorId publicId path description
      resourceVersion fingerprint key payload = .ok (m, existing, db')) :
    (existing = true ∧ db' = db ∧ ∃ j w, db.versions.lookup j = some w ∧ Describes db m w) ∨
    (existing = false ∧ ∃ i p j current reference backend,
      db.parameters.lookup i = some p ∧ p.kind = .secret ∧ p.valueState = .ready ∧
      ¬ HasPendingVersion db i ∧
      db.versions.lookup j = some current ∧ current.parameterId = i ∧
      current.version = p.currentVersion ∧ current.secretReference = some reference ∧
      current.secretBackendVersion = some backend ∧
      (p.workspaceId = workspaceId ∧ p.publicId = publicId ∧ p.archivedAt = none) ∧
      (∀ k r, db.reservations.lookup k = some r →
        ¬ (r.workspaceId = workspaceId ∧ r.path = path)) ∧
      m = pendingMutation now i publicId workspaceId (p.currentVersion + 1) resourceVersion
        reference backend ∧
      db' = { db with
        versions := db.versions.insert (pendingVersion now i (p.currentVersion + 1) actorId
          reference backend fingerprint key payload path description)
        reservations := db.reservations.insert
          ⟨workspaceId, path, i, p.currentVersion + 1⟩ }) := by
  simp only [beginReplaceSecretParameter, bind_eq_ok] at h
  obtain ⟨-, -, found, hfound, h⟩ := h
  cases found with
  | some =>
    simp only [bind_eq_ok, require_eq_ok, pure_eq_ok, Prod.mk.injEq] at h
    obtain ⟨-, -, rfl, rfl, rfl⟩ := h
    exact .inl ⟨rfl, rfl, findSecretMutation_eq_some hfound⟩
  | none =>
    simp only [bind_eq_ok, expect_eq_ok, require_eq_ok, pure_eq_ok, Prod.mk.injEq, Prod.exists] at h
    obtain ⟨i, p, hp, j, current, hc, reference, hr, backend, hb, -, hkind, -, -, _, hv, _,
      hres, rfl, rfl, rfl⟩ := h
    obtain ⟨hws, hid, -, hlive, hready, -, hnone⟩ := pos_of_first hp
    obtain ⟨hci, hcv⟩ := pos_of_first hc
    obtain rfl := insertPendingVersion_eq_ok hv
    obtain ⟨hunique, rfl⟩ := insertReservation_eq_ok hres
    exact .inr ⟨rfl, i, p, j, current, reference, backend, lookup_of_first hp, hkind, hready,
      hnone, lookup_of_first hc, hci, hcv, hr, hb, ⟨hws, hid, hlive⟩, hunique, rfl, rfl⟩

/-- **A committed completion** found the row named by the mutation, and made it ready if it was
pending – whoever reserved it. -/
theorem completeSecretMutation_eq_ok {backendVersion : ℕ} {item : Parameter}
    (h : completeSecretMutation now db m backendVersion = .ok (item, db')) :
    ∃ j w, db.versions.lookup j = some w ∧ m.Names w ∧
      ((w.valueState ≠ .pending ∧ db' = db) ∨
        (w.valueState = .pending ∧ ∃ path description, w.requestedPath = some path ∧
          w.requestedDescription = some description ∧
          db' = completeTables now db m path description)) := by
  simp only [completeSecretMutation, bind_eq_ok, require_eq_ok, expect_eq_ok, pure_eq_ok,
    Prod.mk.injEq, Prod.exists] at h
  obtain ⟨-, -, j, w, hw, _, hpub, -, -, -, rfl⟩ := h
  refine ⟨j, w, lookup_of_first hw, pos_of_first hw, ?_⟩
  unfold publishVersion at hpub
  by_cases hpending : w.valueState = .pending
  · simp only [if_pos hpending, bind_eq_ok, require_eq_ok, expect_eq_ok, pure_eq_ok] at hpub
    obtain ⟨path, hpath, description, hdescription, -, -, rfl⟩ := hpub
    exact .inr ⟨hpending, path, description, hpath, hdescription, rfl⟩
  · rw [if_neg hpending] at hpub
    exact .inl ⟨hpending, (Except.ok.inj hpub).symm⟩

/-- **A committed abandonment** deleted the pending row named by the mutation, and with it the
parameter if that was still pending. -/
theorem abandonSecretMutation_eq_ok (h : abandonSecretMutation db m = .ok db') :
    db' = db ∨ (∃ j w, db.versions.lookup j = some w ∧ m.Names w ∧ w.valueState = .pending) ∧
      db' = abandonTables db m := by
  unfold abandonSecretMutation at h
  split at h
  · exact .inl (pure_eq_ok.mp h).symm
  · rename_i hany
    simp only [ok_iff] at h
    obtain ⟨-, -, rfl⟩ := h
    exact .inr ⟨any_iff.mp (not_not.mp hany), rfl⟩

/-- The recovery pass lists mutations of pending rows. -/
theorem listPendingSecretMutations_eq_ok {limit : ℕ} {ms : List SecretMutation}
    (h : listPendingSecretMutations db limit = .ok ms) (hm : m ∈ ms) :
    ∃ j w, db.versions.lookup j = some w ∧ Describes db m w ∧ w.valueState = .pending ∧
      m.createdAt = w.createdAt := by
  obtain ⟨⟨_, _⟩, hx, hscan⟩ := mem_of_mapM_eq_ok h hm
  have hmem := (List.perm_insertionSort _ _).subset (List.take_subset _ _ hx)
  obtain ⟨⟨j, w'⟩, hsel, hpw⟩ := List.mem_filterMap.mp hmem
  obtain ⟨_, hq, hpq⟩ := Option.map_eq_some_iff.mp hpw
  obtain ⟨rfl, rfl⟩ := Prod.mk.inj hpq
  have hcreated : m.createdAt = w'.createdAt := by
    simp only [scanMutation, ok_iff] at hscan
    obtain ⟨-, -, -, -, -, -, rfl⟩ := hscan
    rfl
  exact ⟨j, w', (mem_select.mp hsel).1, scanMutation_eq_ok hscan rfl hq,
    (mem_select.mp hsel).2, hcreated⟩

end Specs

end Molejo.Parameters
