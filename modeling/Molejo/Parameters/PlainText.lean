import Molejo.Parameters.Store

/-!
# Parameters that are not secret

The value of a `PlainText` parameter is kept in the row of its version, so that one transaction
creates it (`createParameter`) and one replaces it by a next version (`replaceParameter`). The
two methods would also store a reference to a secret. The handlers never ask them to: they pass
the text of the request, and secrets go through the mutations of `Molejo.Parameters.Store`.
-/

namespace Molejo.Parameters

open Transaction Table

/-- `domain.ParameterValue`. -/
structure ParameterValue where
  plainTextValue : Option String
  secretReference : String
  secretBackendVersion : ℕ
  fingerprint : Option Fingerprint

/-- The value that the handlers pass on. -/
def ParameterValue.plainText (value : String) : ParameterValue where
  plainTextValue := some value
  secretReference := ""
  secretBackendVersion := 0
  fingerprint := none

/-- The row of a version, with the columns of `parameterValueArguments`. -/
def ParameterValue.row (value : ParameterValue) (now : Time) (parameterId version actorId : ℕ) :
    ParameterVersion where
  parameterId := parameterId
  version := version
  createdByUserId := actorId
  plaintextValue := value.plainTextValue
  secretReference := if value.secretReference = "" then none else some value.secretReference
  secretBackendVersion :=
    if value.secretReference = "" then none else some value.secretBackendVersion
  fingerprint := if value.secretReference = "" then none else value.fingerprint
  valueState := .ready
  expectedSecretBackendVersion := none
  idempotencyHash := none
  payloadHash := none
  requestedPath := none
  requestedDescription := none
  createdAt := now
  completedAt := none

/-- The checks `parameter_versions_value_valid`, `parameter_versions_plaintext_size` and
`parameter_versions_secret_reference_valid` on a row that is `Ready`. -/
def ValueValid (w : ParameterVersion) : Prop :=
  ((w.plaintextValue ≠ none ∧ w.secretReference = none ∧ w.secretBackendVersion = none ∧
      w.fingerprint = none) ∨
    (w.plaintextValue = none ∧ w.secretReference ≠ none ∧
      (∃ b ∈ w.secretBackendVersion, 0 < b) ∧ w.fingerprint ≠ none)) ∧
  (∀ text ∈ w.plaintextValue, text.utf8ByteSize ≤ 65536) ∧
  ∀ reference ∈ w.secretReference, ReferenceValid reference
deriving Decidable

/-- `INSERT INTO parameter_versions` of a version that is `Ready`. -/
def insertReadyVersion (db : Tables) (row : ParameterVersion) : Except Err Tables := do
  require (ValueValid row) .database
  require (¬ db.versions.Any fun _ w =>
    w.parameterId = row.parameterId ∧ w.version = row.version) .conflict
  return { db with versions := db.versions.insert row }

/-- The row of `parameters` that `CreateParameter` inserts. -/
def readyParameter (workspaceId : ℕ) (publicId path : String) (kind : Kind)
    (description : String) : Parameter where
  publicId := publicId
  workspaceId := workspaceId
  path := path
  kind := kind
  description := description
  currentVersion := 1
  version := 1
  valueState := .ready
  archivedAt := none
  purgeAfter := none
  purgedAt := none

/-- `CreateParameter`. -/
def createParameter (now : Time) (db : Tables) (workspaceId actorId : ℕ)
    (publicId path : String) (kind : Kind) (description : String) (value : ParameterValue) :
    Except Err Tables := do
  let _ ← lockWorkspaceParameterPaths db workspaceId
  require (¬ ParameterPathReserved db workspaceId 0 path) .nameConflict
  let (parameterId, db) ← insertParameter db
    (readyParameter workspaceId publicId path kind description)
  insertReadyVersion db (value.row now parameterId 1 actorId)

/-- The update of the parameter by `ReplaceParameter`. -/
def Parameter.replace (path description : String) (version : ℕ) (p : Parameter) : Parameter :=
  { p with
    path := path
    description := description
    currentVersion := version
    version := p.version + 1 }

/-- `ReplaceParameter`. It does not look at the kind. -/
def replaceParameter (now : Time) (db : Tables) (workspaceId actorId : ℕ)
    (publicId path description : String) (resourceVersion : ℕ) (value : ParameterValue) :
    Except Err Tables := do
  let _ ← lockWorkspaceParameterPaths db workspaceId
  let (parameterId, p) ← expect
    (db.parameters.first fun i p => p.workspaceId = workspaceId ∧ p.publicId = publicId ∧
      p.version = resourceVersion ∧ p.archivedAt = none ∧ ¬ HasPendingVersion db i)
    (replaceRefusal db workspaceId publicId)
  require (¬ ParameterPathReserved db workspaceId parameterId path) .nameConflict
  let nextVersion := p.currentVersion + 1
  let db ← insertReadyVersion db (value.row now parameterId nextVersion actorId)
  require (PathValid path ∧ DescriptionValid description) .database
  require (¬ db.parameters.Any fun i q => i ≠ parameterId ∧ q.workspaceId = workspaceId ∧
    q.path = path ∧ q.archivedAt = none) .nameConflict
  return { db with
    parameters := db.parameters.modify
      (fun i q => i = parameterId ∧ q.workspaceId = workspaceId)
      (Parameter.replace path description nextVersion) }

/-! ### What a committed transaction did -/

theorem insertReadyVersion_eq_ok {db db' : Tables} {row : ParameterVersion} :
    insertReadyVersion db row = .ok db' ↔ ValueValid row ∧
      (¬ db.versions.Any fun _ w => w.parameterId = row.parameterId ∧ w.version = row.version) ∧
      db' = { db with versions := db.versions.insert row } := by
  simp only [insertReadyVersion, ok_iff]
  exact and_congr_right fun _ => and_congr_right fun _ => eq_comm

end Molejo.Parameters
