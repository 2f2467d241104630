import Mathlib.Data.List.Sort
import Molejo.Parameters.History
import Molejo.Store.Deployment

/-!
# Archiving and purging parameters

A parameter that is not used any more can be archived. Its values are kept for a while, and then
a maintenance worker *purges* the parameter: it lists the candidates, and clears the rows of all
their versions, one parameter at a time.

Which uses count is asked three times, and each time the answer is another one.

| Asked by | A use is |
|---|---|
| `archiveParameter` | a binding of an environment, or of a *current* deployment, or of a deployment with an active operation |
| `listParameterPurgeCandidates` | a binding of an environment |
| `markParameterPurged` | – |

A deployment that an environment *desires*, but that never became current, is no use for any of
them, and neither is a configuration revision, which may be deployed at any later time.
-/

namespace Molejo.Store

open Transaction Parameters Table

/-! ### Closing a mutation of a bound version -/

/-- The database with other tables of parameters. -/
def putTables (db : Db) (tables : Tables) : Db :=
  { db with toSurroundings := { db.toSurroundings with toTables := tables } }

/-- A binding of an environment names the version. -/
def BoundVersion (db : Db) (parameterId version : ℕ) : Prop :=
  db.boundParameters.Any fun _ b => b.parameterId = parameterId ∧ b.parameterVersion = version
deriving Decidable

/-- `AbandonSecretMutation` under the foreign key of the bindings: a version cannot be deleted
while an environment binds it. -/
def abandonSecretMutation (db : Db) (m : SecretMutation) : Except Err Db := do
  require (¬ ((db.versions.Any fun _ w => m.Names w ∧ w.valueState = .pending) ∧
    BoundVersion db m.parameterId m.parameterVersion)) .database
  let tables ← Parameters.abandonSecretMutation db.toTables m
  return putTables db tables

/-! ### Archiving and purging -/

/-- The configuration of the deployment binds the parameter. -/
def NamesParameter (db : Db) (d : Deployment) (parameterId : ℕ) : Prop :=
  ∃ b ∈ d.configuration.parameters, ∃ p ∈ db.parameters.lookup parameterId,
    p.publicId = b.parameterPublicId
deriving Decidable

/-- `parameterInUse`. -/
def ParameterInUse (db : Db) (parameterId : ℕ) : Prop :=
  (db.boundParameters.Any fun _ b => b.parameterId = parameterId) ∨
  (db.appEnvironments.Any fun _ ae => ae.archivedAt = none ∧
    ∃ d ∈ ae.currentDeploymentId.bind db.deployments.lookup, NamesParameter db d parameterId) ∨
  db.operations.Any fun _ o => o.Active ∧
    ∃ d ∈ o.deploymentId.bind db.deployments.lookup, NamesParameter db d parameterId
deriving Decidable

/-- The row of a parameter that is archived. -/
def archiveParameterRow (now : Time) (retention : ℕ) (p : Parameter) : Parameter :=
  { p with
    archivedAt := some now
    purgeAfter := some (now + retention)
    version := p.version + 1 }

/-- `ArchiveParameter`. -/
def archiveParameter (now : Time) (db : Db) (workspaceId : ℕ) (publicId : String) (version : ℕ)
    (retention : ℤ) : Except Err Db := do
  require (0 ≤ retention) .conflict
  let (parameterId, _) ← expect
    (db.parameters.first fun _ p => p.workspaceId = workspaceId ∧ p.publicId = publicId ∧
      p.version = version ∧ p.archivedAt = none ∧ p.valueState = .ready)
    (if db.parameters.Any fun _ p => p.workspaceId = workspaceId ∧ p.publicId = publicId ∧
      p.archivedAt = none then .versionConflict else .notFound)
  require (¬ HasPendingVersion db.toTables parameterId) .conflict
  require (¬ ParameterInUse db parameterId) .parameterInUse
  return { db with
    parameters := db.parameters.modify (fun i _ => i = parameterId)
      (archiveParameterRow now retention.toNat) }

/-- The condition of `ListParameterPurgeCandidates`. -/
def PurgeCandidate (now : Time) (db : Db) (parameterId : ℕ) (p : Parameter) : Prop :=
  p.archivedAt ≠ none ∧ p.purgedAt = none ∧ (∃ t ∈ p.purgeAfter, t ≤ now) ∧
  (db.versions.Any fun _ v => v.parameterId = parameterId) ∧
  ¬ db.boundParameters.Any fun _ b => b.parameterId = parameterId
deriving Decidable

/-- `ListParameterPurgeCandidates`: the ids, those first whose time came first. -/
def listParameterPurgeCandidates (now : Time) (db : Db) (limit : ℕ) : List ℕ :=
  let candidates := db.parameters.select (PurgeCandidate now db)
  let sorted := candidates.insertionSort fun x y =>
    x.2.purgeAfter.getD 0 < y.2.purgeAfter.getD 0 ∨
      (x.2.purgeAfter.getD 0 = y.2.purgeAfter.getD 0 ∧ x.1 ≤ y.1)
  (sorted.take limit).map Prod.fst

/-- The row of a version whose value is purged. -/
def purgeVersionRow (v : ParameterVersion) : ParameterVersion :=
  { v with
    plaintextValue := none
    secretReference := none
    secretBackendVersion := none
    fingerprint := none
    valueState := .purged }

/-- The row of a parameter that is purged. -/
def purgeParameterRow (now : Time) (p : Parameter) : Parameter :=
  { p with valueState := .purged, purgedAt := some now }

/-- `MarkParameterPurged`. The transaction is left without a commit if the parameter is not
archived, or has been purged. -/
def markParameterPurged (now : Time) (db : Db) (parameterId : ℕ) : Except Err Db := do
  -- `parameter_versions_pending_valid`: only a pending version expects a backend version
  require (¬ db.versions.Any fun _ v => v.parameterId = parameterId ∧
    v.expectedSecretBackendVersion ≠ none) .database
  if db.parameters.Any fun i p => i = parameterId ∧ p.archivedAt ≠ none ∧ p.purgedAt = none then
    return { db with
      versions := db.versions.modify (fun _ v => v.parameterId = parameterId) purgeVersionRow
      parameters := db.parameters.modify
        (fun i p => i = parameterId ∧ p.archivedAt ≠ none ∧ p.purgedAt = none)
        (purgeParameterRow now) }
  else return db

/-! ### What a committed transaction did -/

section Specs

variable {now : Time} {db db' : Db} {R : Rules}

/-- Archiving is one change of the tables of parameters. -/
theorem archiveParameter_change {workspaceId : ℕ} {publicId : String} {version : ℕ} {retention : ℤ}
    (h : archiveParameter now db workspaceId publicId version retention = .ok db') :
    ∃ t, Change R db.toTables t ∧ db' = putTables db t := by
  simp only [archiveParameter, bind_eq_ok, expect_eq_ok, require_eq_ok, pure_eq_ok,
    Prod.exists] at h
  obtain ⟨-, -, i, p, hp, -, hidle, -, -, rfl⟩ := h
  obtain ⟨-, -, -, -, hready⟩ := pos_of_first hp
  exact ⟨_, .archive (lookup_of_first hp) hready hidle, rfl⟩

/-- So is abandoning. -/
theorem abandonSecretMutation_change {m : SecretMutation}
    (h : abandonSecretMutation db m = .ok db') :
    ∃ t, Change R db.toTables t ∧ db' = putTables db t := by
  simp only [abandonSecretMutation, bind_eq_ok, require_eq_ok, pure_eq_ok] at h
  obtain ⟨-, -, t, ht, rfl⟩ := h
  exact ⟨t, Parameters.abandonSecretMutation_change ht, rfl⟩

theorem markParameterPurged_eq_ok {i : ℕ} (h : markParameterPurged now db i = .ok db') :
    db' = db ∨ ((∃ p, db.parameters.lookup i = some p ∧ p.archivedAt ≠ none ∧ p.purgedAt = none) ∧
      db' = { db with
        versions := db.versions.modify (fun _ v => v.parameterId = i) purgeVersionRow
        parameters := db.parameters.modify
          (fun j p => j = i ∧ p.archivedAt ≠ none ∧ p.purgedAt = none)
          (purgeParameterRow now) }) := by
  simp only [markParameterPurged, bind_eq_ok] at h
  obtain ⟨-, -, h⟩ := h
  split at h
  · next hany =>
    cases h
    obtain ⟨_, p, hp, rfl, ha, hn⟩ := any_iff.mp hany
    exact .inr ⟨⟨p, hp, ha, hn⟩, rfl⟩
  · cases h
    exact .inl rfl

end Specs

end Molejo.Store
