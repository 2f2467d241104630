import Mathlib.Order.Bounds.Basic
import Molejo.Parameters.PlainText

/-!
# The history of a parameter

The versions of a parameter are numbered, and each has one value for ever. Seven transactions keep
this over three tables: two create a parameter, two give it a next version, two close a secret
mutation, and one archives it. Those that close a mutation know only a version number, so one that
comes late may find the number taken by another mutation than its own.

What a committed transaction does to the tables is said once, by `Change`. Its constructors are the
ways the tables can change, with what the transaction checked. The invariant `History` says that
the versions of a parameter are settled up to a number, and that the next one may be pending; it is
kept by every change (`History.change`). From it follows

* what the tables look like at any moment (`VersionHistory`);
* what a later state keeps of an earlier one (`Advances`): the versions that were ready, and a
  resource version that tells any two appearances of a parameter apart.
-/

namespace Molejo.Parameters

open Transaction Table

variable {existing : Bool} {p : Parameter} {t t' : Tables}

/-! ### What a transaction does to the tables -/

/-- The tables of parameters are the same ones. -/
def SameParameters (t t' : Tables) : Prop :=
  t'.parameters = t.parameters ∧ t'.versions = t.versions ∧ t'.reservations = t.reservations

/-- What the callers of the transactions keep to, beyond what the transactions check. -/
structure Rules where
  /-- The values that are stored without a mutation. -/
  value : Kind → ParameterValue → Prop
  /-- The reference for the secret of a parameter, by the public id. -/
  reference : String → String → Prop
  /-- The path that a secret parameter is moved to, together with its next version. -/
  path : Tables → ℕ → String → Prop
  /-- The mutations that are completed. -/
  completed : Tables → SecretMutation → Prop

/-- Callers who keep to nothing. -/
def Rules.none : Rules :=
  ⟨fun _ _ => True, fun _ _ => True, fun _ _ _ => True, fun _ _ => True⟩

variable {R : Rules}

/-- One committed transaction. -/
inductive Change (R : Rules) (t : Tables) : Tables → Prop
  /-- Parameters are left alone. -/
  | same {t' : Tables} (h : SameParameters t t') : Change R t t'
  /-- `CreateParameter`. -/
  | create {now : Time} {workspaceId actorId : ℕ} {publicId path : String} {kind : Kind}
      {description : String} {value : ParameterValue} (hvalue : R.value kind value)
      (hvalid : PublicIdValid publicId)
      (hfresh : ∀ j q, t.parameters.lookup j = some q → q.publicId ≠ publicId)
      (hreserved : ¬ ParameterPathReserved t workspaceId 0 path) :
      Change R t { t with
        parameters := t.parameters.insert
          (readyParameter workspaceId publicId path kind description)
        versions := t.versions.insert (value.row now t.parameters.nextId 1 actorId) }
  /-- `ReplaceParameter`. -/
  | replace {now : Time} {actorId i : ℕ} {p : Parameter} {path description : String}
      {value : ParameterValue} (hvalue : R.value p.kind value) (hp : t.parameters.lookup i = some p)
      (hlive : p.archivedAt = none) (hidle : ¬ HasPendingVersion t i)
      (hreserved : ¬ ParameterPathReserved t p.workspaceId i path) :
      Change R t { t with
        versions := t.versions.insert (value.row now i (p.currentVersion + 1) actorId)
        parameters := t.parameters.modify (fun j q => j = i ∧ q.workspaceId = p.workspaceId)
          (Parameter.replace path description (p.currentVersion + 1)) }
  /-- `BeginCreateSecretParameter`. -/
  | reserveFirst {now : Time} {workspaceId actorId : ℕ}
      {publicId path description reference : String} {fingerprint : Fingerprint}
      {key payload : Digest} (hreference : R.reference publicId reference)
      (hvalid : PublicIdValid publicId)
      (hfresh : ∀ j q, t.parameters.lookup j = some q → q.publicId ≠ publicId)
      (hpath : ∀ j q, t.parameters.lookup j = some q →
        ¬ (q.workspaceId = workspaceId ∧ q.path = path ∧ q.archivedAt = none))
      (hunique : ∀ k r, t.reservations.lookup k = some r →
        ¬ (r.workspaceId = workspaceId ∧ r.path = path)) :
      Change R t { t with
        parameters := t.parameters.insert (pendingParameter workspaceId publicId path description)
        versions := t.versions.insert (pendingVersion now t.parameters.nextId 1 actorId reference
          0 fingerprint key payload path description)
        reservations := t.reservations.insert ⟨workspaceId, path, t.parameters.nextId, 1⟩ }
  /-- `BeginReplaceSecretParameter`. -/
  | reserveNext {now : Time} {actorId i j backend : ℕ} {p : Parameter}
      {current : ParameterVersion} {path description reference : String}
      {fingerprint : Fingerprint} {key payload : Digest} (hpath : R.path t i path)
      (hp : t.parameters.lookup i = some p)
      (hsecret : p.kind = .secret) (hready : p.valueState = .ready) (hlive : p.archivedAt = none)
      (hidle : ¬ HasPendingVersion t i) (hcurrent : t.versions.lookup j = some current)
      (hid : current.parameterId = i) (hversion : current.version = p.currentVersion)
      (href : current.secretReference = some reference)
      (hbackend : current.secretBackendVersion = some backend)
      (hunique : ∀ k r, t.reservations.lookup k = some r →
        ¬ (r.workspaceId = p.workspaceId ∧ r.path = path)) :
      Change R t { t with
        versions := t.versions.insert (pendingVersion now i (p.currentVersion + 1) actorId
          reference backend fingerprint key payload path description)
        reservations := t.reservations.insert
          ⟨p.workspaceId, path, i, p.currentVersion + 1⟩ }
  /-- `CompleteSecretMutation`, of a row that is pending. -/
  | complete {now : Time} {m : SecretMutation} {j : ℕ} {w : ParameterVersion}
      {path description : String} (hcompleted : R.completed t m)
      (hw : t.versions.lookup j = some w) (hm : m.Names w)
      (hpending : w.valueState = .pending) (hpath : w.requestedPath = some path)
      (hdescription : w.requestedDescription = some description) :
      Change R t (completeTables now t m path description)
  /-- `AbandonSecretMutation`, of a row that is pending. -/
  | abandon {m : SecretMutation} {j : ℕ} {w : ParameterVersion}
      (hw : t.versions.lookup j = some w) (hm : m.Names w) (hpending : w.valueState = .pending) :
      Change R t (abandonTables t m)
  /-- `ArchiveParameter`. -/
  | archive {archivedAt purgeAfter : Time} {i : ℕ} {p : Parameter}
      (hp : t.parameters.lookup i = some p) (hready : p.valueState = .ready)
      (hidle : ¬ HasPendingVersion t i) :
      Change R t { t with
        parameters := t.parameters.modify (fun j _ => j = i) fun p =>
          { p with
            archivedAt := some archivedAt
            purgeAfter := some purgeAfter
            version := p.version + 1 } }

section Changes

variable {now : Time}
  {workspaceId actorId resourceVersion : ℕ} {publicId path description reference : String}
  {value : ParameterValue} {fingerprint : Fingerprint} {key payload : Digest}
  {m : SecretMutation}

theorem createParameter_change {kind : Kind}
    (h : createParameter now t workspaceId actorId publicId path kind description value = .ok t')
    (hvalue : R.value kind value) : Change R t t' := by
  simp only [createParameter, bind_eq_ok, require_eq_ok, insertReadyVersion_eq_ok, Prod.exists] at h
  obtain ⟨-, -, -, hreserved, _, _, hp, -, -, rfl⟩ := h
  obtain ⟨hvalid, hfresh, -, rfl, rfl⟩ := insertParameter_eq_ok hp
  exact .create hvalue hvalid hfresh hreserved

theorem replaceParameter_change
    (h : replaceParameter now t workspaceId actorId publicId path description resourceVersion
      value = .ok t')
    (hvalue : ∀ i p, t.parameters.lookup i = some p → p.workspaceId = workspaceId →
      p.publicId = publicId → R.value p.kind value) : Change R t t' := by
  simp only [replaceParameter, bind_eq_ok, expect_eq_ok, require_eq_ok, insertReadyVersion_eq_ok,
    pure_eq_ok, Prod.exists] at h
  obtain ⟨-, -, i, p, hfirst, -, hreserved, _, ⟨-, -, rfl⟩, -, -, -, -, rfl⟩ := h
  obtain ⟨rfl, rfl, -, hlive, hidle⟩ := pos_of_first hfirst
  have hp := lookup_of_first hfirst
  exact .replace (hvalue i p hp rfl rfl) hp hlive hidle hreserved

theorem beginCreateSecretParameter_change
    (h : beginCreateSecretParameter now t workspaceId actorId publicId path description reference
      fingerprint key payload = .ok (m, existing, t'))
    (hreference : R.reference publicId reference) : Change R t t' := by
  rcases beginCreateSecretParameter_eq_ok h with
    ⟨-, rfl, -⟩ | ⟨-, hvalid, hfresh, hpath, hunique, -, rfl⟩
  · exact .same ⟨rfl, rfl, rfl⟩
  · exact .reserveFirst hreference hvalid hfresh hpath hunique

theorem beginReplaceSecretParameter_change
    (h : beginReplaceSecretParameter now t workspaceId actorId publicId path description
      resourceVersion fingerprint key payload = .ok (m, existing, t'))
    (hpath : ∀ i p, t.parameters.lookup i = some p → p.workspaceId = workspaceId →
      p.publicId = publicId → R.path t i path) : Change R t t' := by
  rcases beginReplaceSecretParameter_eq_ok h with ⟨-, rfl, -⟩ |
    ⟨-, i, p, j, current, reference, backend, hp, hsecret, hready, hidle, hcurrent, hid, hversion,
      href, hbackend, ⟨rfl, rfl, hlive⟩, hunique, -, rfl⟩
  · exact .same ⟨rfl, rfl, rfl⟩
  · exact .reserveNext (hpath i p hp rfl rfl) hp hsecret hready hlive hidle hcurrent hid
      hversion href hbackend hunique

theorem completeSecretMutation_change {backendVersion : ℕ} {item : Parameter}
    (h : completeSecretMutation now t m backendVersion = .ok (item, t'))
    (hcompleted : R.completed t m) : Change R t t' := by
  obtain ⟨_, _, hw, hm, ⟨-, rfl⟩ | ⟨hpending, _, _, hpath, hdescription, rfl⟩⟩ :=
    completeSecretMutation_eq_ok h
  · exact .same ⟨rfl, rfl, rfl⟩
  · exact .complete hcompleted hw hm hpending hpath hdescription

theorem abandonSecretMutation_change (h : abandonSecretMutation t m = .ok t') :
    Change R t t' := by
  rcases abandonSecretMutation_eq_ok h with rfl | ⟨⟨_, _, hw, hm, hpending⟩, rfl⟩
  · exact .same ⟨rfl, rfl, rfl⟩
  · exact .abandon hw hm hpending

/-- A creation hands out the description of a version. -/
theorem beginCreateSecretParameter_describes
    (h : beginCreateSecretParameter now t workspaceId actorId publicId path description reference
      fingerprint key payload = .ok (m, existing, t')) :
    ∃ j v, t'.versions.lookup j = some v ∧ Describes t' m v := by
  rcases beginCreateSecretParameter_eq_ok h with
    ⟨-, rfl, j, v, hv, hm⟩ | ⟨-, -, -, -, -, rfl, rfl⟩
  · exact ⟨j, v, hv, hm⟩
  · exact ⟨_, _, lookup_insert_self, ⟨⟨_, lookup_insert_self, rfl⟩, rfl, rfl, rfl, rfl, rfl⟩⟩

/-- So does a replacement. -/
theorem beginReplaceSecretParameter_describes
    (h : beginReplaceSecretParameter now t workspaceId actorId publicId path description
      resourceVersion fingerprint key payload = .ok (m, existing, t')) :
    ∃ j v, t'.versions.lookup j = some v ∧ Describes t' m v := by
  rcases beginReplaceSecretParameter_eq_ok h with ⟨-, rfl, j, v, hv, hm⟩ |
    ⟨-, i, p, j, current, reference, backend, hp, -, -, -, -, -, -, -, -, ⟨-, hid, -⟩, -, rfl, rfl⟩
  · exact ⟨j, v, hv, hm⟩
  · exact ⟨_, _, lookup_insert_self, ⟨⟨p, hp, hid.symm⟩, rfl, rfl, rfl, rfl, rfl⟩⟩

end Changes

/-! ### The invariant -/

/-- Where a version stands in the history of its parameter. -/
def Placed (p : Parameter) (w : ParameterVersion) : Prop :=
  (w.valueState ≠ .pending ∧ w.version ≤ settled p) ∨
    (w.valueState = .pending ∧ w.version = settled p + 1)

/-- The versions of a parameter are settled up to a number, the next one may be pending, and
reservations are held by the pending ones. -/
structure History (t : Tables) : Prop where
  owned : ∀ j w, t.versions.lookup j = some w →
    ∃ p, t.parameters.lookup w.parameterId = some p ∧ 1 ≤ w.version ∧ Placed p w
  unique : ∀ j w k x, t.versions.lookup j = some w → t.versions.lookup k = some x →
    w.parameterId = x.parameterId → w.version = x.version → j = k
  filled : ∀ i p v, t.parameters.lookup i = some p → 1 ≤ v → v ≤ settled p →
    ∃ j w, t.versions.lookup j = some w ∧ w.parameterId = i ∧ w.version = v
  begun : ∀ i p, t.parameters.lookup i = some p → p.valueState = .pending →
    HasPendingVersion t i
  shown : ∀ i p, t.parameters.lookup i = some p → p.valueState ≠ .pending →
    1 ≤ p.currentVersion
  reserved : ∀ k r, t.reservations.lookup k = some r →
    ∃ j w, t.versions.lookup j = some w ∧ w.valueState = .pending ∧
      w.parameterId = r.parameterId ∧ w.version = r.parameterVersion ∧
      w.requestedPath = some r.path
  reserves : ∀ j w, t.versions.lookup j = some w → w.valueState = .pending →
    ∃ k r, t.reservations.lookup k = some r ∧ r.parameterId = w.parameterId ∧
      r.parameterVersion = w.version
  single : ∀ k r l q, t.reservations.lookup k = some r → t.reservations.lookup l = some q →
    r.parameterId = q.parameterId → r.parameterVersion = q.parameterVersion → k = l
  distinct : ∀ i p j q, t.parameters.lookup i = some p → t.parameters.lookup j = some q →
    p.publicId = q.publicId → i = j

theorem settled_of_not_pending (hp : p.valueState ≠ .pending) :
    settled p = p.currentVersion :=
  if_neg hp

theorem settled_of_pending (hp : p.valueState = .pending) : settled p = 0 :=
  if_pos hp

theorem hasPendingVersion_iff {i : ℕ} : HasPendingVersion t i ↔
    ∃ j w, t.versions.lookup j = some w ∧ w.parameterId = i ∧ w.valueState = .pending :=
  any_iff

theorem HasPendingVersion.insert {i : ℕ} {parameters : Table Parameter}
    {reservations : Table Reservation} (h : HasPendingVersion t i) (v : ParameterVersion) :
    HasPendingVersion { t with parameters, versions := t.versions.insert v, reservations } i :=
  hasPendingVersion_iff.mpr (exists_lookup_insert v (hasPendingVersion_iff.mp h))

namespace History

variable {i j k : ℕ} {w x : ParameterVersion} {m : SecretMutation}

theorem placed (h : History t) (hw : t.versions.lookup j = some w)
    (hp : t.parameters.lookup w.parameterId = some p) : Placed p w := by
  obtain ⟨_, hq, -, hplaced⟩ := h.owned j w hw
  cases hq.symm.trans hp
  exact hplaced

theorem owner_lt (h : History t) (hw : t.versions.lookup j = some w) :
    w.parameterId < t.parameters.nextId := by
  obtain ⟨_, hp, -⟩ := h.owned j w hw
  exact lt_nextId hp

/-- **At most one version of a parameter is pending.** -/
theorem eq_of_pending (h : History t) (hw : t.versions.lookup j = some w)
    (hx : t.versions.lookup k = some x) (hid : w.parameterId = x.parameterId)
    (hpw : w.valueState = .pending) (hpx : x.valueState = .pending) : j = k := by
  obtain ⟨_, hp, -, hplaced⟩ := h.owned j w hw
  have hplaced' := h.placed hx (hid ▸ hp)
  refine h.unique j w k x hw hx hid ?_
  rcases hplaced with ⟨hne, -⟩ | ⟨-, hv⟩
  · exact absurd hpw hne
  rcases hplaced' with ⟨hne, -⟩ | ⟨-, hv'⟩
  · exact absurd hpx hne
  · rw [hv, hv']

/-- The row that a mutation names is the only one. -/
theorem eq_of_names (h : History t) (hw : t.versions.lookup j = some w) (hm : m.Names w)
    (hx : t.versions.lookup k = some x) (hmx : m.Names x) : k = j :=
  h.unique k x j w hx hw (hmx.1.trans hm.1.symm) (hmx.2.trans hm.2.symm)

/-- A parameter without pending versions is not being created. -/
theorem not_pending_of_idle (h : History t) (hp : t.parameters.lookup i = some p)
    (hidle : ¬ HasPendingVersion t i) : p.valueState ≠ .pending :=
  fun hpending => hidle (h.begun i p hp hpending)

/-- All versions of a parameter without pending ones are settled. -/
theorem le_current_of_idle (h : History t) (hp : t.parameters.lookup i = some p)
    (hidle : ¬ HasPendingVersion t i) (hw : t.versions.lookup j = some w)
    (hid : w.parameterId = i) : w.valueState ≠ .pending ∧ w.version ≤ p.currentVersion := by
  subst hid
  rcases h.placed hw hp with ⟨hne, hle⟩ | ⟨hpending, -⟩
  · exact ⟨hne, settled_of_not_pending (h.not_pending_of_idle hp hidle) ▸ hle⟩
  · exact absurd (hasPendingVersion_iff.mpr ⟨j, w, hw, rfl, hpending⟩) hidle

/-- A version is inserted. If it is pending, a path is reserved for it. -/
def Reserves (t : Tables) (v : ParameterVersion) (reservations : Table Reservation) : Prop :=
  (v.valueState ≠ .pending ∧ reservations = t.reservations) ∨
    (v.valueState = .pending ∧ ∃ workspaceId path, v.requestedPath = some path ∧
      reservations = t.reservations.insert ⟨workspaceId, path, v.parameterId, v.version⟩)

theorem reserved_insert (h : History t) {v : ParameterVersion} {reservations : Table Reservation}
    (hres : Reserves t v reservations) : ∀ k r, reservations.lookup k = some r →
      ∃ j w, (t.versions.insert v).lookup j = some w ∧ w.valueState = .pending ∧
        w.parameterId = r.parameterId ∧ w.version = r.parameterVersion ∧
        w.requestedPath = some r.path := by
  have hkept := fun k r hr => exists_lookup_insert v (h.reserved k r hr)
  rcases hres with ⟨-, rfl⟩ | ⟨hpending, _, _, hpath, rfl⟩
  · exact hkept
  · exact forall_insert hkept ⟨_, v, lookup_insert_self, hpending, rfl, rfl, hpath⟩

theorem reserves_insert (h : History t) {v : ParameterVersion} {reservations : Table Reservation}
    (hres : Reserves t v reservations) : ∀ j w, (t.versions.insert v).lookup j = some w →
      w.valueState = .pending → ∃ k r, reservations.lookup k = some r ∧
        r.parameterId = w.parameterId ∧ r.parameterVersion = w.version := by
  rcases hres with ⟨hne, rfl⟩ | ⟨-, _, _, -, rfl⟩
  · exact forall_insert h.reserves fun hpending => absurd hpending hne
  · exact forall_insert (fun j w hw hpending => exists_lookup_insert _ (h.reserves j w hw hpending))
      fun _ => ⟨_, _, lookup_insert_self, rfl, rfl⟩

theorem single_insert (h : History t) {v : ParameterVersion} {reservations : Table Reservation}
    (hres : Reserves t v reservations)
    (hnone : ∀ {k r}, t.reservations.lookup k = some r → r.parameterId ≠ v.parameterId) :
    ∀ k r l q, reservations.lookup k = some r → reservations.lookup l = some q →
      r.parameterId = q.parameterId → r.parameterVersion = q.parameterVersion → k = l := by
  rcases hres with ⟨-, rfl⟩ | ⟨-, _, _, -, rfl⟩
  · exact h.single
  · exact forall_pairs_insert h.single (fun _ _ => rfl) fun k r hr =>
      ⟨fun he => absurd he.symm (hnone hr), fun he => absurd he (hnone hr)⟩

/-! ### A new parameter -/

/-- A parameter is inserted with its first version; if that is pending, so is the parameter, and a
path is reserved. -/
theorem insertFirst (h : History t) {v : ParameterVersion} {reservations : Table Reservation}
    (hfresh : ∀ j q, t.parameters.lookup j = some q → q.publicId ≠ p.publicId)
    (hcurrent : p.currentVersion = 1) (hid : v.parameterId = t.parameters.nextId)
    (hversion : v.version = 1) (hstate : v.valueState = p.valueState)
    (hres : Reserves t v reservations) :
    History { t with
      parameters := t.parameters.insert p
      versions := t.versions.insert v
      reservations := reservations } := by
  have hnew : ∀ {k x}, t.versions.lookup k = some x → x.parameterId ≠ v.parameterId := by
    intro k x hx he
    exact absurd (h.owner_lt hx) (by omega)
  have hold : ∀ {k r}, t.reservations.lookup k = some r → r.parameterId ≠ v.parameterId := by
    intro k r hr he
    obtain ⟨_, _, hw, -, hwi, -⟩ := h.reserved k r hr
    exact hnew hw (hwi.trans he)
  have hsettled : settled p ≤ 1 := by
    unfold settled
    split <;> omega
  refine
    { owned := forall_insert (fun j w hw => ?_) ⟨p, ?_, Nat.le_of_eq hversion.symm, ?_⟩
      unique := forall_pairs_insert h.unique (fun _ _ => rfl) fun k x hx =>
        ⟨fun hvx => absurd hvx.symm (hnew hx), fun hxv => absurd hxv (hnew hx)⟩
      filled := fun i q n hq hn hle => ?_
      begun := forall_insert (fun i q hq hpending => (h.begun i q hq hpending).insert v)
        fun hpending => hasPendingVersion_iff.mpr
          ⟨_, v, lookup_insert_self, hid, hstate.trans hpending⟩
      shown := forall_insert h.shown fun _ => Nat.le_of_eq hcurrent.symm
      reserved := h.reserved_insert hres
      reserves := h.reserves_insert hres
      single := h.single_insert hres hold
      distinct := forall_pairs_insert h.distinct (fun _ => rfl) fun i q hq =>
        ⟨fun he => absurd he.symm (hfresh i q hq), fun he => absurd he (hfresh i q hq)⟩ }
  · obtain ⟨q, hq, hplaced⟩ := h.owned j w hw
    exact ⟨q, lookup_insert_of_lookup hq, hplaced⟩
  · rw [hid]
    exact lookup_insert_self
  · by_cases hpending : p.valueState = .pending
    · exact .inr ⟨hstate.trans hpending, by rw [settled_of_pending hpending, hversion]⟩
    · exact .inl ⟨hstate ▸ hpending, by rw [settled_of_not_pending hpending]; omega⟩
  · rcases lookup_insert_eq_some.mp hq with ⟨rfl, rfl⟩ | hq
    · exact ⟨_, v, lookup_insert_self, hid, by omega⟩
    · exact exists_lookup_insert v (h.filled i q n hq hn hle)

/-! ### A next version -/

/-- The next version of a parameter is inserted. It is settled at once, or it is pending and its
path is reserved. -/
theorem insertNext (h : History t) {v : ParameterVersion} {p' : Parameter}
    {parameters : Table Parameter} {reservations : Table Reservation}
    (hp : t.parameters.lookup i = some p) (hidle : ¬ HasPendingVersion t i)
    (hid : v.parameterId = i) (hversion : v.version = p.currentVersion + 1)
    (hself : parameters.lookup i = some p')
    (hother : ∀ j, j ≠ i → parameters.lookup j = t.parameters.lookup j)
    (hpublic : p'.publicId = p.publicId) (hvalue : p'.valueState = p.valueState)
    (hcurrent : p'.currentVersion = p.currentVersion +
      if v.valueState = .pending then 0 else 1) (hres : Reserves t v reservations) :
    History { t with
      versions := t.versions.insert v
      parameters := parameters
      reservations := reservations } := by
  have hne := h.not_pending_of_idle hp hidle
  have hsettled := settled_of_not_pending hne
  have hsettled' := settled_of_not_pending (p := p') (hvalue ▸ hne)
  have hgrows : p.currentVersion ≤ p'.currentVersion ∧ p'.currentVersion ≤ v.version := by
    split at hcurrent <;> omega
  have hlt : ∀ {k x}, t.versions.lookup k = some x → x.parameterId = v.parameterId →
      x.version ≠ v.version := by
    intro k x hx hxi hxv
    have := (h.le_current_of_idle hp hidle hx (hxi.trans hid)).2
    omega
  have hold : ∀ {k r}, t.reservations.lookup k = some r → r.parameterId ≠ v.parameterId := by
    intro k r hr hri
    obtain ⟨j, w, hw, hpending, hwi, -⟩ := h.reserved k r hr
    exact hidle (hasPendingVersion_iff.mpr ⟨j, w, hw, hwi.trans (hri.trans hid), hpending⟩)
  -- a parameter afterwards is the one that got the version, or another one that is as it was
  have hparam : ∀ {j q}, parameters.lookup j = some q →
      (j = i ∧ q = p') ∨ t.parameters.lookup j = some q := by
    intro j q hq
    by_cases hj : j = i
    · subst hj
      exact .inl ⟨rfl, Option.mem_unique hq hself⟩
    · exact .inr ((hother j hj).symm.trans hq)
  refine
    { owned := forall_insert (fun j w hw => ?_) ⟨p', hid ▸ hself, by omega, ?_⟩
      unique := forall_pairs_insert h.unique (fun _ _ => rfl) fun k x hx =>
        ⟨fun hxi hxv => absurd hxv.symm (hlt hx hxi.symm), fun hxi hxv => absurd hxv (hlt hx hxi)⟩
      filled := fun j q n hq hn hle => ?_
      begun := fun j q hq hpending => ?_
      shown := fun j q hq hnot => ?_
      reserved := h.reserved_insert hres
      reserves := h.reserves_insert hres
      single := h.single_insert hres hold
      distinct := fun j q k r hq hr hqr => ?_ }
  · obtain ⟨q, hq, hpos, hplaced⟩ := h.owned j w hw
    by_cases hwi : w.parameterId = i
    · obtain ⟨hnot, _⟩ := h.le_current_of_idle hp hidle hw hwi
      exact ⟨p', hwi ▸ hself, hpos, .inl ⟨hnot, by omega⟩⟩
    · exact ⟨q, (hother _ hwi).trans hq, hpos, hplaced⟩
  · split at hcurrent <;> rename_i hpending
    · exact .inr ⟨hpending, by omega⟩
    · exact .inl ⟨hpending, by omega⟩
  · have hrow : ∀ {q}, t.parameters.lookup j = some q → n ≤ settled q → ∃ k w,
        (t.versions.insert v).lookup k = some w ∧ w.parameterId = j ∧ w.version = n :=
      fun hq hle => exists_lookup_insert v (h.filled j _ n hq hn hle)
    rcases hparam hq with ⟨rfl, rfl⟩ | hq
    · rcases Nat.lt_or_ge (settled p) n with hlast | hle
      · exact ⟨_, v, lookup_insert_self, hid, by omega⟩
      · exact hrow hp hle
    · exact hrow hq hle
  · rcases hparam hq with ⟨rfl, rfl⟩ | hq
    · exact absurd (hvalue ▸ hpending) hne
    · exact (h.begun j q hq hpending).insert v
  · rcases hparam hq with ⟨rfl, rfl⟩ | hq
    · exact Nat.le_trans (h.shown j p hp hne) hgrows.1
    · exact h.shown j q hq hnot
  · rcases hparam hq with ⟨rfl, rfl⟩ | hq <;> rcases hparam hr with ⟨rfl, rfl⟩ | hr
    · rfl
    · exact h.distinct j p k r hp hr (hpublic.symm.trans hqr)
    · exact h.distinct j q k p hq hp (hqr.trans hpublic)
    · exact h.distinct j q k r hq hr hqr

/-! ### Closing a mutation -/

/-- A version after `CompleteSecretMutation`: the pending row became ready, or it is another row
and is as it was. -/
theorem lookup_complete (h : History t) (now : Time) (hw : t.versions.lookup j = some w)
    (hm : m.Names w)
    (hx : (t.versions.modify (fun _ w => m.Names w) (ParameterVersion.complete now)).lookup k =
      some x) :
    (k = j ∧ x = w.complete now) ∨ (k ≠ j ∧ ¬ m.Names x ∧ t.versions.lookup k = some x) := by
  obtain ⟨_, hy, ⟨hnames, rfl⟩ | ⟨hnot, rfl⟩⟩ := lookup_modify_eq_some.mp hx
  · obtain rfl := h.eq_of_names hw hm hy hnames
    cases hw.symm.trans hy
    exact .inl ⟨rfl, rfl⟩
  · refine .inr ⟨?_, hnot, hy⟩
    rintro rfl
    cases hw.symm.trans hy
    exact hnot hm

/-- **Completing a pending version settles it**, whichever mutation it was reserved for. -/
theorem complete (h : History t) (now : Time) (path description : String)
    (hw : t.versions.lookup j = some w) (hm : m.Names w) (hpending : w.valueState = .pending) :
    History (completeTables now t m path description) := by
  obtain ⟨p, hp, hpos, hplaced⟩ := h.owned j w hw
  have hnext : w.version = settled p + 1 := by
    rcases hplaced with ⟨hne, -⟩ | ⟨-, hv⟩
    · exact absurd hpending hne
    · exact hv
  have hsettled : settled (p.complete path description m.parameterVersion) = settled p + 1 := by
    rw [settled_of_not_pending (by simp [Parameter.complete]), ← hnext]
    exact hm.2.symm
  have hself : (completeTables now t m path description).parameters.lookup w.parameterId =
      some (p.complete path description m.parameterVersion) :=
    lookup_modify_of_pos hp hm.1
  have hparam : ∀ {i q}, (completeTables now t m path description).parameters.lookup i = some q →
      (i = w.parameterId ∧ q = p.complete path description m.parameterVersion) ∨
        (i ≠ w.parameterId ∧ t.parameters.lookup i = some q) := by
    intro i q hq
    obtain ⟨_, hq', ⟨rfl, rfl⟩ | ⟨hi, rfl⟩⟩ := lookup_modify_eq_some.mp hq
    · rw [hm.1] at hp
      cases hp.symm.trans hq'
      exact .inl ⟨hm.1.symm, rfl⟩
    · exact .inr ⟨fun he => hi (he.trans hm.1), hq'⟩
  have hother : ∀ {k x}, t.versions.lookup k = some x → ¬ m.Names x →
      (t.versions.modify (fun _ w => m.Names w) (ParameterVersion.complete now)).lookup k =
        some x :=
    fun hx hnot => lookup_modify_of_neg hx hnot
  have hcompleted := lookup_modify_of_pos (p := fun _ w => m.Names w)
    (f := ParameterVersion.complete now) hw hm
  refine
    { owned := fun k x hx => ?_
      unique := forall_pairs_modify (fun w : ParameterVersion => (w.parameterId, w.version))
        (R := fun k x l y => x.1 = y.1 → x.2 = y.2 → k = l) h.unique
      filled := fun i q n hq hn hle => ?_
      begun := fun i q hq hq' => ?_
      shown := fun i q hq hq' => ?_
      reserved := fun k r hr => ?_
      reserves := fun k x hx hx' => ?_
      single := forall_pairs_delete h.single
      distinct := forall_pairs_modify Parameter.publicId
        (R := fun i x j y => x = y → i = j) h.distinct }
  · rcases h.lookup_complete now hw hm hx with ⟨rfl, rfl⟩ | ⟨hk, _, hx'⟩
    · refine ⟨_, hself, hpos, .inl ⟨by simp [ParameterVersion.complete], ?_⟩⟩
      rw [hsettled, ← hnext]
      exact Nat.le_refl _
    · obtain ⟨q, hq, hpos', hplaced'⟩ := h.owned k x hx'
      by_cases hid : x.parameterId = w.parameterId
      · rw [hid] at hq
        cases hp.symm.trans hq
        rcases hplaced' with ⟨hne, _⟩ | ⟨hx'', -⟩
        · exact ⟨_, hid ▸ hself, hpos', .inl ⟨hne, by omega⟩⟩
        · exact absurd (h.eq_of_pending hx' hw hid hx'' hpending) hk
      · refine ⟨q, ?_, hpos', hplaced'⟩
        exact lookup_modify_of_neg hq fun he => hid (he.trans hm.1.symm)
  · have hrow : ∀ {n}, (∃ k x, t.versions.lookup k = some x ∧ x.parameterId = i ∧
        x.version = n) → ∃ k x, (t.versions.modify (fun _ w => m.Names w)
          (ParameterVersion.complete now)).lookup k = some x ∧ x.parameterId = i ∧
            x.version = n := by
      rintro n ⟨k, x, hx, hxi, hxn⟩
      by_cases hnames : m.Names x
      · exact ⟨k, x.complete now, lookup_modify_of_pos hx hnames, hxi, hxn⟩
      · exact ⟨k, x, hother hx hnames, hxi, hxn⟩
    rcases hparam hq with ⟨rfl, rfl⟩ | ⟨-, hq'⟩
    · rcases Nat.lt_or_ge n (settled p + 1) with hlt | hge
      · exact hrow (h.filled _ p n hp hn (by omega))
      · exact hrow ⟨j, w, hw, rfl, by omega⟩
    · exact hrow (h.filled i q n hq' hn hle)
  · rcases hparam hq with ⟨rfl, rfl⟩ | ⟨hi, hold⟩
    · simp [Parameter.complete] at hq'
    · obtain ⟨k, x, hx, hxi, hx'⟩ := hasPendingVersion_iff.mp (h.begun i q hold hq')
      refine hasPendingVersion_iff.mpr ⟨k, x, hother hx fun hnames => ?_, hxi, hx'⟩
      exact hi (hxi.symm.trans (hnames.1.trans hm.1.symm))
  · rcases hparam hq with ⟨rfl, rfl⟩ | ⟨-, hold⟩
    · exact hm.2 ▸ hpos
    · exact h.shown i q hold hq'
  · obtain ⟨hr', hkept⟩ := lookup_delete_eq_some.mp hr
    obtain ⟨k', x, hx, hx', hxi, hxv, hpath⟩ := h.reserved k r hr'
    refine ⟨k', x, hother hx fun hnames => hkept ?_, hx', hxi, hxv, hpath⟩
    exact ⟨hxi.symm.trans hnames.1, hxv.symm.trans hnames.2⟩
  · rcases h.lookup_complete now hw hm hx with ⟨rfl, rfl⟩ | ⟨-, hnot, hold⟩
    · simp [ParameterVersion.complete] at hx'
    · obtain ⟨l, r, hr, hri, hrv⟩ := h.reserves k x hold hx'
      refine ⟨l, r, lookup_delete_eq_some.mpr ⟨hr, fun hnames => hnot ?_⟩, hri, hrv⟩
      exact ⟨hri.symm.trans hnames.1, hrv.symm.trans hnames.2⟩

/-- A parameter that is being created has no version but the pending one. -/
theorem names_of_creating (h : History t) (hw : t.versions.lookup j = some w) (hm : m.Names w)
    (hpending : w.valueState = .pending) (hp : t.parameters.lookup m.parameterId = some p)
    (hcreating : p.valueState = .pending) (hx : t.versions.lookup k = some x)
    (hxi : x.parameterId = m.parameterId) : m.Names x := by
  obtain ⟨_, hq, _, hplaced⟩ := h.owned k x hx
  rw [hxi] at hq
  cases hp.symm.trans hq
  rw [Placed, settled_of_pending hcreating] at hplaced
  rcases hplaced with ⟨-, _⟩ | ⟨hx', -⟩
  · omega
  · obtain rfl := h.eq_of_pending hx hw (hxi.trans hm.1.symm) hx' hpending
    cases hw.symm.trans hx
    exact hm

/-- **Abandoning a pending version** takes away a parameter that had nothing else. -/
theorem abandon (h : History t) (hw : t.versions.lookup j = some w) (hm : m.Names w)
    (hpending : w.valueState = .pending) :
    History (abandonTables t m) := by
  have halone : ∀ {p}, t.parameters.lookup m.parameterId = some p → p.valueState = .pending →
      ∀ {k x}, t.versions.lookup k = some x → x.parameterId = m.parameterId → m.Names x :=
    fun hp hcreating _ _ hx hxi => h.names_of_creating hw hm hpending hp hcreating hx hxi
  have hkeep : ∀ {k x}, t.versions.lookup k = some x → ¬ (m.Names x ∧ x.valueState = .pending) →
      (t.versions.delete fun _ w => m.Names w ∧ w.valueState = .pending).lookup k = some x :=
    fun hx hnot => lookup_delete_eq_some.mpr ⟨hx, hnot⟩
  refine
    { owned := fun k x hx => ?_
      unique := forall_pairs_delete h.unique
      filled := fun i q n hq hn hle => ?_
      begun := fun i q hq hq' => ?_
      shown := fun i q hq => h.shown i q (lookup_delete_eq_some.mp hq).1
      reserved := fun k r hr => ?_
      reserves := fun k x hx hx' => ?_
      single := forall_pairs_delete h.single
      distinct := forall_pairs_delete h.distinct }
  · obtain ⟨hx', hkept⟩ := lookup_delete_eq_some.mp hx
    obtain ⟨q, hq, hrest⟩ := h.owned k x hx'
    refine ⟨q, lookup_delete_eq_some.mpr ⟨hq, ?_⟩, hrest⟩
    rintro ⟨hxi, hcreating⟩
    have hnames := halone (hxi ▸ hq) hcreating hx' hxi
    obtain rfl := h.eq_of_names hw hm hx' hnames
    cases hw.symm.trans hx'
    exact hkept ⟨hm, hpending⟩
  · obtain ⟨hq', -⟩ := lookup_delete_eq_some.mp hq
    obtain ⟨k, x, hx, hxi, hxn⟩ := h.filled i q n hq' hn hle
    refine ⟨k, x, hkeep hx fun hnames => ?_, hxi, hxn⟩
    rcases h.placed hx (hxi ▸ hq') with ⟨hne, -⟩ | ⟨-, _⟩
    · exact hne hnames.2
    · omega
  · obtain ⟨hq'', hkept⟩ := lookup_delete_eq_some.mp hq
    obtain ⟨k, x, hx, hxi, hx'⟩ := hasPendingVersion_iff.mp (h.begun i q hq'' hq')
    refine hasPendingVersion_iff.mpr ⟨k, x, hkeep hx fun hnames => ?_, hxi, hx'⟩
    exact hkept ⟨hxi.symm.trans hnames.1.1, hq'⟩
  · obtain ⟨hr', hkept⟩ := lookup_delete_eq_some.mp hr
    obtain ⟨k', x, hx, hx', hxi, hxv, hpath⟩ := h.reserved k r hr'
    refine ⟨k', x, hkeep hx fun hnames => hkept ?_, hx', hxi, hxv, hpath⟩
    exact ⟨hxi.symm.trans hnames.1.1, .inl (hxv.symm.trans hnames.1.2)⟩
  · obtain ⟨hold, hkept⟩ := lookup_delete_eq_some.mp hx
    obtain ⟨l, r, hr, hri, hrv⟩ := h.reserves k x hold hx'
    refine ⟨l, r, lookup_delete_eq_some.mpr ⟨hr, ?_⟩, hri, hrv⟩
    rintro ⟨hrm, hrest⟩
    refine hkept ⟨⟨hri.symm.trans hrm, ?_⟩, hx'⟩
    rcases hrest with hversion | hcreating
    · exact hrv.symm.trans hversion
    · obtain ⟨_, _, hp, rfl, hp'⟩ := any_iff.mp hcreating
      exact (halone hp hp' hold (hri.symm.trans hrm)).2

/-! ### Every change -/

/-- What of a version its place in the history depends on. -/
def versionPlace (w : ParameterVersion) : ℕ × ℕ × Bool × Option String :=
  (w.parameterId, w.version, decide (w.valueState = .pending), w.requestedPath)

/-- What of a parameter its history depends on. -/
def parameterPlace (p : Parameter) : String × ℕ × Bool :=
  (p.publicId, p.currentVersion, decide (p.valueState = .pending))

theorem settled_of_place {q : Parameter} (h : parameterPlace q = parameterPlace p) :
    settled q = settled p ∧ (q.valueState = .pending ↔ p.valueState = .pending) ∧
      q.currentVersion = p.currentVersion := by
  simp only [parameterPlace, Prod.mk.injEq, decide_eq_decide] at h
  obtain ⟨-, hcurrent, hstate⟩ := h
  refine ⟨?_, hstate, hcurrent⟩
  by_cases hp : p.valueState = .pending
  · rw [settled_of_pending hp, settled_of_pending (hstate.mpr hp)]
  · rw [settled_of_not_pending hp, settled_of_not_pending fun hq => hp (hstate.mp hq), hcurrent]

/-- The history depends on places only. -/
theorem of_agree (h : History t) (hv : Table.Agree versionPlace t.versions t'.versions)
    (hp : Table.Agree parameterPlace t.parameters t'.parameters)
    (hr : t'.reservations = t.reservations) : History t' := by
  have hrow : ∀ {t₁ t₂ : Tables}, Table.Agree versionPlace t₁.versions t₂.versions → ∀ {k x},
      t₁.versions.lookup k = some x → ∃ y, t₂.versions.lookup k = some y ∧
        y.parameterId = x.parameterId ∧ y.version = x.version ∧
        (y.valueState = .pending ↔ x.valueState = .pending) ∧
        y.requestedPath = x.requestedPath := by
    intro t₁ t₂ hagree k x hx
    obtain ⟨y, hy, heq⟩ := hagree.exists_lookup hx
    simp only [versionPlace, Prod.mk.injEq, decide_eq_decide] at heq
    exact ⟨y, hy, heq⟩
  refine
    { owned := fun k x hx => ?_
      unique := hv.forall_pairs (R := fun k x l y => x.1 = y.1 → x.2.1 = y.2.1 → k = l) h.unique
      filled := fun i q n hq hn hle => ?_
      begun := fun i q hq hq' => ?_
      shown := fun i q hq hq' => ?_
      reserved := fun k r hk => ?_
      reserves := fun k x hx hx' => ?_
      single := hr ▸ h.single
      distinct := hp.forall_pairs (R := fun i x j y => x.1 = y.1 → i = j) h.distinct }
  · obtain ⟨y, hy, hyi, hyv, hys, -⟩ := hrow hv.symm hx
    obtain ⟨_, hp', hpos, hplaced⟩ := h.owned k y hy
    obtain ⟨q, hq, hplace⟩ := hp.exists_lookup hp'
    refine ⟨q, hyi ▸ hq, hyv ▸ hpos, ?_⟩
    rw [Placed, (settled_of_place hplace).1, ← hyv, ne_eq, ← hys]
    exact hplaced
  · obtain ⟨p, hp', hplace⟩ := hp.symm.exists_lookup hq
    obtain ⟨k, _, hx, hxi, hxn⟩ := h.filled i p n hp' hn ((settled_of_place hplace).1 ▸ hle)
    obtain ⟨y, hy, hyi, hyv, -⟩ := hrow hv hx
    exact ⟨k, y, hy, hyi.trans hxi, hyv.trans hxn⟩
  · obtain ⟨p, hp', hplace⟩ := hp.symm.exists_lookup hq
    obtain ⟨k, _, hx, hxi, hx'⟩ :=
      hasPendingVersion_iff.mp (h.begun i p hp' ((settled_of_place hplace).2.1.mpr hq'))
    obtain ⟨y, hy, hyi, -, hys, -⟩ := hrow hv hx
    exact hasPendingVersion_iff.mpr ⟨k, y, hy, hyi.trans hxi, hys.mpr hx'⟩
  · obtain ⟨p, hp', hplace⟩ := hp.symm.exists_lookup hq
    have hpos := h.shown i p hp' fun hpending => hq' ((settled_of_place hplace).2.1.mp hpending)
    exact (settled_of_place hplace).2.2 ▸ hpos
  · obtain ⟨l, _, hx, hx', hxi, hxv, hpath⟩ := h.reserved k r (hr ▸ hk)
    obtain ⟨y, hy, hyi, hyv, hys, hypath⟩ := hrow hv hx
    exact ⟨l, y, hy, hys.mpr hx', hyi.trans hxi, hyv.trans hxv, hypath.trans hpath⟩
  · obtain ⟨y, hy, hyi, hyv, hys, -⟩ := hrow hv.symm hx
    obtain ⟨l, r, hl, hri, hrv⟩ := h.reserves k y hy (hys.mpr hx')
    exact ⟨l, r, hr ▸ hl, hri.trans hyi, hrv.trans hyv⟩

/-- **Every transaction keeps the history.** -/
theorem change (h : History t) (hc : Change R t t') : History t' := by
  cases hc with
  | same hsame =>
    obtain ⟨_, _, _, _⟩ := t'
    obtain ⟨rfl, rfl, rfl⟩ := hsame
    exact { h with }
  | create _ _ hfresh =>
    exact h.insertFirst hfresh rfl rfl rfl rfl (.inl ⟨nofun, rfl⟩)
  | replace _ hp _ hidle =>
    exact h.insertNext hp hidle rfl rfl (lookup_modify_of_pos hp ⟨rfl, rfl⟩)
      (fun j hj => by simp [hj]) rfl rfl rfl (.inl ⟨nofun, rfl⟩)
  | reserveFirst _ _ hfresh =>
    exact h.insertFirst hfresh rfl rfl rfl rfl (.inr ⟨rfl, _, _, rfl, rfl⟩)
  | reserveNext _ hp _ _ _ hidle =>
    exact h.insertNext hp hidle rfl rfl hp (fun _ _ => rfl) rfl rfl rfl (.inr ⟨rfl, _, _, rfl, rfl⟩)
  | complete _ hw hm hpending => exact h.complete _ _ _ hw hm hpending
  | abandon hw hm hpending => exact h.abandon hw hm hpending
  | archive => exact h.of_agree (.refl _ _) (agree_modify fun _ => rfl) rfl

end History

/-! ### At any moment -/

/-- Nothing has been purged. -/
structure Unpurged (t : Tables) : Prop where
  parameters : ∀ i p, t.parameters.lookup i = some p → p.valueState ≠ .purged
  versions : ∀ j w, t.versions.lookup j = some w → w.valueState ≠ .purged

/-- No transaction but a purge purges. -/
theorem Unpurged.change (h : Unpurged t) (hc : Change R t t') : Unpurged t' := by
  cases hc with
  | same hsame =>
    exact ⟨fun i p hp => h.parameters i p (hsame.1 ▸ hp),
      fun j w hw => h.versions j w (hsame.2.1 ▸ hw)⟩
  | create | reserveFirst =>
    exact ⟨forall_insert h.parameters nofun, forall_insert h.versions nofun⟩
  | replace =>
    exact ⟨forall_modify h.parameters fun i q hq _ => h.parameters i q hq,
      forall_insert h.versions nofun⟩
  | reserveNext => exact ⟨h.parameters, forall_insert h.versions nofun⟩
  | complete =>
    exact ⟨forall_modify h.parameters fun _ _ _ _ => nofun,
      forall_modify h.versions fun _ _ _ _ => nofun⟩
  | abandon =>
    exact ⟨fun i p hp => h.parameters i p (lookup_delete_eq_some.mp hp).1,
      fun j w hw => h.versions j w (lookup_delete_eq_some.mp hw).1⟩
  | archive =>
    exact ⟨forall_modify h.parameters fun i q hq _ => h.parameters i q hq, h.versions⟩

/-- **The versions of parameters at one moment.** -/
structure VersionHistory (t : Tables) : Prop where
  /-- A version belongs to a parameter, and no two versions of it have one number. -/
  owned : ∀ j w, t.versions.lookup j = some w → ∃ p, t.parameters.lookup w.parameterId = some p
  unique : ∀ j w k x, t.versions.lookup j = some w → t.versions.lookup k = some x →
    w.parameterId = x.parameterId → w.version = x.version → j = k
  /-- The versions are `1, …, n`, and one that is pending is the last. -/
  numbered : ∀ i p, t.parameters.lookup i = some p → ∃ n,
    (∀ v, (∃ j w, t.versions.lookup j = some w ∧ w.parameterId = i ∧ w.version = v) ↔
      1 ≤ v ∧ v ≤ n) ∧
    ∀ j w, t.versions.lookup j = some w → w.parameterId = i → w.valueState = .pending →
      w.version = n
  /-- At most one is pending. -/
  pending : ∀ j w k x, t.versions.lookup j = some w → t.versions.lookup k = some x →
    w.parameterId = x.parameterId → w.valueState = .pending → x.valueState = .pending → j = k
  /-- The current version is the largest that is ready. -/
  current : ∀ i p, t.parameters.lookup i = some p → p.valueState = .ready →
    IsGreatest {v | ∃ j w, t.versions.lookup j = some w ∧ w.parameterId = i ∧
      w.valueState = .ready ∧ w.version = v} p.currentVersion
  /-- A pending version has one reservation. -/
  reserves : ∀ j w, t.versions.lookup j = some w → w.valueState = .pending →
    ∃! k, ∃ r, t.reservations.lookup k = some r ∧ r.parameterId = w.parameterId ∧
      r.parameterVersion = w.version
  /-- There are no others, and they are for the paths that were asked for. -/
  reserved : ∀ k r, t.reservations.lookup k = some r →
    ∃ j w, t.versions.lookup j = some w ∧ w.valueState = .pending ∧
      w.parameterId = r.parameterId ∧ w.version = r.parameterVersion ∧
      w.requestedPath = some r.path

namespace History

variable {i j : ℕ} {w : ParameterVersion}

theorem numbered (h : History t) (hp : t.parameters.lookup i = some p) : ∃ n,
    (∀ v, (∃ j w, t.versions.lookup j = some w ∧ w.parameterId = i ∧ w.version = v) ↔
      1 ≤ v ∧ v ≤ n) ∧
    ∀ j w, t.versions.lookup j = some w → w.parameterId = i → w.valueState = .pending →
      w.version = n := by
  have hplaced : ∀ {j w}, t.versions.lookup j = some w → w.parameterId = i →
      1 ≤ w.version ∧ Placed p w := by
    rintro j w hw rfl
    obtain ⟨_, hq, hrest⟩ := h.owned j w hw
    cases hq.symm.trans hp
    exact hrest
  by_cases hpending : HasPendingVersion t i
  · obtain ⟨j, w, hw, hwi, hwp⟩ := hasPendingVersion_iff.mp hpending
    have hlast : ∀ {k x}, t.versions.lookup k = some x → x.parameterId = i →
        x.valueState = .pending → x.version = settled p + 1 := by
      intro k x hx hxi hxp
      rcases (hplaced hx hxi).2 with ⟨hne, -⟩ | ⟨-, hv⟩
      · exact absurd hxp hne
      · exact hv
    refine ⟨settled p + 1, fun v => ⟨?_, fun ⟨hpos, hle⟩ => ?_⟩, fun k x hx hxi hxp =>
      hlast hx hxi hxp⟩
    · rintro ⟨_, _, hx, hxi, rfl⟩
      obtain ⟨hpos, ⟨-, _⟩ | ⟨-, _⟩⟩ := hplaced hx hxi
      · exact ⟨hpos, by omega⟩
      · exact ⟨hpos, by omega⟩
    · rcases Nat.lt_or_ge v (settled p + 1) with hlt | hge
      · exact h.filled i p v hp hpos (by omega)
      · exact ⟨j, w, hw, hwi, by rw [hlast hw hwi hwp]; omega⟩
  · have hnone : ∀ {k x}, t.versions.lookup k = some x → x.parameterId = i →
        x.valueState ≠ .pending :=
      fun hx hxi hxp => hpending (hasPendingVersion_iff.mpr ⟨_, _, hx, hxi, hxp⟩)
    refine ⟨settled p, fun v => ⟨?_, fun ⟨hpos, hle⟩ => h.filled i p v hp hpos hle⟩,
      fun k x hx hxi hxp => absurd hxp (hnone hx hxi)⟩
    rintro ⟨_, _, hx, hxi, rfl⟩
    obtain ⟨hpos, ⟨-, hle⟩ | ⟨hxp, -⟩⟩ := hplaced hx hxi
    · exact ⟨hpos, hle⟩
    · exact absurd hxp (hnone hx hxi)

theorem current (h : History t) (hu : Unpurged t) (hp : t.parameters.lookup i = some p)
    (hready : p.valueState = .ready) :
    IsGreatest {v | ∃ j w, t.versions.lookup j = some w ∧ w.parameterId = i ∧
      w.valueState = .ready ∧ w.version = v} p.currentVersion := by
  have hne : p.valueState ≠ .pending := by rw [hready]; decide
  have hsettled := settled_of_not_pending hne
  constructor
  · obtain ⟨j, w, hw, hwi, hwv⟩ := h.filled i p p.currentVersion hp (h.shown i p hp hne)
      (Nat.le_of_eq hsettled.symm)
    refine ⟨j, w, hw, hwi, ?_, hwv⟩
    have hkept := hu.versions j w hw
    rcases h.placed hw (hwi ▸ hp) with ⟨_, -⟩ | ⟨-, _⟩
    · cases hs : w.valueState <;> simp_all
    · omega
  · rintro v ⟨_, _, hw, hwi, hwr, rfl⟩
    rcases h.placed hw (hwi ▸ hp) with ⟨-, _⟩ | ⟨hwp, -⟩
    · omega
    · rw [hwr] at hwp
      cases hwp

theorem exists_unique_reservation (h : History t) (hw : t.versions.lookup j = some w)
    (hpending : w.valueState = .pending) :
    ∃! k, ∃ r, t.reservations.lookup k = some r ∧ r.parameterId = w.parameterId ∧
      r.parameterVersion = w.version := by
  obtain ⟨k, r, hr, hri, hrv⟩ := h.reserves j w hw hpending
  refine ⟨k, ⟨r, hr, hri, hrv⟩, ?_⟩
  rintro l ⟨q, hq, hqi, hqv⟩
  exact h.single l q k r hq hr (hqi.trans hri.symm) (hqv.trans hrv.symm)

theorem versionHistory (h : History t) (hu : Unpurged t) : VersionHistory t where
  owned j w hw := by
    obtain ⟨p, hp, -⟩ := h.owned j w hw
    exact ⟨p, hp⟩
  unique := h.unique
  numbered _ _ hp := h.numbered hp
  pending _ _ _ _ hw hx hid hpw hpx := h.eq_of_pending hw hx hid hpw hpx
  current _ _ hp hready := h.current hu hp hready
  reserves _ _ hw hpending := h.exists_unique_reservation hw hpending
  reserved := h.reserved

end History

/-! ### From one moment to a later one -/

/-- What a reader of a parameter sees change. -/
def appearance (p : Parameter) : String × String × ℕ := (p.path, p.description, p.currentVersion)

/-- What of a parameter never changes. -/
def identity (p : Parameter) : String × ℕ × Kind := (p.publicId, p.workspaceId, p.kind)

/-- **What a later state keeps.** A ready version is never changed, and a ready parameter keeps its
resource version only as long as it looks the same. -/
structure Advances (t t' : Tables) : Prop where
  ready : ∀ j w, t.versions.lookup j = some w → w.valueState = .ready →
    t'.versions.lookup j = some w
  resource : ∀ i p, t.parameters.lookup i = some p → p.valueState = .ready →
    ∃ q, t'.parameters.lookup i = some q ∧ q.valueState = .ready ∧ identity q = identity p ∧
      p.version ≤ q.version ∧ (appearance q ≠ appearance p → p.version < q.version)

theorem Advances.refl (t : Tables) : Advances t t :=
  ⟨fun _ _ hw _ => hw, fun _ p hp hready =>
    ⟨p, hp, hready, rfl, Nat.le_refl _, fun hne => absurd rfl hne⟩⟩

theorem Advances.trans {t₁ t₂ t₃ : Tables} (h : Advances t₁ t₂) (h' : Advances t₂ t₃) :
    Advances t₁ t₃ := by
  refine ⟨fun j w hw hready => h'.ready j w (h.ready j w hw hready) hready, fun i p hp hready => ?_⟩
  obtain ⟨q, hq, hqready, hid, hle, hlt⟩ := h.resource i p hp hready
  obtain ⟨r, hr, hrready, hid', hle', hlt'⟩ := h'.resource i q hq hqready
  refine ⟨r, hr, hrready, hid'.trans hid, Nat.le_trans hle hle', fun hne => ?_⟩
  by_cases hqp : appearance q = appearance p
  · exact Nat.lt_of_le_of_lt hle (hlt' (hqp ▸ hne))
  · exact Nat.lt_of_lt_of_le (hlt hqp) hle'

/-- **A version that is not pending is never changed.** -/
theorem Change.version_of_settled {j : ℕ} {w : ParameterVersion} (hc : Change R t t')
    (h : History t) (hw : t.versions.lookup j = some w) (hsettled : w.valueState ≠ .pending) :
    t'.versions.lookup j = some w := by
  cases hc with
  | same hsame => exact hsame.2.1 ▸ hw
  | create | replace | reserveFirst | reserveNext => exact lookup_insert_of_lookup hw
  | complete _ hx hm hpending =>
    refine lookup_modify_of_neg hw fun hnames => ?_
    obtain rfl := h.eq_of_names hx hm hw hnames
    cases hx.symm.trans hw
    exact hsettled hpending
  | abandon => exact lookup_delete_eq_some.mpr ⟨hw, fun hnames => hsettled hnames.2⟩
  | archive => exact hw

/-- **Every transaction keeps what is ready.** -/
theorem Advances.change (h : History t) (hc : Change R t t') : Advances t t' := by
  refine ⟨fun j w hw hready => hc.version_of_settled h hw (by rw [hready]; decide),
    fun i p hp hready => ?_⟩
  have hsame : p.valueState = .ready ∧ identity p = identity p ∧ p.version ≤ p.version ∧
      (appearance p ≠ appearance p → p.version < p.version) :=
    ⟨hready, rfl, Nat.le_refl _, fun hne => absurd rfl hne⟩
  cases hc with
  | same hsame' => exact ⟨p, hsame'.1 ▸ hp, hsame⟩
  | create | reserveFirst => exact ⟨p, lookup_insert_of_lookup hp, hsame⟩
  | replace =>
    exact exists_lookup_modify hp hsame fun _ =>
      ⟨hready, rfl, Nat.le_succ _, fun _ => Nat.lt_succ_self _⟩
  | reserveNext => exact ⟨p, hp, hsame⟩
  | complete =>
    refine exists_lookup_modify hp hsame fun _ => ?_
    have hversion : ∀ path description n,
        (p.complete path description n).version = p.version + 1 :=
      fun _ _ _ => if_neg (by rw [hready]; decide)
    exact ⟨rfl, rfl, by rw [hversion]; omega, fun _ => by rw [hversion]; omega⟩
  | abandon =>
    exact ⟨p, lookup_delete_eq_some.mpr ⟨hp, fun hdel => nomatch hready.symm.trans hdel.2⟩, hsame⟩
  | archive =>
    exact exists_lookup_modify hp hsame fun _ =>
      ⟨hready, rfl, Nat.le_succ _, fun hne => absurd rfl hne⟩

end Molejo.Parameters
