import Mathlib.Data.List.Basic
import Molejo.Store.Storage

/-!
# Which reports are accepted

A report that passes `normalizeRuntimeObservations` and comes from the session that was
touched last can only fail for one reason: the repair of something that has drifted
inserts an operation, and a unique index of `operations` refuses it. There are two
indexes to run into.

* At most one operation of an environment is active. A deployment is a candidate only
  if no operation of its environment is active, so it never meets this index. A volume
  is a candidate if no operation *on the volume* is active, so it does, whenever a
  deployment is being applied or the environment is being deleted.
* An idempotency key is used once by a principal in a workspace. The key of a repair is
  the digest of a text that names the environment, the volume or deployment, and a
  generation. Different repairs have different texts, but a client may have used the
  same text as the key of a request.

`Queueable` says that neither happens, in terms of the rows before the report;
`reconcileAgentObservations_isOk_iff` says that it is all that decides.
-/

namespace Molejo.Store

open Transaction Relation Table Transition

/-! ### Keys -/

/-- A number and what follows a colon are read back from their concatenation. -/
theorem eq_of_toDigits_append_colon {m n : ℕ} {x y : List Char}
    (h : Nat.toDigits 10 m ++ ':' :: x = Nat.toDigits 10 n ++ ':' :: y) : m = n := by
  have hdigits (k : ℕ) (z : List Char) :
      (Nat.toDigits 10 k ++ ':' :: z).takeWhile (· != ':') = Nat.toDigits 10 k := by
    rw [List.takeWhile_append_of_pos, List.takeWhile_cons_of_neg (by decide), List.append_nil]
    intro c hc
    have hdigit : c.isDigit = true := Nat.isDigit_of_mem_toDigits (by decide) (by decide) hc
    refine bne_iff_ne.mpr ?_
    rintro rfl
    exact absurd hdigit (by decide)
  have hchars : Nat.toDigits 10 m = Nat.toDigits 10 n := by
    rw [← hdigits m x, h, hdigits n y]
  rw [← Nat.ofDigitChars_ten_toDigits (n := m), hchars, Nat.ofDigitChars_ten_toDigits]

/-- Repairs of different environments have different keys. -/
theorem environment_of_reconcileKey {tag : String} {e j g e' j' g' : ℕ}
    (h : reconcileKey tag e j g = reconcileKey tag e' j' g') : e = e' := by
  have htext := congrArg (fun d : Digest => d.text.toList) h
  simp only [reconcileKey, sha256, String.toList_append, Nat.toString_eq_repr, Nat.toList_repr,
    List.append_assoc, List.append_cancel_left_eq] at htext
  exact eq_of_toDigits_append_colon htext

/-- The key of a volume is not the key of a deployment. -/
theorem reconcileKey_ne {e j g e' j' g' : ℕ} :
    reconcileKey "runtime-volume-reconcile" e j g ≠ reconcileKey "runtime-reconcile" e' j' g' := by
  intro h
  have htext := congrArg (fun d : Digest => d.text.toList.take 9) h
  simp [reconcileKey, sha256, String.toList_append] at htext

variable {now : Time} {ids : ℕ → String} {db db' base : Db} {clusterId : ℕ} {target : DriftTarget}
  {seen : List RuntimeObservation}

/-! ### Repairs that were queued -/

/-- Operations under keys with the given tag were queued for the listed environments, which led
from `base` to `db`. Everything about other environments is as it was. -/
structure Repaired (tag : String) (ids : ℕ → String) (base : Db) (queued : List ℕ) (db : Db) :
    Prop where
  core : SameCore base db
  nextId : base.operations.nextId ≤ db.operations.nextId
  old : ∀ i o, base.operations.lookup i = some o → db.operations.lookup i = some o
  new : ∀ i o, db.operations.lookup i = some o → base.operations.lookup i = some o ∨
    i < db.operations.nextId ∧ o.publicId = ids i ∧
      ∃ e ∈ queued, o.appEnvironmentId = some e ∧ ∃ j g, o.idempotencyHash = reconcileKey tag e j g
  active : ∀ e ∈ queued, HasActiveOperation db.operations e
  environments : ∀ i ae, base.appEnvironments.lookup i = some ae → i ∉ queued →
    db.appEnvironments.lookup i = some ae
  volumes : ∀ i v, base.appVolumes.lookup i = some v → v.appEnvironmentId ∉ queued →
    db.appVolumes.lookup i = some v

/-- The public ids that will be drawn are new. -/
def FreshIds (ids : ℕ → String) (db : Db) : Prop :=
  ∀ n, db.operations.nextId ≤ n → ¬ db.operations.Any fun _ o => o.publicId = ids n

section Repaired

variable {tag : String} {queued : List ℕ}

theorem Repaired.refl (tag : String) (ids : ℕ → String) (db : Db) : Repaired tag ids db [] db where
  core := .refl db
  nextId := le_rfl
  old _ _ := id
  new _ _ := .inl
  active _ he := absurd he List.not_mem_nil
  environments _ _ hl _ := hl
  volumes _ _ hl _ := hl

variable (h : Repaired tag ids base queued db)

include h

theorem Repaired.hasActiveOperation_iff {e : ℕ} (he : e ∉ queued) :
    HasActiveOperation db.operations e ↔ HasActiveOperation base.operations e := by
  simp only [HasActiveOperation, any_iff]
  constructor
  · rintro ⟨i, o, hl, hoe, ha⟩
    rcases h.new i o hl with hb | ⟨-, -, e', he', hoe', -⟩
    · exact ⟨i, o, hb, hoe, ha⟩
    · cases hoe.symm.trans hoe'
      exact absurd he' he
  · rintro ⟨i, o, hl, hoe, ha⟩
    exact ⟨i, o, h.old i o hl, hoe, ha⟩

/-- A key that the repairs did not use is as free as it was. -/
theorem Repaired.keyTaken_iff {workspaceId principalId : ℕ} {userId : Option ℕ} {key : Digest}
    (hkey : ∀ e ∈ queued, ∀ j g, key ≠ reconcileKey tag e j g) :
    KeyTaken db.operations workspaceId userId principalId key ↔
      KeyTaken base.operations workspaceId userId principalId key := by
  simp only [KeyTaken, any_iff]
  constructor
  · rintro ⟨i, o, hl, hw, hk, hp⟩
    rcases h.new i o hl with hb | ⟨-, -, e, he, -, j, g, hh⟩
    · exact ⟨i, o, hb, hw, hk, hp⟩
    · exact absurd (hk.symm.trans hh) (hkey e he j g)
  · rintro ⟨i, o, hl, hrest⟩
    exact ⟨i, o, h.old i o hl, hrest⟩

/-- The indexes refuse the operation of a repair that is not yet queued just as they did. -/
theorem Repaired.not_taken_iff {new : Operation} (kind : OperationKind) {e j g : ℕ}
    (hne : kind ≠ .ensureWorkspace) (hk : new.kind = kind) (he : new.appEnvironmentId = some e)
    (hkey : new.idempotencyHash = reconcileKey tag e j g) (hq : e ∉ queued) :
    ¬ OperationTaken db.operations new ↔ ¬ HasActiveOperation base.operations e ∧
      ¬ KeyTaken base.operations new.workspaceId new.requestedByUserId new.requestedByPrincipalId
        (reconcileKey tag e j g) := by
  rw [operationTaken_iff he (hk ▸ hne), h.hasActiveOperation_iff hq, hkey, h.keyTaken_iff, not_or]
  exact fun e' he' j' g' heq => hq (environment_of_reconcileKey heq ▸ he')

/-- The public ids that are still to be drawn are new. -/
theorem Repaired.freshIds (hids : Function.Injective ids) (hfresh : FreshIds ids base) :
    FreshIds ids db := by
  intro n hn
  refine not_any_iff.mpr fun i o hl hp => ?_
  rcases h.new i o hl with hb | ⟨hlt, hpi, -⟩
  · exact hfresh n (h.nextId.trans hn) (any_iff.mpr ⟨i, o, hb, hp⟩)
  · exact (hlt.trans_le hn).ne (hids (hpi.symm.trans hp))

/-- One more repair is queued. -/
theorem Repaired.insert {new : Operation} {e : ℕ} {f : AppEnvironment → AppEnvironment}
    {volumes : Table AppVolume} (he : new.appEnvironmentId = some e) (ha : new.Active)
    (hp : new.publicId = ids db.operations.nextId)
    (hkey : ∃ j g, new.idempotencyHash = reconcileKey tag e j g)
    (hf : ∀ ae, (f ae).core = ae.core)
    (hcore : Table.Agree AppVolume.core db.appVolumes volumes)
    (hvolumes : ∀ i v, db.appVolumes.lookup i = some v → v.appEnvironmentId ≠ e →
      volumes.lookup i = some v) :
    Repaired tag ids base (e :: queued) { db with
        appVolumes := volumes
        operations := db.operations.insert new
        appEnvironments := db.appEnvironments.modify (fun i _ => i = e) f } where
  core := h.core.trans ⟨agree_modify hf, hcore, rfl⟩
  nextId := h.nextId.trans (Nat.le_succ _)
  old i o hl := lookup_insert_of_lookup (h.old i o hl)
  new i o hl := by
    rcases lookup_insert_eq_some.mp hl with ⟨rfl, rfl⟩ | hl
    · exact .inr ⟨Nat.lt_succ_self _, hp, e, List.mem_cons_self, he, hkey⟩
    · refine (h.new i o hl).imp_right ?_
      rintro ⟨hlt, hpi, e', he', hrest⟩
      exact ⟨hlt.trans (Nat.lt_succ_self _), hpi, e', List.mem_cons_of_mem e he', hrest⟩
  active e' he' := by
    rcases List.mem_cons.mp he' with rfl | he'
    · exact any_iff.mpr ⟨_, _, lookup_insert_self, he, ha⟩
    · obtain ⟨i, o, hl, hrest⟩ := any_iff.mp (h.active e' he')
      exact any_iff.mpr ⟨i, o, lookup_insert_of_lookup hl, hrest⟩
  environments i ae hl hi := by
    obtain ⟨hne, hq⟩ := List.ne_and_not_mem_of_not_mem_cons hi
    exact lookup_modify_of_neg (h.environments i ae hl hq) hne
  volumes i v hl hi := by
    obtain ⟨hne, hq⟩ := List.ne_and_not_mem_of_not_mem_cons hi
    exact hvolumes i v (h.volumes i v hl hq) hne

end Repaired

/-! ### The loops -/

/-- What a loop over candidates needs of the function it calls: a candidate of an environment that
was not queued is queued just if it is free in the database the loop started from. -/
structure Enqueues (tag : String) (ids : ℕ → String) (base : Db)
    (enqueue : String → Db → DriftTarget → Bool → Except Err Db) (T Free : DriftTarget → Prop) :
    Prop where
  ok : ∀ {db : Db} {queued : List ℕ} {target : DriftTarget} (existed : Bool), T target →
    target.environmentId ∉ queued → Repaired tag ids base queued db → Free target →
    ∃ db', enqueue (ids db.operations.nextId) db target existed = .ok db' ∧
      Repaired tag ids base (target.environmentId :: queued) db'
  free : ∀ {db db' : Db} {queued : List ℕ} {target : DriftTarget} {existed : Bool}, T target →
    target.environmentId ∉ queued → Repaired tag ids base queued db →
    enqueue (ids db.operations.nextId) db target existed = .ok db' → Free target

section Loop

variable {tag : String} {enqueue : String → Db → DriftTarget → Bool → Except Err Db}
  {T Free : DriftTarget → Prop} {queued : List ℕ} {targets : List DriftTarget}

/-- The loop commits just if everything that has drifted is free, and then it has queued exactly
that. -/
theorem Enqueues.repair_cases (h : Enqueues tag ids base enqueue T Free) (kind : String)
    (seen : List RuntimeObservation)
    (hT : ∀ t ∈ targets, T t) (hnd : (targets.map DriftTarget.environmentId).Nodup)
    (hq : ∀ t ∈ targets, t.environmentId ∉ queued) (hr : Repaired tag ids base queued db) :
    (∃ db' queued', repair ids kind seen enqueue db targets = .ok db' ∧
      Repaired tag ids base queued' db' ∧
      (∀ e, e ∈ queued' ↔
        e ∈ queued ∨ ∃ t ∈ targets, t.Drifted kind seen ∧ t.environmentId = e) ∧
      ∀ t ∈ targets, t.Drifted kind seen → Free t) ∨
    ((∃ e, repair ids kind seen enqueue db targets = .error e) ∧
      ∃ t ∈ targets, t.Drifted kind seen ∧ ¬ Free t) := by
  induction targets generalizing db queued with
  | nil => exact .inl ⟨db, queued, rfl, hr, by simp, by simp⟩
  | cons t targets ih =>
    obtain ⟨hnt, hnd⟩ := List.nodup_cons.mp hnd
    obtain ⟨hTt, hT⟩ := List.forall_mem_cons.mp hT
    obtain ⟨hqt, hq⟩ := List.forall_mem_cons.mp hq
    simp only [repair]
    by_cases hd : t.Drifted kind seen
    · rw [if_pos hd]
      by_cases hft : Free t
      · obtain ⟨db₁, he, hr₁⟩ := h.ok (t.seen kind seen).isSome hTt hqt hr hft
        have hq' : ∀ u ∈ targets, u.environmentId ∉ t.environmentId :: queued := by
          intro u hu
          refine List.not_mem_cons_of_ne_of_not_mem ?_ (hq u hu)
          exact fun heq => hnt (heq ▸ List.mem_map_of_mem hu)
        rw [show (enqueue (ids db.operations.nextId) db t (t.seen kind seen).isSome >>= fun db =>
          repair ids kind seen enqueue db targets) = repair ids kind seen enqueue db₁ targets by
            rw [he]; rfl]
        refine (ih hT hnd hq' hr₁).imp ?_ ?_
        · rintro ⟨db', queued', hok, hr', hmem, hfree⟩
          refine ⟨db', queued', hok, hr', fun e => (hmem e).trans ?_,
            List.forall_mem_cons.mpr ⟨fun _ => hft, hfree⟩⟩
          simp only [List.mem_cons, exists_eq_or_imp, hd, true_and, eq_comm (a := e)]
          tauto
        · exact .imp_right (.imp fun u h => ⟨List.mem_cons_of_mem t h.1, h.2⟩)
      · refine .inr ⟨?_, t, List.mem_cons_self, hd, hft⟩
        cases he : enqueue (ids db.operations.nextId) db t (t.seen kind seen).isSome with
        | ok => exact absurd (h.free hTt hqt hr he) hft
        | error e => exact ⟨e, rfl⟩
    · rw [if_neg hd]
      refine (ih hT hnd hq hr).imp ?_ ?_
      · rintro ⟨db', queued', hok, hr', hmem, hfree⟩
        refine ⟨db', queued', hok, hr', fun e => (hmem e).trans ?_,
          List.forall_mem_cons.mpr ⟨fun h => absurd h hd, hfree⟩⟩
        simp only [List.mem_cons, exists_eq_or_imp, hd, false_and, false_or]
      · exact .imp_right (.imp fun u h => ⟨List.mem_cons_of_mem t h.1, h.2⟩)

end Loop

/-! ### Queueing a volume -/

/-- No index refuses the operation that provisions a drifted volume again. -/
def FreeVolume (db : Db) (target : DriftTarget) : Prop :=
  ¬ HasActiveOperation db.operations target.environmentId ∧
  ∀ v principalId, db.appVolumes.lookup target.subjectId = some v →
    principalIdForUser db target.actorId = .ok principalId →
    ¬ KeyTaken db.operations target.workspaceId (some target.actorId) principalId
      (reconcileKey "runtime-volume-reconcile" target.environmentId target.subjectId
        (v.runtimeReconciliationGeneration + 1))

/-- The target is a volume with a version, on a cluster, in the name of a user that exists. -/
def VolumeReady (db : Db) (target : DriftTarget) : Prop :=
  0 < target.desiredVersion ∧
  (∃ v, db.appVolumes.lookup target.subjectId = some v ∧
    v.appEnvironmentId = target.environmentId) ∧
  (∃ u, db.users.lookup target.actorId = some u) ∧
  ∃ ae cluster, db.appEnvironments.lookup target.environmentId = some ae ∧
    ae.clusterId = some cluster

theorem SameCore.users (h : SameCore db db') : db'.users = db.users := by rw [h.rest]

theorem enqueuesVolumes (now : Time) (hids : Function.Injective ids) (hfresh : FreshIds ids base) :
    Enqueues "runtime-volume-reconcile" ids base (enqueueVolumeReconciliation now)
      (VolumeReady base) (FreeVolume base) where
  ok := by
    rintro db queued target existed ⟨hpos, ⟨v, hv, hve⟩, ⟨u, hu⟩, ae, cluster, hae, hc⟩ hq hr
      ⟨hactive, hkey⟩
    have hv' := hr.volumes _ v hv (hve ▸ hq)
    have hae' := hr.environments _ ae hae hq
    have hp {d : Db} (hd : d.users = base.users) :
        principalIdForUser d target.actorId = .ok u.principalId :=
      principalIdForUser_eq_ok.mpr ⟨u, hd ▸ hu, rfl⟩
    simp only [enqueueVolumeReconciliation, ok_iff, insertOperationForPrincipal_eq_ok]
    refine ⟨_, ⟨v, hv', u.principalId, hp hr.core.users, _, ⟨cluster, ?_, ?_, rfl⟩, rfl⟩, ?_⟩
    · simp only [PlacedOn, hae', Option.bind_some, hc]
    · refine ⟨hr.freshIds hids hfresh _ le_rfl, hpos, ?_, ?_⟩
      · exact .inr (.inr (.inr ⟨List.mem_cons_self, by rintro ⟨⟩, rfl, by rintro ⟨⟩⟩))
      · exact (hr.not_taken_iff .ensureVolume (by decide) rfl rfl rfl hq).mpr
          ⟨hactive, hkey v _ hv (hp rfl)⟩
    · refine hr.insert rfl (.inl rfl) rfl ⟨_, _, rfl⟩ (fun _ => rfl)
        (agree_modify fun _ => rfl) fun i w hl hne => ?_
      refine lookup_modify_of_neg hl ?_
      rintro rfl
      cases hl.symm.trans hv'
      exact hne hve
  free := by
    rintro db db' queued target existed ⟨-, ⟨v, hv, hve⟩, -, -⟩ hq hr hok
    simp only [enqueueVolumeReconciliation, ok_iff, insertOperationForPrincipal_eq_ok] at hok
    obtain ⟨w, hw, principalId, hp, _, ⟨_, -, hi, -⟩, -⟩ := hok
    obtain rfl : w = v := Option.some.inj (hw.symm.trans (hr.volumes _ v hv (hve ▸ hq)))
    obtain ⟨hactive, hkey⟩ := (hr.not_taken_iff .ensureVolume (by decide) rfl rfl rfl hq).mp hi.free
    refine ⟨hactive, fun w' principalId' hw' hp' => ?_⟩
    cases hw'.symm.trans hv
    obtain rfl : principalId' = principalId := by
      rw [principalIdForUser, hr.core.users] at hp
      exact Except.ok.inj (hp'.symm.trans hp)
    exact hkey

/-! ### Queueing a deployment -/

/-- No operation has used the key under which a drifted deployment is applied again. -/
def FreeDeployment (db : Db) (target : DriftTarget) : Prop :=
  ∀ ae, db.appEnvironments.lookup target.environmentId = some ae →
    ¬ KeyTaken db.operations target.workspaceId none target.actorId
      (reconcileKey "runtime-reconcile" target.environmentId target.subjectId
        (ae.reconciliationGeneration + 1))

/-- The target is an environment with a version, on a cluster, none of whose operations is
active. -/
def DeploymentReady (db : Db) (target : DriftTarget) : Prop :=
  0 < target.desiredVersion ∧ ¬ HasActiveOperation db.operations target.environmentId ∧
  ∃ ae cluster, db.appEnvironments.lookup target.environmentId = some ae ∧
    ae.clusterId = some cluster

theorem enqueuesDeployments (now : Time) (hids : Function.Injective ids)
    (hfresh : FreshIds ids base) :
    Enqueues "runtime-reconcile" ids base (enqueueRuntimeReconciliation now)
      (DeploymentReady base) (FreeDeployment base) where
  ok := by
    rintro db queued target existed ⟨hpos, hactive, ae, cluster, hae, hc⟩ hq hr hkey
    have hae' := hr.environments _ ae hae hq
    simp only [enqueueRuntimeReconciliation, ok_iff, insertOperationForPrincipal_eq_ok]
    refine ⟨_, ⟨ae, hae', cluster, ?_, ?_, rfl⟩, ?_⟩
    · rw [PlacedOn, lookup_modify_of_pos hae' rfl]
      exact hc
    · refine ⟨hr.freshIds hids hfresh _ le_rfl, hpos, ?_, ?_⟩
      · exact .inr (.inl ⟨rfl, Option.some_ne_none _, Option.some_ne_none _, rfl⟩)
      · exact (hr.not_taken_iff .applyDeployment (by decide) rfl rfl rfl hq).mpr
          ⟨hactive, hkey ae hae⟩
    · exact hr.insert rfl (.inl rfl) rfl ⟨_, _, rfl⟩ (fun _ => rfl) (.refl _ _) fun _ _ hl _ => hl
  free := by
    rintro db db' queued target existed ⟨-, -, ae, _, hae, -⟩ hq hr hok
    simp only [enqueueRuntimeReconciliation, ok_iff, insertOperationForPrincipal_eq_ok] at hok
    obtain ⟨ae', hae', _, -, hi, -⟩ := hok
    cases hae'.symm.trans (hr.environments _ ae hae hq)
    intro ae'' hae''
    cases hae''.symm.trans hae
    exact ((hr.not_taken_iff .applyDeployment (by decide) rfl rfl rfl hq).mp hi.free).2

/-! ### What has drifted -/

/-- The volume under `i` is a candidate for repair, as the target `t`, and has drifted. -/
structure VolumeDrift (db : Db) (clusterId : ℕ) (seen : List RuntimeObservation) (i : ℕ)
    (v : AppVolume) (t : DriftTarget) : Prop where
  row : db.appVolumes.lookup i = some v
  candidate : VolumeCandidate db clusterId i v
  target : volumeTarget db (i, v) = .ok t
  drifted : t.Drifted "AppVolume" seen

/-- The environment under `i` is a candidate for repair, as the target `t`, and has drifted. -/
structure DeploymentDrift (db : Db) (clusterId : ℕ) (seen : List RuntimeObservation) (i : ℕ)
    (ae : AppEnvironment) (t : DriftTarget) : Prop where
  row : db.appEnvironments.lookup i = some ae
  candidate : DeploymentCandidate db clusterId i ae
  target : deploymentTarget db (i, ae) = .ok t
  drifted : t.Drifted "AppDeployment" seen

/-- No index refuses an operation that a complete snapshot calls for. -/
structure Queueable (db : Db) (clusterId : ℕ) (seen : List RuntimeObservation) : Prop where
  volumes : ∀ i v t, VolumeDrift db clusterId seen i v t → FreeVolume db t
  /-- Deployments of environments whose volume has drifted wait for the volume. -/
  deployments : ∀ i ae t, DeploymentDrift db clusterId seen i ae t →
    (∀ j v u, VolumeDrift db clusterId seen j v u → v.appEnvironmentId ≠ i) → FreeDeployment db t

theorem volumeTarget_eq_ok {i : ℕ} {v : AppVolume} {t : DriftTarget}
    (h : volumeTarget db (i, v) = .ok t) :
    t.environmentId = v.appEnvironmentId ∧ t.subjectId = i ∧ t.desiredVersion = v.version ∧
      ∃ k o, db.operations.lookup k = some o ∧ o.appVolumeId = some i ∧
        o.requestedByUserId = some t.actorId := by
  simp only [volumeTarget, ok_iff, Option.bind_eq_some_iff] at h
  obtain ⟨_, ⟨⟨k, o⟩, hf, ha⟩, _, -, rfl⟩ := h
  exact ⟨rfl, rfl, rfl, k, o, lookup_of_first hf, pos_of_first hf, ha⟩

theorem deploymentTarget_eq_ok {i : ℕ} {ae : AppEnvironment} {t : DriftTarget}
    (h : deploymentTarget db (i, ae) = .ok t) :
    t.environmentId = i ∧ t.desiredVersion = ae.version := by
  simp only [deploymentTarget, ok_iff] at h
  obtain ⟨_, -, _, -, _, -, rfl⟩ := h
  exact ⟨rfl, rfl⟩

section Candidates

/-- The drift query for volumes cannot fail: a volume has a first operation, and that has a
user. -/
theorem Storage.volumeDriftCandidates (h : Storage db) (clusterId : ℕ) :
    ∃ volumes, volumeDriftCandidates db clusterId = .ok volumes := by
  refine exists_mapM_eq_ok ?_
  rintro ⟨i, v⟩ hr
  obtain ⟨hl, -, hw, -⟩ := mem_select.mp hr
  obtain ⟨workspace, hw⟩ := Option.ne_none_iff_exists'.mp hw
  obtain ⟨k, o, ho, hv⟩ := h.operation i v hl
  obtain ⟨k', o', hf⟩ := exists_first (p := fun _ o => o.appVolumeId = some i)
    (any_iff.mpr ⟨k, o, ho, hv⟩)
  have ho' : o'.appVolumeId ≠ none := by
    rw [pos_of_first hf]
    nofun
  obtain ⟨u, _, hu, -⟩ := h.accountable k' o' (lookup_of_first hf) ho'
  simp only [volumeTarget, ok_iff]
  exact ⟨_, u, by rw [hf]; exact hu, workspace, hw, rfl⟩

theorem exists_deploymentDriftCandidates (db : Db) (clusterId : ℕ) :
    ∃ deployments, deploymentDriftCandidates db clusterId = .ok deployments := by
  refine exists_mapM_eq_ok ?_
  rintro ⟨_, _⟩ hr
  obtain ⟨-, -, -, -, hw, hd, -⟩ := mem_select.mp hr
  obtain ⟨workspace, hw⟩ := Option.ne_none_iff_exists'.mp hw
  obtain ⟨d, hd⟩ := Option.ne_none_iff_exists'.mp hd
  obtain ⟨deploymentId, hde, hd⟩ := Option.bind_eq_some_iff.mp hd
  simp only [deploymentTarget, ok_iff]
  exact ⟨_, deploymentId, hde, d, hd, workspace, hw, rfl⟩

variable {volumes deployments : List DriftTarget} {t : DriftTarget}

theorem mem_volumeDriftCandidates (h : volumeDriftCandidates db clusterId = .ok volumes) :
    t ∈ volumes ∧ t.Drifted "AppVolume" seen ↔ ∃ i v, VolumeDrift db clusterId seen i v t := by
  simp only [mem_mapM_iff h, Prod.exists, mem_select, ← exists_and_right, and_assoc]
  constructor <;> rintro ⟨i, v, hl, hc, htarget, hd⟩ <;> exact ⟨i, v, hl, hc, htarget, hd⟩

theorem mem_deploymentDriftCandidates
    (h : deploymentDriftCandidates db clusterId = .ok deployments) :
    t ∈ deployments ∧ t.Drifted "AppDeployment" seen ↔
      ∃ i ae, DeploymentDrift db clusterId seen i ae t := by
  simp only [mem_mapM_iff h, Prod.exists, mem_select, ← exists_and_right, and_assoc]
  constructor <;> rintro ⟨i, v, hl, hc, htarget, hd⟩ <;> exact ⟨i, v, hl, hc, htarget, hd⟩

/-- Candidate volumes belong to different environments. -/
theorem Storage.nodup_volumes (hs : Storage db)
    (h : Store.volumeDriftCandidates db clusterId = .ok volumes) :
    (volumes.map DriftTarget.environmentId).Nodup := by
  rw [map_of_mapM_eq_ok (k := fun r => r.2.appEnvironmentId) h
    fun r t ht => (volumeTarget_eq_ok ht).1]
  refine List.Nodup.map_on ?_ nodup_select
  rintro ⟨i, v⟩ hv ⟨j, w⟩ hw he
  obtain ⟨hlv, -, -, hdv, -⟩ := mem_select.mp hv
  obtain ⟨hlw, -, -, hdw, -⟩ := mem_select.mp hw
  obtain rfl : i = j := hs.single i v j w hlv hlw he hdv hdw
  rw [Option.mem_unique hlv hlw]

theorem nodup_deployments (h : deploymentDriftCandidates db clusterId = .ok deployments) :
    (deployments.map DriftTarget.environmentId).Nodup := by
  rw [map_of_mapM_eq_ok (k := Prod.fst) h fun r t ht => (deploymentTarget_eq_ok ht).1]
  refine List.Nodup.map_on ?_ nodup_select
  rintro ⟨i, _⟩ hv ⟨j, _⟩ hw he
  obtain rfl : i = j := he
  rw [Option.some.inj ((mem_select.mp hv).1.symm.trans (mem_select.mp hw).1)]

/-- A candidate volume can be provisioned again, as far as its own rows go. -/
theorem Storage.volumeReady (hs : Storage db)
    (h : Store.volumeDriftCandidates db clusterId = .ok volumes) (ht : t ∈ volumes) :
    VolumeReady db t := by
  obtain ⟨⟨i, v⟩, hr, htarget⟩ := mem_of_mapM_eq_ok h ht
  obtain ⟨hl, ⟨ae, hae, hc, -⟩, -⟩ := mem_select.mp hr
  obtain ⟨he, hsub, hver, k, o, ho, hov, hu⟩ := volumeTarget_eq_ok htarget
  obtain ⟨u, row, hu', hrow⟩ := hs.accountable k o ho (by rw [hov]; nofun)
  cases hu.symm.trans hu'
  exact ⟨hver ▸ hs.volume i v hl, ⟨v, hsub ▸ hl, he.symm⟩, ⟨row, hrow⟩, ae, clusterId, he ▸ hae, hc⟩

/-- A candidate deployment can be applied again, as far as its own rows go. -/
theorem deploymentReady (hs : ∀ i ae, db.appEnvironments.lookup i = some ae → 0 < ae.version)
    (h : deploymentDriftCandidates db clusterId = .ok deployments) (ht : t ∈ deployments) :
    DeploymentReady db t := by
  obtain ⟨⟨_, ae⟩, hr, htarget⟩ := mem_of_mapM_eq_ok h ht
  obtain ⟨hl, hc, -, -, -, -, ha⟩ := mem_select.mp hr
  obtain ⟨rfl, hver⟩ := deploymentTarget_eq_ok htarget
  exact ⟨hver ▸ hs _ ae hl, ha, ae, clusterId, hl, hc⟩

end Candidates

/-! ### Repairing -/

section Repairing

variable {queued : List ℕ} {i : ℕ} {ae : AppEnvironment} {t : DriftTarget}

/-- After volumes were queued, the environments that have drifted are those that had, less the
ones that were queued. -/
theorem Repaired.deploymentDrift_iff
    (h : Repaired "runtime-volume-reconcile" ids base queued db) :
    DeploymentDrift db clusterId seen i ae t ↔
      DeploymentDrift base clusterId seen i ae t ∧ i ∉ queued := by
  have hdeployments : db.deployments = base.deployments := by rw [h.core.rest]
  have hworkspaces : db.workspaces = base.workspaces := by rw [h.core.rest]
  have htarget : deploymentTarget db (i, ae) = deploymentTarget base (i, ae) := by
    simp only [deploymentTarget, hdeployments, hworkspaces]
  have hcandidate (hi : i ∉ queued) :
      DeploymentCandidate db clusterId i ae ↔ DeploymentCandidate base clusterId i ae := by
    simp only [DeploymentCandidate, hdeployments, hworkspaces, h.hasActiveOperation_iff hi]
  constructor
  · rintro ⟨hl, hc, ht, hd⟩
    have hi : i ∉ queued := fun hmem => hc.2.2.2.2.2 (h.active i hmem)
    obtain ⟨q, hq, -⟩ := h.core.environments.symm.exists_lookup hl
    cases (h.environments i q hq hi).symm.trans hl
    exact ⟨⟨hq, (hcandidate hi).mp hc, htarget.symm.trans ht, hd⟩, hi⟩
  · rintro ⟨⟨hl, hc, ht, hd⟩, hi⟩
    exact ⟨h.environments i ae hl hi, (hcandidate hi).mpr hc, htarget.trans ht, hd⟩

theorem Repaired.freeDeployment_iff
    (h : Repaired "runtime-volume-reconcile" ids base queued db)
    (hdrift : DeploymentDrift base clusterId seen i ae t) (hi : i ∉ queued) :
    FreeDeployment db t ↔ FreeDeployment base t := by
  obtain ⟨rfl, -⟩ := deploymentTarget_eq_ok hdrift.target
  have hrow := h.environments _ ae hdrift.row hi
  unfold FreeDeployment
  rw [hrow, hdrift.row]
  refine forall₂_congr fun ae' hae' => not_congr ?_
  exact h.keyTaken_iff fun e he j g heq => reconcileKey_ne heq.symm

/-- The second loop commits just if the keys of the deployments left to repair are free. -/
theorem Repaired.repairDeployments (now : Time) (seen : List RuntimeObservation) (hs : Storage base)
    (hids : Function.Injective ids) (hfresh : FreshIds ids base)
    (h : Repaired "runtime-volume-reconcile" ids base queued db) {deployments : List DriftTarget}
    {p : DriftTarget → Bool} (hdep : deploymentDriftCandidates db clusterId = .ok deployments)
    (hp : ∀ t, p t = true ↔ t.environmentId ∉ queued) :
    (repair ids "AppDeployment" seen (enqueueRuntimeReconciliation now) db
      (deployments.filter p)).isOk = true ↔
    ∀ i ae t, DeploymentDrift base clusterId seen i ae t → i ∉ queued → FreeDeployment base t := by
  have hversion : ∀ i ae, db.appEnvironments.lookup i = some ae → 0 < ae.version := by
    intro i ae hl
    obtain ⟨ae₀, hl₀, hc⟩ := h.core.environments.symm.exists_lookup hl
    exact version_of_core hc ▸ hs.environment i ae₀ hl₀
  rcases (enqueuesDeployments now hids (h.freshIds hids hfresh)).repair_cases "AppDeployment" seen
    (fun t ht => deploymentReady hversion hdep (List.mem_filter.mp ht).1)
    ((nodup_deployments hdep).sublist (List.filter_sublist.map _))
    (fun _ _ => List.not_mem_nil) (.refl _ ids db) with
    ⟨db', _, hok, -, -, hfree⟩ | ⟨⟨err, herr⟩, t, ht, hd, hnfree⟩
  · refine iff_of_true (by rw [hok]; rfl) fun i ae t hdrift hi => ?_
    obtain ⟨ht, hd⟩ := (mem_deploymentDriftCandidates hdep).mpr
      ⟨i, ae, h.deploymentDrift_iff.mpr ⟨hdrift, hi⟩⟩
    refine (h.freeDeployment_iff hdrift hi).mp (hfree t (List.mem_filter.mpr ⟨ht, ?_⟩) hd)
    rw [hp, (deploymentTarget_eq_ok hdrift.target).1]
    exact hi
  · refine iff_of_false (by rw [herr]; nofun) fun hall => hnfree ?_
    obtain ⟨i, ae, hdrift⟩ := (mem_deploymentDriftCandidates hdep).mp
      ⟨(List.mem_filter.mp ht).1, hd⟩
    obtain ⟨hdrift, hi⟩ := h.deploymentDrift_iff.mp hdrift
    exact (h.freeDeployment_iff hdrift hi).mpr (hall i ae t hdrift hi)

/-- **A snapshot is repaired just if no index refuses what it calls for.** -/
theorem repairDrift_isOk_iff (now : Time) (hs : Storage db) (hids : Function.Injective ids)
    (hfresh : FreshIds ids db) :
    (repairDrift now ids db clusterId seen).isOk = true ↔ Queueable db clusterId seen := by
  obtain ⟨volumes, hvol⟩ := hs.volumeDriftCandidates clusterId
  have hmem (i : ℕ) : (∃ t ∈ volumes, t.Drifted "AppVolume" seen ∧ t.environmentId = i) ↔
      ∃ j v u, VolumeDrift db clusterId seen j v u ∧ v.appEnvironmentId = i := by
    constructor
    · rintro ⟨u, hu, hd, rfl⟩
      obtain ⟨j, v, hdrift⟩ := (mem_volumeDriftCandidates hvol).mp ⟨hu, hd⟩
      exact ⟨j, v, u, hdrift, (volumeTarget_eq_ok hdrift.target).1.symm⟩
    · rintro ⟨j, v, u, hdrift, rfl⟩
      obtain ⟨hu, hd⟩ := (mem_volumeDriftCandidates hvol).mpr ⟨j, v, hdrift⟩
      exact ⟨u, hu, hd, (volumeTarget_eq_ok hdrift.target).1⟩
  simp only [repairDrift, hvol, ok_bind]
  rcases (enqueuesVolumes now hids hfresh).repair_cases "AppVolume" seen
    (fun _ => hs.volumeReady hvol) (hs.nodup_volumes hvol) (fun _ _ => List.not_mem_nil)
    (.refl _ ids db) with
    ⟨db₁, queued, hok, hr, hqueued, hfree⟩ | ⟨⟨err, herr⟩, t, ht, hd, hnfree⟩
  · have hq (i : ℕ) : i ∈ queued ↔ ∃ t ∈ volumes, t.Drifted "AppVolume" seen ∧
        t.environmentId = i := by
      rw [hqueued, or_iff_right List.not_mem_nil]
    obtain ⟨_, hdep⟩ := exists_deploymentDriftCandidates db₁ clusterId
    have hloop := hr.repairDeployments now seen hs hids hfresh hdep
      (p := fun t => t.environmentId ∉ (volumes.filter fun t => t.Drifted "AppVolume" seen).map
        DriftTarget.environmentId) fun t => by simp [hq]
    simp only [hok, hdep, ok_bind]
    refine hloop.trans ⟨fun hall => ⟨?_, ?_⟩, fun hqueue i ae t hdrift hi => ?_⟩
    · intro i v t hdrift
      obtain ⟨ht, hd⟩ := (mem_volumeDriftCandidates hvol).mpr ⟨i, v, hdrift⟩
      exact hfree t ht hd
    · intro i ae t hdrift hno
      refine hall i ae t hdrift fun hi => ?_
      obtain ⟨j, v, u, hdrift', he⟩ := (hmem i).mp ((hq i).mp hi)
      exact hno j v u hdrift' he
    · exact hqueue.deployments i ae t hdrift fun j v u hdrift' he =>
        hi ((hq i).mpr ((hmem i).mpr ⟨j, v, u, hdrift', he⟩))
  · refine iff_of_false ?_ fun hqueue => ?_
    · simp only [herr, error_bind]
      exact Bool.false_ne_true
    · obtain ⟨i, v, hdrift⟩ := (mem_volumeDriftCandidates hvol).mp ⟨ht, hd⟩
      exact hnfree (hqueue.volumes i v t hdrift)

end Repairing

/-! ### Recording changes none of this -/

/-- An environment without what a report records of it. -/
def unobserved (ae : AppEnvironment) : AppEnvironment :=
  { ae with
    lastState := .pending
    lastMessage := ""
    runtimeObservedGeneration := 0
    runtimeObservedAt := none }

/-- A volume without what a report records of it. -/
def unobservedVolume (v : AppVolume) : AppVolume :=
  { v with observedState := .pending, message := "", observedSizeGiB := 0 }

/-- Observations were recorded, and nothing else happened. -/
structure Observed (db db' : Db) : Prop where
  environments : Table.Agree unobserved db.appEnvironments db'.appEnvironments
  volumes : Table.Agree unobservedVolume db.appVolumes db'.appVolumes
  rest : db' =
    { db with appEnvironments := db'.appEnvironments, appVolumes := db'.appVolumes }

theorem Observed.refl (db : Db) : Observed db db := ⟨.refl _ _, .refl _ _, rfl⟩

theorem Observed.trans {db₁ db₂ : Db} (h : Observed db db₁) (h' : Observed db₁ db₂) :
    Observed db db₂ := by
  refine ⟨h.environments.trans h'.environments, h.volumes.trans h'.volumes, ?_⟩
  rw [h'.rest, h.rest]

theorem observe_observed (now : Time) (clusterId : ℕ) (db : Db) (o : RuntimeObservation) :
    Observed db (observe now clusterId db o) := by
  unfold observe
  split
  · split
    · exact ⟨.modify (agree_modify fun _ => rfl) fun _ => rfl, .refl _ _, rfl⟩
    · exact .refl db
  · split
    · exact ⟨.refl _ _, agree_modify fun _ => rfl, rfl⟩
    · exact .refl db

theorem foldl_observe_observed (now : Time) (clusterId : ℕ) (db : Db)
    (os : List RuntimeObservation) : Observed db (os.foldl (observe now clusterId) db) := by
  induction os generalizing db with
  | nil => exact .refl db
  | cons o _ ih => exact (observe_observed now clusterId db o).trans (ih _)

section Observed

variable {i : ℕ} {t : DriftTarget} (h : Observed db db')

include h

theorem Observed.symm : Observed db' db :=
  ⟨h.environments.symm, h.volumes.symm, by rw [h.rest]⟩

theorem Observed.operations : db'.operations = db.operations := by rw [h.rest]

theorem Observed.workspaces : db'.workspaces = db.workspaces := by rw [h.rest]

theorem Observed.deployments : db'.deployments = db.deployments := by rw [h.rest]

theorem Observed.users : db'.users = db.users := by rw [h.rest]

/-- A row of an environment changed in what is recorded only. -/
theorem Observed.environment {ae : AppEnvironment} (hl : db.appEnvironments.lookup i = some ae) :
    ∃ state message generation at', db'.appEnvironments.lookup i = some { ae with
      lastState := state
      lastMessage := message
      runtimeObservedGeneration := generation
      runtimeObservedAt := at' } := by
  obtain ⟨ae', hl', hc⟩ := h.environments.exists_lookup hl
  cases ae
  cases ae'
  simp only [unobserved] at hc
  cases hc
  exact ⟨_, _, _, _, hl'⟩

theorem Observed.volume {v : AppVolume} (hl : db.appVolumes.lookup i = some v) :
    ∃ state message size, db'.appVolumes.lookup i = some
      { v with observedState := state, message := message, observedSizeGiB := size } := by
  obtain ⟨v', hl', hc⟩ := h.volumes.exists_lookup hl
  cases v
  cases v'
  simp only [unobservedVolume] at hc
  cases hc
  exact ⟨_, _, _, hl'⟩

theorem Observed.storage (hs : Storage db) : Storage db' where
  environment i ae hl := by
    obtain ⟨_, _, _, _, hl₀⟩ := h.symm.environment hl
    exact (hs.environment i _ hl₀ :)
  volume i v hl := by
    obtain ⟨_, _, _, hl₀⟩ := h.symm.volume hl
    exact (hs.volume i _ hl₀ :)
  operation i v hl := by
    obtain ⟨_, _, _, hl₀⟩ := h.symm.volume hl
    exact h.operations ▸ hs.operation i _ hl₀
  accountable i o hl := by
    unfold Accountable
    rw [h.users]
    exact hs.accountable i o (h.operations ▸ hl)
  single i v j w hv hw he hdv hdw := by
    obtain ⟨_, _, _, hv₀⟩ := h.symm.volume hv
    obtain ⟨_, _, _, hw₀⟩ := h.symm.volume hw
    exact hs.single i _ j _ hv₀ hw₀ he hdv hdw
  oneActive := by
    unfold OneActive
    rw [h.operations]
    exact hs.oneActive
  belongs k o j hl hj := by
    obtain ⟨v, hv, he⟩ := hs.belongs k o j (h.operations ▸ hl) hj
    obtain ⟨_, _, _, hv'⟩ := h.volume hv
    exact ⟨_, hv', he⟩
  removing k o j v hl ha hj hv hd := by
    obtain ⟨_, _, _, hv₀⟩ := h.symm.volume hv
    exact hs.removing k o j _ (h.operations ▸ hl) ha hj hv₀ hd

/-- What has drifted does not depend on what is recorded. -/
theorem Observed.volumeDrift {v : AppVolume} (hd : VolumeDrift db clusterId seen i v t) :
    ∃ v', v'.appEnvironmentId = v.appEnvironmentId ∧ VolumeDrift db' clusterId seen i v' t := by
  obtain ⟨_, _, _, hl⟩ := h.volume hd.row
  obtain ⟨⟨_, hae, hc, hna⟩, hw, hdel, hready, hactive⟩ := hd.candidate
  obtain ⟨_, _, _, _, hae'⟩ := h.environment hae
  refine ⟨_, ?_, hl, ⟨⟨_, hae', hc, hna⟩, ?_, hdel, hready, ?_⟩, ?_, hd.drifted⟩
  · rfl
  · rwa [h.workspaces]
  · rwa [h.operations]
  · simpa only [volumeTarget, h.operations, h.workspaces] using hd.target

theorem Observed.deploymentDrift {ae : AppEnvironment}
    (hd : DeploymentDrift db clusterId seen i ae t) :
    ∃ ae', DeploymentDrift db' clusterId seen i ae' t := by
  obtain ⟨_, _, _, _, hl⟩ := h.environment hd.row
  obtain ⟨hc, hna, hdel, hw, hdeployment, hactive⟩ := hd.candidate
  refine ⟨_, hl, ⟨hc, hna, hdel, ?_, ?_, ?_⟩, ?_, hd.drifted⟩
  · rwa [h.workspaces]
  · rwa [h.deployments]
  · rwa [h.operations]
  · simpa only [deploymentTarget, h.deployments, h.workspaces] using hd.target

theorem Observed.freeVolume (hf : FreeVolume db t) : FreeVolume db' t := by
  obtain ⟨hactive, hkey⟩ := hf
  refine ⟨h.operations ▸ hactive, fun v' principalId hl hp => ?_⟩
  obtain ⟨_, _, _, hv⟩ := h.symm.volume hl
  rw [principalIdForUser, h.users] at hp
  rw [h.operations]
  exact (hkey _ principalId hv hp :)

theorem Observed.freeDeployment (hf : FreeDeployment db t) : FreeDeployment db' t := by
  intro ae' hl
  obtain ⟨_, _, _, _, hae⟩ := h.symm.environment hl
  rw [h.operations]
  exact (hf _ hae :)

theorem Observed.queueable (hq : Queueable db clusterId seen) : Queueable db' clusterId seen where
  volumes i v t hd := by
    obtain ⟨v₀, -, hd₀⟩ := h.symm.volumeDrift hd
    exact h.freeVolume (hq.volumes i v₀ t hd₀)
  deployments i ae t hd hno := by
    obtain ⟨ae₀, hd₀⟩ := h.symm.deploymentDrift hd
    refine h.freeDeployment (hq.deployments i ae₀ t hd₀ fun j v u hdv he => ?_)
    obtain ⟨v', he', hdv'⟩ := h.volumeDrift hdv
    exact hno j v' u hdv' (he'.trans he)

end Observed

/-! ### Acceptance -/

/-- **Which reports are accepted.** In every state that the store can reach, a report that passes
`normalizeRuntimeObservations` and comes from the active session of an active installation, with
the sequence number touched last, is accepted just if it is not a complete snapshot or no index
refuses an operation that the snapshot calls for. -/
theorem reconcileAgentObservations_isOk_iff (policy : PublicationPolicy) (s₀ : State)
    (acts : List Action) (h₀ : Initial s₀) (ids : ℕ → String) (heartbeat : Heartbeat)
    (clusterId : ℕ) (seen : List RuntimeObservation) (hids : Function.Injective ids)
    (hfresh : FreshIds ids (run (step policy) s₀ acts).db)
    (hsession : isBlank heartbeat.sessionId = false ∧ SequenceValid heartbeat.sequence)
    (hcluster : sessionOf (run (step policy) s₀ acts).db heartbeat = .ok clusterId)
    (hseen : normalizeRuntimeObservations heartbeat.observations = .ok seen) :
    (reconcileAgentObservations (run (step policy) s₀ acts).now ids
      (run (step policy) s₀ acts).db heartbeat).isOk = true ↔
    (heartbeat.complete = true →
      Queueable (run (step policy) s₀ acts).db clusterId seen) := by
  have hs := h₀.storage_run policy acts
  generalize run (step policy) s₀ acts = s at *
  have hobserved := foldl_observe_observed s.now clusterId s.db seen
  have hrequire : require (isBlank heartbeat.sessionId = false ∧ SequenceValid heartbeat.sequence)
      Err.agentIdentityMismatch = .ok () := require_eq_ok.mpr hsession
  simp only [reconcileAgentObservations, hrequire, hseen, hcluster, ok_bind, repairIfComplete]
  split
  · rename_i hcomplete
    rw [repairDrift_isOk_iff s.now (hobserved.storage hs) hids (by
      unfold FreshIds
      rw [hobserved.operations]
      exact hfresh)]
    exact ⟨fun hq _ => hobserved.symm.queueable hq, fun hq => hobserved.queueable (hq hcomplete)⟩
  · rename_i hcomplete
    exact iff_of_true rfl fun hc => absurd hc hcomplete

/-- An environment with a volume that is ready, and an Agent that has sent one heartbeat. -/
def storageRun : List Action :=
  [.createAppEnvironment statefulEnvironment, .claimNext "agent:cls-one" "cls-one" 60,
    .handleResult 1 (volumeResult "Ready" 1), .activateAgent "cls-one" "session-one",
    .touchAgent "cls-one" "session-one" 1]

/-- A complete snapshot of a cluster on which there is nothing. -/
def emptySnapshot : Heartbeat where
  clusterPublicId := "cls-one"
  sessionId := "session-one"
  sequence := 1
  observations := []
  complete := true

/-- Public ids that no request of the small store draws. -/
def repairIds (n : ℕ) : String := String.ofList ('r' :: List.replicate n 'x')

theorem repairIds_injective : Function.Injective repairIds := by
  intro m n h
  have hlist := congrArg String.toList h
  simpa [repairIds] using congrArg List.length hlist

theorem freshIds_repairIds (db : Db)
    (h : ∀ i o, db.operations.lookup i = some o → o.publicId.toList.head? ≠ some 'r') :
    FreshIds repairIds db := by
  intro n _
  refine not_any_iff.mpr fun i o hl hp => h i o hl ?_
  rw [hp, repairIds, String.toList_ofList, List.head?_cons]

/-- A volume that is missing is queued again while nothing else is going on. -/
theorem reconcileAgentObservations_storageRun :
    (reconcileAgentObservations (run (step smallPolicy) smallStore storageRun).now
      repairIds (run (step smallPolicy) smallStore storageRun).db
      emptySnapshot).isOk = true ∧
    Queueable (run (step smallPolicy) smallStore storageRun).db 1 [] := by
  have hok : (reconcileAgentObservations
      (run (step smallPolicy) smallStore storageRun).now repairIds
      (run (step smallPolicy) smallStore storageRun).db emptySnapshot).isOk = true := by
    decide +kernel
  exact ⟨hok, (reconcileAgentObservations_isOk_iff smallPolicy smallStore storageRun
    smallStore_initial repairIds emptySnapshot 1 [] repairIds_injective
    (freshIds_repairIds _ (by decide +kernel)) (by decide +kernel) (by decide +kernel) rfl).mp hok
    rfl⟩

/-- The same report while a deployment of the environment waits to be applied. -/
def rolloutRun : List Action := storageRun ++ [.createDeployment (firstDeployment "env-one" 1)]

/-- The volume is not the business of the operation that is pending, but the index refuses a
second active operation of the environment, and with it the whole report. -/
theorem reconcileAgentObservations_rolloutRun :
    sessionOf (run (step smallPolicy) smallStore rolloutRun).db emptySnapshot = .ok 1 ∧
    (isBlank emptySnapshot.sessionId = false ∧ SequenceValid emptySnapshot.sequence) ∧
    normalizeRuntimeObservations emptySnapshot.observations = .ok [] ∧
    FreshIds repairIds (run (step smallPolicy) smallStore rolloutRun).db ∧
    reconcileAgentObservations (run (step smallPolicy) smallStore rolloutRun).now
      repairIds (run (step smallPolicy) smallStore rolloutRun).db emptySnapshot =
        .error .uniqueViolation :=
  ⟨by decide +kernel, by decide +kernel, rfl, freshIds_repairIds _ (by decide +kernel),
    by decide +kernel⟩

end Molejo.Store
