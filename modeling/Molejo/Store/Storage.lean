import Molejo.Store.Fencing

/-!
# What is always known of volumes

A volume is made with its environment, together with the operation that provisions
it, and neither is ever dropped. So a volume always has a first operation, which was
requested by a user that still exists; its version is positive; and of the volumes of
one environment at most one is not being removed. The drift query relies on all of
this and checks none of it. Once the removal of a volume was requested, no other
operation on it is active.
-/

namespace Molejo.Store

open Transaction Relation Table Transition

variable {v : AppVolume} {o : Operation} {j : ℕ}

variable {policy : PublicationPolicy} {s : State} {a : Action} {i : ℕ} {db db' : Db}

/-! ### Users and releases -/

/-- A user that exists keeps its row. -/
theorem step_user (policy) (a : Action) {u : User}
    (hl : s.db.users.lookup i = some u) : (step policy s a).db.users.lookup i = some u := by
  obtain ⟨_, h⟩ | ⟨_, -, hx, h⟩ := (step_outside policy s a).2 <;> rw [h]
  · exact hl
  · exact hx.1 i u hl

/-- The runtime side only reads the releases. -/
theorem step_releases (policy) (s : State) (a : Action) :
    (step policy s a).db.releases = s.db.releases ∨
      ∃ x, a = .elsewhere x ∧ (step policy s a).db.releases = x.releases := by
  obtain ⟨_, h⟩ | ⟨x, rfl, -, h⟩ := (step_outside policy s a).2
  · exact .inl (by rw [h])
  · exact .inr ⟨x, rfl, by rw [h]⟩

/-- **A volume after a step** was there before, or was made with its environment. -/
theorem volume_cases (policy) (a : Action)
    (hl : (step policy s a).db.appVolumes.lookup i = some v) :
    (∃ v₀, s.db.appVolumes.lookup i = some v₀ ∧ VolumeStep s (step policy s a).db i v₀ v) ∨
      NewVolume s (step policy s a).db i v := by
  cases hn : s.db.appVolumes.lookup i with
  | none => exact .inr ((step_volumes policy s a).new i v hn hl)
  | some v₀ => exact .inl ⟨v₀, rfl, (of_found (step_volume policy a hn) hl).1⟩

/-! ### The invariant -/

/-- What is always known of volumes, their environments and their operations. -/
structure Storage (db : Db) : Prop where
  environment : ∀ i ae, db.appEnvironments.lookup i = some ae → 0 < ae.version
  volume : ∀ i v, db.appVolumes.lookup i = some v → 0 < v.version
  operation : ∀ i v, db.appVolumes.lookup i = some v →
    ∃ k o, db.operations.lookup k = some o ∧ o.appVolumeId = some i
  accountable : ∀ i o, db.operations.lookup i = some o → Accountable db o
  single : ∀ i v j w, db.appVolumes.lookup i = some v → db.appVolumes.lookup j = some w →
    v.appEnvironmentId = w.appEnvironmentId → v.deletionRequestedAt = none →
    w.deletionRequestedAt = none → i = j
  oneActive : OneActive db
  belongs : ∀ k o j, db.operations.lookup k = some o → o.appVolumeId = some j →
    ∃ v, db.appVolumes.lookup j = some v ∧ o.appEnvironmentId = some v.appEnvironmentId
  removing : ∀ k o j v, db.operations.lookup k = some o → o.Active → o.appVolumeId = some j →
    db.appVolumes.lookup j = some v → v.deletionRequestedAt ≠ none → o.kind = .deleteVolume

theorem Initial.storage (h₀ : Initial s) : Storage s.db where
  environment _ _ := of_lookup_empty h₀.environments
  volume _ _ := of_lookup_empty h₀.volumes
  operation _ _ := of_lookup_empty h₀.volumes
  accountable _ _ := of_lookup_empty h₀.operations
  single _ _ _ _ := of_lookup_empty h₀.volumes
  oneActive _ _ _ _ := of_lookup_empty h₀.operations
  belongs _ _ _ := of_lookup_empty h₀.operations
  removing _ _ _ _ := of_lookup_empty h₀.operations

/-- A volume keeps its environment, its version does not fall, and a removal is not withdrawn. -/
theorem VolumeStep.frame {v' : AppVolume} (h : VolumeStep s db' i v v') :
    v'.appEnvironmentId = v.appEnvironmentId ∧ v.version ≤ v'.version ∧
      (v'.deletionRequestedAt = none → v.deletionRequestedAt = none) := by
  cases h with
  | report h =>
    exact ⟨(congrArg AppVolume.appEnvironmentId h :), (congrArg AppVolume.version h :).ge,
      (congrArg AppVolume.deletionRequestedAt h :).symm.trans⟩
  | expand => exact ⟨rfl, Nat.le_succ _, id⟩
  | remove => exact ⟨rfl, Nat.le_succ _, nofun⟩

section Step

variable (h : Storage s.db)

include h

theorem Storage.step_environment {ae : AppEnvironment}
    (hl : (step policy s a).db.appEnvironments.lookup i = some ae) : 0 < ae.version := by
  rcases environment_cases policy a hl with ⟨ae₀, hl₀, hs⟩ | ⟨-, -, -, -, hv⟩
  · exact (h.environment i ae₀ hl₀).trans_le hs.version_le
  · rw [hv]
    exact Nat.one_pos

theorem Storage.step_operation (hl : (step policy s a).db.appVolumes.lookup i = some v) :
    ∃ k o, (step policy s a).db.operations.lookup k = some o ∧ o.appVolumeId = some i := by
  rcases volume_cases policy a hl with ⟨v₀, hl₀, -⟩ | hnew
  · obtain ⟨k, _, ho, hv⟩ := h.operation i v₀ hl₀
    obtain ⟨o', ho', hf⟩ := Store.step_operation policy a ho
    exact ⟨k, o', ho', hf.appVolumeId.trans hv⟩
  · exact hnew.queued

theorem Storage.step_accountable (hl : (step policy s a).db.operations.lookup i = some o) :
    Accountable (step policy s a).db o := by
  rcases operation_cases policy a hl with ⟨o₀, hl₀, hf⟩ | ⟨-, hnew, -⟩
  · intro hv
    obtain ⟨u, row, hu, hrow⟩ := h.accountable i o₀ hl₀ (hf.appVolumeId ▸ hv)
    exact ⟨u, row, (congrArg Operation.requestedByUserId hf.work).trans hu, step_user policy a hrow⟩
  · exact hnew.accountable

theorem Storage.step_single {w : AppVolume} (hv : (step policy s a).db.appVolumes.lookup i = some v)
    (hw : (step policy s a).db.appVolumes.lookup j = some w)
    (he : v.appEnvironmentId = w.appEnvironmentId) (hdv : v.deletionRequestedAt = none)
    (hdw : w.deletionRequestedAt = none) : i = j := by
  rcases volume_cases policy a hv with ⟨v₀, hv₀, hsv⟩ | hnewv
  · obtain ⟨hve, -, hvd⟩ := hsv.frame
    rcases volume_cases policy a hw with ⟨w₀, hw₀, hsw⟩ | hneww
    · obtain ⟨hwe, -, hwd⟩ := hsw.frame
      exact h.single i v₀ j w₀ hv₀ hw₀ (hve.symm.trans (he.trans hwe)) (hvd hdv) (hwd hdw)
    · exact absurd (hvd hdv) (hneww.alone i v₀ hv₀ (hve.symm.trans he))
  · rcases volume_cases policy a hw with ⟨w₀, hw₀, hsw⟩ | hneww
    · obtain ⟨hwe, -, hwd⟩ := hsw.frame
      exact absurd (hwd hdw) (hnewv.alone j w₀ hw₀ (hwe.symm.trans he.symm))
    · exact hnewv.id.trans hneww.id.symm

theorem Storage.step_version (hl : (step policy s a).db.appVolumes.lookup i = some v) :
    0 < v.version := by
  rcases volume_cases policy a hl with ⟨v₀, hl₀, hs⟩ | hnew
  · exact (h.volume i v₀ hl₀).trans_le hs.frame.2.1
  · rw [hnew.version]
    exact Nat.one_pos

theorem Storage.step_belongs {k : ℕ} (hl : (step policy s a).db.operations.lookup k = some o)
    (hj : o.appVolumeId = some j) :
    ∃ v, (step policy s a).db.appVolumes.lookup j = some v ∧
      o.appEnvironmentId = some v.appEnvironmentId := by
  rcases operation_cases policy a hl with ⟨o₀, hl₀, hf⟩ | ⟨-, hnew, -⟩
  · obtain ⟨_, hv, he⟩ := h.belongs k o₀ j hl₀ (hf.appVolumeId.symm.trans hj)
    obtain ⟨v', hv', hs, -⟩ := step_volume policy a hv
    exact ⟨v', hv', hf.appEnvironmentId.trans (he.trans (congrArg some hs.frame.1.symm))⟩
  · obtain ⟨v, hv, he, -⟩ := hnew.volume j hj
    exact ⟨v, hv, he⟩

/-- When the removal of a volume is requested, no operation on it is active but the one that
removes it. -/
theorem Storage.step_removing {k : ℕ} (hl : (step policy s a).db.operations.lookup k = some o)
    (ha : o.Active) (hj : o.appVolumeId = some j)
    (hv : (step policy s a).db.appVolumes.lookup j = some v) (hd : v.deletionRequestedAt ≠ none) :
    o.kind = .deleteVolume := by
  rcases operation_cases policy a hl with ⟨o₀, hl₀, hf⟩ | ⟨-, hnew, -⟩
  · obtain ⟨v₀, hv₀, he₀⟩ := h.belongs k o₀ j hl₀ (hf.appVolumeId.symm.trans hj)
    obtain ⟨hs, -⟩ := of_found (step_volume policy a hv₀) hv
    have hkept (hd₀ : v₀.deletionRequestedAt ≠ none) : o.kind = .deleteVolume :=
      hf.kind.trans (h.removing k o₀ j v₀ hl₀ (hf.active ha) (hf.appVolumeId.symm.trans hj) hv₀ hd₀)
    cases hs with
    | report hc => exact hkept ((congrArg AppVolume.deletionRequestedAt hc :) ▸ hd)
    | expand _ hd₀ => exact absurd hd₀ hd
    | remove _ hq' =>
      obtain ⟨l, p, hp, _, hpending, hpe, -⟩ := hq'
      have hkl : k = l := h.oneActive.step policy a k l o p hl hp ha (.inl hpending)
        (by rw [hf.appEnvironmentId, he₀]; nofun) (by rw [hf.appEnvironmentId, he₀, hpe])
      subst hkl
      rwa [Option.mem_unique hl hp]
  · obtain ⟨-, hk⟩ := of_found (hnew.volume j hj) hv
    exact hk.resolve_right hd

end Step

theorem Storage.step (h : Storage s.db) (policy) (a : Action) :
    Storage (step policy s a).db where
  environment _ _ := h.step_environment
  volume _ _ := h.step_version
  operation _ _ := h.step_operation
  accountable _ _ := h.step_accountable
  single _ _ _ _ := h.step_single
  oneActive := h.oneActive.step policy a
  belongs _ _ _ := h.step_belongs
  removing _ _ _ _ := h.step_removing

/-- **Storage is sound in every run.** -/
theorem Initial.storage_run (h₀ : Initial s) (policy) (acts : List Action) :
    Storage (run (Store.step policy) s acts).db :=
  run_induction (I := fun s : State => Storage s.db) h₀.storage
    fun _ a h => h.step policy a

end Molejo.Store
