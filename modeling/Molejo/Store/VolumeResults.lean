import Molejo.Store.Publishing

/-!
# Results about volumes

A command on a volume is carried out in one service and its result is stored in
another. The executor accepts a volume that is *at least* as large as was asked for,
since providers round capacities up. The table of the control plane admits a volume
that is *at most* as large. So a result is stored if and only if the size is exactly
the one asked for (`handleResult_succeeds_iff`); one that is larger is answered as if
the lease were lost, and the operation stays `Running` until it expires and the same
happens again.
-/

namespace Molejo.Store

open Transaction Table

/-! ### The executor -/

/-- `VolumeObservation`, with the version and the hash of the object that was observed. -/
structure ObservedVolume where
  found : Bool
  state : String
  message : String
  observedSizeGiB : ℤ
  desiredVersion : ℕ
  specHash : String

/-- `DeploymentObservation`. -/
structure ObservedDeployment where
  found : Bool
  state : String
  message : String
  observedRelease : String
  desiredVersion : ℕ
  specHash : String

/-- What `execute` returns for a command on a volume of the given size; `none` is an error. -/
def executeVolume (kind : OperationKind) (sizeGiB : ℤ) (observed : ObservedVolume) :
    Option RuntimeResult :=
  let expected := if kind = .deleteVolume then "Retained" else "Ready"
  let waitingForConsumer := kind = .ensureVolume ∧ observed.found ∧ observed.state = "Provisioning"
  if ¬ waitingForConsumer ∧ (¬ observed.found ∨ observed.state ≠ expected ∨
      expected = "Ready" ∧ observed.observedSizeGiB < sizeGiB) then none
  else some
    { errorCode := ""
      retryable := false
      state := "Ready"
      message := observed.message
      desiredVersion := observed.desiredVersion
      specHash := observed.specHash
      observedRelease := ""
      volumeState := observed.state
      volumeMessage := observed.message
      observedSizeGiB := observed.observedSizeGiB }

/-- What `execute` returns for a stateful deployment of an image with a volume of the given
size. -/
def executeDeployment (image : String) (sizeGiB : ℤ) (observed : ObservedDeployment)
    (volume : ObservedVolume) : Option RuntimeResult :=
  if ¬ observed.found ∨ observed.state ≠ "Ready" ∨ observed.observedRelease ≠ image then none
  else if ¬ volume.found ∨ volume.state ≠ "Ready" ∨ volume.observedSizeGiB < sizeGiB then none
  else some
    { errorCode := ""
      retryable := false
      state := observed.state
      message := observed.message
      desiredVersion := observed.desiredVersion
      specHash := observed.specHash
      observedRelease := observed.observedRelease
      volumeState := volume.state
      volumeMessage := volume.message
      observedSizeGiB := volume.observedSizeGiB }

/-- The executor may return the result for a command of the kind that prepares, expands or mounts
a volume of the given size. -/
def Returns (kind : OperationKind) (sizeGiB : ℤ) (result : RuntimeResult) : Prop :=
  (kind = .ensureVolume ∨ kind = .expandVolume) ∧
    (∃ observed, executeVolume kind sizeGiB observed = some result) ∨
  kind = .applyDeployment ∧
    ∃ image observed volume, image ≠ "" ∧
      executeDeployment image sizeGiB observed volume = some result

/-! ### The control plane -/

/-- The row of the volume that an operation is about, or that its deployment mounts. -/
def volumeOf (db : Db) (op : Operation) : Option AppVolume :=
  match op.kind with
  | .applyDeployment => (op.deploymentId.bind db.deployments.lookup).bind fun d =>
      d.appVolumeId.bind db.appVolumes.lookup
  | _ => op.appVolumeId.bind db.appVolumes.lookup

/-- The rows an operation is about are there and belong together. -/
def Consistent (policy : PublicationPolicy) (db : Db) (op : Operation) (v : AppVolume) : Prop :=
  match op.kind with
  | .applyDeployment => ∃ d, op.deploymentId.bind db.deployments.lookup = some d ∧
      some d.appEnvironmentId = op.appEnvironmentId ∧
      some v.appEnvironmentId = op.appEnvironmentId ∧
      ∀ e ∈ d.configuration.publicEndpoints, ∃ hostname,
        policy.resolve d.workloadKind e = .ok hostname ∧ db.publicationClaims.Any fun _ c =>
          c.appEnvironmentId = d.appEnvironmentId ∧ c.hostname = hostname
  | _ => v.version = op.desiredVersion

variable {policy : PublicationPolicy} {now : Time} {db : Db} {op : ClaimedOperation}
  {v : AppVolume} {result : RuntimeResult}

/-- The call ends with the operation `Succeeded`. -/
def Succeeds (policy : PublicationPolicy) (now : Time) (db : Db) (op : ClaimedOperation)
    (call : Call) : Prop :=
  ∃ db', execute policy now db op call = .ok db' ∧
    ∃ o, db'.operations.lookup op.1 = some o ∧ o.status = .succeeded

/-- The row that a call completes under its lease is `Succeeded`. -/
theorem succeeded_of_held (hl : db.operations.Any (LeaseHeld now op)) :
    ∃ o, (db.operations.modify (LeaseHeld now op) (succeedRow now)).lookup op.1 = some o ∧
      o.status = .succeeded := by
  obtain ⟨_, _, ho, hk⟩ := any_iff.mp hl
  obtain rfl := hk.1
  exact ⟨_, lookup_modify_of_pos ho hk, rfl⟩

theorem completeVolume_succeeds_iff {state message specHash : String} {size : ℤ}
    {observed : VolumeState} (hl : db.operations.Any (LeaseHeld now op))
    (hk : op.2.kind ∈ [OperationKind.ensureVolume, .expandVolume, .deleteVolume])
    (hstate : VolumeState.ofString? state = some observed) (hspec : SpecHashValid specHash) :
    Succeeds policy now db op (.completeVolume state message size specHash) ↔
      ∃ v, volumeOf db op.2 = some v ∧ Consistent policy db op.2 v ∧ SizeValid v size := by
  simp only [List.mem_cons, List.not_mem_nil, or_false] at hk
  have hvolume : volumeOf db op.2 = op.2.appVolumeId.bind db.appVolumes.lookup := by
    rcases hk with hk | hk | hk <;> rw [volumeOf, hk]
  have hversion (v : AppVolume) :
      Consistent policy db op.2 v ↔ v.version = op.2.desiredVersion := by
    rcases hk with hk | hk | hk <;> rw [Consistent, hk]
  simp only [hvolume, hversion]
  constructor
  · rintro ⟨_, h, -⟩
    obtain ⟨-, v, -, -, hv, ⟨hvv, hsize, -⟩, -⟩ := completeVolume_eq_ok.mp h
    exact ⟨v, hv, hvv, hsize⟩
  · rintro ⟨v, hv, hvv, hsize⟩
    exact ⟨_, completeVolume_eq_ok.mpr ⟨observed, v, hstate, hl, hv, ⟨hvv, hsize, hspec⟩, rfl⟩,
      succeeded_of_held hl⟩

theorem completeDeployment_succeeds_iff {message release specHash : String} {c : VolumeCompletion}
    (hl : db.operations.Any (LeaseHeld now op)) (hk : op.2.kind = .applyDeployment)
    (hspec : SpecHashValid specHash) :
    Succeeds policy now db op (.completeDeployment message release specHash (some c)) ↔
      ∃ v, volumeOf db op.2 = some v ∧ Consistent policy db op.2 v ∧
        SizeValid v c.observedSizeGiB := by
  simp only [Succeeds, execute, completeDeployment, goLive, ok_iff, completeOperationLease_eq_ok,
    finishDeployment, finishVolume_eq_ok, volumeOf, Consistent, hk, Option.bind_eq_some_iff]
  constructor
  · rintro ⟨_, ⟨_, ⟨-, rfl⟩, j, hj, e, he, d, hd, _, ⟨hde, -, rfl⟩, _, hv, claims, hclaims, -⟩, -⟩
    rcases hv with ⟨hno, -⟩ | ⟨_, v, hc, hv, ⟨hve, hsize⟩, rfl⟩
    · cases hno
    · cases hc
      cases hde.trans he
      exact ⟨v, ⟨d, ⟨j, hj, hd⟩, hv⟩, ⟨d, ⟨j, hj, hd⟩, hde, hve,
        activatePublicationClaims_isOk.mp ⟨claims, hclaims⟩⟩, hsize⟩
  · rintro ⟨v, ⟨d, ⟨j, hj, hd⟩, hv⟩, ⟨d', ⟨j', hj', hd'⟩, hde, hve, howned⟩, hsize⟩
    cases hj.symm.trans hj'
    cases hd.symm.trans hd'
    obtain ⟨claims, hclaims⟩ := activatePublicationClaims_isOk.mpr howned
    exact ⟨_, ⟨_, ⟨hl, rfl⟩, j, hj, _, hde.symm, d, hd, _, ⟨hde, .inl hspec, rfl⟩, _,
      .inr ⟨c, v, rfl, hv, ⟨hve, hsize⟩, rfl⟩, claims, hclaims, rfl⟩, succeeded_of_held hl⟩

/-- `HandleResult` completes the operation with a result without an error that is `Ready`. -/
theorem answer_eq_complete {o : Operation} (he : result.errorCode = "")
    (hs : result.state = "Ready") (hversion : result.desiredVersion = o.desiredVersion)
    (hspec : SpecHashValid result.specHash) : answer o result = complete o result := by
  rw [answer, if_neg (by simp [he]), if_neg (by simp [hs]), if_neg (by simp [hversion, hspec])]

theorem complete_volume {o : Operation}
    (hk : o.kind ∈ [OperationKind.ensureVolume, .expandVolume, .deleteVolume]) :
    complete o result = .completeVolume result.volumeState result.volumeMessage
      result.observedSizeGiB result.specHash := by
  simp only [List.mem_cons, List.not_mem_nil, or_false] at hk
  rcases hk with hk | hk | hk <;> simp only [complete, hk]

/-- **A result about a volume is stored if and only if the volume is no larger than it was asked to
be.** -/
theorem handleResult_succeeds_iff {sizeGiB : ℤ} (hl : db.operations.Any (LeaseHeld now op))
    (hr : Returns op.2.kind sizeGiB result)
    (hversion : result.desiredVersion = op.2.desiredVersion)
    (hspec : SpecHashValid result.specHash) :
    Succeeds policy now db op (answer op.2 result) ↔
      ∃ v, volumeOf db op.2 = some v ∧ Consistent policy db op.2 v ∧
        SizeValid v result.observedSizeGiB := by
  rcases hr with ⟨hk, observed, hr⟩ | ⟨hk, image, observed, volume, hi, hr⟩
  · simp only [executeVolume, Option.ite_none_left_eq_some, Option.some.injEq] at hr
    obtain ⟨hcheck, rfl⟩ := hr
    have hstate : ∃ state, VolumeState.ofString? observed.state = some state := by
      have hready : op.2.kind ≠ .deleteVolume := by rcases hk with hk | hk <;> rw [hk] <;> decide
      rw [if_neg hready] at hcheck
      by_cases hp : observed.state = "Provisioning"
      · exact ⟨_, by rw [hp]; rfl⟩
      · have hs : observed.state = "Ready" := by
          by_contra hne
          exact hcheck ⟨fun hw => hp hw.2.2, .inr (.inl hne)⟩
        exact ⟨_, by rw [hs]; rfl⟩
    obtain ⟨state, hstate⟩ := hstate
    have hmem : op.2.kind ∈ [OperationKind.ensureVolume, .expandVolume, .deleteVolume] := by
      rcases hk with hk | hk <;> simp [hk]
    rw [answer_eq_complete rfl rfl hversion hspec, complete_volume hmem]
    exact completeVolume_succeeds_iff hl hmem hstate hspec
  · simp only [executeDeployment, Option.ite_none_left_eq_some, Option.some.injEq, not_or,
      not_not] at hr
    obtain ⟨hd, hv, rfl⟩ := hr
    have hvolume := hv.2.1.trans_ne (show "Ready" ≠ "" by decide)
    rw [answer_eq_complete rfl hd.2.1 hversion hspec]
    simp only [complete, hk, if_neg (hd.2.2.trans_ne hi), if_pos hvolume]
    exact completeDeployment_succeeds_iff hl hk hspec

/-- A call that fails the operation does not end with it `Succeeded`. -/
theorem not_succeeds_fail {code message : String} {retry : Bool} :
    ¬ Succeeds policy now db op (.fail code message retry) := by
  rintro ⟨_, h, o, ho, hs⟩
  obtain ⟨hl, rfl⟩ := fail_eq_ok.mp h
  obtain ⟨_, _, hrow, hk⟩ := any_iff.mp hl
  obtain rfl := hk.1
  split at ho
  · cases (lookup_modify_of_pos hrow hk).symm.trans ho
    cases hs
  · rw [(reportFailure_frame _ _).1] at ho
    cases (lookup_modify_of_pos hrow hk).symm.trans ho
    cases hs

/-! ### Runs -/

/-- The small store, in which a volume of ten gibibytes is being prepared. -/
def preparingVolume : State :=
  Transition.run (step smallPolicy) smallStore
    [.createAppEnvironment statefulEnvironment, .claimNext "agent:cls-one" "cls-one" 60]

/-- What the Agent observes of it when it is ready and has the given size. -/
def preparedVolume (observedSizeGiB : ℤ) : ObservedVolume :=
  ⟨true, "Ready", "", observedSizeGiB, 1, goodResult.specHash⟩

/-- What the executor returns then. -/
def preparedResult (observedSizeGiB : ℤ) : RuntimeResult :=
  { volumeResult "Ready" 1 with observedRelease := "", observedSizeGiB := observedSizeGiB }

/-- A volume of ten gibibytes is stored. -/
theorem handleResult_succeeds_exact : ∃ op, preparingVolume.held.lookup 1 = some op ∧
    Succeeds smallPolicy 0 preparingVolume.db op (answer op.2 (preparedResult 10)) := by
  obtain ⟨op, hop, hl, hk, hd, v, hv, hvv, hsize⟩ : ∃ op ∈ preparingVolume.held.lookup 1,
      preparingVolume.db.operations.Any (LeaseHeld 0 op) ∧ op.2.kind = .ensureVolume ∧
      op.2.desiredVersion = 1 ∧ ∃ v ∈ op.2.appVolumeId.bind preparingVolume.db.appVolumes.lookup,
        v.version = 1 ∧ SizeValid v 10 := by
    decide +kernel
  have hr : Returns op.2.kind 10 (preparedResult 10) := by
    rw [hk]
    exact .inl ⟨.inl rfl, preparedVolume 10, by decide⟩
  refine ⟨op, hop, (handleResult_succeeds_iff hl hr hd.symm (by decide)).mpr ⟨v, ?_, ?_, hsize⟩⟩
  · rwa [volumeOf, hk]
  · rw [Consistent, hk]
    exact hvv.trans hd.symm

/-- **A volume of eleven gibibytes is not stored**, though the executor is content with it: its
operation stays `Running`. -/
theorem not_succeeds_rounded_up :
    executeVolume .ensureVolume 10 (preparedVolume 11) = some (preparedResult 11) ∧
      (∃ op ∈ preparingVolume.held.lookup 1, op.2.kind = .ensureVolume ∧
        op.2.desiredVersion = (preparedResult 11).desiredVersion ∧
        preparingVolume.db.operations.Any (LeaseHeld 0 op)) ∧
      (∃ o ∈ (step smallPolicy preparingVolume
        (.handleResult 1 (preparedResult 11))).db.operations.lookup 1, o.status = .running) := by
  decide +kernel

end Molejo.Store
