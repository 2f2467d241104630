import Molejo.Runtime.Volume
import Molejo.Store.Deletion
import Molejo.Store.VolumeResults

/-!
# Commands that remove a volume

Three places say when the removal of a volume is done. `ApplyVolume` has nothing to do if
there is no `AppVolume`. `ObserveVolume` then reports that there is none, and `execute` wants
one that is `Retained`. `HandleResult` wants the version and the digest of what was observed.
The three agree on a volume that is there. One that is not there is never removed: every
attempt fails, until there are no more (`removal_succeeds_iff`).
-/

namespace Molejo.Runtime

open ApiObject.Slot Store Table Transition

/-! ### The Agent -/

/-- The text of a state. -/
def stateText : Option VolumeState → String
  | none => ""
  | some .pending => "Pending"
  | some .provisioning => "Provisioning"
  | some .ready => "Ready"
  | some .expanding => "Expanding"
  | some .retained => "Retained"
  | some .degraded => "Degraded"

/-- `failResult`, for what was observed before. -/
def failResult (observed : ObservedVolume) (code message : String) (retryable : Bool) :
    RuntimeResult where
  errorCode := code
  retryable := retryable
  state := "Degraded"
  message := message
  desiredVersion := observed.desiredVersion
  specHash := observed.specHash
  observedRelease := ""
  volumeState := observed.state
  volumeMessage := observed.message
  observedSizeGiB := observed.observedSizeGiB

namespace VolumeCluster

variable (specHash : AppVolumeSpec → String) (name : String) (version : ℕ)
  (intent : VolumeIntent) (w : VolumeCluster)

/-- `ObserveVolume`, with the version and the digest of what was observed. -/
def observedVolume : ObservedVolume where
  found := w.observeVolume.found
  state := stateText w.observeVolume.state
  message := w.observeVolume.message
  observedSizeGiB := w.observeVolume.observedSizeGiB
  desiredVersion := (w.volume.current.map fun volume => volume.metadata.desiredVersion).getD 0
  specHash := (w.volume.current.map fun volume => specHash volume.spec).getD ""

/-- The operator reports the volume as retained, for the generation it has. -/
def reportRetained : VolumeCluster :=
  match w.volume.current with
  | none => w
  | some volume =>
    { w with volume := w.volume.setStatus (volumeStatus volume retainedVolumeDecision none) }

/-- `Execute` of a command that removes the volume, if the operator reports it as retained between
the patch and the observation. A patch may be refused by the Agent or by the server. -/
def executeRemoval : RuntimeResult :=
  let unobserved : ObservedVolume := ⟨false, "", "", 0, 0, ""⟩
  if ∃ volume ∈ w.volume.current, volume.metadata.owner ≠ name then
    failResult unobserved "runtime_ownership_conflict" "runtime object ownership conflict" false
  else if ∃ volume ∈ w.volume.current, intent.runtimeBinding ≠ volume.spec.storageClassName ∨
      intent.sizeGiB < volume.spec.sizeGiB then
    failResult unobserved "runtime_error" "runtime operation failed" true
  else
    let observed := (w.applyVolume name version intent).reportRetained.observedVolume specHash
    (executeVolume .deleteVolume intent.sizeGiB observed).getD
      (failResult observed "runtime_error" "runtime operation failed" true)

variable {name version intent w} {volume : AppVolume}

theorem observedVolume_reportRetained (h : w.volume.current = some volume) :
    ∃ message, w.reportRetained.observedVolume specHash =
      ⟨true, "Retained", message, 0, volume.metadata.desiredVersion, specHash volume.spec⟩ := by
  obtain ⟨q, hq, -, hmetadata, -, hspec, hstatus⟩ :=
    current_setStatus h (volumeStatus volume retainedVolumeDecision none)
  have hreported : w.reportRetained.volume.current = some q := by
    simpa only [reportRetained, h] using hq
  refine ⟨w.reportRetained.observeVolume.message, ?_⟩
  simp [observedVolume, observeVolume, hreported, hmetadata, hspec, hstatus, volumeStatus,
    retainedVolumeDecision, stateText]

/-- A volume that can be patched is found as `Retained`, under the version of the command. -/
theorem executeRemoval_of_some (h : w.volume.current = some volume)
    (howner : volume.metadata.owner = name)
    (hclass : intent.runtimeBinding = volume.spec.storageClassName)
    (hsize : volume.spec.sizeGiB ≤ intent.sizeGiB) :
    ∃ message spec, executeVolume .deleteVolume intent.sizeGiB
      ⟨true, "Retained", message, 0, version, specHash spec⟩ =
        some (w.executeRemoval specHash name version intent) := by
  obtain ⟨q, hq, -, hmetadata, -⟩ := current_apply h
    { volume.metadata with owner := name, desiredVersion := version }
    ⟨intent.runtimeBinding, intent.sizeGiB, intent.desiredState⟩
  have happly : (w.applyVolume name version intent).volume.current = some q := by
    simpa [applyVolume, h, howner, hclass, hsize.not_gt] using hq
  obtain ⟨message, hobserved⟩ := observedVolume_reportRetained specHash happly
  refine ⟨message, q.spec, ?_⟩
  simp [executeRemoval, h, howner, hclass, hsize.not_gt, hobserved, hmetadata, executeVolume]

variable {policy : PublicationPolicy} {now : Time} {db : Db} {op : ClaimedOperation}
  {v : Molejo.AppVolume}

/-- **The removal of a volume succeeds if and only if the volume is there**, if the patch is
accepted and the operator reports what it is asked to. -/
theorem removal_succeeds_iff (hl : db.operations.Any (LeaseHeld now op))
    (hk : op.2.kind = .deleteVolume) (hv : op.2.appVolumeId.bind db.appVolumes.lookup = some v)
    (hversion : v.version = op.2.desiredVersion) (hpositive : 0 ≤ v.requestedSizeGiB)
    (hdeleted : intent.desiredState = .deleted) (hhash : ∀ spec, SpecHashValid (specHash spec))
    (hw : ∀ volume ∈ w.volume.current, volume.metadata.owner = name ∧
      intent.runtimeBinding = volume.spec.storageClassName ∧
      volume.spec.sizeGiB ≤ intent.sizeGiB) :
    Succeeds policy now db op
        (answer op.2 (w.executeRemoval specHash name op.2.desiredVersion intent)) ↔
      w.volume.current ≠ none := by
  cases h : w.volume.current with
  | none =>
    -- nothing is patched, and nothing is found
    have hfailed : answer op.2 (w.executeRemoval specHash name op.2.desiredVersion intent) =
        .fail "runtime_error" (sanitizedRuntimeFailure "runtime_error") true := by
      simp [executeRemoval, applyVolume, h, hdeleted, reportRetained, observedVolume,
        observeVolume, executeVolume, failResult, answer]
    simp [hfailed, not_succeeds_fail]
  | some volume =>
    obtain ⟨howner, hclass, hsize⟩ := hw volume h
    obtain ⟨message, spec, hresult⟩ := executeRemoval_of_some specHash h howner hclass hsize
    have hmem : op.2.kind ∈ [OperationKind.ensureVolume, .expandVolume, .deleteVolume] := by
      simp [hk]
    simp only [executeVolume, Option.ite_none_left_eq_some, Option.some.injEq] at hresult
    rw [← hresult.2, answer_eq_complete rfl rfl rfl (hhash spec), complete_volume hmem]
    simp only [ne_eq, reduceCtorEq, not_false_eq_true, iff_true]
    refine (completeVolume_succeeds_iff hl hmem rfl (hhash spec)).mpr ⟨v, ?_, ?_, le_rfl, hpositive⟩
    · rwa [volumeOf, hk]
    · rwa [Consistent, hk]

/-! ### Two clusters -/

/-- The removal of the volume of the small store, claimed by the Agent. -/
def removingVolume : State :=
  run (Store.step smallPolicy) preparingVolume
    [.handleResult 1 (preparedResult 10), .deleteAppVolume removalRequest,
      .claimNext "agent:cls-one" "cls-one" 60]

/-- What the Agent makes of the removal in a cluster. -/
def removedFrom (w : VolumeCluster) : RuntimeResult :=
  w.executeRemoval (fun _ => goodResult.specHash) "vol-one" 2 (someVolume .deleted)

/-- The removal of a volume that was made before succeeds. -/
theorem removal_succeeds_present : ∃ op, removingVolume.held.lookup 2 = some op ∧
    Succeeds smallPolicy 0 removingVolume.db op
      (answer op.2 (removedFrom (initial.applyVolume "vol-one" 1 (someVolume .ready)))) := by
  obtain ⟨op, hop, hl, hk, hd, v, hv, hvv, hsize⟩ : ∃ op ∈ removingVolume.held.lookup 2,
      removingVolume.db.operations.Any (LeaseHeld 0 op) ∧ op.2.kind = .deleteVolume ∧
      op.2.desiredVersion = 2 ∧ ∃ v ∈ op.2.appVolumeId.bind removingVolume.db.appVolumes.lookup,
        v.version = 2 ∧ 0 ≤ v.requestedSizeGiB := by
    decide +kernel
  refine ⟨op, hop, ?_⟩
  rw [removedFrom, ← hd]
  exact (removal_succeeds_iff _ hl hk hv (hvv.trans hd.symm) hsize rfl (fun _ => by decide)
    (by decide)).mpr (by decide)

/-- **The removal of a volume that is not there fails**: its operation is `Pending` again. -/
theorem not_removal_succeeds_absent :
    (∃ op ∈ removingVolume.held.lookup 2, op.2.kind = .deleteVolume ∧ op.2.desiredVersion = 2 ∧
      removingVolume.db.operations.Any (LeaseHeld 0 op)) ∧
    ∃ o ∈ (Store.step smallPolicy removingVolume
      (.handleResult 2 (removedFrom initial))).db.operations.lookup 2, o.status = .pending := by
  decide +kernel

end VolumeCluster

end Molejo.Runtime
