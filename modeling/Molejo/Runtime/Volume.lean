import Molejo.Lib.ApiObject
import Molejo.Lib.Transition
import Molejo.Store.Command

/-!
# Retained volumes

A volume that is no longer wanted is not deleted but *retained*: the environment is gone, and the
data stays. In the cluster three parties have a share in this. The Agent writes what the control
plane wants into an `AppVolume` (`applyVolume`). The operator turns that into a claim for storage,
and when the volume is wanted no more, it deletes the claim, and reports `Retained` when the claim
is gone (`reconcileClaim`). The cluster binds claims to persistent volumes, and when a claim is
gone, it does with its persistent volume what the *reclaim policy* of the storage class says.

Nobody looks at the reclaim policy, and nobody reads the retention policy of the `AppVolume`, which
is always to preserve. If the reclaim policy is `Delete`, then deleting the claim deletes the data,
and `Retained` is reported afterwards (`not_retainedData_detachRun`). What is reported is true if
claims are deleted only under the reclaim policy `Retain` (`retainedData_of_careful`).

The operator reads from caches. A reconcile may start from any version of the `AppVolume` that
there has been, and see the claim as it was at any time, or not at all. Any number of reconciles may
be under way.
-/

namespace Molejo.Runtime

open ApiObject Store Table Transition

/-! ### Objects -/

/-- What the metadata of an `AppVolume` is used for: the annotations
`platform.molejo.dev/control-plane-owner` and `platform.molejo.dev/desired-version`, and whether
there is a deletion timestamp. -/
structure AppVolumeMetadata where
  owner : String
  desiredVersion : ℕ
  deleting : Bool
deriving DecidableEq

/-- `AppVolumeSpec`, without the retention policy, which is always to preserve. -/
structure AppVolumeSpec where
  storageClassName : String
  sizeGiB : ℤ
  desiredState : VolumeDesiredState
deriving DecidableEq

/-- `AppVolumeStatus`. -/
structure AppVolumeStatus where
  observedGeneration : ℕ
  observedSizeGiB : ℤ
  state : Option VolumeState
  claimRef : Option String
  conditions : List (Condition String)
deriving DecidableEq

/-- `AppVolume`. -/
abbrev AppVolume := Object AppVolumeMetadata AppVolumeSpec AppVolumeStatus

/-- `corev1.PersistentVolumeClaimPhase`. -/
inductive ClaimPhase
  | pending
  | bound
  | lost
deriving DecidableEq

/-- The annotation `platform.molejo.dev/app-volume-owner` of a claim, and whether it is being
deleted. -/
structure ClaimMetadata where
  owner : Option String
  terminating : Bool
deriving DecidableEq

/-- What the operator asks for. -/
structure ClaimSpec where
  storageClassName : String
  requestGiB : ℤ
deriving DecidableEq

/-- What the cluster says about a claim. The persistent volume it is bound to is part of this. -/
structure ClaimStatus where
  phase : ClaimPhase
  /-- In bytes. -/
  capacity : Option ℤ
  volumeName : Option ℕ
deriving DecidableEq

/-- `corev1.PersistentVolumeClaim`. -/
abbrev PersistentVolumeClaim := Object ClaimMetadata ClaimSpec ClaimStatus

/-- The reclaim policies of storage classes. -/
inductive ReclaimPolicy
  | retain
  | delete
deriving DecidableEq

/-- `corev1.PersistentVolume`, with its data. -/
structure PersistentVolume where
  claimUid : ℕ
  reclaimPolicy : ReclaimPolicy
deriving DecidableEq

/-! ### The operator -/

/-- `volumeSnapshot`. -/
structure VolumeSnapshot where
  desiredSizeGiB : ℤ
  observedSizeGiB : ℤ
  phase : ClaimPhase

/-- `volumeDecision`. -/
structure VolumeDecision where
  state : VolumeState
  reason : String
  message : String
  observedSizeGiB : ℤ

/-- `snapshotPersistentVolumeClaim`. -/
def snapshotPersistentVolumeClaim (claim : PersistentVolumeClaim) (desiredSizeGiB : ℤ) :
    VolumeSnapshot where
  desiredSizeGiB := desiredSizeGiB
  observedSizeGiB := (claim.status.capacity.map fun bytes => bytes / 2 ^ 30).getD 0
  phase := claim.status.phase

/-- `evaluateVolume`. -/
def evaluateVolume (snapshot : VolumeSnapshot) : VolumeDecision :=
  match snapshot.phase with
  | .bound =>
    if snapshot.desiredSizeGiB ≤ snapshot.observedSizeGiB then
      ⟨.ready, "VolumeReady", "Persistent storage is ready.", snapshot.observedSizeGiB⟩
    else
      ⟨.expanding, "VolumeExpanding", "Persistent storage expansion is in progress.",
        snapshot.observedSizeGiB⟩
  | .lost =>
    ⟨.degraded, "VolumeFailed", "Persistent storage is unavailable.", snapshot.observedSizeGiB⟩
  | .pending =>
    ⟨.provisioning, "VolumeProvisioning", "Persistent storage is being prepared.",
      snapshot.observedSizeGiB⟩

/-- `retainedVolumeDecision`. -/
def retainedVolumeDecision : VolumeDecision :=
  ⟨.retained, "VolumeRetained", "Persistent data is retained after explicit detach.", 0⟩

/-- `volumeOwnershipConflictDecision`. -/
def volumeOwnershipConflictDecision : VolumeDecision :=
  ⟨.degraded, "VolumeFailed", "Persistent storage ownership conflicts with another resource.", 0⟩

/-- The status that `updateVolumeStatus` computes from the volume as it was read. -/
def volumeStatus (volume : AppVolume) (decision : VolumeDecision) (claimRef : Option String) :
    AppVolumeStatus where
  observedGeneration := volume.generation
  observedSizeGiB := decision.observedSizeGiB
  state := some decision.state
  claimRef := claimRef <|> volume.status.claimRef
  conditions := setCondition volume.status.conditions
    { type := "Ready"
      status := if decision.state = .ready ∨ decision.state = .retained then .true else .false
      observedGeneration := volume.generation
      reason := decision.reason
      message := decision.message }

/-- A reconcile that is under way: the volume as it was read, and what it has decided to report,
with the name of the claim. -/
structure Reconcile where
  volume : AppVolume
  decided : Option (VolumeDecision × Option String)

/-! ### The cluster -/

/-- The part of a cluster that concerns one volume, and the persistent volume that its claim was
bound to last. -/
structure VolumeCluster where
  volume : Slot AppVolumeMetadata AppVolumeSpec AppVolumeStatus
  claim : Slot ClaimMetadata ClaimSpec ClaimStatus
  persistentVolumes : Table PersistentVolume
  lastBound : Option ℕ
  reconciles : Table Reconcile

/-- What can happen. -/
inductive VolumeAction
  /-- The Agent carries out a command on the volume. -/
  | applyVolume (desiredVersion : ℕ) (intent : VolumeIntent)
  /-- Somebody deletes the `AppVolume`, and a finalizer keeps it. -/
  | deleteAppVolume
  /-- The operator reads a version of the volume, counted from the newest. -/
  | startReconcile (version : ℕ)
  /-- The operator reads a version of the claim, or none, and acts on it. -/
  | reconcileClaim (reconcile : ℕ) (version : Option ℕ)
  | updateVolumeStatus (reconcile : ℕ)
  /-- The cluster binds the claim to a new persistent volume. -/
  | bindClaim (capacity : ℤ)
  /-- The cluster reports another phase or size. -/
  | reportClaim (phase : ClaimPhase) (capacity : Option ℤ)
  /-- The cluster removes a claim that is being deleted. -/
  | removeClaim
  /-- The cluster removes a persistent volume. -/
  | reclaimVolume (persistentVolume : ℕ)
  /-- Somebody else makes a claim with the name of the volume. -/
  | createForeignClaim (owner : Option String) (spec : ClaimSpec)
  | deleteForeignClaim

namespace VolumeCluster

variable (name : String) (w : VolumeCluster)

/-- `ApplyVolume`. The server rejects a patch that changes the storage class or makes the volume
smaller. -/
def applyVolume (desiredVersion : ℕ) (intent : VolumeIntent) : VolumeCluster :=
  let spec : AppVolumeSpec := ⟨intent.runtimeBinding, intent.sizeGiB, intent.desiredState⟩
  match w.volume.current with
  | none =>
    if intent.desiredState = .deleted then w
    else
      { w with
        volume := w.volume.create ⟨name, desiredVersion, false⟩ spec ⟨0, 0, none, none, []⟩ }
  | some current =>
    if current.metadata.owner ≠ name ∨ spec.storageClassName ≠ current.spec.storageClassName ∨
        spec.sizeGiB < current.spec.sizeGiB then w
    else
      { w with
        volume := w.volume.apply
          { current.metadata with owner := name, desiredVersion := desiredVersion } spec }

/-- Mark the `AppVolume` as deleted. -/
def deleteAppVolume : VolumeCluster :=
  match w.volume.current with
  | none => w
  | some current =>
    { w with volume := w.volume.apply { current.metadata with deleting := true } current.spec }

/-- The first steps of `reconcile`: read the volume, and stop if it is being deleted. -/
def startReconcile (version : ℕ) : VolumeCluster :=
  match w.volume.past[version]? with
  | none => w
  | some volume =>
    if volume.metadata.deleting then w
    else { w with reconciles := w.reconciles.insert ⟨volume, none⟩ }

/-- A reconcile ends. -/
def finish (k : ℕ) : VolumeCluster :=
  { w with reconciles := w.reconciles.delete fun i _ => i = k }

/-- A reconcile has decided what to report. -/
def decide (k : ℕ) (decision : VolumeDecision) (claimRef : Option String) : VolumeCluster :=
  { w with
    reconciles := w.reconciles.modify (fun i _ => i = k) fun r =>
      { r with decided := some (decision, claimRef) } }

/-- `persistentVolumeClaimOwnedBy`. -/
def OwnedBy (name : String) (claim : PersistentVolumeClaim) : Prop :=
  claim.metadata.owner = some name
deriving Decidable

/-- `configurePersistentVolumeClaim`: what the spec of the claim should be. -/
def claimSpec (volume : AppVolume) : ClaimSpec :=
  ⟨volume.spec.storageClassName, volume.spec.sizeGiB⟩

/-- Delete the claim: it is removed when nothing uses it any more. -/
def deleteClaim : VolumeCluster :=
  match w.claim.current with
  | none => w
  | some claim =>
    { w with claim := w.claim.apply { claim.metadata with terminating := true } claim.spec }

/-- `reconcileDeletedVolume`, with the claim as it was read. -/
def reconcileDeletedVolume (k : ℕ) : Option PersistentVolumeClaim → VolumeCluster
  | none => w.decide k retainedVolumeDecision none
  | some claim =>
    if ¬ OwnedBy name claim then w.decide k volumeOwnershipConflictDecision (some name)
    else w.deleteClaim.finish k

/-- `applyPersistentVolumeClaim` and the evaluation of the claim, with the claim as it was read. A
claim that should be created and is there, or should be patched and is not, is an error. -/
def applyPersistentVolumeClaim (k : ℕ) (volume : AppVolume) :
    Option PersistentVolumeClaim → VolumeCluster
  | none =>
    if w.claim.current.isSome then w.finish k
    else
      let claim := w.claim.create ⟨some name, false⟩ (claimSpec volume) ⟨.pending, none, none⟩
      { w with claim := claim }.decide k
        (evaluateVolume ⟨volume.spec.sizeGiB, 0, .pending⟩) (some name)
  | some seen =>
    if ¬ OwnedBy name seen then w.decide k volumeOwnershipConflictDecision (some name)
    else if claimSpec volume = seen.spec then
      w.decide k (evaluateVolume (snapshotPersistentVolumeClaim seen volume.spec.sizeGiB))
        (some name)
    else
      match w.claim.current with
      | none => w.finish k
      | some claim =>
        { w with claim := w.claim.apply claim.metadata (claimSpec volume) }.decide k
          (evaluateVolume (snapshotPersistentVolumeClaim claim volume.spec.sizeGiB)) (some name)

/-- The claim as it was in some version, or not there. -/
def seenClaim (version : Option ℕ) : Option PersistentVolumeClaim :=
  version.bind fun i => w.claim.past[i]?

/-- The middle of `reconcile`. -/
def reconcileClaim (k : ℕ) (version : Option ℕ) : VolumeCluster :=
  match w.reconciles.lookup k with
  | some ⟨volume, none⟩ =>
    if volume.spec.desiredState = .deleted then
      w.reconcileDeletedVolume name k (w.seenClaim version)
    else w.applyPersistentVolumeClaim name k volume (w.seenClaim version)
  | _ => w

/-- `updateVolumeStatus`: nothing is written if nothing changes, or if the volume was written since
it was read. -/
def updateVolumeStatus (k : ℕ) : VolumeCluster :=
  match w.reconciles.lookup k with
  | some ⟨volume, some (decision, claimRef)⟩ =>
    let status := volumeStatus volume decision claimRef
    let w := w.finish k
    if status = volume.status then w else { w with volume := w.volume.patchStatus volume status }
  | _ => w

/-- The cluster binds a claim that is not bound and not being deleted. -/
def bindClaim (reclaim : String → ReclaimPolicy) (capacity : ℤ) : VolumeCluster :=
  match w.claim.current with
  | none => w
  | some claim =>
    if claim.status.volumeName ≠ none ∨ claim.metadata.terminating then w
    else
      { w with
        persistentVolumes := w.persistentVolumes.insert
          ⟨claim.uid, reclaim claim.spec.storageClassName⟩
        claim := w.claim.setStatus ⟨.bound, some capacity, some w.persistentVolumes.nextId⟩
        lastBound := if OwnedBy name claim then some w.persistentVolumes.nextId else w.lastBound }

/-- The cluster reports about the claim. -/
def reportClaim (phase : ClaimPhase) (capacity : Option ℤ) : VolumeCluster :=
  match w.claim.current with
  | none => w
  | some claim => { w with claim := w.claim.setStatus ⟨phase, capacity, claim.status.volumeName⟩ }

/-- The cluster removes a claim that is being deleted. -/
def removeClaim : VolumeCluster :=
  match w.claim.current with
  | none => w
  | some claim => if claim.metadata.terminating then { w with claim := w.claim.delete } else w

/-- The cluster removes a persistent volume whose claim is gone, and its data, if the reclaim policy
says so. -/
def reclaimVolume (i : ℕ) : VolumeCluster :=
  { w with
    persistentVolumes := w.persistentVolumes.delete fun j pv => j = i ∧
      pv.reclaimPolicy = .delete ∧ ∀ claim ∈ w.claim.current, claim.uid ≠ pv.claimUid }

/-- Somebody else makes a claim. -/
def createForeignClaim (owner : Option String) (spec : ClaimSpec) : VolumeCluster :=
  if w.claim.current.isSome ∨ owner = some name then w
  else { w with claim := w.claim.create ⟨owner, false⟩ spec ⟨.pending, none, none⟩ }

/-- Somebody else deletes a claim that is not the volume's. -/
def deleteForeignClaim : VolumeCluster :=
  match w.claim.current with
  | none => w
  | some claim => if OwnedBy name claim then w else w.deleteClaim

/-- One step, for the volume called `name`, where the storage classes have the given reclaim
policies. -/
def step (name : String) (reclaim : String → ReclaimPolicy) (w : VolumeCluster) :
    VolumeAction → VolumeCluster
  | .applyVolume desiredVersion intent => w.applyVolume name desiredVersion intent
  | .deleteAppVolume => w.deleteAppVolume
  | .startReconcile version => w.startReconcile version
  | .reconcileClaim k version => w.reconcileClaim name k version
  | .updateVolumeStatus k => w.updateVolumeStatus k
  | .bindClaim capacity => w.bindClaim name reclaim capacity
  | .reportClaim phase capacity => w.reportClaim phase capacity
  | .removeClaim => w.removeClaim
  | .reclaimVolume i => w.reclaimVolume i
  | .createForeignClaim owner spec => w.createForeignClaim name owner spec
  | .deleteForeignClaim => w.deleteForeignClaim name

/-- Nothing is there. -/
def initial : VolumeCluster := ⟨.empty, .empty, .empty, none, .empty⟩

/-- **Retained means retained**: when the volume is reported as retained, the persistent volume that
its claim was bound to last is there. -/
def RetainedData : Prop :=
  ∀ volume ∈ w.volume.current, volume.status.state = some .retained →
    ∀ i ∈ w.lastBound, ∃ pv, w.persistentVolumes.lookup i = some pv

/-! ### What the Agent reports -/

/-- `VolumeObservation`. -/
structure Observation where
  found : Bool
  state : Option VolumeState
  message : String
  observedSizeGiB : ℤ

/-- `ObserveVolume`: the message is that of the last condition that has one. -/
def observeVolume : Observation :=
  match w.volume.current with
  | none => ⟨false, some .pending, "persistent storage intent not found", 0⟩
  | some volume =>
    ⟨true, volume.status.state,
      ((volume.status.conditions.filter fun c => c.message ≠ "").getLast?.map
        Condition.message).getD "persistent storage reconciliation pending",
      volume.status.observedSizeGiB⟩

/-! ### The condition -/

/-- The reconcile and the version of the claim of an action of the operator on the claim. -/
def claimStep? : VolumeAction → Option (ℕ × Option ℕ)
  | .reconcileClaim k version => some (k, version)
  | _ => none

/-- The reconcile is going to delete the claim. -/
def DeletesClaim (k : ℕ) (version : Option ℕ) : Prop :=
  ∃ r ∈ w.reconciles.lookup k, r.decided.isNone ∧ r.volume.spec.desiredState = .deleted ∧
    ∃ claim ∈ w.seenClaim version, OwnedBy name claim
deriving Decidable

/-- The persistent volume that the claim is bound to stays without the claim. -/
def BoundRetained : Prop :=
  ∀ claim ∈ w.claim.current, ∀ i ∈ claim.status.volumeName,
    ∀ pv ∈ w.persistentVolumes.lookup i, pv.reclaimPolicy = .retain
deriving Decidable

/-- The operator deletes a claim only if the persistent volume stays. -/
def Careful (name : String) (w : VolumeCluster) (a : VolumeAction) : Prop :=
  ∀ x ∈ claimStep? a, w.DeletesClaim name x.1 x.2 → w.BoundRetained
deriving Decidable

/-! ### The invariant -/

section Invariant

variable {name : String} {w w' : VolumeCluster}

/-- The claim holds the persistent volume: it is the volume's own, bound to it, and not being
deleted. -/
structure Holds (name : String) (claim : PersistentVolumeClaim) (i : ℕ) (pv : PersistentVolume) :
    Prop where
  uid : claim.uid = pv.claimUid
  volumeName : claim.status.volumeName = some i
  owned : OwnedBy name claim
  alive : claim.metadata.terminating = false

/-- **What keeps the data**: the persistent volume that was bound last is there, and either stays
without a claim, or is held by the claim. -/
def Kept (name : String) (w : VolumeCluster) : Prop :=
  ∀ i ∈ w.lastBound, ∃ pv, w.persistentVolumes.lookup i = some pv ∧
    (pv.reclaimPolicy = .retain ∨ ∃ claim, w.claim.current = some claim ∧ Holds name claim i pv)

theorem Kept.retainedData (h : Kept name w) : w.RetainedData := by
  intro volume _ _ i hi
  obtain ⟨pv, hpv, -⟩ := h i hi
  exact ⟨pv, hpv⟩

/-- What concerns only the `AppVolume` and the reconciles does not matter. -/
theorem Kept.congr (h : Kept name w) (hp : w'.persistentVolumes = w.persistentVolumes)
    (hl : w'.lastBound = w.lastBound) (hc : w'.claim = w.claim) : Kept name w' := by
  unfold Kept
  rw [hp, hl, hc]
  exact h

/-- A claim that holds a persistent volume may be written, as long as it goes on holding it. -/
theorem Kept.of_claim (h : Kept name w) (hp : w'.persistentVolumes = w.persistentVolumes)
    (hl : w'.lastBound = w.lastBound)
    (hc : ∀ claim i pv, w.claim.current = some claim → w.persistentVolumes.lookup i = some pv →
      Holds name claim i pv → pv.reclaimPolicy = .retain ∨
        ∃ claim', w'.claim.current = some claim' ∧ Holds name claim' i pv) :
    Kept name w' := by
  intro i hi
  rw [hl] at hi
  obtain ⟨pv, hpv, hkept⟩ := h i hi
  refine ⟨pv, hp ▸ hpv, ?_⟩
  rcases hkept with hretain | ⟨claim, hclaim, hholds⟩
  · exact .inl hretain
  · exact hc claim i pv hclaim hpv hholds

theorem Kept.finish (h : Kept name w) (k : ℕ) : Kept name (w.finish k) := h.congr rfl rfl rfl

theorem Kept.decide (h : Kept name w) (k : ℕ) (decision : VolumeDecision)
    (claimRef : Option String) : Kept name (w.decide k decision claimRef) := h.congr rfl rfl rfl

/-- **A claim whose persistent volume stays may be deleted.** -/
theorem Kept.deleteClaim (h : Kept name w) (hr : w.BoundRetained) : Kept name w.deleteClaim := by
  unfold VolumeCluster.deleteClaim
  split
  · exact h
  next claim hclaim =>
  refine h.of_claim rfl rfl fun q i pv hq hpv hholds => .inl ?_
  exact hr q hq i hholds.volumeName pv hpv

theorem Kept.create (h : Kept name w) (hnone : w.claim.current = none) (metadata : ClaimMetadata)
    (spec : ClaimSpec) (status : ClaimStatus) :
    Kept name { w with claim := w.claim.create metadata spec status } := by
  refine h.of_claim rfl rfl fun q i pv hq _ _ => ?_
  exact nomatch hnone.symm.trans hq

theorem Kept.reconcileDeletedVolume (h : Kept name w) (k : ℕ) {seen : Option PersistentVolumeClaim}
    (hr : (∃ claim ∈ seen, OwnedBy name claim) → w.BoundRetained) :
    Kept name (w.reconcileDeletedVolume name k seen) := by
  unfold VolumeCluster.reconcileDeletedVolume
  split
  · exact h.decide k _ _
  next claim =>
  split
  · exact h.decide k _ _
  · next hown => exact (h.deleteClaim (hr ⟨claim, rfl, not_not.mp hown⟩)).finish k

theorem Kept.applyPersistentVolumeClaim (h : Kept name w) (k : ℕ) (volume : AppVolume)
    (seen : Option PersistentVolumeClaim) :
    Kept name (w.applyPersistentVolumeClaim name k volume seen) := by
  unfold VolumeCluster.applyPersistentVolumeClaim
  split
  · split
    · exact h.finish k
    · next hnone =>
      rw [Option.not_isSome_iff_eq_none] at hnone
      exact (h.create hnone _ _ _).decide k _ _
  split
  · exact h.decide k _ _
  split
  · exact h.decide k _ _
  split
  · exact h.finish k
  next claim hclaim =>
  refine h.of_claim rfl rfl fun q i pv hq _ hholds => .inr ?_
  cases hclaim.symm.trans hq
  obtain ⟨q', hq', huid, hmetadata, -, hstatus, -⟩ :=
    Slot.current_apply hclaim claim.metadata (claimSpec volume)
  exact ⟨q', hq', huid.trans hholds.uid, hstatus ▸ hholds.volumeName,
    (congrArg ClaimMetadata.owner hmetadata).trans hholds.owned,
    (congrArg ClaimMetadata.terminating hmetadata).trans hholds.alive⟩

theorem Kept.bindClaim (h : Kept name w) (reclaim : String → ReclaimPolicy) (capacity : ℤ) :
    Kept name (w.bindClaim name reclaim capacity) := by
  unfold VolumeCluster.bindClaim
  split
  · exact h
  next claim hclaim =>
  split
  · exact h
  next hfree =>
  rw [not_or, not_not, Bool.not_eq_true] at hfree
  obtain ⟨q, hq, huid, hmetadata, -, -, hstatus⟩ := Slot.current_setStatus hclaim
    ⟨.bound, some capacity, some w.persistentVolumes.nextId⟩
  intro i hi
  dsimp only at hi ⊢
  split at hi
  · next hown =>
    cases hi
    refine ⟨_, lookup_insert_self, .inr ⟨q, hq, huid, by rw [hstatus], ?_, ?_⟩⟩
    · exact (congrArg ClaimMetadata.owner hmetadata).trans hown
    · exact (congrArg ClaimMetadata.terminating hmetadata).trans hfree.2
  · obtain ⟨pv, hpv, hkept⟩ := h i hi
    refine ⟨pv, lookup_insert_of_lookup hpv, hkept.imp_right ?_⟩
    -- the claim was not bound, so it held nothing
    rintro ⟨c, hc, hholds⟩
    cases hclaim.symm.trans hc
    exact nomatch hfree.1.symm.trans hholds.volumeName

theorem Kept.reportClaim (h : Kept name w) (phase : ClaimPhase) (capacity : Option ℤ) :
    Kept name (w.reportClaim phase capacity) := by
  unfold VolumeCluster.reportClaim
  split
  · exact h
  next claim hclaim =>
  refine h.of_claim rfl rfl fun q i pv hq _ hholds => .inr ?_
  cases hclaim.symm.trans hq
  obtain ⟨q', hq', huid, hmetadata, -, -, hstatus⟩ := Slot.current_setStatus hclaim
    ⟨phase, capacity, claim.status.volumeName⟩
  exact ⟨q', hq', huid.trans hholds.uid, by rw [hstatus]; exact hholds.volumeName,
    (congrArg ClaimMetadata.owner hmetadata).trans hholds.owned,
    (congrArg ClaimMetadata.terminating hmetadata).trans hholds.alive⟩

theorem Kept.removeClaim (h : Kept name w) : Kept name w.removeClaim := by
  unfold VolumeCluster.removeClaim
  split
  · exact h
  next claim hclaim =>
  split
  · next hterminating =>
    refine h.of_claim rfl rfl fun q i pv hq _ hholds => ?_
    cases hclaim.symm.trans hq
    exact nomatch hterminating.symm.trans hholds.alive
  · exact h

/-- The cluster removes no persistent volume that is kept. -/
theorem Kept.reclaimVolume (h : Kept name w) (j : ℕ) : Kept name (w.reclaimVolume j) := by
  intro i hi
  obtain ⟨pv, hpv, hkept⟩ := h i hi
  refine ⟨pv, lookup_delete_eq_some.mpr ⟨hpv, ?_⟩, hkept⟩
  rintro ⟨-, hdelete, hgone⟩
  rcases hkept with hretain | ⟨claim, hclaim, hholds⟩
  · exact nomatch hretain.symm.trans hdelete
  · exact hgone claim hclaim hholds.uid

theorem Kept.deleteForeignClaim (h : Kept name w) : Kept name (w.deleteForeignClaim name) := by
  unfold VolumeCluster.deleteForeignClaim
  split
  · exact h
  next claim hclaim =>
  split
  · exact h
  · next hforeign =>
    simp only [VolumeCluster.deleteClaim, hclaim]
    refine h.of_claim rfl rfl fun q i pv hq _ hholds => ?_
    cases hclaim.symm.trans hq
    exact absurd hholds.owned hforeign

/-- **A careful step keeps the data.** -/
theorem Kept.step (h : Kept name w) (reclaim : String → ReclaimPolicy) (a : VolumeAction)
    (hc : Careful name w a) : Kept name (w.step name reclaim a) := by
  cases a with
  | applyVolume =>
    dsimp only [VolumeCluster.step, VolumeCluster.applyVolume]
    split <;> split <;> exact h.congr rfl rfl rfl
  | deleteAppVolume =>
    dsimp only [VolumeCluster.step, VolumeCluster.deleteAppVolume]
    split <;> exact h.congr rfl rfl rfl
  | startReconcile =>
    dsimp only [VolumeCluster.step, VolumeCluster.startReconcile]
    split
    · exact h
    · split <;> exact h.congr rfl rfl rfl
  | reconcileClaim k version =>
    dsimp only [VolumeCluster.step, VolumeCluster.reconcileClaim]
    split
    · next volume hr =>
      split
      · next hdeleted =>
        refine h.reconcileDeletedVolume k fun hown => hc (k, version) rfl ?_
        exact ⟨_, hr, rfl, hdeleted, hown⟩
      · exact h.applyPersistentVolumeClaim k volume _
    · exact h
  | updateVolumeStatus =>
    dsimp only [VolumeCluster.step, VolumeCluster.updateVolumeStatus]
    split
    · split <;> exact h.congr rfl rfl rfl
    · exact h
  | bindClaim capacity => exact h.bindClaim reclaim capacity
  | reportClaim phase capacity => exact h.reportClaim phase capacity
  | removeClaim => exact h.removeClaim
  | reclaimVolume i => exact h.reclaimVolume i
  | createForeignClaim owner spec =>
    dsimp only [VolumeCluster.step, VolumeCluster.createForeignClaim]
    split
    · exact h
    · next hfree =>
      rw [not_or, Option.not_isSome_iff_eq_none] at hfree
      exact h.create hfree.1 _ _ _
  | deleteForeignClaim => exact h.deleteForeignClaim

/-- **Retained means retained** in every run in which the operator deletes claims only when their
persistent volumes stay. -/
theorem retainedData_of_careful (name : String) (reclaim : String → ReclaimPolicy)
    (acts : List VolumeAction)
    (hg : Guarded (step name reclaim) (Careful name) initial acts) :
    (run (step name reclaim) initial acts).RetainedData := by
  have h : Kept name (run (step name reclaim) initial acts) :=
    guarded_run_induction (fun _ hi => nomatch hi)
      (fun _ a h hc => h.step reclaim a hc) hg
  exact h.retainedData

end Invariant

/-! ### Two runs -/

/-- A volume of ten GiB. -/
def someVolume (desiredState : VolumeDesiredState) : VolumeIntent :=
  ⟨"local-path", 10, preserve, desiredState⟩

/-- A volume is made and bound. Then it is wanted no more: the claim is deleted, and when it is
gone, the cluster reclaims the persistent volume, and the operator reports. -/
def detachRun : List VolumeAction :=
  [.applyVolume 1 (someVolume .ready), .startReconcile 0, .reconcileClaim 1 none,
    .bindClaim (10 * 2 ^ 30), .startReconcile 0, .reconcileClaim 2 (some 0), .updateVolumeStatus 2,
    .applyVolume 2 (someVolume .deleted), .startReconcile 0, .reconcileClaim 3 (some 0),
    .removeClaim, .reclaimVolume 1, .startReconcile 0, .reconcileClaim 4 none,
    .updateVolumeStatus 4]

theorem retainedData_detachRun :
    Guarded (step "vol-one" fun _ => .retain) (Careful "vol-one") initial detachRun ∧
      (run (step "vol-one" fun _ => .retain) initial detachRun).RetainedData :=
  ⟨by decide +kernel, retainedData_of_careful "vol-one" (fun _ => .retain) detachRun
    (by decide +kernel)⟩

/-- **A volume is reported as retained, and its data is gone.** -/
theorem not_retainedData_detachRun :
    ¬ (run (step "vol-one" fun _ => .delete) initial detachRun).RetainedData := by
  intro h
  have hgone : ∃ volume ∈ (run (step "vol-one" fun _ => .delete) initial
      detachRun).volume.current, volume.status.state = some .retained ∧
      ∃ i ∈ (run (step "vol-one" fun _ => .delete) initial detachRun).lastBound,
        (run (step "vol-one" fun _ => .delete) initial
          detachRun).persistentVolumes.lookup i = none := by
    decide +kernel
  obtain ⟨volume, hvolume, hstate, i, hi, hnone⟩ := hgone
  obtain ⟨pv, hpv⟩ := h volume hvolume hstate i hi
  exact nomatch hnone.symm.trans hpv

end VolumeCluster

end Molejo.Runtime
