import Molejo.Delivery.Build
import Molejo.Lib.Lease
import Molejo.Lib.Transition

/-!
# The inbox of deliveries from GitHub

What GitHub delivers is first written down and only then handled. A delivery that comes
twice is kept once. A worker claims a delivery for the time of a lease, handles it, and
completes it or reports that it has failed; a delivery that has failed for a passing
reason goes back to the inbox, up to ten times. What `RunOnce` does between the claim and
the report is in other tables, and which report it makes depends on it; here a worker may
make either of them, at any time and more than once.

The limit is checked in two places. The query for a delivery to claim asks for fewer than
ten attempts, and a worker that reports a failure looks whether its own attempt was the
tenth. Nobody looks when an attempt is not reported at all. If the worker of the tenth
attempt crashes, the delivery stays `Running` under a lease that has run out, and if it
shuts down in an orderly way, the delivery goes back to `Pending`; in both cases the
query passes it over for ever.

`KeepsInbox` excludes these two steps, and nothing else has to be excluded
(`inboxProgress_of_keepsInbox`).
-/

namespace Molejo.Delivery

open Transaction Table Transition

/-! ### Rows -/

/-- The column `event_type` of `github_deliveries`. -/
inductive EventType
  | ping
  | push
  | release
  | installation
  | installationRepositories
deriving DecidableEq

/-- The column `status` of `github_deliveries`. -/
inductive DeliveryStatus
  | pending
  | running
  | succeeded
  | failed
  | ignored
deriving DecidableEq

/-- What GitHub delivers. -/
structure DeliveryContent where
  deliveryId : String
  eventType : EventType
  action : String
  installationExternalId : ℕ
  repositoryId : ℕ
  sourceBranch : String
  commitSha : String
  tagName : String
  repositoryIds : List ℕ
  payloadHash : Digest
deriving DecidableEq

/-- The checks of `github_deliveries`. -/
def DeliveryContent.Valid (c : DeliveryContent) : Prop :=
  (1 ≤ c.deliveryId.length ∧ c.deliveryId.length ≤ 128) ∧
    (c.eventType = .push ∨ c.eventType = .release → 0 < c.installationExternalId) ∧
    (c.commitSha = "" ∨ CommitShaValid c.commitSha)
deriving Decidable

/-- A row of `github_deliveries`. -/
structure ReceivedDelivery extends DeliveryContent where
  status : DeliveryStatus
  attempts : ℕ
  workerId : Option String
  fencingToken : ℕ
  leaseUntil : Option Time
  errorCode : String
  errorMessage : String
  processedAt : Option Time
deriving DecidableEq

/-- `Succeeded`, `Ignored` or `Failed`. -/
def ReceivedDelivery.Terminal (d : ReceivedDelivery) : Prop :=
  d.status = .succeeded ∨ d.status = .ignored ∨ d.status = .failed

/-- `domain.GitHubDelivery` as a worker holds it: the key of a row and its columns when it was
claimed. -/
abbrev ClaimedDelivery := ℕ × ReceivedDelivery

variable {deliveries deliveries' : Table ReceivedDelivery} {op : ClaimedDelivery}

/-! ### Transactions -/

/-- The row of a delivery that has just come. -/
def DeliveryContent.received (c : DeliveryContent) : ReceivedDelivery :=
  { c with
    status := .pending
    attempts := 0
    workerId := none
    fencingToken := 0
    leaseUntil := none
    errorCode := ""
    errorMessage := ""
    processedAt := none }

/-- `AcceptGitHubDelivery`: a delivery that is there has to be the same. -/
def acceptGitHubDelivery (deliveries : Table ReceivedDelivery) (c : DeliveryContent) :
    Except Err (Table ReceivedDelivery) := do
  require c.Valid .database
  match deliveries.first fun _ d => d.deliveryId = c.deliveryId with
  | none => pure (deliveries.insert c.received)
  | some (_, stored) =>
    require (stored.payloadHash = c.payloadHash) .conflict
    pure deliveries

/-- The lease of a running delivery has run out. -/
def ReceivedDelivery.Expired (now : Time) (d : ReceivedDelivery) : Prop :=
  ∃ t ∈ d.leaseUntil, t < now
deriving Decidable

/-- The condition of the query of `ClaimNextGitHubDelivery`. -/
def InboxCandidate (now : Time) (d : ReceivedDelivery) : Prop :=
  d.attempts < 10 ∧ (d.status = .pending ∨ d.status = .running ∧ d.Expired now)
deriving Decidable

/-- The row of a delivery that was claimed. -/
def ReceivedDelivery.claimed (now lease : Time) (worker : String) (d : ReceivedDelivery) :
    ReceivedDelivery :=
  { d with
    status := .running
    attempts := d.attempts + 1
    workerId := some worker
    fencingToken := d.fencingToken + 1
    leaseUntil := some (now + lease)
    errorCode := ""
    errorMessage := "" }

/-- `ClaimNextGitHubDelivery`: of the candidates the first that `locked` does not name – which
others have locked is up to them. -/
def claimNextGitHubDelivery (now lease : Time) (worker : String) (locked : List ℕ)
    (deliveries : Table ReceivedDelivery) :
    Except Err (Option (Table ReceivedDelivery × ClaimedDelivery)) := do
  require (Store.isBlank worker = false ∧ 0 < lease) .invalidArgument
  match deliveries.first fun i d => i ∉ locked ∧ InboxCandidate now d with
  | none => pure none
  | some (i, d) =>
    pure (some (deliveries.modify (fun j _ => j = i) (·.claimed now lease worker),
      (i, d.claimed now lease worker)))

/-- The guard of the updates that end an attempt. The lease is not compared. -/
def DeliveryHeld (op : ClaimedDelivery) (i : ℕ) (d : ReceivedDelivery) : Prop :=
  i = op.1 ∧ d.status = .running ∧ (d.workerId ≠ none ∧ d.workerId = op.2.workerId) ∧
    d.fencingToken = op.2.fencingToken
deriving Decidable

/-- The update that ends an attempt. -/
def endAttempt (deliveries : Table ReceivedDelivery) (op : ClaimedDelivery)
    (row : ReceivedDelivery → ReceivedDelivery) : Except Err (Table ReceivedDelivery) := do
  require (deliveries.Any (DeliveryHeld op)) .conflict
  pure (deliveries.modify (DeliveryHeld op) row)

/-- The row of a delivery that was completed. -/
def ReceivedDelivery.completed (now : Time) (ignored : Bool) (d : ReceivedDelivery) :
    ReceivedDelivery :=
  { d with
    status := if ignored then .ignored else .succeeded
    workerId := none
    leaseUntil := none
    processedAt := some now }

/-- `CompleteGitHubDelivery`. -/
def completeGitHubDelivery (now : Time) (deliveries : Table ReceivedDelivery)
    (op : ClaimedDelivery) (ignored : Bool) : Except Err (Table ReceivedDelivery) :=
  endAttempt deliveries op (·.completed now ignored)

/-- The row of a delivery whose attempt has failed, for good or not. -/
def ReceivedDelivery.gaveUp (now : Time) (code message : String) (final : Bool)
    (d : ReceivedDelivery) : ReceivedDelivery :=
  { d with
    status := if final then .failed else .pending
    workerId := none
    leaseUntil := none
    errorCode := code
    errorMessage := message
    processedAt := if final then some now else none }

/-- `FailGitHubDelivery`. Whether the attempt was the last is read off the copy. -/
def failGitHubDelivery (now : Time) (deliveries : Table ReceivedDelivery) (op : ClaimedDelivery)
    (code message : String) (retryable : Bool) : Except Err (Table ReceivedDelivery) :=
  endAttempt deliveries op (·.gaveUp now code message (!retryable || 10 ≤ op.2.attempts))

/-- How a worker ends an attempt. -/
inductive Finish
  | complete (ignored : Bool)
  | fail (code message : String) (retryable : Bool)

/-- The call it makes. -/
def Finish.call (now : Time) (deliveries : Table ReceivedDelivery) (op : ClaimedDelivery) :
    Finish → Except Err (Table ReceivedDelivery)
  | .complete ignored => completeGitHubDelivery now deliveries op ignored
  | .fail code message retryable => failGitHubDelivery now deliveries op code message retryable

/-- The delivery is running under that worker. -/
def HandledBy (worker : String) (d : ReceivedDelivery) : Prop :=
  d.status = .running ∧ d.workerId = some worker
deriving Decidable

/-- `ReleaseGitHubDeliveryClaims`. -/
def releaseGitHubDeliveryClaims (deliveries : Table ReceivedDelivery) (worker : String) :
    Table ReceivedDelivery :=
  deliveries.modify (fun _ d => HandledBy worker d)
    fun d => { d with status := .pending, workerId := none, leaseUntil := none }

/-! ### States and actions -/

/-- The inbox and its workers. -/
structure Inbox where
  now : Time
  deliveries : Table ReceivedDelivery
  /-- Every delivery handed to a worker, as it was then. -/
  held : Table ClaimedDelivery

/-- One step. A worker that has crashed makes no more of them. -/
inductive InboxAction
  /-- Time passes. -/
  | tick (seconds : ℕ)
  | accept (content : DeliveryContent)
  | claim (worker : String) (lease : ℕ) (locked : List ℕ)
  /-- A worker ends an attempt, with the copy it holds. -/
  | finish (held : ℕ) (how : Finish)
  | release (worker : String)

/-- A worker ends an attempt. -/
def Inbox.finish (s : Inbox) (k : ℕ) (how : Finish) : Inbox :=
  match s.held.lookup k with
  | some op => { s with deliveries := commit s.deliveries (how.call s.now s.deliveries op) }
  | none => s

/-- One step. -/
def Inbox.step (s : Inbox) : InboxAction → Inbox
  | .tick seconds => { s with now := s.now + seconds }
  | .accept content =>
    { s with deliveries := commit s.deliveries (acceptGitHubDelivery s.deliveries content) }
  | .claim worker lease locked =>
    match claimNextGitHubDelivery s.now lease worker locked s.deliveries with
    | .ok (some (deliveries, op)) =>
      { s with deliveries := deliveries, held := s.held.insert op }
    | _ => s
  | .finish k how => s.finish k how
  | .release worker =>
    { s with deliveries := releaseGitHubDeliveryClaims s.deliveries worker }

/-- What a run starts from. -/
structure Inbox.Initial (s : Inbox) : Prop where
  deliveries : s.deliveries = .empty
  held : s.held = .empty

/-- **The inbox makes progress.** -/
structure InboxProgress (s : Inbox) : Prop where
  /-- A delivery that is not at its end is in the hands of a worker, or will be found by one. -/
  waits : ∀ i d, s.deliveries.lookup i = some d → ¬ d.Terminal →
    d.status = .running ∧ ¬ d.Expired s.now ∨ InboxCandidate s.now d
  /-- Calls of a worker that is not the last to have claimed the delivery change nothing. -/
  fenced : ∀ k l op later, k < l → s.held.lookup k = some op → s.held.lookup l = some later →
    later.1 = op.1 → ∀ how, s.finish k how = s

/-- The clock is advanced. -/
def InboxAction.ticks? : InboxAction → Option ℕ
  | .tick seconds => some seconds
  | _ => none

/-- The worker whose claims are released. -/
def InboxAction.releases? : InboxAction → Option String
  | .release worker => some worker
  | _ => none

/-- The step neither lets the lease of a tenth attempt run out nor gives up a tenth attempt. -/
def KeepsInbox (s : Inbox) (a : InboxAction) : Prop :=
  (∀ seconds ∈ a.ticks?, ¬ s.deliveries.Any fun _ d =>
    d.status = .running ∧ 10 ≤ d.attempts ∧ d.Expired (s.now + seconds)) ∧
  ∀ worker ∈ a.releases?, ¬ s.deliveries.Any fun _ d => HandledBy worker d ∧ 10 ≤ d.attempts
deriving Decidable

variable {s : Inbox} {a : InboxAction} {i : ℕ} {d d' : ReceivedDelivery}

/-! ### What a step does to a delivery -/

/-- The row after the attempt that its worker counts as the given one. -/
def Finish.row (now : Time) (attempts : ℕ) (d : ReceivedDelivery) : Finish → ReceivedDelivery
  | .complete ignored => d.completed now ignored
  | .fail code message retryable => d.gaveUp now code message (!retryable || 10 ≤ attempts)

theorem endAttempt_eq_ok {row : ReceivedDelivery → ReceivedDelivery} :
    endAttempt deliveries op row = .ok deliveries' ↔
      deliveries.Any (DeliveryHeld op) ∧ deliveries.modify (DeliveryHeld op) row = deliveries' := by
  simp only [endAttempt, ok_iff]

theorem Finish.call_eq_ok {now : Time} {how : Finish} :
    how.call now deliveries op = .ok deliveries' ↔
      deliveries.Any (DeliveryHeld op) ∧
        deliveries.modify (DeliveryHeld op) (fun d => how.row now op.2.attempts d) =
          deliveries' := by
  cases how with
  | complete | fail => exact endAttempt_eq_ok

theorem acceptGitHubDelivery_eq_ok {c : DeliveryContent}
    (h : acceptGitHubDelivery deliveries c = .ok deliveries') :
    deliveries' = deliveries ∨ deliveries' = deliveries.insert c.received := by
  simp only [acceptGitHubDelivery, ok_iff] at h
  obtain ⟨-, h⟩ := h
  split at h
  · cases h
    exact .inr rfl
  · simp only [ok_iff] at h
    exact .inl h.2.symm

theorem claimNextGitHubDelivery_eq_ok {now lease : Time} {worker : String} {locked : List ℕ}
    (h : claimNextGitHubDelivery now lease worker locked deliveries =
      .ok (some (deliveries', op))) :
    ∃ d, deliveries.lookup op.1 = some d ∧ InboxCandidate now d ∧
      op.2 = d.claimed now lease worker ∧
      deliveries' = deliveries.modify (fun j _ => j = op.1) (·.claimed now lease worker) := by
  simp only [claimNextGitHubDelivery, ok_iff] at h
  obtain ⟨-, h⟩ := h
  split at h
  · cases h
  · rename_i j d hf
    cases h
    exact ⟨d, lookup_of_first hf, (pos_of_first hf).2, rfl, rfl⟩

/-- What may happen to the delivery under `i` in one step. -/
inductive InboxStep (s : Inbox) (i : ℕ) (d : ReceivedDelivery) :
    InboxAction → ReceivedDelivery → Prop
  | same (a : InboxAction) : InboxStep s i d a d
  | claim (worker : String) (lease : ℕ) (locked : List ℕ) (hc : InboxCandidate s.now d) :
      InboxStep s i d (.claim worker lease locked) (d.claimed s.now lease worker)
  | finish (k : ℕ) (how : Finish) (op : ClaimedDelivery) (hk : s.held.lookup k = some op)
      (hh : DeliveryHeld op i d) :
      InboxStep s i d (.finish k how) (how.row s.now op.2.attempts d)
  | release (worker : String) (hr : HandledBy worker d) :
      InboxStep s i d (.release worker)
        { d with status := .pending, workerId := none, leaseUntil := none }

/-- The delivery under `i` is still there, and one of these happened to it. -/
def DeliveryLives (s : Inbox) (a : InboxAction) (i : ℕ) (d : ReceivedDelivery)
    (deliveries : Table ReceivedDelivery) : Prop :=
  ∃ d', deliveries.lookup i = some d' ∧ InboxStep s i d a d'

/-- **What a step does to the deliveries.** Those that are new wait for their first attempt. -/
theorem Inbox.step_deliveries (s : Inbox) (a : InboxAction) :
    Evolves (fun i d => InboxStep s i d a) (fun _ d => ∃ content : DeliveryContent,
      d = content.received) s.deliveries (s.step a).deliveries := by
  have hsame (i : ℕ) (d : ReceivedDelivery) : InboxStep s i d a d := .same a
  cases a with
  | tick => exact .refl hsame
  | accept content =>
    simp only [Inbox.step]
    cases hx : acceptGitHubDelivery s.deliveries content with
    | error => exact .refl hsame
    | ok =>
      rcases acceptGitHubDelivery_eq_ok hx with rfl | rfl
      · exact .refl hsame
      · exact Evolves.insert (.refl hsame) ⟨content, rfl⟩
  | claim worker lease locked =>
    simp only [Inbox.step]
    split
    · rename_i deliveries' op h
      obtain ⟨_, hc, hcand, -, rfl⟩ := claimNextGitHubDelivery_eq_ok h
      dsimp only
      refine .of_modify hsame fun i d hl hi => ?_
      subst hi
      cases hl.symm.trans hc
      exact .claim worker lease locked hcand
    · exact .refl hsame
  | finish k how =>
    simp only [Inbox.step, Inbox.finish]
    split
    · rename_i op hk
      cases hx : how.call s.now s.deliveries op with
      | error => exact .refl hsame
      | ok =>
        obtain ⟨-, rfl⟩ := Finish.call_eq_ok.mp hx
        simp only [commit_ok]
        exact .of_modify hsame fun i d _ hh => .finish k how op hk hh
    · exact .refl hsame
  | release worker =>
    simp only [Inbox.step]
    exact .of_modify hsame fun i d _ hr => .release worker hr

theorem Inbox.step_delivery (s : Inbox) (a : InboxAction) (hl : s.deliveries.lookup i = some d) :
    DeliveryLives s a i d (s.step a).deliveries :=
  (s.step_deliveries a).lives i d hl

/-! ### The invariant -/

/-- What is known of a delivery at the given time. -/
structure ReceivedSound (now : Time) (d : ReceivedDelivery) : Prop where
  /-- A delivery has been claimed as often as it was attempted. -/
  counted : d.attempts = d.fencingToken
  pending : d.status = .pending → d.attempts < 10
  running : d.status = .running → d.attempts < 10 ∨ ¬ d.Expired now

/-- The delivery of a copy, and its token. -/
def deliveryToken (op : ClaimedDelivery) : ℕ × ℕ := (op.1, op.2.fencingToken)

/-- What is known of the inbox. -/
structure InboxSound (s : Inbox) : Prop where
  delivery : ∀ i d, s.deliveries.lookup i = some d → ReceivedSound s.now d
  copy : ∀ k op, s.held.lookup k = some op → op.2.attempts = op.2.fencingToken
  ledger : Lease.Ledger deliveryToken
    (Lease.tokens ReceivedDelivery.fencingToken s.deliveries) s.held

theorem Inbox.Initial.inboxSound (h₀ : s.Initial) : InboxSound s where
  delivery _ _ := of_lookup_empty h₀.deliveries
  copy _ _ := of_lookup_empty h₀.held
  ledger := by
    rw [h₀.held]
    exact .empty

/-- Tokens never decrease. -/
theorem InboxStep.token_le (h : InboxStep s i d a d') : d.fencingToken ≤ d'.fencingToken := by
  cases h with
  | same | release => exact le_rfl
  | claim => exact Nat.le_succ _
  | finish _ how => cases how <;> exact le_rfl

section Step

variable (h : InboxSound s) (hg : KeepsInbox s a)

include h

theorem InboxSound.step_ledger (a : InboxAction) :
    Lease.Ledger deliveryToken
      (Lease.tokens ReceivedDelivery.fencingToken (s.step a).deliveries) (s.step a).held := by
  have hother (hheld : (s.step a).held = s.held) : Lease.Ledger deliveryToken
      (Lease.tokens ReceivedDelivery.fencingToken (s.step a).deliveries) (s.step a).held := by
    rw [hheld]
    refine h.ledger.of_kept fun i d hl => ?_
    obtain ⟨d', hd', hs⟩ := s.step_delivery a hl
    exact ⟨d', hd', hs.token_le⟩
  cases a with
  | claim worker lease locked =>
    cases hx : claimNextGitHubDelivery s.now lease worker locked s.deliveries with
    | error => exact hother (by simp only [Inbox.step, hx])
    | ok claimed =>
      cases claimed with
      | none => exact hother (by simp only [Inbox.step, hx])
      | some =>
        obtain ⟨d, hd, -, hop, hs⟩ := claimNextGitHubDelivery_eq_ok hx
        simp only [Inbox.step, hx, hs]
        exact h.ledger.claim (fun d => Nat.lt_succ_self d.fencingToken) hd
          (congrArg ReceivedDelivery.fencingToken hop)
  | finish =>
    refine hother ?_
    simp only [Inbox.step, Inbox.finish]
    split <;> rfl
  | _ => exact hother rfl

include hg

/-- A delivery that a step leaves alone is still sound: the clock does not pass the lease of a
tenth attempt. -/
theorem InboxSound.step_same (hl : s.deliveries.lookup i = some d) :
    ReceivedSound (s.step a).now d := by
  obtain ⟨hcount, hpend, hrun⟩ := h.delivery i d hl
  refine ⟨hcount, hpend, fun hs => ?_⟩
  by_cases hatt : d.attempts < 10
  · exact .inl hatt
  have hexp := (hrun hs).resolve_left hatt
  refine .inr ?_
  cases a with
  | tick seconds =>
    exact fun he => hg.1 seconds rfl
      (any_iff.mpr ⟨i, d, hl, hs, Nat.le_of_not_lt hatt, he⟩)
  | claim =>
    simp only [Inbox.step]
    split <;> exact hexp
  | finish =>
    simp only [Inbox.step, Inbox.finish]
    split <;> exact hexp
  | _ => exact hexp

theorem InboxSound.step_delivery (hl : (s.step a).deliveries.lookup i = some d') :
    ReceivedSound (s.step a).now d' := by
  rcases (s.step_deliveries a).cases hl with ⟨d, hl₀, hstep⟩ | ⟨_, rfl⟩
  · have hold := h.delivery i d hl₀
    cases hstep with
    | same => exact h.step_same hg hl₀
    | claim worker lease locked =>
      refine ⟨congrArg (· + 1) hold.counted, nofun, fun _ => .inr ?_⟩
      rintro ⟨_, ⟨⟩, ht⟩
      have hnow : (s.step (.claim worker lease locked)).now = s.now := by
        simp only [Inbox.step]
        split <;> rfl
      rw [hnow] at ht
      exact absurd ht (Nat.not_lt.mpr (Nat.le_add_right _ _))
    | finish k how op hk hh =>
      -- the worker counts the attempts as the row does
      have hatt : op.2.attempts = d.attempts := calc
        op.2.attempts = op.2.fencingToken := h.copy k op hk
        _ = d.fencingToken := hh.2.2.2.symm
        _ = d.attempts := hold.counted.symm
      cases how with
      | complete =>
        refine ⟨hold.counted, fun hs => ?_, fun hs => ?_⟩
        all_goals
          simp only [Finish.row, ReceivedDelivery.completed] at hs
          split_ifs at hs
      | fail =>
        refine ⟨hold.counted, fun hs => ?_, fun hs => ?_⟩
        all_goals
          simp only [Finish.row, ReceivedDelivery.gaveUp] at hs
          split_ifs at hs with hfinal
        simp only [Bool.or_eq_true, decide_eq_true_eq, not_or, not_le] at hfinal
        exact hatt ▸ hfinal.2
    | release worker hr =>
      refine ⟨hold.counted, fun _ => ?_, nofun⟩
      by_contra hatt
      exact hg.2 worker rfl (any_iff.mpr ⟨i, d, hl₀, hr, Nat.le_of_not_lt hatt⟩)
  · exact ⟨rfl, fun _ => Nat.zero_lt_succ _, nofun⟩

theorem InboxSound.step : InboxSound (s.step a) where
  delivery _ _ := h.step_delivery hg
  copy k op hl := by
    cases a with
    | claim worker lease locked =>
      simp only [Inbox.step] at hl
      split at hl
      · rename_i deliveries' q hx
        obtain ⟨d, hd, -, hop, -⟩ := claimNextGitHubDelivery_eq_ok hx
        rcases lookup_insert_eq_some.mp hl with ⟨-, rfl⟩ | hl
        · rw [hop]
          exact congrArg (· + 1) (h.delivery _ d hd).counted
        · exact h.copy k op hl
      · exact h.copy k op hl
    | finish =>
      simp only [Inbox.step, Inbox.finish] at hl
      split at hl <;> exact h.copy k op hl
    | _ => exact h.copy k op hl
  ledger := h.step_ledger a

end Step

/-! ### Progress -/

/-- A call with a copy that is not the last has no effect. -/
theorem InboxSound.finish_eq (h : InboxSound s) {k l : ℕ} {later : ClaimedDelivery} (hkl : k < l)
    (hk : s.held.lookup k = some op) (hl : s.held.lookup l = some later) (hj : later.1 = op.1)
    (how : Finish) : s.finish k how = s := by
  simp only [Inbox.finish, hk]
  cases hx : how.call s.now s.deliveries op with
  | error => rfl
  | ok =>
    obtain ⟨hany, -⟩ := Finish.call_eq_ok.mp hx
    obtain ⟨i, _, hd, hh⟩ := any_iff.mp hany
    obtain rfl : i = op.1 := hh.1
    exact absurd hh.2.2.2 (h.ledger.lt_token hkl hk hl hj.symm hd).ne'

theorem InboxSound.progress (h : InboxSound s) : InboxProgress s where
  waits i d hl ht := by
    have hd := h.delivery i d hl
    cases hs : d.status with
    | pending => exact .inr ⟨hd.pending hs, .inl hs⟩
    | running =>
      by_cases he : d.Expired s.now
      · exact .inr ⟨(hd.running hs).resolve_right (not_not.mpr he), .inr ⟨hs, he⟩⟩
      · exact .inl ⟨rfl, he⟩
    | succeeded => exact absurd (.inl hs) ht
    | failed => exact absurd (.inr (.inr hs)) ht
    | ignored => exact absurd (.inr (.inl hs)) ht
  fenced _ _ _ _ hkl hk hl hj how := h.finish_eq hkl hk hl hj how

/-- **The inbox makes progress** in every run in which no tenth attempt is lost. -/
theorem inboxProgress_of_keepsInbox (s₀ : Inbox) (acts : List InboxAction) (h₀ : s₀.Initial)
    (hg : Guarded Inbox.step KeepsInbox s₀ acts) :
    InboxProgress (run Inbox.step s₀ acts) :=
  (guarded_run_induction (I := InboxSound) h₀.inboxSound (fun _ _ h hg => h.step hg)
    hg).progress

/-- An inbox in which nothing has come. -/
def emptyInbox : Inbox := ⟨100, .empty, .empty⟩

theorem emptyInbox_initial : emptyInbox.Initial := ⟨rfl, rfl⟩

/-- A push. -/
def pushContent : DeliveryContent where
  deliveryId := "delivery-one"
  eventType := .push
  action := ""
  installationExternalId := 100
  repositoryId := 55
  sourceBranch := "main"
  commitSha := "0123456789abcdef0123456789abcdef01234567"
  tagName := ""
  repositoryIds := []
  payloadHash := sha256 "push"

/-- The first worker crashes; the second has the delivery when the first comes back. -/
def lateWorkerRun : List InboxAction :=
  [.accept pushContent, .accept pushContent, .claim "worker-one" 60 [], .tick 61,
    .claim "worker-two" 60 [], .finish 1 (.complete false)]

theorem inboxProgress_lateWorkerRun :
    (emptyInbox.Initial ∧ Guarded Inbox.step KeepsInbox emptyInbox lateWorkerRun) ∧
    ((run Inbox.step emptyInbox lateWorkerRun).deliveries.Any fun _ d =>
      d.status = .running ∧ d.workerId = some "worker-two") ∧
    InboxProgress (run Inbox.step emptyInbox lateWorkerRun) :=
  ⟨⟨emptyInbox_initial, by decide +kernel⟩, by decide +kernel,
    inboxProgress_of_keepsInbox emptyInbox lateWorkerRun emptyInbox_initial (by decide +kernel)⟩

/-- Ten workers in a row crash on the same delivery. -/
def crashedInboxRun : List InboxAction :=
  .accept pushContent :: (List.replicate 10 [.claim "worker-one" 60 [], .tick 61]).flatten

/-- The delivery is running under a lease that has run out, and no worker will find it. -/
theorem not_inboxProgress_crashedInboxRun :
    emptyInbox.Initial ∧
    ¬ InboxProgress (run Inbox.step emptyInbox crashedInboxRun) := by
  refine ⟨emptyInbox_initial, fun h => ?_⟩
  have hlost : (run Inbox.step emptyInbox crashedInboxRun).deliveries.Any fun _ d =>
      d.status = .running ∧ d.Expired (run Inbox.step emptyInbox crashedInboxRun).now ∧
        d.attempts = 10 := by decide +kernel
  obtain ⟨i, d, hl, hs, hexp, hatt⟩ := Table.any_iff.mp hlost
  rcases h.waits i d hl (by simp [ReceivedDelivery.Terminal, hs]) with ⟨-, hne⟩ | ⟨hlt, -⟩
  · exact hne hexp
  · exact absurd hatt hlt.ne

end Molejo.Delivery
