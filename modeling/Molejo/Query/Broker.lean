import Mathlib.Algebra.Order.BigOperators.Group.Finset
import Molejo.Lib.Transition

/-!
# Slots for runtime queries

A call of `RuntimeQueryBroker.Query` takes a slot of the broker, then a slot of the session of its
installation, and returns both when it ends. There are 32 slots of the broker and four of a session,
so it looks as if an installation could hold four slots of the broker at most. But a call that waits
for its session already holds a slot of the broker: the calls of one installation may hold them all
(`not_fairSlots_crowd`).

If no more than four calls for an installation are ever in progress, whether they wait or hold a slot
(`StartsShare`), then no installation holds more than four, and the slots suffice for eight
(`fairSlots`).

The Agent has four slots of its own for the requests of a session, and ends the whole channel when
a fifth request comes in. A call returns its slot at the broker when it has the answer, when its
time is over or when its caller is gone. The goroutine at the Agent returns its slot later, so that
another call may be admitted, and its request received, in between
(`not_neverExceeded_cancelled`). There is always a slot for a request that comes in while its call
and the calls of all running goroutines are still in progress (`neverExceeded`).
-/

namespace Molejo.Query

open Transition

/-- `maxRuntimeQueriesPerCluster`. -/
def maxRuntimeQueriesPerCluster : ℕ := 4

/-- `maxRuntimeQueriesGlobal`. -/
def maxRuntimeQueriesGlobal : ℕ := 32

/-- A call of `Query`, with the session that it found for its installation. -/
structure Call where
  id : ℕ
  installation : String
  session : ℕ
deriving DecidableEq

/-- The calls in progress. -/
structure Broker where
  /-- Those that wait for `b.global`. -/
  waiting : Finset Call
  /-- Those that hold a slot of it. -/
  global : Finset Call
  /-- Those of them that hold a slot of `session.active` too. -/
  active : Finset Call

/-- What happens to a call. -/
inductive BrokerAction
  | start (c : Call)
  | acquireGlobal (c : Call)
  | acquireSession (c : Call)
  /-- The call returns, from wherever it is. -/
  | finish (c : Call)

/-- The call that is made. -/
def BrokerAction.starting? : BrokerAction → Option Call
  | .start c => some c
  | .acquireGlobal _ | .acquireSession _ | .finish _ => none

namespace Broker

/-- No call is in progress. -/
def empty : Broker := ⟨∅, ∅, ∅⟩

variable (b : Broker)

/-- The slots of the broker that calls for the installation hold. -/
def held (installation : String) : Finset Call :=
  b.global.filter fun c => c.installation = installation

/-- The calls for the installation that are in progress. -/
def calls (installation : String) : Finset Call :=
  (b.waiting ∪ b.global).filter fun c => c.installation = installation

/-- The installations that have calls in progress. -/
def installations : Finset String := (b.waiting ∪ b.global).image Call.installation

/-- One step. A channel with room for `n` values is a semaphore: a send blocks while it is full. -/
def step : BrokerAction → Broker
  | .start c =>
    if c ∈ b.waiting ∪ b.global then b else { b with waiting := insert c b.waiting }
  | .acquireGlobal c =>
    if c ∈ b.waiting ∧ b.global.card < maxRuntimeQueriesGlobal then
      { b with waiting := b.waiting.erase c, global := insert c b.global }
    else b
  | .acquireSession c =>
    if c ∈ b.global ∧
        (b.active.filter fun d => d.session = c.session).card < maxRuntimeQueriesPerCluster then
      { b with active := insert c b.active }
    else b
  | .finish c => ⟨b.waiting.erase c, b.global.erase c, b.active.erase c⟩

/-- **Slots are shared fairly.** -/
structure Fair : Prop where
  share : ∀ installation, (b.held installation).card ≤ maxRuntimeQueriesPerCluster
  /-- Seven installations leave a slot of the broker for an eighth one. -/
  free : ∀ installation, b.held installation = ∅ → (b.installations.erase installation).card < 8 →
    b.global.card < maxRuntimeQueriesGlobal

/-- A call is made only while fewer than four calls for its installation are in progress. -/
def StartsShare (a : BrokerAction) : Prop :=
  ∀ c ∈ a.starting?, (b.calls c.installation).card < maxRuntimeQueriesPerCluster
deriving Decidable

variable {b : Broker}

/-- Calls that are in progress after a step were before, or are made in it. -/
theorem mem_calls_step {a : BrokerAction} {installation : String} {c : Call}
    (h : c ∈ (b.step a).calls installation) : c ∈ b.calls installation ∨ a.starting? = some c := by
  simp only [calls, Finset.mem_filter, Finset.mem_union] at h ⊢
  cases a with
  | start d =>
    simp only [step] at h
    split at h
    · exact .inl h
    · rw [Finset.mem_insert] at h
      rcases h with ⟨(rfl | h) | h, hc⟩
      · exact .inr rfl
      · exact .inl ⟨.inl h, hc⟩
      · exact .inl ⟨.inr h, hc⟩
  | acquireGlobal d =>
    simp only [step] at h
    split at h
    · next htaken =>
      rw [Finset.mem_insert] at h
      rcases h with ⟨h | rfl | h, hc⟩
      · exact .inl ⟨.inl (Finset.mem_of_mem_erase h), hc⟩
      · exact .inl ⟨.inl htaken.1, hc⟩
      · exact .inl ⟨.inr h, hc⟩
    · exact .inl h
  | acquireSession =>
    simp only [step] at h
    split at h
    · exact .inl h
    · exact .inl h
  | finish d =>
    exact .inl ⟨h.1.imp Finset.mem_of_mem_erase Finset.mem_of_mem_erase, h.2⟩

theorem card_calls_step {a : BrokerAction} (hg : b.StartsShare a) {installation : String}
    (h : (b.calls installation).card ≤ maxRuntimeQueriesPerCluster) :
    ((b.step a).calls installation).card ≤ maxRuntimeQueriesPerCluster := by
  by_cases hnew : ∃ c ∈ a.starting?, c.installation = installation
  · obtain ⟨c, hc, rfl⟩ := hnew
    have hsub : (b.step a).calls c.installation ⊆ insert c (b.calls c.installation) := by
      intro d hd
      rcases mem_calls_step hd with hold | hd
      · exact Finset.mem_insert_of_mem hold
      · rw [Option.some.inj (hd.symm.trans hc)]
        exact Finset.mem_insert_self _ _
    exact (Finset.card_le_card hsub).trans ((Finset.card_insert_le _ _).trans (hg c hc))
  · refine (Finset.card_le_card fun c hc => ?_).trans h
    rcases mem_calls_step hc with hold | hc'
    · exact hold
    · exact absurd ⟨c, hc', (Finset.mem_filter.mp hc).2⟩ hnew

/-- The slots of the broker are those that the installations hold. -/
theorem Fair.of_share
    (hcalls : ∀ installation, (b.calls installation).card ≤ maxRuntimeQueriesPerCluster) :
    b.Fair := by
  have h : ∀ installation, (b.held installation).card ≤ maxRuntimeQueriesPerCluster := fun i =>
    (Finset.card_le_card (Finset.filter_subset_filter _ Finset.subset_union_right)).trans (hcalls i)
  refine ⟨h, fun installation hnone hfew => ?_⟩
  have hmem : ∀ c ∈ b.global, c.installation ∈ b.installations.erase installation := fun c hc =>
    Finset.mem_erase.mpr ⟨Finset.filter_eq_empty_iff.mp hnone hc,
      Finset.mem_image_of_mem _ (Finset.mem_union_right _ hc)⟩
  have hle := Finset.card_le_mul_card_image_of_maps_to hmem 4 fun i _ => h i
  unfold maxRuntimeQueriesGlobal
  omega

end Broker

/-- **Fair slots.** If no more than four calls for an installation are in progress at a time, no
installation ever holds more than four slots, and fewer than eight leave one for another. -/
theorem fairSlots (acts : List BrokerAction)
    (hg : Guarded Broker.step Broker.StartsShare .empty acts) :
    (run Broker.step .empty acts).Fair :=
  .of_share fun installation => guarded_run_induction
    (I := fun b : Broker => (b.calls installation).card ≤ maxRuntimeQueriesPerCluster)
    (Nat.zero_le _) (fun _ _ h hg => Broker.card_calls_step hg h) hg

/-- So many calls for one installation begin and take a slot of the broker. -/
def crowd (n : ℕ) : List BrokerAction :=
  (List.range n).flatMap fun id => [.start ⟨id, "cls-one", 0⟩, .acquireGlobal ⟨id, "cls-one", 0⟩]

theorem fairSlots_crowd :
    Guarded Broker.step Broker.StartsShare .empty (crowd 4) ∧
      (run Broker.step .empty (crowd 4)).Fair :=
  have hg : Guarded Broker.step Broker.StartsShare .empty (crowd 4) := by decide +kernel
  ⟨hg, fairSlots _ hg⟩

/-- **One installation holds every slot**, and a call for another one waits. -/
theorem not_fairSlots_crowd :
    ((run Broker.step .empty (crowd 32)).held "cls-one").card = 32 ∧
      (run Broker.step .empty (crowd 32)).installations.card = 1 ∧
      ⟨32, "cls-two", 1⟩ ∈ (run Broker.step .empty (crowd 32 ++
        [.start ⟨32, "cls-two", 1⟩, .acquireGlobal ⟨32, "cls-two", 1⟩])).waiting := by
  decide +kernel

/-! ### The slots of the Agent -/

/-- `maxConcurrentRuntimeQueries`. -/
def maxConcurrentRuntimeQueries : ℕ := 4

/-- What the broker sends to the Agent. -/
inductive Message
  | request (id : ℕ)
  | cancel (id : ℕ)

/-- The request of a message. -/
def Message.request? : Message → Option ℕ
  | .request id => some id
  | .cancel _ => none

/-- One session, at both ends. -/
structure Channel where
  /-- The calls that hold a slot of `session.active`. -/
  active : Finset ℕ
  /-- The requests that have been sent. -/
  sent : Finset ℕ
  /-- The messages on their way to the Agent. -/
  outbound : List Message
  /-- The goroutines that hold a slot of the Agent. -/
  running : Finset ℕ
  /-- `runRuntimeQueryChannel` has returned “runtime query concurrency exceeded”. -/
  exceeded : Bool

/-- What happens on a session. -/
inductive ChannelAction
  | acquire (id : ℕ)
  | send (id : ℕ)
  /-- The time of the call is over, or its caller is gone. -/
  | cancel (id : ℕ)
  /-- The call returns, for whatever reason. -/
  | finish (id : ℕ)
  /-- The loop of the Agent takes the next message. -/
  | receive
  /-- The deferred function of a goroutine. -/
  | release (id : ℕ)
deriving DecidableEq

namespace Channel

/-- A channel that was just opened. -/
def empty : Channel := ⟨∅, ∅, [], ∅, false⟩

variable (s : Channel)

/-- One step. A goroutine may end at any time after a request, and so may a call. -/
def step : ChannelAction → Channel
  | .acquire id =>
    if id ∉ s.sent ∧ s.active.card < maxRuntimeQueriesPerCluster then
      { s with active := insert id s.active }
    else s
  | .send id =>
    if id ∈ s.active ∧ id ∉ s.sent then
      { s with sent := insert id s.sent, outbound := s.outbound ++ [.request id] }
    else s
  | .cancel id =>
    if id ∈ s.active ∩ s.sent then { s with outbound := s.outbound ++ [.cancel id] } else s
  | .finish id => { s with active := s.active.erase id }
  | .receive =>
    match s.outbound with
    | [] => s
    | .cancel _ :: rest => { s with outbound := rest }
    | .request id :: rest =>
      if s.running.card < maxConcurrentRuntimeQueries then
        { s with outbound := rest, running := insert id s.running }
      else { s with outbound := rest, exceeded := true }
  | .release id => { s with running := s.running.erase id }

/-- The requests that the Agent has not received. -/
def queued : List ℕ := s.outbound.filterMap Message.request?

/-- When the Agent receives a request, the call of that request and those of all running goroutines
are in progress. -/
def InStep (a : ChannelAction) : Prop :=
  a = .receive →
    ∀ id ∈ s.outbound.head?.bind Message.request?, insert id s.running ⊆ s.active
deriving Decidable

/-- Requests have one goroutine each. -/
structure Sound : Prop where
  slots : s.active.card ≤ maxRuntimeQueriesPerCluster
  running : s.running ⊆ s.sent
  queued : ∀ id ∈ s.queued, id ∈ s.sent ∧ id ∉ s.running
  nodup : s.queued.Nodup
  never : s.exceeded = false

variable {s}

theorem sound_empty : empty.Sound :=
  ⟨Nat.zero_le _, Finset.Subset.refl _, fun _ h => (List.not_mem_nil h).elim, List.nodup_nil, rfl⟩

theorem Sound.receive (h : s.Sound) (hg : s.InStep .receive) : (s.step .receive).Sound := by
  obtain ⟨active, sent, outbound, running, exceeded⟩ := s
  rcases outbound with _ | ⟨id | id, rest⟩
  · exact h
  · obtain ⟨hid, hrest⟩ := List.nodup_cons.mp h.nodup
    obtain ⟨hsent, hnew⟩ := h.queued id (List.mem_cons_self ..)
    have hfree : running.card < maxConcurrentRuntimeQueries := by
      have hle := (Finset.card_le_card (hg rfl id rfl)).trans h.slots
      rwa [Finset.card_insert_of_notMem hnew] at hle
    simp only [Channel.step, if_pos hfree]
    refine ⟨h.slots, Finset.insert_subset hsent h.running, fun k hk => ?_, hrest, h.never⟩
    obtain ⟨hks, hkr⟩ := h.queued k (List.mem_cons_of_mem _ hk)
    refine ⟨hks, fun hmem => ?_⟩
    rcases Finset.mem_insert.mp hmem with rfl | hmem
    · exact hid hk
    · exact hkr hmem
  · exact ⟨h.slots, h.running, h.queued, h.nodup, h.never⟩

theorem Sound.step {a : ChannelAction} (h : s.Sound) (hg : s.InStep a) : (s.step a).Sound := by
  cases a with
  | acquire id =>
    simp only [Channel.step]
    split
    · next hfree =>
      exact { h with slots := (Finset.card_insert_le _ _).trans hfree.2 }
    · exact h
  | send id =>
    simp only [Channel.step]
    split
    · next hnew =>
      refine ⟨h.slots, h.running.trans (Finset.subset_insert _ _), fun k hk => ?_, ?_, h.never⟩
      · rw [Channel.queued, List.filterMap_append] at hk
        rcases List.mem_append.mp hk with hk | hk
        · exact ⟨Finset.mem_insert_of_mem (h.queued k hk).1, (h.queued k hk).2⟩
        · obtain rfl : k = id := List.mem_singleton.mp hk
          exact ⟨Finset.mem_insert_self k _, fun hr => hnew.2 (h.running hr)⟩
      · rw [Channel.queued, List.filterMap_append]
        refine List.nodup_append.mpr ⟨h.nodup, List.nodup_singleton id, ?_⟩
        rintro k hk _ hid rfl
        obtain rfl : k = id := List.mem_singleton.mp hid
        exact hnew.2 (h.queued k hk).1
    · exact h
  | cancel id =>
    simp only [Channel.step]
    split
    · have hq : Channel.queued { s with outbound := s.outbound ++ [.cancel id] } = s.queued := by
        simp [Channel.queued, Message.request?]
      exact ⟨h.slots, h.running, hq ▸ h.queued, hq ▸ h.nodup, h.never⟩
    · exact h
  | finish id =>
    exact { h with slots := (Finset.card_le_card (Finset.erase_subset _ _)).trans h.slots }
  | receive => exact h.receive hg
  | release id =>
    exact { h with
      running := (Finset.erase_subset _ _).trans h.running
      queued := fun k hk =>
        ⟨(h.queued k hk).1, fun hr => (h.queued k hk).2 (Finset.mem_of_mem_erase hr)⟩ }

end Channel

/-- **The Agent has a slot for every request**, if it receives requests only while the calls of its
goroutines are in progress. -/
theorem neverExceeded (acts : List ChannelAction)
    (hg : Guarded Channel.step Channel.InStep .empty acts) :
    (run Channel.step .empty acts).exceeded = false :=
  (guarded_run_induction Channel.sound_empty (fun _ _ h hg => h.step hg) hg).never

/-- Four calls whose requests are received. -/
def fourCalls : List ChannelAction :=
  (List.range 4).flatMap fun id => [.acquire id, .send id, .receive]

theorem neverExceeded_fourCalls :
    Guarded Channel.step Channel.InStep .empty fourCalls ∧
      (run Channel.step .empty fourCalls).exceeded = false :=
  have hg : Guarded Channel.step Channel.InStep .empty fourCalls := by decide +kernel
  ⟨hg, neverExceeded _ hg⟩

/-- **The caller of one of them is gone**, and a fifth call is admitted. The Agent receives the
cancellation and the request before the goroutine has ended. -/
theorem not_neverExceeded_cancelled :
    (run Channel.step .empty
      (fourCalls ++ [.cancel 0, .finish 0, .acquire 4, .send 4, .receive, .receive])).exceeded =
        true := by
  decide +kernel

end Molejo.Query
