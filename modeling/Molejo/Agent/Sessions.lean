import Molejo.Agent.Lifecycle
import Molejo.Store.System

/-!
# The sessions of Agents, as the store sees them

`Molejo.Store` knows a cluster by its status and its session, and opens any session that a check
of the credential *could* let through. Here the checks are there, and the store simulates the
registry: from clusters as the registry holds them (`Mirrors`), the sessions, heartbeats and
revocations that a run of it lets through lead the store to the clusters that it ends with
(`mirrors_run`). So what `Molejo.Store` proves of every run is true of the sessions that are
opened with a credential.
-/

namespace Molejo.Agent

open Transaction Table Transition

variable {policy : PublicationPolicy} {now : Time} {g g' : Registry} {db : Db} {s : State}
  {t : Store.State} {a : Action}

/-! ### Views of the registry -/

/-- An installation without its identity and its enrollment. -/
def AgentInstallation.view (row : AgentInstallation) : Installation where
  publicId := row.publicId
  status := row.status
  controlSessionId := row.controlSessionId
  controlSessionSequence := row.controlSessionSequence
  revokedAt := row.revokedAt
  revocationReason := row.revocationReason

/-- The store shows what the registry holds. -/
def Mirrors (g : Registry) (db : Db) : Prop :=
  db.installations = g.installations.view AgentInstallation.view

/-- The store finds the installation that the registry finds. -/
theorem Mirrors.first (h : Mirrors g db) (publicId : String) :
    (db.installations.first fun _ r => r.publicId = publicId) =
      (g.installations.first fun _ row => row.publicId = publicId).map fun x =>
        (x.1, x.2.view) := by
  rw [h]
  exact first_view fun _ _ => Iff.rfl

/-! ### What the registry lets through -/

/-- **A session that the registry opens is opened in the store.** -/
theorem Mirrors.activateAgent (h : Mirrors g db) {hello : Hello} {first : Bool}
    (hok : activateAgent now g hello = .ok (g', first)) :
    ∃ db', Store.activateAgent db hello.publicId hello.sessionId = .ok db' ∧ Mirrors g' db' := by
  simp only [Agent.activateAgent, ok_iff, Prod.mk.injEq] at hok
  obtain ⟨hvalid, ⟨_, _⟩, hf, ⟨hs, -⟩, -, -, -, -, rfl, -⟩ := hok
  obtain ⟨-, -, -, -, -, -, hsession⟩ := hvalid
  simp only [Store.activateAgent, ok_iff, h.first, hf, Option.map_some]
  refine ⟨_, ⟨hsession, _, rfl, hs, rfl⟩, ?_⟩
  dsimp only [Mirrors]
  apply modify_view h
  · exact fun _ _ => Iff.rfl
  · exact fun _ => rfl

/-- **A heartbeat that the registry counts is counted in the store.** -/
theorem Mirrors.touchAgent (h : Mirrors g db) {publicId : String} {fingerprint : Bytes}
    {sessionId : String} {sequence : ℕ}
    (hok : touchAgent now g publicId fingerprint sessionId sequence = .ok g') :
    ∃ db', Store.touchAgent db publicId sessionId sequence = .ok db' ∧ Mirrors g' db' := by
  simp only [Agent.touchAgent, ok_iff] at hok
  obtain ⟨hvalid, ⟨_, _⟩, hf, hs, -, -, hsession, rfl⟩ := hok
  simp only [Store.touchAgent, ok_iff, h.first, hf, Option.map_some]
  refine ⟨_, ⟨hvalid, _, rfl, ⟨hs, hsession⟩, rfl⟩, ?_⟩
  dsimp only [Mirrors]
  apply modify_view h
  · exact fun _ _ => Iff.rfl
  · exact fun _ => rfl

/-- **A cluster that the registry revokes is revoked in the store.** -/
theorem Mirrors.revokeCluster (h : Mirrors g db) {publicId reason : String}
    (hok : revokeCluster now g publicId reason = .ok g') :
    ∃ db', Store.revokeCluster now db publicId reason = .ok db' ∧ Mirrors g' db' := by
  simp only [Agent.revokeCluster, ok_iff] at hok
  obtain ⟨hvalid, ⟨_, row⟩, hf, hok⟩ := hok
  simp only [Store.revokeCluster, ok_iff, h.first, hf, Option.map_some]
  by_cases hs : row.status = .revoked
  · rw [if_pos hs] at hok
    cases hok
    exact ⟨db, ⟨hvalid, _, rfl, if_pos hs⟩, h⟩
  · rw [if_neg hs] at hok
    cases hok
    refine ⟨_, ⟨hvalid, _, rfl, if_neg hs⟩, ?_⟩
    dsimp only [Mirrors, Store.revoke]
    apply modify_view h
    · exact fun _ _ => Iff.rfl
    · exact fun _ => rfl

/-! ### Runs -/

/-- What a call of the registry is in the store. -/
def Action.calls : Action → List Store.Action
  | .tick seconds => [.tick seconds]
  | .activateAgent hello => [.activateAgent hello.publicId hello.sessionId]
  | .touchAgent publicId _ sessionId sequence => [.touchAgent publicId sessionId sequence]
  | .revokeCluster publicId reason => [.revokeCluster publicId reason]
  | _ => []

/-- Some of these calls take the store to the time and the clusters of the registry. -/
def Follows (policy : PublicationPolicy) (t : Store.State) (calls : List Store.Action)
    (s : State) : Prop :=
  ∃ acts, acts.Sublist calls ∧ (run (Store.step policy) t acts).now = s.now ∧
    Mirrors s.registry (run (Store.step policy) t acts).db

/-- No cluster is added to the registry. -/
def AddsNone (s : State) (a : Action) : Prop :=
  (step s a).registry.installations.nextId = s.registry.installations.nextId
deriving Decidable

section Step

variable (h : Mirrors s.registry t.db) (hnow : t.now = s.now)

include h hnow

/-- A call that is one of the store, too. -/
theorem follows_of_call {b : Store.Action} {x : Except Err Db} (hcalls : a.calls = [b])
    (hb : Store.step policy t b = t.transact x) (hseconds : a.seconds = 0)
    (hok : ∀ g', attempt s.now s.registry a = .ok g' → ∃ db', x = .ok db' ∧ Mirrors g' db') :
    Follows policy t a.calls (step s a) := by
  unfold Follows step
  rw [hseconds, hcalls]
  rcases commit_cases s.registry (attempt s.now s.registry a) with ⟨_, -, hc⟩ | ⟨g', hg, hc⟩
  · rw [hc]
    exact ⟨[], List.nil_sublist _, hnow, h⟩
  · obtain ⟨db', rfl, hm⟩ := hok g' hg
    rw [hc]
    refine ⟨[b], .refl _, ?_, ?_⟩
    · exact (congrArg Store.State.now hb).trans hnow
    · exact (congrArg Store.State.db hb) ▸ hm

/-- **One call of the registry.** -/
theorem follows_step (policy) (ha : AddsNone s a) : Follows policy t a.calls (step s a) := by
  have he := step_effect s a
  cases a with
  | tick seconds => exact ⟨[.tick seconds], .refl _, congrArg (· + seconds) hnow, h⟩
  | activateAgent hello =>
    refine follows_of_call h hnow rfl rfl rfl fun g' hg => ?_
    obtain ⟨⟨_, _⟩, hok, rfl⟩ := map_eq_ok.mp hg
    exact h.activateAgent hok
  | touchAgent => exact follows_of_call h hnow rfl rfl rfl fun _ hok => h.touchAgent hok
  | revokeCluster =>
    refine follows_of_call h hnow rfl rfl rfl fun _ hok => ?_
    rw [hnow]
    exact h.revokeCluster hok
  | _ =>
    -- the store shows nothing of it
    refine ⟨[], .refl _, hnow, h.trans ?_⟩
    unfold AddsNone at ha
    generalize (step s _).registry = g' at he ha
    cases he <;> first
      | rfl
      | exact absurd ha (Nat.succ_ne_self _)
      | exact (view_modify_eq fun _ => by rfl).symm

end Step

/-- **The store simulates the registry.** -/
theorem mirrors_run (policy : PublicationPolicy) (s : State) (t : Store.State)
    (h : Mirrors s.registry t.db) (hnow : t.now = s.now) (acts : List Action)
    (hg : Guarded step AddsNone s acts) :
    Follows policy t (acts.flatMap Action.calls) (run step s acts) := by
  induction acts generalizing s t with
  | nil => exact ⟨[], .refl _, hnow, h⟩
  | cons a acts ih =>
    obtain ⟨before, hsub, hnow, hm⟩ := follows_step h hnow policy hg.1
    obtain ⟨after, hsub', hend⟩ := ih _ _ hm hnow hg.2
    refine ⟨before ++ after, hsub.append hsub', ?_⟩
    rwa [run_append]

theorem mirrors_run_renewalRun :
    Follows Store.smallPolicy
      { Store.smallStore with db := { Store.smallStore.db with
        installations := Table.empty.insert ⟨"cls-one", .pending, none, 0, none, none⟩ } }
      ((renewalRun.drop 1).flatMap Action.calls)
      (run step (step emptyState (.createAgentInstallation invitation)) (renewalRun.drop 1)) :=
  mirrors_run _ _ _ (by exact rfl) rfl _ (by decide +kernel)

end Molejo.Agent
