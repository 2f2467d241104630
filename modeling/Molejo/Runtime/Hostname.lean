import Mathlib.Data.Prod.Lex
import Mathlib.Data.String.Basic
import Molejo.Runtime.AppDeployment
import Molejo.Store.System

/-!
# Who gets a hostname

Several `AppDeployment`s may ask for the same public hostname. Nobody decides between them: each
reconcile goes through the list of all of them, starting from its own, keeps the better claim
(`ensureHostnameAvailable`), and publishes only if its own is the one left. A claim that is already
served is better than one that is not; then the older one is better, and names and uids decide
between claims of the same age.

These comparisons are those of one linear order, the order of `standing`, in which no two claims are
equal. So every reconcile is left with the least claim of all, in whichever order the list comes,
and exactly one of them finds that it is its own (`oneWinner`).
-/

namespace Molejo.Runtime

/-! ### Claims -/

/-- An `AppDeployment`, with what claims are compared by. -/
structure Claimant where
  namespaceName : String
  name : String
  uid : String
  creationTimestamp : ℤ
  spec : AppDeploymentSpec

/-- An `HTTPRoute`: the uid of its controller, and its hostnames. -/
structure HostRoute where
  namespaceName : String
  name : String
  controller : Option String
  hostnames : List String

variable (routes : List HostRoute) (apps : List Claimant)

/-- `appDeploymentPublicHostname`. -/
def appDeploymentPublicHostname (a : Claimant) : String :=
  ((publicEndpoint a.spec .http).map publicEndpointHostname).getD ""

/-- `hasPublicHostnameRoute`. -/
def hasPublicHostnameRoute (a : Claimant) : Bool :=
  (routes.find? fun r => r.namespaceName = a.namespaceName ∧ r.name = a.name).any fun r =>
    r.controller = some a.uid ∧ r.hostnames = [appDeploymentPublicHostname a]

/-- The name of an object with its namespace. -/
def Claimant.key (a : Claimant) : String := a.namespaceName ++ "/" ++ a.name

/-- `hostnameClaimPrecedes`. -/
def hostnameClaimPrecedes (left right : Claimant) : Prop :=
  if left.creationTimestamp ≠ right.creationTimestamp then
    left.creationTimestamp < right.creationTimestamp
  else if left.key ≠ right.key then left.key < right.key
  else left.uid < right.uid
deriving Decidable

/-- The loop of `ensureHostnameAvailable` looks at the candidate. -/
def Rivals (app candidate : Claimant) : Prop :=
  ¬ (appDeploymentPublicHostname candidate = "" ∨
    appDeploymentPublicHostname candidate ≠ appDeploymentPublicHostname app ∨
    candidate.uid = app.uid)
deriving Decidable

/-- The body of the loop: the winner so far, and whether it has a route. -/
def compareClaim (app : Claimant) (winner : Claimant × Bool) (candidate : Claimant) :
    Claimant × Bool :=
  if Rivals app candidate ∧ ((hasPublicHostnameRoute routes candidate = true ∧ winner.2 = false) ∨
      (hasPublicHostnameRoute routes candidate = winner.2 ∧
        hostnameClaimPrecedes candidate winner.1)) then
    (candidate, hasPublicHostnameRoute routes candidate)
  else winner

/-- The claim that the loop of `ensureHostnameAvailable` is left with. -/
def hostnameWinner (app : Claimant) : Claimant :=
  (apps.foldl (compareClaim routes app) (app, hasPublicHostnameRoute routes app)).1

/-- The errors that a reconcile can meet. -/
inductive Failure
  /-- `errHostnameConflict`. -/
  | hostnameConflict
  /-- `errOwnershipConflict`. -/
  | ownershipConflict
  /-- What `isPersistentReconcileError` is about. -/
  | persistent
  | transient
deriving DecidableEq

/-- `ensureHostnameAvailable`. -/
def ensureHostnameAvailable (app : Claimant) : Except Failure Unit :=
  Transaction.require ((hostnameWinner routes apps app).uid = app.uid) .hostnameConflict

/-! ### The order of claims -/

/-- What a claim is worth: less is better. -/
def standing (a : Claimant) : Bool ×ₗ ℤ ×ₗ String ×ₗ String :=
  toLex (!hasPublicHostnameRoute routes a, toLex (a.creationTimestamp, toLex (a.key, a.uid)))

variable {routes apps} {a b app : Claimant}

/-- The candidate is compared as in the order of `standing`. -/
theorem standing_lt_iff : standing routes a < standing routes b ↔
    (hasPublicHostnameRoute routes a = true ∧ hasPublicHostnameRoute routes b = false) ∨
      (hasPublicHostnameRoute routes a = hasPublicHostnameRoute routes b ∧
        hostnameClaimPrecedes a b) := by
  have hprecedes : hostnameClaimPrecedes a b ↔
      toLex (a.creationTimestamp, toLex (a.key, a.uid)) <
        toLex (b.creationTimestamp, toLex (b.key, b.uid)) := by
    simp only [hostnameClaimPrecedes, Prod.Lex.toLex_lt_toLex]
    split_ifs with ht hk
    · exact ⟨.inl, fun h => h.resolve_right fun h => ht h.1⟩
    · have ht' := not_not.mp ht
      exact ⟨fun h => .inr ⟨ht', .inl h⟩, fun h =>
        ((h.resolve_left ht'.not_lt).2).resolve_right fun h => hk h.1⟩
    · have ht' := not_not.mp ht
      have hk' := not_not.mp hk
      exact ⟨fun h => .inr ⟨ht', .inr ⟨hk', h⟩⟩, fun h =>
        (((h.resolve_left ht'.not_lt).2).resolve_left hk'.not_lt).2⟩
  rw [standing, standing, Prod.Lex.toLex_lt_toLex, ← hprecedes]
  cases hasPublicHostnameRoute routes a <;> cases hasPublicHostnameRoute routes b <;> simp

theorem uid_eq_of_standing (h : standing routes a = standing routes b) : a.uid = b.uid :=
  congrArg (fun x => (ofLex (ofLex (ofLex x).2).2).2) h

/-- A claim is the least of a list. -/
def Best (routes : List HostRoute) (claims : List Claimant) (a : Claimant) : Prop :=
  a ∈ claims ∧ ∀ b ∈ claims, standing routes a ≤ standing routes b

/-- **The loop is left with the best claim** of those it has looked at. -/
theorem best_foldl (winner : Claimant) :
    Best routes (winner :: apps.filter (Rivals app ·)) (apps.foldl (compareClaim routes app)
      (winner, hasPublicHostnameRoute routes winner)).1 := by
  -- along the list: the flag is always that of the winner
  induction apps generalizing winner with
  | nil => exact ⟨List.mem_cons_self, by simp⟩
  | cons c cs ih =>
    rw [List.foldl_cons, compareClaim]
    by_cases hc : Rivals app c
    · simp only [hc, true_and, List.filter_cons, decide_true, if_true]
      split_ifs with hlt
      · obtain ⟨hmem, hle⟩ := ih c
        have hcw := standing_lt_iff.mpr hlt
        refine ⟨List.mem_cons_of_mem _ hmem, List.forall_mem_cons.mpr ⟨?_, hle⟩⟩
        exact (hle c List.mem_cons_self).trans hcw.le
      · obtain ⟨hmem, hle⟩ := ih winner
        have hwc := not_lt.mp fun h => hlt (standing_lt_iff.mp h)
        obtain ⟨hw, hrest⟩ := List.forall_mem_cons.mp hle
        refine ⟨?_, List.forall_mem_cons.mpr ⟨hw, List.forall_mem_cons.mpr ⟨hw.trans hwc, hrest⟩⟩⟩
        exact List.mem_cons.mpr ((List.mem_cons.mp hmem).imp_right (List.mem_cons_of_mem _))
    · simpa [hc] using ih winner

/-- The loop of a claim's reconcile looks at all claims for the same hostname. -/
theorem mem_rivals_iff (hn : (apps.map Claimant.uid).Nodup) (ha : a ∈ apps)
    (hne : appDeploymentPublicHostname a ≠ "") :
    b ∈ a :: apps.filter (Rivals a ·) ↔
      b ∈ apps ∧ appDeploymentPublicHostname b = appDeploymentPublicHostname a := by
  have huid (hb : b ∈ apps) (h : b.uid = a.uid) : b = a := List.inj_on_of_nodup_map hn hb ha h
  simp only [List.mem_cons, List.mem_filter, Rivals]
  grind

theorem publicEndpointHostname_ne (endpoint : AppEndpoint) :
    publicEndpointHostname endpoint ≠ "" := by
  rw [publicEndpointHostname]
  split_ifs with h
  · exact h
  · exact fun h => by simpa using congrArg String.length h

/-- **One hostname has one winner**: the same whatever the order of the list, and one that already
has a route if any of the claimants does. -/
theorem oneWinner (routes : List HostRoute) (apps : List Claimant)
    (hn : (apps.map Claimant.uid).Nodup) (hostname : String)
    (hd : ∃ a ∈ apps, ∃ e ∈ publicEndpoint a.spec .http, publicEndpointHostname e = hostname) :
    ∃ w ∈ apps, appDeploymentPublicHostname w = hostname ∧
      (∀ list, list.Perm apps → ∀ a ∈ apps, appDeploymentPublicHostname a = hostname →
        (ensureHostnameAvailable routes list a = .ok () ↔ a = w)) ∧
      ((∃ a ∈ apps, appDeploymentPublicHostname a = hostname ∧
        hasPublicHostnameRoute routes a = true) → hasPublicHostnameRoute routes w = true) := by
  obtain ⟨a₀, ha₀, e, he, hostname_eq⟩ := hd
  have hn₀ : appDeploymentPublicHostname a₀ = hostname := by
    rw [appDeploymentPublicHostname, Option.mem_def.mp he]
    exact hostname_eq
  have hne : hostname ≠ "" := hostname_eq ▸ publicEndpointHostname_ne e
  -- what a reconcile of one of the claimants is left with
  have hbest {list : List Claimant} (hp : list.Perm apps) {a : Claimant} (ha : a ∈ apps)
      (hh : appDeploymentPublicHostname a = hostname) :
      Best routes (apps.filter (appDeploymentPublicHostname · = hostname))
        (hostnameWinner routes list a) := by
    have hmem {b : Claimant} := mem_rivals_iff (b := b) ((hp.map _).nodup_iff.mpr hn)
      (hp.mem_iff.mpr ha) (hh.symm ▸ hne)
    obtain ⟨hw, hle⟩ : Best routes (a :: list.filter (Rivals a ·)) (hostnameWinner routes list a) :=
      best_foldl a
    simp only [hmem, hp.mem_iff, hh] at hw hle
    exact ⟨by simpa using hw, fun b hb => hle b (by simpa using hb)⟩
  obtain ⟨hw, hle⟩ := hbest (List.Perm.refl _) ha₀ hn₀
  have hwa := (List.mem_filter.mp hw).1
  refine ⟨_, hwa, by simpa using (List.mem_filter.mp hw).2, ?_, ?_⟩
  · intro list hp a ha hh
    obtain ⟨hw', hle'⟩ := hbest hp ha hh
    have huid := uid_eq_of_standing (le_antisymm (hle' _ hw) (hle _ hw'))
    rw [ensureHostnameAvailable, Transaction.require_eq_ok, huid]
    constructor
    · exact fun h => (List.inj_on_of_nodup_map hn hwa ha h).symm
    · exact fun h => congrArg Claimant.uid h.symm
  · rintro ⟨a, ha, hh, hr⟩
    have hlt := not_lt.mpr (hle a (by simpa using ⟨ha, hh⟩))
    by_contra hno
    exact hlt (standing_lt_iff.mpr (.inl ⟨hr, Bool.eq_false_of_not_eq_true hno⟩))

/-- Two claims for one hostname, the second one older. -/
def twoClaims : List Claimant :=
  [("late", 2), ("early", 1)].map fun x => ⟨"ws-one", x.1, x.1, x.2, {
    workload := .stateless
    image := ""
    replicas := none
    ports := []
    port := 80
    resources := (Store.smallConfig []).resources
    probes := (Store.smallConfig []).probes
    publicEndpoints := []
    exposed := true
    slug := "shop"
    runtimeVariables := []
    configMapRef := ""
    secretRef := "" }⟩

theorem oneWinner_twoClaims : ∃ w ∈ twoClaims, ∀ a ∈ twoClaims,
    ensureHostnameAvailable [] twoClaims a = .ok () ↔ a = w := by
  have hhost : ∀ a ∈ twoClaims, appDeploymentPublicHostname a = "shop.molejo.dev" := by
    decide +kernel
  obtain ⟨w, hw, -, h, -⟩ := oneWinner [] twoClaims (by decide) "shop.molejo.dev"
    ⟨_, List.mem_cons_self, _, rfl, hhost _ List.mem_cons_self⟩
  exact ⟨w, hw, fun a ha => h twoClaims (.refl _) a ha (hhost a ha)⟩

end Molejo.Runtime
