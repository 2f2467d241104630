import Mathlib.Data.List.Basic

/-!
# Sessions with numbered messages

One party reports to another over and over, and each of its reports replaces the one before. It
may lose its connection and open a new one while messages of the old one are still on their
way. Two numbers keep the reports in order. Opening a *session* makes every earlier one void;
within a session the messages are numbered, and a message is *accepted* only if its number is
above those accepted before it. What a message carries is *applied* later and separately, and
only if the message is still the last one that was accepted.

`Register` is all that the receiver keeps: the session and the last number. `Step` says what
moves it. The events of a run are kept in a log, the newest first, and `Explains.step` shows
that the register and the log go together, whatever the order in which the events come; so
(`Ordered`)

* a message is accepted only in the session opened last, with a number above all that were
  accepted in it;
* what is applied belongs to the message accepted last, in the session opened last;
* the messages that are applied come in the order of their sessions, and within a session in
  the order of their numbers.
-/

namespace Session

variable {σ : Type*}

/-- What happens to a session. -/
inductive Event (σ : Type*)
  | opened (x : σ)
  | touched (x : σ) (n : ℕ)
  | applied (x : σ) (n : ℕ)
  | closed
deriving DecidableEq

/-- What the receiver keeps. -/
structure Register (σ : Type*) where
  current : Option σ
  sequence : ℕ

/-- The moves of the register. Opening a session resets the number, and nothing with the number 0
is applied. -/
inductive Step (r : Register σ) : Event σ → Register σ → Prop
  | opened (x : σ) : Step r (.opened x) ⟨some x, 0⟩
  | touched (x : σ) (n : ℕ) (hx : r.current = some x) (hn : r.sequence < n) :
      Step r (.touched x n) ⟨some x, n⟩
  | applied (x : σ) (n : ℕ) (hx : r.current = some x) (hn : r.sequence = n) (hpos : 0 < n) :
      Step r (.applied x n) r
  | closed : Step r .closed ⟨none, 0⟩

/-! ### What a log says -/

/-- The session opened last. -/
def latest : List (Event σ) → Option σ
  | [] => none
  | .opened x :: _ => some x
  | .touched _ _ :: older | .applied _ _ :: older | .closed :: older => latest older

/-- The numbers accepted since a session was opened, the newest first. -/
def accepted : List (Event σ) → List ℕ
  | [] => []
  | .opened _ :: _ => []
  | .touched _ n :: older => n :: accepted older
  | .applied _ _ :: older | .closed :: older => accepted older

/-- How many sessions have been opened. -/
def openings : List (Event σ) → ℕ
  | [] => 0
  | .opened _ :: older => openings older + 1
  | .touched _ _ :: older | .applied _ _ :: older | .closed :: older => openings older

/-- For everything applied the number of its session and its own number, the newest first. -/
def stamps : List (Event σ) → List (ℕ × ℕ)
  | [] => []
  | .applied _ n :: older => (openings older, n) :: stamps older
  | .opened _ :: older | .touched _ _ :: older | .closed :: older => stamps older

/-- The first stamp is not after the second. -/
def NotAfter (t u : ℕ × ℕ) : Prop := t.1 < u.1 ∨ t.1 = u.1 ∧ t.2 ≤ u.2

/-- Messages are accepted and applied in order. -/
structure Ordered (log : List (Event σ)) : Prop where
  /-- A message is accepted in the session opened last, and its number is new and the greatest. -/
  touched : ∀ newer x n older, log = newer ++ .touched x n :: older →
    latest older = some x ∧ ∀ m ∈ accepted older, m < n
  /-- What is applied belongs to the message accepted last, in the session opened last. -/
  applied : ∀ newer x n older, log = newer ++ .applied x n :: older →
    latest older = some x ∧ (accepted older).head? = some n
  /-- What is applied later is not of an earlier session or message. -/
  inOrder : (stamps log).Pairwise fun later earlier => NotAfter earlier later

/-! ### The register and its log -/

/-- The register is what the log leads to. -/
structure Explains (log : List (Event σ)) (r : Register σ) : Prop where
  current : ∀ x, r.current = some x → latest log = some x
  sequence : ∀ x, r.current = some x → r.sequence = (accepted log).headD 0
  descending : (accepted log).Pairwise (· > ·)
  bounded : ∀ t ∈ stamps log, t.1 < openings log ∨ t.1 = openings log ∧ t.2 ∈ accepted log
  ordered : Ordered log

variable {log : List (Event σ)} {r r' : Register σ} {e : Event σ}

/-- A register that nobody has used. -/
theorem Explains.init (n : ℕ) : Explains ([] : List (Event σ)) ⟨none, n⟩ where
  current := nofun
  sequence := nofun
  descending := .nil
  bounded := nofun
  ordered :=
    { touched := fun newer x n older h => absurd h (by simp)
      applied := fun newer x n older h => absurd h (by simp)
      inOrder := .nil }

/-- One more event: what has to be said is about this event only. -/
theorem Ordered.cons (h : Ordered log) (ht : ∀ x n, e = .touched x n → latest log = some x ∧
      ∀ m ∈ accepted log, m < n)
    (ha : ∀ x n, e = .applied x n → latest log = some x ∧
      (accepted log).head? = some n ∧ ∀ t ∈ stamps log,
        NotAfter t (openings log, n)) : Ordered (e :: log) where
  touched newer x n older heq := by
    cases newer with
    | nil =>
      obtain ⟨rfl, rfl⟩ := List.cons.inj heq
      exact ht x n rfl
    | cons _ newer => exact h.touched newer x n older (List.cons.inj heq).2
  applied newer x n older heq := by
    cases newer with
    | nil =>
      obtain ⟨rfl, rfl⟩ := List.cons.inj heq
      exact ⟨(ha x n rfl).1, (ha x n rfl).2.1⟩
    | cons _ newer => exact h.applied newer x n older (List.cons.inj heq).2
  inOrder := by
    cases e with
    | applied x n => exact List.pairwise_cons.mpr ⟨(ha x n rfl).2.2, h.inOrder⟩
    | opened | touched | closed => exact h.inOrder

/-- Nothing accepted is above the last number accepted. -/
theorem Explains.le_sequence (h : Explains log r) {x : σ} (hx : r.current = some x) :
    ∀ m ∈ accepted log, m ≤ r.sequence := by
  have hsorted := h.descending
  rw [h.sequence x hx]
  intro m hm
  cases hl : accepted log with
  | nil =>
    rw [hl] at hm
    exact absurd hm List.not_mem_nil
  | cons =>
    rw [hl] at hm hsorted
    rw [List.headD_cons]
    rcases List.mem_cons.mp hm with rfl | hm
    · exact Nat.le_refl _
    · exact Nat.le_of_lt (List.rel_of_pairwise_cons hsorted hm)

/-- **One step of the register**, with its event. -/
theorem Explains.step (h : Explains log r) (hs : Step r e r') : Explains (e :: log) r' := by
  cases hs with
  | opened =>
    refine ⟨fun y hy => hy, fun _ _ => rfl, .nil, fun t ht => .inl ?_, h.ordered.cons nofun nofun⟩
    show t.1 < openings log + 1
    rcases h.bounded t ht with hlt | ⟨_, -⟩ <;> omega
  | touched x n hx hn =>
    have hnew : ∀ m ∈ accepted log, m < n := fun m hm =>
      Nat.lt_of_le_of_lt (h.le_sequence hx m hm) hn
    refine ⟨fun y hy => hy ▸ h.current x hx, fun _ _ => rfl,
      List.pairwise_cons.mpr ⟨hnew, h.descending⟩, fun t ht => ?_, h.ordered.cons ?_ nofun⟩
    · exact (h.bounded t ht).imp id fun ⟨heq, hmem⟩ => ⟨heq, List.mem_cons_of_mem n hmem⟩
    · rintro _ _ ⟨⟩
      exact ⟨h.current x hx, hnew⟩
  | applied x n hx hn =>
    have hhead : (accepted log).head? = some n := by
      have hseq := h.sequence x hx
      cases hl : accepted log with
      | nil =>
        rw [hl, List.headD_nil] at hseq
        omega
      | cons =>
        rw [hl, List.headD_cons] at hseq
        rw [List.head?_cons, ← hseq, hn]
    refine ⟨h.current, h.sequence, h.descending, fun t ht => ?_, h.ordered.cons nofun ?_⟩
    · rcases List.mem_cons.mp ht with rfl | ht
      · exact .inr ⟨rfl, List.mem_of_head? hhead⟩
      · exact h.bounded t ht
    · rintro _ _ ⟨⟩
      refine ⟨h.current x hx, hhead, fun t ht => ?_⟩
      exact (h.bounded t ht).imp id fun ⟨heq, hmem⟩ =>
        ⟨heq, Nat.le_trans (h.le_sequence hx _ hmem) (Nat.le_of_eq hn)⟩
  | closed =>
    exact ⟨nofun, nofun, h.descending, h.bounded, h.ordered.cons nofun nofun⟩

end Session
