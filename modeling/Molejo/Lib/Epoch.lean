import Mathlib.Data.Nat.Basic

/-!
# Secrets with an epoch

A check against a secret – a login against a password – is used long after it was made, by
which time the secret may have been replaced. It is not kept what the check was made
against. Instead every secret has an *epoch*, a number that grows whenever the secret is
replaced; what rests on a check carries the epoch at the time of the check, and is good for
as long as the epoch stays.

`Epoch.Stands` is the invariant: either the secret is still the one that was checked, or the
epoch has moved on. It is kept by every step that replaces a secret only together with its
epoch (`Epoch.Advances`), and what carries the present epoch rests on the present secret
(`Epoch.Stands.eq`).

Everything depends on the moment at which the epoch is read. If it is read after the check,
the invariant may fail from the start.
-/

namespace Epoch

variable {ι σ : Type*} {r r' : ι → Option (ℕ × σ)} {i : ι} {e : ℕ} {x y : σ}

/-- What was checked against the secret `x` of `i` in the epoch `e`: nothing has changed since, or
the epoch has moved on. -/
def Stands (r : ι → Option (ℕ × σ)) (i : ι) (e : ℕ) (x : σ) : Prop :=
  ∃ e' x', r i = some (e', x') ∧ (e' = e ∧ x' = x ∨ e < e')

/-- No secret is replaced without moving its epoch on. -/
def Advances (r r' : ι → Option (ℕ × σ)) : Prop :=
  ∀ i e x, r i = some (e, x) → Stands r' i e x

theorem stands_of_eq (h : r i = some (e, x)) : Stands r i e x := ⟨e, x, h, .inl ⟨rfl, rfl⟩⟩

theorem Advances.refl (r : ι → Option (ℕ × σ)) : Advances r r := fun _ _ _ => stands_of_eq

theorem Stands.advance (h : Stands r i e x) (ha : Advances r r') : Stands r' i e x := by
  obtain ⟨e₁, x₁, h₁, hcase⟩ := h
  obtain ⟨e₂, x₂, h₂, hcase'⟩ := ha i e₁ x₁ h₁
  refine ⟨e₂, x₂, h₂, ?_⟩
  rcases hcase with ⟨rfl, rfl⟩ | hlt
  · exact hcase'
  · rcases hcase' with ⟨rfl, -⟩ | hlt'
    · exact .inr hlt
    · exact .inr (Nat.lt_trans hlt hlt')

/-- **What carries the present epoch rests on the present secret.** -/
theorem Stands.eq (h : Stands r i e x) (hr : r i = some (e, y)) : y = x := by
  obtain ⟨_, _, h', ⟨-, rfl⟩ | hlt⟩ := h
  · rw [hr] at h'
    cases h'
    rfl
  · rw [hr] at h'
    cases h'
    exact absurd hlt (Nat.lt_irrefl _)

end Epoch
