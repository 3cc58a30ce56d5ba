import Mathlib.Data.Nat.Notation
import Outscan.Library.Run

/-! Stamps that tell of every change: along a run a stamp never goes back, and where it stands
still so does what it is the stamp of. -/
namespace Machine

variable {σ ι ω α : Type} (step : σ → ι → ω × σ) (view : σ → α) (stamp : α → ℕ)

/-- A step leaves the stamp alone only if it leaves the view alone. -/
def Stamped : Prop :=
  ∀ s input, stamp (view s) ≤ stamp (view (step s input).2) ∧
    (stamp (view (step s input).2) = stamp (view s) → view (step s input).2 = view s)

variable {step view stamp}

theorem Stamped.run (h : Stamped step view stamp) (s : σ) (inputs : List ι) :
    stamp (view s) ≤ stamp (view (Machine.run step s inputs)) ∧
      (stamp (view (Machine.run step s inputs)) = stamp (view s) →
        view (Machine.run step s inputs) = view s) := by
  refine run_rel (R := fun a b => stamp (view a) ≤ stamp (view b) ∧
    (stamp (view b) = stamp (view a) → view b = view a)) (fun _ => ⟨Nat.le_refl _, fun _ => rfl⟩) ?_
    (fun s input _ => h s input) (along_true step s inputs)
  rintro a b c ⟨hab, hfirst⟩ ⟨hbc, hsecond⟩
  refine ⟨Nat.le_trans hab hbc, fun hsame => ?_⟩
  have hmiddle : stamp (view b) = stamp (view a) := Nat.le_antisymm (hsame ▸ hbc) hab
  exact (hsecond (hsame.trans hmiddle.symm)).trans (hfirst hmiddle)

theorem Stamped.between (h : Stamped step view stamp) {s : σ} {front back : List ι}
    (hsame : stamp (view (Machine.run step s (front ++ back))) = stamp (view s)) :
    view (Machine.run step s front) = view s := by
  rw [run_append] at hsame
  obtain ⟨hfront, hkept⟩ := h.run s front
  obtain ⟨hback, -⟩ := h.run (Machine.run step s front) back
  exact hkept (Nat.le_antisymm (hsame ▸ hback) hfront)

end Machine
