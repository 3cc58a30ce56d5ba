import Mathlib.Data.List.Basic
import Mathlib.Data.List.Induction

/-! Runs of a deterministic machine that takes an input and gives an answer at
each step. Everything undetermined (clock readings, fresh names, the order of
the parties) arrives in the inputs. -/
namespace Machine

variable {σ ι ω : Type}

section Runs

variable (step : σ → ι → ω × σ)

/-- The state after `inputs`, taken in order. -/
def run : σ → List ι → σ
  | s, [] => s
  | s, input :: rest => run (step s input).2 rest

@[simp] theorem run_nil (s : σ) : run step s [] = s := rfl

@[simp] theorem run_cons (s : σ) (input : ι) (rest : List ι) :
    run step s (input :: rest) = run step (step s input).2 rest := rfl

theorem run_append (s : σ) (first second : List ι) :
    run step s (first ++ second) = run step (run step s first) second := by
  induction first generalizing s with
  | nil => rfl
  | cons input rest ih => exact ih _

/-- Every step of the run from `s` satisfies `Allowed` where it is taken. -/
def Along (Allowed : σ → ι → Prop) : σ → List ι → Prop
  | _, [] => True
  | s, input :: rest => Allowed s input ∧ Along Allowed (step s input).2 rest

instance instDecidableAlong (Allowed : σ → ι → Prop) [∀ s i, Decidable (Allowed s i)] (s : σ) (inputs : List ι) :
    Decidable (Along step Allowed s inputs) :=
  match inputs with
  | [] => .isTrue trivial
  | input :: rest =>
    have := instDecidableAlong Allowed (step s input).2 rest
    inferInstanceAs (Decidable (_ ∧ _))

theorem along_append (Allowed : σ → ι → Prop) (s : σ) (first second : List ι) :
    Along step Allowed s (first ++ second) ↔
      Along step Allowed s first ∧ Along step Allowed (run step s first) second := by
  induction first generalizing s with
  | nil => simp [Along]
  | cons input rest ih => simp [Along, ih, and_assoc]

theorem along_true (s : σ) (inputs : List ι) : Along step (fun _ _ => True) s inputs := by
  induction inputs generalizing s with
  | nil => trivial
  | cons input rest ih => exact ⟨trivial, ih _⟩

theorem Along.imp {Allowed Weaker : σ → ι → Prop} (himp : ∀ s i, Allowed s i → Weaker s i)
    {s : σ} {inputs : List ι} (h : Along step Allowed s inputs) :
    Along step Weaker s inputs := by
  induction inputs generalizing s with
  | nil => trivial
  | cons input rest ih => exact ⟨himp _ _ h.1, ih h.2⟩

def answers : σ → List ι → List ω
  | _, [] => []
  | s, input :: rest => (step s input).1 :: answers (step s input).2 rest

theorem answers_append (s : σ) (first second : List ι) :
    answers step s (first ++ second) =
      answers step s first ++ answers step (run step s first) second := by
  induction first generalizing s with
  | nil => rfl
  | cons input rest ih => exact congrArg (_ :: ·) (ih _)

theorem mem_answers {s : σ} {inputs : List ι} {answer : ω} :
    answer ∈ answers step s inputs ↔ ∃ first input rest, inputs = first ++ input :: rest ∧
      (step (run step s first) input).1 = answer := by
  constructor
  · intro h
    induction inputs generalizing s with
    | nil => cases h
    | cons input rest ih =>
      rcases List.mem_cons.mp h with rfl | hrest
      · exact ⟨[], input, rest, rfl, rfl⟩
      · obtain ⟨first, later, others, rfl, hanswer⟩ := ih hrest
        exact ⟨input :: first, later, others, rfl, hanswer⟩
  · rintro ⟨first, input, rest, rfl, rfl⟩
    rw [answers_append]
    exact List.mem_append_right _ List.mem_cons_self

/-- The induction rule for facts about a state, the inputs so far and the answers to
them. -/
theorem history_induction {P : List ι → List ω → σ → Prop} {start : σ} (hstart : P [] [] start)
    (hstep : ∀ inputs given s input, P inputs given s →
      P (inputs ++ [input]) (given ++ [(step s input).1]) (step s input).2)
    (inputs : List ι) : P inputs (answers step start inputs) (run step start inputs) := by
  induction inputs using List.reverseRecOn with
  | nil => exact hstart
  | append_singleton inputs input ih =>
    rw [answers_append, run_append]
    exact hstep _ _ _ input ih

variable {step}

/-- A relation that every allowed step keeps holds across every allowed run. -/
theorem run_rel {Allowed : σ → ι → Prop} {R : σ → σ → Prop} (hrefl : ∀ s, R s s)
    (htrans : ∀ a b c, R a b → R b c → R a c)
    (hstep : ∀ s input, Allowed s input → R s (step s input).2) {s : σ} {inputs : List ι}
    (h : Along step Allowed s inputs) : R s (run step s inputs) := by
  induction inputs generalizing s with
  | nil => exact hrefl s
  | cons input rest ih => exact htrans _ _ _ (hstep s input h.1) (ih h.2)

/-- What every allowed step preserves, every allowed run preserves. -/
theorem run_preserves {Allowed : σ → ι → Prop} {P : σ → Prop}
    (hstep : ∀ s input, Allowed s input → P s → P (step s input).2) {s : σ}
    {inputs : List ι} (h : Along step Allowed s inputs) (hs : P s) :
    P (run step s inputs) := by
  induction inputs generalizing s with
  | nil => exact hs
  | cons input rest ih => exact ih h.2 (hstep s input h.1 hs)

end Runs

/-- The states some run from `start` ends in. -/
def Reachable (step : σ → ι → ω × σ) (start s : σ) : Prop := ∃ inputs, run step start inputs = s

theorem Reachable.step {step : σ → ι → ω × σ} {start s : σ} (h : Reachable step start s)
    (input : ι) :
    Reachable step start (step s input).2 := by
  obtain ⟨inputs, rfl⟩ := h
  exact ⟨inputs ++ [input], by rw [run_append]; rfl⟩

theorem Reachable.run {step : σ → ι → ω × σ} {start s : σ} (h : Reachable step start s)
    (inputs : List ι) :
    Reachable step start (Machine.run step s inputs) := by
  obtain ⟨first, rfl⟩ := h
  exact ⟨first ++ inputs, run_append step start first inputs⟩

/-- The induction rule for invariants. -/
theorem Reachable.invariant {step : σ → ι → ω × σ} {start s : σ} {P : σ → Prop} (hstart : P start)
    (hstep : ∀ s input, P s → P (step s input).2) (h : Reachable step start s) : P s := by
  obtain ⟨inputs, rfl⟩ := h
  exact run_preserves (fun s input _ => hstep s input) (along_true step start inputs) hstart

section Effects

variable {ι σ ε : Type} {step : σ → ι → List ε × σ}

/-- What is set off only on the way out of a region that nothing re-enters, is set off at most
once. -/
theorem countP_effects_le_one {p : ε → Bool} (Before : σ → Prop)
    (hstep : ∀ s input,
      (step s input).1.countP p = 0 ∧ (Before (step s input).2 → Before s) ∨
        (step s input).1.countP p = 1 ∧ Before s ∧ ¬ Before (step s input).2)
    (s : σ) (inputs : List ι) :
    (answers step s inputs).flatten.countP p ≤ 1 ∧
      (¬ Before s → (answers step s inputs).flatten.countP p = 0) := by
  induction inputs generalizing s with
  | nil => exact ⟨Nat.zero_le 1, fun _ => rfl⟩
  | cons input rest ih =>
    obtain ⟨hle, hafter⟩ := ih (step s input).2
    simp only [answers, List.flatten_cons, List.countP_append]
    rcases hstep s input with ⟨hzero, hback⟩ | ⟨hone, hbefore, hout⟩
    · rw [hzero, Nat.zero_add]
      exact ⟨hle, fun hnot => hafter fun hbefore => hnot (hback hbefore)⟩
    · rw [hone, hafter hout]
      exact ⟨Nat.le_refl 1, fun hnot => absurd hbefore hnot⟩

end Effects

end Machine
