import Outscan.Library.Run

/-! Keys that are held until a moment. A key is granted when nobody holds it, a
hold that has run out may be dropped at any time, and nothing else happens to a
hold. So the grants alone decide who holds what. -/
namespace Expiring

abbrev Holds (κ τ : Type) := κ → Option τ

variable {κ τ : Type}

section Grants

variable {σ ι ω : Type} (step : σ → ι → ω × σ) (entry : σ → ι → τ × Option (κ × τ))

def logged : σ → ι → (τ × Option (κ × τ)) × σ :=
  fun s input => (entry s input, (step s input).2)

theorem run_logged (s : σ) (inputs : List ι) :
    Machine.run (logged step entry) s inputs = Machine.run step s inputs := by
  induction inputs generalizing s with
  | nil => rfl
  | cons input rest ih => exact ih _

def grants (s : σ) (inputs : List ι) : List (τ × Option (κ × τ)) :=
  Machine.answers (logged step entry) s inputs

variable {step entry}

theorem mem_grants {s : σ} {inputs : List ι} {granted : τ × Option (κ × τ)} :
    granted ∈ grants step entry s inputs ↔ ∃ first input rest, inputs = first ++ input :: rest ∧
      entry (Machine.run step s first) input = granted := by
  simp only [grants, Machine.mem_answers, run_logged]
  rfl

end Grants

variable [LT τ]

def Held (holds : Holds κ τ) (key : κ) (now : τ) : Prop := ∃ expiry, holds key = some expiry ∧ now < expiry

/-- What a step at `now` may do, and the hold it grants. -/
structure Step (before after : Holds κ τ) (now : τ) (granted : Option (κ × τ)) : Prop where
  free : ∀ key expiry, granted = some (key, expiry) → ¬ Held before key now
  set : ∀ key expiry, granted = some (key, expiry) → after key = some expiry
  others : ∀ key, (∀ expiry, granted ≠ some (key, expiry)) →
    after key = before key ∨ after key = none ∧ ¬ Held before key now

theorem Step.idle (holds : Holds κ τ) (now : τ) : Step holds holds now none where
  free := by simp
  set := by simp
  others _ _ := .inl rfl

theorem Step.drop {before after : Holds κ τ} {now : τ}
    (h : ∀ key, after key = before key ∨ after key = none ∧ ¬ Held before key now) :
    Step before after now none where
  free := by simp
  set := by simp
  others key _ := h key

/-- The holds after a history of steps, each with its time and what it granted. -/
inductive History : Holds κ τ → List (τ × Option (κ × τ)) → Prop
  | start : History (fun _ => none) []
  | step {before after : Holds κ τ} {log : List (τ × Option (κ × τ))} {now : τ}
      {granted : Option (κ × τ)} (history : History before log)
      (step : Step before after now granted) : History after (log ++ [(now, granted)])

theorem History.granted {holds : Holds κ τ} {log : List (τ × Option (κ × τ))}
    (h : History holds log) {key : κ} {expiry : τ} (hheld : holds key = some expiry) :
    ∃ now, (now, some (key, expiry)) ∈ log := by
  induction h with
  | start => cases hheld
  | @step before after log now granted history step ih =>
    by_cases hkey : ∃ until', granted = some (key, until')
    · obtain ⟨until', rfl⟩ := hkey
      have hset := step.set key until' rfl
      rw [hheld, Option.some.injEq] at hset
      subst hset
      exact ⟨now, by simp⟩
    · have hsame : before key = some expiry := by
        rcases step.others key fun until' heq => hkey ⟨until', heq⟩ with hafter | ⟨hafter, -⟩
        · rw [← hafter, hheld]
        · rw [hheld] at hafter
          cases hafter
      obtain ⟨granting, hmem⟩ := ih hsame
      exact ⟨granting, List.mem_append_left _ hmem⟩

theorem History.stands {holds : Holds κ τ} {first rest : List (τ × Option (κ × τ))} {start : τ}
    {key : κ} {expiry : τ} (h : History holds (first ++ (start, some (key, expiry)) :: rest))
    (hbefore : ∀ entry ∈ rest, entry.1 < expiry) : holds key = some expiry := by
  generalize hlog : first ++ (start, some (key, expiry)) :: rest = log at h
  induction h generalizing rest with
  | start => simp at hlog
  | @step before after log now granted history step ih =>
    rcases List.eq_nil_or_concat rest with rfl | ⟨rest, last, rfl⟩
    · obtain ⟨-, hlast⟩ := List.append_inj' hlog rfl
      cases hlast
      exact step.set key expiry rfl
    · rw [List.concat_eq_append, ← List.cons_append, ← List.append_assoc] at hlog
      obtain ⟨hfirst, hlast⟩ := List.append_inj' hlog rfl
      cases hlast
      rw [List.concat_eq_append] at hbefore
      have hkept : before key = some expiry :=
        ih (fun entry hentry => hbefore entry (by simp [hentry])) hfirst
      have hheld : Held before key now := ⟨expiry, hkept, hbefore (now, granted) (by simp)⟩
      rcases step.others key fun until' heq => step.free key until' heq hheld with hafter | ⟨-, hfree⟩
      · rw [hafter, hkept]
      · exact absurd hheld hfree

/-- Once no step lies ahead, a key is held exactly while one of its grants lasts. -/
theorem History.held_iff {holds : Holds κ τ} {log : List (τ × Option (κ × τ))}
    (h : History holds log) {now : τ}
    (hclock : ∀ entry ∈ log, ∀ moment, now < moment → entry.1 < moment) {key : κ} :
    Held holds key now ↔ ∃ start expiry, (start, some (key, expiry)) ∈ log ∧ now < expiry := by
  constructor
  · rintro ⟨expiry, hheld, hnow⟩
    obtain ⟨start, hmem⟩ := h.granted hheld
    exact ⟨start, expiry, hmem, hnow⟩
  · rintro ⟨start, expiry, hmem, hnow⟩
    obtain ⟨first, rest, rfl⟩ := List.append_of_mem hmem
    refine ⟨expiry, h.stands fun entry hentry => ?_, hnow⟩
    exact hclock entry (by simp [hentry]) expiry hnow

/-! ### Runs -/

section Runs

variable {σ ι ω : Type} {step : σ → ι → ω × σ} {holds : σ → Holds κ τ}
  {entry : σ → ι → τ × Option (κ × τ)}

theorem history_of_run
    (hstep : ∀ s input, Step (holds s) (holds (step s input).2) (entry s input).1 (entry s input).2)
    {start : σ} (hstart : holds start = fun _ => none) (inputs : List ι) :
    History (holds (Machine.run step start inputs)) (grants step entry start inputs) := by
  rw [← run_logged step entry]
  refine Machine.history_induction _ (P := fun _ log s => History (holds s) log) ?_ ?_ inputs
  · rw [hstart]
    exact .start
  · intro inputs log s input hhistory
    exact hhistory.step (hstep s input)

end Runs

end Expiring
