import Outscan.Library.Dialogue
import Outscan.Library.Run

/-! A program that shares a machine with others. Before each question anybody may move the
machine, and a question is answered by moves of its own. -/
namespace Dialogue

variable {Q : Type} {A : Q → Type} {α σ ι ω : Type} (step : σ → ι → ω × σ)
  (Answers : σ → Exchange Q A → List ι → Prop)

/-- The moves of a run of the machine in which exchanges take place, in their order. -/
inductive Served : σ → List (Exchange Q A) → List ι → Prop where
  | done (s : σ) : Served s [] []
  | other {s : σ} (input : ι) {exchanges : List (Exchange Q A)} {inputs : List ι}
      (h : Served (step s input).2 exchanges inputs) : Served s exchanges (input :: inputs)
  | exchange {s : σ} {exchange : Exchange Q A} {own : List ι} (answers : Answers s exchange own)
      {exchanges : List (Exchange Q A)} {inputs : List ι}
      (h : Served (Machine.run step s own) exchanges inputs) :
      Served s (exchange :: exchanges) (own ++ inputs)

variable {step Answers}

theorem Served.cons {s : σ} {exchange : Exchange Q A} {exchanges : List (Exchange Q A)}
    {inputs : List ι} (h : Served step Answers s (exchange :: exchanges) inputs) :
    ∃ others own rest, inputs = others ++ (own ++ rest) ∧
      Answers (Machine.run step s others) exchange own ∧
      Served step Answers (Machine.run step s (others ++ own)) exchanges rest := by
  generalize hall : exchange :: exchanges = all at h
  induction h with
  | done => cases hall
  | @other s input all inputs h ih =>
    obtain ⟨others, own, rest, rfl, hanswers, hrest⟩ := ih hall
    exact ⟨input :: others, own, rest, rfl, hanswers, hrest⟩
  | exchange answers h =>
    cases hall
    exact ⟨[], _, _, rfl, answers, h⟩

variable (step Answers)

/-- What holds of every run of a program that ends: its exchanges, the moves of the machine
meanwhile, and its value. -/
def Ensures (s : σ) (p : Dialogue Q A α) (Post : List (Exchange Q A) → List ι → α → Prop) : Prop :=
  ∀ exchanges inputs value, Plays p exchanges (some value) →
    Served step Answers s exchanges inputs → Post exchanges inputs value

variable {step Answers} {s : σ} {Post : List (Exchange Q A) → List ι → α → Prop}

theorem Ensures.done {value : α} (h : ∀ inputs, Post [] inputs value) :
    Ensures step Answers s (.done value) Post := by
  intro exchanges inputs result hplays hserved
  obtain ⟨rfl, hnone | hsome⟩ := plays_done.mp hplays
  · cases hnone
  · cases hsome
    exact h inputs

/-- The rule of a question: whatever the others did and whatever is answered, the rest of the
program ensures the rest. -/
theorem Ensures.ask {q : Q} {next : A q → Dialogue Q A α}
    (h : ∀ answer others own, Answers (Machine.run step s others) ⟨q, answer⟩ own →
      Ensures step Answers (Machine.run step s (others ++ own)) (next answer)
        fun exchanges inputs => Post (⟨q, answer⟩ :: exchanges) (others ++ (own ++ inputs))) :
    Ensures step Answers s (.ask q next) Post := by
  intro exchanges inputs result hplays hserved
  obtain ⟨-, hnone⟩ | ⟨answer, rest, rfl, hrest⟩ := plays_ask.mp hplays
  · cases hnone
  · obtain ⟨others, own, later, rfl, hanswers, hlater⟩ := hserved.cons
    exact h answer others own hanswers rest later result hrest hlater

theorem Ensures.imp {Stronger : List (Exchange Q A) → List ι → α → Prop} {p : Dialogue Q A α}
    (h : Ensures step Answers s p Stronger)
    (himp : ∀ exchanges inputs value, Stronger exchanges inputs value →
      Post exchanges inputs value) : Ensures step Answers s p Post :=
  fun exchanges inputs value hplays hserved =>
    himp exchanges inputs value (h exchanges inputs value hplays hserved)

end Dialogue
