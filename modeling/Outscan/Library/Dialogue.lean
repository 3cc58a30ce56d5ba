import Mathlib.Data.List.Basic

/-! Programs that ask their environment questions. A dialogue is a tree: each
answer leads to another one, so a program that always asks again cannot be
written; what the environment answers, and when it stops, is left open. -/

/-- A program over the questions `Q`, where `q` is answered by an `A q`. -/
inductive Dialogue (Q : Type) (A : Q → Type) (α : Type) where
  | done (value : α)
  | ask (question : Q) (next : A question → Dialogue Q A α)

namespace Dialogue

variable {Q : Type} {A : Q → Type} {α β : Type}

def bind : Dialogue Q A α → (α → Dialogue Q A β) → Dialogue Q A β
  | .done value, f => f value
  | .ask question next, f => .ask question fun answer => (next answer).bind f

instance : Monad (Dialogue Q A) where
  pure := .done
  bind := bind

def question (q : Q) : Dialogue Q A (A q) := .ask q .done

@[simp] theorem pure_eq (value : α) : (pure value : Dialogue Q A α) = .done value := rfl

@[simp] theorem done_bind (value : α) (f : α → Dialogue Q A β) :
    ((.done value : Dialogue Q A α) >>= f) = f value := rfl

@[simp] theorem ask_bind (q : Q) (next : A q → Dialogue Q A α) (f : α → Dialogue Q A β) :
    (.ask q next >>= f) = .ask q fun answer => next answer >>= f := rfl

@[simp] theorem question_bind (q : Q) (f : A q → Dialogue Q A β) :
    (question q >>= f) = .ask q f := rfl

abbrev Exchange (Q : Type) (A : Q → Type) := (q : Q) × A q

/-- The exchanges of a run: up to its value, or up to a point where it was left
without an answer. -/
inductive Plays : Dialogue Q A α → List (Exchange Q A) → Option α → Prop where
  | left (p : Dialogue Q A α) : Plays p [] none
  | done (value : α) : Plays (.done value) [] (some value)
  | ask {q : Q} {next : A q → Dialogue Q A α} (answer : A q) {rest : List (Exchange Q A)}
      {result : Option α} (h : Plays (next answer) rest result) :
      Plays (.ask q next) (⟨q, answer⟩ :: rest) result

theorem plays_done {value : α} {exchanges : List (Exchange Q A)} {result : Option α} :
    Plays (.done value) exchanges result ↔
      exchanges = [] ∧ (result = none ∨ result = some value) := by
  constructor
  · intro h
    cases h with
    | left => exact ⟨rfl, .inl rfl⟩
    | done => exact ⟨rfl, .inr rfl⟩
  · rintro ⟨rfl, rfl | rfl⟩
    · exact .left _
    · exact .done _

theorem plays_ask {q : Q} {next : A q → Dialogue Q A α} {exchanges : List (Exchange Q A)}
    {result : Option α} :
    Plays (.ask q next) exchanges result ↔
      (exchanges = [] ∧ result = none) ∨
        ∃ answer rest, exchanges = ⟨q, answer⟩ :: rest ∧ Plays (next answer) rest result := by
  constructor
  · intro h
    cases h with
    | left => exact .inl ⟨rfl, rfl⟩
    | ask answer h => exact .inr ⟨answer, _, rfl, h⟩
  · rintro (⟨rfl, rfl⟩ | ⟨answer, rest, rfl, h⟩)
    · exact .left _
    · exact .ask answer h

theorem value_of_plays_bind_pure {p : Dialogue Q A α} {f : α → β} {exchanges : List (Exchange Q A)}
    {result : β} (h : Plays (p >>= fun value => pure (f value)) exchanges (some result)) :
    ∃ value, f value = result := by
  induction p generalizing exchanges with
  | done value =>
    rw [done_bind, pure_eq, plays_done] at h
    obtain ⟨-, hnone | hsome⟩ := h
    · cases hnone
    · exact ⟨value, (Option.some.inj hsome).symm⟩
  | ask q next ih =>
    rw [ask_bind, plays_ask] at h
    obtain ⟨-, hnone⟩ | ⟨answer, rest, -, hrest⟩ := h
    · cases hnone
    · exact ih answer hrest

/-- The run against an environment that answers every question, knowing the
exchanges so far. -/
def converse (answer : List (Exchange Q A) → (q : Q) → A q) (history : List (Exchange Q A)) :
    Dialogue Q A α → List (Exchange Q A) × α
  | .done value => ([], value)
  | .ask q next =>
    let exchange : Exchange Q A := ⟨q, answer history q⟩
    let rest := converse answer (history ++ [exchange]) (next exchange.2)
    (exchange :: rest.1, rest.2)

/-- Where every question is answered, the run ends in a value. -/
theorem plays_converse (answer : List (Exchange Q A) → (q : Q) → A q)
    (history : List (Exchange Q A)) (p : Dialogue Q A α) :
    Plays p (converse answer history p).1 (some (converse answer history p).2) := by
  induction p generalizing history with
  | done value => exact .done value
  | ask q next ih => exact .ask _ (ih _ _)

theorem bind_assoc {γ : Type} (p : Dialogue Q A α) (f : α → Dialogue Q A β)
    (g : β → Dialogue Q A γ) : (p >>= f) >>= g = p >>= fun value => f value >>= g := by
  induction p with
  | done value => rfl
  | ask q next ih =>
    rw [ask_bind, ask_bind, ask_bind]
    congr 1
    funext answer
    exact ih answer

theorem plays_bind {p : Dialogue Q A α} {f : α → Dialogue Q A β} {exchanges : List (Exchange Q A)}
    {result : β} :
    Plays (p >>= f) exchanges (some result) ↔
      ∃ first second value, exchanges = first ++ second ∧ Plays p first (some value) ∧
        Plays (f value) second (some result) := by
  induction p generalizing exchanges with
  | done value =>
    rw [done_bind]
    constructor
    · exact fun h => ⟨[], exchanges, value, rfl, .done value, h⟩
    · rintro ⟨first, second, value', rfl, hfirst, hsecond⟩
      cases hfirst
      exact hsecond
  | ask q next ih =>
    rw [ask_bind]
    constructor
    · intro h
      cases h with
      | ask answer h =>
        obtain ⟨first, second, value, rfl, hfirst, hsecond⟩ := (ih answer).mp h
        exact ⟨_ :: first, second, value, rfl, .ask answer hfirst, hsecond⟩
    · rintro ⟨first, second, value, rfl, hfirst, hsecond⟩
      cases hfirst with
      | ask answer hfirst =>
        exact .ask answer ((ih answer).mpr ⟨_, second, value, rfl, hfirst, hsecond⟩)

theorem plays_question {q : Q} {exchanges : List (Exchange Q A)} {answer : A q} :
    Plays (question q) exchanges (some answer) ↔ exchanges = [⟨q, answer⟩] := by
  constructor
  · intro h
    cases h with
    | ask answer h =>
      cases h
      rfl
  · rintro rfl
    exact .ask answer (.done answer)

theorem plays_question_bind {q : Q} {f : A q → Dialogue Q A β} {exchanges : List (Exchange Q A)}
    {result : β} :
    Plays (question q >>= f) exchanges (some result) ↔
      ∃ answer rest, exchanges = ⟨q, answer⟩ :: rest ∧ Plays (f answer) rest (some result) := by
  simp [question_bind, plays_ask]

theorem plays_pure {value result : α} {exchanges : List (Exchange Q A)} :
    Plays (pure value : Dialogue Q A α) exchanges (some result) ↔
      exchanges = [] ∧ result = value := by
  simp [plays_done]

/-! ### Programs that answer for the environment -/

section Interpret

variable {P : Type} {B : P → Type} {S : Type}
  (answer : (q : Q) → S → Dialogue P B (A q × S))

/-- Run a program whose questions are answered by programs over other questions;
a state is handed on from one answer to the next. -/
def interpret : Dialogue Q A α → S → Dialogue P B (α × S)
  | .done value, s => .done (value, s)
  | .ask q next, s => answer q s >>= fun given => interpret (next given.1) given.2

/-- How the exchanges of a program came about under `interpret`: each answer was
given by a run of its own. -/
inductive Interpreted : S → List (Exchange Q A) → List (Exchange P B) → S → Prop where
  | nil (s : S) : Interpreted s [] [] s
  | cons {q : Q} {given : A q} {s next last : S} {inner : List (Exchange P B)}
      {rest : List (Exchange Q A)} {others : List (Exchange P B)}
      (hgiven : Plays (answer q s) inner (some (given, next)))
      (hrest : Interpreted next rest others last) :
      Interpreted s (⟨q, given⟩ :: rest) (inner ++ others) last

theorem plays_interpret {p : Dialogue Q A α} {s last : S} {exchanges : List (Exchange P B)}
    {value : α} :
    Plays (interpret answer p s) exchanges (some (value, last)) ↔
      ∃ outer, Plays p outer (some value) ∧ Interpreted answer s outer exchanges last := by
  induction p generalizing s exchanges with
  | done result =>
    rw [interpret]
    constructor
    · intro h
      cases h
      exact ⟨[], .done _, .nil _⟩
    · rintro ⟨outer, hplays, hinterpreted⟩
      cases hplays
      cases hinterpreted
      exact .done _
  | ask q next ih =>
    rw [interpret, plays_bind]
    constructor
    · rintro ⟨inner, others, given, rfl, hgiven, hrest⟩
      obtain ⟨outer, hplays, hinterpreted⟩ := (ih given.1).mp hrest
      exact ⟨_, .ask given.1 hplays, .cons hgiven hinterpreted⟩
    · rintro ⟨outer, hplays, hinterpreted⟩
      cases hplays with
      | ask given hplays =>
        cases hinterpreted with
        | cons hgiven hrest =>
          exact ⟨_, _, _, rfl, hgiven, (ih given).mpr ⟨_, hplays, hrest⟩⟩

end Interpret

end Dialogue
