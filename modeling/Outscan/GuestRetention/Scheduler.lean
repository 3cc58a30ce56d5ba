import Outscan.GuestRetention.Audit

/-! The scheduler of the retention cycles: cycles, timers and requests to stop in any order. -/
namespace Outscan

open Relational

/-- `startGuestRetentionScheduler`: the cycles that were started, and which of them still run; the
timers; and for each call of `stop` the cycle that it waits for, the last one started. The cycles
that ended are kept with their outcomes. -/
structure RetentionScheduler where
  stopped : Bool
  timers : Nat
  started : Nat
  running : List Nat
  stops : List Nat
  table : RetentionRuns
  ended : List (RetentionCycle × GuestRetentionCycleResult)

namespace RetentionScheduler

/-- `run`. -/
def startCycle (s : RetentionScheduler) : RetentionScheduler :=
  { s with started := s.started + 1, running := s.running ++ [s.started + 1] }

def initial : RetentionScheduler := startCycle ⟨false, 0, 0, [], [], Table.empty, []⟩

/-- A cycle ends as `cycle` does, a timer goes off, or `stop` is called. -/
inductive Happening where
  | ends (number : Nat) (cycle : RetentionCycle)
  | timer
  | stop

def step (s : RetentionScheduler) (happening : Happening) : Unit × RetentionScheduler :=
  ((), match happening with
    | .ends number cycle =>
      if number ∈ s.running then
        { s with
          running := s.running.erase number
          timers := if s.stopped then s.timers else s.timers + 1
          table := (retentionCycle s.table cycle).2
          ended := s.ended ++ [(cycle, (retentionCycle s.table cycle).1)] }
      else s
    | .timer => if 0 < s.timers then startCycle { s with timers := s.timers - 1 } else s
    | .stop => { s with stopped := true, timers := s.timers - 1, stops := s.stops ++ [s.started] })

/-- The `k`th call of `stop` has returned. -/
def Returned (s : RetentionScheduler) (k : Nat) : Prop :=
  ∃ number, s.stops[k]? = some number ∧ number ∉ s.running

/-- Until it is stopped, the scheduler waits for one cycle or for one timer. -/
structure Serial (s : RetentionScheduler) : Prop where
  last : ∀ number ∈ s.running, number = s.started
  one : s.running.length + s.timers ≤ 1
  alive : s.stopped = false → s.running.length + s.timers = 1
  quiet : s.stopped = true → s.timers = 0
  asked : ∀ number ∈ s.stops, s.stopped = true ∧ number = s.started
  table_eq : s.table = runsAfter (s.ended.map Prod.fst)
  outcomes : s.ended.map Prod.snd =
    Machine.answers retentionCycle Table.empty (s.ended.map Prod.fst)

theorem initial_serial : Serial initial where
  last number hmem := List.mem_singleton.mp hmem
  one := Nat.le_refl 1
  alive _ := rfl
  quiet h := by cases h
  asked number hmem := by cases hmem
  table_eq := rfl
  outcomes := rfl

theorem step_serial {s : RetentionScheduler} (h : Serial s) (happening : Happening) :
    Serial (step s happening).2 := by
  cases happening with
  | ends number cycle =>
    dsimp only [step]
    split
    · rename_i hrunning
      have hlength : (s.running.erase number).length = s.running.length - 1 :=
        List.length_erase_of_mem hrunning
      have hpos : 0 < s.running.length := List.length_pos_of_mem hrunning
      have hone := h.one
      constructor
      · exact fun other hother => h.last other (List.mem_of_mem_erase hother)
      · dsimp only
        split <;> omega
      · intro hstopped
        dsimp only at hstopped ⊢
        rw [if_neg (by simp [hstopped])]
        omega
      · intro hstopped
        dsimp only at hstopped ⊢
        rw [if_pos hstopped]
        omega
      · exact h.asked
      · rw [List.map_append, runsAfter, Machine.run_append]
        exact congrArg (fun table => (retentionCycle table cycle).2) h.table_eq
      · rw [List.map_append, List.map_append, Machine.answers_append, h.outcomes]
        have htable := h.table_eq
        rw [runsAfter] at htable
        rw [htable]
        rfl
    · exact h
  | timer =>
    dsimp only [step]
    split
    · rename_i htimer
      have hone := h.one
      have hnil : s.running = [] := List.length_eq_zero_iff.mp (by omega)
      have hstopped : s.stopped = false := by
        cases hstopped : s.stopped with
        | false => rfl
        | true => rw [h.quiet hstopped] at htimer; cases htimer
      exact {
        last := fun number hmem => by
          rw [startCycle, hnil] at hmem
          exact List.mem_singleton.mp hmem
        one := by
          simp only [startCycle, hnil, List.nil_append, List.length_singleton]
          omega
        alive := fun _ => by
          simp only [startCycle, hnil, List.nil_append, List.length_singleton]
          omega
        quiet := fun htrue => by cases hstopped.symm.trans htrue
        asked := fun number hmem => by cases hstopped.symm.trans (h.asked number hmem).1
        table_eq := h.table_eq
        outcomes := h.outcomes }
    · exact h
  | stop =>
    have hone := h.one
    exact {
      last := h.last
      one := by dsimp only [step]; omega
      alive := fun hfalse => by cases hfalse
      quiet := fun _ => by dsimp only [step]; omega
      asked := fun number hmem => by
        refine ⟨rfl, ?_⟩
        rcases List.mem_append.mp hmem with hold | hnew
        · exact (h.asked number hold).2
        · exact List.mem_singleton.mp hnew
      table_eq := h.table_eq
      outcomes := h.outcomes }

theorem run_serial (happenings : List Happening) :
    Serial (Machine.run step initial happenings) :=
  Machine.Reachable.invariant initial_serial (fun _ happening h => step_serial h happening)
    ⟨happenings, rfl⟩

/-- Once a call of `stop` has returned, nothing runs and no timer is set. -/
theorem Serial.still {s : RetentionScheduler} (h : Serial s) {k : Nat} (hreturned : s.Returned k) :
    s.running = [] ∧ s.timers = 0 := by
  obtain ⟨number, hstop, hnot⟩ := hreturned
  obtain ⟨hstopped, rfl⟩ := h.asked number (List.mem_of_getElem? hstop)
  refine ⟨List.eq_nil_iff_forall_not_mem.mpr fun other hother => hnot ?_, h.quiet hstopped⟩
  rwa [← h.last other hother]

theorem still_step {s : RetentionScheduler} (hrunning : s.running = []) (htimers : s.timers = 0)
    (happening : Happening) : (step s happening).2.running = [] ∧ (step s happening).2.timers = 0 ∧
      (step s happening).2.table = s.table ∧ (step s happening).2.ended = s.ended := by
  cases happening with
  | ends number cycle => simp [step, hrunning, htimers]
  | timer => simp [step, hrunning, htimers]
  | stop => simp [step, hrunning, htimers]

theorem still_run {s : RetentionScheduler} (hrunning : s.running = []) (htimers : s.timers = 0)
    (more : List Happening) : (Machine.run step s more).table = s.table ∧
      (Machine.run step s more).ended = s.ended := by
  induction more generalizing s with
  | nil => exact ⟨rfl, rfl⟩
  | cons happening rest ih =>
    obtain ⟨hrunning', htimers', htable, hended⟩ := still_step hrunning htimers happening
    obtain ⟨htable', hended'⟩ := ih hrunning' htimers'
    exact ⟨htable'.trans htable, hended'.trans hended⟩

end RetentionScheduler

open RetentionScheduler

/-- However the cycles end, the timers and the calls of `stop` fall: the scheduler runs one cycle
at a time, so that the table and the outcomes are those of the ended cycles one after the other;
it goes on until it is stopped; and from the return of any call of `stop` no cycle commits or
reports any more. -/
theorem retention_scheduler_serial (happenings : List Happening) :
    let s := Machine.run step initial happenings
    s.running.length ≤ 1 ∧
      (s.stopped = false → s.running.length + s.timers = 1) ∧
      s.table = runsAfter (s.ended.map Prod.fst) ∧
      s.ended.map Prod.snd =
        Machine.answers retentionCycle Table.empty (s.ended.map Prod.fst) ∧
      ∀ k, s.Returned k → ∀ more, (Machine.run step s more).table = s.table ∧
        (Machine.run step s more).ended = s.ended := by
  intro s
  have h : Serial s := run_serial happenings
  refine ⟨?_, h.alive, h.table_eq, h.outcomes, fun k hreturned more => ?_⟩
  · exact Nat.le_trans (Nat.le_add_right _ _) h.one
  · obtain ⟨hrunning, htimers⟩ := h.still hreturned
    exact still_run hrunning htimers more

end Outscan
