import Outscan.GuestQueue.Context
import Outscan.Supervisor.Process

/-! No scanner is left running: whatever the order of events, a handle that the launcher yields
is stopped or its exit is seen, and only a clean run is signed. -/
namespace Outscan

open Dynamic Machine

variable {runtime : EnvelopeRuntime} {canonical : CanonicalProducer} {context : SupervisorContext}

def supervisorMachine (runtime : EnvelopeRuntime) (canonical : CanonicalProducer)
    (context : SupervisorContext) (s : SupervisorRun) (event : SupervisorEvent) :
    Unit × SupervisorRun :=
  ((), supervisorStep runtime canonical context s event)

def SupervisorRun.Accounted (s : SupervisorRun) : Prop := s.exit.isSome = true ∨ s.stops ≠ []

def SupervisorRun.Yielded (s : SupervisorRun) : Prop :=
  ∃ handle : RawScannerHandle, s.launch = .settled (.ok (some handle)) ∧ handle.stops = true

/-! ### What is never lost -/

structure SupervisorRun.Extends (s s' : SupervisorRun) : Prop where
  exit : s.exit.isSome = true → s'.exit.isSome = true
  stops : s.stops <+: s'.stops

namespace SupervisorRun

variable {s s' s'' : SupervisorRun}

theorem Extends.refl (s : SupervisorRun) : Extends s s := ⟨id, List.prefix_refl _⟩

theorem Extends.trans (h : Extends s s') (h' : Extends s' s'') : Extends s s'' :=
  ⟨h'.exit ∘ h.exit, h.stops.trans h'.stops⟩

theorem Extends.accounted (h : Extends s s') (hs : s.Accounted) : s'.Accounted := by
  rcases hs with hexit | hstops
  · exact .inl (h.exit hexit)
  · refine .inr fun hnil => hstops ?_
    have hprefix := h.stops
    rw [hnil] at hprefix
    exact List.prefix_nil.mp hprefix

theorem Extends.of_append {more : List StopSignal} (hexit : s'.exit = s.exit)
    (hstops : s'.stops = s.stops ++ more) : Extends s s' := by
  refine ⟨fun h => ?_, ?_⟩
  · rwa [hexit]
  · rw [hstops]
    exact List.prefix_append _ _

theorem Extends.of_eq (hexit : s'.exit = s.exit) (hstops : s'.stops = s.stops) : Extends s s' := by
  have happend : s'.stops = s.stops ++ [] := by rw [hstops, List.append_nil]
  exact .of_append hexit happend

theorem extends_stopWithEscalation (code : GuestSupervisorRunCode) :
    Extends s (s.stopWithEscalation context code) := by
  unfold stopWithEscalation
  split
  · exact .of_append rfl (List.append_assoc _ _ _)
  · exact .of_append rfl rfl

theorem extends_killLate (outcome : LaunchOutcome) : Extends s (s.killLate outcome) := by
  unfold killLate
  split
  · exact .of_eq rfl rfl
  · split
    · exact .of_append rfl rfl
    · exact .of_append rfl rfl

theorem extends_takeLaunch (outcome : LaunchOutcome) (now : Int) :
    Extends s (s.takeLaunch context outcome now) := by
  unfold takeLaunch
  split
  · exact .of_eq rfl rfl
  · split
    · exact .of_append rfl rfl
    · dsimp only
      split
      · have hstop : Extends { s with completion := .pending }
            (SupervisorRun.stopWithEscalation context { s with completion := .pending }
              .runTimeout) := extends_stopWithEscalation .runTimeout
        exact ⟨hstop.exit, hstop.stops⟩
      · exact .of_eq rfl rfl

theorem extends_awaitExit (payload : List UInt8) (now : Int) :
    Extends s (s.awaitExit context payload now) := by
  unfold awaitExit
  split
  · exact extends_stopWithEscalation _
  · split
    · exact extends_stopWithEscalation _
    · exact .of_eq rfl rfl

theorem extends_takeFrame (timeoutMs : Int) (source : Option (List NextResult)) (now : Int) :
    Extends s (s.takeFrame context timeoutMs source now) := by
  unfold takeFrame
  split
  · exact .refl s
  · exact extends_stopWithEscalation _
  · exact extends_awaitExit _ _

theorem extends_takeOutput (payload : List UInt8) (trustedNow : Option ClockReading) :
    Extends s (s.takeOutput context canonical payload trustedNow) := by
  unfold takeOutput
  split
  · exact .of_eq rfl rfl
  · split
    · exact .of_eq rfl rfl
    · split
      · exact .of_eq rfl rfl
      · exact .of_eq rfl rfl

theorem extends_takeExit (payload : List UInt8) (completion : ScannerProcessCompletion)
    (trustedNow : Option ClockReading) :
    Extends s (s.takeExit context canonical payload completion trustedNow) := by
  unfold takeExit
  split
  · exact extends_stopWithEscalation _
  · rename_i exit
    have hobserved : Extends s { s with exit := some exit } :=
      ⟨fun _ => rfl, List.prefix_refl _⟩
    dsimp only
    split
    · exact hobserved.trans (.of_eq rfl rfl)
    · exact hobserved.trans (extends_takeOutput payload trustedNow)

theorem extends_endGrace (code : GuestSupervisorRunCode) (completion : ScannerProcessCompletion) :
    Extends s (s.endGrace code completion) := by
  unfold endGrace
  split
  · exact ⟨fun _ => rfl, List.prefix_refl _⟩
  · exact .of_append rfl rfl

theorem extends_takeKey (result : CanonicalGuestScannerResult) (now : Nat)
    (value : Except Unit (Value Scalar)) : Extends s (s.takeKey runtime context result now value) := by
  unfold takeKey
  split
  · exact .of_eq rfl rfl
  · split
    · exact .of_eq rfl rfl
    · split
      · exact .of_eq rfl rfl
      · exact .of_eq rfl rfl

theorem extends_react (now : Int) (trustedNow : Option ClockReading) :
    Extends s (s.react context canonical now trustedNow) := by
  unfold react
  split
  · exact extends_takeLaunch _ _
  · exact extends_takeExit _ _ _
  · exact extends_endGrace _ _
  · split
    · exact extends_killLate _
    · exact .refl s
  · exact .refl s

theorem extends_abort : Extends s (s.abort context) := by
  unfold abort
  split
  · exact .of_eq rfl rfl
  · have hstop : Extends { s with aborted := true }
        (SupervisorRun.stopWithEscalation context { s with aborted := true } .runAborted) :=
      extends_stopWithEscalation .runAborted
    exact ⟨hstop.exit, hstop.stops⟩
  · exact .of_eq rfl rfl

theorem extends_timer : Extends s (s.timer context) := by
  unfold timer
  split
  · exact .of_eq rfl rfl
  · exact extends_stopWithEscalation _
  · exact .of_append rfl rfl
  · exact .refl s

theorem extends_settleLaunch (outcome : LaunchOutcome) : Extends s (s.settleLaunch outcome) := by
  unfold settleLaunch
  split
  · exact .of_eq rfl rfl
  · exact .refl s

theorem extends_settleCompletion (outcome : Except Unit Datum) :
    Extends s (s.settleCompletion outcome) := by
  unfold settleCompletion
  split
  · exact .of_eq rfl rfl
  · exact .refl s

theorem extends_ipc (source : Option (List NextResult)) (now : Int) :
    Extends s (s.ipc context source now) := by
  unfold ipc
  split
  · exact extends_takeFrame _ _ _
  · exact .refl s

theorem extends_key (value : Except Unit (Value Scalar)) :
    Extends s (s.key runtime context value) := by
  unfold key
  split
  · exact extends_takeKey _ _ _
  · exact .refl s

end SupervisorRun

open SupervisorRun

theorem extends_step (s : SupervisorRun) (event : SupervisorEvent) :
    Extends s (supervisorStep runtime canonical context s event) := by
  cases event with
  | launched outcome => exact extends_settleLaunch outcome
  | completed outcome => exact extends_settleCompletion outcome
  | abort =>
    rw [supervisorStep]
    split
    · exact .refl s
    · exact extends_abort
  | react now trustedNow => exact extends_react now trustedNow
  | timer => exact extends_timer
  | ipc source now => exact extends_ipc source now
  | key value => exact extends_key value

/-! ### What a handle is owed -/

namespace SupervisorRun

variable {s : SupervisorRun}

def Obliged (s : SupervisorRun) : Prop :=
  match s.phase with
  | .stopping _ => s.Accounted
  | .signing _ _ => s.Accounted
  | .returned _ => s.Yielded → s.Accounted ∨ s.watched = true
  | _ => True

def Escalated (s : SupervisorRun) : Prop :=
  StopSignal.term ∈ s.stops →
    StopSignal.kill ∈ s.stops ∨ s.exit.isSome = true ∨ ∃ code, s.phase = .stopping code

structure Kept (s : SupervisorRun) : Prop where
  pending : s.launch = .pending →
    s.phase = .launching ∨ s.watched = true ∧ ∃ result, s.phase = .returned result
  obliged : s.Obliged
  escalated : s.Escalated

theorem accounted_of_mem {signal : StopSignal} (h : signal ∈ s.stops) : s.Accounted :=
  .inr (List.ne_nil_of_mem h)

theorem Kept.followed (h : Kept s) (hphase : ∀ code, s.phase ≠ .stopping code)
    (hterm : StopSignal.term ∈ s.stops) : StopSignal.kill ∈ s.stops ∨ s.exit.isSome = true := by
  rcases h.escalated hterm with hkill | hexit | ⟨code, hcode⟩
  · exact .inl hkill
  · exact .inr hexit
  · exact absurd hcode (hphase code)

theorem Kept.not_pending (h : Kept s) (hlaunching : s.phase ≠ .launching)
    (hreturned : ∀ result, s.phase ≠ .returned result) : s.launch ≠ .pending := by
  intro hpending
  rcases h.pending hpending with hphase | ⟨-, result, hresult⟩
  · exact hlaunching hphase
  · exact hreturned result hresult

theorem Kept.finish (h : Kept s) (hphase : ∀ code, s.phase ≠ .stopping code)
    (hlaunch : s.launch ≠ .pending)
    (howed : s.Yielded → s.Accounted ∨ s.watched = true) (result : GuestSupervisorRunResult) :
    Kept (s.finish result) where
  pending hpending := absurd hpending hlaunch
  obliged := howed
  escalated hterm := (h.followed hphase hterm).imp_right .inl

theorem kept_stopWithEscalation (hlaunch : s.launch ≠ .pending) (code : GuestSupervisorRunCode) :
    Kept (s.stopWithEscalation context code) := by
  have hmem : ∀ more : List StopSignal, StopSignal.term ∈ s.stops ++ [.term] ++ more := fun more =>
    List.mem_append_left _ (List.mem_append_right _ List.mem_cons_self)
  unfold SupervisorRun.stopWithEscalation
  split
  · exact {
      pending := fun hpending => absurd hpending hlaunch
      obliged := fun _ => .inl (accounted_of_mem (hmem [.kill]))
      escalated := fun _ => .inl (List.mem_append_right _ List.mem_cons_self) }
  · exact {
      pending := fun hpending => absurd hpending hlaunch
      obliged := accounted_of_mem (List.mem_append_right s.stops List.mem_cons_self)
      escalated := fun _ => .inr (.inr ⟨code, rfl⟩) }

theorem Kept.abandonLaunch (h : Kept s) (hphase : s.phase = .launching)
    (code : GuestSupervisorRunCode) : Kept (s.abandonLaunch code) where
  pending _ := .inr ⟨rfl, _, rfl⟩
  obliged _ := .inr rfl
  escalated hterm := by
    have hnot : ∀ other, s.phase ≠ .stopping other := by
      rw [hphase]
      exact fun other heq => by cases heq
    exact (h.followed hnot hterm).imp_right .inl

theorem snapshotScannerProcessHandle_unusable {value : Option RawScannerHandle}
    {requested : List StopSignal} (h : snapshotScannerProcessHandle value = (false, requested)) :
    StopSignal.term ∉ requested ∧
      ∀ handle, value = some handle → handle.stops = true → StopSignal.kill ∈ requested := by
  unfold snapshotScannerProcessHandle at h
  split at h
  · cases h
    exact ⟨List.not_mem_nil, fun handle hvalue => by cases hvalue⟩
  · rename_i handle
    split at h
    · cases h
    · cases h
      unfold stopMalformedHandle
      split
      · exact ⟨by decide, fun _ _ _ => List.mem_cons_self⟩
      · rename_i hstops
        refine ⟨List.not_mem_nil, fun other hother hcan => ?_⟩
        cases hother
        exact absurd hcan hstops

theorem Kept.takeLaunch (h : Kept s) (hphase : s.phase = .launching) {outcome : LaunchOutcome}
    (hlaunch : s.launch = .settled outcome) (now : Int) :
    Kept (s.takeLaunch context outcome now) := by
  have hnot : ∀ code, s.phase ≠ .stopping code := by
    rw [hphase]
    exact fun code heq => by cases heq
  have hsettled : s.launch ≠ .pending := by
    rw [hlaunch]
    exact fun heq => by cases heq
  unfold SupervisorRun.takeLaunch
  split
  · refine h.finish hnot hsettled ?_ _
    rintro ⟨handle, hyielded, -⟩
    rw [hlaunch] at hyielded
    cases hyielded
  · rename_i value
    split
    · rename_i requested hsnapshot
      obtain ⟨hterm, hkill⟩ := snapshotScannerProcessHandle_unusable hsnapshot
      exact {
        pending := fun hpending => absurd hpending hsettled
        obliged := by
          rintro ⟨handle, hyielded, hstops⟩
          have hvalue : s.launch = .settled (.ok (some handle)) := hyielded
          rw [hlaunch] at hvalue
          cases hvalue
          exact .inl (accounted_of_mem (List.mem_append_right _ (hkill handle rfl hstops)))
        escalated := fun hmem => by
          have hbefore := (List.mem_append.mp hmem).resolve_right hterm
          rcases h.followed hnot hbefore with hdone | hexit
          · exact .inl (List.mem_append_left _ hdone)
          · exact .inr (.inl hexit) }
    · have hwaiting : Kept { s with completion := .pending } :=
        ⟨h.pending, by unfold Obliged; rw [hphase]; trivial, h.escalated⟩
      dsimp only
      split
      · exact kept_stopWithEscalation (s := { s with completion := .pending }) hsettled _
      · exact {
          pending := fun hpending => absurd hpending hsettled
          obliged := trivial
          escalated := fun hterm => (h.followed hnot hterm).imp_right .inl }

theorem Kept.awaitExit (h : Kept s) (hphase : ∀ code, s.phase ≠ .stopping code)
    (hlaunch : s.launch ≠ .pending) (payload : List UInt8) (now : Int) :
    Kept (s.awaitExit context payload now) := by
  unfold SupervisorRun.awaitExit
  split
  · exact kept_stopWithEscalation hlaunch _
  · split
    · exact kept_stopWithEscalation hlaunch _
    · exact {
        pending := fun hpending => absurd hpending hlaunch
        obliged := trivial
        escalated := fun hterm => (h.followed hphase hterm).imp_right .inl }

theorem Kept.takeFrame (h : Kept s) (hphase : ∀ code, s.phase ≠ .stopping code)
    (hlaunch : s.launch ≠ .pending) (timeoutMs : Int) (source : Option (List NextResult))
    (now : Int) : Kept (s.takeFrame context timeoutMs source now) := by
  unfold SupervisorRun.takeFrame
  split
  · exact h
  · exact kept_stopWithEscalation hlaunch _
  · exact h.awaitExit hphase hlaunch _ _

theorem Kept.takeOutput (h : Kept s) (hphase : ∀ code, s.phase ≠ .stopping code)
    (hlaunch : s.launch ≠ .pending) (hexit : s.exit.isSome = true) (payload : List UInt8)
    (trustedNow : Option ClockReading) :
    Kept (s.takeOutput context canonical payload trustedNow) := by
  have hfail : ∀ code, Kept (s.fail code) := fun code =>
    h.finish hphase hlaunch (fun _ => .inl (.inl hexit)) _
  unfold SupervisorRun.takeOutput
  split
  · exact hfail _
  · split
    · exact hfail _
    · split
      · exact hfail _
      · exact {
          pending := fun hpending => absurd hpending hlaunch
          obliged := .inl hexit
          escalated := fun _ => .inr (.inl hexit) }

theorem Kept.takeExit (h : Kept s) {payload : List UInt8} (hphase : s.phase = .exiting payload)
    (hlaunch : s.launch ≠ .pending) (completion : ScannerProcessCompletion)
    (trustedNow : Option ClockReading) :
    Kept (s.takeExit context canonical payload completion trustedNow) := by
  have hnot : ∀ code, s.phase ≠ .stopping code := by
    rw [hphase]
    exact fun code heq => by cases heq
  unfold SupervisorRun.takeExit
  split
  · exact kept_stopWithEscalation hlaunch _
  · rename_i exit
    have hobserved : Kept { s with exit := some exit } :=
      ⟨h.pending, by unfold Obliged; rw [hphase]; trivial, fun _ => .inr (.inl rfl)⟩
    dsimp only
    split
    · exact hobserved.finish hnot hlaunch (fun _ => .inl (.inl rfl)) _
    · exact hobserved.takeOutput hnot hlaunch rfl _ _

theorem Kept.endGrace (h : Kept s) {code : GuestSupervisorRunCode}
    (hphase : s.phase = .stopping code) (completion : ScannerProcessCompletion) :
    Kept (s.endGrace code completion) := by
  have hlaunch := h.not_pending (by rw [hphase]; nofun) (by rw [hphase]; nofun)
  unfold SupervisorRun.endGrace
  split
  · exact ⟨fun hpending => absurd hpending hlaunch, fun _ => .inl (.inl rfl),
      fun _ => .inr (.inl rfl)⟩
  · have hkill : StopSignal.kill ∈ s.stops ++ [.kill] :=
      List.mem_append_right _ List.mem_cons_self
    exact ⟨fun hpending => absurd hpending hlaunch, fun _ => .inl (accounted_of_mem hkill),
      fun _ => .inl hkill⟩

theorem accounted_killLate {outcome : LaunchOutcome} {handle : RawScannerHandle}
    (houtcome : outcome = .ok (some handle)) (hstops : handle.stops = true) :
    (s.killLate outcome).Accounted := by
  subst houtcome
  unfold killLate
  dsimp only
  split
  · exact accounted_of_mem (List.mem_append_right s.stops List.mem_cons_self)
  · rename_i requested hsnapshot
    exact accounted_of_mem (List.mem_append_right s.stops
      ((snapshotScannerProcessHandle_unusable hsnapshot).2 handle rfl hstops))

theorem Kept.killLate (h : Kept s) {result : GuestSupervisorRunResult}
    (hphase : s.phase = .returned result) {outcome : LaunchOutcome}
    (hlaunch : s.launch = .settled outcome) : Kept (s.killLate outcome) := by
  have hnot : ∀ code, s.phase ≠ .stopping code := by
    rw [hphase]
    exact fun code heq => by cases heq
  have hsame : (s.killLate outcome).phase = s.phase ∧ (s.killLate outcome).launch = s.launch := by
    unfold SupervisorRun.killLate
    repeat' split
    all_goals exact ⟨rfl, rfl⟩
  have hextends := extends_killLate (s := s) outcome
  have hterm : StopSignal.term ∈ (s.killLate outcome).stops → StopSignal.term ∈ s.stops := by
    unfold SupervisorRun.killLate
    split
    · exact id
    · split
      · intro hmem
        exact (List.mem_append.mp hmem).resolve_right (by decide)
      · rename_i requested hsnapshot
        intro hmem
        exact (List.mem_append.mp hmem).resolve_right
          (snapshotScannerProcessHandle_unusable hsnapshot).1
  exact {
    pending := fun hpending => by
      rw [hsame.2, hlaunch] at hpending
      cases hpending
    obliged := by
      unfold Obliged
      rw [hsame.1, hphase]
      rintro ⟨handle, hyielded, hstops⟩
      rw [hsame.2, hlaunch] at hyielded
      cases hyielded
      exact .inl (accounted_killLate rfl hstops)
    escalated := fun hmem => by
      rcases h.followed hnot (hterm hmem) with hkill | hexit
      · exact .inl (hextends.stops.subset hkill)
      · exact .inr (.inl (hextends.exit hexit)) }

theorem Kept.react (h : Kept s) (now : Int) (trustedNow : Option ClockReading) :
    Kept (s.react context canonical now trustedNow) := by
  unfold SupervisorRun.react
  split
  · rename_i hphase hlaunch
    exact h.takeLaunch hphase hlaunch now
  · rename_i payload completion hphase _
    exact h.takeExit hphase (h.not_pending (by rw [hphase]; nofun) (by rw [hphase]; nofun)) _ _
  · rename_i code completion hphase _
    exact h.endGrace hphase completion
  · rename_i result outcome hphase hlaunch
    split
    · exact h.killLate hphase hlaunch
    · exact h
  · exact h

theorem Kept.abort (h : Kept s) : Kept (s.abort context) := by
  have haborted : Kept { s with aborted := true } := ⟨h.pending, h.obliged, h.escalated⟩
  unfold SupervisorRun.abort
  split
  · rename_i hphase
    exact haborted.abandonLaunch hphase _
  · rename_i payload hphase
    exact kept_stopWithEscalation (s := { s with aborted := true })
      (h.not_pending (by rw [hphase]; nofun) (by rw [hphase]; nofun)) _
  · exact haborted

theorem Kept.timer (h : Kept s) : Kept (s.timer context) := by
  unfold SupervisorRun.timer
  split
  · rename_i hphase
    exact h.abandonLaunch hphase _
  · rename_i payload hphase
    exact kept_stopWithEscalation (h.not_pending (by rw [hphase]; nofun) (by rw [hphase]; nofun)) _
  · rename_i code hphase
    have hlaunch := h.not_pending (by rw [hphase]; nofun) (by rw [hphase]; nofun)
    have hkill : StopSignal.kill ∈ s.stops ++ [.kill] :=
      List.mem_append_right _ List.mem_cons_self
    exact ⟨fun hpending => absurd hpending hlaunch, fun _ => .inl (accounted_of_mem hkill),
      fun _ => .inl hkill⟩
  · exact h

theorem Kept.ipc (h : Kept s) (source : Option (List NextResult)) (now : Int) :
    Kept (s.ipc context source now) := by
  unfold SupervisorRun.ipc
  split
  · rename_i timeoutMs hphase
    exact h.takeFrame (by rw [hphase]; nofun)
      (h.not_pending (by rw [hphase]; nofun) (by rw [hphase]; nofun)) _ _ _
  · exact h

theorem Kept.key (h : Kept s) (value : Except Unit (Value Scalar)) :
    Kept (s.key runtime context value) := by
  unfold SupervisorRun.key
  split
  · rename_i result now hphase
    have hlaunch := h.not_pending (by rw [hphase]; nofun) (by rw [hphase]; nofun)
    have haccounted : s.Accounted := by
      have hobliged := h.obliged
      unfold Obliged at hobliged
      rwa [hphase] at hobliged
    have hfinish : ∀ answer, Kept (s.finish answer) :=
      h.finish (by rw [hphase]; nofun) hlaunch fun _ => .inl haccounted
    unfold takeKey
    split
    · exact hfinish _
    · split
      · exact hfinish _
      · split
        · exact hfinish _
        · exact hfinish _
  · exact h

theorem Kept.settleLaunch (h : Kept s) (outcome : LaunchOutcome) : Kept (s.settleLaunch outcome) := by
  unfold SupervisorRun.settleLaunch
  split
  · rename_i hpending
    refine ⟨nofun, ?_, h.escalated⟩
    rcases h.pending hpending with hphase | ⟨hwatched, result, hphase⟩
    · unfold Obliged
      rw [hphase]
      trivial
    · unfold Obliged
      rw [hphase]
      exact fun _ => .inr hwatched
  · exact h

theorem Kept.settleCompletion (h : Kept s) (outcome : Except Unit Datum) :
    Kept (s.settleCompletion outcome) := by
  unfold SupervisorRun.settleCompletion
  split
  · exact ⟨h.pending, h.obliged, h.escalated⟩
  · exact h

end SupervisorRun

theorem kept_step {s : SupervisorRun} (h : Kept s) (event : SupervisorEvent) :
    Kept (supervisorStep runtime canonical context s event) := by
  cases event with
  | launched outcome => exact h.settleLaunch outcome
  | completed outcome => exact h.settleCompletion outcome
  | abort =>
    rw [supervisorStep]
    split
    · exact h
    · exact h.abort
  | react now trustedNow => exact h.react now trustedNow
  | timer => exact h.timer
  | ipc source now => exact h.ipc source now
  | key value => exact h.key value

/-- What `startSupervisor` hands over: an attempt that has called the launcher and may have left
the launch to its handler already. -/
theorem startSupervisor_ok {input : Datum} {trusted : TrustedExecutionState}
    {raw : RawSupervisorDependencies} {startedAt waitsAt : Int} {start : SupervisorRun}
    (h : startSupervisor input trusted raw startedAt waitsAt = .ok (context, start)) :
    authorizeSupervisorExecution input trusted = .allowed context.envelope ∧
      (start = ⟨.launching, false, .pending, false, .absent, none, []⟩ ∨
        start = SupervisorRun.abandonLaunch ⟨.launching, false, .pending, false, .absent, none, []⟩
          .runTimeout) := by
  unfold startSupervisor at h
  split at h
  · cases h
  · split at h
    · cases h
    · split at h
      · cases h
      · rename_i envelope houtcome
        dsimp only at h
        split at h
        · cases h
        · split at h
          · cases h
          · cases h
            constructor
            · unfold SupervisorDecision.outcome at houtcome
              split at houtcome
              · cases houtcome
                assumption
              · cases houtcome
              · cases houtcome
            · split
              · exact .inr rfl
              · exact .inl rfl

theorem kept_start {input : Datum} {trusted : TrustedExecutionState}
    {raw : RawSupervisorDependencies} {startedAt waitsAt : Int} {start : SupervisorRun}
    (h : startSupervisor input trusted raw startedAt waitsAt = .ok (context, start)) :
    Kept start := by
  have hlaunching : Kept ⟨.launching, false, .pending, false, .absent, none, []⟩ :=
    ⟨fun _ => .inl rfl, trivial, nofun⟩
  rcases (startSupervisor_ok h).2 with rfl | rfl
  · exact hlaunching
  · exact hlaunching.abandonLaunch rfl _

theorem kept_run {start : SupervisorRun} (h : Kept start) (events : List SupervisorEvent) :
    Kept (run (supervisorMachine runtime canonical context) start events) :=
  run_preserves (P := SupervisorRun.Kept) (fun _ event _ hs => kept_step hs event)
    (along_true _ start events) h

/-! ### Every handle is paid -/

theorem accounted_run {s : SupervisorRun} (h : s.Accounted) (events : List SupervisorEvent) :
    (run (supervisorMachine runtime canonical context) s events).Accounted :=
  run_preserves (P := SupervisorRun.Accounted) (fun s event _ => (extends_step s event).accounted)
    (along_true _ s events) h

theorem accounted_stopWithEscalation (s : SupervisorRun) (code : GuestSupervisorRunCode) :
    (s.stopWithEscalation context code).Accounted := by
  unfold SupervisorRun.stopWithEscalation
  split
  · exact accounted_of_mem (List.mem_append_right _ List.mem_cons_self)
  · exact accounted_of_mem (List.mem_append_right s.stops List.mem_cons_self)

theorem accounted_react_of_watched {s : SupervisorRun} {result : GuestSupervisorRunResult}
    (hphase : s.phase = .returned result) (hyielded : s.Yielded) (hwatched : s.watched = true)
    (now : Int) (trustedNow : Option ClockReading) :
    (s.react context canonical now trustedNow).Accounted := by
  obtain ⟨handle, hlaunch, hstops⟩ := hyielded
  simp only [SupervisorRun.react, hphase, hlaunch, hwatched, if_true]
  exact accounted_killLate rfl hstops

/-- Once the run has returned a yielded handle is paid, or the reaction that is queued pays. -/
theorem SupervisorRun.Kept.paid {s : SupervisorRun} (h : Kept s) {result : GuestSupervisorRunResult}
    (hphase : s.phase = .returned result) (hyielded : s.Yielded) :
    s.Accounted ∨ ∀ now trustedNow, (s.react context canonical now trustedNow).Accounted := by
  have hobliged := h.obliged
  unfold Obliged at hobliged
  rw [hphase] at hobliged
  rcases hobliged hyielded with haccounted | hwatched
  · exact .inl haccounted
  · exact .inr (accounted_react_of_watched hphase hyielded hwatched)

theorem readScannerIpcFrame_timeout (options : RawScannerIpcReadOptions) :
    ∃ code, readScannerIpcFrame (some [.timeout]) options = some (.error code) := by
  unfold readScannerIpcFrame
  cases options.snapshot with
  | none => exact ⟨_, rfl⟩
  | some context => exact ⟨_, rfl⟩

/-- The timers in the order in which they can be needed, and one reaction behind them. -/
def timersFire (readAt now : Int) (trustedNow : Option ClockReading) : List SupervisorEvent :=
  [.timer, .ipc (some [.timeout]) readAt, .timer, .react now trustedNow]

theorem SupervisorRun.Kept.paid_by_timers {s : SupervisorRun} (h : Kept s) (hyielded : s.Yielded)
    (readAt now : Int) (trustedNow : Option ClockReading) :
    (run (supervisorMachine runtime canonical context) s
      (timersFire readAt now trustedNow)).Accounted := by
  have hobliged := h.obliged
  unfold Obliged at hobliged
  cases hphase : s.phase with
  | launching =>
    have htimer : s.timer context = s.abandonLaunch .runTimeout := by
      simp only [SupervisorRun.timer, hphase]
    simp only [timersFire, run_cons, run_nil, supervisorMachine, supervisorStep, htimer]
    exact accounted_react_of_watched (s := s.abandonLaunch .runTimeout) rfl hyielded rfl now
      trustedNow
  | reading timeoutMs =>
    obtain ⟨code, hread⟩ := readScannerIpcFrame_timeout (readOptions context timeoutMs)
    have htimer : s.timer context = s := by simp only [SupervisorRun.timer, hphase]
    have hipc : s.ipc context (some [.timeout]) readAt =
        s.stopWithEscalation context (ipcFailure code) := by
      simp only [SupervisorRun.ipc, hphase, SupervisorRun.takeFrame, hread]
    rw [timersFire, run_cons, run_cons]
    simp only [supervisorMachine, supervisorStep, htimer, hipc]
    exact accounted_run (accounted_stopWithEscalation s _) _
  | exiting payload =>
    have htimer : s.timer context = s.stopWithEscalation context .runTimeout := by
      simp only [SupervisorRun.timer, hphase]
    rw [timersFire, run_cons]
    simp only [supervisorMachine, supervisorStep, htimer]
    exact accounted_run (accounted_stopWithEscalation s _) _
  | stopping code =>
    rw [hphase] at hobliged
    exact accounted_run hobliged _
  | signing result time =>
    rw [hphase] at hobliged
    exact accounted_run hobliged _
  | returned result =>
    rw [hphase] at hobliged
    rcases hobliged hyielded with haccounted | hwatched
    · exact accounted_run haccounted _
    · simp only [timersFire, run_cons, run_nil, supervisorMachine, supervisorStep,
        SupervisorRun.timer, hphase, SupervisorRun.ipc]
      exact accounted_react_of_watched hphase hyielded hwatched now trustedNow

theorem SupervisorRun.Kept.killed {s : SupervisorRun} (h : Kept s)
    (hterm : StopSignal.term ∈ s.stops) :
    StopSignal.kill ∈ s.stops ∨ s.exit.isSome = true ∨
      (∃ code, s.phase = .stopping code) ∧ StopSignal.kill ∈ (s.timer context).stops := by
  rcases h.escalated hterm with hkill | hexit | ⟨code, hphase⟩
  · exact .inl hkill
  · exact .inr (.inl hexit)
  · refine .inr (.inr ⟨⟨code, hphase⟩, ?_⟩)
    simp only [SupervisorRun.timer, hphase]
    exact List.mem_append_right _ List.mem_cons_self

/-! ### What a signed result rests on -/

def Framed (context : SupervisorContext) (events : List SupervisorEvent) (payload : List UInt8) :
    Prop :=
  ∃ chunks : List (List UInt8), ∃ rest now,
    SupervisorEvent.ipc (some (chunks.map .chunk ++ .done :: rest)) now ∈ events ∧
      IsScannerIpcFrame context.envelope.policy.budgets.maxOutputBytes payload chunks.flatten

def cleanExit : ScannerProcessExit := ⟨some 0, none⟩

def ExitedWell (events : List SupervisorEvent) : Prop :=
  ∃ value, SupervisorEvent.completed (.ok value) ∈ events ∧ snapshotExit value = some cleanExit

/-- The output of a clean run for the authorised target, to be signed before the deadline. -/
structure Signable (canonical : CanonicalProducer) (context : SupervisorContext)
    (events : List SupervisorEvent) (result : CanonicalGuestScannerResult) (now : Nat) : Prop where
  output : ∃ payload, Framed context events payload ∧
    canonical payload context.envelope.policy.budgets.maxOutputBytes = some result
  exited : ExitedWell events
  target : result.projection.canonicalHost = context.envelope.canonicalTarget
  positive : 0 < now
  inTime : now < context.envelope.hardDeadline

structure Earned (runtime : EnvelopeRuntime) (canonical : CanonicalProducer)
    (context : SupervisorContext) (events : List SupervisorEvent) (signed : SignedResultEnvelope)
    (projection : SanitizedGuestProjection) : Prop where
  signable : ∃ result now keyVersion key, Signable canonical context events result now ∧
    projection = result.projection ∧
    signResultEnvelope runtime (context.signingInput result)
      (context.signingContext now keyVersion key) = .ok signed

theorem Framed.append {events : List SupervisorEvent} {payload : List UInt8}
    (h : Framed context events payload) (later : List SupervisorEvent) :
    Framed context (events ++ later) payload := by
  obtain ⟨chunks, rest, now, hmem, hframe⟩ := h
  exact ⟨chunks, rest, now, List.mem_append_left _ hmem, hframe⟩

theorem ExitedWell.append {events : List SupervisorEvent} (h : ExitedWell events)
    (later : List SupervisorEvent) : ExitedWell (events ++ later) := by
  obtain ⟨value, hmem, hexit⟩ := h
  exact ⟨value, List.mem_append_left _ hmem, hexit⟩

theorem Signable.append {events : List SupervisorEvent} {result : CanonicalGuestScannerResult}
    {now : Nat} (h : Signable canonical context events result now)
    (later : List SupervisorEvent) : Signable canonical context (events ++ later) result now := by
  obtain ⟨payload, hframed, hcanonical⟩ := h.output
  exact ⟨⟨payload, hframed.append later, hcanonical⟩, h.exited.append later, h.target, h.positive,
    h.inTime⟩

def SupervisorPhase.Silent : SupervisorPhase → Prop
  | .exiting _ => False
  | .signing _ _ => False
  | .returned (.ok _ _) => False
  | _ => True

structure Told (runtime : EnvelopeRuntime) (canonical : CanonicalProducer)
    (context : SupervisorContext) (events : List SupervisorEvent) (s : SupervisorRun) : Prop where
  completion : ∀ completion, s.completion = .settled completion →
    ∃ outcome, SupervisorEvent.completed outcome ∈ events ∧
      completion = scannerProcessCompletion outcome
  phase : match s.phase with
    | .exiting payload => Framed context events payload
    | .signing result now => s.exit = some cleanExit ∧ Signable canonical context events result now
    | .returned (.ok signed projection) =>
      s.exit = some cleanExit ∧ Earned runtime canonical context events signed projection
    | _ => True

theorem SupervisorPhase.Silent.told {s s' : SupervisorRun} {events : List SupervisorEvent}
    (hsilent : s'.phase.Silent) (h : Told runtime canonical context events s)
    (hcompletion : s'.completion = s.completion) : Told runtime canonical context events s' := by
  refine ⟨fun completion hsettled => h.completion completion (hcompletion ▸ hsettled), ?_⟩
  cases hphase : s'.phase with
  | exiting payload =>
    rw [hphase] at hsilent
    exact hsilent.elim
  | signing result now =>
    rw [hphase] at hsilent
    exact hsilent.elim
  | returned result =>
    rw [hphase] at hsilent
    cases result with
    | ok signed projection => exact hsilent.elim
    | failed code => trivial
    | denied code => trivial
  | _ => trivial

theorem Told.append {s : SupervisorRun} {events : List SupervisorEvent}
    (h : Told runtime canonical context events s) (later : List SupervisorEvent) :
    Told runtime canonical context (events ++ later) s := by
  refine ⟨fun completion hsettled => ?_, ?_⟩
  · obtain ⟨outcome, hmem, heq⟩ := h.completion completion hsettled
    exact ⟨outcome, List.mem_append_left _ hmem, heq⟩
  · have hphase := h.phase
    split at hphase
    · exact hphase.append later
    · exact ⟨hphase.1, hphase.2.append later⟩
    · obtain ⟨hexit, result, now, keyVersion, key, hsignable, hrest⟩ := hphase
      exact ⟨hexit, result, now, keyVersion, key, hsignable.append later, hrest⟩
    · trivial

theorem maxPayloadBytes_of_snapshot {timeoutMs : Int} {options : ScannerIpcReadOptions}
    (h : (readOptions context timeoutMs).snapshot = some options) :
    options.maxPayloadBytes = context.envelope.policy.budgets.maxOutputBytes := by
  unfold RawScannerIpcReadOptions.snapshot at h
  split at h
  · rename_i maximum _ hmaximum _
    split at h
    · cases h
      simp only [readOptions, validLimit] at hmaximum
      split at hmaximum
      · cases hmaximum
        exact Int.toNat_natCast _
      · cases hmaximum
    · cases h
  · cases h

theorem signingTime_ok {trustedNow : Option ClockReading} {now : Nat}
    (h : signingTime context trustedNow = .ok now) :
    0 < now ∧ now < context.envelope.hardDeadline := by
  unfold signingTime at h
  split at h
  · cases h
  · cases h
  · split at h
    · cases h
      omega
    · cases h

namespace SupervisorRun

variable {s : SupervisorRun} {events : List SupervisorEvent}

theorem told_stopWithEscalation (h : Told runtime canonical context events s)
    (code : GuestSupervisorRunCode) :
    Told runtime canonical context events (s.stopWithEscalation context code) := by
  unfold stopWithEscalation
  split
  · exact SupervisorPhase.Silent.told trivial h rfl
  · exact SupervisorPhase.Silent.told trivial h rfl

theorem told_killLate (h : Told runtime canonical context events s) (outcome : LaunchOutcome) :
    Told runtime canonical context events (s.killLate outcome) := by
  unfold killLate
  split
  · exact ⟨h.completion, h.phase⟩
  · split
    · exact ⟨h.completion, h.phase⟩
    · exact ⟨h.completion, h.phase⟩

theorem told_takeLaunch (h : Told runtime canonical context events s) (outcome : LaunchOutcome)
    (now : Int) : Told runtime canonical context events (s.takeLaunch context outcome now) := by
  unfold takeLaunch
  split
  · exact SupervisorPhase.Silent.told trivial h rfl
  · split
    · exact SupervisorPhase.Silent.told trivial h rfl
    · dsimp only
      split
      · unfold stopWithEscalation
        split
        · exact ⟨nofun, trivial⟩
        · exact ⟨nofun, trivial⟩
      · exact ⟨nofun, trivial⟩

theorem told_takeFrame (h : Told runtime canonical context events s)
    {source : Option (List NextResult)} {readAt : Int}
    (hevent : SupervisorEvent.ipc source readAt ∈ events) (timeoutMs now : Int) :
    Told runtime canonical context events (s.takeFrame context timeoutMs source now) := by
  unfold takeFrame
  split
  · exact h
  · exact told_stopWithEscalation h _
  · rename_i payload hread
    obtain ⟨options, chunks, rest, hoptions, rfl, hframe⟩ := readScannerIpcFrame_ok hread
    have hmaximum := maxPayloadBytes_of_snapshot hoptions
    unfold awaitExit
    split
    · exact told_stopWithEscalation h _
    · split
      · exact told_stopWithEscalation h _
      · exact ⟨h.completion, chunks, rest, readAt, hevent, hmaximum ▸ hframe⟩

theorem told_takeExit (h : Told runtime canonical context events s) {payload : List UInt8}
    (hphase : s.phase = .exiting payload) {completion : ScannerProcessCompletion}
    (hcompletion : s.completion = .settled completion) (trustedNow : Option ClockReading) :
    Told runtime canonical context events
      (s.takeExit context canonical payload completion trustedNow) := by
  unfold takeExit
  split
  · exact told_stopWithEscalation h _
  · rename_i exit
    dsimp only
    split
    · exact SupervisorPhase.Silent.told trivial h rfl
    · rename_i hclean
      simp only [not_or, not_not] at hclean
      have hexit : exit = cleanExit := by
        cases exit
        rw [cleanExit]
        congr 1
        · exact hclean.1
        · exact hclean.2
      have hframed : Framed context events payload := by
        have hwaits := h.phase
        rwa [hphase] at hwaits
      obtain ⟨outcome, hevent, hsame⟩ := h.completion _ hcompletion
      have hexited : ExitedWell events := by
        unfold scannerProcessCompletion at hsame
        split at hsame
        · cases hsame
        · rename_i value
          cases hsnapshot : snapshotExit value with
          | none =>
            rw [hsnapshot] at hsame
            cases hsame
          | some found =>
            rw [hsnapshot] at hsame
            cases hsame
            exact ⟨value, hevent, hsnapshot.trans (congrArg some hexit)⟩
      unfold takeOutput
      split
      · exact SupervisorPhase.Silent.told trivial h rfl
      · rename_i result hresult
        split
        · exact SupervisorPhase.Silent.told trivial h rfl
        · rename_i htarget
          split
          · exact SupervisorPhase.Silent.told trivial h rfl
          · rename_i now htime
            obtain ⟨hpositive, hinTime⟩ := signingTime_ok htime
            exact ⟨h.completion, congrArg some hexit, ⟨payload, hframed, hresult⟩, hexited,
              not_not.mp htarget, hpositive, hinTime⟩

theorem told_endGrace (h : Told runtime canonical context events s) (code : GuestSupervisorRunCode)
    (completion : ScannerProcessCompletion) :
    Told runtime canonical context events (s.endGrace code completion) := by
  unfold endGrace
  split
  · exact SupervisorPhase.Silent.told trivial h rfl
  · exact SupervisorPhase.Silent.told trivial h rfl

theorem told_takeKey (h : Told runtime canonical context events s)
    {result : CanonicalGuestScannerResult} {now : Nat} (hphase : s.phase = .signing result now)
    (value : Except Unit (Value Scalar)) :
    Told runtime canonical context events (s.takeKey runtime context result now value) := by
  unfold takeKey
  split
  · exact SupervisorPhase.Silent.told trivial h rfl
  · split
    · exact SupervisorPhase.Silent.told trivial h rfl
    · rename_i keyVersion key _
      split
      · exact SupervisorPhase.Silent.told trivial h rfl
      · rename_i signed hsigned
        have hsigning := h.phase
        rw [hphase] at hsigning
        obtain ⟨hexit, hsignable⟩ := hsigning
        exact ⟨h.completion, hexit, result, now, keyVersion, key, hsignable, rfl, hsigned⟩

theorem told_react (h : Told runtime canonical context events s) (now : Int)
    (trustedNow : Option ClockReading) :
    Told runtime canonical context events (s.react context canonical now trustedNow) := by
  unfold react
  split
  · exact told_takeLaunch h _ _
  · rename_i payload completion hphase hcompletion
    exact told_takeExit h hphase hcompletion _
  · exact told_endGrace h _ _
  · split
    · exact told_killLate h _
    · exact h
  · exact h

theorem told_abort (h : Told runtime canonical context events s) :
    Told runtime canonical context events (s.abort context) := by
  have haborted : Told runtime canonical context events { s with aborted := true } :=
    ⟨h.completion, h.phase⟩
  unfold abort
  split
  · exact SupervisorPhase.Silent.told trivial h rfl
  · exact told_stopWithEscalation haborted _
  · exact haborted

theorem told_timer (h : Told runtime canonical context events s) :
    Told runtime canonical context events (s.timer context) := by
  unfold timer
  split
  · exact SupervisorPhase.Silent.told trivial h rfl
  · exact told_stopWithEscalation h _
  · exact SupervisorPhase.Silent.told trivial h rfl
  · exact h

theorem told_settleLaunch (h : Told runtime canonical context events s) (outcome : LaunchOutcome) :
    Told runtime canonical context events (s.settleLaunch outcome) := by
  unfold settleLaunch
  split
  · exact ⟨h.completion, h.phase⟩
  · exact h

theorem told_settleCompletion (h : Told runtime canonical context events s)
    {outcome : Except Unit Datum} (hevent : SupervisorEvent.completed outcome ∈ events) :
    Told runtime canonical context events (s.settleCompletion outcome) := by
  unfold settleCompletion
  split
  · refine ⟨fun completion hsettled => ?_, h.phase⟩
    cases hsettled
    exact ⟨outcome, hevent, rfl⟩
  · exact h

end SupervisorRun

theorem told_step {s : SupervisorRun} {events : List SupervisorEvent}
    (h : Told runtime canonical context events s) (event : SupervisorEvent) :
    Told runtime canonical context (events ++ [event])
      (supervisorStep runtime canonical context s event) := by
  have hlater := h.append [event]
  have hmem : event ∈ events ++ [event] := List.mem_append_right _ List.mem_cons_self
  cases event with
  | launched outcome => exact told_settleLaunch hlater outcome
  | completed outcome => exact told_settleCompletion hlater hmem
  | abort =>
    rw [supervisorStep]
    split
    · exact hlater
    · exact told_abort hlater
  | react now trustedNow => exact told_react hlater now trustedNow
  | timer => exact told_timer hlater
  | ipc source now =>
    rw [supervisorStep, SupervisorRun.ipc]
    split
    · exact told_takeFrame hlater hmem _ _
    · exact hlater
  | key value =>
    rw [supervisorStep, SupervisorRun.key]
    split
    · rename_i hphase
      exact told_takeKey hlater hphase _
    · exact hlater

theorem told_run {start : SupervisorRun} (h : Told runtime canonical context [] start)
    (events : List SupervisorEvent) :
    Told runtime canonical context events
      (run (supervisorMachine runtime canonical context) start events) :=
  history_induction (supervisorMachine runtime canonical context)
    (P := fun events _ s => Told runtime canonical context events s) h
    (fun _ _ _ event hs => told_step hs event) events

theorem told_start {input : Datum} {trusted : TrustedExecutionState}
    {raw : RawSupervisorDependencies} {startedAt waitsAt : Int} {start : SupervisorRun}
    (h : startSupervisor input trusted raw startedAt waitsAt = .ok (context, start)) :
    Told runtime canonical context [] start := by
  rcases (startSupervisor_ok h).2 with rfl | rfl
  · exact ⟨nofun, trivial⟩
  · exact ⟨nofun, trivial⟩

theorem startSupervisor_error {input : Datum} {trusted : TrustedExecutionState}
    {raw : RawSupervisorDependencies} {startedAt waitsAt : Int} {signed : SignedResultEnvelope}
    {projection : SanitizedGuestProjection} :
    startSupervisor input trusted raw startedAt waitsAt ≠ .error (.ok signed projection) := by
  unfold startSupervisor
  intro h
  split at h
  · cases h
  · split at h
    · cases h
    · split at h
      · cases h
      · dsimp only at h
        split at h
        · cases h
        · split at h
          · cases h
          · cases h

/-- No scanner is left running, whatever the order of events. Once the run has returned, a handle
that the launcher yields has been stopped or its exit was seen, or the queued reaction does it; the
timers alone bring that about. Termination is followed by a kill. And what is signed rests on a
whole frame, a clean exit, a canonical output for the authorised target and a time before the
deadline. -/
theorem no_scanner_left_running (runtime : EnvelopeRuntime) (canonical : CanonicalProducer)
    (input : Datum) (trusted : TrustedExecutionState) (raw : RawSupervisorDependencies)
    (startedAt waitsAt : Int) :
    (∀ signed projection,
      startSupervisor input trusted raw startedAt waitsAt ≠ .error (.ok signed projection)) ∧
    ∀ context start, startSupervisor input trusted raw startedAt waitsAt = .ok (context, start) →
      authorizeSupervisorExecution input trusted = .allowed context.envelope ∧
      ∀ events,
        let s := run (supervisorMachine runtime canonical context) start events
        (∀ result, s.phase = .returned result → s.Yielded →
          s.Accounted ∨ ∀ now trustedNow, (s.react context canonical now trustedNow).Accounted) ∧
        (s.Yielded → ∀ readAt now trustedNow,
          (run (supervisorMachine runtime canonical context) s
            (timersFire readAt now trustedNow)).Accounted) ∧
        (StopSignal.term ∈ s.stops → StopSignal.kill ∈ s.stops ∨ s.exit.isSome = true ∨
          (∃ code, s.phase = .stopping code) ∧ StopSignal.kill ∈ (s.timer context).stops) ∧
        ∀ signed projection, s.phase = .returned (.ok signed projection) →
          s.exit = some cleanExit ∧
            Earned runtime canonical context events signed projection := by
  refine ⟨fun _ _ => startSupervisor_error, fun context start hstart => ?_⟩
  refine ⟨(startSupervisor_ok hstart).1, fun events => ?_⟩
  have hkept : Kept (run (supervisorMachine runtime canonical context) start events) :=
    kept_run (kept_start hstart) events
  have htold : Told runtime canonical context events
      (run (supervisorMachine runtime canonical context) start events) :=
    told_run (told_start hstart) events
  refine ⟨fun result hphase hyielded => hkept.paid hphase hyielded, fun hyielded => ?_, hkept.killed,
    fun signed projection hphase => ?_⟩
  · exact hkept.paid_by_timers hyielded
  · have hreturned := htold.phase
    rwa [hphase] at hreturned

def sampleApproval : ScannerTemplateApproval := ⟨"approval-1", .approved, sampleArtifact.datum⟩

def sampleSupervisorContext : SupervisorContext :=
  ⟨{ sampleLease.execution sampleArtifact with policy := guestSafePolicy }, 2000, 30000⟩

theorem startSupervisor_sample :
    startSupervisor (sampleLease.envelope sampleApproval) (sampleLease.trusted 1006 sampleApproval)
        ⟨true, true, true, some false, some 2000⟩ 0 0 =
      .ok (sampleSupervisorContext, ⟨.launching, false, .pending, false, .absent, none, []⟩) := by
  have hacquired : (acquire "scan-1" (some "attempt-1") (some 1001) sampleCreated).1 =
      .leaseAcquired sampleLease := by decide +kernel
  have hallowed : authorizeSupervisorExecution (sampleLease.envelope sampleApproval)
      (sampleLease.trusted 1006 sampleApproval) = .allowed sampleSupervisorContext.envelope :=
    authorize_lease (acquire_wellFormed sampleCreated_reachable hacquired) rfl ⟨rfl, rfl, rfl⟩ rfl
      (by decide) (by decide)
  unfold startSupervisor
  rw [hallowed]
  rfl

/-- The launch comes after the abort; once its handler has run the scanner is accounted for. -/
theorem no_scanner_left_running_sample :
    (run (supervisorMachine ⟨sampleNode, fun _ => Bytes32.fill 0⟩ (fun _ _ => none)
        sampleSupervisorContext)
      ⟨.launching, false, .pending, false, .absent, none, []⟩
      [.abort, .launched (.ok (some ⟨true, true, true⟩)), .timer, .ipc (some [.timeout]) 0, .timer,
        .react 0 none]).Accounted :=
  (((no_scanner_left_running _ _ _ _ _ _ _).2 _ _ startSupervisor_sample).2
    [.abort, .launched (.ok (some ⟨true, true, true⟩))]).2.1 ⟨⟨true, true, true⟩, rfl, rfl⟩ 0 0 none

end Outscan
