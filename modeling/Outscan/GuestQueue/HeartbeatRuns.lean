import Outscan.GuestQueue.Standing

/-! Runs of the heartbeat: when the renewals of an undisturbed run are all
granted. -/
namespace Outscan

open Relational Transactional Lifecycle

/-- The worker still holds its lease. `pending` is the second in which the
renewal under way was issued. -/
structure Alive (w : HeartbeatWorld) (pending : Option Nat) : Prop where
  sound : Sound w.database.val
  kept : w.run.heartbeatLost = false ∧ w.run.aborted = false
  version : w.run.currentLease.leaseVersion ≤ w.run.currentLease.leaseExpiresAt
  heartbeat : w.run.heartbeat =
    pending.map fun now => (leaseCommand w.run.currentLease, some (now : Int))
  issued : ∀ now ∈ pending, now ≤ unixSeconds w.ms
  ahead : ∀ now ∈ pending, now < w.run.currentLease.leaseExpiresAt ∧
    now < w.run.currentLease.hardDeadline
  rows : ∃ g current, w.database.val.aggregate? w.run.currentLease.guestScanId = some g ∧
    Standing w.run.currentLease current g ∧ current.attemptState = .running ∧
    current.updatedAt ≤ unixSeconds w.ms ∧ ∀ now ∈ pending, current.updatedAt ≤ now

theorem eachExtends_cons {lease : GuestAttemptLease} {now : Nat} {rest : List Nat} :
    EachExtends lease (now :: rest) ↔
      lease.leaseExpiresAt < (lease.renewed now).leaseExpiresAt ∧
        EachExtends (lease.renewed now) rest :=
  List.isChain_cons_cons

theorem next_lost {node : NodeRuntime} {w : HeartbeatWorld} (h : w.run.heartbeatLost = true)
    (input : HeartbeatInput) : (w.next node input).run.heartbeatLost = true := by
  obtain ⟨ms, event⟩ := input
  cases event with
  | fire =>
    change (w.run.fire ms).heartbeatLost = true
    unfold HeartbeatRun.fire
    split <;> exact h
  | answered =>
    change ({ w with ms } : HeartbeatWorld).answered.run.heartbeatLost = true
    unfold HeartbeatWorld.answered
    split
    · exact h
    · dsimp only
      unfold HeartbeatRun.answered
      split
      · exact h
      · rfl
  | rejected =>
    change ({ w with ms } : HeartbeatWorld).rejected.run.heartbeatLost = true
    unfold HeartbeatWorld.rejected
    split
    · exact h
    · rfl
  | resolved => exact h
  | service call => exact h

theorem run_lost {node : NodeRuntime} {w : HeartbeatWorld} (h : w.run.heartbeatLost = true)
    (inputs : List HeartbeatInput) :
    (Machine.run (heartbeatStep node) w inputs).run.heartbeatLost = true :=
  Machine.run_preserves (P := fun w => w.run.heartbeatLost = true)
    (fun _ input _ h => next_lost h input) (Machine.along_true (heartbeatStep node) w inputs) h

section Steps

variable {node : NodeRuntime} {w : HeartbeatWorld} {pending : Option Nat} {intervalMs ms : Nat}

theorem unixSeconds_mono {ms later : Nat} (h : ms ≤ later) : unixSeconds ms ≤ unixSeconds later :=
  Nat.div_le_div_right h

theorem Alive.at (h : Alive w pending) (hlater : w.ms ≤ ms) : Alive { w with ms } pending := by
  obtain ⟨g, current, hg, hstanding, hrunning, hupdated, hpending⟩ := h.rows
  exact { h with
    issued := fun now hnow => (h.issued now hnow).trans (unixSeconds_mono hlater)
    rows := ⟨g, current, hg, hstanding, hrunning, hupdated.trans (unixSeconds_mono hlater),
      hpending⟩ }

theorem HeartbeatRun.fire_of_pending {run : HeartbeatRun} {renewal : LeaseCommand × ClockReading}
    (h : run.heartbeat = some renewal) : run.fire ms = run := by
  simp [HeartbeatRun.fire, h]

theorem Alive.fire (h : Alive w pending) (hinput : Undisturbed intervalMs w ⟨ms, .fire⟩) :
    Alive (w.next node ⟨ms, .fire⟩)
      (pending.or (if w.run.timer then some (unixSeconds ms) else none)) ∧
    (w.next node ⟨ms, .fire⟩).run.currentLease = w.run.currentLease ∧
    (w.next node ⟨ms, .fire⟩).run.timer = w.run.timer := by
  have hpassed := h.at hinput.later
  obtain ⟨-, hlease, hdeadline⟩ := hinput.fire rfl
  change Alive { w with ms, firedMs := ms, run := w.run.fire ms } _ ∧
    (w.run.fire ms).currentLease = _ ∧ (w.run.fire ms).timer = _
  cases pending with
  | some now =>
    rw [HeartbeatRun.fire_of_pending h.heartbeat, Option.some_or]
    exact ⟨{ hpassed with }, rfl, rfl⟩
  | none =>
    rw [Option.none_or]
    have hidle : w.run.heartbeat = none := h.heartbeat
    cases htimer : w.run.timer with
    | false =>
      have hfire : w.run.fire ms = w.run := by simp [HeartbeatRun.fire, htimer]
      rw [hfire]
      exact ⟨{ hpassed with }, rfl, htimer⟩
    | true =>
      have hfire : w.run.fire ms = { w.run with
          heartbeat := some (leaseCommand w.run.currentLease, some (unixSeconds ms)) } := by
        simp [HeartbeatRun.fire, htimer, hidle, h.kept.2]
      obtain ⟨g, current, hg, hstanding, hrunning, hupdated, -⟩ := hpassed.rows
      rw [hfire, if_pos rfl]
      refine ⟨?_, rfl, htimer⟩
      exact {
        sound := h.sound
        kept := h.kept
        version := h.version
        heartbeat := rfl
        issued := fun now hnow => (Option.mem_some_iff.mp hnow).ge
        ahead := fun now hnow => Option.mem_some_iff.mp hnow ▸ ⟨hlease, hdeadline⟩
        rows := ⟨g, current, hg, hstanding, hrunning, hupdated,
          fun now hnow => Option.mem_some_iff.mp hnow ▸ hupdated⟩ }

theorem Alive.service (h : Alive w pending) {call : Call}
    (hinput : Undisturbed intervalMs w ⟨ms, .service call⟩) :
    Alive (w.next node ⟨ms, .service call⟩) pending := by
  obtain ⟨g, current, hg, hstanding, hrunning, hupdated, hpending⟩ := (h.at hinput.later).rows
  exact {
    sound := exec_sound node h.sound call
    kept := h.kept
    version := h.version
    heartbeat := h.heartbeat
    issued := (h.at hinput.later).issued
    ahead := h.ahead
    rows := ⟨g, current, hstanding.spared h.sound hg hinput.spares, hstanding, hrunning, hupdated,
      hpending⟩ }

theorem Alive.answered (node : NodeRuntime) {now : Nat} (h : Alive w (some now))
    (hinput : Undisturbed intervalMs w ⟨ms, .answered⟩) :
    if w.run.currentLease.leaseExpiresAt < (w.run.currentLease.renewed now).leaseExpiresAt then
      Alive (w.next node ⟨ms, .answered⟩) none ∧
        (w.next node ⟨ms, .answered⟩).run.currentLease = w.run.currentLease.renewed now ∧
        (w.next node ⟨ms, .answered⟩).run.timer = w.run.timer
    else (w.next node ⟨ms, .answered⟩).run.heartbeatLost = true := by
  obtain ⟨g, current, hg, hstanding, hrunning, -, hpending⟩ := h.rows
  obtain ⟨hlease, hdeadline⟩ := h.ahead now rfl
  have hupdated := hpending now rfl
  have hrenew := hstanding.renew h.sound hg hrunning h.version hupdated hlease hdeadline
  have hheartbeat : w.run.heartbeat =
      some (leaseCommand w.run.currentLease, some (now : Int)) := h.heartbeat
  have hnext : w.next node ⟨ms, .answered⟩ =
      { w with
        ms
        database := (renew (leaseCommand w.run.currentLease) (some (now : Int)) w.database).2
        run := w.run.answered
          (renew (leaseCommand w.run.currentLease) (some (now : Int)) w.database).1 } := by
    change ({ w with ms } : HeartbeatWorld).answered = _
    unfold HeartbeatWorld.answered
    simp only [hheartbeat]
  split at hrenew
  · rename_i hextends
    obtain ⟨db', g', heq, hg', hstanding'⟩ := hrenew
    have hsound : Sound db'.val := by
      have hexec := exec_sound node h.sound
        (.renew (leaseCommand w.run.currentLease) (some (now : Int)))
      change Sound (renew _ _ w.database).2.val at hexec
      rw [heq] at hexec
      exact hexec
    rw [if_pos hextends, hnext, heq]
    have hlonger : w.run.currentLease.leaseVersion + 1 ≤
        (w.run.currentLease.renewed now).leaseExpiresAt := by
      have hversion := h.version
      omega
    exact ⟨{
      sound := hsound
      kept := h.kept
      version := hlonger
      heartbeat := rfl
      issued := fun _ hnow => nomatch hnow
      ahead := fun _ hnow => nomatch hnow
      rows := ⟨g', _, hg', hstanding', hrunning,
        (h.issued now rfl).trans (unixSeconds_mono hinput.later), fun _ hnow => nomatch hnow⟩ },
      rfl, rfl⟩
  · rename_i hshort
    rw [if_neg hshort, hnext, hrenew]
    rfl

/-- The renewals of an undisturbed run are granted exactly when each asks for a
later expiry than the one before. -/
theorem Alive.run (h : Alive w pending) {inputs : List HeartbeatInput}
    (hinputs : Machine.Along (heartbeatStep node) (Undisturbed intervalMs) w inputs) :
    if EachExtends w.run.currentLease (renewedAt pending w.run.timer inputs) then
      ∃ pending', Alive (Machine.run (heartbeatStep node) w inputs) pending'
    else (Machine.run (heartbeatStep node) w inputs).run.heartbeatLost = true := by
  induction inputs generalizing w pending with
  | nil =>
    have heach : EachExtends w.run.currentLease (renewedAt pending w.run.timer []) := .singleton _
    rw [if_pos heach]
    exact ⟨pending, h⟩
  | cons input rest ih =>
    obtain ⟨ms, event⟩ := input
    obtain ⟨hinput, hrest⟩ := hinputs
    change Machine.Along (heartbeatStep node) (Undisturbed intervalMs) (w.next node _) rest at hrest
    rw [Machine.run_cons]
    cases event with
    | fire =>
      obtain ⟨hnext, hlease, htimer⟩ := h.fire hinput
      have hrun := ih hnext hrest
      rw [hlease, htimer] at hrun
      cases pending with
      | none => exact hrun
      | some now => exact hrun
    | answered =>
      cases pending with
      | none =>
        have hidle : w.next node ⟨ms, .answered⟩ = { w with ms } := by
          change ({ w with ms } : HeartbeatWorld).answered = _
          unfold HeartbeatWorld.answered
          simp only [show w.run.heartbeat = none from h.heartbeat]
        rw [hidle] at hrest
        rw [show (heartbeatStep node w ⟨ms, .answered⟩).2 = { w with ms } from hidle]
        exact ih (h.at hinput.later) hrest
      | some now =>
        have hanswered := h.answered node hinput
        change if EachExtends w.run.currentLease (now :: renewedAt none w.run.timer rest) then _
          else _
        split at hanswered
        · rename_i hextends
          obtain ⟨hnext, hlease, htimer⟩ := hanswered
          have hrun := ih hnext hrest
          rw [hlease, htimer] at hrun
          simp only [eachExtends_cons, hextends, true_and]
          exact hrun
        · rename_i hshort
          rw [if_neg (fun heach => hshort (eachExtends_cons.mp heach).1)]
          exact run_lost hanswered rest
    | rejected => exact hinput.spares.elim
    | resolved =>
      have hnext : Alive (w.next node ⟨ms, .resolved⟩) pending := { h.at hinput.later with }
      have hrun := ih hnext hrest
      cases pending with
      | none => exact hrun
      | some now => exact hrun
    | service call =>
      have hrun := ih (h.service hinput) hrest
      cases pending with
      | none => exact hrun
      | some now => exact hrun

end Steps

/-- The world in which `runWithHeartbeat` begins: the worker acquired the scan,
other parties may have acted, and the worker started its attempt at `startMs`. -/
def heartbeatStart (node : NodeRuntime) (acquired : Database) (between : List Call)
    (lease : GuestAttemptLease) (startMs : Nat) : HeartbeatWorld :=
  .initial (start (leaseCommand lease) (some (unixSeconds startMs : Int))
    (Machine.run (exec node) acquired between)).2 lease startMs

/-- An undisturbed run keeps its heartbeat exactly when each renewal asks for a
later expiry than the lease has by then. It does not if two renewals fall in the
same second, or if one follows a renewal that has already reached the hard
deadline. -/
theorem heartbeat_kept_iff {node : NodeRuntime} {db : Database} (hreach : Reachable node db)
    {guestScanId : String} {createAttemptId : Option String} {clock : ClockReading}
    {lease : GuestAttemptLease}
    (hacquired : (acquire guestScanId createAttemptId clock db).1 = .leaseAcquired lease)
    {between : List Call}
    (hbetween : Machine.Along (exec node) (fun _ call => call.Spares lease)
      (acquire guestScanId createAttemptId clock db).2 between)
    {startMs : Nat}
    (hstarted : (start (leaseCommand lease) (some (unixSeconds startMs : Int))
      (Machine.run (exec node) (acquire guestScanId createAttemptId clock db).2 between)).1.ok =
        true)
    {intervalMs : Nat} {inputs : List HeartbeatInput}
    (hinputs : Machine.Along (heartbeatStep node) (Undisturbed intervalMs)
      (heartbeatStart node (acquire guestScanId createAttemptId clock db).2 between lease startMs)
      inputs) :
    let w := Machine.run (heartbeatStep node)
      (heartbeatStart node (acquire guestScanId createAttemptId clock db).2 between lease startMs)
      inputs
    (w.run.heartbeatLost = false ∧ w.run.aborted = false) ↔
      EachExtends lease (renewedAt none true inputs) := by
  obtain ⟨g, current, hg, hstanding, hleased, hversion⟩ := acquire_standing hreach.sound hacquired
  have hsound : Sound (acquire guestScanId createAttemptId clock db).2.val :=
    exec_sound node hreach.sound (.acquire guestScanId createAttemptId clock)
  -- other parties leave the rows alone until the start
  obtain ⟨hsound, hg⟩ := Machine.run_preserves
    (P := fun db => Sound db.val ∧ db.val.aggregate? lease.guestScanId = some g)
    (fun db call hspares ⟨hsound, hg⟩ =>
      ⟨exec_sound node hsound call, hstanding.spared hsound hg hspares⟩)
    hbetween ⟨hsound, hg⟩
  obtain ⟨g', hg', hstanding'⟩ := hstanding.start hsound hg hleased hstarted
  have hexpiry : 1 ≤ lease.leaseExpiresAt := by
    have hcheck := Tables.attempt_check_of_aggregate? hg hstanding.mem
    have hafter := (hcheck.time.lease _ (hstanding.expiry hcheck)).1
    omega
  have halive : Alive (heartbeatStart node (acquire guestScanId createAttemptId clock db).2 between
      lease startMs) none := {
    sound := exec_sound node hsound (.start (leaseCommand lease) (some (unixSeconds startMs : Int)))
    kept := ⟨rfl, rfl⟩
    version := hversion.trans_le hexpiry
    heartbeat := rfl
    issued := fun _ hnow => nomatch hnow
    ahead := fun _ hnow => nomatch hnow
    rows := ⟨g', _, hg', hstanding', rfl, le_rfl, fun _ hnow => nomatch hnow⟩ }
  have hrun := halive.run hinputs
  dsimp only
  change if EachExtends lease (renewedAt none true inputs) then _ else _ at hrun
  split at hrun
  · rename_i heach
    obtain ⟨pending, hkept⟩ := hrun
    exact iff_of_true hkept.kept heach
  · rename_i heach
    exact iff_of_false (fun hkept => by rw [hrun] at hkept; cases hkept.1) heach

/-- The timer fires five seconds after the start and every five seconds from then
on, and each renewal is answered a tenth of a second later. -/
def sampleFirings (count : Nat) : List HeartbeatInput :=
  (List.range count).flatMap fun k =>
    [⟨1007000 + 5000 * k, .fire⟩, ⟨1007100 + 5000 * k, .answered⟩]

def sampleStart : HeartbeatWorld :=
  heartbeatStart sampleNode (acquire "scan-1" (some "attempt-1") (some 1001) sampleCreated).2 []
    sampleLease 1002000

/-- The first six renewals at the default interval. -/
theorem heartbeat_kept_iff_sample :
    (Machine.run (heartbeatStep sampleNode) sampleStart (sampleFirings 6)).run.heartbeatLost =
      false := by
  rw [sampleStart]
  have hacquired : (acquire "scan-1" (some "attempt-1") (some 1001) sampleCreated).1 =
      .leaseAcquired sampleLease := by decide +kernel
  have hstarted : (start (leaseCommand sampleLease) (some (unixSeconds 1002000 : Int))
      (Machine.run (exec sampleNode)
        (acquire "scan-1" (some "attempt-1") (some 1001) sampleCreated).2 [])).1.ok = true := by
    decide +kernel
  have hinputs : Machine.Along (heartbeatStep sampleNode)
      (Undisturbed guestQueueHeartbeatIntervalMs)
      (heartbeatStart sampleNode
        (acquire "scan-1" (some "attempt-1") (some 1001) sampleCreated).2 [] sampleLease 1002000)
      (sampleFirings 6) := by decide +kernel
  have hbetween : Machine.Along (exec sampleNode) (fun _ call => call.Spares sampleLease)
      (acquire "scan-1" (some "attempt-1") (some 1001) sampleCreated).2 [] := trivial
  have heach : EachExtends sampleLease (renewedAt none true (sampleFirings 6)) := by
    decide +kernel
  exact ((heartbeat_kept_iff sampleCreated_reachable hacquired hbetween hstarted hinputs).mpr
    heach).1

/-- At the default interval six renewals are granted, the last of them up to the
hard deadline. The seventh firing, nine seconds before that deadline, ends the
run. -/
theorem heartbeat_lost_by_default :
    Reachable sampleNode sampleCreated ∧ heartbeatInterval .undefined = some 5000 ∧
    (acquire "scan-1" (some "attempt-1") (some 1001) sampleCreated).1 =
      .leaseAcquired sampleLease ∧
    (start (leaseCommand sampleLease) (some (unixSeconds 1002000 : Int))
      (acquire "scan-1" (some "attempt-1") (some 1001) sampleCreated).2).1 = .started ∧
    Machine.Along (heartbeatStep sampleNode) (Undisturbed 5000) sampleStart (sampleFirings 7) ∧
    (Machine.run (heartbeatStep sampleNode) sampleStart (sampleFirings 6)).run.heartbeatLost =
      false ∧
    (Machine.run (heartbeatStep sampleNode) sampleStart (sampleFirings 7)).run.heartbeatLost =
      true :=
  ⟨sampleCreated_reachable, by decide +kernel⟩

end Outscan
