import Mathlib.Algebra.Ring.Nat
import Mathlib.Data.List.Chain
import Outscan.GuestTelemetry.Runtime

/-! No outcome is lost or counted twice. The calls of `record` are cut into
consecutive stretches, one for each batch ever made and one for the counters
that are still open. -/
namespace Outscan

/-- The counters are the tally of a stretch of calls: a refused call found its
counter at the maximum, and then the stretch is marked. -/
structure Tallies (counts : GuestQueueOutcomeCounts) (saturated : Bool)
    (calls : List (GuestQueueOutcome × Bool)) : Prop where
  count : ∀ outcome, counts outcome = calls.count (outcome, true)
  full : ∀ outcome, (outcome, false) ∈ calls → counts outcome = guestQueueMaxOutcomeCount
  saturated : saturated = true ↔ ∃ outcome, (outcome, false) ∈ calls

theorem Tallies.empty : Tallies emptyGuestQueueOutcomeCounts false [] where
  count _ := rfl
  full _ h := nomatch h
  saturated := by simp

theorem Tallies.append_counted {counts : GuestQueueOutcomeCounts} {saturated : Bool}
    {calls : List (GuestQueueOutcome × Bool)} (h : Tallies counts saturated calls)
    {outcome : GuestQueueOutcome} (hroom : counts outcome ≠ guestQueueMaxOutcomeCount) :
    Tallies (fun other => if other = outcome then counts other + 1 else counts other) saturated
      (calls ++ [(outcome, true)]) where
  count other := by
    rw [List.count_append, List.count_singleton, ← h.count other]
    by_cases hother : other = outcome
    · simp [hother]
    · have hne : ¬ outcome = other := fun heq => hother heq.symm
      simp [hother, hne]
  full other hmem := by
    have hcalls : (other, false) ∈ calls := by simpa using hmem
    have hfull := h.full other hcalls
    by_cases hother : other = outcome
    · rw [hother] at hfull
      exact absurd hfull hroom
    · rw [if_neg hother]
      exact hfull
  saturated := by simpa using h.saturated

theorem Tallies.append_refused {counts : GuestQueueOutcomeCounts} {saturated : Bool}
    {calls : List (GuestQueueOutcome × Bool)} (h : Tallies counts saturated calls)
    {outcome : GuestQueueOutcome} (hfull : counts outcome = guestQueueMaxOutcomeCount) :
    Tallies counts true (calls ++ [(outcome, false)]) where
  count other := by
    rw [List.count_append, List.count_singleton, ← h.count other]
    simp
  full other hmem := by
    rcases List.mem_append.mp hmem with hcalls | hlast
    · exact h.full other hcalls
    · have heq : other = outcome := by simpa using hlast
      rw [heq]
      exact hfull
  saturated := ⟨fun _ => ⟨outcome, by simp⟩, fun _ => rfl⟩

def unstored (pending : Option GuestQueueTelemetryBatch) (stored : List GuestQueueTelemetryBatch) :
    List GuestQueueTelemetryBatch :=
  pending.toList.filter fun batch => !(stored.any fun row => decide (row.batchId = batch.batchId))

/-- After a batch was sent comes the same batch again or its acknowledgement;
after an acknowledgement a batch with another id. -/
inductive Follows : Traffic → Traffic → Prop
  | resent (batch : GuestQueueTelemetryBatch) : Follows (.sent batch) (.sent batch)
  | acknowledged (batch : GuestQueueTelemetryBatch) :
    Follows (.sent batch) (.acknowledged batch)
  | fresh {batch next : GuestQueueTelemetryBatch} (h : batch.batchId ≠ next.batchId) :
    Follows (.acknowledged batch) (.sent next)

/-- The last thing that passed was the pending batch, or an acknowledgement
when none is pending. -/
def EndsWith (traffic : List Traffic) (made : List GuestQueueTelemetryBatch) :
    Option GuestQueueTelemetryBatch → Prop
  | some batch => traffic.getLast? = some (.sent batch)
  | none => ∀ last ∈ traffic.getLast?, ∃ batch ∈ made, last = .acknowledged batch

/-- The account of a world: the batches ever made, each with its stretch of
calls, and the stretch that is still open. -/
structure Ledger (w : TelemetryWorld)
    (made : List (GuestQueueTelemetryBatch × List (GuestQueueOutcome × Bool)))
    (current : List (GuestQueueOutcome × Bool)) : Prop where
  log : w.log = (made.map Prod.snd).flatten ++ current
  tallies : ∀ entry ∈ made, Tallies entry.1.counts entry.1.counterSaturated entry.2
  active : Tallies w.runtime.active w.runtime.activeSaturated current
  started : w.runtime.activeStartedAt = none ↔ current = []
  batches : (made.map Prod.fst).Perm (w.stored ++ unstored w.runtime.pending w.stored)
  unique : (made.map fun entry => entry.1.batchId).Nodup
  ids : ∀ entry ∈ made, entry.1.batchId ∈ w.batchIds
  pending : ∀ batch ∈ w.runtime.pending, batch ∈ made.map Prod.fst
  sent : ∀ batch, Traffic.sent batch ∈ w.traffic → batch ∈ made.map Prod.fst
  chain : w.traffic.IsChain Follows
  last : EndsWith w.traffic (made.map Prod.fst) w.runtime.pending

theorem Ledger.initial : Ledger .initial [] [] where
  log := rfl
  tallies _ h := nomatch h
  active := .empty
  started := ⟨fun _ => rfl, fun _ => rfl⟩
  batches := List.Perm.refl _
  unique := List.nodup_nil
  ids _ h := nomatch h
  pending _ h := nomatch h
  sent _ h := nomatch h
  chain := List.isChain_nil
  last _ h := nomatch h

variable {w : TelemetryWorld}
  {made : List (GuestQueueTelemetryBatch × List (GuestQueueOutcome × Bool))}
  {current : List (GuestQueueOutcome × Bool)}

/-! ### Recording -/

theorem Ledger.count (h : Ledger w made current) (startedAt : Nat) (outcome : GuestQueueOutcome) :
    ∃ counted runtime,
      countOutcome { w.runtime with activeStartedAt := some startedAt } outcome =
        (if counted then .counted else .refused, runtime) ∧
      Ledger { w with runtime, log := w.log ++ [(outcome, counted)] } made
        (current ++ [(outcome, counted)]) := by
  rw [countOutcome]
  by_cases hfull : w.runtime.active outcome = guestQueueMaxOutcomeCount
  · refine ⟨false, _, if_pos hfull, ?_⟩
    exact {
      h with
      log := by rw [h.log, List.append_assoc]
      active := h.active.append_refused hfull
      started := by simp }
  · refine ⟨true, _, if_neg hfull, ?_⟩
    exact {
      h with
      log := by rw [h.log, List.append_assoc]
      active := h.active.append_counted hfull
      started := by simp }

theorem Ledger.recorded (h : Ledger w made current) (outcome : GuestQueueOutcome)
    (now : ClockReading) : ∃ more, Ledger (w.recorded outcome now) made (current ++ more) := by
  have hcounted : ∀ startedAt,
      w.runtime.record outcome now =
        countOutcome { w.runtime with activeStartedAt := some startedAt } outcome →
      ∃ more, Ledger (w.recorded outcome now) made (current ++ more) := by
    intro startedAt hrecord
    obtain ⟨counted, runtime, hcount, hledger⟩ := h.count startedAt outcome
    refine ⟨[(outcome, counted)], ?_⟩
    rw [TelemetryWorld.recorded, hrecord, hcount]
    cases counted
    · exact hledger
    · exact hledger
  cases hstarted : w.runtime.activeStartedAt with
  | some startedAt =>
    apply hcounted startedAt
    rw [TelemetryRuntime.record, hstarted]
    dsimp only
    rw [← hstarted]
  | none =>
    cases hnow : nowValue now with
    | some startedAt =>
      apply hcounted startedAt
      rw [TelemetryRuntime.record, hstarted]
      dsimp only
      rw [hnow]
    | none =>
      refine ⟨[], ?_⟩
      rw [TelemetryWorld.recorded, TelemetryRuntime.record, hstarted]
      dsimp only
      rw [hnow, List.append_nil]
      exact h

/-! ### Flushing -/

theorem Ledger.phase (h : Ledger w made current) (flushing : Flushing) :
    Ledger { w with runtime := { w.runtime with flushing } } made current :=
  { h with }

theorem unstored_of_new {batch : GuestQueueTelemetryBatch} {stored : List GuestQueueTelemetryBatch}
    (hnew : ∀ row ∈ stored, row.batchId ≠ batch.batchId) :
    unstored (some batch) stored = [batch] := by
  have habsent : (stored.any fun row => decide (row.batchId = batch.batchId)) = false := by
    rw [List.any_eq_false]
    intro row hrow
    simpa using hnew row hrow
  simp [unstored, habsent]

theorem unstored_of_stored {batch : GuestQueueTelemetryBatch}
    {stored : List GuestQueueTelemetryBatch} (h : batch ∈ stored) :
    unstored (some batch) stored = [] := by
  have hpresent : (stored.any fun row => decide (row.batchId = batch.batchId)) = true :=
    List.any_eq_true.mpr ⟨batch, h, decide_eq_true rfl⟩
  simp [unstored, hpresent]

theorem Ledger.resend (h : Ledger w made current) {batch : GuestQueueTelemetryBatch}
    (hpending : w.runtime.pending = some batch) :
    Ledger { w with traffic := w.traffic ++ [.sent batch] } made current := by
  have hlast := h.last
  rw [hpending] at hlast
  exact {
    h with
    sent := by
      intro other hother
      rcases List.mem_append.mp hother with hold | hnew
      · exact h.sent other hold
      · cases List.mem_singleton.mp hnew
        exact h.pending batch hpending
    chain := by
      apply h.chain.append (List.isChain_singleton _)
      intro last hlastMem next hnext
      rw [show w.traffic.getLast? = some (.sent batch) from hlast] at hlastMem
      cases hlastMem
      cases hnext
      exact .resent batch
    last := by
      dsimp only
      rw [hpending]
      exact List.getLast?_concat }

theorem Ledger.close (h : Ledger w made current) {batch : GuestQueueTelemetryBatch}
    (hpending : w.runtime.pending = none) (hcounts : batch.counts = w.runtime.active)
    (hsaturated : batch.counterSaturated = w.runtime.activeSaturated)
    (hfresh : batch.batchId ∉ w.batchIds) :
    Ledger { w with
      runtime := ⟨emptyGuestQueueOutcomeCounts, none, false, some batch, .storing⟩
      traffic := w.traffic ++ [.sent batch]
      batchIds := batch.batchId :: w.batchIds } (made ++ [(batch, current)]) [] := by
  have hperm := h.batches
  rw [hpending, show unstored none w.stored = [] from rfl, List.append_nil] at hperm
  have hnew : ∀ row ∈ w.stored, row.batchId ≠ batch.batchId := by
    rintro row hrow heq
    obtain ⟨entry, hentry, rfl⟩ := List.mem_map.mp (hperm.mem_iff.mpr hrow)
    exact hfresh (heq ▸ h.ids entry hentry)
  have hlast := h.last
  rw [hpending] at hlast
  refine {
    log := by rw [h.log]; simp
    tallies := ?_
    active := .empty
    started := ⟨fun _ => rfl, fun _ => rfl⟩
    batches := ?_
    unique := ?_
    ids := ?_
    pending := ?_
    sent := ?_
    chain := ?_
    last := List.getLast?_concat }
  · intro entry hentry
    rcases List.mem_append.mp hentry with hold | hlastEntry
    · exact h.tallies entry hold
    · cases List.mem_singleton.mp hlastEntry
      rw [hcounts, hsaturated]
      exact h.active
  · dsimp only
    rw [unstored_of_new hnew, List.map_append]
    exact hperm.append_right _
  · rw [List.map_append, List.nodup_append]
    refine ⟨h.unique, List.pairwise_singleton _ _, ?_⟩
    intro id hid last hlastId heq
    obtain ⟨entry, hentry, rfl⟩ := List.mem_map.mp hid
    rw [List.map_singleton, List.mem_singleton] at hlastId
    rw [hlastId] at heq
    exact hfresh (heq ▸ h.ids entry hentry)
  · intro entry hentry
    rcases List.mem_append.mp hentry with hold | hlastEntry
    · exact List.mem_cons_of_mem _ (h.ids entry hold)
    · cases List.mem_singleton.mp hlastEntry
      exact List.mem_cons_self
  · intro other hother
    cases hother
    simp
  · intro other hother
    rw [List.map_append]
    rcases List.mem_append.mp hother with hold | hnewSent
    · exact List.mem_append_left _ (h.sent other hold)
    · cases List.mem_singleton.mp hnewSent
      simp
  · apply h.chain.append (List.isChain_singleton _)
    intro last hlastMem next hnext
    cases hnext
    obtain ⟨old, hold, rfl⟩ := hlast last hlastMem
    apply Follows.fresh
    intro heq
    obtain ⟨entry, hentry, rfl⟩ := List.mem_map.mp hold
    exact hfresh (heq ▸ h.ids entry hentry)

theorem Ledger.flushed (h : Ledger w made current) {batchId : Option String} {now : ClockReading}
    (hfresh : w.runtime.needsBatchId = true → ∀ id ∈ batchId, id ∉ w.batchIds) :
    ∃ made' current', Ledger (w.flushed batchId now) made' current' := by
  -- Ids that are handed out but not used for a batch only make later ids fresher.
  have hids : ∀ {v : TelemetryWorld} {made' current'} (ids : List String),
      Ledger v made' current' → Ledger { v with batchIds := ids ++ v.batchIds } made' current' := by
    intro v made' current' ids hv
    exact { hv with ids := fun entry hentry => List.mem_append_right _ (hv.ids entry hentry) }
  rw [TelemetryWorld.flushed]
  cases hflushing : w.runtime.flushing with
  | storing =>
    exact ⟨made, current, by
      simpa [TelemetryRuntime.flush, TelemetryRuntime.needsBatchId, hflushing] using h⟩
  | settling result =>
    exact ⟨made, current, by
      simpa [TelemetryRuntime.flush, TelemetryRuntime.needsBatchId, hflushing] using h⟩
  | idle =>
    cases hpending : w.runtime.pending with
    | some batch =>
      refine ⟨made, current, ?_⟩
      rw [TelemetryRuntime.flush_resend hflushing hpending]
      simpa [TelemetryRuntime.needsBatchId, hflushing, hpending] using
        (h.resend hpending).phase .storing
    | none =>
      cases hstarted : w.runtime.activeStartedAt with
      | none =>
        refine ⟨made, current, ?_⟩
        rw [TelemetryRuntime.flush_empty hflushing hpending hstarted]
        simpa [TelemetryRuntime.needsBatchId, hflushing, hpending, hstarted] using
          h.phase (.settling .empty)
      | some startedAt =>
        have hneeds : w.runtime.needsBatchId = true := by
          simp [TelemetryRuntime.needsBatchId, hflushing, hpending, hstarted]
        cases hbatch : validateGuestQueueTelemetryBatch batchId (activeBatch w.runtime startedAt now)
          with
        | none =>
          refine ⟨made, current, ?_⟩
          rw [TelemetryRuntime.flush_invalid hflushing hpending hstarted hbatch, if_pos hneeds]
          simpa [hpending, hstarted] using hids batchId.toList
            (h.phase (.settling (.failure .invalidQueueTelemetryRuntime)))
        | some batch =>
          rw [TelemetryRuntime.flush_close hflushing hpending hstarted hbatch, if_pos hneeds]
          cases batchId with
          | none => cases hbatch
          | some id =>
            rw [validateGuestQueueTelemetryBatch] at hbatch
            split at hbatch
            · cases hbatch
              exact ⟨_, _, h.close hpending rfl rfl (hfresh hneeds id rfl)⟩
            · cases hbatch

/-! ### The store -/

theorem Ledger.storeCommits (h : Ledger w made current) {batch : GuestQueueTelemetryBatch}
    (hsent : Traffic.sent batch ∈ w.traffic) :
    Ledger { w with stored := storeBatch w.stored batch } made current := by
  rw [storeBatch]
  split
  · exact { h with }
  · rename_i habsent
    have hnew : ∀ row ∈ w.stored, row.batchId ≠ batch.batchId := by
      simpa using habsent
    have hmade := h.batches.mem_iff.mp (h.sent batch hsent)
    have hpendingMem : batch ∈ unstored w.runtime.pending w.stored := by
      rcases List.mem_append.mp hmade with hstored | hpending
      · exact absurd rfl (hnew batch hstored)
      · exact hpending
    have hpending : w.runtime.pending = some batch := by
      simpa using (List.mem_filter.mp hpendingMem).1
    have hbatches := h.batches
    rw [hpending, unstored_of_new hnew] at hbatches
    exact {
      h with
      batches := by
        dsimp only
        rw [hpending, unstored_of_stored (by simp), List.append_nil]
        exact hbatches }

theorem Ledger.answered (h : Ledger w made current) {answer : StoreAnswer}
    (hstored : ∀ batch ∈ w.runtime.acknowledges answer, batch ∈ w.stored) :
    Ledger (w.answered answer) made current := by
  unfold TelemetryWorld.answered TelemetryRuntime.answered
  cases hflushing : w.runtime.flushing with
  | idle => simpa [TelemetryRuntime.acknowledges, hflushing] using h
  | settling result => simpa [TelemetryRuntime.acknowledges, hflushing] using h
  | storing =>
    cases answer with
    | rejected =>
      simpa [TelemetryRuntime.acknowledges, hflushing] using
        h.phase (.settling (.failure .queueTelemetryStoreUnavailable))
    | unusable =>
      simpa [TelemetryRuntime.acknowledges, hflushing] using
        h.phase (.settling (.failure .queueTelemetryStoreUnavailable))
    | stored duplicate =>
      have hacknowledges : w.runtime.acknowledges (.stored duplicate) = w.runtime.pending := by
        simp [TelemetryRuntime.acknowledges, hflushing]
      rw [hacknowledges] at hstored ⊢
      have hbatches := h.batches
      have hlast := h.last
      cases hpending : w.runtime.pending with
      | none =>
        rw [hpending] at hbatches hlast
        have hnone := h.phase (.settling (.stored duplicate))
        dsimp only at hnone ⊢
        simpa [hpending] using hnone
      | some batch =>
        have hmem : batch ∈ w.stored := hstored batch hpending
        rw [hpending] at hlast
        rw [hpending, unstored_of_stored hmem] at hbatches
        have hchain : (w.traffic ++ [Traffic.acknowledged batch]).IsChain Follows := by
          apply h.chain.append (List.isChain_singleton _)
          intro last hlastMem next hnext
          rw [show w.traffic.getLast? = some (.sent batch) from hlast] at hlastMem
          cases hlastMem
          cases hnext
          exact .acknowledged batch
        exact {
          h with
          batches := hbatches
          pending := fun _ hnone => nomatch hnone
          sent := by
            intro other hother
            rcases List.mem_append.mp hother with hold | hnew
            · exact h.sent other hold
            · cases List.mem_singleton.mp hnew
          chain := hchain
          last := by
            intro last hlastMem
            dsimp only [Option.toList, List.map] at hlastMem
            rw [List.getLast?_concat] at hlastMem
            cases hlastMem
            exact ⟨batch, h.pending batch hpending, rfl⟩ }

theorem Ledger.settle (h : Ledger w made current) :
    Ledger { w with runtime := w.runtime.settle } made current := by
  rw [TelemetryRuntime.settle]
  split
  · exact h
  · exact h
  · exact h.phase .idle

/-- One event keeps an account. -/
theorem Ledger.next (h : Ledger w made current) (event : TelemetryEvent)
    (hallowed : TelemetryAllowed w event) :
    ∃ made' current', Ledger (w.next event) made' current' := by
  cases event with
  | record outcome now =>
    obtain ⟨more, hmore⟩ := h.recorded outcome now
    exact ⟨made, current ++ more, hmore⟩
  | flush batchId now => exact h.flushed hallowed
  | storeCommits batch => exact ⟨made, current, h.storeCommits hallowed⟩
  | storeAnswers answer => exact ⟨made, current, h.answered hallowed⟩
  | settle => exact ⟨made, current, h.settle⟩

/-- Every history has an account. -/
theorem telemetry_ledger {events : List TelemetryEvent}
    (h : Machine.Along telemetryStep TelemetryAllowed .initial events) :
    ∃ made current, Ledger (Machine.run telemetryStep .initial events) made current :=
  Machine.run_preserves (P := fun w => ∃ made current, Ledger w made current)
    (fun _ _ hallowed ⟨_, _, hledger⟩ => hledger.next _ hallowed) h ⟨[], [], .initial⟩

/-! ### Conservation -/

/-- The calls of `record` for an outcome that returned. -/
def TelemetryWorld.recordedCount (w : TelemetryWorld) (outcome : GuestQueueOutcome) : Nat :=
  w.log.countP fun call => decide (call.1 = outcome)

def TelemetryWorld.refusedCount (w : TelemetryWorld) (outcome : GuestQueueOutcome) : Nat :=
  w.log.count (outcome, false)

def totalOf (batches : List GuestQueueTelemetryBatch) (outcome : GuestQueueOutcome) : Nat :=
  (batches.map fun batch => batch.counts outcome).sum

theorem countP_call (calls : List (GuestQueueOutcome × Bool)) (outcome : GuestQueueOutcome) :
    (calls.countP fun call => decide (call.1 = outcome)) =
      calls.count (outcome, true) + calls.count (outcome, false) := by
  induction calls with
  | nil => rfl
  | cons call rest ih =>
    obtain ⟨name, counted⟩ := call
    rw [List.countP_cons, List.count_cons, List.count_cons, ih]
    by_cases hname : name = outcome
    · cases counted <;> simp [hname] <;> omega
    · simp [hname]

theorem totalOf_perm {first second : List GuestQueueTelemetryBatch} (h : first.Perm second)
    (outcome : GuestQueueOutcome) : totalOf first outcome = totalOf second outcome :=
  (h.map _).sum_nat

theorem totalOf_append (first second : List GuestQueueTelemetryBatch)
    (outcome : GuestQueueOutcome) :
    totalOf (first ++ second) outcome = totalOf first outcome + totalOf second outcome := by
  simp [totalOf]

theorem count_flatten
    {made : List (GuestQueueTelemetryBatch × List (GuestQueueOutcome × Bool))}
    (h : ∀ entry ∈ made, Tallies entry.1.counts entry.1.counterSaturated entry.2)
    (outcome : GuestQueueOutcome) :
    (made.map Prod.snd).flatten.count (outcome, true) = totalOf (made.map Prod.fst) outcome := by
  induction made with
  | nil => rfl
  | cons entry rest ih =>
    have hentry := (h entry List.mem_cons_self).count outcome
    have hrest := ih fun other hother => h other (List.mem_cons_of_mem _ hother)
    rw [List.map_cons, List.flatten_cons, List.count_append, hrest, ← hentry]
    simp [totalOf]

theorem Ledger.conserved (h : Ledger w made current) (outcome : GuestQueueOutcome) :
    w.recordedCount outcome =
      totalOf w.stored outcome + totalOf (unstored w.runtime.pending w.stored) outcome +
        w.runtime.active outcome + w.refusedCount outcome := by
  have hcounted : w.log.count (outcome, true) =
      totalOf w.stored outcome + totalOf (unstored w.runtime.pending w.stored) outcome +
        w.runtime.active outcome := by
    rw [h.log, List.count_append, count_flatten h.tallies, totalOf_perm h.batches,
      totalOf_append, h.active.count outcome]
  rw [TelemetryWorld.recordedCount, countP_call, hcounted]
  rfl

theorem Ledger.stored_nodup (h : Ledger w made current) :
    (w.stored.map GuestQueueTelemetryBatch.batchId).Nodup := by
  have hperm := h.batches.map GuestQueueTelemetryBatch.batchId
  rw [List.map_map, List.map_append] at hperm
  exact (List.nodup_append.mp (hperm.nodup_iff.mp h.unique)).1

/-- Telemetry is conserved over every history: the tally at each moment, the
one batch every call belongs to, and the traffic with the store. -/
theorem telemetry_conserved {events : List TelemetryEvent}
    (h : Machine.Along telemetryStep TelemetryAllowed .initial events) :
    let w := Machine.run telemetryStep .initial events
    (∀ outcome, w.recordedCount outcome =
      totalOf w.stored outcome + totalOf (unstored w.runtime.pending w.stored) outcome +
        w.runtime.active outcome + w.refusedCount outcome) ∧
    (∃ (made : List (GuestQueueTelemetryBatch × List (GuestQueueOutcome × Bool)))
        (current : List (GuestQueueOutcome × Bool)),
      w.log = (made.map Prod.snd).flatten ++ current ∧
      (∀ entry ∈ made, Tallies entry.1.counts entry.1.counterSaturated entry.2) ∧
      Tallies w.runtime.active w.runtime.activeSaturated current ∧
      (made.map fun entry => entry.1.batchId).Nodup ∧
      (made.map Prod.fst).Perm (w.stored ++ unstored w.runtime.pending w.stored)) ∧
    (w.stored.map GuestQueueTelemetryBatch.batchId).Nodup ∧
    w.traffic.IsChain Follows := by
  obtain ⟨made, current, hledger⟩ := telemetry_ledger h
  exact ⟨hledger.conserved, ⟨made, current, hledger.log, hledger.tallies, hledger.active,
    hledger.unique, hledger.batches⟩, hledger.stored_nodup, hledger.chain⟩

def sampleBatch : GuestQueueTelemetryBatch :=
  activeBatch (TelemetryRuntime.initial.record .committed (some 100)).2 100 (some 101) "batch-1"

/-- The batch is stored, its acknowledgement is lost, an outcome is recorded,
and the batch is sent again. -/
def lostAcknowledgement : List TelemetryEvent :=
  [.record .committed (some 100), .flush (some "batch-1") (some 101), .storeCommits sampleBatch,
    .storeAnswers .rejected, .record .retryCommit (some 102), .settle, .flush none none,
    .storeAnswers (.stored true)]

theorem sampleBatch_sent :
    (TelemetryRuntime.initial.record .committed (some 100)).2.flush (some "batch-1") (some 101) =
      (some sampleBatch, ⟨emptyGuestQueueOutcomeCounts, none, false, some sampleBatch, .storing⟩) := by
  have hvalid : validGuestQueueTelemetryBatch sampleBatch = true := by decide +kernel
  have hbatch : validateGuestQueueTelemetryBatch (some "batch-1")
      (activeBatch (TelemetryRuntime.initial.record .committed (some 100)).2 100 (some 101)) =
      some sampleBatch := by
    rw [validateGuestQueueTelemetryBatch]
    exact if_pos hvalid
  exact TelemetryRuntime.flush_close rfl rfl rfl hbatch

/-- The buffer with `sampleBatch` on its way. -/
def samplePending : TelemetryWorld :=
  ⟨⟨emptyGuestQueueOutcomeCounts, none, false, some sampleBatch, .storing⟩,
    [(.committed, true)], [.sent sampleBatch], ["batch-1"], []⟩

theorem samplePending_eq :
    (TelemetryWorld.initial.recorded .committed (some 100)).flushed (some "batch-1") (some 101) =
      samplePending := by
  have hsent : (TelemetryWorld.initial.recorded .committed (some 100)).runtime.flush
      (some "batch-1") (some 101) = _ := sampleBatch_sent
  rw [TelemetryWorld.flushed, hsent]
  rfl

theorem lostAcknowledgement_allowed :
    Machine.Along telemetryStep TelemetryAllowed .initial lostAcknowledgement := by
  simp only [lostAcknowledgement, Machine.Along, telemetryStep, TelemetryWorld.next,
    TelemetryAllowed, samplePending_eq]
  refine ⟨trivial, fun _ _ _ hid => (by cases hid), List.mem_singleton.mpr rfl,
    fun _ hnone => (by cases hnone), trivial, trivial, fun hneeds => (by cases hneeds), ?_, trivial⟩
  intro batch hbatch
  cases hbatch
  exact List.mem_singleton.mpr rfl

/-- The run stores the outcome once and keeps the later one. -/
theorem telemetry_conserved_sample :
    let w := Machine.run telemetryStep .initial lostAcknowledgement
    w.recordedCount .committed =
      totalOf w.stored .committed + totalOf (unstored w.runtime.pending w.stored) .committed +
        w.runtime.active .committed + w.refusedCount .committed :=
  (telemetry_conserved lostAcknowledgement_allowed).1 .committed

end Outscan
