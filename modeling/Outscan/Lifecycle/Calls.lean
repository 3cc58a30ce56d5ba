import Outscan.Lifecycle.Retention

/-! Every call of the service as seen by one scan: at most one event of its
life, or its creation, or its removal. -/
namespace Outscan

open Relational Transactional Lifecycle

def Sound (t : Tables) : Prop := ∀ id g, t.aggregate? id = some g → Inv g

def Call.scan? : Call → Option String
  | .acquire guestScanId _ _ => some guestScanId
  | .start command _ => some command.guestScanId
  | .renew command _ => some command.guestScanId
  | .commit result _ => result.map AuthenticatedResult.jobId
  | .cancel guestScanId _ => some guestScanId
  | _ => none

/-- The trusted time of a call that creates or removes scans, and opens or drops
windows. -/
def Call.trustedNow : Call → Option Nat
  | .createOrReplay _ request => some request.trustedNow.toNat
  | .runBatch _ clock _ => nowValue clock
  | _ => none

def Call.event : Call → Answer → Option Event
  | .acquire _ _ _, .acquire result => result.event
  | .start command _, .start result => result.event command
  | .renew command _, .renew result => result.event command
  | .commit (some result) transactionNow, .commit answer =>
    answer.event result.submission transactionNow.toNat
  | .cancel _ _, .cancel result => result.event
  | _, _ => none

/-! ### Calls about one scan -/

/-- A call about one scan: either it wrote nothing, or it was one event of the
life of its scan. -/
inductive CallOutcome (id : String) (db db' : Database) : Option Event → Prop
  | unchanged (same : db' = db) : CallOutcome id db db' none
  | event {event : Event} (g g' : Aggregate) (focus : Focus id db.val db'.val g g')
      (step : Step g event g') : CallOutcome id db db' (some event)

theorem Outcome.call {id : String} {db db' : Database} {g : Aggregate} {event : Option Event}
    (h : Outcome id db.val db'.val g event) : CallOutcome id db db' event := by
  cases h with
  | unchanged same => exact .unchanged (Subtype.ext same)
  | event g' focus step => exact .event g g' focus step

theorem transaction_cases {α : Type} (unavailable : α) (operation : Sql α) (db : Database) :
    operation.run db.val = .ok ((transaction unavailable operation db).1,
        (transaction unavailable operation db).2.val) ∨
      transaction unavailable operation db = (unavailable, db) := by
  unfold transaction
  rcases atomically_cases unavailable (operation >>= fun answer => pure (.commit answer)) db with
    ⟨answer, next, hrun, heq⟩ | ⟨hsame, hanswer⟩
  · rw [heq]
    obtain ⟨value, mid, hoperation, hpure⟩ := Tx.run_bind_ok.mp hrun
    obtain ⟨hvalue, hnext⟩ := Tx.run_pure_ok.mp hpure
    cases hvalue
    rw [hnext]
    exact .inl hoperation
  · rcases hanswer with hanswer | ⟨next, hrun⟩
    · exact .inr (Prod.ext hanswer hsame)
    · obtain ⟨value, mid, -, hpure⟩ := Tx.run_bind_ok.mp hrun
      cases (Tx.run_pure_ok.mp hpure).1

theorem transaction_of_ok {α : Type} {unavailable answer : α} {operation : Sql α} {db : Database}
    {t : Tables} (hrun : operation.run db.val = .ok (answer, t)) (hkeys : ForeignKeys t) :
    transaction unavailable operation db = (answer, ⟨t, hkeys⟩) := by
  apply atomically_of_commit
  rw [Tx.run_bind_of_ok hrun]
  rfl

section OneScan

variable {db : Database}

theorem acquireBody_absent {id : String} {createAttemptId : Option String} {now : Nat}
    {t t' : Tables} {answer : AcquireGuestLeaseResult}
    (h : (acquireBody id createAttemptId now).run t = .ok (answer, t'))
    (hg : t.guestScans.find? id = none) : answer = .notAcquirable ∧ t' = t := by
  unfold acquireBody at h
  rw [Tx.run_bind_get] at h
  simp only [hg] at h
  exact Tx.run_pure_ok.mp h

theorem joinedAttempt_absent {t : Tables} {id attemptId : String}
    (hg : t.guestScans.find? id = none) : t.joinedAttempt id attemptId = none := by
  simp [Tables.joinedAttempt, hg]

theorem startBody_absent {command : LeaseCommand} {now : Nat} {t t' : Tables}
    {answer : StartGuestAttemptResult} (h : (startBody command now).run t = .ok (answer, t'))
    (hg : t.guestScans.find? command.guestScanId = none) : answer = .staleLease ∧ t' = t := by
  unfold startBody at h
  rw [Tx.run_bind_get] at h
  simp only [joinedAttempt_absent hg] at h
  exact Tx.run_pure_ok.mp h

theorem renewBody_absent {command : LeaseCommand} {now : Nat} {t t' : Tables}
    {answer : RenewGuestLeaseResult} (h : (renewBody command now).run t = .ok (answer, t'))
    (hg : t.guestScans.find? command.guestScanId = none) : answer = .staleLease ∧ t' = t := by
  unfold renewBody at h
  rw [Tx.run_bind_get] at h
  simp only [joinedAttempt_absent hg] at h
  exact Tx.run_pure_ok.mp h

theorem persistResultBody_absent {result : AuthenticatedResult}
    {transactionNow : TransactionTime} {t t' : Tables} {verdict : Verdict CommitGuestResultResult}
    (h : (persistResultBody result transactionNow).run t = .ok (verdict, t'))
    (hg : t.guestScans.find? result.jobId = none) :
    verdict = .commit (.failure (.denied .invalidState) true) ∧ t' = t := by
  have hlocked : t.lockedRow result.jobId = none := by simp [Tables.lockedRow, hg]
  unfold persistResultBody at h
  rw [Tx.run_bind_get] at h
  simp only [hlocked, Option.bind_none] at h
  exact Tx.run_pure_ok.mp h

theorem cancelBody_absent {id : String} {now : Nat} {t t' : Tables}
    {answer : CancelGuestScanResult} (h : (cancelBody id now).run t = .ok (answer, t'))
    (hg : t.guestScans.find? id = none) : answer = .notCancellable ∧ t' = t := by
  unfold cancelBody at h
  rw [Tx.run_bind_get] at h
  simp only [hg] at h
  exact Tx.run_pure_ok.mp h

theorem transaction_outcome {α : Type} {id : String} {unavailable missing : α}
    {operation : Sql α} {event : α → Option Event} (hunavailable : event unavailable = none)
    (hmissing : event missing = none) (hsound : Sound db.val)
    (habsent : ∀ {answer t'}, operation.run db.val = .ok (answer, t') →
      db.val.guestScans.find? id = none → answer = missing ∧ t' = db.val)
    (hpresent : ∀ {answer t' g}, Lifecycle.Inv g → operation.run db.val = .ok (answer, t') →
      db.val.aggregate? id = some g → Outcome id db.val t' g (event answer)) :
    CallOutcome id db (transaction unavailable operation db).2
      (event (transaction unavailable operation db).1) := by
  rcases transaction_cases unavailable operation db with h | h
  · cases hg : db.val.aggregate? id with
    | none =>
      obtain ⟨hanswer, hsame⟩ := habsent h (Tables.aggregate?_eq_none.mp hg)
      rw [hanswer, hmissing]
      exact .unchanged (Subtype.ext hsame)
    | some g => exact (hpresent (hsound id g hg) h hg).call
  · rw [h, hunavailable]
    exact .unchanged rfl

theorem acquire_outcome (hsound : Sound db.val) (id : String) (createAttemptId : Option String)
    (clock : ClockReading) :
    CallOutcome id db (acquire id createAttemptId clock db).2
      (acquire id createAttemptId clock db).1.event := by
  unfold acquire
  split
  · exact .unchanged rfl
  · cases nowValue clock with
    | none => exact .unchanged rfl
    | some now =>
      exact transaction_outcome rfl rfl hsound acquireBody_absent acquireBody_outcome

theorem start_outcome (hsound : Sound db.val) (command : LeaseCommand) (clock : ClockReading) :
    CallOutcome command.guestScanId db (start command clock db).2
      ((start command clock db).1.event command) := by
  unfold start
  split
  · exact .unchanged rfl
  · cases nowValue clock with
    | none => exact .unchanged rfl
    | some now =>
      exact transaction_outcome rfl rfl hsound startBody_absent
        fun hinv h hg => (startBody_outcome hinv h hg).2

theorem renew_outcome (hsound : Sound db.val) (command : LeaseCommand) (clock : ClockReading) :
    CallOutcome command.guestScanId db (renew command clock db).2
      ((renew command clock db).1.event command) := by
  unfold renew
  split
  · exact .unchanged rfl
  · cases nowValue clock with
    | none => exact .unchanged rfl
    | some now => exact transaction_outcome rfl rfl hsound renewBody_absent renewBody_outcome

theorem cancel_outcome (hsound : Sound db.val) (id : String) (clock : ClockReading) :
    CallOutcome id db (cancel id clock db).2 (cancel id clock db).1.event := by
  unfold cancel
  split
  · exact .unchanged rfl
  · cases nowValue clock with
    | none => exact .unchanged rfl
    | some now => exact transaction_outcome rfl rfl hsound cancelBody_absent cancelBody_outcome

theorem persistResultBody_rollback {result : AuthenticatedResult}
    {transactionNow : TransactionTime} {t t' : Tables} {answer : CommitGuestResultResult}
    (h : (persistResultBody result transactionNow).run t = .ok (.rollback answer, t')) :
    answer = .failure .resultSubmissionRejected true := by
  unfold persistResultBody at h
  rw [Tx.run_bind_get] at h
  split at h
  · cases (Tx.run_pure_ok.mp h).1
  · split at h
    · cases (Tx.run_pure_ok.mp h).1
    · cases (Tx.run_pure_ok.mp h).1
    · split at h
      · exact Verdict.rollback.inj (Tx.run_pure_ok.mp h).1
      · rw [Tx.run_bind_ok] at h
        obtain ⟨_, _, -, h⟩ := h
        cases (Tx.run_pure_ok.mp h).1

theorem commit_outcome (hsound : Sound db.val) (result : AuthenticatedResult)
    (transactionNow : TransactionTime) :
    CallOutcome result.jobId db (commit (some result) transactionNow db).2
      ((commit (some result) transactionNow db).1.event result.submission
        transactionNow.toNat) := by
  unfold commit
  dsimp only
  rcases atomically_cases (.failure .unavailable false) (persistResultBody result transactionNow)
      db with ⟨answer, next, hrun, heq⟩ | ⟨hsame, hanswer⟩
  · rw [heq]
    cases hg : db.val.aggregate? result.jobId with
    | none =>
      obtain ⟨hverdict, hnext⟩ :=
        persistResultBody_absent hrun (Tables.aggregate?_eq_none.mp hg)
      cases hverdict
      exact .unchanged (Subtype.ext hnext)
    | some g => exact (persistResultBody_outcome (hsound _ g hg) hrun hg).call
  · rw [hsame]
    rcases hanswer with hanswer | ⟨next, hrun⟩
    · rw [hanswer]
      exact .unchanged rfl
    · rw [persistResultBody_rollback hrun]
      exact .unchanged rfl

/-- Every call about one scan is at most one event of its life. -/
theorem exec_outcome (node : NodeRuntime) (hsound : Sound db.val) {call : Call} {id : String}
    (hscan : call.scan? = some id) :
    CallOutcome id db (exec node db call).2 (call.event (exec node db call).1) := by
  cases call with
  | acquire guestScanId createAttemptId clock =>
    cases hscan
    exact acquire_outcome hsound id createAttemptId clock
  | start command clock =>
    cases hscan
    exact start_outcome hsound command clock
  | renew command clock =>
    cases hscan
    exact renew_outcome hsound command clock
  | commit result transactionNow =>
    cases result with
    | none => cases hscan
    | some result =>
      cases hscan
      exact commit_outcome hsound result transactionNow
  | cancel guestScanId clock =>
    cases hscan
    exact cancel_outcome hsound id clock
  | createOrReplay dependencies request => cases hscan
  | runBatch batchSize clock locked => cases hscan
  | setServiceState state => cases hscan

end OneScan

/-! ### Calls about all scans -/

/-- The call deletes the scan: as the expired one it replaces, or as one past
its retention. -/
def Deletes (node : NodeRuntime) (db : Database) (call : Call) (id : String) : Prop :=
  match call with
  | .createOrReplay _ request =>
    (∃ guestScanId token expiresAt expiresIn, (exec node db call).1 =
      .createOrReplay (.ok (some .replaceExpired) guestScanId token expiresAt expiresIn)) ∧
    ∃ row, db.val.lookup request.guestSessionScope request.idempotencyKey = some row ∧ row.id = id
  | .runBatch _ _ _ =>
    (db.val.aggregate? id).isSome = true ∧ (exec node db call).2.val.aggregate? id = none
  | _ => False

/-- What one call does to the aggregate of `id`. -/
inductive Change (node : NodeRuntime) (db : Database) (call : Call) (id : String) : Prop
  | kept (same : (exec node db call).2.val.aggregate? id = db.val.aggregate? id)
      (quiet : call.scan? = some id → call.event (exec node db call).1 = none)
  | event (event : Event) (g g' : Aggregate) (scan : call.scan? = some id)
      (answer : call.event (exec node db call).1 = some event)
      (before : db.val.aggregate? id = some g)
      (after : (exec node db call).2.val.aggregate? id = some g') (step : Step g event g')
  | created (g : Aggregate) (before : db.val.aggregate? id = none)
      (after : (exec node db call).2.val.aggregate? id = some g) (sound : Inv g)
  | deleted (deletes : Deletes node db call id)
      (after : ∀ g, (exec node db call).2.val.aggregate? id = some g → Inv g)

theorem CallOutcome.change {node : NodeRuntime} {db : Database} {call : Call} {id j : String}
    (hscan : call.scan? = some j)
    (h : CallOutcome j db (exec node db call).2 (call.event (exec node db call).1)) :
    Change node db call id := by
  generalize hevent : call.event (exec node db call).1 = event at h
  cases h with
  | unchanged same =>
    exact .kept (by rw [same]) fun _ => hevent
  | event g g' focus step =>
    by_cases hid : id = j
    · subst hid
      exact .event _ g g' hscan hevent focus.before focus.after step
    · exact .kept (focus.others id hid)
        fun h => absurd (Option.some.inj (hscan.symm.trans h)) (Ne.symm hid)

def PersistGuestScanResult.Fails : PersistGuestScanResult → Prop
  | .ok .. => False
  | _ => True

theorem createOrReplayBody_rollback {node : NodeRuntime} {request : SnapshotRequest}
    {dependencies : GuestPersistenceDependencies} {t t' : Tables}
    {answer : PersistGuestScanResult}
    (h : (createOrReplayBody node dependencies request).run t = .ok (.rollback answer, t')) :
    answer.Fails := by
  unfold createOrReplayBody at h
  rw [Tx.run_bind_get] at h
  dsimp only at h
  split at h
  · cases (Tx.run_pure_ok.mp h).1
  · cases (Tx.run_pure_ok.mp h).1
  · split at h
    · exact (Tx.run_fail_ok.mp h).elim
    · split at h
      · cases (Tx.run_pure_ok.mp h).1
        trivial
      · simp only [createScan] at h
        rw [Tx.run_bind_ok] at h
        obtain ⟨_, _, -, h⟩ := h
        rw [Tx.run_bind_ok] at h
        obtain ⟨_, _, -, h⟩ := h
        rw [Tx.run_bind_ok] at h
        obtain ⟨decision, _, -, h⟩ := h
        cases decision with
        | allowNewScan => cases (Tx.run_pure_ok.mp h).1
        | invalidAbuseContext =>
          cases (Tx.run_pure_ok.mp h).1
          trivial
        | deny code retryAfterSeconds =>
          cases (Tx.run_pure_ok.mp h).1
          trivial

theorem createOrReplay_outcome (node : NodeRuntime) (dependencies : GuestPersistenceDependencies)
    (request : PersistGuestScanRequest) (db : Database) :
    ((createOrReplay node dependencies request db).1.Fails ∧
        (createOrReplay node dependencies request db).2 = db) ∨
      ∃ snapshot, snapshot.WellFormed node ∧ request = snapshot.persist ∧
        CreateOutcome node dependencies snapshot db.val
          (createOrReplay node dependencies request db).1
          (createOrReplay node dependencies request db).2.val := by
  unfold createOrReplay
  split
  · exact .inl ⟨trivial, rfl⟩
  · rename_i snapshot hsnapshot
    obtain ⟨hwell, hrequest⟩ := snapshotPersistGuestScanRequest_eq_some.mp hsnapshot
    rcases atomically_cases .unavailable (createOrReplayBody node dependencies snapshot) db with
      ⟨answer, next, hrun, heq⟩ | ⟨hsame, hanswer⟩
    · rw [heq]
      exact .inr ⟨snapshot, hwell, hrequest, createOrReplayBody_outcome hwell hrun⟩
    · refine .inl ⟨?_, hsame⟩
      rcases hanswer with hanswer | ⟨next, hrun⟩
      · rw [hanswer]
        trivial
      · exact createOrReplayBody_rollback hrun

theorem createOrReplay_cases (node : NodeRuntime) (dependencies : GuestPersistenceDependencies)
    (request : PersistGuestScanRequest) (db : Database) :
    (createOrReplay node dependencies request db).2 = db ∨
      ∃ snapshot, snapshot.WellFormed node ∧ request = snapshot.persist ∧
        CreateOutcome node dependencies snapshot db.val
          (createOrReplay node dependencies request db).1
          (createOrReplay node dependencies request db).2.val :=
  (createOrReplay_outcome node dependencies request db).imp_left And.right

/-- The rule of `createOrReplay`: the tables are the ones it found, unless it admits a scan. -/
theorem createOrReplay_tables {P : Tables → Prop} (node : NodeRuntime)
    (dependencies : GuestPersistenceDependencies) (request : PersistGuestScanRequest)
    {db : Database} (hkept : P db.val)
    (hadmits : ∀ {snapshot action guestScanId nonce network rest cleared t'},
      request = snapshot.persist → snapshot.networkSignalDigests = network :: rest →
      Cleared snapshot.now db.val
        (db.val.lookup snapshot.guestSessionScope snapshot.idempotencyKey) action cleared →
      Admitted snapshot network
        (newGuestScan snapshot guestScanId nonce dependencies.activeTokenKeyVersion) cleared t' →
      P t') :
    P (createOrReplay node dependencies request db).2.val := by
  rcases createOrReplay_cases node dependencies request db with
    hsame | ⟨snapshot, -, hrequest, hout⟩
  · rw [hsame]
    exact hkept
  · generalize createOrReplay node dependencies request db = result at hout ⊢
    obtain ⟨answer, db'⟩ := result
    dsimp only at hout ⊢
    generalize db'.val = t' at hout ⊢
    cases hout with
    | denied code decision => exact hkept
    | replayed guestScanId token expiresAt expiresIn decision => exact hkept
    | admitted action guestScanId token nonce network rest cleared t' decision material networks
        clear admission =>
      exact hadmits hrequest networks clear admission

/-- What stands behind the answer that a scan was created. -/
theorem createOrReplay_admitted {node : NodeRuntime} {dependencies : GuestPersistenceDependencies}
    {request : PersistGuestScanRequest} {db : Database} {action : CreateAction}
    {guestScanId token : String} {expiresAt expiresIn : Nat}
    (h : (createOrReplay node dependencies request db).1 =
      .ok (some action) guestScanId token expiresAt expiresIn) :
    ∃ snapshot nonce network rest cleared, snapshot.WellFormed node ∧ request = snapshot.persist ∧
      decideGuestScanIdempotency node snapshot.idempotency
        (existingRecord (db.val.lookup snapshot.guestSessionScope snapshot.idempotencyKey))
        dependencies.tokenKeyring = .proceed action ∧
      tokenMaterial node dependencies guestScanId
        (snapshot.now + guestIdempotencyWindowSeconds) = some (token, nonce) ∧
      snapshot.networkSignalDigests = network :: rest ∧
      Cleared snapshot.now db.val
        (db.val.lookup snapshot.guestSessionScope snapshot.idempotencyKey) action cleared ∧
      Admitted snapshot network
        (newGuestScan snapshot guestScanId nonce dependencies.activeTokenKeyVersion) cleared
        (createOrReplay node dependencies request db).2.val ∧
      expiresAt = snapshot.now + guestIdempotencyWindowSeconds := by
  rcases createOrReplay_outcome node dependencies request db with
    ⟨hfails, -⟩ | ⟨snapshot, hwell, rfl, hout⟩
  · rw [h] at hfails
    exact hfails.elim
  · rw [h] at hout
    generalize (createOrReplay node dependencies snapshot.persist db).2.val = t' at hout ⊢
    cases hout with
    | admitted action guestScanId token nonce network rest cleared t' decision material networks
        clear admission =>
      exact ⟨snapshot, nonce, network, rest, cleared, hwell, rfl, decision, material, networks,
        clear, admission, rfl⟩

theorem createOrReplay_change (node : NodeRuntime) (dependencies : GuestPersistenceDependencies)
    (request : PersistGuestScanRequest) (db : Database) (id : String) :
    Change node db (.createOrReplay dependencies request) id := by
  have hquiet : (Call.createOrReplay dependencies request).scan? = some id →
      (Call.createOrReplay dependencies request).event
        (exec node db (.createOrReplay dependencies request)).1 = none := fun h => by cases h
  have hexec : exec node db (.createOrReplay dependencies request) =
      (.createOrReplay (createOrReplay node dependencies request db).1,
        (createOrReplay node dependencies request db).2) := rfl
  rcases createOrReplay_cases node dependencies request db with hsame | ⟨snapshot, hwell, rfl, hout⟩
  · exact .kept (by rw [hexec, hsame]) hquiet
  · generalize hresult : createOrReplay node dependencies snapshot.persist db = result at hout hexec
    obtain ⟨answer, db'⟩ := result
    dsimp only at hout hexec
    generalize hafter : db'.val = t' at hout
    cases hout with
    | denied code decision => exact .kept (by rw [hexec]; exact congrArg (·.aggregate? id) hafter) hquiet
    | replayed guestScanId token expiresAt expiresIn decision =>
      exact .kept (by rw [hexec]; exact congrArg (·.aggregate? id) hafter) hquiet
    | admitted action guestScanId token nonce network rest cleared t' decision material networks
        clear admission =>
      have hcleared := clear.aggregate? id
      have hadmitted := admission.aggregate? (clear.noOrphans db.property.noOrphans) id
      rw [← hafter] at hadmitted
      by_cases hremoved : action.removes
          (db.val.lookup snapshot.guestSessionScope snapshot.idempotencyKey) = some id
      · have hdeletes : Deletes node db (.createOrReplay dependencies snapshot.persist) id := by
          cases action with
          | create => cases hremoved
          | replaceExpired =>
            obtain ⟨row, hrow, hid⟩ := Option.map_eq_some_iff.mp hremoved
            exact ⟨⟨_, _, _, _, by rw [hexec]⟩, row, hrow, hid⟩
        refine .deleted hdeletes ?_
        rw [hexec]
        intro g hg
        rw [hadmitted] at hg
        split at hg
        · cases hg
          exact Inv.fresh
        · rw [hcleared, if_pos hremoved] at hg
          cases hg
      · rw [if_neg hremoved] at hcleared
        by_cases hid : id = guestScanId
        · have hnew : id = (newGuestScan snapshot guestScanId nonce
              dependencies.activeTokenKeyVersion).id := hid
          rw [if_pos hnew] at hadmitted
          have hbefore : db.val.aggregate? id = none := by
            rw [← hcleared, Tables.aggregate?_eq_none, hnew]
            exact Table.find?_eq_none.mpr fun other hother => (admission.apart other hother).1
          exact .created _ hbefore (by rw [hexec]; exact hadmitted) Inv.fresh
        · have hnew : id ≠ (newGuestScan snapshot guestScanId nonce
              dependencies.activeTokenKeyVersion).id := hid
          rw [if_neg hnew, hcleared] at hadmitted
          exact .kept (by rw [hexec]; exact hadmitted) hquiet

theorem runBatch_cases (batchSize : Nat) (clock : ClockReading) (locked : LockedRows)
    (db : Database) :
    (runBatch batchSize clock locked db).2 = db ∨
      ∃ now, nowValue clock = some now ∧
        (runBatchBody batchSize now locked).run db.val =
          .ok ((runBatch batchSize clock locked db).1,
            (runBatch batchSize clock locked db).2.val) := by
  unfold runBatch
  split
  · exact .inl rfl
  · cases hnow : nowValue clock with
    | none => exact .inl rfl
    | some now =>
      rcases transaction_cases .unavailable (runBatchBody batchSize now locked) db with h | h
      · exact .inr ⟨now, rfl, h⟩
      · exact .inl (congrArg Prod.snd h)

theorem runBatch_change (node : NodeRuntime) (batchSize : Nat) (clock : ClockReading)
    (locked : LockedRows) (db : Database) (id : String) :
    Change node db (.runBatch batchSize clock locked) id := by
  have hquiet : (Call.runBatch batchSize clock locked).scan? = some id →
      (Call.runBatch batchSize clock locked).event
        (exec node db (.runBatch batchSize clock locked)).1 = none := fun h => by cases h
  have hexec : (exec node db (.runBatch batchSize clock locked)).2 =
      (runBatch batchSize clock locked db).2 := rfl
  rcases runBatch_cases batchSize clock locked db with hsame | ⟨now, -, hrun⟩
  · exact .kept (by rw [hexec, hsame]) hquiet
  · obtain ⟨hswept, -⟩ := runBatchBody_ok hrun
    have hafter := hswept.aggregates id
    split at hafter
    · cases hbefore : db.val.aggregate? id with
      | none => exact .kept (by rw [hexec, hbefore, hafter]) hquiet
      | some g =>
        refine .deleted ⟨by rw [hbefore]; rfl, by rw [hexec]; exact hafter⟩ ?_
        rw [hexec, hafter]
        intro g hg
        cases hg
    · exact .kept (by rw [hexec]; exact hafter) hquiet

/-- Every call changes the aggregate of a scan in one of these ways. -/
theorem exec_change (node : NodeRuntime) {db : Database} (hsound : Sound db.val) (call : Call)
    (id : String) : Change node db call id := by
  cases hscan : call.scan? with
  | some j => exact (exec_outcome node hsound hscan).change hscan
  | none =>
    cases call with
    | createOrReplay dependencies request =>
      exact createOrReplay_change node dependencies request db id
    | runBatch batchSize clock locked => exact runBatch_change node batchSize clock locked db id
    | setServiceState state => exact .kept rfl fun h => by cases h
    | commit result transactionNow =>
      cases result with
      | none => exact .kept rfl fun h => by cases h
      | some result => cases hscan
    | acquire guestScanId createAttemptId clock => cases hscan
    | start command clock => cases hscan
    | renew command clock => cases hscan
    | cancel guestScanId clock => cases hscan

/-! ### Removal -/

theorem createOrReplay_deletes {node : NodeRuntime} {db : Database}
    {dependencies : GuestPersistenceDependencies} {request : PersistGuestScanRequest} {id : String}
    {g : Aggregate} (hg : db.val.aggregate? id = some g)
    (h : Deletes node db (.createOrReplay dependencies request) id) :
    (g.scan.idempotencyExpiresAt : Int) ≤ request.trustedNow := by
  obtain ⟨⟨guestScanId, token, expiresAt, expiresIn, hanswer⟩, row, hlookup, hid⟩ := h
  obtain ⟨hmem, hscope, hkey⟩ := lookup_eq_some.mp hlookup
  have hrow : g.scan = row := by
    have hfind := (Tables.aggregate?_eq_some.mp hg).1
    exact db.val.guestScans.eq_of_key_eq (Table.find?_mem hfind) hmem
      ((Tables.scan_id_of_aggregate? hg).trans hid.symm)
  have hanswer : (createOrReplay node dependencies request db).1 = _ :=
    Answer.createOrReplay.inj hanswer
  obtain ⟨snapshot, nonce, network, rest, cleared, hwell, rfl, decision, -⟩ :=
    createOrReplay_admitted hanswer
  have hnow : snapshot.idempotency.now + guestIdempotencyWindowSeconds ≤ uint64Max := by
    have hrange := hwell.range
    have hsame : snapshot.idempotency.now = snapshot.now := rfl
    rw [hsame, guestIdempotencyWindowSeconds, uint64Max]
    rw [timestampEnd] at hrange
    omega
  have hstored : db.val.lookup snapshot.guestSessionScope snapshot.idempotencyKey = some row :=
    hlookup
  have hmade : decideGuestScanIdempotency node snapshot.idempotency (existingRecord (some row))
      dependencies.tokenKeyring = _ :=
    decideGuestScanIdempotency_stored (db.val.guestScans.checked row hmem) hwell.key hnow hscope
      hkey
  rw [hstored, hmade] at decision
  by_contra hfresh
  rw [hrow] at hfresh
  have hlater : ¬ row.idempotencyExpiresAt ≤ snapshot.now := fun hle =>
    hfresh (Int.ofNat_le.mpr hle)
  rw [show snapshot.idempotency.now = snapshot.now from rfl, if_neg hlater] at decision
  split at decision
  · cases decision
  · split at decision
    · cases decision
    · split at decision
      · cases decision
      · cases decision

theorem runBatch_deletes {node : NodeRuntime} {db : Database} {batchSize : Nat}
    {clock : ClockReading} {locked : LockedRows} {id : String} {g : Aggregate}
    (hg : db.val.aggregate? id = some g) (h : Deletes node db (.runBatch batchSize clock locked) id) :
    ∃ now, nowValue clock = some now ∧ g.scan.deletionDeadline ≤ now := by
  obtain ⟨-, hgone⟩ := h
  change (runBatch batchSize clock locked db).2.val.aggregate? id = none at hgone
  rcases runBatch_cases batchSize clock locked db with hsame | ⟨now, hnow, hrun⟩
  · rw [hsame, hg] at hgone
    cases hgone
  · obtain ⟨hswept, -⟩ := runBatchBody_ok hrun
    have hafter := hswept.aggregates id
    rw [hgone] at hafter
    split at hafter
    · rename_i hremoved
      obtain ⟨scan, hfind, hdue⟩ := hswept.due id hremoved
      rw [(Tables.aggregate?_eq_some.mp hg).1] at hfind
      exact ⟨now, hnow, Option.some.inj hfind ▸ hdue⟩
    · rw [hg] at hafter
      cases hafter

/-! ### Every reachable state -/

theorem exec_sound (node : NodeRuntime) {db : Database} (hsound : Sound db.val) (call : Call) :
    Sound (exec node db call).2.val := by
  intro id g hg
  cases exec_change node hsound call id with
  | kept same quiet => exact hsound id g (same.symm.trans hg)
  | event event g₀ g' scan answer before after step =>
    rw [after] at hg
    exact Option.some.inj hg ▸ (hsound id g₀ before).step step
  | created g' before after sound =>
    rw [after] at hg
    exact Option.some.inj hg ▸ sound
  | deleted deletes after => exact after g hg

theorem initial_sound : Sound Database.initial.val := by
  intro id g hg
  cases hg

theorem Reachable.sound {node : NodeRuntime} {db : Database} (h : Reachable node db) :
    Sound db.val :=
  Machine.Reachable.invariant (P := fun db => Sound db.val) initial_sound
    (fun _ call hsound => exec_sound node hsound call) h

end Outscan
