import Outscan.Library.Run
import Outscan.Library.Json.Objects
import Outscan.Supervisor.Launch
import Outscan.Supervisor.Process

/-! The offline launcher: a container is created, looked at, started and removed through the command
line of Docker, while the lifetime timer, the exit of the scanner and any number of stop requests
race with it. -/
namespace Outscan

open Json

/-! ### What Docker reports -/

section Reports

variable (value : Option Json.Value)

def isText (text : String) : Bool := value.bind Value.string? == some text

def isWhole (n : Nat) : Bool := value.bind Value.natural? == some n

def isFlag (flag : Bool) : Bool :=
  match value with
  | some (.bool found) => found == flag
  | _ => false

/-- `JSON.stringify` gives the text of this list of texts. -/
def isTexts (texts : List String) : Bool :=
  match value with
  | some (.array items) => items.map Value.string? == texts.map some
  | _ => false

/-- `JSON.stringify` gives `{}` as text. -/
def isEmptyObject : Bool :=
  match value with
  | some (.object []) => true
  | _ => false

def emptyList : Bool :=
  match value with
  | some .null | some (.array []) => true
  | _ => false

/-- Missing, `null` or empty. -/
def noTmpfs : Bool :=
  match value with
  | none | some .null => true
  | value => isEmptyObject value

end Reports

/-- `[0-9]{1,3}`. -/
def isVersionPart (part : List Char) : Bool :=
  decide (1 ≤ part.length ∧ part.length ≤ 3) && part.all Char.isDigit

/-- `^NAME=[0-9]{1,3}\.[0-9]{1,3}\.[0-9]{1,3}$`. -/
def isVersionVariable (name item : String) : Bool :=
  let front := name.toList ++ ['=']
  let parts := (item.toList.drop front.length).splitOn '.'
  front.isPrefixOf item.toList && parts.length == 3 && parts.all isVersionPart

def environmentPatterns : List (String → Bool) :=
  [(· == "PATH=/usr/local/sbin:/usr/local/bin:/usr/sbin:/usr/bin:/sbin:/bin"),
    isVersionVariable "NODE_VERSION", isVersionVariable "YARN_VERSION",
    (· == "NODE_ENV=production")]

def fixedEnvironment (value : Option Json.Value) : Bool :=
  match value with
  | some (.array items) =>
    items.length == 4 && environmentPatterns.all fun pattern =>
      (items.filter fun item => item.string?.any pattern).length == 1
  | _ => false

def scannerCliPath : String := "/app/apps/api/dist/guest-scanner-cli.js"

/-- `RUNTIME`. -/
def offlineRuntime : String :=
  "\x7b\"schema_version\":1,\"dns\":\x7b\"servers\":[\"127.0.0.1:9\"],\"timeout_ms\":100," ++
    "\"tries\":1,\"max_timeout_ms\":100\x7d,\"configured_internal_cidrs\":[]\x7d"

/-- `isolated`; a missing record on the way throws, which denies as well. -/
def isolated (record : Json.Value) (image : String) : Bool :=
  let config := fun name => (record.get? "Config").bind (Value.get? name)
  let host := fun name => (record.get? "HostConfig").bind (Value.get? name)
  let state := fun name => (record.get? "State").bind (Value.get? name)
  let restart := fun name => (host "RestartPolicy").bind (Value.get? name)
  isText (record.get? "Image") image && (record.get? "Mounts").bind Value.items? matches some [] &&
    isText (state "Status") "created" && isFlag (state "Running") false &&
    isFlag (state "Restarting") false && isFlag (state "Dead") false &&
    isText (config "User") "1000:1000" && isText (config "WorkingDir") "/app" &&
    isFlag (config "OpenStdin") true && isFlag (config "Tty") false &&
    fixedEnvironment (config "Env") && isTexts (config "Entrypoint") ["/usr/local/bin/node"] &&
    isTexts (config "Cmd") [scannerCliPath, offlineRuntime] &&
    isText (host "NetworkMode") "none" && isFlag (host "ReadonlyRootfs") true &&
    isFlag (host "Privileged") false && isFlag (host "Init") true &&
    isWhole (host "Memory") (256 * 1024 * 1024) &&
    isWhole (host "MemorySwap") (256 * 1024 * 1024) &&
    isWhole (host "NanoCpus") 500000000 && isWhole (host "PidsLimit") 64 &&
    isText (host "PidMode") "" && isText (host "IpcMode") "private" && isText (host "UTSMode") "" &&
    isText (host "CgroupnsMode") "private" && isFlag (host "PublishAllPorts") false &&
    isTexts (host "CapDrop") ["ALL"] && emptyList (host "CapAdd") &&
    isTexts (host "SecurityOpt") ["no-new-privileges:true"] && isText (restart "Name") "no" &&
    isWhole (restart "MaximumRetryCount") 0 &&
    isText ((host "LogConfig").bind (Value.get? "Type")) "none" && emptyList (host "Binds") &&
    emptyList (host "VolumesFrom") && emptyList (host "Devices") &&
    emptyList (host "DeviceRequests") && emptyList (host "GroupAdd") && noTmpfs (host "Tmpfs") &&
    isEmptyObject (host "PortBindings")

/-- `^[a-f0-9]{64}$`. -/
def isContainerId (text : String) : Bool :=
  decide (text.toList.length = 64) &&
    text.toList.all fun c => c.isDigit || (decide ('a' ≤ c) && decide (c ≤ 'f'))

def launchLabel : String := "outscan.offline-launch"

def containerName (run : String) : String := "outscan-offline-" ++ run

/-- `owned`, on what `inspect` printed: the record, if it is of this run, and its id. -/
def owned? (run : String) (id : Option String) (stdout : String) :
    Option (Json.Value × String) := do
  let record ← Json.parse (Json.textOf stdout)
  guard (isText (record.get? "Name") ("/" ++ containerName run) = true)
  let labels ← (record.get? "Config").bind (Value.get? "Labels")
  guard (isText (labels.get? launchLabel) run = true)
  let found ← (record.get? "Id").bind Value.string?
  guard (isContainerId found = true)
  guard (id.all (· == found) = true)
  return (record, found)

/-! ### The launcher -/

/-- The commands, but for the `--host` in front. -/
inductive DockerCommand where
  | create
  | inspect
  | list
  | remove (id : String)
  | kill (id : String)
deriving DecidableEq, Repr

/-- Who waits for the answer to a command: the launch, the removal, or a request to stop. -/
inductive LauncherTask where
  | launch
  | removal
  | stop (request : Nat)
deriving DecidableEq, Repr

inductive OfflineLaunchError where
  | launchFailed
  | cleanupFailed
deriving DecidableEq, Repr

/-- `cleaning` waits for the removal, and so do those below. -/
inductive OfflinePhase where
  | creating
  | inspecting
  | attaching
  | attached
  | cleaning
  | rejected (error : OfflineLaunchError)
deriving DecidableEq, Repr

inductive RemovalPhase where
  | listing
  | inspecting
  | removing (id : String)
  | relisting
  | settled (ok : Bool)
deriving DecidableEq, Repr

inductive StopPhase where
  | inspecting
  | killing (id : String)
  | cleaning
  | settled (ok : Bool)
deriving DecidableEq, Repr

/-! Who waits for the removal learns how it ended. -/

def OfflinePhase.told (ok : Bool) : OfflinePhase → OfflinePhase
  | .cleaning => .rejected (if ok then .launchFailed else .cleanupFailed)
  | phase => phase

def StopPhase.told (ok : Bool) : StopPhase → StopPhase
  | .cleaning => .settled ok
  | stop => stop

/-- What `wait` comes to; `settled none` is a rejection. -/
inductive CompletionPhase where
  | waiting
  | cleaning (outcome : ScannerProcessExit)
  | settled (outcome : Option ScannerProcessExit)
deriving DecidableEq, Repr

def CompletionPhase.told (ok : Bool) : CompletionPhase → CompletionPhase
  | .cleaning outcome => .settled (if ok then some outcome else none)
  | completion => completion

def CompletionPhase.isCleaning : CompletionPhase → Bool
  | .cleaning _ => true
  | _ => false

structure OfflineLaunch where
  id : Option String
  phase : OfflinePhase
  removal : Option RemovalPhase
  timer : Bool
  completion : CompletionPhase
  stops : List StopPhase
deriving DecidableEq, Repr

/-- What the launcher sets off. `attach` starts the container and the scanner in it. -/
inductive LauncherEffect where
  | docker (task : LauncherTask) (command : DockerCommand)
  | attach (id : String)
  | killAttached
deriving DecidableEq, Repr

def LauncherEffect.container? : LauncherEffect → Option String
  | .attach id | .docker _ (.remove id) | .docker _ (.kill id) => some id
  | _ => none

def LauncherEffect.isAttach : LauncherEffect → Bool
  | .attach _ => true
  | _ => false

def LauncherEffect.isRemove : LauncherEffect → Bool
  | .docker _ (.remove _) => true
  | _ => false

theorem LauncherEffect.isAttach_eq {effect : LauncherEffect} (h : effect.isAttach = true) :
    ∃ id, effect = .attach id := by
  cases effect with
  | attach id => exact ⟨id, rfl⟩
  | docker => cases h
  | killAttached => cases h

theorem LauncherEffect.isRemove_eq {effect : LauncherEffect} (h : effect.isRemove = true) :
    ∃ task id, effect = .docker task (.remove id) := by
  cases effect with
  | attach => cases h
  | docker task command =>
    cases command with
    | remove id => exact ⟨task, id, rfl⟩
    | create => cases h
    | inspect => cases h
    | list => cases h
    | kill => cases h
  | killAttached => cases h

def OfflineLaunch.start : List LauncherEffect × OfflineLaunch :=
  ([.docker .launch .create], ⟨none, .creating, none, false, .waiting, []⟩)

/-- What happens: a command of a task is answered, with what it printed, trimmed, if it went well;
the attached process is there or not, and exits; the timer goes off; a stop is requested, by `none`
with a signal that there is not. -/
inductive LauncherEvent where
  | docker (task : LauncherTask) (reply : Option String)
  | attached (ok : Bool)
  | exited (outcome : ScannerProcessExit)
  | timer
  | stop (signal : Option StopSignal)

def LauncherEvent.isRemovalAnswer : LauncherEvent → Bool
  | .docker .removal _ => true
  | _ => false

theorem LauncherEvent.isRemovalAnswer_eq {event : LauncherEvent}
    (h : event.isRemovalAnswer = true) : ∃ reply, event = .docker .removal reply := by
  cases event with
  | docker task reply =>
    cases task with
    | removal => exact ⟨reply, rfl⟩
    | launch => cases h
    | stop => cases h
  | attached => cases h
  | exited => cases h
  | timer => cases h
  | stop => cases h

namespace OfflineLaunch

def pending (s : OfflineLaunch) : LauncherTask → Option DockerCommand
  | .launch =>
    match s.phase with
    | .creating => some .create
    | .inspecting => some .inspect
    | _ => none
  | .removal =>
    match s.removal with
    | some .listing | some .relisting => some .list
    | some .inspecting => some .inspect
    | some (.removing id) => some (.remove id)
    | _ => none
  | .stop request =>
    match s.stops[request]? with
    | some .inspecting => some .inspect
    | some (.killing id) => some (.kill id)
    | _ => none

/-- Who waits for the removal learns how it ended; the timer goes with the completion. -/
def told (s : OfflineLaunch) (ok : Bool) : OfflineLaunch :=
  { s with
    phase := s.phase.told ok
    timer := s.timer && !s.completion.isCleaning
    completion := s.completion.told ok
    stops := s.stops.map (StopPhase.told ok) }

/-- `remove`, with those that wait for it already in the state. -/
def remove (s : OfflineLaunch) : List LauncherEffect × OfflineLaunch :=
  match s.removal with
  | none => ([.docker .removal .list], { s with removal := some .listing })
  | some (.settled ok) => ([], s.told ok)
  | some _ => ([], s)

/-- The `catch` of the launch. -/
def fail (s : OfflineLaunch) : List LauncherEffect × OfflineLaunch :=
  remove { s with phase := .cleaning, timer := false }

def settleRemoval (s : OfflineLaunch) (ok : Bool) : List LauncherEffect × OfflineLaunch :=
  ([], told { s with removal := some (.settled ok) } ok)

section Steps

variable (run image : String)

def launched (s : OfflineLaunch) (reply : Option String) : List LauncherEffect × OfflineLaunch :=
  match s.phase, reply with
  | .creating, some stdout =>
    if isContainerId stdout then
      ([.docker .launch .inspect], { s with id := some stdout, phase := .inspecting })
    else s.fail
  | .inspecting, some stdout =>
    match owned? run s.id stdout with
    | none => s.fail
    | some (record, id) =>
      if isolated record image then ([.attach id], { s with phase := .attaching, timer := true })
      else s.fail
  | .creating, none | .inspecting, none => s.fail
  | _, _ => ([], s)

def removed (s : OfflineLaunch) (reply : Option String) : List LauncherEffect × OfflineLaunch :=
  match s.removal, reply with
  | some .listing, some stdout =>
    if stdout = "" then s.settleRemoval true
    else ([.docker .removal .inspect], { s with removal := some .inspecting })
  | some .inspecting, some stdout =>
    match owned? run s.id stdout with
    | none => s.settleRemoval false
    | some (_, id) =>
      ([.docker .removal (.remove id)], { s with removal := some (.removing id) })
  | some (.removing _), some _ =>
    ([.docker .removal .list], { s with removal := some .relisting })
  | some .relisting, some stdout => s.settleRemoval (stdout = "")
  | some (.settled _), _ | none, _ => ([], s)
  | some _, none => s.settleRemoval false

def stopped (s : OfflineLaunch) (request : Nat) (reply : Option String) :
    List LauncherEffect × OfflineLaunch :=
  match s.stops[request]?, reply with
  | some .inspecting, some stdout =>
    match owned? run s.id stdout with
    | none => ([], { s with stops := s.stops.set request (.settled false) })
    | some (_, id) =>
      ([.docker (.stop request) (.kill id)], { s with stops := s.stops.set request (.killing id) })
  | some .inspecting, none => ([], { s with stops := s.stops.set request (.settled false) })
  | some (.killing _), reply =>
    ([], { s with stops := s.stops.set request (.settled reply.isSome) })
  | _, _ => ([], s)

/-- `stop`, of the handle that the launch returned. -/
def stopRequested (s : OfflineLaunch) (signal : Option StopSignal) :
    List LauncherEffect × OfflineLaunch :=
  if s.phase ≠ .attached then ([], s)
  else
    match signal, s.removal with
    | none, _ => ([], { s with stops := s.stops ++ [.settled false] })
    | some .term, none =>
      ([.docker (.stop s.stops.length) .inspect], { s with stops := s.stops ++ [.inspecting] })
    | _, _ => remove { s with stops := s.stops ++ [.cleaning] }

/-- The process of a returned handle has ended, and `wait` goes on. -/
def exited (s : OfflineLaunch) (outcome : ScannerProcessExit) :
    List LauncherEffect × OfflineLaunch :=
  if s.phase = .attached ∧ s.completion = .waiting then
    remove { s with completion := .cleaning outcome }
  else ([], s)

def timedOut (s : OfflineLaunch) : List LauncherEffect × OfflineLaunch :=
  if s.timer then
    let next := remove { s with timer := false }
    if s.phase = .attached then (next.1 ++ [.killAttached], next.2) else next
  else ([], s)

def step (s : OfflineLaunch) (event : LauncherEvent) : List LauncherEffect × OfflineLaunch :=
  match event with
  | .docker .launch reply => s.launched run image reply
  | .docker .removal reply => s.removed run reply
  | .docker (.stop request) reply => s.stopped run request reply
  | .attached ok =>
    if s.phase = .attaching then
      if ok then ([], { s with phase := .attached }) else s.fail
    else ([], s)
  | .exited outcome => s.exited outcome
  | .timer => s.timedOut
  | .stop signal => s.stopRequested signal

end Steps

/-! ### What a step can do -/

def Opening (s : OfflineLaunch) : Prop := s.phase = .creating ∨ s.phase = .inspecting

def Removing (s : OfflineLaunch) : Prop :=
  ∃ phase, s.removal = some phase ∧ ∀ ok, phase ≠ .settled ok

theorem Removing.unsettled {s : OfflineLaunch} (h : s.Removing) (ok : Bool) :
    s.removal ≠ some (.settled ok) := by
  obtain ⟨phase, hremoval, hphase⟩ := h
  rw [hremoval]
  exact fun heq => hphase ok (Option.some.inj heq)

def Waits (s : OfflineLaunch) : Prop :=
  s.phase = .cleaning ∨ s.completion.isCleaning = true ∨ StopPhase.cleaning ∈ s.stops

/-- The moves of a launch, each with the event it answers and what it sets off. -/
inductive Move (run image : String) (s : OfflineLaunch) :
    LauncherEvent → List LauncherEffect → OfflineLaunch → Prop where
  | idle {event : LauncherEvent} (hidle : ∀ reply, event = .docker .removal reply → ¬ s.Removing) :
    Move run image s event [] s
  | created {id : String} (hphase : s.phase = .creating) :
    Move run image s (.docker .launch (some id)) [.docker .launch .inspect]
      { s with id := some id, phase := .inspecting }
  | attach {stdout id : String} {record : Json.Value} (hphase : s.phase = .inspecting)
    (howned : owned? run s.id stdout = some (record, id))
    (hisolated : isolated record image = true) :
    Move run image s (.docker .launch (some stdout)) [.attach id]
      { s with phase := .attaching, timer := true }
  | failed {event : LauncherEvent} (hevent : ∀ reply, event ≠ .docker .removal reply) :
    Move run image s event s.fail.1 s.fail.2
  | attached (hphase : s.phase = .attaching) :
    Move run image s (.attached true) [] { s with phase := .attached }
  | listed {reply : Option String} (hremoval : s.removal = some .listing) :
    Move run image s (.docker .removal reply) [.docker .removal .inspect]
      { s with removal := some .inspecting }
  | found {stdout id : String} {record : Json.Value} (hremoval : s.removal = some .inspecting)
    (howned : owned? run s.id stdout = some (record, id)) :
    Move run image s (.docker .removal (some stdout)) [.docker .removal (.remove id)]
      { s with removal := some (.removing id) }
  | relisted {reply : Option String} {id : String} (hremoval : s.removal = some (.removing id)) :
    Move run image s (.docker .removal reply) [.docker .removal .list]
      { s with removal := some .relisting }
  | settled {reply : Option String} (ok : Bool) (hremoving : s.Removing)
    (hgone : ok = true → reply = some "" ∧ s.pending .removal = some .list) :
    Move run image s (.docker .removal reply) [] (s.settleRemoval ok).2
  | stopEnded {request : Nat} {reply : Option String} (ok : Bool) :
    Move run image s (.docker (.stop request) reply) []
      { s with stops := s.stops.set request (.settled ok) }
  | kill {request : Nat} {stdout id : String} {record : Json.Value}
    (hstop : s.pending (.stop request) = some .inspect)
    (howned : owned? run s.id stdout = some (record, id)) :
    Move run image s (.docker (.stop request) (some stdout)) [.docker (.stop request) (.kill id)]
      { s with stops := s.stops.set request (.killing id) }
  | stopDenied {signal : Option StopSignal} :
    Move run image s (.stop signal) [] { s with stops := s.stops ++ [.settled false] }
  | stopOwned {signal : Option StopSignal} :
    Move run image s (.stop signal) [.docker (.stop s.stops.length) .inspect]
      { s with stops := s.stops ++ [.inspecting] }
  | stopRemoves {signal : Option StopSignal} (hphase : s.phase = .attached) :
    Move run image s (.stop signal) (remove { s with stops := s.stops ++ [.cleaning] }).1
      (remove { s with stops := s.stops ++ [.cleaning] }).2
  | exited {outcome : ScannerProcessExit} (hphase : s.phase = .attached)
    (hwaiting : s.completion = .waiting) :
    Move run image s (.exited outcome) (remove { s with completion := .cleaning outcome }).1
      (remove { s with completion := .cleaning outcome }).2
  | timedOut {more : List LauncherEffect} (htimer : s.timer = true)
    (hmore : more = [] ∨ more = [.killAttached]) :
    Move run image s .timer ((remove { s with timer := false }).1 ++ more)
      (remove { s with timer := false }).2

section Moves

variable (run image : String) (s : OfflineLaunch)

theorem launched_move (reply : Option String) :
    Move run image s (.docker .launch reply) (s.launched run image reply).1
      (s.launched run image reply).2 := by
  have hlaunch : ∀ other, LauncherEvent.docker .launch reply ≠ .docker .removal other :=
    fun _ heq => by cases heq
  unfold launched
  split
  · rename_i hphase
    split
    · exact .created hphase
    · exact .failed hlaunch
  · rename_i hphase
    split
    · exact .failed hlaunch
    · rename_i howned
      split
      · rename_i hisolated
        exact .attach hphase howned hisolated
      · exact .failed hlaunch
  · exact .failed hlaunch
  · exact .failed hlaunch
  · exact .idle fun other heq => absurd heq (hlaunch other)

theorem removed_move (reply : Option String) :
    Move run image s (.docker .removal reply) (s.removed run reply).1 (s.removed run reply).2 := by
  have hunsettled : ∀ {phase : RemovalPhase}, s.removal = some phase →
      (∀ ok, phase ≠ .settled ok) → s.Removing := fun hremoval hphase => ⟨_, hremoval, hphase⟩
  unfold removed
  split
  · rename_i hremoval
    split
    · rename_i hnothing
      refine .settled true (hunsettled hremoval fun _ => RemovalPhase.noConfusion) fun _ => ?_
      simp [pending, hremoval, hnothing]
    · exact .listed hremoval
  · rename_i hremoval
    split
    · exact .settled false (hunsettled hremoval fun _ => RemovalPhase.noConfusion) Bool.noConfusion
    · rename_i howned
      exact .found hremoval howned
  · rename_i hremoval
    exact .relisted hremoval
  · rename_i stdout hremoval
    refine .settled _ (hunsettled hremoval fun _ => RemovalPhase.noConfusion) fun hnothing => ?_
    simp [pending, hremoval, of_decide_eq_true hnothing]
  · rename_i ok hsettled
    exact .idle fun _ _ hremoving => hremoving.unsettled ok hsettled
  · rename_i hnone
    refine .idle fun _ _ hremoving => ?_
    obtain ⟨phase, hremoval, -⟩ := hremoving
    cases hnone.symm.trans hremoval
  · rename_i phase hsettled hremoval
    refine .settled false (hunsettled hremoval ?_) Bool.noConfusion
    rintro ok rfl
    exact hsettled ok rfl

theorem stopped_move (request : Nat) (reply : Option String) :
    Move run image s (.docker (.stop request) reply) (s.stopped run request reply).1
      (s.stopped run request reply).2 := by
  unfold stopped
  split
  · rename_i hstop
    split
    · exact .stopEnded false
    · rename_i howned
      exact .kill (by simp [pending, hstop]) howned
  · exact .stopEnded false
  · exact .stopEnded _
  · exact .idle fun _ heq => by cases heq

theorem stopRequested_move (signal : Option StopSignal) :
    Move run image s (.stop signal) (s.stopRequested signal).1 (s.stopRequested signal).2 := by
  unfold stopRequested
  split
  · exact .idle fun _ heq => by cases heq
  · rename_i hphase
    split
    · exact .stopDenied
    · exact .stopOwned
    · exact .stopRemoves (not_not.mp hphase)

theorem timedOut_move : Move run image s .timer s.timedOut.1 s.timedOut.2 := by
  unfold timedOut
  split
  · rename_i htimer
    dsimp only
    split
    · exact .timedOut htimer (.inr rfl)
    · rw [← List.append_nil (remove { s with timer := false }).1]
      exact .timedOut htimer (.inl rfl)
  · exact .idle fun _ heq => by cases heq

theorem step_move (event : LauncherEvent) :
    Move run image s event (step run image s event).1 (step run image s event).2 := by
  cases event with
  | docker task reply =>
    cases task with
    | launch => exact launched_move run image s reply
    | removal => exact removed_move run image s reply
    | stop request => exact stopped_move run image s request reply
  | attached ok =>
    dsimp only [step]
    split
    · rename_i hphase
      cases ok with
      | false => exact .failed fun _ heq => by cases heq
      | true => exact .attached hphase
    · exact .idle fun _ heq => by cases heq
  | exited outcome =>
    dsimp only [step, exited]
    split
    · rename_i hready
      exact .exited hready.1 hready.2
    · exact .idle fun _ heq => by cases heq
  | timer => exact timedOut_move run image s
  | stop signal => exact stopRequested_move run image s signal

end Moves

/-! ### How the parts of a launch go together -/

/-- Before anything is removed the container was looked at; who learned how the removal ended,
learned it from the removal. -/
structure Ready (s : OfflineLaunch) : Prop where
  opened : ¬ s.Opening
  rejected : ∀ error, s.phase = .rejected error →
    s.removal = some (.settled (error = .launchFailed))
  completed : ∀ outcome, s.completion = .settled outcome →
    s.removal = some (.settled outcome.isSome)

structure Ordered (s : OfflineLaunch) : Prop where
  named : s.phase = .inspecting → s.id.isSome = true
  begun : s.removal.isSome = true → ¬ s.Opening
  timed : s.timer = true → ¬ s.Opening
  armed : s.phase = .attaching ∨ s.phase = .attached → s.timer = true ∨ s.removal.isSome = true
  waits : s.Waits → s.Removing
  rejected : ∀ error, s.phase = .rejected error →
    s.removal = some (.settled (error = .launchFailed))
  completed : ∀ outcome, s.completion = .settled outcome →
    s.removal = some (.settled outcome.isSome)

theorem Ordered.ready {s : OfflineLaunch} (h : Ordered s) (hopened : ¬ s.Opening) : Ready s :=
  ⟨hopened, h.rejected, h.completed⟩

theorem start_ordered : Ordered OfflineLaunch.start.2 := by
  constructor <;> simp [OfflineLaunch.start, Waits, CompletionPhase.isCleaning]

theorem told_waits (s : OfflineLaunch) (ok : Bool) : ¬ (s.told ok).Waits := by
  obtain ⟨id, phase, removal, timer, completion, stops⟩ := s
  rintro (hphase | hcompletion | hstops)
  · cases phase <;> cases hphase
  · cases completion <;> cases hcompletion
  · obtain ⟨stop, -, hstop⟩ := List.mem_map.mp hstops
    cases stop <;> cases hstop

theorem told_ordered {s : OfflineLaunch} {ok : Bool} (h : Ready s)
    (hremoval : s.removal = some (.settled ok)) : Ordered (s.told ok) := by
  obtain ⟨id, phase, removal, timer, completion, stops⟩ := s
  cases hremoval
  obtain ⟨hopened, hrejected, hcompleted⟩ := h
  have hphase : ¬ (told ⟨id, phase, some (.settled ok), timer, completion, stops⟩ ok).Opening := by
    cases phase <;> simp_all [told, OfflinePhase.told, Opening]
  exact {
    named := fun hinspecting => absurd (.inr hinspecting) hphase
    begun := fun _ => hphase
    timed := fun _ => hphase
    armed := fun _ => .inr rfl
    waits := fun hwaits => absurd hwaits (told_waits _ ok)
    rejected := by
      cases phase <;> cases ok <;> simp_all [told, OfflinePhase.told]
    completed := by
      cases completion <;> cases ok <;> simp_all [told, CompletionPhase.told] }

theorem Ready.removing {s : OfflineLaunch} (h : Ready s) {phase : RemovalPhase}
    (hphase : ∀ ok, phase ≠ .settled ok) (hremoval : ∀ ok, s.removal ≠ some (.settled ok)) :
    Ordered { s with removal := some phase } where
  named hinspecting := absurd (.inr hinspecting) h.opened
  begun _ := h.opened
  timed _ := h.opened
  armed _ := .inr rfl
  waits _ := ⟨phase, rfl, hphase⟩
  rejected error herror := absurd (h.rejected error herror) (hremoval _)
  completed outcome houtcome := absurd (h.completed outcome houtcome) (hremoval _)

theorem remove_ordered {s : OfflineLaunch} (h : Ready s) : Ordered s.remove.2 := by
  unfold remove
  split
  · rename_i hnone
    apply h.removing
    · exact fun _ => RemovalPhase.noConfusion
    · intro ok hsettled
      cases hnone.symm.trans hsettled
  · rename_i hsettled
    exact told_ordered h hsettled
  · rename_i phase hphase hremoval
    obtain ⟨id, place, removal, timer, completion, stops⟩ := s
    cases hremoval
    exact h.removing (fun ok heq => hphase ok heq) fun ok heq => hphase ok (Option.some.inj heq)

theorem fail_ordered {s : OfflineLaunch} (h : Ordered s) : Ordered s.fail.2 := by
  apply remove_ordered
  constructor
  · rintro (hphase | hphase) <;> cases hphase
  · intro error herror
    cases herror
  · exact h.completed

theorem Ordered.opened {s : OfflineLaunch} (h : Ordered s) (hremoving : s.Removing) :
    ¬ s.Opening := by
  obtain ⟨phase, hremoval, -⟩ := hremoving
  exact h.begun (hremoval ▸ rfl)

theorem Ordered.moved {s : OfflineLaunch} (h : Ordered s) (hremoving : s.Removing)
    {next : RemovalPhase} (hnext : ∀ ok, next ≠ .settled ok) :
    Ordered { s with removal := some next } :=
  (h.ready (h.opened hremoving)).removing hnext hremoving.unsettled

theorem settleRemoval_ordered {s : OfflineLaunch} (h : Ordered s) (hremoving : s.Removing)
    (ok : Bool) : Ordered (s.settleRemoval ok).2 := by
  apply told_ordered _ rfl
  constructor
  · exact h.opened hremoving
  · exact fun error herror => absurd (h.rejected error herror) (hremoving.unsettled _)
  · exact fun outcome houtcome => absurd (h.completed outcome houtcome) (hremoving.unsettled _)

theorem Ordered.withStops {s : OfflineLaunch} (h : Ordered s) {stops : List StopPhase}
    (hstops : StopPhase.cleaning ∈ stops → StopPhase.cleaning ∈ s.stops) :
    Ordered { s with stops } where
  named := h.named
  begun := h.begun
  timed := h.timed
  armed := h.armed
  waits hwaits := h.waits (hwaits.imp_right (Or.imp_right hstops))
  rejected := h.rejected
  completed := h.completed

theorem Ordered.placed {s : OfflineLaunch} (h : Ordered s) {phase : OfflinePhase} {timer : Bool}
    (hphase : phase = .attaching ∨ phase = .attached)
    (harmed : timer = true ∨ s.removal.isSome = true) : Ordered { s with phase, timer } := by
  have hopened : ¬ Opening { s with phase, timer } := by
    rcases hphase with rfl | rfl <;> rintro (hopening | hopening) <;> cases hopening
  have hwaiting : phase ≠ .cleaning := by
    rcases hphase with rfl | rfl <;> exact fun heq => by cases heq
  exact {
    named := fun hinspecting => absurd (.inr hinspecting) hopened
    begun := fun _ => hopened
    timed := fun _ => hopened
    armed := fun _ => harmed
    waits := fun hwaits => h.waits (.inr (hwaits.resolve_left hwaiting))
    rejected := fun error herror => by
      rcases hphase with rfl | rfl <;> cases herror
    completed := h.completed }

theorem mem_set_of_ne {stops : List StopPhase} {request : Nat} {next : StopPhase}
    (hnext : next ≠ .cleaning) (h : StopPhase.cleaning ∈ stops.set request next) :
    StopPhase.cleaning ∈ stops :=
  (List.mem_or_eq_of_mem_set h).resolve_right fun heq => hnext heq.symm

theorem mem_append_of_ne {stops : List StopPhase} {next : StopPhase} (hnext : next ≠ .cleaning)
    (h : StopPhase.cleaning ∈ stops ++ [next]) : StopPhase.cleaning ∈ stops := by
  refine (List.mem_append.mp h).resolve_right fun hmem => hnext ?_
  exact (List.mem_singleton.mp hmem).symm

theorem Move.ordered {run image : String} {s next : OfflineLaunch} {event : LauncherEvent}
    {effects : List LauncherEffect} (hmove : Move run image s event effects next) (h : Ordered s) :
    Ordered next := by
  have hopened : s.phase = .attached → ¬ s.Opening := by
    rintro hphase (hopening | hopening) <;> cases hphase.symm.trans hopening
  cases hmove with
  | idle => exact h
  | created hphase =>
    have hnone : s.removal.isSome = true → False := fun hsome => h.begun hsome (.inl hphase)
    have htimer : s.timer = true → False := fun htimer => h.timed htimer (.inl hphase)
    exact {
      named := fun _ => rfl
      begun := fun hsome => (hnone hsome).elim
      timed := fun htrue => (htimer htrue).elim
      armed := by rintro (hother | hother) <;> cases hother
      waits := fun hwaits => h.waits (.inr (hwaits.resolve_left OfflinePhase.noConfusion))
      rejected := fun _ => OfflinePhase.noConfusion
      completed := h.completed }
  | attach => exact h.placed (.inl rfl) (.inl rfl)
  | failed => exact fail_ordered h
  | attached hphase => exact h.placed (.inr rfl) (h.armed (.inl hphase))
  | listed hremoval =>
    exact h.moved ⟨_, hremoval, fun _ => RemovalPhase.noConfusion⟩ fun _ => RemovalPhase.noConfusion
  | found hremoval howned =>
    exact h.moved ⟨_, hremoval, fun _ => RemovalPhase.noConfusion⟩ fun _ => RemovalPhase.noConfusion
  | relisted hremoval =>
    exact h.moved ⟨_, hremoval, fun _ => RemovalPhase.noConfusion⟩ fun _ => RemovalPhase.noConfusion
  | settled ok hremoving => exact settleRemoval_ordered h hremoving ok
  | stopEnded => exact h.withStops (mem_set_of_ne StopPhase.noConfusion)
  | kill => exact h.withStops (mem_set_of_ne StopPhase.noConfusion)
  | stopDenied => exact h.withStops (mem_append_of_ne StopPhase.noConfusion)
  | stopOwned => exact h.withStops (mem_append_of_ne StopPhase.noConfusion)
  | stopRemoves hphase => exact remove_ordered ⟨hopened hphase, h.rejected, h.completed⟩
  | exited hphase =>
    exact remove_ordered ⟨hopened hphase, h.rejected, fun _ houtcome => by cases houtcome⟩
  | timedOut htimer => exact remove_ordered ⟨h.timed htimer, h.rejected, h.completed⟩

/-! ### What happens to the container -/

theorem remove_effects (s : OfflineLaunch) :
    s.remove.1 = [] ∨ s.remove.1 = [.docker .removal .list] := by
  unfold remove
  split
  · exact .inr rfl
  · exact .inl rfl
  · exact .inl rfl

theorem not_mem_remove {s : OfflineLaunch} {effect : LauncherEffect} {id : String}
    (hid : effect.container? = some id) : effect ∉ s.remove.1 := by
  intro hmem
  rcases remove_effects s with hnone | hlist
  · rw [hnone] at hmem
    cases hmem
  · rw [hlist] at hmem
    cases List.mem_singleton.mp hmem
    cases hid

theorem owned?_id {run stdout id found : String} {record : Json.Value}
    (h : owned? run (some id) stdout = some (record, found)) : found = id := by
  simp only [owned?, Option.bind_eq_bind, Option.bind_eq_some_iff] at h
  obtain ⟨_, _, _, _, _, _, _, _, _, _, _, _, _, hid, hpair⟩ := h
  cases hpair
  exact (eq_of_beq ((Option.guard_eq_some' _).mp hid)).symm

theorem Move.names {run image : String} {s next : OfflineLaunch} {event : LauncherEvent}
    {effects : List LauncherEffect} (hmove : Move run image s event effects next)
    {effect : LauncherEffect} {id : String} (hmem : effect ∈ effects)
    (hid : effect.container? = some id) :
    ∃ task stdout record, event = .docker task (some stdout) ∧
      s.pending task = some .inspect ∧ owned? run s.id stdout = some (record, id) ∧
      effects = [effect] ∧
      (effect = .attach id → s.phase = .inspecting ∧ isolated record image = true ∧
        next.phase = .attaching) ∧
      (∀ other, effect = .docker other (.remove id) → s.removal = some .inspecting ∧
        next.removal = some (.removing id)) := by
  cases hmove with
  | idle => cases hmem
  | created =>
    cases List.mem_singleton.mp hmem
    cases hid
  | attach hphase howned hisolated =>
    cases List.mem_singleton.mp hmem
    cases hid
    exact ⟨_, _, _, rfl, by simp [pending, hphase], howned, rfl,
      fun _ => ⟨hphase, hisolated, rfl⟩, fun _ => LauncherEffect.noConfusion⟩
  | failed => exact absurd hmem (not_mem_remove hid)
  | attached => cases hmem
  | listed =>
    cases List.mem_singleton.mp hmem
    cases hid
  | found hremoval howned =>
    cases List.mem_singleton.mp hmem
    cases hid
    exact ⟨_, _, _, rfl, by simp [pending, hremoval], howned, rfl, LauncherEffect.noConfusion,
      fun _ _ => ⟨hremoval, rfl⟩⟩
  | relisted =>
    cases List.mem_singleton.mp hmem
    cases hid
  | settled => cases hmem
  | stopEnded => cases hmem
  | kill hstop howned =>
    cases List.mem_singleton.mp hmem
    cases hid
    exact ⟨_, _, _, rfl, hstop, howned, rfl, LauncherEffect.noConfusion,
      fun _ heq => by cases heq⟩
  | stopDenied => cases hmem
  | stopOwned =>
    cases List.mem_singleton.mp hmem
    cases hid
  | stopRemoves => exact absurd hmem (not_mem_remove hid)
  | exited => exact absurd hmem (not_mem_remove hid)
  | timedOut htimer hmore =>
    rcases List.mem_append.mp hmem with hmem | hmem
    · exact absurd hmem (not_mem_remove hid)
    · rcases hmore with rfl | rfl
      · cases hmem
      · cases List.mem_singleton.mp hmem
        cases hid

def answersLeft : Option RemovalPhase → Nat
  | none => 5
  | some .listing => 4
  | some .inspecting => 3
  | some (.removing _) => 2
  | some .relisting => 1
  | some (.settled _) => 0

theorem settled_of_answersLeft {removal : Option RemovalPhase} (h : answersLeft removal = 0) :
    ∃ ok, removal = some (.settled ok) := by
  unfold answersLeft at h
  split at h
  all_goals try cases h
  exact ⟨_, rfl⟩

theorem Removing.answersLeft_pos {s : OfflineLaunch} (h : s.Removing) :
    0 < answersLeft s.removal := by
  refine Nat.pos_of_ne_zero fun hzero => ?_
  obtain ⟨ok, hsettled⟩ := settled_of_answersLeft hzero
  exact h.unsettled ok hsettled

theorem remove_removal (s : OfflineLaunch) :
    s.remove.2.removal = s.removal ∨ s.removal = none ∧ s.remove.2.removal = some .listing := by
  unfold remove
  split
  · rename_i hnone
    exact .inr ⟨hnone, rfl⟩
  · exact .inl rfl
  · exact .inl rfl

theorem remove_begun (s : OfflineLaunch) : s.remove.2.removal.isSome = true := by
  unfold remove
  split
  · rfl
  · rename_i hsettled
    rw [told, hsettled]
    rfl
  · rename_i hremoval
    rw [hremoval]
    rfl

theorem told_opening {s : OfflineLaunch} {ok : Bool} (h : (s.told ok).Opening) : s.Opening := by
  obtain ⟨id, phase, removal, timer, completion, stops⟩ := s
  rcases h with h | h <;> cases phase <;> simp_all [told, OfflinePhase.told, Opening]

theorem remove_opening {s : OfflineLaunch} (h : s.remove.2.Opening) : s.Opening := by
  unfold remove at h
  split at h
  · exact h
  · exact told_opening h
  · exact h

structure Advance (event : LauncherEvent) (s next : OfflineLaunch) : Prop where
  left : answersLeft next.removal ≤ answersLeft s.removal
  answered : ∀ reply, event = .docker .removal reply → s.Removing →
    answersLeft next.removal < answersLeft s.removal
  opening : next.Opening → s.Opening
  begun : s.removal.isSome = true → next.removal.isSome = true
  gone : next.removal = some (.settled true) → s.removal = some (.settled true) ∨
    event = .docker .removal (some "") ∧ s.pending .removal = some .list

theorem Advance.kept {event : LauncherEvent} {s next : OfflineLaunch}
    (hremoval : next.removal = s.removal) (hopening : next.Opening → s.Opening)
    (hevent : ∀ reply, event = .docker .removal reply → ¬ s.Removing) : Advance event s next where
  left := by rw [hremoval]
  answered reply hreply hremoving := absurd hremoving (hevent reply hreply)
  opening := hopening
  begun := by
    rw [hremoval]
    exact fun h => h
  gone hgone := .inl (hremoval ▸ hgone)

theorem Advance.remove {event : LauncherEvent} {s waiting : OfflineLaunch}
    (hremoval : waiting.removal = s.removal) (hopening : waiting.Opening → s.Opening)
    (hevent : ∀ reply, event ≠ .docker .removal reply) : Advance event s waiting.remove.2 := by
  rcases remove_removal waiting with hsame | ⟨hnone, hlisting⟩
  · exact .kept (hsame.trans hremoval) (hopening ∘ remove_opening) fun reply hreply =>
      absurd hreply (hevent reply)
  · rw [hremoval] at hnone
    exact {
      left := by
        rw [hlisting, hnone]
        decide
      answered := fun reply hreply => absurd hreply (hevent reply)
      opening := hopening ∘ remove_opening
      begun := fun hsome => by
        rw [hnone] at hsome
        cases hsome
      gone := fun hgone => by cases hlisting.symm.trans hgone }

theorem Advance.moved {event : LauncherEvent} {s next : OfflineLaunch} {phase : RemovalPhase}
    (hphase : next.removal = some phase) (hopening : next.Opening → s.Opening)
    (hleft : answersLeft next.removal < answersLeft s.removal)
    (hgone : phase = .settled true →
      event = .docker .removal (some "") ∧ s.pending .removal = some .list) :
    Advance event s next where
  left := Nat.le_of_lt hleft
  answered _ _ _ := hleft
  opening := hopening
  begun _ := hphase ▸ rfl
  gone hsettled := .inr (hgone (Option.some.inj (hphase.symm.trans hsettled)))

theorem Move.advance {run image : String} {s next : OfflineLaunch} {event : LauncherEvent}
    {effects : List LauncherEffect} (hmove : Move run image s event effects next) :
    Advance event s next := by
  cases hmove with
  | idle hidle => exact .kept rfl (fun h => h) hidle
  | created hphase => exact .kept rfl (fun _ => .inl hphase) fun _ heq => by cases heq
  | attach hphase => exact .kept rfl (fun _ => .inr hphase) fun _ heq => by cases heq
  | failed hevent =>
    refine .remove rfl ?_ hevent
    rintro (hother | hother) <;> cases hother
  | attached =>
    refine .kept rfl ?_ fun _ heq => by cases heq
    rintro (hother | hother) <;> cases hother
  | listed hremoval =>
    refine .moved rfl (fun h => h) ?_ RemovalPhase.noConfusion
    rw [hremoval]
    exact Nat.lt_succ_self 3
  | found hremoval =>
    refine .moved rfl (fun h => h) ?_ RemovalPhase.noConfusion
    rw [hremoval]
    exact Nat.lt_succ_self 2
  | relisted hremoval =>
    refine .moved rfl (fun h => h) ?_ RemovalPhase.noConfusion
    rw [hremoval]
    exact Nat.lt_succ_self 1
  | settled ok hremoving hgone =>
    refine .moved rfl told_opening hremoving.answersLeft_pos fun hsettled => ?_
    obtain ⟨hreply, hlist⟩ := hgone (RemovalPhase.settled.inj hsettled)
    exact ⟨hreply ▸ rfl, hlist⟩
  | stopEnded => exact .kept rfl (fun h => h) fun _ heq => by cases heq
  | kill => exact .kept rfl (fun h => h) fun _ heq => by cases heq
  | stopDenied => exact .kept rfl (fun h => h) fun _ heq => by cases heq
  | stopOwned => exact .kept rfl (fun h => h) fun _ heq => by cases heq
  | stopRemoves => exact .remove rfl (fun h => h) fun _ heq => by cases heq
  | exited => exact .remove rfl (fun h => h) fun _ heq => by cases heq
  | timedOut => exact .remove rfl (fun h => h) fun _ heq => by cases heq

theorem Move.single {run image : String} {s next : OfflineLaunch} {event : LauncherEvent}
    {effects : List LauncherEffect} (hmove : Move run image s event effects next)
    {p : LauncherEffect → Bool}
    (hp : ∀ effect, p effect = true → ∃ id, effect.container? = some id) :
    effects.countP p = 0 ∨ ∃ effect, p effect = true ∧ effect ∈ effects ∧ effects.countP p = 1 := by
  by_cases hany : ∃ effect ∈ effects, p effect = true
  · obtain ⟨effect, hmem, heffect⟩ := hany
    obtain ⟨id, hid⟩ := hp effect heffect
    obtain ⟨_, _, _, _, _, _, hsingle, _⟩ := hmove.names hmem hid
    refine .inr ⟨effect, heffect, hmem, ?_⟩
    rw [hsingle, List.countP_singleton, if_pos heffect]
  · refine .inl (List.countP_eq_zero.mpr fun effect hmem heffect => hany ⟨effect, hmem, heffect⟩)

/-- The scanner is started only on the way out of the opening. -/
theorem Move.attaches {run image : String} {s next : OfflineLaunch} {event : LauncherEvent}
    {effects : List LauncherEffect} (hmove : Move run image s event effects next) :
    effects.countP LauncherEffect.isAttach = 0 ∧ (next.Opening → s.Opening) ∨
      effects.countP LauncherEffect.isAttach = 1 ∧ s.Opening ∧ ¬ next.Opening := by
  have hid : ∀ effect : LauncherEffect, effect.isAttach = true →
      ∃ id, effect.container? = some id := by
    intro effect heffect
    obtain ⟨id, rfl⟩ := LauncherEffect.isAttach_eq heffect
    exact ⟨id, rfl⟩
  rcases hmove.single hid with hzero | ⟨effect, heffect, hmem, hone⟩
  · exact .inl ⟨hzero, hmove.advance.opening⟩
  · obtain ⟨id, rfl⟩ := LauncherEffect.isAttach_eq heffect
    obtain ⟨_, _, _, _, _, _, _, hattach, _⟩ := hmove.names hmem rfl
    obtain ⟨hphase, -, hnext⟩ := hattach rfl
    refine .inr ⟨hone, .inr hphase, ?_⟩
    rintro (hother | hother) <;> cases hnext.symm.trans hother

theorem Move.removes {run image : String} {s next : OfflineLaunch} {event : LauncherEvent}
    {effects : List LauncherEffect} (hmove : Move run image s event effects next) :
    effects.countP LauncherEffect.isRemove = 0 ∧
        (2 < answersLeft next.removal → 2 < answersLeft s.removal) ∨
      effects.countP LauncherEffect.isRemove = 1 ∧ 2 < answersLeft s.removal ∧
        ¬ 2 < answersLeft next.removal := by
  have hid : ∀ effect : LauncherEffect, effect.isRemove = true →
      ∃ id, effect.container? = some id := by
    intro effect heffect
    obtain ⟨task, id, rfl⟩ := LauncherEffect.isRemove_eq heffect
    exact ⟨id, rfl⟩
  rcases hmove.single hid with hzero | ⟨effect, heffect, hmem, hone⟩
  · exact .inl ⟨hzero, fun hnext => Nat.lt_of_lt_of_le hnext hmove.advance.left⟩
  · obtain ⟨task, id, rfl⟩ := LauncherEffect.isRemove_eq heffect
    obtain ⟨_, _, _, _, _, _, _, _, hremove⟩ := hmove.names hmem rfl
    obtain ⟨hremoval, hnext⟩ := hremove task rfl
    refine .inr ⟨hone, ?_, ?_⟩
    · rw [hremoval]
      exact Nat.lt_succ_self 2
    · rw [hnext]
      exact Nat.lt_irrefl 2

/-! ### Whole runs -/

section Runs

variable (run image : String)

def after (events : List LauncherEvent) : OfflineLaunch :=
  Machine.run (step run image) OfflineLaunch.start.2 events

def effects (events : List LauncherEvent) : List LauncherEffect :=
  (Machine.answers (step run image) OfflineLaunch.start.2 events).flatten

theorem after_append (first rest : List LauncherEvent) :
    after run image (first ++ rest) = Machine.run (step run image) (after run image first) rest :=
  Machine.run_append _ _ _ _

theorem after_ordered (events : List LauncherEvent) : Ordered (after run image events) :=
  Machine.Reachable.invariant start_ordered
    (fun s event h => (step_move run image s event).ordered h) ⟨events, rfl⟩

theorem effect_owned {first : List LauncherEvent} {event : LauncherEvent}
    {effect : LauncherEffect} {id : String}
    (hmem : effect ∈ (step run image (after run image first) event).1)
    (hid : effect.container? = some id) :
    ∃ task stdout record, event = .docker task (some stdout) ∧
      (after run image first).pending task = some .inspect ∧
      owned? run (after run image first).id stdout = some (record, id) ∧
      (effect = .attach id → (after run image first).id = some id ∧
        (after run image first).removal = none ∧ isolated record image = true) := by
  obtain ⟨task, stdout, record, hevent, hpending, howned, -, hattach, -⟩ :=
    (step_move run image _ event).names hmem hid
  refine ⟨task, stdout, record, hevent, hpending, howned, fun heffect => ?_⟩
  obtain ⟨hphase, hisolated, -⟩ := hattach heffect
  have hordered := after_ordered run image first
  obtain ⟨created, hcreated⟩ := Option.isSome_iff_exists.mp (hordered.named hphase)
  refine ⟨?_, ?_, hisolated⟩
  · rw [hcreated] at howned
    rw [hcreated, owned?_id howned]
  · rw [← Option.not_isSome_iff_eq_none]
    exact fun hsome => hordered.begun hsome (.inr hphase)

theorem attached_once (events : List LauncherEvent) :
    (effects run image events).countP LauncherEffect.isAttach ≤ 1 :=
  (Machine.countP_effects_le_one Opening
    (fun s event => (step_move run image s event).attaches) _ events).1

theorem removed_once (events : List LauncherEvent) :
    (effects run image events).countP LauncherEffect.isRemove ≤ 1 :=
  (Machine.countP_effects_le_one (fun s => 2 < answersLeft s.removal)
    (fun s event => (step_move run image s event).removes) _ events).1

/-- Docker listed no container of this run, when nothing was created or looked at any more. -/
def ListedNone (events : List LauncherEvent) : Prop :=
  ∃ first rest, events = first ++ .docker .removal (some "") :: rest ∧
    (after run image first).pending .removal = some .list ∧
    ¬ (after run image first).Opening

theorem ListedNone.later {events : List LauncherEvent} (h : ListedNone run image events)
    (more : List LauncherEvent) : ListedNone run image (events ++ more) := by
  obtain ⟨first, rest, rfl, hlist, hopening⟩ := h
  exact ⟨first, rest ++ more, by simp, hlist, hopening⟩

theorem begun_of_pending {s : OfflineLaunch} {command : DockerCommand}
    (h : s.pending .removal = some command) : s.removal.isSome = true := by
  cases hremoval : s.removal with
  | none => simp [pending, hremoval] at h
  | some => rfl

/-- A removal that went well ended with an empty list. -/
theorem listedNone_of_settled (events : List LauncherEvent)
    (h : (after run image events).removal = some (.settled true)) :
    ListedNone run image events := by
  induction events using List.reverseRecOn with
  | nil => cases h
  | append_singleton first event ih =>
    rw [after_append] at h
    rcases (step_move run image _ event).advance.gone h with hbefore | ⟨rfl, hlist⟩
    · exact (ih hbefore).later run image [event]
    · exact ⟨first, [], rfl, hlist, (after_ordered run image first).begun (begun_of_pending hlist)⟩

/-- What one more event leaves of a removal that has begun. -/
theorem answersLeft_step {s : OfflineLaunch} (hbegun : s.removal.isSome = true)
    (event : LauncherEvent) :
    answersLeft (step run image s event).2.removal ≤
      answersLeft s.removal - if event.isRemovalAnswer then 1 else 0 := by
  have hadvance := (step_move run image s event).advance
  split
  · rename_i hanswer
    obtain ⟨reply, rfl⟩ := LauncherEvent.isRemovalAnswer_eq hanswer
    by_cases hremoving : s.Removing
    · exact Nat.le_sub_one_of_lt (hadvance.answered reply rfl hremoving)
    · have hzero : answersLeft s.removal = 0 := by
        obtain ⟨phase, hphase⟩ := Option.isSome_iff_exists.mp hbegun
        cases phase with
        | settled ok => rw [hphase, answersLeft]
        | _ => exact absurd ⟨_, hphase, fun _ => RemovalPhase.noConfusion⟩ hremoving
      exact Nat.le_trans (hzero ▸ hadvance.left) (Nat.zero_le _)
  · exact hadvance.left

theorem answersLeft_run {s : OfflineLaunch} (hbegun : s.removal.isSome = true)
    (events : List LauncherEvent) :
    answersLeft (Machine.run (step run image) s events).removal ≤
      answersLeft s.removal - events.countP LauncherEvent.isRemovalAnswer := by
  induction events generalizing s with
  | nil => exact Nat.le_refl _
  | cons event rest ih =>
    have hstep := answersLeft_step run image hbegun event
    have hrest := ih ((step_move run image s event).advance.begun hbegun)
    rw [List.countP_cons, Machine.run_cons]
    omega

theorem answersLeft_le {removal : Option RemovalPhase} (h : removal.isSome = true) :
    answersLeft removal ≤ 4 := by
  cases removal with
  | none => cases h
  | some phase => cases phase <;> simp [answersLeft]

theorem timer_begins {s : OfflineLaunch} (h : Ordered s)
    (hphase : s.phase = .attaching ∨ s.phase = .attached) :
    (step run image s .timer).2.removal.isSome = true := by
  rcases h.armed hphase with htimer | hbegun
  · have hremove := remove_begun { s with timer := false }
    show s.timedOut.2.removal.isSome = true
    unfold timedOut
    rw [if_pos htimer]
    dsimp only
    split
    · exact hremove
    · exact hremove
  · exact (step_move run image s .timer).advance.begun hbegun

end Runs

structure Contained (run image : String) (events : List LauncherEvent) : Prop where
  /-- What is started, killed or removed is the container that Docker, asked just before, reported
  under the name and with the label of this run; and it is started only isolated, under the id that
  Docker gave when it was created, before any removal. -/
  owned : ∀ first event rest effect id, events = first ++ event :: rest →
    effect ∈ (step run image (after run image first) event).1 → effect.container? = some id →
    ∃ task stdout record, event = .docker task (some stdout) ∧
      (after run image first).pending task = some .inspect ∧
      owned? run (after run image first).id stdout = some (record, id) ∧
      (effect = .attach id → (after run image first).id = some id ∧
        (after run image first).removal = none ∧ isolated record image = true)
  started : (effects run image events).countP LauncherEffect.isAttach ≤ 1
  removed : (effects run image events).countP LauncherEffect.isRemove ≤ 1
  /-- The launch is given up as clean, or the end of the scanner is told, only after Docker listed
  no container of this run. -/
  gone : (after run image events).phase = .rejected .launchFailed ∨
      (∃ outcome, (after run image events).completion = .settled (some outcome)) →
    ListedNone run image events
  /-- Once started, four answers after the lifetime is over the removal has ended, and nobody is
  left waiting for it. -/
  bounded : (after run image events).phase = .attaching ∨
      (after run image events).phase = .attached →
    ∀ more, 4 ≤ more.countP LauncherEvent.isRemovalAnswer →
      (∃ ok, (after run image (events ++ .timer :: more)).removal = some (.settled ok)) ∧
        ¬ (after run image (events ++ .timer :: more)).Waits

end OfflineLaunch

open OfflineLaunch

/-- Whatever Docker prints or fails to answer, and however the timer, the exit of the scanner and
requests to stop fall between: a launch touches only its own container, starts it at most once and
only isolated, reports a clean end only when nothing is left of it, and does not leave it
running. -/
theorem offline_container_contained (run image : String) (events : List LauncherEvent) :
    Contained run image events where
  owned first event rest effect id hevents hmem hid := effect_owned run image hmem hid
  started := attached_once run image events
  removed := removed_once run image events
  gone hend := by
    have hordered := after_ordered run image events
    apply listedNone_of_settled
    rcases hend with hphase | ⟨outcome, houtcome⟩
    · exact hordered.rejected _ hphase
    · exact hordered.completed _ houtcome
  bounded hphase more hmore := by
    have hordered := after_ordered run image (events ++ .timer :: more)
    have hbegun := timer_begins run image (after_ordered run image events) hphase
    have hleft := answersLeft_run run image hbegun more
    have hstart := answersLeft_le hbegun
    have hend : answersLeft (after run image (events ++ .timer :: more)).removal = 0 := by
      rw [after_append, Machine.run_cons]
      omega
    obtain ⟨ok, hsettled⟩ := settled_of_answersLeft hend
    exact ⟨⟨ok, hsettled⟩, fun hwaits => (hordered.waits hwaits).unsettled ok hsettled⟩

/-- Where nothing was created, the launch fails cleanly. -/
example : (after "run" "sha256:0" [.docker .launch none, .docker .removal (some "")]).phase =
    .rejected .launchFailed := by decide

end Outscan
