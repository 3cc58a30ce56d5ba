import Outscan.Library.Json.Objects
import Outscan.Library.Served
import Outscan.Library.Stamped
import Outscan.ScannerOutput.JsonKeys

/-! Mounted files with keys and approvals: a file is read while others may replace, rewrite or
open it up, and only a snapshot of it that stayed private is parsed. -/
namespace Outscan

open Json Dialogue

/-! ### The program -/

/-- `parseJsonBytes` of the trusted files. -/
def parseTrustedJsonBytes (value : List UInt8) : Option Json.Value :=
  if value.take 3 = [0xef, 0xbb, 0xbf] then none
  else
    (textOfBytes value).bind fun text =>
      if trustedFileHasUniqueJsonKeys text then parse text else none

inductive MountedFilePermissionPolicy where
  | integrity
  | isPrivate
deriving DecidableEq, Repr

/-- `permissionsAllowed`; Windows has no such bits. -/
def permissionsAllowed (windows : Bool) (mode : Nat) (policy : MountedFilePermissionPolicy) :
    Bool :=
  windows ||
    match policy with
    | .isPrivate => mode &&& 0o077 == 0
    | .integrity => mode &&& 0o022 == 0

structure FileStat where
  isFile : Bool
  isSymbolicLink : Bool
  dev : Nat
  ino : Nat
  size : Nat
  mode : Nat
  mtimeMs : Nat
  ctimeMs : Nat
deriving DecidableEq, Repr

abbrev FileHandle := Nat

inductive FileCall where
  | lstat
  | openFile
  | stat (handle : FileHandle)
  | read (handle : FileHandle) (length position : Nat)
  | close (handle : FileHandle)

abbrev FileReply : FileCall → Type
  | .lstat | .stat _ => FileStat
  | .openFile => FileHandle
  | .read _ length _ => { chunk : List UInt8 // chunk.length ≤ length }
  | .close _ => Unit

/-- Every call may throw. -/
abbrev FileAnswer (call : FileCall) : Type := Option (FileReply call)

inductive MountedRead where
  | thrown
  | value (json : Option Json.Value)

abbrev FileProgram := Dialogue FileCall FileAnswer MountedRead

def closeWith (handle : FileHandle) (result : MountedRead) : FileProgram :=
  .ask (.close handle) fun
    | some _ => .done result
    | none => .done .thrown

section Reader

variable (windows : Bool) (policy : MountedFilePermissionPolicy)

/-- The check in front of `open`. -/
def FileStat.Acceptable (maximumBytes : Nat) (before : FileStat) : Prop :=
  before.isFile = true ∧ before.isSymbolicLink = false ∧ before.size ≤ maxSafeInteger ∧
    1 ≤ before.size ∧ before.size ≤ maximumBytes ∧
    permissionsAllowed windows before.mode policy = true

instance (maximumBytes : Nat) (before : FileStat) :
    Decidable (before.Acceptable windows policy maximumBytes) :=
  inferInstanceAs (Decidable (_ ∧ _ ∧ _ ∧ _ ∧ _ ∧ _))

def FileStat.SameAs (before after : FileStat) : Prop :=
  after.isFile = true ∧ after.dev = before.dev ∧ after.ino = before.ino ∧ after.size = before.size ∧
    permissionsAllowed windows after.mode policy = true

instance (before after : FileStat) : Decidable (before.SameAs windows policy after) :=
  inferInstanceAs (Decidable (_ ∧ _ ∧ _ ∧ _ ∧ _))

/-- Nothing happened to the file while `length` bytes were read. -/
def FileStat.Unaltered (after completed : FileStat) (length : Nat) : Prop :=
  length = after.size ∧ completed.size = after.size ∧ completed.mtimeMs = after.mtimeMs ∧
    completed.ctimeMs = after.ctimeMs ∧ permissionsAllowed windows completed.mode policy = true

instance (after completed : FileStat) (length : Nat) :
    Decidable (after.Unaltered windows policy completed length) :=
  inferInstanceAs (Decidable (_ ∧ _ ∧ _ ∧ _ ∧ _))

def completeRead (handle : FileHandle) (after : FileStat) (bytes : List UInt8) : FileProgram :=
  .ask (.stat handle) fun
    | none => closeWith handle .thrown
    | some completed =>
      if after.Unaltered windows policy completed bytes.length then
        closeWith handle (.value (parseTrustedJsonBytes bytes))
      else closeWith handle (.value none)

/-- The loop: `room` bytes of the buffer are free. -/
def readBytes (handle : FileHandle) (after : FileStat) (room : Nat) (bytes : List UInt8) :
    FileProgram :=
  if room = 0 then completeRead windows policy handle after bytes
  else
    .ask (.read handle room bytes.length) fun
      | none => closeWith handle .thrown
      | some ⟨[], _⟩ => completeRead windows policy handle after bytes
      | some ⟨byte :: chunk, _⟩ =>
        readBytes handle after (room - (chunk.length + 1)) (bytes ++ byte :: chunk)
termination_by room

def readHandle (handle : FileHandle) (before : FileStat) : FileProgram :=
  .ask (.stat handle) fun
    | none => closeWith handle .thrown
    | some after =>
      if before.SameAs windows policy after then
        readBytes windows policy handle after (after.size + 1) []
      else closeWith handle (.value none)

def readMountedJsonFile (maximumBytes : Nat) : FileProgram :=
  if maximumBytes < 1 ∨ maxSafeInteger < maximumBytes then .done (.value none)
  else
    .ask .lstat fun
      | none => .done .thrown
      | some before =>
        if before.Acceptable windows policy maximumBytes then
          .ask .openFile fun
            | none => .done .thrown
            | some handle => readHandle windows policy handle before
        else .done (.value none)

end Reader

/-! ### The file system -/

/-- A file, from its creation on; its size is the length of its content. -/
structure FileNode where
  isFile : Bool
  dev : Nat
  ino : Nat
  content : List UInt8
  mode : Nat
  mtimeMs : Nat
  ctimeMs : Nat

def FileNode.stat (node : FileNode) : FileStat :=
  ⟨node.isFile, false, node.dev, node.ino, node.content.length, node.mode, node.mtimeMs,
    node.ctimeMs⟩

/-- What a path is, what it opens, and the files behind the handles. -/
structure FileSystem where
  lstat : FileStat
  opens : FileHandle
  node : FileHandle → FileNode

/-- What a call is answered. A read gives some of the bytes asked for, and none only at the end
of the file. -/
inductive FileServes (s : FileSystem) : Exchange FileCall FileAnswer → Prop where
  | fails (call : FileCall) : FileServes s ⟨call, none⟩
  | lstat : FileServes s ⟨.lstat, some s.lstat⟩
  | opened : FileServes s ⟨.openFile, some s.opens⟩
  | stat (handle : FileHandle) : FileServes s ⟨.stat handle, some (s.node handle).stat⟩
  | read (handle : FileHandle) {length position : Nat} (chunk : List UInt8)
      (hlength : chunk.length ≤ length) (hbytes : chunk <+: (s.node handle).content.drop position)
      (hend : chunk = [] → (s.node handle).content.drop position = []) :
      FileServes s ⟨.read handle length position, some ⟨chunk, hlength⟩⟩
  | close (handle : FileHandle) : FileServes s ⟨.close handle, some ()⟩

/-- The calls move nothing themselves. -/
def FileAnswers {ι : Type} (s : FileSystem) (exchange : Exchange FileCall FileAnswer)
    (own : List ι) : Prop :=
  FileServes s exchange ∧ own = []

/-! ### What is read under other users -/

section Snapshot

variable {ι ω : Type} {step : FileSystem → ι → ω × FileSystem} {windows : Bool}
  {policy : MountedFilePermissionPolicy} {handle : FileHandle} {origin : FileNode} {s : FileSystem}

/-- What was read so far is of the file as it was, unless its stamp moved on. -/
structure Reading (handle : FileHandle) (origin : FileNode) (bytes : List UInt8) (s : FileSystem) :
    Prop where
  later : origin.ctimeMs ≤ (s.node handle).ctimeMs
  kept : (s.node handle).ctimeMs = origin.ctimeMs →
    s.node handle = origin ∧ bytes <+: origin.content

theorem Reading.run (hstamped : Machine.Stamped step (FileSystem.node · handle) FileNode.ctimeMs)
    {bytes : List UInt8} (h : Reading handle origin bytes s) (inputs : List ι) :
    Reading handle origin bytes (Machine.run step s inputs) := by
  obtain ⟨hlater, hstill⟩ := hstamped.run s inputs
  refine ⟨h.later.trans hlater, fun hsame => ?_⟩
  have hbefore : (s.node handle).ctimeMs = origin.ctimeMs :=
    Nat.le_antisymm (hsame ▸ hlater) h.later
  obtain ⟨hnode, hbytes⟩ := h.kept hbefore
  exact ⟨(hstill (hsame.trans hbefore.symm)).trans hnode, hbytes⟩

theorem Reading.append {bytes chunk : List UInt8} (h : Reading handle origin bytes s)
    (hchunk : chunk <+: (s.node handle).content.drop bytes.length) :
    Reading handle origin (bytes ++ chunk) s := by
  refine ⟨h.later, fun hsame => ?_⟩
  obtain ⟨hnode, rest, hbytes⟩ := h.kept hsame
  rw [hnode, ← hbytes, List.drop_left] at hchunk
  exact ⟨hnode, hbytes ▸ (List.prefix_append_right_inj bytes).mpr hchunk⟩

/-- Reads that each go on where the last one ended, and what they come to. -/
inductive Chunks (handle : FileHandle) :
    List UInt8 → List (Exchange FileCall FileAnswer) → List UInt8 → Prop where
  | nil (bytes : List UInt8) : Chunks handle bytes [] bytes
  | cons {bytes all : List UInt8} {length : Nat} {reads : List (Exchange FileCall FileAnswer)}
      (chunk : FileReply (.read handle length bytes.length))
      (h : Chunks handle (bytes ++ chunk.1) reads all) :
      Chunks handle bytes (⟨.read handle length bytes.length, some chunk⟩ :: reads) all

theorem Chunks.reads {bytes all : List UInt8} {reads : List (Exchange FileCall FileAnswer)}
    (h : Chunks handle bytes reads all) :
    ∀ exchange ∈ reads, ∃ length position, exchange.1 = .read handle length position := by
  induction h with
  | nil => exact fun _ hmem => absurd hmem List.not_mem_nil
  | cons chunk _ ih => exact List.forall_mem_cons.mpr ⟨⟨_, _, rfl⟩, ih⟩

theorem Reading.chunks (hstamped : Machine.Stamped step (FileSystem.node · handle) FileNode.ctimeMs)
    {bytes all : List UInt8} {reads : List (Exchange FileCall FileAnswer)}
    (hchunks : Chunks handle bytes reads all) (h : Reading handle origin bytes s) {held : List ι}
    (hserved : Served step FileAnswers s reads held) :
    Reading handle origin all (Machine.run step s held) := by
  induction hchunks generalizing s held with
  | nil => exact h.run hstamped held
  | cons chunk _ ih =>
    obtain ⟨others, own, rest, rfl, ⟨hserves, rfl⟩, hrest⟩ := hserved.cons
    rw [List.append_nil] at hrest
    rw [List.nil_append, Machine.run_append]
    cases hserves with
    | read _ chunk hlength hbytes hend => exact ih ((h.run hstamped others).append hbytes) hrest

/-- Between two looks that agree the file stood still, and what was read is its content. -/
theorem still_of_served
    (hstamped : Machine.Stamped step (FileSystem.node · handle) FileNode.ctimeMs)
    {before after completed : FileStat} {reads : List (Exchange FileCall FileAnswer)}
    {all : List UInt8} (hchunks : Chunks handle [] reads all)
    (hunaltered : after.Unaltered windows policy completed all.length) {first held : List ι}
    (hfirst : Served step FileAnswers s
      [⟨.lstat, some before⟩, ⟨.openFile, some handle⟩, ⟨.stat handle, some after⟩] first)
    (hheld : Served step FileAnswers (Machine.run step s first) reads held)
    (hcompleted : FileServes (Machine.run step s (first ++ held)) ⟨.stat handle, some completed⟩) :
    (∀ front back, held = front ++ back →
      (Machine.run step s (first ++ front)).node handle = (Machine.run step s first).node handle) ∧
    ((Machine.run step s first).node handle).stat = after ∧
    ((Machine.run step s first).node handle).content = all := by
  obtain ⟨seen, _, _, rfl, ⟨-, rfl⟩, hopened⟩ := hfirst.cons
  obtain ⟨opened, _, _, rfl, ⟨-, rfl⟩, hlooked⟩ := hopened.cons
  obtain ⟨looked, _, later, rfl, ⟨hlook, rfl⟩, -⟩ := hlooked.cons
  -- the moment of the first look, and what others did since
  have hsplit : seen ++ ([] ++ (opened ++ ([] ++ (looked ++ ([] ++ later))))) =
      (seen ++ (opened ++ looked)) ++ later := by
    simp
  rw [hsplit] at hheld hcompleted ⊢
  rw [List.append_nil, List.append_nil, ← Machine.run_append, ← Machine.run_append] at hlook
  generalize seen ++ (opened ++ looked) = moment at hheld hcompleted hlook ⊢
  rw [Machine.run_append] at hheld
  have hstart : Reading handle ((Machine.run step s moment).node handle) []
      (Machine.run step s moment) :=
    ⟨le_rfl, fun _ => ⟨rfl, List.nil_prefix⟩⟩
  have hread := ((hstart.run hstamped later).chunks hstamped hchunks hheld)
  cases hlook
  rw [List.append_assoc, Machine.run_append, Machine.run_append] at hcompleted
  obtain ⟨hlength, -, -, hctime, -⟩ := hunaltered
  have hfinal : completed = ((Machine.run step (Machine.run step (Machine.run step s moment) later)
      held).node handle).stat := by
    cases hcompleted
    rfl
  obtain ⟨hnode, hbytes⟩ := hread.kept (by rw [hfinal] at hctime; exact hctime)
  have hstill : ∀ front back, later ++ held = front ++ back →
      (Machine.run step s (moment ++ front)).node handle =
        (Machine.run step s moment).node handle := by
    intro front back hparts
    rw [Machine.run_append]
    apply hstamped.between
    rw [← hparts, Machine.run_append]
    exact congrArg FileNode.ctimeMs hnode
  have hlater := hstill later held rfl
  refine ⟨fun front back hparts => ?_, ?_, ?_⟩
  · rw [List.append_assoc, hlater]
    exact hstill (later ++ front) back (by rw [hparts, List.append_assoc])
  · rw [hlater]
  · rw [hlater]
    exact (hbytes.eq_of_length hlength).symm

end Snapshot

/-! ### What is asked on the way to a value -/

section Asked

variable {windows : Bool} {policy : MountedFilePermissionPolicy} {handle : FileHandle}
  {exchanges : List (Exchange FileCall FileAnswer)} {json : Json.Value}

theorem plays_closeWith {result value : MountedRead}
    (hplays : Plays (closeWith handle result) exchanges (some value)) :
    value = .thrown ∨ value = result ∧ exchanges = [⟨.close handle, some ()⟩] := by
  obtain ⟨-, hnone⟩ | ⟨answer, rest, rfl, hrest⟩ := plays_ask.mp hplays
  · cases hnone
  · cases answer with
    | none =>
      obtain ⟨-, hnone | hsome⟩ := plays_done.mp hrest
      · cases hnone
      · exact .inl (Option.some.inj hsome)
    | some _ =>
      obtain ⟨rfl, hnone | hsome⟩ := plays_done.mp hrest
      · cases hnone
      · exact .inr ⟨Option.some.inj hsome, rfl⟩

theorem not_plays_closeWith {result : MountedRead} (hresult : result ≠ .value (some json)) :
    ¬ Plays (closeWith handle result) exchanges (some (.value (some json))) := by
  intro hplays
  rcases plays_closeWith hplays with hthrown | ⟨hvalue, -⟩
  · cases hthrown
  · exact hresult hvalue.symm

theorem plays_completeRead {after : FileStat} {bytes : List UInt8}
    (hplays : Plays (completeRead windows policy handle after bytes) exchanges
      (some (.value (some json)))) :
    ∃ completed, exchanges = [⟨.stat handle, some completed⟩, ⟨.close handle, some ()⟩] ∧
      after.Unaltered windows policy completed bytes.length ∧
      parseTrustedJsonBytes bytes = some json := by
  obtain ⟨-, hnone⟩ | ⟨answer, rest, rfl, hrest⟩ := plays_ask.mp hplays
  · cases hnone
  · cases answer with
    | none => exact absurd hrest (not_plays_closeWith MountedRead.noConfusion)
    | some completed =>
      dsimp only at hrest
      split at hrest
      · rename_i hunaltered
        rcases plays_closeWith hrest with hthrown | ⟨hvalue, rfl⟩
        · cases hthrown
        · exact ⟨completed, rfl, hunaltered, (MountedRead.value.inj hvalue).symm⟩
      · exact absurd hrest (not_plays_closeWith fun heq => by cases heq)

theorem plays_readBytes {after : FileStat} (room : Nat) {bytes : List UInt8}
    (hplays : Plays (readBytes windows policy handle after room bytes) exchanges
      (some (.value (some json)))) :
    ∃ reads all completed,
      exchanges = reads ++ [⟨.stat handle, some completed⟩, ⟨.close handle, some ()⟩] ∧
      Chunks handle bytes reads all ∧ after.Unaltered windows policy completed all.length ∧
      parseTrustedJsonBytes all = some json := by
  induction room using Nat.strong_induction_on generalizing bytes exchanges with
  | h room ih =>
    rw [readBytes] at hplays
    split at hplays
    · obtain ⟨completed, rfl, hrest⟩ := plays_completeRead hplays
      exact ⟨[], bytes, completed, rfl, .nil bytes, hrest⟩
    · rename_i hroom
      obtain ⟨-, hnone⟩ | ⟨answer, rest, rfl, hrest⟩ := plays_ask.mp hplays
      · cases hnone
      · rcases answer with _ | ⟨_ | ⟨byte, chunk⟩, hlength⟩
        · exact absurd hrest (not_plays_closeWith MountedRead.noConfusion)
        · obtain ⟨completed, rfl, hcompleted⟩ := plays_completeRead hrest
          refine ⟨[_], bytes, completed, rfl, .cons ⟨[], hlength⟩ ?_, hcompleted⟩
          rw [List.append_nil]
          exact .nil bytes
        · obtain ⟨reads, all, completed, rfl, hchunks, hrest⟩ := ih _ (by omega) hrest
          exact ⟨_ :: reads, all, completed, rfl, .cons ⟨byte :: chunk, hlength⟩ hchunks, hrest⟩

theorem plays_readMountedJsonFile {maximumBytes : Nat}
    (hplays : Plays (readMountedJsonFile windows policy maximumBytes) exchanges
      (some (.value (some json)))) :
    ∃ before handle after reads all completed,
      exchanges = [⟨.lstat, some before⟩, ⟨.openFile, some handle⟩, ⟨.stat handle, some after⟩] ++
        (reads ++ [⟨.stat handle, some completed⟩, ⟨.close handle, some ()⟩]) ∧
      before.Acceptable windows policy maximumBytes ∧ before.SameAs windows policy after ∧
      Chunks handle [] reads all ∧ after.Unaltered windows policy completed all.length ∧
      parseTrustedJsonBytes all = some json := by
  unfold readMountedJsonFile at hplays
  split at hplays
  · obtain ⟨-, hnone | hsome⟩ := plays_done.mp hplays
    · cases hnone
    · cases hsome
  obtain ⟨-, hnone⟩ | ⟨_ | before, rest, rfl, hlooked⟩ := plays_ask.mp hplays
  · cases hnone
  · obtain ⟨-, hnone | hsome⟩ := plays_done.mp hlooked
    · cases hnone
    · cases hsome
  dsimp only at hlooked
  split at hlooked
  · rename_i hacceptable
    obtain ⟨-, hnone⟩ | ⟨_ | handle, rest, rfl, hopened⟩ := plays_ask.mp hlooked
    · cases hnone
    · obtain ⟨-, hnone | hsome⟩ := plays_done.mp hopened
      · cases hnone
      · cases hsome
    obtain ⟨-, hnone⟩ | ⟨_ | after, rest, rfl, hstat⟩ := plays_ask.mp hopened
    · cases hnone
    · exact absurd hstat (not_plays_closeWith MountedRead.noConfusion)
    dsimp only at hstat
    split at hstat
    · rename_i hsame
      obtain ⟨reads, all, completed, rfl, hrest⟩ := plays_readBytes _ hstat
      exact ⟨before, handle, after, reads, all, completed, rfl, hacceptable, hsame, hrest⟩
    · exact absurd hstat (not_plays_closeWith fun heq => by cases heq)
  · obtain ⟨-, hnone | hsome⟩ := plays_done.mp hlooked
    · cases hnone
    · cases hsome

end Asked

theorem parseTrustedJsonBytes_tame {bytes : List UInt8} {json : Json.Value}
    (h : parseTrustedJsonBytes bytes = some json) : json.Tame 16 := by
  rw [parseTrustedJsonBytes] at h
  split at h
  · cases h
  · obtain ⟨text, -, htext⟩ := Option.bind_eq_some_iff.mp h
    split at htext
    · rename_i hkeys
      exact (hasUniqueJsonKeys_iff trustedFileMaxJsonDepth htext).mp hkeys
    · cases htext

/-! ### What is read when nothing happens -/

section Untouched

variable {windows : Bool} {policy : MountedFilePermissionPolicy} {handle : FileHandle}
  {s : FileSystem} {exchanges : List (Exchange FileCall FileAnswer)} {value : MountedRead}

def Untouched (s : FileSystem) (exchanges : List (Exchange FileCall FileAnswer)) : Prop :=
  ∀ exchange ∈ exchanges, FileServes s exchange ∧ exchange.2.isSome = true

theorem untouched_cons {exchange : Exchange FileCall FileAnswer} :
    Untouched s (exchange :: exchanges) ↔
      (FileServes s exchange ∧ exchange.2.isSome = true) ∧ Untouched s exchanges :=
  List.forall_mem_cons

theorem plays_ask_untouched {call : FileCall} {next : FileAnswer call → FileProgram}
    (hplays : Plays (.ask call next) exchanges (some value)) (huntouched : Untouched s exchanges) :
    ∃ reply rest, FileServes s ⟨call, some reply⟩ ∧ Plays (next (some reply)) rest (some value) ∧
      Untouched s rest := by
  obtain ⟨-, hnone⟩ | ⟨answer, rest, rfl, hrest⟩ := plays_ask.mp hplays
  · cases hnone
  · obtain ⟨⟨hserves, hgiven⟩, hothers⟩ := untouched_cons.mp huntouched
    cases answer with
    | none => cases hgiven
    | some reply => exact ⟨reply, rest, hserves, hrest, hothers⟩

theorem closeWith_untouched {result : MountedRead}
    (hplays : Plays (closeWith handle result) exchanges (some value))
    (huntouched : Untouched s exchanges) :
    value = result := by
  obtain ⟨reply, rest, -, hrest, -⟩ := plays_ask_untouched hplays huntouched
  obtain ⟨-, hnone | hsome⟩ := plays_done.mp hrest
  · cases hnone
  · exact Option.some.inj hsome

theorem completeRead_untouched
    (hplays : Plays (completeRead windows policy handle (s.node handle).stat
      (s.node handle).content) exchanges (some value)) (huntouched : Untouched s exchanges)
    (hmode : permissionsAllowed windows (s.node handle).mode policy = true) :
    value = .value (parseTrustedJsonBytes (s.node handle).content) := by
  obtain ⟨completed, rest, hserves, hrest, hothers⟩ := plays_ask_untouched hplays huntouched
  cases hserves
  dsimp only at hrest
  rw [if_pos ⟨rfl, rfl, rfl, rfl, hmode⟩] at hrest
  exact closeWith_untouched hrest hothers

/-- The loop comes to an end with the whole content, however the reads are cut. -/
theorem readBytes_untouched (hmode : permissionsAllowed windows (s.node handle).mode policy = true)
    (room : Nat) {bytes : List UInt8} (hbytes : bytes <+: (s.node handle).content)
    (hroom : bytes.length + room = (s.node handle).content.length + 1)
    (hplays : Plays (readBytes windows policy handle (s.node handle).stat room bytes) exchanges
      (some value)) (huntouched : Untouched s exchanges) :
    value = .value (parseTrustedJsonBytes (s.node handle).content) := by
  induction room using Nat.strong_induction_on generalizing bytes exchanges with
  | h room ih =>
    have hle := hbytes.length_le
    rw [readBytes, if_neg (by omega)] at hplays
    obtain ⟨given, rest, hserves, hrest, hothers⟩ := plays_ask_untouched hplays huntouched
    cases hserves with
    | read _ chunk hlength hchunk hend =>
      obtain ⟨later, hlater⟩ := hbytes
      rw [← hlater, List.drop_left] at hchunk hend
      cases chunk with
      | nil =>
        have hall : bytes = (s.node handle).content := by
          rw [← hlater, hend rfl, List.append_nil]
        rw [hall] at hrest
        exact completeRead_untouched hrest hothers hmode
      | cons byte chunk =>
        have hnext : bytes ++ byte :: chunk <+: (s.node handle).content :=
          hlater ▸ (List.prefix_append_right_inj bytes).mpr hchunk
        refine ih _ (by omega) hnext ?_ hrest hothers
        rw [List.length_append, List.length_cons]
        have hfits : chunk.length + 1 ≤ room := hlength
        omega

theorem readHandle_untouched (hfile : (s.node handle).isFile = true)
    (hmode : permissionsAllowed windows (s.node handle).mode policy = true)
    (hplays : Plays (readHandle windows policy handle (s.node handle).stat) exchanges (some value))
    (huntouched : Untouched s exchanges) :
    value = .value (parseTrustedJsonBytes (s.node handle).content) := by
  obtain ⟨after, rest, hserves, hrest, hothers⟩ := plays_ask_untouched hplays huntouched
  cases hserves
  dsimp only at hrest
  rw [if_pos ⟨hfile, rfl, rfl, rfl, hmode⟩] at hrest
  exact readBytes_untouched hmode _ List.nil_prefix (Nat.zero_add _) hrest hothers

end Untouched

theorem parseTrustedJsonBytes_bytes {members : List (Text × Json.Value)}
    (h : (Json.Value.object members).Tame trustedFileMaxJsonDepth) :
    parseTrustedJsonBytes (Json.Value.object members).bytes = some (.object members) := by
  have hkeys : trustedFileHasUniqueJsonKeys (write (.object members)) = true :=
    (hasUniqueJsonKeys_iff _ (parse_write _)).mpr h
  rw [parseTrustedJsonBytes, if_neg (take_bytes_object members), textOfBytes_bytes,
    Option.bind_some, if_pos hkeys, parse_write]

/-- Whatever others do to the files meanwhile, a value is only ever taken from one snapshot. From the
answer of the first look at the open file to the answer of the second, and all reads lie between
them, the file did not change at all; it was a regular file within the limit that the permissions
protect, the same that the path was found to be before, and no link; and the value is what its
content says, with distinct names and little nesting. It takes for granted that a file is not
changed without its `ctime` moving on. And where nobody interferes and no call fails, a file that
passes the checks is read to its end, however the reads are cut. -/
theorem mounted_file_snapshot (windows : Bool) (policy : MountedFilePermissionPolicy)
    (maximumBytes : Nat) :
    (∀ (ι ω : Type) (step : FileSystem → ι → ω × FileSystem),
      (∀ handle, Machine.Stamped step (FileSystem.node · handle) FileNode.ctimeMs) →
      ∀ exchanges json,
        Plays (readMountedJsonFile windows policy maximumBytes) exchanges
          (some (.value (some json))) →
        ∃ before handle after reads completed,
          exchanges =
            [⟨.lstat, some before⟩, ⟨.openFile, some handle⟩, ⟨.stat handle, some after⟩] ++
              (reads ++ [⟨.stat handle, some completed⟩, ⟨.close handle, some ()⟩]) ∧
          (∀ exchange ∈ reads, ∃ length position, exchange.1 = .read handle length position) ∧
          -- the moves of the others: first up to the first look, then up to the second
          ∀ s first held,
            Served step FileAnswers s
              [⟨.lstat, some before⟩, ⟨.openFile, some handle⟩, ⟨.stat handle, some after⟩] first →
            Served step FileAnswers (Machine.run step s first) reads held →
            FileServes (Machine.run step s (first ++ held)) ⟨.stat handle, some completed⟩ →
            let node := (Machine.run step s first).node handle
            (∀ front back, held = front ++ back →
              (Machine.run step s (first ++ front)).node handle = node) ∧
            before.isFile = true ∧ before.isSymbolicLink = false ∧
            (node.dev, node.ino) = (before.dev, before.ino) ∧ node.isFile = true ∧
            permissionsAllowed windows node.mode policy = true ∧
            1 ≤ node.content.length ∧ node.content.length ≤ maximumBytes ∧
            parseTrustedJsonBytes node.content = some json ∧ json.Tame 16) ∧
    ∀ s exchanges value,
      Plays (readMountedJsonFile windows policy maximumBytes) exchanges (some value) →
      Untouched s exchanges → s.lstat = (s.node s.opens).stat →
      s.lstat.Acceptable windows policy maximumBytes → maximumBytes ≤ maxSafeInteger →
      value = .value (parseTrustedJsonBytes (s.node s.opens).content) := by
  constructor
  · intro ι ω step hstamped exchanges json hplays
    obtain ⟨before, handle, after, reads, all, completed, hexchanges, hacceptable, hsame, hchunks,
      hunaltered, hparsed⟩ := plays_readMountedJsonFile hplays
    refine ⟨before, handle, after, reads, completed, hexchanges, hchunks.reads, ?_⟩
    intro s first held hfirst hheld hcompleted
    obtain ⟨hstill, hnode, hcontent⟩ :=
      still_of_served (hstamped handle) hchunks hunaltered hfirst hheld hcompleted
    obtain ⟨hfile, hlink, -, hpos, hle, -⟩ := hacceptable
    obtain ⟨hregular, hdev, hino, hsize, hmode⟩ := hsame
    rw [← hnode] at hregular hdev hino hsize hmode
    rw [← hcontent] at hparsed
    refine ⟨hstill, hfile, hlink, Prod.ext hdev hino, hregular, hmode, ?_, ?_, hparsed,
      parseTrustedJsonBytes_tame hparsed⟩
    · exact hpos.trans hsize.ge
    · exact hsize.le.trans hle
  · intro s exchanges value hplays huntouched hsame hacceptable hlimit
    have hpos : 1 ≤ maximumBytes := hacceptable.2.2.2.1.trans hacceptable.2.2.2.2.1
    rw [readMountedJsonFile, if_neg (by omega)] at hplays
    obtain ⟨before, rest, hserves, hrest, hothers⟩ := plays_ask_untouched hplays huntouched
    cases hserves
    dsimp only at hrest
    rw [if_pos hacceptable] at hrest
    obtain ⟨handle, others, hserves, hopened, hlast⟩ := plays_ask_untouched hrest hothers
    cases hserves
    rw [hsame] at hopened hacceptable
    obtain ⟨hfile, -, -, -, -, hmode⟩ := hacceptable
    exact readHandle_untouched hfile hmode hopened hlast

def sampleKeyFile : FileNode := ⟨true, 1, 2, (Json.Value.object []).bytes, 0o400, 1000, 1000⟩

/-- Its two bytes are read one by one. -/
theorem mounted_file_snapshot_sample :
    ∃ exchanges, Untouched ⟨sampleKeyFile.stat, 3, fun _ => sampleKeyFile⟩ exchanges ∧
      Plays (readMountedJsonFile false .isPrivate 4096) exchanges
        (some (.value (some (.object [])))) ∧ (Json.Value.object []).Tame 16 := by
  let files : FileSystem := ⟨sampleKeyFile.stat, 3, fun _ => sampleKeyFile⟩
  let exchanges : List (Exchange FileCall FileAnswer) :=
    [⟨.lstat, some sampleKeyFile.stat⟩, ⟨.openFile, some 3⟩, ⟨.stat 3, some sampleKeyFile.stat⟩,
      ⟨.read 3 3 0, some ⟨[0x7b], by decide⟩⟩, ⟨.read 3 2 1, some ⟨[0x7d], by decide⟩⟩,
      ⟨.read 3 1 2, some ⟨[], by decide⟩⟩, ⟨.stat 3, some sampleKeyFile.stat⟩, ⟨.close 3, some ()⟩]
  have hcontent : sampleKeyFile.content = [0x7b, 0x7d] := by decide +kernel
  have hread : ∀ {length position : Nat} (chunk : List UInt8) (hlength : chunk.length ≤ length),
      chunk <+: ([0x7b, 0x7d] : List UInt8).drop position →
      (chunk = [] → ([0x7b, 0x7d] : List UInt8).drop position = []) →
      FileServes files ⟨.read 3 length position, some ⟨chunk, hlength⟩⟩ := by
    intro length position chunk hlength hbytes hend
    refine .read 3 chunk hlength ?_ ?_
    · rw [hcontent]
      exact hbytes
    · rw [hcontent]
      exact hend
  have huntouched : Untouched files exchanges := by
    simp only [exchanges, untouched_cons]
    exact ⟨⟨.lstat, rfl⟩, ⟨.opened, rfl⟩, ⟨.stat 3, rfl⟩,
      ⟨hread [0x7b] _ ⟨[0x7d], rfl⟩ (fun h => by cases h), rfl⟩,
      ⟨hread [0x7d] _ ⟨[], rfl⟩ (fun h => by cases h), rfl⟩,
      ⟨hread [] _ ⟨[], rfl⟩ fun _ => rfl, rfl⟩, ⟨.stat 3, rfl⟩, ⟨.close 3, rfl⟩,
      List.forall_mem_nil _⟩
  have hsame : sampleKeyFile.stat = ⟨true, false, 1, 2, 2, 0o400, 1000, 1000⟩ := by decide +kernel
  obtain ⟨value, hplays⟩ : ∃ value, Plays (readMountedJsonFile false .isPrivate 4096) exchanges
      (some value) := by
    refine ⟨.value (parseTrustedJsonBytes [0x7b, 0x7d]), ?_⟩
    simp only [exchanges, hsame]
    rw [readMountedJsonFile, if_neg (by decide)]
    refine .ask _ ?_
    dsimp only
    rw [if_pos (by decide)]
    refine .ask _ (.ask _ ?_)
    dsimp only
    rw [if_pos (by decide), readBytes, if_neg (by decide)]
    refine .ask _ ?_
    dsimp only
    rw [readBytes, if_neg (by decide)]
    refine .ask _ ?_
    dsimp only
    rw [readBytes, if_neg (by decide)]
    refine .ask _ (.ask _ ?_)
    dsimp only
    rw [if_pos (by decide)]
    exact .ask _ (.done _)
  have htame : (Json.Value.object []).Tame trustedFileMaxJsonDepth :=
    ⟨⟨List.nodup_nil, trivial⟩, by decide⟩
  have hvalue := (mounted_file_snapshot false .isPrivate 4096).2 files exchanges value hplays
    huntouched rfl (by rw [show files.lstat = _ from hsame]; decide) (by decide)
  have hparsed : parseTrustedJsonBytes (files.node files.opens).content = some (.object []) :=
    parseTrustedJsonBytes_bytes htame
  rw [hvalue, hparsed] at hplays
  let static : FileSystem → Unit → Unit × FileSystem := fun s _ => ((), s)
  have hserved : ∀ rest : List (Exchange FileCall FileAnswer), Untouched files rest →
      Served static FileAnswers files rest [] := by
    intro rest hrest
    induction rest with
    | nil => exact .done _
    | cons exchange others ih =>
      obtain ⟨hfirst, hothers⟩ := untouched_cons.mp hrest
      have hanswers : FileAnswers files exchange ([] : List Unit) := ⟨hfirst.1, rfl⟩
      exact .exchange hanswers (ih hothers)
  have hstatic : ∀ handle, Machine.Stamped static (FileSystem.node · handle) FileNode.ctimeMs := by
    intro handle s input
    exact ⟨Nat.le_refl _, fun _ => rfl⟩
  obtain ⟨before, handle, after, reads, completed, hexchanges, -, hsnapshot⟩ :=
    (mounted_file_snapshot false .isPrivate 4096).1 Unit Unit static hstatic exchanges _ hplays
  obtain ⟨hopening, hothers⟩ : Untouched files _ ∧ Untouched files _ :=
    List.forall_mem_append.mp (hexchanges ▸ huntouched)
  obtain ⟨hreads, hclosing⟩ : Untouched files _ ∧ Untouched files _ :=
    List.forall_mem_append.mp hothers
  obtain ⟨_, _, _, _, _, _, _, _, _, hnames⟩ := hsnapshot files [] [] (hserved _ hopening)
    (hserved _ hreads) (untouched_cons.mp hclosing).1.1
  exact ⟨exchanges, huntouched, hplays, hnames⟩

end Outscan
