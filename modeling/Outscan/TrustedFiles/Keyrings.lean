import Outscan.GuestQueue.Context
import Outscan.GuestSession.Bootstrap
import Outscan.Supervisor.Ingress
import Outscan.TrustedFiles.PrivateJson

/-! The providers on top of mounted files: the keys of guest sessions, the keys that results are
signed and verified with, and the approved artifact. -/
namespace Outscan

open Json Dynamic

/-! ### Keys in a file -/

def decodeCanonical32ByteKey (value : Json.Value) : Option (List UInt8) :=
  value.string?.bind fun text =>
    if isToken43 text.toList then (decodeCanonicalBase64Url text).filter (·.length = 32) else none

theorem decodeCanonical32ByteKey_eq_some {value : Json.Value} {key : List UInt8} :
    decodeCanonical32ByteKey value = some key ↔
      value.string? = some (encodeBase64Url key) ∧ key.length = 32 := by
  rw [decodeCanonical32ByteKey, Option.bind_eq_some_iff]
  constructor
  · rintro ⟨text, htext, h⟩
    split at h
    · obtain ⟨hdecoded, hlength⟩ := Option.filter_eq_some_iff.mp h
      rw [htext, (decodeCanonicalBase64Url_eq_some.mp hdecoded).1]
      exact ⟨rfl, of_decide_eq_true hlength⟩
    · cases h
  · rintro ⟨htext, hlength⟩
    have hchars : (encodeBase64Url key).toList = base64UrlChars key := by
      rw [encodeBase64Url, String.toList_ofList]
    have hne : key ≠ [] := by
      rintro rfl
      cases hlength
    refine ⟨_, htext, ?_⟩
    rw [hchars, if_pos (isToken43_base64UrlChars hlength),
      decodeCanonicalBase64Url_eq_some.mpr ⟨rfl, hne⟩, Option.filter_some,
      if_pos (decide_eq_true hlength)]

/-- `validVersion`. -/
def fileKeyVersion? (value : Json.Value) : Option Nat := value.natural?.filter (· ≤ uint32Max)

/-- The keys of a file by their versions, in the order of the file. -/
structure MountedKeys where
  entries : List (Nat × List UInt8)
  unique : (entries.map Prod.fst).Nodup
  versions : ∀ entry ∈ entries, entry.1 ≤ uint32Max
  keys : ∀ entry ∈ entries, entry.2.length = 32

def MountedKeys.empty : MountedKeys := 
  ⟨[], List.nodup_nil, List.forall_mem_nil _, List.forall_mem_nil _⟩

theorem MountedKeys.add_unique {keys : MountedKeys} {entry : Nat × List UInt8}
    (h : entry.1 ∉ keys.entries.map Prod.fst) :
    ((keys.entries ++ [entry]).map Prod.fst).Nodup := by
  rw [List.map_append, List.nodup_append]
  refine ⟨keys.unique, List.nodup_singleton _, ?_⟩
  rintro version hversion other hother rfl
  rw [List.map_singleton, List.mem_singleton] at hother
  exact h (hother ▸ hversion)

theorem MountedKeys.add_versions {keys : MountedKeys} {entry : Nat × List UInt8}
    (h : entry.1 ≤ uint32Max) : ∀ other ∈ keys.entries ++ [entry], other.1 ≤ uint32Max := by
  intro other hother
  rcases List.mem_append.mp hother with hmem | hmem
  · exact keys.versions other hmem
  · rwa [List.mem_singleton.mp hmem]

theorem MountedKeys.add_keys {keys : MountedKeys} {entry : Nat × List UInt8}
    (h : entry.2.length = 32) : ∀ other ∈ keys.entries ++ [entry], other.2.length = 32 := by
  intro other hother
  rcases List.mem_append.mp hother with hmem | hmem
  · exact keys.keys other hmem
  · rwa [List.mem_singleton.mp hmem]

/-- Another key, under a version that has none yet. -/
def MountedKeys.add (keys : MountedKeys) (entry : Nat × List UInt8) : Option MountedKeys :=
  if h : entry.1 ∉ keys.entries.map Prod.fst ∧ entry.1 ≤ uint32Max ∧ entry.2.length = 32 then
    some ⟨keys.entries ++ [entry], add_unique h.1, add_versions h.2.1, add_keys h.2.2⟩
  else none

def keyItemKeys : List String := ["key_version", "key_base64url"]

def keyItem? (item : Json.Value) : Option (Nat × List UInt8) :=
  if !item.hasExactKeys keyItemKeys then none
  else do
    let version ← (item.get? "key_version").bind fileKeyVersion?
    let key ← (item.get? "key_base64url").bind decodeCanonical32ByteKey
    return (version, key)

def readKeyItems (keys : MountedKeys) : List Json.Value → Option MountedKeys
  | [] => some keys
  | item :: rest => (keyItem? item).bind fun entry =>
    (keys.add entry).bind fun keys => readKeyItems keys rest

theorem length_readKeyItems {keys result : MountedKeys} {items : List Json.Value}
    (h : readKeyItems keys items = some result) :
    result.entries.length = keys.entries.length + items.length := by
  induction items generalizing keys with
  | nil =>
    cases h
    rfl
  | cons item rest ih =>
    obtain ⟨entry, -, h⟩ := Option.bind_eq_some_iff.mp h
    obtain ⟨next, hadd, h⟩ := Option.bind_eq_some_iff.mp h
    have hnext : next.entries = keys.entries ++ [entry] := by
      rw [MountedKeys.add] at hadd
      split at hadd
      · rw [← Option.some.inj hadd]
      · cases hadd
    rw [ih h, hnext, List.length_append, List.length_singleton, List.length_cons]
    omega

theorem MountedKeys.ne_nil {result : MountedKeys} {items : List Json.Value}
    (h : readKeyItems .empty items = some result) (hfew : ¬ (items.length < 1 ∨ items.length > 3)) :
    result.entries ≠ [] := by
  have hlength : result.entries.length = 0 + items.length := length_readKeyItems h
  exact List.ne_nil_of_length_pos (by omega)

theorem MountedKeys.length_le {result : MountedKeys} {items : List Json.Value}
    (h : readKeyItems .empty items = some result) (hfew : ¬ (items.length < 1 ∨ items.length > 3)) :
    result.entries.length ≤ maxNetworkSignalKeys := by
  have hlength : result.entries.length = 0 + items.length := length_readKeyItems h
  have hmax : maxNetworkSignalKeys = 3 := rfl
  omega

def versionedRecord (names : List String) (value : Json.Value) : Bool :=
  value.hasExactKeys names && (value.get? "schema_version").bind Value.natural? == some 1

/-! ### The providers -/

/-- What `readMountedJsonFile` gave; a reader that throws gives nothing. -/
def MountedRead.json? : MountedRead → Option Json.Value
  | .thrown => none
  | .value json => json

structure SessionKeyFile where
  active : Nat
  keyring : SignalKeyring
  active_mem : active ∈ keyring.entries.map Prod.fst

def signingKeyFileKeys : List String := ["schema_version", "key_version", "key_base64url"]

/-- `get_active_key` of the mounted provider, its snapshot included. -/
def mountedSigningKey (read : MountedRead) : Option (Nat × List UInt8) := do
  let value ← read.json?
  if !versionedRecord signingKeyFileKeys value then none
  else
    let key ← (value.get? "key_base64url").bind decodeCanonical32ByteKey
    let version ← (value.get? "key_version").bind fileKeyVersion?
    return (version, key)

/-- `get_active_key` of a provider that is bound to a keyring. -/
def boundSigningKey (keyring : SignalKeyring) (read : MountedRead) : Option (Nat × List UInt8) :=
  (mountedSigningKey read).filter fun active =>
    keyring.entries.lookup active.1 == some active.2

/-- A key as the supervisor is handed it, or `null`. -/
def signingKeyValue : Option (Nat × List UInt8) → Dynamic.Value Scalar
  | none => .other
  | some (version, key) =>
    .record ⟨[("key_version", .number (some version)), ("key", .bytes key)], by simp⟩

def SessionKeyFile.state (file : SessionKeyFile) : Dynamic.Value SignalField :=
  .record ⟨[("active_key_version", .scalar (.number (some file.active))),
    ("keys", .map file.keyring.toMap)], by simp⟩

/-- The committer of a worker. -/
def workerCommitter (keyring : SignalKeyring) : GuestResultCommitDependencies where
  resultKeyring := fun version => keyring.entries.lookup version
  expectedWorkloadIdentity := supervisorWorkloadIdentity
  expectedAudience := resultEnvelopeAudience
  maxPayloadBytes := guestSafeOutputLimit
  workload_valid := ingressDependencies.workload_valid
  audience_valid := ingressDependencies.audience_valid
  payload_pos := ingressDependencies.payload_pos
  payload_le := ingressDependencies.payload_le

/-! ### What an operator writes is read -/

def keyItemJson (entry : Nat × List UInt8) : Json.Value :=
  .object (literal [("key_version", naturalJson entry.1),
    ("key_base64url", textJson (encodeBase64Url entry.2))])

def keyringJson (keyring : SignalKeyring) : Json.Value :=
  .array (keyring.entries.map keyItemJson)

def SessionKeyFile.json (file : SessionKeyFile) : List (Text × Json.Value) :=
  literal [("schema_version", naturalJson 1), ("active_key_version", naturalJson file.active),
    ("keys", keyringJson file.keyring)]

def signingKeyJson (entry : Nat × List UInt8) : List (Text × Json.Value) :=
  literal [("schema_version", naturalJson 1), ("key_version", naturalJson entry.1),
    ("key_base64url", textJson (encodeBase64Url entry.2))]

theorem uint32Max_lt : uint32Max < 2 ^ 53 := by decide

theorem fileKeyVersion?_natural {version : Nat} (h : version ≤ uint32Max) :
    fileKeyVersion? (naturalJson version) = some version := by
  rw [fileKeyVersion?, naturalJson, natural?_natural (h.trans_lt uint32Max_lt), Option.filter_some,
    if_pos (decide_eq_true h)]

theorem decodeCanonical32ByteKey_encode {key : List UInt8} (h : key.length = 32) :
    decodeCanonical32ByteKey (textJson (encodeBase64Url key)) = some key :=
  decodeCanonical32ByteKey_eq_some.mpr ⟨string?_textOf _, h⟩

def writtenFile (members : List (Text × Json.Value)) : MountedRead :=
  .value (parseTrustedJsonBytes (Json.Value.object members).bytes)

theorem json?_writtenFile {members : List (Text × Json.Value)}
    (h : (Json.Value.object members).Tame 3) :
    (writtenFile members).json? = some (.object members) :=
  parseTrustedJsonBytes_bytes ⟨h.1, h.2.trans (by decide)⟩

section Written

variable {fields : List (String × Json.Value)} {names : List String}

theorem versionedRecord_literal (hnames : (fields.map Prod.fst).Nodup)
    (hsame : fields.map Prod.fst = names)
    (hversion : fields.lookup "schema_version" = some (naturalJson 1)) :
    versionedRecord names (.object (literal fields)) = true := by
  have hone : (naturalJson 1).natural? = some 1 := natural?_natural (by decide)
  rw [versionedRecord, hasExactKeys_literal hnames hsame, get?_literal hnames, hversion,
    Option.bind_some, hone]
  rfl

theorem mountedSigningKey_written {entry : Nat × List UInt8} (hversion : entry.1 ≤ uint32Max)
    (hkey : entry.2.length = 32) :
    mountedSigningKey (writtenFile (signingKeyJson entry)) = some entry := by
  have hnames : ([("schema_version", naturalJson 1), ("key_version", naturalJson entry.1),
      ("key_base64url", textJson (encodeBase64Url entry.2))].map Prod.fst).Nodup := by simp
  have htame : (Json.Value.object (signingKeyJson entry)).Tame 3 := by
    apply Value.tame_literal hnames
    simp only [List.forall_mem_cons]
    exact ⟨Value.tame_number .., Value.tame_number .., Value.tame_string .., List.forall_mem_nil _⟩
  have hrecord : versionedRecord signingKeyFileKeys (.object (signingKeyJson entry)) = true :=
    versionedRecord_literal hnames rfl rfl
  have hfirst : (Json.Value.object (signingKeyJson entry)).get? "key_version" =
      some (naturalJson entry.1) := (get?_literal hnames _).trans rfl
  have hsecond : (Json.Value.object (signingKeyJson entry)).get? "key_base64url" =
      some (textJson (encodeBase64Url entry.2)) := (get?_literal hnames _).trans rfl
  simp only [mountedSigningKey, json?_writtenFile htame, hrecord, hfirst, hsecond,
    fileKeyVersion?_natural hversion, decodeCanonical32ByteKey_encode hkey, Option.bind_eq_bind,
    Option.bind_some, Bool.not_true, Bool.false_eq_true, if_false, Option.pure_def, Prod.mk.eta]

end Written

section Worker

variable {keyring : SignalKeyring} {read : MountedRead} {version : Nat} {key : List UInt8}

theorem boundSigningKey_eq_some :
    boundSigningKey keyring read = some (version, key) ↔
      mountedSigningKey read = some (version, key) ∧
        keyring.entries.lookup version = some key := by
  rw [boundSigningKey, Option.filter_eq_some_iff, beq_iff_eq]

theorem snapshotSigningKey_bound
    (h : snapshotSigningKey (signingKeyValue (boundSigningKey keyring read)) =
      some (version, key)) :
    keyring.entries.lookup version = some key := by
  cases hbound : boundSigningKey keyring read with
  | none =>
    rw [hbound] at h
    cases h
  | some active =>
    obtain ⟨activeVersion, activeKey⟩ := active
    obtain ⟨-, hlookup⟩ := boundSigningKey_eq_some.mp hbound
    rw [hbound] at h
    change ((naturalUpTo? uint32Max (.number (some (activeVersion : Int)))).bind fun version =>
      (some activeKey).bind fun key =>
        (guard (32 ≤ key.length ∧ key.length ≤ 64) : Option Unit).bind fun _ =>
          some (version, key)) = some (version, key) at h
    obtain ⟨found, hversion, h⟩ := Option.bind_eq_some_iff.mp h
    obtain ⟨other, hother, h⟩ := Option.bind_eq_some_iff.mp h
    obtain ⟨-, -, h⟩ := Option.bind_eq_some_iff.mp h
    cases hother
    cases h
    rw [naturalUpTo?] at hversion
    split at hversion
    · cases hversion
      exact hlookup
    · cases hversion

/-- A worker never submits what its own committer rejects for its key. Whatever the file of the
signing key holds whenever it is read, rotated, replaced or broken: if the supervisor returns a
submission, it is signed with a key of the keyring that the worker was started with, and at any
time of its window the committer verifies it and asks the database with the result of the run. -/
theorem worker_submission_accepted {runtime : EnvelopeRuntime} {locale : LocaleOrder}
    {input : Datum} {trusted : TrustedExecutionState} {raw : RawSupervisorDependencies}
    {startedAt waitsAt : Int} {context : SupervisorContext} {start : SupervisorRun}
    (hstart : startSupervisor input trusted raw startedAt waitsAt = .ok (context, start))
    {events : List SupervisorEvent} {signed : SignedResultEnvelope}
    {projection : SanitizedGuestProjection}
    (hreturned : (Machine.run (supervisorMachine runtime (canonicalProducer runtime locale) context)
      start events).phase = .returned (.ok signed projection))
    (hkeys : ∀ value, SupervisorEvent.key (.ok value) ∈ events →
      ∃ read, value = signingKeyValue (boundSigningKey keyring read)) :
    signed.authentication.keyVersion ∈ keyring.entries.map Prod.fst ∧
      ∀ now : Int, 0 < now → (signed.header.issuedAt : Int) - 30 ≤ now →
        now < (signed.header.issuedAt : Int) + 60 →
        ∃ accepted,
          authenticatedResult runtime (canonicalProducer runtime locale) (workerCommitter keyring)
            signed.readSubmission (some now) = some accepted ∧
          accepted.jobId = context.envelope.jobId ∧ accepted.projection = projection ∧
          ∀ transactionNow db,
            commitSubmission runtime (canonicalProducer runtime locale) (workerCommitter keyring)
                signed.readSubmission (some (some now)) transactionNow (some db) =
              ((commit (some accepted) transactionNow db).1,
                some (commit (some accepted) transactionNow db).2) := by
  obtain ⟨keyVersion, key, hkeyed⟩ :=
    keyed_run (told_start hstart) (keyed_start hstart) events signed projection hreturned
  obtain ⟨value, hmem, hkey⟩ := hkeyed.handed
  obtain ⟨read, rfl⟩ := hkeys value hmem
  have hlookup := snapshotSigningKey_bound hkey
  have hversion := hkeyed.keyVersion_eq
  refine ⟨?_, fun now hpositive hbefore hafter => ?_⟩
  · obtain ⟨before, after, hentries, -⟩ := List.lookup_eq_some_iff.mp hlookup
    rw [hversion, hentries, List.map_append]
    exact List.mem_append_right _ List.mem_cons_self
  · have htrusts : TrustsSupervisor (workerCommitter keyring) keyVersion key :=
      ⟨rfl, rfl, rfl, hlookup⟩
    obtain ⟨accepted, -, haccepted, hjob, -, hprojection⟩ :=
      hkeyed.accepted (startSupervisor_profile hstart) htrusts hpositive hbefore hafter
    exact ⟨accepted, haccepted, hjob, hprojection,
      fun transactionNow db => commitSubmission_of_commit haccepted rfl⟩

end Worker

def supervisorKeyring : SignalKeyring where
  entries := [(1, supervisorKey)]
  nonempty := List.cons_ne_nil _ _
  few := by decide
  unique := List.nodup_singleton _
  versions := by decide
  keys := by decide

/-- Signed at 1010 with the key of the file, taken one second before the end of the window. -/
theorem worker_submission_accepted_sample :
    ∃ signed : SignedResultEnvelope, ∃ accepted,
      authenticatedResult ingressRuntime (canonicalProducer ingressRuntime codePointOrder)
        (workerCommitter supervisorKeyring) signed.readSubmission (some 1069) = some accepted ∧
      accepted.projection = quietResult.projection := by
  obtain ⟨frame, signed, hreturned, hissued⟩ :=
    quiet_run (show 0 < 1010 by decide) (by decide) (by decide +kernel)
  have hkeys : ∀ value, SupervisorEvent.key (.ok value) ∈ quietEvents frame 1010 →
      ∃ read, value = signingKeyValue (boundSigningKey supervisorKeyring read) := by
    intro value hmem
    have hvalue : value = supervisorKeyRecord := by
      simpa [quietEvents] using hmem
    refine ⟨writtenFile (signingKeyJson (1, supervisorKey)), ?_⟩
    have hbound : boundSigningKey supervisorKeyring
        (writtenFile (signingKeyJson (1, supervisorKey))) = some (1, supervisorKey) :=
      boundSigningKey_eq_some.mpr ⟨mountedSigningKey_written (by decide) (by decide), rfl⟩
    rw [hvalue, hbound]
    rfl
  obtain ⟨-, haccepted⟩ := worker_submission_accepted startSupervisor_sample hreturned hkeys
  obtain ⟨accepted, hresult, -, hprojection, -⟩ :=
    haccepted 1069 (by decide) (by rw [hissued]; decide) (by rw [hissued]; decide)
  exact ⟨signed, accepted, hresult, hprojection⟩

end Outscan
