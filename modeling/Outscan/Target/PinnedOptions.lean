import Outscan.Target.PinnedRequest
import Outscan.Target.Resolver

/-! The options of a request to one approved address of a resolved target. Target
and request are checked again, whoever hands them over. -/
namespace Outscan

inductive TargetField where
  | scalar (value : Dynamic.Scalar)
  | array (entries : List (Dynamic.Value Dynamic.Scalar))

def TargetField.text? : TargetField → Option String
  | .scalar (.string value) => some value
  | _ => none

def TargetField.integer? (field : TargetField) (maximum : Nat) : Option Nat :=
  match field with
  | .scalar value => boundedInteger value 0 maximum
  | .array _ => none

def TargetField.array? : TargetField → Option (List (Dynamic.Value Dynamic.Scalar))
  | .scalar _ => none
  | .array entries => some entries

def targetKeys : List String :=
  ["canonical_host", "policy_version", "minimum_ttl_seconds", "resolved_at_unix_ms",
    "expires_at_unix_ms", "addresses"]

def requestKeys : List String := ["protocol", "method", "path", "pinned_address", "now_unix_ms"]

inductive PinnedRequestRejection where
  | invalidTarget | staleResolution | invalidRequest | pinNotApproved | destinationPolicyRejected
deriving DecidableEq, Repr

def protocolOf : Dynamic.Scalar → Option Protocol
  | .string "http:" => some .http
  | .string "https:" => some .https
  | _ => none

def methodOf : Dynamic.Scalar → Option HttpMethod
  | .string "GET" => some .get
  | .string "HEAD" => some .head
  | _ => none

def textOf : Dynamic.Scalar → Option String
  | .string value => some value
  | _ => none

def parseSpec (input : Dynamic.Value Dynamic.Scalar) : Option PinnedRequestSpec :=
  match input with
  | .other => none
  | .record record =>
    if !record.hasExactKeys requestKeys then none
    else do
      let protocol ← protocolOf (record.get .other "protocol")
      let method ← methodOf (record.get .other "method")
      let path ← textOf (record.get .other "path")
      let pinnedAddress ← textOf (record.get .other "pinned_address")
      let nowUnixMs ← boundedInteger (record.get .other "now_unix_ms") 0 maxSafeInteger
      if isValidOriginFormPath path then
        some { protocol, method, path, pinnedAddress, nowUnixMs }
      else none

def familyOf : Dynamic.Scalar → Option Ip.Family
  | .number (some 4) => some .v4
  | .number (some 6) => some .v6
  | _ => none

def suppliedAddress (entry : Dynamic.Value Dynamic.Scalar) : Option ValidatedIpAddress :=
  match entry with
  | .other => none
  | .record record =>
    if !record.hasExactKeys ["address", "family"] then none
    else do
      let address ← textOf (record.get .other "address")
      let family ← familyOf (record.get .other "family")
      return { address, family }

/-- What `parseTarget` returns. -/
inductive ParsedTarget where
  | target (target : ResolvedTarget)
  | policyRejected
  | invalid
deriving DecidableEq, Repr

def someDiffers (decided supplied : List ValidatedIpAddress) : Bool :=
  (decided.zip supplied).any fun (address, given) =>
    given.address ≠ address.address || given.family ≠ address.family

/-- The rest of `parseTarget`: the addresses stand as the policy decides on them. -/
def checkAddresses (target : ResolvedTarget) (configuredInternalCidrs : UnknownList) :
    ParsedTarget :=
  match classifyResolvedAddressSet (.strings (target.addresses.map (·.address)))
      configuredInternalCidrs with
  | .rejected _ _ _ => .policyRejected
  | .ok _ decided =>
    if decided.length ≠ target.addresses.length || someDiffers decided target.addresses then .invalid
    else .target target

def targetFields (node : NodeRuntime) (record : Dynamic.Record TargetField) :
    Option ResolvedTarget := do
  let field := record.get (.scalar .other)
  let canonicalHost ← (field "canonical_host").text?
  let policyVersion ← (field "policy_version").text?
  let minimumTtlSeconds ← (field "minimum_ttl_seconds").integer? 0xffffffff
  let resolvedAtUnixMs ← (field "resolved_at_unix_ms").integer? maxSafeInteger
  let expiresAtUnixMs ← (field "expires_at_unix_ms").integer? maxSafeInteger
  let entries ← (field "addresses").array?
  if canonicalizeHostname node canonicalHost ≠ .ok canonicalHost ∨
      policyVersion ≠ ipDestinationPolicyVersion ∨ entries.length = 0 ∨ entries.length > 64 then none
  else if resolvedAtUnixMs + minimumTtlSeconds * 1000 > maxSafeInteger ∨
      resolvedAtUnixMs + minimumTtlSeconds * 1000 ≠ expiresAtUnixMs then none
  else do
    let addresses ← entries.mapM suppliedAddress
    if h : addresses ≠ [] then
      some {
        canonicalHost, policyVersion, minimumTtlSeconds, resolvedAtUnixMs, expiresAtUnixMs, addresses
        addresses_ne_nil := h }
    else none

def parseTarget (node : NodeRuntime) (input : Dynamic.Value TargetField)
    (configuredInternalCidrs : UnknownList) : ParsedTarget :=
  match input with
  | .other => .invalid
  | .record record =>
    if !record.hasExactKeys targetKeys then .invalid
    else
      match targetFields node record with
      | none => .invalid
      | some target => checkAddresses target configuredInternalCidrs

/-! ### The options -/

/-- The `family` of a lookup. -/
inductive LookupFamily where
  | number (value : Nat)
  | text (value : String)
deriving DecidableEq, Repr

structure LookupOptions where
  family : Option LookupFamily
  all : Bool
deriving DecidableEq, Repr

/-- What a lookup calls back with: the error `EPERM`, a list, or one address. -/
inductive LookupAnswer where
  | rejected (family : Ip.Family)
  | list (addresses : List ValidatedIpAddress)
  | single (address : String) (family : Ip.Family)
deriving DecidableEq, Repr

def familyNumber : Ip.Family → Nat
  | .v4 => 4
  | .v6 => 6

def pinnedLookup (canonicalHost : String) (pinnedAddress : ValidatedIpAddress)
    (hostname : String) (options : LookupOptions) : LookupAnswer :=
  if hostname ≠ canonicalHost ∨
      (options.family ≠ none ∧ options.family ≠ some (.number 0) ∧
        options.family ≠ some (.number (familyNumber pinnedAddress.family))) then
    .rejected pinnedAddress.family
  else if options.all then .list [pinnedAddress]
  else .single pinnedAddress.address pinnedAddress.family

/-- The host for which a certificate is checked when TLS asks about `hostname`. -/
def certificateVerifier (canonicalHost : String) (_hostname : String) : String := canonicalHost

structure TlsOptions where
  servername : String
  rejectUnauthorized : Bool
  checkServerIdentity : String → String

structure PinnedRequestOptions where
  protocol : Protocol
  hostname : String
  host : String
  port : Nat
  method : HttpMethod
  path : String
  headers : List (String × String)
  family : Ip.Family
  lookup : String → LookupOptions → LookupAnswer
  agent : Bool
  insecureHttpParser : Bool
  joinDuplicateHeaders : Bool
  maxHeaderSize : Nat
  tls : Option TlsOptions

def optionsFor (target : ResolvedTarget) (spec : PinnedRequestSpec)
    (pinnedAddress : ValidatedIpAddress) : PinnedRequestOptions where
  protocol := spec.protocol
  hostname := target.canonicalHost
  host := target.canonicalHost
  port := if spec.protocol = .https then 443 else 80
  method := spec.method
  path := spec.path
  headers :=
    [("host", target.canonicalHost), ("accept", "*/*"), ("connection", "close"),
      ("user-agent", "OUTSCAN/1.0")]
  family := pinnedAddress.family
  lookup := pinnedLookup target.canonicalHost pinnedAddress
  agent := false
  insecureHttpParser := false
  joinDuplicateHeaders := false
  maxHeaderSize := 64 * 1024
  tls :=
    if spec.protocol = .https then
      some {
        servername := target.canonicalHost
        rejectUnauthorized := true
        checkServerIdentity := certificateVerifier target.canonicalHost }
    else none

def createPinnedRequestOptions (node : NodeRuntime) (targetInput : Dynamic.Value TargetField)
    (requestInput : Dynamic.Value Dynamic.Scalar) (configuredInternalCidrs : UnknownList) :
    Except PinnedRequestRejection PinnedRequestOptions :=
  match parseTarget node targetInput configuredInternalCidrs, parseSpec requestInput with
  | .policyRejected, _ => .error .destinationPolicyRejected
  | .invalid, _ => .error .invalidTarget
  | .target _, none => .error .invalidRequest
  | .target target, some spec =>
    if spec.nowUnixMs < target.resolvedAtUnixMs then .error .invalidTarget
    else if spec.nowUnixMs ≥ target.expiresAtUnixMs then .error .staleResolution
    else
      match target.addresses.find? (·.address == spec.pinnedAddress) with
      | none => .error .pinNotApproved
      | some pinnedAddress => .ok (optionsFor target spec pinnedAddress)

/-! ### What passes the checks -/

def Protocol.scalar (protocol : Protocol) : Dynamic.Scalar := .string protocol.text

def HttpMethod.scalar : HttpMethod → Dynamic.Scalar
  | .get => .string "GET"
  | .head => .string "HEAD"

def PinnedRequestSpec.fields (spec : PinnedRequestSpec) : List (String × Dynamic.Scalar) :=
  [("protocol", spec.protocol.scalar), ("method", spec.method.scalar), ("path", .string spec.path),
    ("pinned_address", .string spec.pinnedAddress), ("now_unix_ms", .number (some spec.nowUnixMs))]

/-- `input` is the request `spec`, well formed, with its fields in any order. -/
def IsRequest (input : Dynamic.Value Dynamic.Scalar) (spec : PinnedRequestSpec) : Prop :=
  isValidOriginFormPath spec.path = true ∧ spec.nowUnixMs ≤ maxSafeInteger ∧
    ∃ record, input = .record record ∧ record.fields.Perm spec.fields

def ValidatedIpAddress.entry (address : ValidatedIpAddress) : Dynamic.Value Dynamic.Scalar :=
  .record {
    fields :=
      [("address", .string address.address),
        ("family", .number (some (familyNumber address.family)))]
    unique := by simp }

def ResolvedTarget.recordWith (target : ResolvedTarget) (addresses : List ValidatedIpAddress) :
    Dynamic.Record TargetField where
  fields :=
    [("canonical_host", .scalar (.string target.canonicalHost)),
      ("policy_version", .scalar (.string target.policyVersion)),
      ("minimum_ttl_seconds", .scalar (.number (some target.minimumTtlSeconds))),
      ("resolved_at_unix_ms", .scalar (.number (some target.resolvedAtUnixMs))),
      ("expires_at_unix_ms", .scalar (.number (some target.expiresAtUnixMs))),
      ("addresses", .array (addresses.map (·.entry)))]
  unique := by simp

def ResolvedTarget.record (target : ResolvedTarget) : Dynamic.Record TargetField :=
  target.recordWith target.addresses

/-- What a resolved target says apart from its addresses is consistent. -/
structure ResolvedTarget.Consistent (node : NodeRuntime) (target : ResolvedTarget) : Prop where
  host : canonicalizeHostname node target.canonicalHost = .ok target.canonicalHost
  version : target.policyVersion = ipDestinationPolicyVersion
  ttl : target.minimumTtlSeconds ≤ 0xffffffff
  expires : target.expiresAtUnixMs = target.resolvedAtUnixMs + target.minimumTtlSeconds * 1000
  safe : target.expiresAtUnixMs ≤ maxSafeInteger

theorem protocolOf_eq_some {value : Dynamic.Scalar} {protocol : Protocol} :
    protocolOf value = some protocol ↔ value = protocol.scalar := by
  unfold protocolOf
  split <;> cases protocol <;> simp_all [Protocol.scalar, Protocol.text]

theorem methodOf_eq_some {value : Dynamic.Scalar} {method : HttpMethod} :
    methodOf value = some method ↔ value = method.scalar := by
  unfold methodOf
  split <;> cases method <;> simp_all [HttpMethod.scalar]

theorem textOf_eq_some {value : Dynamic.Scalar} {text : String} :
    textOf value = some text ↔ value = .string text := by
  unfold textOf
  split <;> simp_all

theorem boundedInteger_eq_some {value : Dynamic.Scalar} {maximum number : Nat} :
    boundedInteger value 0 maximum = some number ↔
      value = .number (some number) ∧ number ≤ maximum := by
  unfold boundedInteger
  split
  · rename_i given
    constructor
    · intro h
      split at h
      · rename_i hbound
        cases h
        refine ⟨?_, by omega⟩
        rw [Int.toNat_of_nonneg (by omega)]
      · cases h
    · rintro ⟨h, hle⟩
      cases h
      rw [if_pos ⟨by omega, by omega⟩, Int.toNat_natCast]
  · rename_i hother
    constructor
    · intro h
      cases h
    · rintro ⟨rfl, -⟩
      exact absurd rfl (hother _)

theorem parseSpec_eq_some {input : Dynamic.Value Dynamic.Scalar} {spec : PinnedRequestSpec} :
    parseSpec input = some spec ↔ IsRequest input spec := by
  constructor
  · intro h
    cases input with
    | other => cases h
    | record record =>
      rw [parseSpec] at h
      split at h
      · cases h
      · rename_i hkeys
        simp only [Bool.not_eq_true', Bool.not_eq_false] at hkeys
        obtain ⟨protocol, hprotocol, h⟩ := Option.bind_eq_some_iff.mp h
        obtain ⟨method, hmethod, h⟩ := Option.bind_eq_some_iff.mp h
        obtain ⟨path, hpath, h⟩ := Option.bind_eq_some_iff.mp h
        obtain ⟨pinned, hpinned, h⟩ := Option.bind_eq_some_iff.mp h
        obtain ⟨now, hnow, h⟩ := Option.bind_eq_some_iff.mp h
        obtain ⟨hnow, hbound⟩ := boundedInteger_eq_some.mp hnow
        split at h
        · rename_i hvalid
          cases h
          refine ⟨hvalid, hbound, record, rfl, ?_⟩
          have hperm := Dynamic.Record.perm_of_hasExactKeys hkeys Dynamic.Scalar.other
          simpa [requestKeys, PinnedRequestSpec.fields, protocolOf_eq_some.mp hprotocol,
            methodOf_eq_some.mp hmethod, textOf_eq_some.mp hpath, textOf_eq_some.mp hpinned,
            hnow] using hperm
        · cases h
  · rintro ⟨hvalid, hbound, record, rfl, hperm⟩
    have hkeys : record.hasExactKeys requestKeys = true :=
      Dynamic.Record.hasExactKeys_of_perm hperm rfl
    have hfield : ∀ key value, (key, value) ∈ spec.fields → record.get .other key = value :=
      fun _ _ hmem => Dynamic.Record.get_of_perm hperm Dynamic.Scalar.other hmem
    have hprotocol := hfield "protocol" spec.protocol.scalar (by simp [PinnedRequestSpec.fields])
    have hmethod := hfield "method" spec.method.scalar (by simp [PinnedRequestSpec.fields])
    have hpath := hfield "path" (.string spec.path) (by simp [PinnedRequestSpec.fields])
    have hpinned := hfield "pinned_address" (.string spec.pinnedAddress)
      (by simp [PinnedRequestSpec.fields])
    have hnow := hfield "now_unix_ms" (.number (some spec.nowUnixMs))
      (by simp [PinnedRequestSpec.fields])
    rw [parseSpec, hkeys, hprotocol, hmethod, hpath, hpinned, hnow,
      protocolOf_eq_some.mpr rfl, methodOf_eq_some.mpr rfl,
      boundedInteger_eq_some.mpr ⟨rfl, hbound⟩]
    simp only [textOf, Option.bind_eq_bind, Option.bind_some, hvalid]
    rfl

theorem familyOf_familyNumber (family : Ip.Family) :
    familyOf (.number (some (familyNumber family))) = some family := by
  cases family <;> rfl

@[simp] theorem suppliedAddress_entry (address : ValidatedIpAddress) :
    suppliedAddress address.entry = some address := by
  obtain ⟨text, family⟩ := address
  have hfamily := familyOf_familyNumber family
  simp [suppliedAddress, ValidatedIpAddress.entry, Dynamic.Record.hasExactKeys, Dynamic.Record.get,
    List.lookup_cons, textOf, hfamily]

theorem mapM_suppliedAddress (addresses : List ValidatedIpAddress) :
    (addresses.map (·.entry)).mapM suppliedAddress = some addresses := by
  induction addresses with
  | nil => rfl
  | cons address addresses ih => simp [ih]

theorem not_differs_iff {decided supplied : List ValidatedIpAddress} :
    (decide (decided.length ≠ supplied.length) || someDiffers decided supplied) = false ↔
      decided = supplied := by
  induction decided generalizing supplied with
  | nil => cases supplied <;> simp [someDiffers]
  | cons address decided ih =>
    cases supplied with
    | nil => simp
    | cons given supplied =>
      have hrest := @ih supplied
      simp only [someDiffers, List.zip_cons_cons, List.any_cons, List.length_cons, ne_eq,
        Nat.add_right_cancel_iff, Bool.or_eq_false_iff, decide_eq_false_iff_not,
        not_not] at hrest ⊢
      obtain ⟨text, family⟩ := address
      obtain ⟨text', family'⟩ := given
      simp only [List.cons.injEq, ValidatedIpAddress.mk.injEq]
      grind

theorem checkAddresses_eq_target {target parsed : ResolvedTarget} {cidrs : UnknownList} :
    checkAddresses target cidrs = .target parsed ↔
      parsed = target ∧ ∃ version,
        classifyResolvedAddressSet (.strings (target.addresses.map (·.address))) cidrs =
          .ok version target.addresses := by
  rw [checkAddresses]
  split
  · rename_i hdecision
    simp [hdecision]
  · rename_i version decided hdecision
    by_cases hsame : decided = target.addresses
    · rw [if_neg (by rw [not_differs_iff.mpr hsame]; simp)]
      simp [hdecision, hsame, eq_comm]
    · rw [if_pos (Bool.eq_true_of_not_eq_false ((not_congr not_differs_iff).mpr hsame))]
      simp [hdecision, hsame]

theorem targetFields_recordWith {node : NodeRuntime} {target : ResolvedTarget}
    (h : target.Consistent node) (addresses : List ValidatedIpAddress) :
    targetFields node (target.recordWith addresses) =
      if hne : addresses = [] ∨ addresses.length > 64 then none
      else
        some { target with
          addresses := addresses
          addresses_ne_nil := fun hnil => hne (.inl hnil) } := by
  obtain ⟨hhost, hversion, httl, hexpires, hsafe⟩ := h
  have hfields : ∀ key value, (key, value) ∈ (target.recordWith addresses).fields →
      (target.recordWith addresses).get (.scalar .other) key = value :=
    fun _ _ hmem => Dynamic.Record.get_of_perm (List.Perm.refl _) (TargetField.scalar .other) hmem
  have hinteger : ∀ {number maximum : Nat}, number ≤ maximum →
      (TargetField.scalar (.number (some number))).integer? maximum = some number :=
    fun hle => boundedInteger_eq_some.mpr ⟨rfl, hle⟩
  rw [targetFields,
    hfields "canonical_host" (.scalar (.string target.canonicalHost))
      (by simp [ResolvedTarget.recordWith]),
    hfields "policy_version" (.scalar (.string target.policyVersion))
      (by simp [ResolvedTarget.recordWith]),
    hfields "minimum_ttl_seconds" (.scalar (.number (some target.minimumTtlSeconds)))
      (by simp [ResolvedTarget.recordWith]),
    hfields "resolved_at_unix_ms" (.scalar (.number (some target.resolvedAtUnixMs)))
      (by simp [ResolvedTarget.recordWith]),
    hfields "expires_at_unix_ms" (.scalar (.number (some target.expiresAtUnixMs)))
      (by simp [ResolvedTarget.recordWith]),
    hfields "addresses" (.array (addresses.map (·.entry))) (by simp [ResolvedTarget.recordWith]),
    hinteger httl, hinteger (by omega), hinteger hsafe]
  simp only [TargetField.text?, TargetField.array?, Option.bind_eq_bind, Option.bind_some]
  have hempty : (addresses.map (·.entry)).length = 0 ↔ addresses = [] := by simp
  have hlong : (addresses.map (·.entry)).length > 64 ↔ addresses.length > 64 := by simp
  by_cases hne : addresses = [] ∨ addresses.length > 64
  · rw [dif_pos hne, if_pos]
    rw [hempty, hlong]
    exact .inr (.inr hne)
  · rw [dif_neg hne, if_neg, if_neg, mapM_suppliedAddress, Option.bind_some, dif_pos]
    · omega
    · rw [hempty, hlong]
      simp [hhost, hversion, hne]

theorem parseTarget_recordWith {node : NodeRuntime} {target : ResolvedTarget}
    (h : target.Consistent node) (addresses : List ValidatedIpAddress) (cidrs : UnknownList) :
    parseTarget node (.record (target.recordWith addresses)) cidrs =
      if hne : addresses = [] ∨ addresses.length > 64 then .invalid
      else
        checkAddresses
          { target with
            addresses := addresses
            addresses_ne_nil := fun hnil => hne (.inl hnil) }
          cidrs := by
  have hkeys : (target.recordWith addresses).hasExactKeys targetKeys = true :=
    Dynamic.Record.hasExactKeys_of_perm (List.Perm.refl _) rfl
  rw [parseTarget, hkeys, targetFields_recordWith h]
  by_cases hne : addresses = [] ∨ addresses.length > 64
  · rw [dif_pos hne, dif_pos hne]
    rfl
  · rw [dif_neg hne, dif_neg hne]
    rfl

/-- Target and request pass, the time is in the interval, and the pin is found. -/
theorem createPinnedRequestOptions_ok {node : NodeRuntime} {targetInput : Dynamic.Value TargetField}
    {requestInput : Dynamic.Value Dynamic.Scalar} {cidrs : UnknownList}
    {options : PinnedRequestOptions} :
    createPinnedRequestOptions node targetInput requestInput cidrs = .ok options ↔
      ∃ target spec address, parseTarget node targetInput cidrs = .target target ∧
        parseSpec requestInput = some spec ∧ target.resolvedAtUnixMs ≤ spec.nowUnixMs ∧
        spec.nowUnixMs < target.expiresAtUnixMs ∧
        target.addresses.find? (·.address == spec.pinnedAddress) = some address ∧
        options = optionsFor target spec address := by
  rw [createPinnedRequestOptions]
  cases parseTarget node targetInput cidrs with
  | policyRejected => simp
  | invalid => simp
  | target target =>
    cases parseSpec requestInput with
    | none => simp
    | some spec =>
      dsimp only
      by_cases hbefore : spec.nowUnixMs < target.resolvedAtUnixMs
      · rw [if_pos hbefore]
        simp
        omega
      · by_cases hafter : spec.nowUnixMs ≥ target.expiresAtUnixMs
        · rw [if_neg hbefore, if_pos hafter]
          simp
          omega
        · rw [if_neg hbefore, if_neg hafter]
          cases hfind : target.addresses.find? (·.address == spec.pinnedAddress) with
          | none => simp [hfind]
          | some address => simp [hfind, Nat.le_of_not_gt hbefore, Nat.lt_of_not_ge hafter, eq_comm]

end Outscan
