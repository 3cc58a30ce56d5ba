import Outscan.Library.Dialogue
import Outscan.Target.DestinationPolicy

/-! Resolving a canonical host and classifying what the resolver answered. -/
namespace Outscan

def maxRecordsPerFamily : Nat := 64
def maxDnsTtlSeconds : Nat := 0xffffffff

inductive DnsValue where
  | array (entries : List (Dynamic.Value Dynamic.Scalar))
  | other

/-- A settled query; a rejection is known by the `code` of its error, if any. -/
inductive FamilyQuery where
  | fulfilled (value : DnsValue)
  | rejected (code : Option String)

structure DnsAddressRecord where
  address : String
  ttl : Nat
deriving DecidableEq, Repr

structure ResolvedTarget where
  canonicalHost : String
  policyVersion : String
  minimumTtlSeconds : Nat
  resolvedAtUnixMs : Nat
  expiresAtUnixMs : Nat
  addresses : List ValidatedIpAddress
  addresses_ne_nil : addresses ≠ []
deriving DecidableEq, Repr

inductive ResolveTargetFailure where
  | invalidCanonicalHost | dnsLookupFailed | hostNotFound | inconsistentDnsResponse
  | invalidDnsResponse | noAddressRecords | destinationPolicyRejected | invalidResolutionTime
deriving DecidableEq, Repr

inductive ResolveTargetResult where
  | ok (target : ResolvedTarget)
  | failed (code : ResolveTargetFailure) (policyDecision : Option ResolvedAddressSetResult)
deriving DecidableEq, Repr

inductive QueryState where
  | data | noData | notFound | failed
deriving DecidableEq, Repr

def queryState (result : FamilyQuery) : QueryState :=
  match result with
  | .fulfilled _ => .data
  | .rejected code =>
    if code = some "ENODATA" then .noData
    else if code = some "ENOTFOUND" then .notFound
    else .failed

def parseRecord (expectedFamily : Nat) (value : Dynamic.Value Dynamic.Scalar) :
    Option DnsAddressRecord :=
  match value with
  | .other => none
  | .record record =>
    if !record.hasExactKeys ["address", "ttl"] then none
    else
      match record.get .other "address", record.get .other "ttl" with
      | .string address, .number (some ttl) =>
        if utf16Length address.toList = 0 ∨ utf16Length address.toList > 64 ∨
            isIP address.toList ≠ expectedFamily ∨ ttl < 0 ∨ ttl > (maxDnsTtlSeconds : Int) then none
        else some { address, ttl := ttl.toNat }
      | _, _ => none

def parseRecords (input : DnsValue) (expectedFamily : Nat) : Option (List DnsAddressRecord) :=
  match input with
  | .other => none
  | .array entries =>
    if entries.length > maxRecordsPerFamily then none
    else entries.mapM (parseRecord expectedFamily)

/-- The records of one query: none when it was rejected. -/
def queryRecords (result : FamilyQuery) (expectedFamily : Nat) : Option (List DnsAddressRecord) :=
  match result with
  | .fulfilled value => parseRecords value expectedFamily
  | .rejected _ => some []

/-- `Math.min` of the lifetimes. -/
def minimumTtl (records : List DnsAddressRecord) : Nat := ((records.map (·.ttl)).min?).getD 0

theorem setUnique_ne_nil (unique : List ParsedIp) (address : ParsedIp) :
    setUnique unique address ≠ [] := by
  rw [setUnique]
  split
  · rename_i hany
    obtain ⟨other, hother, -⟩ := List.any_eq_true.mp hany
    rw [ne_eq, List.map_eq_nil_iff]
    exact List.ne_nil_of_mem hother
  · simp

theorem foldl_setUnique_ne_nil {parsed unique : List ParsedIp} (h : parsed ≠ [] ∨ unique ≠ []) :
    parsed.foldl setUnique unique ≠ [] := by
  induction parsed generalizing unique with
  | nil => simpa using h
  | cons address parsed ih => exact ih (.inr (setUnique_ne_nil unique address))

theorem classify_ok_ne_nil {input configured : UnknownList} {version : String}
    {addresses : List ValidatedIpAddress}
    (h : classifyResolvedAddressSet input configured = .ok version addresses) :
    addresses ≠ [] := by
  unfold classifyResolvedAddressSet at h
  dsimp only at h
  split at h
  · cases h
  · rename_i entries
    by_cases hempty : entries.length = 0
    · rw [if_pos hempty] at h
      cases h
    · rw [if_neg hempty] at h
      split at h
      · cases h
      · split at h
        · cases h
        · split at h
          · cases h
          · split at h
            · cases h
            · rename_i parsed hparsed
              split at h
              · cases h
              · cases h
                have hparsedNe : parsed ≠ [] := by
                  rintro rfl
                  cases entries with
                  | nil => exact hempty rfl
                  | cons entry rest =>
                    rw [List.mapM_cons] at hparsed
                    obtain ⟨_, -, hparsed⟩ := Option.bind_eq_some_iff.mp hparsed
                    obtain ⟨_, -, hparsed⟩ := Option.bind_eq_some_iff.mp hparsed
                    cases hparsed
                rw [ne_eq, List.map_eq_nil_iff]
                exact foldl_setUnique_ne_nil (.inl hparsedNe)

def classifyRecords (canonicalHost : String) (states : List QueryState)
    (records : List DnsAddressRecord) (configuredInternalCidrs : UnknownList) (nowUnixMs : Nat) :
    ResolveTargetResult :=
  if states.contains .notFound then
    .failed (if records.length > 0 then .inconsistentDnsResponse else .hostNotFound) none
  else if records.length = 0 then .failed .noAddressRecords none
  else
    match hdecision : classifyResolvedAddressSet (.strings (records.map (·.address)))
        configuredInternalCidrs with
    | .rejected version code blocked =>
      .failed .destinationPolicyRejected (some (.rejected version code blocked))
    | .ok version addresses =>
      let expiresAtUnixMs := nowUnixMs + minimumTtl records * 1000
      if expiresAtUnixMs > maxSafeInteger then .failed .invalidResolutionTime none
      else
        .ok {
          canonicalHost := canonicalHost
          policyVersion := version
          minimumTtlSeconds := minimumTtl records
          resolvedAtUnixMs := nowUnixMs
          expiresAtUnixMs := expiresAtUnixMs
          addresses := addresses
          addresses_ne_nil := classify_ok_ne_nil hdecision }

def classifyQueries (canonicalHost : String) (ipv4Result ipv6Result : FamilyQuery)
    (configuredInternalCidrs : UnknownList) (nowUnixMs : Nat) : ResolveTargetResult :=
  let states := [queryState ipv4Result, queryState ipv6Result]
  if states.contains .failed then .failed .dnsLookupFailed none
  else
    match queryRecords ipv4Result 4, queryRecords ipv6Result 6 with
    | some ipv4Records, some ipv6Records =>
      classifyRecords canonicalHost states (ipv4Records ++ ipv6Records) configuredInternalCidrs
        nowUnixMs
    | _, _ => .failed .invalidDnsResponse none

/-- The resolver is asked for both families at once (`Promise.allSettled`). -/
def resolveAndClassifyHostname {Q : Type} {A : Q → Type} (node : NodeRuntime)
    (canonicalHost : String) (resolver : String → Dialogue Q A (FamilyQuery × FamilyQuery))
    (configuredInternalCidrs : UnknownList) (nowUnixMs : Nat) :
    Dialogue Q A ResolveTargetResult :=
  if canonicalizeHostname node canonicalHost ≠ .ok canonicalHost then
    return .failed .invalidCanonicalHost none
  else if nowUnixMs > maxSafeInteger then return .failed .invalidResolutionTime none
  else do
    let (ipv4Result, ipv6Result) ← resolver canonicalHost
    return classifyQueries canonicalHost ipv4Result ipv6Result configuredInternalCidrs nowUnixMs

theorem classifyRecords_ok {canonicalHost : String} {states : List QueryState}
    {records : List DnsAddressRecord} {configuredInternalCidrs : UnknownList} {nowUnixMs : Nat}
    {target : ResolvedTarget}
    (h : classifyRecords canonicalHost states records configuredInternalCidrs nowUnixMs =
      .ok target) :
    classifyResolvedAddressSet (.strings (records.map (·.address))) configuredInternalCidrs =
        .ok target.policyVersion target.addresses ∧
      target.canonicalHost = canonicalHost ∧ target.resolvedAtUnixMs = nowUnixMs ∧
      target.minimumTtlSeconds = minimumTtl records ∧
      target.expiresAtUnixMs = nowUnixMs + minimumTtl records * 1000 ∧
      target.expiresAtUnixMs ≤ maxSafeInteger := by
  rw [classifyRecords] at h
  split at h
  · cases h
  · split at h
    · cases h
    · split at h
      · cases h
      · rename_i version addresses hdecision
        dsimp only at h
        split at h
        · cases h
        · rename_i hexpires
          cases h
          exact ⟨hdecision, rfl, rfl, rfl, rfl, Nat.le_of_not_gt hexpires⟩

theorem classifyQueries_records {canonicalHost : String} {ipv4Result ipv6Result : FamilyQuery}
    {configuredInternalCidrs : UnknownList} {nowUnixMs : Nat} {target : ResolvedTarget}
    (h : classifyQueries canonicalHost ipv4Result ipv6Result configuredInternalCidrs
      nowUnixMs = .ok target) :
    ∃ ipv4Records ipv6Records, queryRecords ipv4Result 4 = some ipv4Records ∧
      queryRecords ipv6Result 6 = some ipv6Records ∧
      classifyRecords canonicalHost [queryState ipv4Result, queryState ipv6Result]
        (ipv4Records ++ ipv6Records) configuredInternalCidrs nowUnixMs = .ok target := by
  rw [classifyQueries] at h
  split at h
  · cases h
  · split at h
    · rename_i ipv4Records ipv6Records hipv4 hipv6
      exact ⟨ipv4Records, ipv6Records, hipv4, hipv6, h⟩
    · cases h

/-- The addresses of a resolved target are what the policy accepted of the records
that this resolution returned. -/
theorem classifyQueries_ok {canonicalHost : String} {ipv4Result ipv6Result : FamilyQuery}
    {configuredInternalCidrs : UnknownList} {nowUnixMs : Nat} {target : ResolvedTarget}
    (h : classifyQueries canonicalHost ipv4Result ipv6Result configuredInternalCidrs
      nowUnixMs = .ok target) :
    ∃ ipv4Records ipv6Records, queryRecords ipv4Result 4 = some ipv4Records ∧
      queryRecords ipv6Result 6 = some ipv6Records ∧
      classifyResolvedAddressSet
          (.strings ((ipv4Records ++ ipv6Records).map (·.address))) configuredInternalCidrs =
        .ok target.policyVersion target.addresses ∧
      target.canonicalHost = canonicalHost ∧ target.resolvedAtUnixMs = nowUnixMs := by
  obtain ⟨ipv4Records, ipv6Records, hipv4, hipv6, h⟩ := classifyQueries_records h
  obtain ⟨hdecision, hhost, hresolved, -⟩ := classifyRecords_ok h
  exact ⟨ipv4Records, ipv6Records, hipv4, hipv6, hdecision, hhost, hresolved⟩

theorem ttl_le_of_parseRecord {family : Nat} {value : Dynamic.Value Dynamic.Scalar}
    {record : DnsAddressRecord} (h : parseRecord family value = some record) :
    record.ttl ≤ maxDnsTtlSeconds := by
  unfold parseRecord at h
  split at h
  · cases h
  · split at h
    · cases h
    · split at h
      · split at h
        · cases h
        · rename_i hbounds
          cases h
          simp only [not_or] at hbounds
          dsimp only
          omega
      · cases h

theorem ttl_le_of_queryRecords {result : FamilyQuery} {family : Nat}
    {records : List DnsAddressRecord} (h : queryRecords result family = some records) :
    ∀ record ∈ records, record.ttl ≤ maxDnsTtlSeconds := by
  cases result with
  | rejected code =>
    cases h
    simp
  | fulfilled value =>
    cases value with
    | other => cases h
    | array entries =>
      rw [queryRecords, parseRecords] at h
      split at h
      · cases h
      · intro record hrecord
        obtain ⟨entry, -, hentry⟩ := (mem_of_mapM h).2 record hrecord
        exact ttl_le_of_parseRecord hentry

theorem minimumTtl_le {records : List DnsAddressRecord} {bound : Nat}
    (h : ∀ record ∈ records, record.ttl ≤ bound) : minimumTtl records ≤ bound := by
  rw [minimumTtl]
  cases hmin : (records.map (·.ttl)).min? with
  | none => exact Nat.zero_le _
  | some ttl =>
    obtain ⟨record, hrecord, rfl⟩ := List.mem_map.mp (List.min?_mem hmin)
    exact h record hrecord

end Outscan
