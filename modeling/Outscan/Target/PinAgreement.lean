import Outscan.Target.PinnedOptions

/-! The resolver and the check of a pinned request agree: what one of them hands out
the other accepts, and nothing the policy would decide otherwise. -/
namespace Outscan

open Dialogue

/-- The list stands as the policy decides on it: canonical texts of permitted
addresses, no address twice. -/
def Approved (cidrs : UnknownList) (addresses : List ValidatedIpAddress) : Prop :=
  ∃ configured, cidrs = .strings configured ∧
    (snapshotConfiguredInternalCidrs (.strings configured)).isSome = true ∧
    1 ≤ addresses.length ∧ addresses.length ≤ 64 ∧ addresses.Nodup ∧
    ∀ address ∈ addresses, ∃ a, address = canonicalAddress a ∧ Permitted configured a

theorem foldl_setUnique_of_nodup (as : List Ip.Address) (h : as.Nodup) :
    (as.map ParsedIp.ofAddress).foldl setUnique [] = as.map ParsedIp.ofAddress := by
  induction as using List.reverseRecOn with
  | nil => rfl
  | append_singleton as a ih =>
    rw [List.nodup_append] at h
    obtain ⟨hnodup, -, hfresh⟩ := h
    rw [List.map_append, List.foldl_append, ih hnodup, List.map_singleton, List.foldl_cons,
      List.foldl_nil, setUnique, if_neg]
    rw [List.any_map, List.any_eq_true]
    rintro ⟨b, hb, hsame⟩
    rw [Function.comp_apply] at hsame
    obtain ⟨hfamily, hvalue⟩ := of_decide_eq_true hsame
    exact hfresh b hb a (by simp) (Ip.Address.ext hfamily hvalue)

theorem forall₂_canonical (as : List Ip.Address) :
    List.Forall₂ (fun (entry : String) a => Ip.Denotes entry.toList a)
      ((as.map canonicalAddress).map (·.address)) as := by
  induction as with
  | nil => exact .nil
  | cons a as ih =>
    refine .cons ?_ ih
    rw [canonicalAddress, ParsedIp.ofAddress, String.toList_ofList]
    exact denotes_addressText a

theorem exists_canonical {configured : List String} {addresses : List ValidatedIpAddress}
    (hnodup : addresses.Nodup)
    (h : ∀ address ∈ addresses, ∃ a, address = canonicalAddress a ∧ Permitted configured a) :
    ∃ as : List Ip.Address, as.Nodup ∧ addresses = as.map canonicalAddress ∧
      ∀ a ∈ as, Permitted configured a := by
  induction addresses with
  | nil => exact ⟨[], List.nodup_nil, rfl, by simp⟩
  | cons address addresses ih =>
    rw [List.nodup_cons] at hnodup
    obtain ⟨a, rfl, ha⟩ := h address (by simp)
    obtain ⟨as, has, rfl, hpermitted⟩ := ih hnodup.2 fun b hb => h b (List.mem_cons_of_mem _ hb)
    refine ⟨a :: as, List.nodup_cons.mpr ⟨?_, has⟩, rfl, List.forall_mem_cons.mpr ⟨ha, hpermitted⟩⟩
    exact fun hmem => hnodup.1 (List.mem_map_of_mem hmem)

theorem exists_snapshot_of_classify {texts : List String} {cidrs : UnknownList} {version : String}
    {addresses : List ValidatedIpAddress}
    (h : classifyResolvedAddressSet (.strings texts) cidrs = .ok version addresses) :
    ∃ configured, snapshotConfiguredInternalCidrs cidrs = some configured := by
  cases hsnapshot : snapshotConfiguredInternalCidrs cidrs with
  | some configured => exact ⟨configured, rfl⟩
  | none =>
    rw [UnknownList.strings, classifyResolvedAddressSet] at h
    dsimp only at h
    rw [hsnapshot] at h
    split at h
    · cases h
    · split at h <;> cases h

theorem approved_of_classify {texts : List String} {cidrs : UnknownList} {version : String}
    {addresses : List ValidatedIpAddress}
    (h : classifyResolvedAddressSet (.strings texts) cidrs = .ok version addresses) :
    Approved cidrs addresses ∧ version = ipDestinationPolicyVersion := by
  obtain ⟨configured, hsnapshot⟩ := exists_snapshot_of_classify h
  cases strings_of_snapshot hsnapshot
  have hconfigured : (snapshotConfiguredInternalCidrs (.strings configured)).isSome = true := by
    rw [hsnapshot]
    rfl
  have hok : (classifyResolvedAddressSet (.strings texts) (.strings configured)).isOk = true := by
    rw [h]
    rfl
  obtain ⟨ranges, hranges⟩ := exists_ranges hconfigured
  obtain ⟨hlimit, hpermitted⟩ := (isOk_iff hconfigured).mp hok
  have hliterals : ∀ text ∈ texts, ∃ a, Ip.Denotes text.toList a := by
    intro text htext
    obtain ⟨a, ha, -⟩ := hpermitted text htext
    exact ⟨a, ha⟩
  obtain ⟨as, has⟩ := exists_forall₂_denotes hliterals
  obtain ⟨distinct, hnodup, hmem, hdecision⟩ := classify_literals hconfigured hlimit hranges hliterals
  -- the addresses kept are among those the texts denote, so there are no more of them
  have hsubset : distinct ⊆ as := by
    intro a ha
    obtain ⟨text, htext, hdenotes⟩ := (hmem a).mp ha
    obtain ⟨b, hb, hb'⟩ := (forall₂_denotes has).1 text htext
    rwa [denotes_unique hdenotes hb']
  have hcount : distinct.length ≤ texts.length := by
    rw [has.length_eq]
    exact (List.subperm_of_subset hnodup hsubset).length_le
  have hne := classify_ok_ne_nil h
  have hdecide : (decideAddresses ranges distinct).isOk = true := by
    rw [← hdecision, hok]
  have hall := (isOk_decideAddresses hranges distinct).mp hdecide
  rw [h, decideAddresses] at hdecision
  split at hdecision
  · cases hdecision
  · cases hdecision
    refine ⟨⟨configured, rfl, hconfigured, List.length_pos_iff.mpr hne, ?_, ?_, ?_⟩, rfl⟩
    · rw [List.length_map]
      exact Nat.le_trans hcount hlimit.2
    · exact hnodup.map fun _ _ => canonicalAddress_injective
    · intro address haddress
      obtain ⟨a, ha, rfl⟩ := List.mem_map.mp haddress
      exact ⟨a, rfl, hall a ha⟩

theorem classify_of_approved {cidrs : UnknownList} {addresses : List ValidatedIpAddress}
    (h : Approved cidrs addresses) :
    classifyResolvedAddressSet (.strings (addresses.map (·.address))) cidrs =
      .ok ipDestinationPolicyVersion addresses := by
  obtain ⟨configured, rfl, hconfigured, hpos, hmax, hnodup, hcanonical⟩ := h
  obtain ⟨as, has, rfl, hpermitted⟩ := exists_canonical hnodup hcanonical
  obtain ⟨ranges, hranges⟩ := exists_ranges hconfigured
  have hlimit : WithinLimit ((as.map canonicalAddress).map (·.address)) := by
    simpa [WithinLimit] using And.intro hpos hmax
  have hdecide := (isOk_decideAddresses hranges as).mpr hpermitted
  rw [classify_withinLimit hconfigured hlimit hranges,
    mapM_parseEntry.mpr ⟨as, forall₂_canonical as, rfl⟩]
  dsimp only
  rw [foldl_setUnique_of_nodup as has]
  rw [decideAddresses] at hdecide
  split at hdecide
  · cases hdecide
  · rename_i hblocked
    rw [if_neg hblocked, List.map_map]
    rfl

theorem resolved_of_classifyQueries {node : NodeRuntime} {host : String}
    {ipv4Result ipv6Result : FamilyQuery} {cidrs : UnknownList} {now : Nat} {target : ResolvedTarget}
    (hhost : canonicalizeHostname node host = .ok host)
    (h : classifyQueries host ipv4Result ipv6Result cidrs now = .ok target) :
    target.Consistent node ∧ Approved cidrs target.addresses ∧ target.canonicalHost = host ∧
      target.resolvedAtUnixMs = now := by
  obtain ⟨ipv4Records, ipv6Records, hipv4, hipv6, hrecords⟩ := classifyQueries_records h
  obtain ⟨hdecision, rfl, rfl, httl, hexpires, hsafe⟩ := classifyRecords_ok hrecords
  obtain ⟨happroved, hversion⟩ := approved_of_classify hdecision
  have hbound : ∀ record ∈ ipv4Records ++ ipv6Records, record.ttl ≤ maxDnsTtlSeconds := by
    intro record hrecord
    rcases List.mem_append.mp hrecord with hrecord | hrecord
    · exact ttl_le_of_queryRecords hipv4 record hrecord
    · exact ttl_le_of_queryRecords hipv6 record hrecord
  refine ⟨⟨hhost, hversion, ?_, ?_, hsafe⟩, happroved, rfl, rfl⟩
  · rw [httl]
    exact minimumTtl_le hbound
  · rw [hexpires, httl]

theorem resolved_of_plays {Q : Type} {A : Q → Type} {node : NodeRuntime} {host : String}
    {resolver : String → Dialogue Q A (FamilyQuery × FamilyQuery)} {cidrs : UnknownList} {now : Nat}
    {exchanges : List (Exchange Q A)} {target : ResolvedTarget}
    (h : Plays (resolveAndClassifyHostname node host resolver cidrs now) exchanges
      (some (.ok target))) :
    target.Consistent node ∧ Approved cidrs target.addresses ∧ target.canonicalHost = host ∧
      target.resolvedAtUnixMs = now := by
  rw [resolveAndClassifyHostname] at h
  split at h
  · cases h
  · rename_i hhost
    split at h
    · cases h
    · obtain ⟨answers, hclassify⟩ := value_of_plays_bind_pure h
      exact resolved_of_classifyQueries (not_not.mp hhost) hclassify

section Checker

variable {node : NodeRuntime} {target : ResolvedTarget} {cidrs : UnknownList}

theorem Approved.find_eq_some {addresses : List ValidatedIpAddress} (h : Approved cidrs addresses)
    {text : String} {address : ValidatedIpAddress} :
    addresses.find? (·.address == text) = some address ↔
      address ∈ addresses ∧ text = address.address := by
  obtain ⟨configured, -, -, -, -, -, hcanonical⟩ := h
  constructor
  · intro hfind
    have htext := List.find?_some hfind
    exact ⟨List.mem_of_find?_eq_some hfind, (beq_iff_eq.mp htext).symm⟩
  · rintro ⟨hmem, rfl⟩
    cases hfind : addresses.find? (·.address == address.address) with
    | none => simpa using List.find?_eq_none.mp hfind address hmem
    | some other =>
      have htext : other.address = address.address := by simpa using List.find?_some hfind
      obtain ⟨a, rfl, -⟩ := hcanonical other (List.mem_of_find?_eq_some hfind)
      obtain ⟨b, rfl, -⟩ := hcanonical address hmem
      have hsame : a = b := addressText_injective (String.ofList_injective htext)
      rw [hsame]

/-- A consistent target with other addresses passes exactly when the policy hands
the list back as it is. -/
theorem parseTarget_eq_target (h : target.Consistent node) {addresses : List ValidatedIpAddress}
    {parsed : ResolvedTarget} :
    parseTarget node (.record (target.recordWith addresses)) cidrs = .target parsed ↔
      Approved cidrs addresses ∧ ∃ hne : addresses ≠ [],
        parsed = { target with addresses := addresses, addresses_ne_nil := hne } := by
  rw [parseTarget_recordWith h]
  by_cases hbad : addresses = [] ∨ addresses.length > 64
  · rw [dif_pos hbad]
    constructor
    · intro hinvalid
      cases hinvalid
    · rintro ⟨⟨_, -, -, hpos, hmax, -⟩, hne, -⟩
      rcases hbad with hnil | hlong
      · exact absurd hnil hne
      · omega
  · rw [dif_neg hbad, checkAddresses_eq_target]
    constructor
    · rintro ⟨rfl, version, hdecision⟩
      exact ⟨(approved_of_classify hdecision).1, fun hnil => hbad (.inl hnil), rfl⟩
    · rintro ⟨happroved, hne, rfl⟩
      exact ⟨rfl, _, classify_of_approved happroved⟩

theorem createPinnedRequestOptions_recordWith (h : target.Consistent node)
    {addresses : List ValidatedIpAddress} {input : Dynamic.Value Dynamic.Scalar}
    {options : PinnedRequestOptions} :
    createPinnedRequestOptions node (.record (target.recordWith addresses)) input cidrs =
        .ok options ↔
      Approved cidrs addresses ∧ ∃ spec, IsRequest input spec ∧
        target.resolvedAtUnixMs ≤ spec.nowUnixMs ∧ spec.nowUnixMs < target.expiresAtUnixMs ∧
        ∃ address ∈ addresses, spec.pinnedAddress = address.address ∧
          options = optionsFor target spec address := by
  rw [createPinnedRequestOptions_ok]
  constructor
  · rintro ⟨parsed, spec, address, hparsed, hspec, hbefore, hafter, hfind, rfl⟩
    obtain ⟨happroved, hne, rfl⟩ := (parseTarget_eq_target h).mp hparsed
    obtain ⟨hmem, hpin⟩ := happroved.find_eq_some.mp hfind
    exact ⟨happroved, spec, parseSpec_eq_some.mp hspec, hbefore, hafter, address, hmem, hpin, rfl⟩
  · rintro ⟨happroved, spec, hspec, hbefore, hafter, address, hmem, hpin, rfl⟩
    have hne : addresses ≠ [] := List.ne_nil_of_mem hmem
    exact ⟨_, spec, address, (parseTarget_eq_target h).mpr ⟨happroved, hne, rfl⟩,
      parseSpec_eq_some.mpr hspec, hbefore, hafter, happroved.find_eq_some.mpr ⟨hmem, hpin⟩, rfl⟩

end Checker

theorem Approved.mono {cidrs : UnknownList} {addresses others : List ValidatedIpAddress}
    (h : Approved cidrs addresses) (hne : others ≠ []) (hsubperm : others.Subperm addresses) :
    Approved cidrs others := by
  obtain ⟨configured, rfl, hconfigured, -, hmax, hnodup, hcanonical⟩ := h
  obtain ⟨kept, hperm, hsublist⟩ := hsubperm
  refine ⟨configured, rfl, hconfigured, List.length_pos_iff.mpr hne, ?_, ?_, ?_⟩
  · rw [← hperm.length_eq]
    exact Nat.le_trans hsublist.length_le hmax
  · exact hperm.nodup (hsublist.nodup hnodup)
  · exact fun address haddress => hcanonical address (hsublist.mem (hperm.mem_iff.mpr haddress))

theorem Approved.insert_iff {cidrs : UnknownList} {before after : List ValidatedIpAddress}
    (h : Approved cidrs (before ++ after)) (address : ValidatedIpAddress) :
    Approved cidrs (before ++ address :: after) ↔
      (before ++ after).length < 64 ∧ address ∉ before ++ after ∧
        ∃ configured a, cidrs = .strings configured ∧ address = canonicalAddress a ∧
          Permitted configured a := by
  have hperm : (before ++ address :: after).Perm (address :: (before ++ after)) := List.perm_middle
  constructor
  · rintro ⟨configured, rfl, -, -, hmax, hnodup, hcanonical⟩
    rw [hperm.length_eq, List.length_cons] at hmax
    obtain ⟨a, ha, hpermitted⟩ := hcanonical address (by simp)
    exact ⟨hmax, (List.nodup_cons.mp (hperm.nodup hnodup)).1, configured, a, rfl, ha, hpermitted⟩
  · rintro ⟨hlength, hfresh, configured, a, rfl, ha, hpermitted⟩
    obtain ⟨others, hothers, hconfigured, -, -, hnodup, hcanonical⟩ := h
    have hsame : configured = others := by
      rw [UnknownList.strings, UnknownList.strings, UnknownList.array.injEq] at hothers
      exact List.map_injective_iff.mpr (fun _ _ heq => Dynamic.Scalar.string.inj heq) hothers
    subst hsame
    refine ⟨configured, rfl, hconfigured, ?_, ?_, hperm.nodup_iff.mpr ?_, ?_⟩
    · rw [hperm.length_eq]
      exact Nat.succ_pos _
    · rw [hperm.length_eq]
      exact hlength
    · exact List.nodup_cons.mpr ⟨hfresh, hnodup⟩
    · intro other hother
      rcases List.mem_cons.mp (hperm.mem_iff.mp hother) with rfl | hmem
      · exact ⟨a, ha, hpermitted⟩
      · exact hcanonical other hmem

theorem pinnedLookup_answers (host : String) (address : ValidatedIpAddress) (hostname : String)
    (options : LookupOptions) :
    pinnedLookup host address hostname options =
      if hostname = host ∧ (options.family = none ∨ options.family = some (.number 0) ∨
          options.family = some (.number (familyNumber address.family))) then
        if options.all then .list [address] else .single address.address address.family
      else .rejected address.family := by
  rw [pinnedLookup]
  by_cases hfits : hostname = host ∧ (options.family = none ∨ options.family = some (.number 0) ∨
      options.family = some (.number (familyNumber address.family)))
  · rw [if_pos hfits, if_neg]
    grind
  · rw [if_neg hfits, if_pos]
    grind

/-- The resolver and the check of a pinned request agree on a resolved target, and
the check decides on any other list of addresses as the policy does. -/
theorem pinnedTarget_checked {Q : Type} {A : Q → Type} (node : NodeRuntime) (host : String)
    (resolver : String → Dialogue Q A (FamilyQuery × FamilyQuery)) (cidrs : UnknownList) (now : Nat)
    (exchanges : List (Exchange Q A)) (target : ResolvedTarget)
    (h : Plays (resolveAndClassifyHostname node host resolver cidrs now) exchanges
      (some (.ok target))) :
    (∀ input options,
      createPinnedRequestOptions node (.record target.record) input cidrs = .ok options ↔
        ∃ spec, IsRequest input spec ∧ target.resolvedAtUnixMs ≤ spec.nowUnixMs ∧
          spec.nowUnixMs < target.expiresAtUnixMs ∧
          ∃ address ∈ target.addresses, spec.pinnedAddress = address.address ∧
            options = optionsFor target spec address) ∧
    (∀ spec address hostname lookup, (optionsFor target spec address).lookup hostname lookup =
      if hostname = host ∧ (lookup.family = none ∨ lookup.family = some (.number 0) ∨
          lookup.family = some (.number (familyNumber address.family))) then
        if lookup.all then .list [address] else .single address.address address.family
      else .rejected address.family) ∧
    (∀ addresses input options,
      createPinnedRequestOptions node (.record (target.recordWith addresses)) input cidrs =
          .ok options ↔
        Approved cidrs addresses ∧ ∃ spec, IsRequest input spec ∧
          target.resolvedAtUnixMs ≤ spec.nowUnixMs ∧ spec.nowUnixMs < target.expiresAtUnixMs ∧
          ∃ address ∈ addresses, spec.pinnedAddress = address.address ∧
            options = optionsFor target spec address) ∧
    (∀ addresses, ¬ addresses.Nodup → ¬ Approved cidrs addresses) ∧
    (∀ addresses, ∀ address ∈ addresses, ∀ a, Ip.Denotes address.address.toList a →
      address.address ≠ String.ofList (addressText a) → ¬ Approved cidrs addresses) ∧
    (∀ before address after, target.addresses = before ++ after →
      (Approved cidrs (before ++ address :: after) ↔
        target.addresses.length < 64 ∧ address ∉ target.addresses ∧
          ∃ configured a, cidrs = .strings configured ∧ address = canonicalAddress a ∧
            Permitted configured a)) ∧
    ∀ addresses, addresses.Subperm target.addresses →
      (Approved cidrs addresses ↔ addresses ≠ []) := by
  obtain ⟨hconsistent, happroved, rfl, rfl⟩ := resolved_of_plays h
  refine ⟨fun input options => ?_, fun spec address hostname lookup => ?_,
    fun addresses input options => createPinnedRequestOptions_recordWith hconsistent, ?_, ?_, ?_, ?_⟩
  · rw [ResolvedTarget.record, createPinnedRequestOptions_recordWith hconsistent,
      and_iff_right happroved]
  · exact pinnedLookup_answers _ _ _ _
  · rintro addresses hrepeated ⟨_, -, -, -, -, hnodup, -⟩
    exact hrepeated hnodup
  · rintro addresses address hmem a hdenotes hspelling ⟨_, -, -, -, -, -, hcanonical⟩
    obtain ⟨b, rfl, -⟩ := hcanonical address hmem
    have hb : Ip.Denotes (canonicalAddress b).address.toList b := by
      rw [canonicalAddress, ParsedIp.ofAddress, String.toList_ofList]
      exact denotes_addressText b
    rw [denotes_unique hdenotes hb] at hspelling
    exact hspelling rfl
  · intro before address after hsplit
    rw [hsplit] at happroved ⊢
    exact happroved.insert_iff address
  · intro addresses hsubperm
    refine ⟨fun hother => ?_, fun hne => happroved.mono hne hsubperm⟩
    obtain ⟨_, -, -, hpos, -⟩ := hother
    exact List.length_pos_iff.mp hpos

/-! ### A target with two addresses -/

def asciiNode : NodeRuntime where
  domainToASCII := some
  isIP := fun text => isIP text.toList
  hmacSha256 := fun _ _ => .fill 0

def dnsRecord (address : String) : Dynamic.Value Dynamic.Scalar :=
  .record {
    fields := [("address", .string address), ("ttl", .number (some 60))]
    unique := by simp }

/-- A resolver that needs no questions: two addresses of version 4, none of version 6. -/
def twoAddresses (_ : String) : Dialogue Empty (fun _ => Unit) (FamilyQuery × FamilyQuery) :=
  .done (.fulfilled (.array [dnsRecord "8.8.8.8", dnsRecord "1.1.1.1"]), .rejected (some "ENODATA"))

def quadNine : ValidatedIpAddress := { address := "9.9.9.9", family := .v4 }

def twoTargets : ResolvedTarget where
  canonicalHost := "example.com"
  policyVersion := ipDestinationPolicyVersion
  minimumTtlSeconds := 60
  resolvedAtUnixMs := 1000
  expiresAtUnixMs := 61000
  addresses := [{ address := "8.8.8.8", family := .v4 }, { address := "1.1.1.1", family := .v4 }]
  addresses_ne_nil := by simp

def pinnedSpec : PinnedRequestSpec where
  protocol := .https
  method := .get
  path := "/"
  pinnedAddress := "8.8.8.8"
  nowUnixMs := 1000

def pinnedInput : Dynamic.Value Dynamic.Scalar :=
  .record { fields := pinnedSpec.fields, unique := by simp [PinnedRequestSpec.fields] }

def twoResolution : Dialogue Empty (fun _ => Unit) ResolveTargetResult :=
  resolveAndClassifyHostname asciiNode "example.com" twoAddresses (.strings []) 1000

def twoRun : List (Exchange Empty fun _ => Unit) × ResolveTargetResult :=
  converse (fun _ _ => ()) [] twoResolution

def isGranted (addresses : List ValidatedIpAddress) : Bool :=
  (createPinnedRequestOptions asciiNode (.record (twoTargets.recordWith addresses)) pinnedInput
    (.strings [])).toBool

/-- The resolved target is granted with its own first address. -/
theorem pinnedTarget_checked_sample :
    twoRun.2 = .ok twoTargets ∧ isGranted twoTargets.addresses = true ∧
      ∀ addresses input options,
        createPinnedRequestOptions asciiNode (.record (twoTargets.recordWith addresses)) input
          (.strings []) = .ok options → Approved (.strings []) addresses := by
  have hresult : twoRun.2 = .ok twoTargets := by decide +kernel
  have hgranted : isGranted twoTargets.addresses = true := by decide +kernel
  have hplays : Plays twoResolution twoRun.1 (some (.ok twoTargets)) := by
    rw [← hresult]
    exact plays_converse _ _ _
  have hchecked := pinnedTarget_checked asciiNode "example.com" twoAddresses (.strings []) 1000
    twoRun.1 twoTargets hplays
  obtain ⟨-, -, hother, -⟩ := hchecked
  exact ⟨hresult, hgranted, fun addresses input options hok =>
    ((hother addresses input options).mp hok).1⟩

/-- The same target with one of its addresses left out, with both the other way
round, or with a third one is granted as well. -/
theorem alteredTarget_granted :
    twoRun.2 = .ok twoTargets ∧ isGranted twoTargets.addresses.dropLast = true ∧
      isGranted twoTargets.addresses.reverse = true ∧
      isGranted (quadNine :: twoTargets.addresses) = true := by
  decide +kernel

end Outscan
