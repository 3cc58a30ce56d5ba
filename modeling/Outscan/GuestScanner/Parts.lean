import Outscan.GuestScanner.Bounded

/-! A run of the guest scanner, taken apart: the resolution, the front page, and
`security.txt`. -/
namespace Outscan

open Dialogue

section Probe

variable {node : NodeRuntime} (input : ScannerInput node) (startedAt : Nat)

def probeFlow (path : String) (hpath : isValidOriginFormPath path = true)
    (maxTotalResponseBytes maxResponseBytes : Nat) : SafeHttpFlowInput where
  canonicalHost := input.canonicalHost
  protocol := .https
  method := .get
  path := path
  deadlineUnixMs := startedAt + input.policy.budgets.hardDurationSeconds * 1000
  maxRedirects := input.policy.budgets.maxRedirects
  maxRetries := 0
  maxTotalResponseBytes := maxTotalResponseBytes
  transportLimits :=
    { timeoutMs := min (input.policy.budgets.hardDurationSeconds * 1000) 30000
      maxResponseBytes := maxResponseBytes
      maxHeaderPairs := 100
      maxHeaderBytes := 64 * 1024 }
  path_valid := hpath

variable {input startedAt}

theorem integer?_number {number minimum maximum : Nat} (h : minimum ≤ number ∧ number ≤ maximum) :
    boundedInteger (.number (some number)) minimum maximum = some number := by
  rw [boundedInteger, if_pos (by omega), Int.toNat_natCast]

theorem parsePinnedTransportLimits_probe {durationMs maxResponseBytes : Nat}
    (hduration : 100 ≤ durationMs) (hresponse : 1 ≤ maxResponseBytes ∧ maxResponseBytes ≤ 64 * 1024) :
    parsePinnedTransportLimits (.record (probeLimits durationMs maxResponseBytes)) =
      some { timeoutMs := min durationMs 30000
             maxResponseBytes := maxResponseBytes
             maxHeaderPairs := 100
             maxHeaderBytes := 64 * 1024 } := by
  have hkeys : (probeLimits durationMs maxResponseBytes).hasExactKeys transportLimitKeys = true :=
    Dynamic.Record.hasExactKeys_of_perm (List.Perm.refl _) rfl
  have hget : ∀ key value, (key, value) ∈ (probeLimits durationMs maxResponseBytes).fields →
      (probeLimits durationMs maxResponseBytes).get .other key = value :=
    fun _ _ hmem => Dynamic.Record.get_of_perm (List.Perm.refl _) Dynamic.Scalar.other hmem
  rw [parsePinnedTransportLimits, hkeys,
    hget "timeout_ms" (.number (some (min durationMs 30000 : Nat))) (by simp [probeLimits]),
    hget "max_response_bytes" (.number (some maxResponseBytes)) (by simp [probeLimits]),
    hget "max_header_pairs" (.number (some (100 : Nat))) (by simp [probeLimits]),
    hget "max_header_bytes" (.number (some (64 * 1024 : Nat))) (by simp [probeLimits]),
    integer?_number (by omega), integer?_number (by omega), integer?_number (by omega),
    integer?_number (by omega)]
  rfl

theorem parseInput_probeRecord {path : String} (hpath : isValidOriginFormPath path = true)
    {maxTotalResponseBytes maxResponseBytes : Nat}
    (hdeadline : startedAt + input.policy.budgets.hardDurationSeconds * 1000 ≤ maxSafeInteger)
    (htotal : 1 ≤ maxTotalResponseBytes ∧ maxTotalResponseBytes ≤ maxTotalResponseBytesBound)
    (hresponse : 1 ≤ maxResponseBytes ∧ maxResponseBytes ≤ 64 * 1024) :
    parseInput node (.record (probeRecord input startedAt path maxTotalResponseBytes
        maxResponseBytes)) =
      if maxResponseBytes ≤ maxTotalResponseBytes then
        some (probeFlow input startedAt path hpath maxTotalResponseBytes maxResponseBytes)
      else none := by
  generalize hrecord : probeRecord input startedAt path maxTotalResponseBytes maxResponseBytes =
    record
  have hfields := congrArg Dynamic.Record.fields hrecord
  have hduration := input.sufficient.duration
  have hredirects : input.policy.budgets.maxRedirects ≤ 5 := by
    have hwithin := input.policy.budgets_within.redirects
    rw [input.guestSafe] at hwithin
    exact hwithin
  have hkeys : record.hasExactKeys inputKeys = true := by
    rw [← hrecord]
    exact Dynamic.Record.hasExactKeys_of_perm (List.Perm.refl _) rfl
  have hget : ∀ key value, (key, value) ∈ record.fields → record.get (.scalar .other) key = value :=
    fun _ _ hmem => Dynamic.Record.get_of_perm (List.Perm.refl _) (FlowField.scalar .other) hmem
  have hnumber : ∀ key (number minimum maximum : Nat), minimum ≤ number ∧ number ≤ maximum →
      (key, FlowField.scalar (.number (some number))) ∈ record.fields →
      (record.get (.scalar .other) key).integer? minimum maximum = some number := by
    intro key number minimum maximum hbounds hmem
    rw [hget key _ hmem]
    exact integer?_number hbounds
  rw [parseInput, hkeys]
  dsimp only
  rw [hget "canonical_host" (.scalar (.string input.canonicalHost)) (by simp [← hfields, probeRecord]),
    hget "transport_limits" (.record (probeLimits
      (input.policy.budgets.hardDurationSeconds * 1000) maxResponseBytes))
      (by simp [← hfields, probeRecord]),
    hget "protocol" (.scalar (.string "https:")) (by simp [← hfields, probeRecord]),
    hget "method" (.scalar (.string "GET")) (by simp [← hfields, probeRecord]),
    hget "path" (.scalar (.string path)) (by simp [← hfields, probeRecord]),
    hnumber "deadline_unix_ms" (startedAt + input.policy.budgets.hardDurationSeconds * 1000) 0 _
      ⟨Nat.zero_le _, hdeadline⟩ (by simp [← hfields, probeRecord]),
    hnumber "max_redirects" input.policy.budgets.maxRedirects 0 maxRedirectsBound
      ⟨Nat.zero_le _, hredirects⟩
      (by simp [← hfields, probeRecord]),
    hnumber "max_retries" 0 0 maxRetriesBound ⟨Nat.zero_le _, Nat.zero_le _⟩
      (by simp [← hfields, probeRecord]),
    hnumber "max_total_response_bytes" maxTotalResponseBytes 1 _ htotal
      (by simp [← hfields, probeRecord])]
  have hlimits := @parsePinnedTransportLimits_probe
    (input.policy.budgets.hardDurationSeconds * 1000) maxResponseBytes (by omega) hresponse
  simp only [FlowField.limits?, hlimits, FlowField.text?, FlowField.protocol?, FlowField.method?,
    Option.bind_eq_bind, Option.bind_some]
  by_cases hle : maxResponseBytes ≤ maxTotalResponseBytes
  · rw [if_pos hle]
    exact dif_pos ⟨input.host_canonical, hpath, hle⟩
  · rw [if_neg hle]
    exact dif_neg fun hchecks => hle hchecks.2.2

end Probe

/-! ### The parts of a run -/

structure ScanParts where
  resolution : List ScanExchange
  frontPage : List ScanExchange
  securityTxt : List ScanExchange

section Parts

variable (runtime : ScannerRuntime) (input : ScannerInput runtime.toNodeRuntime)
  (cidrs : UnknownList)

/-- What came of the two flows, of which there are none without a target. -/
inductive ProbeRuns (startedAt count : Nat) (parts : ScanParts) :
    ResolveTargetResult → Option SafeHttpFlowResult → Option SafeHttpFlowResult → Nat → Prop where
  | none {code decision} (hfront : parts.frontPage = []) (htext : parts.securityTxt = []) :
      ProbeRuns startedAt count parts (.failed code decision) none none count
  | both {target http securityTxt middle last}
      (hfront : Plays (bounded input.policy.budgets.maxRequests
          (executeSafeHttpFlow runtime.toFlowRuntime (frontPageInput input startedAt) cidrs) count)
        parts.frontPage (some (http, middle)))
      (htext : Plays (bounded input.policy.budgets.maxRequests
          (executeSafeHttpFlow runtime.toFlowRuntime (securityTxtInput input startedAt) cidrs) middle)
        parts.securityTxt (some (securityTxt, last))) :
      ProbeRuns startedAt count parts (.ok target) (some http) (some securityTxt) last

/-- A run that returned its output: its clock readings around its parts. -/
structure SplitsInto (exchanges : List ScanExchange) (parts : ScanParts)
    (http securityTxt : Option SafeHttpFlowResult) (output : GuestScannerOutput) : Prop where
  run : ∃ first startedAt resolved count requestCount last completedAt,
    exchanges = ⟨.now, first⟩ :: (parts.resolution ++ (parts.frontPage ++ (parts.securityTxt ++
      [⟨.now, last⟩]))) ∧
    nowValue first = some startedAt ∧
    startedAt + input.policy.budgets.hardDurationSeconds * 1000 ≤ maxSafeInteger ∧
    Plays (bounded input.policy.budgets.maxRequests
        (resolveAndClassifyHostname runtime.toNodeRuntime input.canonicalHost resolver cidrs
          startedAt) 0)
      parts.resolution (some (resolved, count)) ∧
    ProbeRuns runtime input cidrs startedAt count parts resolved http securityTxt requestCount ∧
    nowValue last = some completedAt ∧
    output = buildOutput runtime input.canonicalHost startedAt completedAt requestCount resolved
      http securityTxt

variable {runtime input cidrs}

theorem plays_safeNow {α : Type} {f : Option Nat → Scan α} {exchanges : List ScanExchange}
    {result : α} :
    Plays (safeNow >>= f) exchanges (some result) ↔
      ∃ reading rest, exchanges = ⟨.now, reading⟩ :: rest ∧
        Plays (f (nowValue reading)) rest (some result) := by
  rw [safeNow, bind_assoc, question_bind, plays_ask]
  simp only [reduceCtorEq, and_false, false_or, pure_eq, done_bind]

theorem plays_probesAfter {startedAt count : Nat} {resolved : ResolveTargetResult}
    {exchanges : List ScanExchange} {probes : Probes} :
    Plays (probesAfter runtime input cidrs startedAt count resolved) exchanges (some probes) ↔
      ∃ parts : ScanParts, exchanges = parts.frontPage ++ parts.securityTxt ∧
        ProbeRuns runtime input cidrs startedAt count parts resolved probes.http probes.securityTxt
          probes.requestCount := by
  cases resolved with
  | failed code decision =>
    rw [probesAfter, if_neg (by simp [ResolveTargetResult.isOk]), pure_eq, plays_done]
    constructor
    · rintro ⟨rfl, hnone | hprobes⟩
      · cases hnone
      · cases hprobes
        exact ⟨⟨[], [], []⟩, rfl, .none rfl rfl⟩
    · rintro ⟨parts, rfl, hruns⟩
      obtain ⟨http, securityTxt, requestCount⟩ := probes
      cases hruns with
      | none hfront htext => exact ⟨by rw [hfront, htext]; rfl, .inr rfl⟩
  | ok target =>
    rw [probesAfter, if_pos (show (ResolveTargetResult.ok target).isOk = true from rfl), runProbes,
      plays_bind]
    constructor
    · rintro ⟨front, second, ⟨http, middle⟩, rfl, hfront, hrest⟩
      obtain ⟨text, third, ⟨securityTxt, last⟩, rfl, htext, hdone⟩ := plays_bind.mp hrest
      cases hdone
      exact ⟨⟨[], front, text⟩, by simp, .both hfront htext⟩
    · rintro ⟨parts, rfl, hruns⟩
      obtain ⟨http, securityTxt, requestCount⟩ := probes
      cases hruns with
      | both hfront htext =>
        refine ⟨_, _, _, rfl, hfront, ?_⟩
        rw [plays_bind]
        exact ⟨_, [], _, by simp, htext, .done _⟩

/-- Every run that returned its output splits in this way. -/
theorem splitsInto_of_plays {rawInput : Dynamic.Value ScannerField} {exchanges : List ScanExchange}
    {output : GuestScannerOutput} (hinput : scannerInput runtime.toNodeRuntime rawInput = some input)
    (h : Plays (runGuestSafeScanner runtime rawInput cidrs) exchanges (some (.ok output))) :
    ∃ parts http securityTxt,
      SplitsInto runtime input cidrs exchanges parts http securityTxt output := by
  rw [runGuestSafeScanner, hinput] at h
  cases hsnapshot : snapshotConfiguredInternalCidrs cidrs with
  | none =>
    rw [hsnapshot] at h
    cases h
  | some configured =>
    rw [hsnapshot] at h
    cases strings_of_snapshot hsnapshot
    replace h := plays_safeNow.mp h
    obtain ⟨first, rest, rfl, h⟩ := h
    cases hfirst : nowValue first with
    | none =>
      rw [hfirst] at h
      cases h
    | some startedAt =>
      rw [hfirst] at h
      dsimp only at h
      split at h
      · cases h
      · rename_i hsafe
        rw [scanFrom, plays_bind] at h
        obtain ⟨resolution, rest, ⟨resolved, count⟩, rfl, hresolution, h⟩ := h
        replace h := plays_bind.mp h
        obtain ⟨probed, rest, ⟨http, securityTxt, requestCount⟩, rfl, hprobes, h⟩ := h
        replace h := plays_safeNow.mp h
        obtain ⟨last, rest, rfl, h⟩ := h
        cases hlast : nowValue last with
        | none =>
          rw [hlast] at h
          cases h
        | some completedAt =>
          rw [hlast] at h
          cases h
          obtain ⟨parts, rfl, hruns⟩ := plays_probesAfter.mp hprobes
          refine ⟨⟨resolution, parts.frontPage, parts.securityTxt⟩, http, securityTxt,
            ⟨first, startedAt, resolved, count, requestCount, last, completedAt, by simp, hfirst,
              Nat.le_of_not_gt hsafe, hresolution, ?_, hlast, rfl⟩⟩
          cases hruns with
          | none hfront htext => exact .none hfront htext
          | both hfront htext => exact .both hfront htext

theorem plays_of_splitsInto {rawInput : Dynamic.Value ScannerField} {exchanges : List ScanExchange}
    {parts : ScanParts} {http securityTxt : Option SafeHttpFlowResult} {output : GuestScannerOutput}
    (hinput : scannerInput runtime.toNodeRuntime rawInput = some input)
    (hcidrs : (snapshotConfiguredInternalCidrs cidrs).isSome = true)
    (h : SplitsInto runtime input cidrs exchanges parts http securityTxt output) :
    Plays (runGuestSafeScanner runtime rawInput cidrs) exchanges (some (.ok output)) := by
  obtain ⟨first, startedAt, resolved, count, requestCount, last, completedAt, rfl, hfirst, hsafe,
    hresolution, hruns, hlast, rfl⟩ := h.run
  obtain ⟨configured, hsnapshot⟩ := Option.isSome_iff_exists.mp hcidrs
  have hstrings := strings_of_snapshot hsnapshot
  rw [runGuestSafeScanner, hinput, hsnapshot]
  refine plays_safeNow.mpr ⟨first, _, rfl, ?_⟩
  rw [hfirst]
  dsimp only
  rw [if_neg (Nat.not_lt_of_ge hsafe), ← hstrings, scanFrom, plays_bind]
  refine ⟨_, _, _, rfl, hresolution, plays_bind.mpr ⟨parts.frontPage ++ parts.securityTxt,
    [⟨.now, last⟩], ⟨http, securityTxt, requestCount⟩, by simp,
    plays_probesAfter.mpr ⟨parts, rfl, hruns⟩, plays_safeNow.mpr ⟨last, [], rfl, ?_⟩⟩⟩
  rw [hlast]
  exact .done _

end Parts

end Outscan
