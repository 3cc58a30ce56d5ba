import Outscan.Basic

/-! The admission policy for new Guest scans. -/
namespace Outscan

namespace GuestAbusePolicy

def sessionBurstWindowSeconds : Nat := 600
def sessionBurstLimit : Nat := 3
def sessionDailyWindowSeconds : Nat := 86400
def sessionDailyLimit : Nat := 10
def networkBurstWindowSeconds : Nat := 600
def networkBurstLimit : Nat := 20
def networkDailyWindowSeconds : Nat := 86400
def networkDailyLimit : Nat := 100
def sessionConcurrencyLimit : Nat := 1
def networkConcurrencyLimit : Nat := 4

end GuestAbusePolicy

def maxCounterValue : Nat := 1000000

/-- The service state of `guest_abuse_control`: `OPEN` or `PAUSED`. -/
inductive ServiceState where
  | opened | paused
deriving DecidableEq, Repr

structure GuestAbuseWindowUsage where
  count : Nat
  resetAt : Nat
deriving DecidableEq, Repr

structure GuestAbuseUsageSnapshot where
  sessionBurst : GuestAbuseWindowUsage
  sessionDaily : GuestAbuseWindowUsage
  networkBurst : GuestAbuseWindowUsage
  networkDaily : GuestAbuseWindowUsage
  sessionActive : Nat
  networkActive : Nat
deriving DecidableEq, Repr

structure GuestAbuseRequest where
  guestSessionScope : Bytes32
  networkSignalDigest : Bytes32
  now : Nat
  serviceState : ServiceState
  usage : GuestAbuseUsageSnapshot
deriving DecidableEq, Repr

inductive GuestAbuseDenyCode where
  | guestScanningPaused | sessionConcurrencyLimit | sessionBurstLimit | sessionDailyLimit
  | networkConcurrencyLimit | networkBurstLimit | networkDailyLimit
deriving DecidableEq, Repr

inductive GuestAbuseDecision where
  | allowNewScan
  | invalidAbuseContext
  | deny (code : GuestAbuseDenyCode) (retryAfterSeconds : Option Nat)
deriving DecidableEq, Repr

/-- `windowUsage` accepts the pair. -/
def validWindowUsage (now maximumWindowSeconds : Nat) (usage : GuestAbuseWindowUsage) : Bool :=
  decide (usage.count ≤ maxCounterValue) && decide (now < usage.resetAt) &&
    decide (usage.resetAt ≤ uint64Max) &&
    decide (usage.resetAt ≤ now + maximumWindowSeconds)

/-- `usageSnapshot` accepts the usage. -/
def validUsage (now : Nat) (usage : GuestAbuseUsageSnapshot) : Bool :=
  validWindowUsage now GuestAbusePolicy.sessionBurstWindowSeconds usage.sessionBurst &&
    validWindowUsage now GuestAbusePolicy.sessionDailyWindowSeconds usage.sessionDaily &&
    validWindowUsage now GuestAbusePolicy.networkBurstWindowSeconds usage.networkBurst &&
    validWindowUsage now GuestAbusePolicy.networkDailyWindowSeconds usage.networkDaily &&
    decide (usage.sessionActive ≤ maxCounterValue) &&
    decide (usage.networkActive ≤ maxCounterValue)

def retryAfter (now : Nat) (usage : GuestAbuseWindowUsage) : Option Nat :=
  some (usage.resetAt - now)

def decideGuestAbuseAdmission (request : GuestAbuseRequest) : GuestAbuseDecision :=
  let usage := request.usage
  let now := request.now
  if now > uint64Max || !validUsage now usage then .invalidAbuseContext
  else if request.serviceState = .paused then .deny .guestScanningPaused none
  else if usage.sessionActive ≥ GuestAbusePolicy.sessionConcurrencyLimit then
    .deny .sessionConcurrencyLimit none
  else if usage.sessionBurst.count ≥ GuestAbusePolicy.sessionBurstLimit then
    .deny .sessionBurstLimit (retryAfter now usage.sessionBurst)
  else if usage.sessionDaily.count ≥ GuestAbusePolicy.sessionDailyLimit then
    .deny .sessionDailyLimit (retryAfter now usage.sessionDaily)
  else if usage.networkActive ≥ GuestAbusePolicy.networkConcurrencyLimit then
    .deny .networkConcurrencyLimit none
  else if usage.networkBurst.count ≥ GuestAbusePolicy.networkBurstLimit then
    .deny .networkBurstLimit (retryAfter now usage.networkBurst)
  else if usage.networkDaily.count ≥ GuestAbusePolicy.networkDailyLimit then
    .deny .networkDailyLimit (retryAfter now usage.networkDaily)
  else .allowNewScan

structure BelowLimits (usage : GuestAbuseUsageSnapshot) : Prop where
  sessionActive : usage.sessionActive < GuestAbusePolicy.sessionConcurrencyLimit
  sessionBurst : usage.sessionBurst.count < GuestAbusePolicy.sessionBurstLimit
  sessionDaily : usage.sessionDaily.count < GuestAbusePolicy.sessionDailyLimit
  networkActive : usage.networkActive < GuestAbusePolicy.networkConcurrencyLimit
  networkBurst : usage.networkBurst.count < GuestAbusePolicy.networkBurstLimit
  networkDaily : usage.networkDaily.count < GuestAbusePolicy.networkDailyLimit

/-- A scan is admitted exactly when the context is valid, the service is open
and every dimension is below its limit. -/
theorem decideGuestAbuseAdmission_eq_allow {request : GuestAbuseRequest} :
    decideGuestAbuseAdmission request = .allowNewScan ↔
      request.now ≤ uint64Max ∧ validUsage request.now request.usage = true ∧
        request.serviceState = .opened ∧ BelowLimits request.usage := by
  unfold decideGuestAbuseAdmission
  constructor
  · intro h
    simp only at h
    repeat' split at h
    any_goals cases h
    rename_i hvalid hstate h1 h2 h3 h4 h5 h6
    simp only [Bool.or_eq_true, decide_eq_true_eq, not_or, Bool.not_eq_true',
      Bool.not_eq_false] at hvalid
    refine ⟨by omega, hvalid.2, ?_, by omega, by omega, by omega, by omega, by omega, by omega⟩
    cases hs : request.serviceState with
    | opened => rfl
    | paused => exact absurd hs hstate
  · rintro ⟨hnow, hvalid, hstate, hbelow⟩
    have h1 := hbelow.sessionActive
    have h2 := hbelow.sessionBurst
    have h3 := hbelow.sessionDaily
    have h4 := hbelow.networkActive
    have h5 := hbelow.networkBurst
    have h6 := hbelow.networkDaily
    simp only [hvalid, hstate, Nat.not_lt.mpr hnow, Nat.not_le.mpr h1, Nat.not_le.mpr h2,
      Nat.not_le.mpr h3, Nat.not_le.mpr h4, Nat.not_le.mpr h5, Nat.not_le.mpr h6,
      decide_false, Bool.not_true, Bool.or_self, Bool.false_eq_true, reduceCtorEq,
      if_false]

theorem decideGuestAbuseAdmission_ne_invalid {request : GuestAbuseRequest}
    (hnow : request.now ≤ uint64Max) (hvalid : validUsage request.now request.usage = true) :
    decideGuestAbuseAdmission request ≠ .invalidAbuseContext := by
  unfold decideGuestAbuseAdmission
  simp only [hvalid, Nat.not_lt.mpr hnow, decide_false, Bool.not_true, Bool.or_self,
    Bool.false_eq_true, if_false]
  repeat' split
  all_goals exact fun h => by cases h

end Outscan
