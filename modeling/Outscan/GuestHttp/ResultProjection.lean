import Outscan.GuestScan.ResultRead

/-! The last filter in front of a reply: a decision is taken apart, rebuilt through
the view, and passed on only when the rebuilt one is deeply equal. -/
namespace Outscan

open Dynamic

/-- `Date.parse`. The text of a moment is read as that moment; `engine` decides
on every other text. -/
def dateParse (engine : String → Option Int) (text : String) : Option Int :=
  match Calendar.parseIso text.toList with
  | some moment =>
    if Calendar.ofUnixMs moment.toUnixMs = moment then some moment.toUnixMs else engine text
  | none => engine text

def seconds (engine : String → Option Int) (value : Datum) : Option Int := do
  let text ← value.string?
  if utf16Length text.toList ≠ 24 then none
  else
    let milliseconds ← dateParse engine text
    if 0 ≤ milliseconds ∧ milliseconds ≤ (maxSafeInteger : Int) ∧ milliseconds % 1000 = 0 then
      some (milliseconds / 1000)
    else none

def publishedChecks (part : Datum) : Option (List Datum) :=
  if !part.isRecord then none
  else do
    let checks ← (part.get "checks").array?
    if checks.length > guestPostureChecks.length then none else some checks

def rebuiltCoverage (group : Datum) (status completeness : String) : Datum :=
  .object [
    ("detector_group", group.get "detector_group"),
    ("execution_status", .string status),
    ("completeness", .string completeness)]

def invertGroup (group : Datum) : Option (List Datum) :=
  if !group.isRecord then none
  else do
    let state ← (group.get "state").string?
    if state = "MISSING" then some []
    else if state = "UNAVAILABLE" then some [rebuiltCoverage group "FAILED" "UNKNOWN"]
    else if ["COMPLETE", "PARTIAL", "NOT_APPLICABLE", "UNKNOWN"].contains state then
      some [rebuiltCoverage group "SUCCESS" state]
    else none

def rebuildInput (engine : String → Option Int) (body : Datum) (scanId : String) (now : Int) :
    Option Datum := do
  let expires ← seconds engine (body.get "result_access_expires_at")
  let completed ← seconds engine (body.get "completed_at")
  if decide (expires ≤ now) || decide (expires - now > 1800) || decide (completed > now) then none
  else
    let sections ← (body.get "posture_sections").array?
    let coverage := body.get "coverage"
    if sections.length ≠ 5 || !coverage.isRecord then none
    else
      let posture ← sections.mapM publishedChecks
      let groups ← (coverage.get "groups").array?
      if groups.length ≠ guestCoverageGroups.length then none
      else
        let inverted ← groups.mapM invertGroup
        some (viewInput scanId expires (expires - now) completed
          (projectionDatum (body.get "canonical_host") (body.get "potential_risk_count")
            (body.get "warning_count") (.array posture.flatten) (.array inverted.flatten)
            (.number (.whole 0)) (.number (.whole 0))))

def knownDenial (value : Datum) : Option ReadGuestResultDecision :=
  [ReadGuestResultDecision.failure .invalidResultRequest, .failure .resultAccessDenied].find?
    fun denial => value.deepEqual denial.toDatum

def projectGuestResultDecision (node : NodeRuntime) (engine : String → Option Int)
    (value : Datum) (scanId : String) (now : Int) : Option ReadGuestResultDecision :=
  if !value.isRecord then none
  else
    match (value.get "ok").bool? with
    | some false => knownDenial value
    | some true =>
      let body := value.get "body"
      if !body.isRecord then none
      else do
        let input ← rebuildInput engine body scanId now
        let view ← createGuestResultView node input
        if value.deepEqual (ReadGuestResultDecision.ok view).toDatum then some (.ok view) else none
    | none => none

end Outscan
