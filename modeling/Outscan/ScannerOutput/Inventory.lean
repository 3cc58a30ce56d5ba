import Outscan.Library.Datum
import Outscan.ScannerOutput.Projection

/-! The closed inventories of a scanner result, and how a text names a member. -/
namespace Outscan

open Dynamic

def guestPostureChecks : List GuestPostureCheck :=
  [.dnsAaaaPresent, .dnsDnssec, .dnsCaa, .mailSpf, .mailDmarc, .mailMtaSts, .mailTlsRpt,
    .tlsCertificate, .httpHsts, .httpCsp, .httpXContentTypeOptions, .httpFrameProtection,
    .httpReferrerPolicy, .httpPermissionsPolicy, .httpProtocol, .infraRpki, .securityTxt]

def guestCoverageGroups : List GuestCoverageGroup :=
  [.targetResolution, .dnsDomainPosture, .tlsCertificatePosture, .httpSecurityPosture,
    .mailSecurityPosture, .publicInfrastructure, .rdapEnrichment, .ctEnrichment]

def postureOutcomes : List PostureOutcome := [.pass, .attention, .unknown, .notApplicable]

def executionStatuses : List ExecutionStatus :=
  [.success, .failed, .timedOut, .cancelled, .superseded]

def completenesses : List Completeness := [.complete, .partially, .notApplicable, .unknown]

inductive Severity where
  | info | low | medium | high | critical
deriving DecidableEq, Repr

def Severity.text : Severity → String
  | .info => "INFO"
  | .low => "LOW"
  | .medium => "MEDIUM"
  | .high => "HIGH"
  | .critical => "CRITICAL"

def severities : List Severity := [.info, .low, .medium, .high, .critical]

def memberNamed {α : Type} (inventory : List α) (text : α → String) (name : String) : Option α :=
  inventory.find? fun member => text member == name

def memberOf {α : Type} (inventory : List α) (text : α → String) (value : Datum) : Option α :=
  value.string?.bind (memberNamed inventory text)

theorem length_le_of_nodup {α : Type} {items inventory : List α} (h : items.Nodup)
    (hall : ∀ item, item ∈ inventory) : items.length ≤ inventory.length :=
  (List.subperm_of_subset h fun item _ => hall item).length_le

theorem mapM_map_of_inverse {α β γ : Type} {read : β → Option α} {write : γ → β} {keep : γ → α}
    (h : ∀ item, read (write item) = some (keep item)) (items : List γ) :
    (items.map write).mapM read = some (items.map keep) := by
  induction items with
  | nil => rfl
  | cons item rest ih =>
    rw [List.map_cons, List.mapM_cons, h, ih]
    rfl

@[simp] theorem check_named (check : GuestPostureCheck) :
    memberNamed guestPostureChecks GuestPostureCheck.text check.text = some check := by
  cases check <;> decide +kernel

@[simp] theorem group_named (group : GuestCoverageGroup) :
    memberNamed guestCoverageGroups GuestCoverageGroup.text group.text = some group := by
  cases group <;> decide +kernel

@[simp] theorem outcome_named (outcome : PostureOutcome) :
    memberNamed postureOutcomes PostureOutcome.text outcome.text = some outcome := by
  cases outcome <;> decide +kernel

@[simp] theorem status_named (status : ExecutionStatus) :
    memberNamed executionStatuses ExecutionStatus.text status.text = some status := by
  cases status <;> decide +kernel

@[simp] theorem completeness_named (completeness : Completeness) :
    memberNamed completenesses Completeness.text completeness.text = some completeness := by
  cases completeness <;> decide +kernel

@[simp] theorem severity_named (severity : Severity) :
    memberNamed severities Severity.text severity.text = some severity := by
  cases severity <;> decide +kernel

@[simp] theorem memberOf_string {α : Type} (inventory : List α) (text : α → String)
    (name : String) : memberOf inventory text (.string name) = memberNamed inventory text name := rfl

theorem mem_guestPostureChecks (check : GuestPostureCheck) : check ∈ guestPostureChecks := by
  cases check <;> decide

theorem mem_guestCoverageGroups (group : GuestCoverageGroup) : group ∈ guestCoverageGroups := by
  cases group <;> decide

/-! ### Lists in the order of an inventory -/

section

variable {ι α : Type} [DecidableEq ι] {key : α → ι} {pick : ι → Option α}

theorem find?_filterMap_pick (hpick : ∀ name item, pick name = some item → key item = name)
    {inventory : List ι} {name : ι} (h : name ∈ inventory) :
    (inventory.filterMap pick).find? (fun item => key item = name) = pick name := by
  induction inventory with
  | nil => cases h
  | cons first rest ih =>
    rw [List.filterMap_cons]
    by_cases hfirst : first = name
    · subst hfirst
      cases hp : pick first with
      | some item => exact List.find?_cons_of_pos (decide_eq_true (hpick first item hp))
      | none =>
        refine List.find?_eq_none.mpr fun item hitem hkey => ?_
        obtain ⟨other, -, hother⟩ := List.mem_filterMap.mp hitem
        have hname : other = first := (hpick other item hother).symm.trans (of_decide_eq_true hkey)
        rw [hname, hp] at hother
        cases hother
    · have hrest := ih ((List.mem_cons.mp h).resolve_left (Ne.symm hfirst))
      cases hp : pick first with
      | none => exact hrest
      | some item =>
        have hkey : key item ≠ name := by
          rw [hpick first item hp]
          exact hfirst
        exact (List.find?_cons_of_neg (by simpa using hkey)).trans hrest

omit [DecidableEq ι] in
theorem nodup_filterMap_pick (hpick : ∀ name item, pick name = some item → key item = name)
    {inventory : List ι} (h : inventory.Nodup) : ((inventory.filterMap pick).map key).Nodup := by
  have hsub : ((inventory.filterMap pick).map key).Sublist inventory := by
    induction inventory with
    | nil => exact List.Sublist.refl _
    | cons first rest ih =>
      have hrest := ih (List.nodup_cons.mp h).2
      rw [List.filterMap_cons]
      cases hp : pick first with
      | none => exact hrest.cons first
      | some item =>
        rw [List.map_cons, hpick first item hp]
        exact hrest.cons_cons first
  exact hsub.nodup h

end

theorem flatten_toList_map {α β : Type} (pick : α → Option β) (items : List α) :
    (items.map fun item => (pick item).toList).flatten = items.filterMap pick := by
  induction items with
  | nil => rfl
  | cons item rest ih =>
    rw [List.map_cons, List.flatten_cons, ih, List.filterMap_cons]
    cases pick item <;> rfl

end Outscan
