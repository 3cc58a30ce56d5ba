import Outscan.GuestHttp.ResultProjection
import Outscan.Target.AddressLiteral

/-! The filter in front of a reply passes every answer of the reader, and what it
passes is a view. -/
namespace Outscan

open Dynamic

/-! ### The posture and the coverage that the route puts together again -/

def observationOf (posture : List GuestPostureObservation) (check : GuestPostureCheck) :
    Option GuestPostureObservation := posture.find? fun item => item.checkId = check

def sectionOrder : List GuestPostureCheck := sectionIds.flatMap sectionChecks

def regroupedPosture (posture : List GuestPostureObservation) : List GuestPostureObservation :=
  sectionOrder.filterMap (observationOf posture)

def executionOf : PublicCoverageState → Option (ExecutionStatus × Completeness)
  | .missing => none
  | .unavailable => some (.failed, .unknown)
  | .complete => some (.success, .complete)
  | .partially => some (.success, .partially)
  | .notApplicable => some (.success, .notApplicable)
  | .unknown => some (.success, .unknown)

def groupState (coverage : List GuestCoverageProjection) (group : GuestCoverageGroup) :
    PublicCoverageState :=
  match coverage.find? fun item => item.detectorGroup = group with
  | some item => publicCoverageState item.executionStatus item.completeness
  | none => .missing

def invertedItem (coverage : List GuestCoverageProjection) (group : GuestCoverageGroup) :
    Option GuestCoverageProjection :=
  (executionOf (groupState coverage group)).map fun (status, completeness) =>
    ⟨group, status, completeness⟩

def invertedCoverage (coverage : List GuestCoverageProjection) : List GuestCoverageProjection :=
  guestCoverageGroups.filterMap (invertedItem coverage)

theorem publicCoverageState_ne_missing (status : ExecutionStatus) (completeness : Completeness) :
    publicCoverageState status completeness ≠ .missing := by
  cases status <;> cases completeness <;> decide

theorem publicCoverageState_executionOf {state : PublicCoverageState} {status : ExecutionStatus}
    {completeness : Completeness} (h : executionOf state = some (status, completeness)) :
    publicCoverageState status completeness = state := by
  cases state <;> cases h <;> rfl

theorem observationOf_checkId {posture : List GuestPostureObservation} (check : GuestPostureCheck)
    (item : GuestPostureObservation) (h : observationOf posture check = some item) :
    item.checkId = check := by
  simpa using List.find?_some h

theorem invertedItem_detectorGroup {coverage : List GuestCoverageProjection}
    (group : GuestCoverageGroup) (item : GuestCoverageProjection)
    (h : invertedItem coverage group = some item) : item.detectorGroup = group := by
  obtain ⟨_, -, rfl⟩ := Option.map_eq_some_iff.mp h
  rfl

theorem mem_sectionOrder (check : GuestPostureCheck) : check ∈ sectionOrder := by
  cases check <;> decide

theorem postureSections_regrouped (posture : List GuestPostureObservation) :
    postureSections (regroupedPosture posture) = postureSections posture := by
  have hlookup : ∀ check, (regroupedPosture posture).find? (fun item => item.checkId = check) =
      posture.find? fun item => item.checkId = check := fun check =>
    find?_filterMap_pick observationOf_checkId (mem_sectionOrder check)
  simp only [postureSections, hlookup]

theorem coverageGroups_inverted (coverage : List GuestCoverageProjection) :
    coverageGroups (invertedCoverage coverage) = coverageGroups coverage := by
  have hstate : ∀ group, groupState (invertedCoverage coverage) group = groupState coverage group := by
    intro group
    have hlookup : (invertedCoverage coverage).find? (fun item => item.detectorGroup = group) =
        invertedItem coverage group :=
      find?_filterMap_pick invertedItem_detectorGroup (mem_guestCoverageGroups group)
    rw [groupState, hlookup, invertedItem]
    cases hexecution : executionOf (groupState coverage group) with
    | none =>
      cases hgroup : groupState coverage group <;> rw [hgroup] at hexecution <;> cases hexecution
      rfl
    | some execution => exact publicCoverageState_executionOf hexecution
  apply List.map_congr_left
  intro group _
  exact congrArg (CoverageGroupView.mk group) (hstate group)

theorem invertedCoverage_ne_nil {coverage : List GuestCoverageProjection} (h : coverage ≠ []) :
    invertedCoverage coverage ≠ [] := by
  obtain ⟨item, hitem⟩ := List.exists_mem_of_ne_nil coverage h
  have hfound : ∃ found, coverage.find? (fun other => other.detectorGroup = item.detectorGroup) =
      some found := by
    rw [← Option.isSome_iff_exists, List.find?_isSome]
    exact ⟨item, hitem, decide_eq_true rfl⟩
  obtain ⟨found, hfound⟩ := hfound
  have hstate : groupState coverage item.detectorGroup ≠ .missing := by
    rw [groupState, hfound]
    exact publicCoverageState_ne_missing _ _
  have hexecution : (invertedItem coverage item.detectorGroup).isSome = true := by
    rw [invertedItem]
    cases hgroup : groupState coverage item.detectorGroup <;> first | rfl | exact absurd hgroup hstate
  obtain ⟨inverted, hinverted⟩ := Option.isSome_iff_exists.mp hexecution
  exact List.ne_nil_of_mem (List.mem_filterMap.mpr
    ⟨item.detectorGroup, mem_guestCoverageGroups _, hinverted⟩)

/-- The projection that the route rebuilds: it shows the same, without the private
execution metadata. -/
def ProjectionSnapshot.published {node : NodeRuntime} (projection : ProjectionSnapshot node) :
    ProjectionSnapshot node where
  canonicalHost := projection.canonicalHost
  posture := regroupedPosture projection.posture
  potentialRiskCount := projection.potentialRiskCount
  coverage := invertedCoverage projection.coverage
  warningCount := projection.warningCount
  durationMs := .whole 0
  requestCount := .whole 0
  host_canonical := projection.host_canonical
  posture_nodup := nodup_filterMap_pick observationOf_checkId (by decide)
  coverage_ne := invertedCoverage_ne_nil projection.coverage_ne
  coverage_nodup := nodup_filterMap_pick invertedItem_detectorGroup (by decide)
  risk_count := projection.risk_count
  warning_count := projection.warning_count
  duration_count := by decide
  request_count := by decide

theorem guestResultBody_published {node : NodeRuntime} (access : GuestResultAccess)
    (completed : Nat) (projection : ProjectionSnapshot node) :
    guestResultBody access completed projection.published =
      guestResultBody access completed projection := by
  simp only [guestResultBody, ProjectionSnapshot.published, postureSections_regrouped, coverageView,
    coverageGroups_inverted]



/-! ### What the route reads from a view -/

theorem dateParse_isoOfSeconds (engine : String → Option Int) {moment : Nat}
    (h : moment ≤ maxUnixSecondsForIso) :
    dateParse engine (isoOfSeconds moment) = some ((moment * 1000 : Nat) : Int) := by
  have hms : moment * 1000 < 253402300800000 := by
    unfold maxUnixSecondsForIso at h
    omega
  rw [dateParse, isoOfSeconds, String.toList_ofList,
    Calendar.parseIso_of_fits (Calendar.ofUnixMs_fits hms)]
  dsimp only
  rw [Calendar.toUnixMs_ofUnixMs, if_pos rfl]

theorem utf16Length_isoOfSeconds {moment : Nat} (h : moment ≤ maxUnixSecondsForIso) :
    utf16Length (isoOfSeconds moment).toList = 24 := by
  have hms : moment * 1000 < 253402300800000 := by
    unfold maxUnixSecondsForIso at h
    omega
  have hfits := Calendar.ofUnixMs_fits hms
  rw [isoOfSeconds, String.toList_ofList, utf16Length_eq_length (Calendar.ascii_isoText _),
    Calendar.length_of_fits hfits]

theorem seconds_of_dateParse {engine : String → Option Int} {text : String} {moment : Nat}
    (hlength : utf16Length text.toList = 24)
    (hparse : dateParse engine text = some ((moment * 1000 : Nat) : Int))
    (hsafe : moment * 1000 ≤ maxSafeInteger) :
    seconds engine (.string text) = some (moment : Int) := by
  have hrange : 0 ≤ ((moment * 1000 : Nat) : Int) ∧
      ((moment * 1000 : Nat) : Int) ≤ (maxSafeInteger : Int) ∧
      ((moment * 1000 : Nat) : Int) % 1000 = 0 := by omega
  have hquotient : ((moment * 1000 : Nat) : Int) / 1000 = moment := by omega
  simp only [seconds, Datum.string?, Option.bind_eq_bind, Option.bind_some, hlength, ne_eq,
    not_true, if_false, hparse]
  rw [if_pos hrange, hquotient]

theorem seconds_isoOfSeconds (engine : String → Option Int) {moment : Nat}
    (h : moment ≤ maxUnixSecondsForIso) :
    seconds engine (.string (isoOfSeconds moment)) = some (moment : Int) := by
  refine seconds_of_dateParse (utf16Length_isoOfSeconds h) (dateParse_isoOfSeconds engine h) ?_
  unfold maxUnixSecondsForIso at h
  unfold maxSafeInteger
  omega

theorem length_checks_le (posture : List GuestPostureObservation) (part : SectionId) :
    ((sectionChecks part).filterMap (observationOf posture)).length ≤ guestPostureChecks.length :=
  Nat.le_trans (List.length_filterMap_le _ _) (by cases part <;> decide)

theorem publishedChecks_toDatum {part : PostureSection}
    (h : part.checks.length ≤ guestPostureChecks.length) :
    publishedChecks part.toDatum = some (part.checks.map GuestPostureObservation.toDatum) := by
  simp only [publishedChecks, PostureSection.toDatum, Datum.isRecord_object, Datum.get_object_cons,
    String.reduceEq, if_true, if_false, Bool.not_true, Bool.false_eq_true, Datum.array?,
    Option.bind_eq_bind, Option.bind_some, List.length_map]
  rw [if_neg (by omega)]

theorem mapM_publishedChecks (posture : List GuestPostureObservation) :
    ((postureSections posture).map PostureSection.toDatum).mapM publishedChecks =
      some ((postureSections posture).map fun part =>
        part.checks.map GuestPostureObservation.toDatum) := by
  rw [postureSections, List.map_map, List.map_map]
  exact mapM_map_of_inverse (fun part => publishedChecks_toDatum (length_checks_le posture part)) _

theorem flatten_publishedChecks (posture : List GuestPostureObservation) :
    ((postureSections posture).map fun part =>
        part.checks.map GuestPostureObservation.toDatum).flatten =
      (regroupedPosture posture).map GuestPostureObservation.toDatum := by
  rw [regroupedPosture, sectionOrder, List.filterMap_flatMap, List.map_flatMap, postureSections,
    List.map_map, List.flatMap_def]
  rfl

theorem invertGroup_toDatum (item : CoverageGroupView) :
    invertGroup item.toDatum = some (((executionOf item.state).map fun (status, completeness) =>
      GuestCoverageProjection.toDatum ⟨item.detectorGroup, status, completeness⟩).toList) := by
  obtain ⟨group, state⟩ := item
  cases state <;>
    simp [invertGroup, CoverageGroupView.toDatum, Datum.get_object_cons, Datum.string?,
      PublicCoverageState.text, rebuiltCoverage, executionOf, GuestCoverageProjection.toDatum,
      ExecutionStatus.text, Completeness.text]


theorem mapM_invertGroup (coverage : List GuestCoverageProjection) :
    ((coverageGroups coverage).map CoverageGroupView.toDatum).mapM invertGroup =
      some ((coverageGroups coverage).map fun item =>
        ((executionOf item.state).map fun (status, completeness) =>
          GuestCoverageProjection.toDatum ⟨item.detectorGroup, status, completeness⟩).toList) :=
  mapM_map_of_inverse invertGroup_toDatum _

theorem flatten_invertGroup (coverage : List GuestCoverageProjection) :
    ((coverageGroups coverage).map fun item =>
        ((executionOf item.state).map fun (status, completeness) =>
          GuestCoverageProjection.toDatum ⟨item.detectorGroup, status, completeness⟩).toList).flatten =
      (invertedCoverage coverage).map GuestCoverageProjection.toDatum := by
  rw [flatten_toList_map, coverageGroups, List.filterMap_map, invertedCoverage, List.map_filterMap]
  apply List.filterMap_congr
  intro group _
  rw [invertedItem, Option.map_map]
  rfl

/-- From a view the route rebuilds the argument of an equal view. -/
theorem rebuildInput_toDatum {node : NodeRuntime} (engine : String → Option Int)
    (access : GuestResultAccess) {completed now : Nat} (projection : ProjectionSnapshot node)
    (hnow : now + access.resultTokenExpiresIn = access.resultAccessExpiresAt)
    (hcompleted : completed ≤ now) :
    rebuildInput engine (guestResultBody access completed projection).toDatum access.guestScanId now =
      some (viewInput access.guestScanId access.resultAccessExpiresAt access.resultTokenExpiresIn
        completed projection.published.toDatum) := by
  have hexpires := access.expires_le
  have hpos := access.remaining_pos
  have hle := access.remaining_le
  have hmax : maxResultWindowSeconds = 1800 := rfl
  have hremaining : (access.resultAccessExpiresAt : Int) - now = access.resultTokenExpiresIn := by
    omega
  have hsections : (postureSections projection.posture).length = 5 := rfl
  have hgroups : (coverageView projection.coverage).groups = coverageGroups projection.coverage := rfl
  have hcount : (coverageGroups projection.coverage).length = guestCoverageGroups.length := rfl
  have hguard : ¬ ((decide ((access.resultAccessExpiresAt : Int) ≤ now) ||
      decide ((access.resultTokenExpiresIn : Int) > 1800) || decide ((completed : Int) > now)) = true) := by
    simp only [Bool.or_eq_true, decide_eq_true_eq, not_or]
    omega
  simp only [rebuildInput, GuestResultView.toDatum, guestResultBody, Datum.get_object_cons,
    String.reduceEq, if_true, if_false, seconds_isoOfSeconds engine hexpires,
    seconds_isoOfSeconds engine (show completed ≤ maxUnixSecondsForIso by omega), Option.bind_eq_bind,
    Option.bind_some, hremaining, if_neg hguard, Datum.array?, List.length_map, hsections,
    CoverageView.toDatum, Datum.isRecord_object, hgroups, hcount, mapM_publishedChecks,
    mapM_invertGroup, flatten_publishedChecks, flatten_invertGroup]
  rfl

/-! ### A view equals itself -/

theorem wellFormed_observation (item : GuestPostureObservation) : item.toDatum.WellFormed := by
  simp [GuestPostureObservation.toDatum, Datum.object, Datum.WellFormed, Datum.WellFormedFields]

theorem wellFormed_section (part : PostureSection) : part.toDatum.WellFormed := by
  have hitems : Datum.WellFormedItems (part.checks.map GuestPostureObservation.toDatum) := by
    rw [Datum.wellFormedItems_iff]
    intro item hitem
    obtain ⟨observation, -, rfl⟩ := List.mem_map.mp hitem
    exact wellFormed_observation observation
  simp [PostureSection.toDatum, Datum.object, Datum.WellFormed, Datum.WellFormedFields, hitems]

theorem wellFormed_coverage (coverage : CoverageView) : coverage.toDatum.WellFormed := by
  have hitems : Datum.WellFormedItems (coverage.groups.map CoverageGroupView.toDatum) := by
    rw [Datum.wellFormedItems_iff]
    intro item hitem
    obtain ⟨group, -, rfl⟩ := List.mem_map.mp hitem
    simp [CoverageGroupView.toDatum, Datum.object, Datum.WellFormed, Datum.WellFormedFields]
  simp [CoverageView.toDatum, Datum.object, Datum.WellFormed, Datum.WellFormedFields, hitems]

theorem wellFormed_view (view : GuestResultView) : view.toDatum.WellFormed := by
  have hitems : Datum.WellFormedItems (view.postureSections.map PostureSection.toDatum) := by
    rw [Datum.wellFormedItems_iff]
    intro item hitem
    obtain ⟨part, -, rfl⟩ := List.mem_map.mp hitem
    exact wellFormed_section part
  simp [GuestResultView.toDatum, guestResultLimitations, Datum.object, Datum.WellFormed,
    Datum.WellFormedFields, Datum.WellFormedItems, hitems, wellFormed_coverage]

theorem wellFormed_decision (decision : ReadGuestResultDecision) : decision.toDatum.WellFormed := by
  cases decision with
  | ok view =>
    simp [ReadGuestResultDecision.toDatum, guestResultSecurityHeaders, Datum.object,
      Datum.WellFormed, Datum.WellFormedFields, wellFormed_view]
  | failure code =>
    simp [ReadGuestResultDecision.toDatum, Datum.object, Datum.WellFormed, Datum.WellFormedFields]

theorem projectGuestResultDecision_body {node : NodeRuntime} (engine : String → Option Int)
    (access : GuestResultAccess) {completed now : Nat} (projection : ProjectionSnapshot node)
    (hnow : now + access.resultTokenExpiresIn = access.resultAccessExpiresAt)
    (hcompleted : completed ≤ now) :
    projectGuestResultDecision node engine
        (ReadGuestResultDecision.ok (guestResultBody access completed projection)).toDatum
        access.guestScanId now =
      some (.ok (guestResultBody access completed projection)) := by
  have hequal := Datum.deepEqual_refl _
    (wellFormed_decision (.ok (guestResultBody access completed projection)))
  have hok : (ReadGuestResultDecision.ok (guestResultBody access completed projection)).toDatum.get
      "ok" = .bool true := by
    simp [ReadGuestResultDecision.toDatum, Datum.get_object_cons]
  have hbody : (ReadGuestResultDecision.ok
      (guestResultBody access completed projection)).toDatum.get "body" =
      (guestResultBody access completed projection).toDatum := by
    simp [ReadGuestResultDecision.toDatum, Datum.get_object_cons]
  have hview := createGuestResultView_viewInput access projection.published
    (show completed + access.resultTokenExpiresIn ≤ access.resultAccessExpiresAt by omega)
  rw [guestResultBody_published] at hview
  rw [projectGuestResultDecision, if_neg (by simp [ReadGuestResultDecision.toDatum]), hok, hbody]
  dsimp only [Datum.bool?]
  rw [if_neg (by simp [GuestResultView.toDatum]),
    rebuildInput_toDatum engine access projection hnow hcompleted]
  simp only [Option.bind_eq_bind, Option.bind_some, hview, hequal, if_true]

/-! ### What the filter passes -/

theorem rebuildInput_eq_some {engine : String → Option Int} {body input : Datum} {scanId : String}
    {now : Int} (h : rebuildInput engine body scanId now = some input) :
    ∃ (expires completed : Int) (projection : Datum),
      input = viewInput scanId expires (expires - now) completed projection ∧ now < expires ∧
      expires ≤ now + 1800 ∧ completed ≤ now := by
  simp only [rebuildInput, Option.bind_eq_bind, Option.bind_eq_some_iff] at h
  obtain ⟨expires, -, completed, -, h⟩ := h
  split at h
  · cases h
  · rename_i hchecks
    simp only [Bool.or_eq_true, decide_eq_true_eq, not_or] at hchecks
    obtain ⟨_, -, h⟩ := Option.bind_eq_some_iff.mp h
    split at h
    · cases h
    · simp only [Option.bind_eq_some_iff] at h
      obtain ⟨_, -, _, -, h⟩ := h
      split at h
      · cases h
      · obtain ⟨_, -, h⟩ := Option.bind_eq_some_iff.mp h
        exact ⟨expires, completed, _, (Option.some.inj h).symm, by omega, by omega, by omega⟩

theorem knownDenial_ne_ok (value : Datum) (view : GuestResultView) :
    knownDenial value ≠ some (.ok view) := by
  intro h
  have hmem := List.mem_of_find?_eq_some h
  simp at hmem

theorem projectGuestResultDecision_eq_some {node : NodeRuntime} {engine : String → Option Int}
    {value : Datum} {scanId : String} {now : Int} {view : GuestResultView}
    (h : projectGuestResultDecision node engine value scanId now = some (.ok view)) :
    value.deepEqual (ReadGuestResultDecision.ok view).toDatum = true ∧
      ∃ input, rebuildInput engine (value.get "body") scanId now = some input ∧
        createGuestResultView node input = some view := by
  rw [projectGuestResultDecision] at h
  split at h
  · cases h
  · split at h
    · exact absurd h (knownDenial_ne_ok value view)
    · dsimp only at h
      split at h
      · cases h
      · simp only [Option.bind_eq_bind, Option.bind_eq_some_iff] at h
        obtain ⟨input, hinput, rebuilt, hrebuilt, hequal⟩ := h
        split at hequal
        · rename_i hdeep
          cases hequal
          exact ⟨hdeep, input, hinput, hrebuilt⟩
        · cases hequal
    · cases h

/-- The filter is faithful. Whatever the reader answers to a request passes
unchanged; and whatever passes, from whatever value, is the view of a valid
projection for the scan of the route, open for at most half an hour from now, of a
moment that has passed. -/
theorem projectGuestResultDecision_faithful (node : NodeRuntime) (engine : String → Option Int) :
    (∀ (request : Datum) (dependencies : ReadGuestResultDependencies) (scanId : String) (now : Int)
        (view : GuestResultView),
      request.get "route_guest_scan_id" = .string scanId →
      request.get "now_unix_seconds" = .bigint now →
      readAuthorizedGuestResult node request dependencies = .ok view →
      projectGuestResultDecision node engine (ReadGuestResultDecision.ok view).toDatum scanId now =
        some (.ok view)) ∧
    ∀ (value : Datum) (scanId : String) (now : Int) (view : GuestResultView),
      projectGuestResultDecision node engine value scanId now = some (.ok view) →
      value.deepEqual (ReadGuestResultDecision.ok view).toDatum = true ∧
      ∃ (access : GuestResultAccess) (completed : Nat) (projection : ProjectionSnapshot node),
        createGuestResultView node (viewInput access.guestScanId access.resultAccessExpiresAt
          access.resultTokenExpiresIn completed projection.toDatum) = some view ∧
        access.guestScanId = scanId ∧ now < access.resultAccessExpiresAt ∧
        access.resultAccessExpiresAt ≤ now + 1800 ∧ completed ≤ now := by
  constructor
  · intro value dependencies scanId now view hid hnow hread
    obtain ⟨request, access, completed, projection, hrequest, hscan, hexpires, hcompleted, rfl⟩ :=
      readAuthorizedGuestResult_ok hread
    obtain ⟨hid', hnow', -⟩ := parseResultRequest_eq_some hrequest
    rw [hid] at hid'
    rw [hnow, u64?_eq_some] at hnow'
    cases hid'
    cases hnow'.1
    rw [← hscan]
    exact projectGuestResultDecision_body engine access projection hexpires hcompleted
  · intro value scanId now view h
    obtain ⟨hequal, input, hinput, hview⟩ := projectGuestResultDecision_eq_some h
    obtain ⟨expires, moment, datum, rfl, hopen, hwindow, hpast⟩ := rebuildInput_eq_some hinput
    obtain ⟨access, completed, projection, haccess, hmoment, -, -, hbefore, rfl⟩ :=
      createGuestResultView_eq_some hview
    obtain ⟨hid, hexpires, -⟩ := snapshotAccess_eq_some haccess
    simp only [viewInput, Datum.get_object_cons, String.reduceEq, if_true, if_false, Datum.string?,
      Datum.bigint?, Option.some.injEq] at hid hexpires hmoment
    refine ⟨hequal, access, completed, projection,
      createGuestResultView_viewInput access projection hbefore, hid.symm, ?_, ?_, ?_⟩
    · omega
    · omega
    · omega

/-! ### A stored scan and its answer -/

def readNode : NodeRuntime where
  domainToASCII := some
  isIP := fun _ => 0
  hmacSha256 := fun _ _ => .fill 0

def storedScan : Datum :=
  .object [
    ("schema_version", .number (.whole 1)),
    ("guest_scan_id", .string "scan-1"),
    ("canonical_target", .string "a.org"),
    ("principal_scope", .string (String.ofList scopePrefix ++ digestText (.fill 1))),
    ("endpoint_operation", .string guestScanEndpointOperation),
    ("idempotency_key", .string "k"),
    ("request_hash", .string (digestText (.fill 2))),
    ("created_at_unix_seconds", .bigint 1000),
    ("updated_at_unix_seconds", .bigint 1010),
    ("idempotency_expires_at_unix_seconds", .bigint 2800),
    ("deletion_deadline_unix_seconds", .bigint 87400),
    ("job_state", .string "SUCCEEDED"),
    ("policy_id", .string guestScanPolicyId),
    ("policy_version", .string guestScanPolicyVersion),
    ("profile", .string guestScanProfile),
    ("result_token_metadata", GuestResultTokenMetadata.toDatum
      ⟨"scan-1", 1, .fill 3, 1, 2800, none⟩),
    ("current_attempt_id", .string "attempt-1"),
    ("current_fence", .number (.whole 1)),
    ("accepted_result", .object [("attempt_id", .string "attempt-1"),
      ("fence", .number (.whole 1)), ("payload_digest", .string (digestText (.fill 4)))])]

def storedResult : Datum :=
  .object [
    ("schema_version", .number (.whole 1)),
    ("guest_scan_id", .string "scan-1"),
    ("accepted_attempt_id", .string "attempt-1"),
    ("accepted_fence", .number (.whole 1)),
    ("payload_digest", .string (digestText (.fill 4))),
    ("completed_at_unix_seconds", .bigint 1010),
    ("projection", projectionDatum (.string "a.org") (.number (.whole 0)) (.number (.whole 0))
      (.array [GuestPostureObservation.toDatum ⟨.httpCsp, .attention⟩,
        GuestPostureObservation.toDatum ⟨.infraRpki, .pass⟩])
      (.array [GuestCoverageProjection.toDatum ⟨.ctEnrichment, .timedOut, .partially⟩])
      (.number (.whole 5)) (.number (.whole 3)))]

def storedRecords : ReadGuestResultDependencies where
  loadByGuestScanId := fun _ => some (.object [("scan", storedScan), ("result", storedResult)])
  tokenKeyring := fun _ => some (List.replicate 32 0)

def readRequest : Datum :=
  .object [
    ("authorization_header", .string ("Bearer " ++ encodeBase64Url (List.replicate 32 0))),
    ("route_guest_scan_id", .string "scan-1"),
    ("query", .object []),
    ("now_unix_seconds", .bigint 1500)]

def readView : GuestResultView where
  guestScanId := "scan-1"
  canonicalHost := "a.org"
  completedAt := "1970-01-01T00:16:50.000Z"
  resultAccessExpiresAt := "1970-01-01T00:46:40.000Z"
  postureSections := [
    ⟨.infrastructure, [⟨.infraRpki, .pass⟩]⟩, ⟨.domain, []⟩, ⟨.mail, []⟩, ⟨.tls, []⟩,
    ⟨.web, [⟨.httpCsp, .attention⟩]⟩]
  potentialRiskCount := .whole 0
  warningCount := .whole 0
  coverage := ⟨.insufficient, 0, 8, [⟨.targetResolution, .missing⟩, ⟨.dnsDomainPosture, .missing⟩,
    ⟨.tlsCertificatePosture, .missing⟩, ⟨.httpSecurityPosture, .missing⟩,
    ⟨.mailSecurityPosture, .missing⟩, ⟨.publicInfrastructure, .missing⟩,
    ⟨.rdapEnrichment, .missing⟩, ⟨.ctEnrichment, .unavailable⟩]⟩

theorem readAuthorizedGuestResult_stored :
    readAuthorizedGuestResult readNode readRequest storedRecords = .ok readView := by
  decide +kernel

/-- The theorem on a stored result. -/
theorem projectGuestResultDecision_faithful_stored :
    projectGuestResultDecision readNode (fun _ => none)
        (ReadGuestResultDecision.ok readView).toDatum "scan-1" 1500 = some (.ok readView) ∧
      (ReadGuestResultDecision.ok readView).toDatum.deepEqual
        (ReadGuestResultDecision.ok readView).toDatum = true :=
  have passes := (projectGuestResultDecision_faithful readNode fun _ => none).1 readRequest
    storedRecords "scan-1" 1500 readView rfl rfl readAuthorizedGuestResult_stored
  ⟨passes, ((projectGuestResultDecision_faithful readNode fun _ => none).2 _ _ _ _ passes).1⟩

end Outscan
