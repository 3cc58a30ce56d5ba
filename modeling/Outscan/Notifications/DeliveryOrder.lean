import Mathlib.Data.List.Pairwise
import Outscan.Notifications.Delivery

/-! Reports of the provider in any order. Where each report of a set can be
applied in some order, the other orders end in the same status unless the first
answer of the provider is still awaited. -/
namespace Outscan

open Dynamic NotificationDeliveryStatus

structure ProviderEvent where
  providerEventId : String
  proposedStatus : NotificationDeliveryStatus
deriving DecidableEq, Repr

def decideProviderEvent (snapshot : NotificationDeliverySnapshot) (event : ProviderEvent) :
    Except NotificationErrorCode DeliveryTransitionDecision :=
  decideProviderDeliveryTransition snapshot.datum (.string event.providerEventId)
    (.string event.proposedStatus.text)

def deliverEvent (snapshot : NotificationDeliverySnapshot) (event : ProviderEvent) :
    NotificationDeliverySnapshot :=
  (appliedSnapshot? (decideProviderEvent snapshot event)).getD snapshot

def deliverEvents (snapshot : NotificationDeliverySnapshot) (deliveries : List ProviderEvent) :
    NotificationDeliverySnapshot :=
  deliveries.foldl deliverEvent snapshot

/-- The snapshot after the events, each of which is applied. -/
def applyEvents : NotificationDeliverySnapshot → List ProviderEvent →
    Option NotificationDeliverySnapshot
  | snapshot, [] => some snapshot
  | snapshot, event :: rest =>
    (appliedSnapshot? (decideProviderEvent snapshot event)).bind fun next => applyEvents next rest

def Overtakes (status next : NotificationDeliveryStatus) : Prop :=
  next ∈ provider ∧ next ∈ status.allowed

instance (status next : NotificationDeliveryStatus) : Decidable (Overtakes status next) :=
  inferInstanceAs (Decidable (_ ∧ _))

theorem overtakes_trans : ∀ a b c : NotificationDeliveryStatus, a ≠ sending → Overtakes a b →
    Overtakes b c → Overtakes a c := by
  decide +kernel

theorem overtakes_asymm : ∀ a b : NotificationDeliveryStatus, Overtakes a b → ¬ Overtakes b a := by
  decide +kernel

theorem not_overtakes_of_sending : ∀ b c : NotificationDeliveryStatus, Overtakes sending b →
    Overtakes b c → b = accepted ∧ ¬ Overtakes sending c := by
  decide +kernel

theorem ne_sending_of_overtakes : ∀ a b : NotificationDeliveryStatus, Overtakes a b →
    b ≠ sending := by
  decide +kernel

theorem decideProviderEvent_apply {snapshot next : NotificationDeliverySnapshot}
    {event : ProviderEvent} :
    appliedSnapshot? (decideProviderEvent snapshot event) = some next ↔
      snapshot.Valid ∧ isNotificationIdentifier event.providerEventId = true ∧
        Overtakes snapshot.status event.proposedStatus ∧
        event.providerEventId ∉ snapshot.processedProviderEventIds ∧
        snapshot.processedProviderEventIds.length < 1000 ∧
        next = {
          status := event.proposedStatus
          attemptCount := snapshot.attemptCount
          processedProviderEventIds :=
            snapshot.processedProviderEventIds ++ [event.providerEventId] } := by
  have hok : appliedSnapshot? (decideProviderEvent snapshot event) = some next ↔
      decideProviderEvent snapshot event = .ok (.apply next) := by
    unfold appliedSnapshot?
    split <;> simp_all
  rw [hok, decideProviderEvent, provider_apply]
  constructor
  · rintro ⟨hvalid, text, status, htext, hstatus, hprovider, hallowed, hfresh, hroom, rfl⟩
    obtain ⟨hsame, hid⟩ := notificationIdentifier?_eq_some.mp htext
    cases Datum.string.inj hsame
    cases Option.some.inj ((deliveryStatus?_text _).symm.trans hstatus)
    exact ⟨hvalid, hid, ⟨hprovider, hallowed⟩, hfresh, hroom, rfl⟩
  · rintro ⟨hvalid, hid, ⟨hprovider, hallowed⟩, hfresh, hroom, rfl⟩
    exact ⟨hvalid, _, _, notificationIdentifier?_eq_some.mpr ⟨rfl, hid⟩, deliveryStatus?_text _,
      hprovider, hallowed, hfresh, hroom, rfl⟩

theorem valid_of_event {snapshot next : NotificationDeliverySnapshot} {event : ProviderEvent}
    (h : appliedSnapshot? (decideProviderEvent snapshot event) = some next) : next.Valid := by
  unfold appliedSnapshot? at h
  split at h
  · rename_i found hanswer
    cases h
    exact valid_of_provider hanswer
  · cases h

/-! ### An order in which every event is applied -/

structure AppliedInOrder (snapshot final : NotificationDeliverySnapshot)
    (events : List ProviderEvent) : Prop where
  chain : (snapshot.status :: events.map ProviderEvent.proposedStatus).IsChain Overtakes
  last : final.status = (snapshot.status :: events.map ProviderEvent.proposedStatus).getLast
    (List.cons_ne_nil _ _)
  identifiers : ∀ event ∈ events, isNotificationIdentifier event.providerEventId = true
  fresh : ∀ event ∈ events, event.providerEventId ∉ snapshot.processedProviderEventIds
  distinct : (events.map ProviderEvent.providerEventId).Nodup
  room : snapshot.processedProviderEventIds.length + events.length ≤ 1000

theorem appliedInOrder {snapshot final : NotificationDeliverySnapshot}
    {events : List ProviderEvent} (hvalid : snapshot.Valid)
    (h : applyEvents snapshot events = some final) : AppliedInOrder snapshot final events := by
  induction events generalizing snapshot with
  | nil =>
    cases h
    exact ⟨.singleton _, rfl, by simp, by simp, List.nodup_nil, hvalid.bounded⟩
  | cons event rest ih =>
    obtain ⟨next, hnext, hrest⟩ := Option.bind_eq_some_iff.mp h
    obtain ⟨-, hid, hlead, hfresh, hroom, hsame⟩ := decideProviderEvent_apply.mp hnext
    have htail := ih (valid_of_event hnext) hrest
    subst hsame
    constructor
    · exact .cons_cons hlead htail.chain
    · rw [htail.last]
      rfl
    · exact List.forall_mem_cons.mpr ⟨hid, htail.identifiers⟩
    · refine List.forall_mem_cons.mpr ⟨hfresh, fun other hother hmem => ?_⟩
      exact htail.fresh other hother (List.mem_append_left _ hmem)
    · refine List.nodup_cons.mpr ⟨fun hmem => ?_, htail.distinct⟩
      obtain ⟨other, hother, hsame⟩ := List.mem_map.mp hmem
      exact htail.fresh other hother (by simp [hsame])
    · have hcount := htail.room
      rw [List.length_append, List.length_singleton] at hcount
      rw [List.length_cons]
      omega

theorem pairwise_of_chain {status : NotificationDeliveryStatus}
    {statuses : List NotificationDeliveryStatus} (hstart : status ≠ sending)
    (h : (status :: statuses).IsChain Overtakes) : (status :: statuses).Pairwise Overtakes := by
  induction statuses generalizing status with
  | nil => exact List.pairwise_singleton _ _
  | cons next rest ih =>
    obtain ⟨hlead, hrest⟩ := List.isChain_cons_cons.mp h
    have htail := ih (ne_sending_of_overtakes _ _ hlead) hrest
    refine List.pairwise_cons.mpr ⟨fun later hlater => ?_, htail⟩
    rcases List.mem_cons.mp hlater with rfl | hmem
    · exact hlead
    · exact overtakes_trans _ _ _ hstart hlead ((List.pairwise_cons.mp htail).1 later hmem)

section NotSending

variable {snapshot final : NotificationDeliverySnapshot} {events : List ProviderEvent}

/-- Two statuses of the chain are the same, or one leads on to the other. -/
theorem AppliedInOrder.compare (h : AppliedInOrder snapshot final events)
    (hstart : snapshot.status ≠ sending) {a b : NotificationDeliveryStatus}
    (ha : a ∈ snapshot.status :: events.map ProviderEvent.proposedStatus)
    (hb : b ∈ snapshot.status :: events.map ProviderEvent.proposedStatus) :
    a = b ∨ Overtakes a b ∨ Overtakes b a := by
  have hsymm : Std.Symm fun a b : NotificationDeliveryStatus =>
      a = b ∨ Overtakes a b ∨ Overtakes b a :=
    ⟨fun _ _ hab => hab.imp Eq.symm Or.symm⟩
  have hpairs := (pairwise_of_chain hstart h.chain).imp
    (S := fun a b => a = b ∨ Overtakes a b ∨ Overtakes b a) fun hab => .inr (.inl hab)
  exact hpairs.forall_of_forall (fun a _ => .inl rfl) ha hb

theorem AppliedInOrder.le_final (h : AppliedInOrder snapshot final events)
    (hstart : snapshot.status ≠ sending) {a : NotificationDeliveryStatus}
    (ha : a ∈ snapshot.status :: events.map ProviderEvent.proposedStatus) :
    a = final.status ∨ Overtakes a final.status := by
  have hpairs := (pairwise_of_chain hstart h.chain).imp
    (S := fun a b => a = b ∨ Overtakes a b) Or.inr
  rw [h.last]
  exact hpairs.rel_getLast_of_rel_getLast_getLast ha (.inl rfl)

theorem AppliedInOrder.ne_sending (h : AppliedInOrder snapshot final events)
    (hstart : snapshot.status ≠ sending) {event : ProviderEvent} (hevent : event ∈ events) :
    event.proposedStatus ≠ sending :=
  ne_sending_of_overtakes _ _ ((List.pairwise_cons.mp (pairwise_of_chain hstart h.chain)).1 _
    (List.mem_map_of_mem hevent))

structure Caught (snapshot : NotificationDeliverySnapshot) (events seen : List ProviderEvent)
    (reached : NotificationDeliverySnapshot) : Prop where
  valid : reached.Valid
  position : reached.status ∈ snapshot.status :: events.map ProviderEvent.proposedStatus
  behind : ∀ event ∈ seen, event.proposedStatus = reached.status ∨
    Overtakes event.proposedStatus reached.status
  ids : ∃ applied, reached.processedProviderEventIds =
    snapshot.processedProviderEventIds ++ applied ∧
      ∀ id ∈ applied, ∃ event ∈ seen, event.providerEventId = id

theorem Caught.behind_of_not_applied (horder : AppliedInOrder snapshot final events)
    (hstart : snapshot.status ≠ sending) {seen : List ProviderEvent} (hseen : seen ⊆ events)
    {reached : NotificationDeliverySnapshot} (h : Caught snapshot events seen reached)
    {event : ProviderEvent} (hevent : event ∈ events)
    (hnot : appliedSnapshot? (decideProviderEvent reached event) = none) :
    event.proposedStatus = reached.status ∨ Overtakes event.proposedStatus reached.status := by
  rcases horder.compare hstart (List.mem_cons_of_mem _ (List.mem_map_of_mem hevent)) h.position with
    hsame | hbehind | hahead
  · exact .inl hsame
  · exact .inr hbehind
  · obtain ⟨applied, hids, happlied⟩ := h.ids
    have hfresh : event.providerEventId ∉ reached.processedProviderEventIds := by
      intro hmem
      rw [hids] at hmem
      rcases List.mem_append.mp hmem with hold | hnew
      · exact horder.fresh event hevent hold
      · obtain ⟨other, hother, hid⟩ := happlied _ hnew
        have hsame := List.inj_on_of_nodup_map horder.distinct (hseen hother) hevent hid
        subst hsame
        rcases h.behind other hother with heq | hlt
        · rw [heq] at hahead
          exact overtakes_asymm _ _ hahead hahead
        · exact overtakes_asymm _ _ hlt hahead
    -- The events applied so far and this one are among all events.
    have hroom : reached.processedProviderEventIds.length < 1000 := by
      have hdistinct : (event.providerEventId :: applied).Nodup := by
        rw [hids] at hfresh
        have hparts := h.valid.distinct
        rw [hids] at hparts
        exact List.nodup_cons.mpr
          ⟨fun hmem => hfresh (List.mem_append_right _ hmem), (List.nodup_append.mp hparts).2.1⟩
      have hsubset : event.providerEventId :: applied ⊆ events.map ProviderEvent.providerEventId := by
        intro id hid
        rcases List.mem_cons.mp hid with rfl | hmem
        · exact List.mem_map_of_mem hevent
        · obtain ⟨other, hother, rfl⟩ := happlied id hmem
          exact List.mem_map_of_mem (hseen hother)
      have hcount := (hdistinct.subperm hsubset).length_le
      have hall := horder.room
      rw [List.length_map, List.length_cons] at hcount
      rw [hids, List.length_append]
      omega
    have happly := decideProviderEvent_apply.mpr
      ⟨h.valid, horder.identifiers event hevent, hahead, hfresh, hroom, rfl⟩
    rw [hnot] at happly
    cases happly

theorem Caught.step (horder : AppliedInOrder snapshot final events)
    (hstart : snapshot.status ≠ sending) {seen : List ProviderEvent} (hseen : seen ⊆ events)
    {reached : NotificationDeliverySnapshot} (h : Caught snapshot events seen reached)
    {event : ProviderEvent} (hevent : event ∈ events) :
    Caught snapshot events (seen ++ [event]) (deliverEvent reached event) := by
  unfold deliverEvent
  cases hnext : appliedSnapshot? (decideProviderEvent reached event) with
  | none =>
    have hbehind := h.behind_of_not_applied horder hstart hseen hevent hnext
    obtain ⟨applied, hids, happlied⟩ := h.ids
    refine ⟨h.valid, h.position, fun other hother => ?_, applied, hids, fun id hid => ?_⟩
    · rcases List.mem_append.mp hother with hold | hnew
      · exact h.behind other hold
      · rw [List.mem_singleton.mp hnew]
        exact hbehind
    · obtain ⟨other, hother, hsame⟩ := happlied id hid
      exact ⟨other, List.mem_append_left _ hother, hsame⟩
  | some next =>
    obtain ⟨-, -, hlead, -, -, hsame⟩ := decideProviderEvent_apply.mp hnext
    have hvalid := valid_of_event hnext
    subst hsame
    obtain ⟨applied, hids, happlied⟩ := h.ids
    refine ⟨hvalid, List.mem_cons_of_mem _ (List.mem_map_of_mem hevent), fun other hother => ?_,
      applied ++ [event.providerEventId], ?_, fun id hid => ?_⟩
    · rcases List.mem_append.mp hother with hold | hnew
      · right
        rcases h.behind other hold with heq | hlt
        · rw [heq]
          exact hlead
        · exact overtakes_trans _ _ _ (horder.ne_sending hstart (hseen hold)) hlt hlead
      · rw [List.mem_singleton.mp hnew]
        exact .inl rfl
    · rw [Option.getD_some, hids, List.append_assoc]
    · rcases List.mem_append.mp hid with hold | hnew
      · obtain ⟨other, hother, hsame⟩ := happlied id hold
        exact ⟨other, List.mem_append_left _ hother, hsame⟩
      · exact ⟨event, by simp, (List.mem_singleton.mp hnew).symm⟩

theorem caught_deliverEvents (hvalid : snapshot.Valid)
    (horder : AppliedInOrder snapshot final events) (hstart : snapshot.status ≠ sending)
    {deliveries : List ProviderEvent} (hdeliveries : deliveries ⊆ events) :
    Caught snapshot events deliveries (deliverEvents snapshot deliveries) := by
  induction deliveries using List.reverseRecOn with
  | nil =>
    exact ⟨hvalid, List.mem_cons_self, by simp, [], (List.append_nil _).symm, by simp⟩
  | append_singleton seen event ih =>
    have hseen : seen ⊆ events := fun other hother => hdeliveries (List.mem_append_left _ hother)
    rw [deliverEvents, List.foldl_append]
    exact (ih hseen).step horder hstart hseen (hdeliveries (by simp))

/-- Every order ends where the first one does. -/
theorem deliverEvents_status (hvalid : snapshot.Valid)
    (horder : AppliedInOrder snapshot final events) (hstart : snapshot.status ≠ sending)
    {deliveries : List ProviderEvent} (hsame : ∀ event, event ∈ deliveries ↔ event ∈ events) :
    (deliverEvents snapshot deliveries).status = final.status := by
  have hcaught := caught_deliverEvents hvalid horder hstart (fun event => (hsame event).mp)
  generalize deliverEvents snapshot deliveries = reached at hcaught
  rcases horder.le_final hstart hcaught.position with heq | hlt
  · exact heq
  · -- The final status is that of an event, which is not ahead of what was reached.
    have hlast := horder.last ▸ List.getLast_mem
      (List.cons_ne_nil snapshot.status (events.map ProviderEvent.proposedStatus))
    rcases List.mem_cons.mp hlast with hfirst | hmem
    · rcases List.mem_cons.mp hcaught.position with hreached | hreached
      · rw [hreached, hfirst]
      · have hlead := (List.pairwise_cons.mp (pairwise_of_chain hstart horder.chain)).1 _ hreached
        rw [hfirst] at hlt
        exact absurd hlt (overtakes_asymm _ _ hlead)
    · obtain ⟨event, hevent, hstatus⟩ := List.mem_map.mp hmem
      rcases hcaught.behind event ((hsame event).mpr hevent) with heq | hahead
      · rw [← heq, hstatus]
      · rw [hstatus] at hahead
        exact absurd hlt (overtakes_asymm _ _ hahead)

end NotSending

/-! ### While the first answer is awaited -/

theorem deliverEvents_of_none {snapshot : NotificationDeliverySnapshot}
    {deliveries : List ProviderEvent}
    (h : ∀ event ∈ deliveries, appliedSnapshot? (decideProviderEvent snapshot event) = none) :
    deliverEvents snapshot deliveries = snapshot := by
  induction deliveries with
  | nil => rfl
  | cons event rest ih =>
    have hstale : deliverEvent snapshot event = snapshot := by
      rw [deliverEvent, h event List.mem_cons_self, Option.getD_none]
    rw [deliverEvents, List.foldl_cons, hstale]
    exact ih fun other hother => h other (List.mem_cons_of_mem _ hother)

theorem applied_none_of_not_overtakes {snapshot : NotificationDeliverySnapshot}
    {event : ProviderEvent} (h : ¬ Overtakes snapshot.status event.proposedStatus) :
    appliedSnapshot? (decideProviderEvent snapshot event) = none := by
  apply Option.eq_none_iff_forall_ne_some.mpr
  intro next hnext
  exact h (decideProviderEvent_apply.mp hnext).2.2.1

theorem applied_none_of_processed {snapshot : NotificationDeliverySnapshot} {event : ProviderEvent}
    (h : event.providerEventId ∈ snapshot.processedProviderEventIds) :
    appliedSnapshot? (decideProviderEvent snapshot event) = none := by
  apply Option.eq_none_iff_forall_ne_some.mpr
  intro next hnext
  exact (decideProviderEvent_apply.mp hnext).2.2.2.1 h

theorem deliverEvents_single {snapshot final : NotificationDeliverySnapshot} {event : ProviderEvent}
    {deliveries : List ProviderEvent} (happly : applyEvents snapshot [event] = some final)
    (hsame : ∀ other, other ∈ deliveries ↔ other ∈ [event]) :
    deliverEvents snapshot deliveries = final := by
  obtain ⟨next, hnext, hfinal⟩ := Option.bind_eq_some_iff.mp happly
  cases hfinal
  cases deliveries with
  | nil => exact absurd ((hsame event).mpr List.mem_cons_self) List.not_mem_nil
  | cons first rest =>
    have hfirst := List.mem_singleton.mp ((hsame first).mp List.mem_cons_self)
    subst hfirst
    rw [deliverEvents, List.foldl_cons, deliverEvent, hnext, Option.getD_some]
    apply deliverEvents_of_none
    intro other hother
    rw [List.mem_singleton.mp ((hsame other).mp (List.mem_cons_of_mem _ hother))]
    apply applied_none_of_processed
    obtain ⟨-, -, -, -, -, hids⟩ := decideProviderEvent_apply.mp hnext
    rw [hids]
    simp

/-- With the first report delivered last, all the others are lost. -/
theorem deliverEvents_reordered {snapshot final : NotificationDeliverySnapshot}
    {first second : ProviderEvent} {rest : List ProviderEvent} (hstart : snapshot.status = sending)
    (happly : applyEvents snapshot (first :: second :: rest) = some final)
    (horder : AppliedInOrder snapshot final (first :: second :: rest)) :
    (deliverEvents snapshot (second :: rest ++ [first])).status = accepted ∧
      final.status ≠ accepted := by
  have hchain := horder.chain
  rw [hstart, List.map_cons, List.isChain_cons_cons] at hchain
  obtain ⟨hlead, htail⟩ := hchain
  have hsecond := (List.isChain_cons_cons.mp htail).1
  obtain ⟨haccepted, -⟩ := not_overtakes_of_sending _ _ hlead hsecond
  have hpairs := pairwise_of_chain (ne_sending_of_overtakes _ _ hlead) htail
  have hlost : ∀ event ∈ second :: rest, ¬ Overtakes snapshot.status event.proposedStatus := by
    intro event hevent
    rw [hstart]
    exact (not_overtakes_of_sending _ _ hlead
      ((List.pairwise_cons.mp hpairs).1 _ (List.mem_map_of_mem hevent))).2
  obtain ⟨next, hnext, -⟩ := Option.bind_eq_some_iff.mp happly
  obtain ⟨-, -, -, -, -, hsame⟩ := decideProviderEvent_apply.mp hnext
  constructor
  · rw [deliverEvents, List.foldl_append]
    have hstay := deliverEvents_of_none fun event hevent =>
      applied_none_of_not_overtakes (hlost event hevent)
    rw [deliverEvents] at hstay
    rw [hstay, List.foldl_cons, List.foldl_nil, deliverEvent, hnext, Option.getD_some, hsame]
    exact haccepted
  · intro hfinal
    have hmem : final.status ∈ (second :: rest).map ProviderEvent.proposedStatus := by
      rw [horder.last]
      exact List.getLast_mem (List.cons_ne_nil _ _)
    have hlast := (List.pairwise_cons.mp hpairs).1 _ hmem
    rw [hfinal, haccepted] at hlast
    exact overtakes_asymm _ _ hlast hlast

/-- The status is the same in every order exactly when the first answer of the
provider is not awaited, or there is at most one report. -/
theorem delivery_order_iff {snapshot final : NotificationDeliverySnapshot}
    {events : List ProviderEvent} (hvalid : validSnapshot snapshot.datum = some snapshot)
    (happly : applyEvents snapshot events = some final) :
    (∀ deliveries : List ProviderEvent, (∀ event, event ∈ deliveries ↔ event ∈ events) →
        (deliverEvents snapshot deliveries).status = final.status) ↔
      snapshot.status ≠ .sending ∨ events.length ≤ 1 := by
  have hsnapshot := (validSnapshot_datum.mp hvalid).1
  have horder := appliedInOrder hsnapshot happly
  by_cases hstart : snapshot.status = sending
  · match events, happly, horder with
    | [], happly, _ =>
      cases happly
      refine iff_of_true (fun deliveries hsame => ?_) (.inr (Nat.zero_le 1))
      rw [List.eq_nil_iff_forall_not_mem.mpr fun event hevent =>
        List.not_mem_nil ((hsame event).mp hevent)]
      rfl
    | [event], happly, _ =>
      refine iff_of_true (fun deliveries hsame => ?_) (.inr (Nat.le_refl 1))
      rw [deliverEvents_single happly hsame]
    | first :: second :: rest, happly, horder =>
      refine iff_of_false (fun hall => ?_) ?_
      · obtain ⟨hreached, hfinal⟩ := deliverEvents_reordered hstart happly horder
        have hsame := hall (second :: rest ++ [first]) fun event => by
          simp only [List.mem_append, List.mem_cons, List.not_mem_nil, or_false]
          tauto
        rw [hreached] at hsame
        exact hfinal hsame.symm
      · rintro (hne | hfew)
        · exact hne hstart
        · simp at hfew
  · exact iff_of_true (fun deliveries hsame => deliverEvents_status hsnapshot horder hstart hsame)
      (.inl hstart)

theorem delivery_order_iff_sample :
    (deliverEvents ⟨.unknown, 1, []⟩
      [⟨"event_2", .delivered⟩, ⟨"event_1", .accepted⟩]).status = .delivered := by
  have happly : applyEvents ⟨.unknown, 1, []⟩
      [⟨"event_1", .accepted⟩, ⟨"event_2", .delivered⟩] =
        some ⟨.delivered, 1, ["event_1", "event_2"]⟩ := by decide +kernel
  have hvalid : validSnapshot (NotificationDeliverySnapshot.datum ⟨.unknown, 1, []⟩) =
      some ⟨.unknown, 1, []⟩ := by decide +kernel
  exact (delivery_order_iff hvalid happly).mpr (.inl (by decide)) _ (by simp [or_comm])

/-- A message that is being sent is reported as accepted and then as delivered. With
the reports the other way round, the second is lost. -/
theorem delivery_report_lost :
    ¬ ∀ (snapshot final : NotificationDeliverySnapshot) (events deliveries : List ProviderEvent),
      validSnapshot snapshot.datum = some snapshot → applyEvents snapshot events = some final →
      (∀ event, event ∈ deliveries ↔ event ∈ events) →
      (deliverEvents snapshot deliveries).status = final.status := by
  intro hall
  have happly : applyEvents ⟨.sending, 1, []⟩
      [⟨"event_1", .accepted⟩, ⟨"event_2", .delivered⟩] =
        some ⟨.delivered, 1, ["event_1", "event_2"]⟩ := by decide +kernel
  have hvalid : validSnapshot (NotificationDeliverySnapshot.datum ⟨.sending, 1, []⟩) =
      some ⟨.sending, 1, []⟩ := by decide +kernel
  have hlost : deliverEvents ⟨.sending, 1, []⟩
      [⟨"event_2", .delivered⟩, ⟨"event_1", .accepted⟩] = ⟨.accepted, 1, ["event_1"]⟩ := by
    decide +kernel
  have hsame := hall _ _ _ [⟨"event_2", .delivered⟩, ⟨"event_1", .accepted⟩] hvalid happly
    (by simp [or_comm])
  rw [hlost] at hsame
  cases hsame

end Outscan
