import Outscan.Notifications.Delivery

/-! The recipients of a notification event. -/
namespace Outscan

open Dynamic

inductive NotificationScope where
  | account | tenant | platform
deriving DecidableEq, Repr

inductive NotificationChannel where
  | emailTransactional | emailTechnical | telegramCustomer | telegramOps
deriving DecidableEq, Repr

inductive PrincipalKind where
  | user | opsConfig
deriving DecidableEq, Repr

structure NotificationRecipientIntent where
  eventId : String
  principalKind : PrincipalKind
  principalId : String
  endpointId : String
  channel : NotificationChannel
deriving DecidableEq, Repr

/-- Whom an event is about: `userId`, `organizationId` or `serviceId`. -/
inductive NotificationSubject where
  | account (userId : String)
  | tenant (organizationId : String)
  | platform (serviceId : String)
deriving DecidableEq, Repr

def NotificationSubject.scope : NotificationSubject → NotificationScope
  | .account _ => .account
  | .tenant _ => .tenant
  | .platform _ => .platform

structure NotificationEvent where
  eventId : String
  eventType : String
  subject : NotificationSubject
deriving DecidableEq, Repr

def accountNotificationEventTypes : List String :=
  ["ACCOUNT_EMAIL_VERIFICATION", "ACCOUNT_PASSWORD_RECOVERY", "ACCOUNT_SECURITY_CHANGED",
    "ORGANIZATION_INVITATION"]

def tenantNotificationEventTypes : List String :=
  ["FINDING_CREATED", "FINDING_REOPENED", "THREAT_INTEL_MATCHED", "ASSET_DISCOVERED",
    "POSTURE_REGRESSION", "CERTIFICATE_EXPIRING", "SECURITY_SCORE_CHANGED", "MONITORING_FAILED",
    "MONITORING_SUSPENDED"]

def platformNotificationEventTypes : List String :=
  ["WORKER_UNHEALTHY", "QUEUE_DEGRADED", "SCAN_FAILURE_SPIKE", "THREAT_INTEL_SYNC_FAILED",
    "THREAT_INTEL_STALE", "SCANNER_RELEASE_FAILED", "EMAIL_DELIVERY_DEGRADED",
    "TELEGRAM_DELIVERY_DEGRADED", "ABUSE_SPIKE", "PLATFORM_SECURITY_EVENT", "BREAK_GLASS_ACCESS"]

structure NotificationEventDefinition where
  eventType : String
  scope : NotificationScope
deriving DecidableEq, Repr

def notificationEventCatalog : List NotificationEventDefinition :=
  accountNotificationEventTypes.map (⟨·, .account⟩) ++
    tenantNotificationEventTypes.map (⟨·, .tenant⟩) ++
    platformNotificationEventTypes.map (⟨·, .platform⟩)

def getNotificationEventDefinition (eventType : String) :
    Except NotificationErrorCode NotificationEventDefinition :=
  match notificationEventCatalog.find? (·.eventType == eventType) with
  | none => .error .unknownEventType
  | some definition => .ok definition

def memberRoles : List String := ["OWNER", "ADMIN", "ANALYST"]

def memberStatuses : List String := ["ACTIVE", "REMOVED"]

def accountContextKeys : List String := ["scope", "userId", "emailEndpointId", "endpointActive"]

def tenantContextKeys : List String := ["scope", "organizationId", "members"]

def platformContextKeys : List String := ["scope", "opsEndpointId", "endpointActive"]

def tenantMemberKeys : List String :=
  ["organizationId", "userId", "role", "status", "emailEndpointId", "telegramEndpointId",
    "technicalEmailEnabled", "technicalTelegramEnabled"]

def oneOf? (values : List String) (value : Datum) : Option String :=
  value.string?.bind fun text => if text ∈ values then some text else none

/-- An endpoint, or none: the outer `none` is a malformed value. -/
def endpoint? : Datum → Option (Option String)
  | .null => some none
  | value => (notificationIdentifier? value).map some

def resolveAccount (event : NotificationEvent) (eventUserId : String) (context : Datum) :
    Except NotificationErrorCode (List NotificationRecipientIntent) :=
  if !context.hasExactKeys accountContextKeys then .error .invalidRecipientContext
  else
    match notificationIdentifier? (context.get "userId"),
        notificationIdentifier? (context.get "emailEndpointId"),
        (context.get "endpointActive").bool? with
    | some userId, some emailEndpointId, some endpointActive =>
      if (context.get "scope").string? ≠ some "ACCOUNT" || userId ≠ eventUserId then
        .error .invalidRecipientContext
      else if !endpointActive then .ok []
      else .ok [⟨event.eventId, .user, userId, emailEndpointId, .emailTransactional⟩]
    | _, _, _ => .error .invalidRecipientContext

structure TenantMember where
  userId : String
  status : String
  emailEndpointId : Option String
  telegramEndpointId : Option String
  technicalEmailEnabled : Bool
  technicalTelegramEnabled : Bool
deriving DecidableEq, Repr

def tenantMember (organizationId : String) (member : Datum) :
    Except NotificationErrorCode TenantMember :=
  if !member.hasExactKeys tenantMemberKeys then .error .invalidRecipientContext
  else if (member.get "organizationId").string? ≠ some organizationId then
    .error .crossTenantContext
  else
    match notificationIdentifier? (member.get "userId"), oneOf? memberRoles (member.get "role"),
        oneOf? memberStatuses (member.get "status"), endpoint? (member.get "emailEndpointId"),
        endpoint? (member.get "telegramEndpointId"), (member.get "technicalEmailEnabled").bool?,
        (member.get "technicalTelegramEnabled").bool? with
    | some userId, some _, some status, some emailEndpointId, some telegramEndpointId,
        some technicalEmailEnabled, some technicalTelegramEnabled =>
      .ok { userId, status, emailEndpointId, telegramEndpointId, technicalEmailEnabled,
            technicalTelegramEnabled }
    | _, _, _, _, _, _, _ => .error .invalidRecipientContext

structure RecipientState where
  intents : List NotificationRecipientIntent
  endpointIds : List String

def pushIntent (eventId userId : String) (channel : NotificationChannel) (enabled : Bool)
    (endpoint : Option String) (state : RecipientState) : RecipientState :=
  match endpoint with
  | none => state
  | some endpointId =>
    if enabled && endpointId ∉ state.endpointIds then
      { intents := state.intents ++ [⟨eventId, .user, userId, endpointId, channel⟩]
        endpointIds := state.endpointIds ++ [endpointId] }
    else state

def resolveMember (eventId organizationId : String) (state : RecipientState) (member : Datum) :
    Except NotificationErrorCode RecipientState :=
  match tenantMember organizationId member with
  | .error code => .error code
  | .ok member =>
    if member.status ≠ "ACTIVE" then .ok state
    else
      .ok (pushIntent eventId member.userId .telegramCustomer member.technicalTelegramEnabled
        member.telegramEndpointId
        (pushIntent eventId member.userId .emailTechnical member.technicalEmailEnabled
          member.emailEndpointId state))

def resolveTenant (event : NotificationEvent) (eventOrganizationId : String) (context : Datum) :
    Except NotificationErrorCode (List NotificationRecipientIntent) :=
  if !context.hasExactKeys tenantContextKeys then .error .invalidRecipientContext
  else
    match notificationIdentifier? (context.get "organizationId"), (context.get "members").array? with
    | some organizationId, some members =>
      if (context.get "scope").string? ≠ some "TENANT" || members.length > 1000 then
        .error .invalidRecipientContext
      else if organizationId ≠ eventOrganizationId then .error .crossTenantContext
      else
        (members.foldlM (resolveMember event.eventId eventOrganizationId) ⟨[], []⟩).map
          RecipientState.intents
    | _, _ => .error .invalidRecipientContext

def resolvePlatform (event : NotificationEvent) (context : Datum) :
    Except NotificationErrorCode (List NotificationRecipientIntent) :=
  if !context.hasExactKeys platformContextKeys then .error .invalidRecipientContext
  else
    match notificationIdentifier? (context.get "opsEndpointId"),
        (context.get "endpointActive").bool? with
    | some opsEndpointId, some endpointActive =>
      if (context.get "scope").string? ≠ some "PLATFORM" then .error .invalidRecipientContext
      else if !endpointActive then .ok []
      else .ok [⟨event.eventId, .opsConfig, "OUTSCAN_OPS", opsEndpointId, .telegramOps⟩]
    | _, _ => .error .invalidRecipientContext

def resolveNotificationRecipients (event : NotificationEvent) (trustedContext : Datum) :
    Except NotificationErrorCode (List NotificationRecipientIntent) :=
  match getNotificationEventDefinition event.eventType with
  | .error code => .error code
  | .ok definition =>
    if definition.scope ≠ event.subject.scope then .error .scopeMismatch
    else
      match event.subject with
      | .account userId => resolveAccount event userId trustedContext
      | .tenant organizationId => resolveTenant event organizationId trustedContext
      | .platform _ => resolvePlatform event trustedContext

/-! ### Members -/

structure TenantMember.Reads (organizationId : String) (member : Datum) (read : TenantMember) :
    Prop where
  keys : member.hasExactKeys tenantMemberKeys = true
  organization : member.get "organizationId" = .string organizationId
  user : member.get "userId" = .string read.userId ∧ isNotificationIdentifier read.userId = true
  role : ∃ role ∈ memberRoles, member.get "role" = .string role
  status : member.get "status" = .string read.status ∧ read.status ∈ memberStatuses
  email : member.get "emailEndpointId" = read.emailEndpointId.elim .null .string ∧
    ∀ id ∈ read.emailEndpointId, isNotificationIdentifier id = true
  telegram : member.get "telegramEndpointId" = read.telegramEndpointId.elim .null .string ∧
    ∀ id ∈ read.telegramEndpointId, isNotificationIdentifier id = true
  emailEnabled : member.get "technicalEmailEnabled" = .bool read.technicalEmailEnabled
  telegramEnabled : member.get "technicalTelegramEnabled" = .bool read.technicalTelegramEnabled

theorem oneOf?_eq_some {values : List String} {value : Datum} {text : String} :
    oneOf? values value = some text ↔ value = .string text ∧ text ∈ values := by
  unfold oneOf?
  rw [Option.bind_eq_some_iff]
  constructor
  · rintro ⟨found, hfound, hif⟩
    split at hif
    · cases hif
      exact ⟨Datum.string?_eq_some.mp hfound, by assumption⟩
    · cases hif
  · rintro ⟨rfl, hmem⟩
    exact ⟨text, rfl, if_pos hmem⟩

theorem endpoint?_eq_some {value : Datum} {endpoint : Option String} :
    endpoint? value = some endpoint ↔
      value = endpoint.elim .null .string ∧ ∀ id ∈ endpoint, isNotificationIdentifier id = true := by
  have hread : ∀ value : Datum, (notificationIdentifier? value).map some = some endpoint ↔
      ∃ id, endpoint = some id ∧ value = .string id ∧ isNotificationIdentifier id = true := by
    intro value
    rw [Option.map_eq_some_iff]
    constructor
    · rintro ⟨id, hid, rfl⟩
      exact ⟨id, rfl, notificationIdentifier?_eq_some.mp hid⟩
    · rintro ⟨id, rfl, hid⟩
      exact ⟨id, notificationIdentifier?_eq_some.mpr hid, rfl⟩
  unfold endpoint?
  split
  · cases endpoint <;> simp
  · rename_i hnull
    rw [hread]
    cases endpoint with
    | none => simpa using hnull
    | some id => simp

theorem tenantMember_ok {organizationId : String} {member : Datum} {read : TenantMember} :
    tenantMember organizationId member = .ok read ↔
      TenantMember.Reads organizationId member read := by
  constructor
  · intro h
    unfold tenantMember at h
    split at h
    · cases h
    · rename_i hkeys
      split at h
      · cases h
      · rename_i horganization
        split at h
        · rename_i userId role status email telegram emailEnabled telegramEnabled huser hrole hstatus
            hemail htelegram hemailEnabled htelegramEnabled
          cases h
          exact {
            keys := by simpa using hkeys
            organization := Datum.string?_eq_some.mp (not_not.mp horganization)
            user := notificationIdentifier?_eq_some.mp huser
            role := ⟨role, (oneOf?_eq_some.mp hrole).2, (oneOf?_eq_some.mp hrole).1⟩
            status := oneOf?_eq_some.mp hstatus
            email := endpoint?_eq_some.mp hemail
            telegram := endpoint?_eq_some.mp htelegram
            emailEnabled := Datum.bool?_eq_some.mp hemailEnabled
            telegramEnabled := Datum.bool?_eq_some.mp htelegramEnabled }
        · cases h
  · intro h
    obtain ⟨role, hmem, hrole⟩ := h.role
    rw [tenantMember, if_neg (by simp [h.keys]),
      if_neg (not_not_intro (Datum.string?_eq_some.mpr h.organization)),
      notificationIdentifier?_eq_some.mpr h.user, oneOf?_eq_some.mpr ⟨hrole, hmem⟩,
      oneOf?_eq_some.mpr h.status, endpoint?_eq_some.mpr h.email,
      endpoint?_eq_some.mpr h.telegram, Datum.bool?_eq_some.mpr h.emailEnabled,
      Datum.bool?_eq_some.mpr h.telegramEnabled]

/-! ### Intents -/

def channelFields : NotificationChannel → Option (String × String)
  | .emailTechnical => some ("technicalEmailEnabled", "emailEndpointId")
  | .telegramCustomer => some ("technicalTelegramEnabled", "telegramEndpointId")
  | _ => none

/-- An active member of the organization has the endpoint, and the channel is on. -/
structure EnabledEndpoint (organizationId : String) (member : Datum) (channel : NotificationChannel)
    (endpointId : String) : Prop where
  organization : member.get "organizationId" = .string organizationId
  active : member.get "status" = .string "ACTIVE"
  enabled : ∃ fields, channelFields channel = some fields ∧ member.get fields.1 = .bool true ∧
    member.get fields.2 = .string endpointId

structure Collected (eventId organizationId : String) (seen : List Datum)
    (state : RecipientState) : Prop where
  ids : state.endpointIds = state.intents.map NotificationRecipientIntent.endpointId
  distinct : state.endpointIds.Nodup
  sound : ∀ intent ∈ state.intents, intent.eventId = eventId ∧ intent.principalKind = .user ∧
    ∃ member ∈ seen, member.get "userId" = .string intent.principalId ∧
      EnabledEndpoint organizationId member intent.channel intent.endpointId

theorem mem_pushIntent {eventId userId : String} {channel : NotificationChannel} {enabled : Bool}
    {endpoint : Option String} {state : RecipientState} {id : String}
    (h : id ∈ state.endpointIds) :
    id ∈ (pushIntent eventId userId channel enabled endpoint state).endpointIds := by
  unfold pushIntent
  split
  · exact h
  · split
    · exact List.mem_append_left _ h
    · exact h

theorem pushIntent_mem {eventId userId : String} {channel : NotificationChannel}
    {state : RecipientState} {id : String} :
    id ∈ (pushIntent eventId userId channel true (some id) state).endpointIds := by
  unfold pushIntent
  dsimp only
  split
  · simp
  · rename_i hnot
    simpa using hnot

section Collect

variable {eventId organizationId : String}

theorem Collected.push {seen : List Datum} {state : RecipientState}
    (h : Collected eventId organizationId seen state) {member : Datum} (hmember : member ∈ seen)
    {userId : String} (huser : member.get "userId" = .string userId) {channel : NotificationChannel}
    {enabled : Bool} {endpoint : Option String}
    (hendpoint : ∀ id, enabled = true → endpoint = some id →
      EnabledEndpoint organizationId member channel id) :
    Collected eventId organizationId seen
      (pushIntent eventId userId channel enabled endpoint state) := by
  unfold pushIntent
  split
  · exact h
  · rename_i endpointId
    split
    · rename_i hnew
      rw [Bool.and_eq_true, decide_eq_true_eq] at hnew
      constructor
      · dsimp only
        rw [h.ids, List.map_append]
        rfl
      · dsimp only
        rw [← List.concat_eq_append]
        exact h.distinct.concat hnew.2
      · intro intent hintent
        rcases List.mem_append.mp hintent with hold | hlast
        · exact h.sound intent hold
        · rw [List.mem_singleton.mp hlast]
          exact ⟨rfl, rfl, member, hmember, huser, hendpoint endpointId hnew.1 rfl⟩
    · exact h

theorem Collected.mono {seen more : List Datum} {state : RecipientState}
    (h : Collected eventId organizationId seen state) (hmore : seen ⊆ more) :
    Collected eventId organizationId more state := by
  refine ⟨h.ids, h.distinct, fun intent hintent => ?_⟩
  obtain ⟨hevent, hkind, member, hmember, hrest⟩ := h.sound intent hintent
  exact ⟨hevent, hkind, member, hmore hmember, hrest⟩

theorem resolveMember_ok {seen : List Datum} {state next : RecipientState} {member : Datum}
    (h : Collected eventId organizationId seen state) (hmember : member ∈ seen)
    (hnext : resolveMember eventId organizationId state member = .ok next) :
    Collected eventId organizationId seen next ∧ state.endpointIds ⊆ next.endpointIds ∧
      (∃ read, TenantMember.Reads organizationId member read) ∧
      ∀ channel id, EnabledEndpoint organizationId member channel id → id ∈ next.endpointIds := by
  unfold resolveMember at hnext
  split at hnext
  · cases hnext
  · rename_i read hread
    have hreads := tenantMember_ok.mp hread
    split at hnext
    · rename_i hinactive
      cases hnext
      refine ⟨h, List.Subset.refl _, ⟨read, hreads⟩, fun channel id henabled => ?_⟩
      have hactive := henabled.active.symm.trans hreads.status.1
      exact absurd (Datum.string.inj hactive).symm hinactive
    · rename_i hactive
      cases hnext
      have hstatus : member.get "status" = .string "ACTIVE" := by
        rw [hreads.status.1, not_not.mp hactive]
      have hemail : ∀ id, read.technicalEmailEnabled = true → read.emailEndpointId = some id →
          EnabledEndpoint organizationId member .emailTechnical id := by
        intro id hon hid
        refine ⟨hreads.organization, hstatus, _, rfl, ?_, ?_⟩
        · rw [← hon]
          exact hreads.emailEnabled
        · rw [hreads.email.1, hid]
          rfl
      have htelegram : ∀ id, read.technicalTelegramEnabled = true →
          read.telegramEndpointId = some id →
          EnabledEndpoint organizationId member .telegramCustomer id := by
        intro id hon hid
        refine ⟨hreads.organization, hstatus, _, rfl, ?_, ?_⟩
        · rw [← hon]
          exact hreads.telegramEnabled
        · rw [hreads.telegram.1, hid]
          rfl
      refine ⟨(h.push hmember hreads.user.1 hemail).push hmember hreads.user.1 htelegram,
        fun id hid => mem_pushIntent (mem_pushIntent hid), ⟨read, hreads⟩, ?_⟩
      intro channel id henabled
      obtain ⟨fields, hfields, hon, hid⟩ := henabled.enabled
      cases channel with
      | emailTechnical =>
        cases hfields
        have hflag := Datum.bool.inj (hreads.emailEnabled.symm.trans hon)
        have hsame := hreads.email.1.symm.trans hid
        cases hread : read.emailEndpointId with
        | none =>
          rw [hread] at hsame
          cases hsame
        | some found =>
          rw [hread] at hsame
          cases Datum.string.inj hsame
          rw [hflag]
          exact mem_pushIntent pushIntent_mem
      | telegramCustomer =>
        cases hfields
        have hflag := Datum.bool.inj (hreads.telegramEnabled.symm.trans hon)
        have hsame := hreads.telegram.1.symm.trans hid
        cases hread : read.telegramEndpointId with
        | none =>
          rw [hread] at hsame
          cases hsame
        | some found =>
          rw [hread] at hsame
          cases Datum.string.inj hsame
          rw [hflag]
          exact pushIntent_mem
      | emailTransactional => cases hfields
      | telegramOps => cases hfields

/-- All members: each was checked, and the endpoints that are on are named once. -/
theorem resolveMembers_ok {members seen : List Datum} {state final : RecipientState}
    (h : Collected eventId organizationId seen state)
    (hseen : ∀ member ∈ seen, ∀ channel id, EnabledEndpoint organizationId member channel id →
      id ∈ state.endpointIds)
    (hfold : members.foldlM (resolveMember eventId organizationId) state = .ok final) :
    Collected eventId organizationId (seen ++ members) final ∧
      (∀ member ∈ members, ∃ read, TenantMember.Reads organizationId member read) ∧
      ∀ member ∈ seen ++ members, ∀ channel id,
        EnabledEndpoint organizationId member channel id → id ∈ final.endpointIds := by
  induction members generalizing seen state with
  | nil =>
    cases hfold
    rw [List.append_nil]
    exact ⟨h, by simp, hseen⟩
  | cons member rest ih =>
    rw [List.foldlM_cons] at hfold
    cases hnext : resolveMember eventId organizationId state member with
    | error code =>
      rw [hnext] at hfold
      cases hfold
    | ok next =>
      rw [hnext] at hfold
      obtain ⟨hcollected, hgrow, hread, hall⟩ :=
        resolveMember_ok (h.mono (List.subset_append_left seen [member])) (by simp) hnext
      have hnow : ∀ other ∈ seen ++ [member], ∀ channel id,
          EnabledEndpoint organizationId other channel id → id ∈ next.endpointIds := by
        intro other hother channel id henabled
        rcases List.mem_append.mp hother with hold | hnew
        · exact hgrow (hseen other hold channel id henabled)
        · rw [List.mem_singleton.mp hnew] at henabled
          exact hall channel id henabled
      obtain ⟨hfinal, hreads, hcomplete⟩ := ih hcollected hnow hfold
      rw [List.append_assoc] at hfinal hcomplete
      exact ⟨hfinal, List.forall_mem_cons.mpr ⟨hread, hreads⟩, hcomplete⟩

end Collect

theorem resolveTenant_ok {event : NotificationEvent} {organizationId : String}
    (hsubject : event.subject = .tenant organizationId) {context : Datum}
    {intents : List NotificationRecipientIntent}
    (h : resolveNotificationRecipients event context = .ok intents) :
    ∃ members final, context.get "members" = .array members ∧
      members.foldlM (resolveMember event.eventId organizationId) ⟨[], []⟩ = .ok final ∧
      final.intents = intents := by
  unfold resolveNotificationRecipients at h
  rw [hsubject] at h
  split at h
  · cases h
  · split at h
    · cases h
    · dsimp only at h
      unfold resolveTenant at h
      split at h
      · cases h
      · split at h
        · rename_i found members hfound hmembers
          split at h
          · cases h
          · split at h
            · cases h
            · cases hfold : members.foldlM (resolveMember event.eventId organizationId) ⟨[], []⟩ with
              | error code =>
                rw [hfold] at h
                cases h
              | ok final =>
                rw [hfold] at h
                exact ⟨members, final, Datum.array?_eq_some.mp hmembers, hfold, Except.ok.inj h⟩
        · cases h

/-- The recipients of a tenant event are the enabled endpoints of its active members,
each once; one member who is not of the organization or not well formed, and there
are none. -/
theorem tenant_recipients {event : NotificationEvent} {organizationId : String}
    (hsubject : event.subject = .tenant organizationId) {context : Datum} {members : List Datum}
    (hmembers : context.get "members" = .array members) :
    (∀ intents, resolveNotificationRecipients event context = .ok intents →
      (intents.map NotificationRecipientIntent.endpointId).Nodup ∧
      (∀ intent ∈ intents, intent.eventId = event.eventId ∧ intent.principalKind = .user ∧
        ∃ member ∈ members, member.get "userId" = .string intent.principalId ∧
          EnabledEndpoint organizationId member intent.channel intent.endpointId) ∧
      ∀ member ∈ members, ∀ channel id, EnabledEndpoint organizationId member channel id →
        (intents.map NotificationRecipientIntent.endpointId).count id = 1) ∧
    ((∃ member ∈ members, ¬ ∃ read, TenantMember.Reads organizationId member read) →
      ∃ code, resolveNotificationRecipients event context = .error code) := by
  have hspec : ∀ intents, resolveNotificationRecipients event context = .ok intents →
      ∃ final : RecipientState, final.intents = intents ∧
        Collected event.eventId organizationId members final ∧
        (∀ member ∈ members, ∃ read, TenantMember.Reads organizationId member read) ∧
        ∀ member ∈ members, ∀ channel id, EnabledEndpoint organizationId member channel id →
          id ∈ final.endpointIds := by
    intro intents h
    obtain ⟨found, final, hfound, hfold, hintents⟩ := resolveTenant_ok hsubject h
    cases Datum.array.inj (hmembers.symm.trans hfound)
    have hstart : Collected event.eventId organizationId [] ⟨[], []⟩ :=
      ⟨rfl, List.nodup_nil, by simp⟩
    exact ⟨final, hintents, resolveMembers_ok hstart (by simp) hfold⟩
  constructor
  · intro intents h
    obtain ⟨final, rfl, hcollected, -, hcomplete⟩ := hspec intents h
    have hdistinct := hcollected.ids ▸ hcollected.distinct
    refine ⟨hdistinct, hcollected.sound, fun member hmember channel id henabled => ?_⟩
    exact List.count_eq_one_of_mem hdistinct
      (hcollected.ids ▸ hcomplete member hmember channel id henabled)
  · rintro ⟨member, hmember, hbad⟩
    cases hresult : resolveNotificationRecipients event context with
    | error code => exact ⟨code, rfl⟩
    | ok intents =>
      obtain ⟨-, -, -, hreads, -⟩ := hspec intents hresult
      exact absurd (hreads member hmember) hbad

def sampleMember (organizationId endpointId : String) : Datum :=
  .object [
    ("organizationId", .string organizationId),
    ("userId", .string "user_1"),
    ("role", .string "ADMIN"),
    ("status", .string "ACTIVE"),
    ("emailEndpointId", .string endpointId),
    ("telegramEndpointId", .null),
    ("technicalEmailEnabled", .bool true),
    ("technicalTelegramEnabled", .bool true)]

def sampleTenantContext (members : List Datum) : Datum :=
  .object [
    ("scope", .string "TENANT"),
    ("organizationId", .string "org_1"),
    ("members", .array members)]

def sampleTenantEvent : NotificationEvent :=
  { eventId := "event_1", eventType := "FINDING_CREATED", subject := .tenant "org_1" }

/-- A shared endpoint is named once; a member of another organization, who comes
last, leaves no intents. -/
theorem tenant_recipients_sample :
    let intents : List NotificationRecipientIntent :=
      [⟨"event_1", .user, "user_1", "endpoint_1", .emailTechnical⟩,
        ⟨"event_1", .user, "user_1", "endpoint_2", .emailTechnical⟩]
    resolveNotificationRecipients sampleTenantEvent (sampleTenantContext
        [sampleMember "org_1" "endpoint_1", sampleMember "org_1" "endpoint_2",
          sampleMember "org_1" "endpoint_1"]) = .ok intents ∧
      (intents.map NotificationRecipientIntent.endpointId).count "endpoint_1" = 1 ∧
    ∃ code, resolveNotificationRecipients sampleTenantEvent
      (sampleTenantContext [sampleMember "org_1" "endpoint_1", sampleMember "org_2" "endpoint_2"]) =
        .error code := by
  intro intents
  have hsubject : sampleTenantEvent.subject = .tenant "org_1" := rfl
  have hmembers : ∀ members, (sampleTenantContext members).get "members" = .array members :=
    fun _ => rfl
  have hresolved : resolveNotificationRecipients sampleTenantEvent (sampleTenantContext
      [sampleMember "org_1" "endpoint_1", sampleMember "org_1" "endpoint_2",
        sampleMember "org_1" "endpoint_1"]) = .ok intents := rfl
  refine ⟨hresolved, ?_, ?_⟩
  · obtain ⟨-, -, hall⟩ := (tenant_recipients hsubject (hmembers _)).1 intents hresolved
    exact hall _ List.mem_cons_self .emailTechnical "endpoint_1" ⟨rfl, rfl, _, rfl, rfl, rfl⟩
  · refine (tenant_recipients hsubject (hmembers [sampleMember "org_1" "endpoint_1",
      sampleMember "org_2" "endpoint_2"])).2 ⟨sampleMember "org_2" "endpoint_2", by simp, ?_⟩
    rintro ⟨read, hread⟩
    have horganization := Datum.string.inj hread.organization
    exact absurd horganization (by decide)

end Outscan
