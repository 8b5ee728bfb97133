import EdgeSync.Storage.Notifications

/-!
# Organizations: messaging groups, organization records, and `DeleteOrganization`

The `messaging-groups` collection maps an org to the messaging group it is served by, and the
`organizations` collection holds the record of each org, both keyed by the org's id and
stamped by the server on every write.  `DeleteOrganization` cleans the store of an org: its
messaging group, then its destinations, its notifications and its objects, each by one
`removeAll` on the org's id.

Main results:
* `StoreOrganization` always succeeds, returns the timestamp of the record it wrote, and
  `RetrieveOrganizationInfo` then returns that record (`retrieveOrganizationInfo_after_store`);
* after `DeleteOrganization`, a document of any of the four collections it cleans is left
  exactly when it was there and belongs to another org (`mem_deleteOrganization`); the
  other collections, the payload files among them, are left as they were
  (`deleteOrganization_files` and the other frame lemmas).
-/

namespace EdgeSync

namespace MongoStorage

/-! ### Messaging groups -/

/-- Modelled from the spec: `upsert` on `messaging-groups`; a `last-update` left at zero is
stamped by the server. -/
def upsertMessagingGroup (s : MongoStorage) (filter : MessagingGroupObject → Bool)
    (doc : MessagingGroupObject) : Except MgoError MongoStorage :=
  let doc := if doc.lastUpdate = 0 then { doc with lastUpdate := s.clock + 1 } else doc
  (upsertDoc MessagingGroupObject.id filter doc s.messagingGroups).map fun groups =>
    { s with messagingGroups := groups, clock := s.clock + 1 }

/-- `StoreOrgToMessagingGroup`. -/
def storeOrgToMessagingGroup (s : MongoStorage) (orgID messagingGroup : String) :
    Except SyncServiceError Unit × MongoStorage :=
  match s.upsertMessagingGroup (fun g => g.id == orgID) ⟨orgID, messagingGroup, 0⟩ with
  | .ok s => (.ok (), s)
  | .error e =>
    (.error (.error s!"Failed to store organization's messaging group. Error: {e.text}."), s)

/-- `DeleteOrgToMessagingGroup`: `removeAll` does not fail in the model, nor does the call. -/
def deleteOrgToMessagingGroup (s : MongoStorage) (orgID : String) : MongoStorage :=
  { s with messagingGroups := s.messagingGroups.filter fun g => !(g.id == orgID) }

/-- `RetrieveMessagingGroup`: the empty name when the org has no messaging group. -/
def retrieveMessagingGroup (s : MongoStorage) (orgID : String) : Except SyncServiceError String :=
  match s.messagingGroups.find? (fun g => g.id == orgID) with
  | some result => .ok result.groupName
  | none => .ok ""

/-- `common.MessagingGroup`. -/
structure MessagingGroup where
  orgID : String
  groupName : String
deriving DecidableEq, Repr

/-- `RetrieveUpdatedMessagingGroups`.  The time is given as the server timestamp
`bson.NewMongoTimestamp(time, 1)` makes of it. -/
def retrieveUpdatedMessagingGroups (s : MongoStorage) (timestamp : Nat) :
    Except SyncServiceError (List MessagingGroup) :=
  .ok ((s.messagingGroups.filter fun g => decide (timestamp ≤ g.lastUpdate)).map fun g =>
    ⟨g.id, g.groupName⟩)

/-! ### Organization records -/

/-- Modelled from the spec: `upsert` on `organizations`; a `last-update` left at zero is
stamped by the server. -/
def upsertOrganization (s : MongoStorage) (filter : OrganizationObject → Bool)
    (doc : OrganizationObject) : Except MgoError MongoStorage :=
  let doc := if doc.lastUpdate = 0 then { doc with lastUpdate := s.clock + 1 } else doc
  (upsertDoc OrganizationObject.id filter doc s.organizations).map fun organizations =>
    { s with organizations := organizations, clock := s.clock + 1 }

/-- Modelled from the spec: `fetchOne` on `organizations` by `_id`. -/
def fetchOrganization (s : MongoStorage) (id : String) : Except MgoError OrganizationObject :=
  match s.organizations.find? (fun o => o.id == id) with
  | some o => .ok o
  | none => .error .notFound

/-- `StoreOrganization`: the timestamp of the record stored, read back. -/
def storeOrganization (s : MongoStorage) (org : Organization) :
    Except SyncServiceError Nat × MongoStorage :=
  match s.upsertOrganization (fun o => o.id == org.orgID) ⟨org.orgID, org, 0⟩ with
  | .error e => (.error (.error s!"Failed to store organization's info. Error: {e.text}."), s)
  | .ok s =>
    match s.fetchOrganization org.orgID with
    | .error e => (.error (.error e.text), s)
    | .ok object => (.ok object.lastUpdate, s)

/-- `common.StoredOrganization`: a record and its timestamp. -/
structure StoredOrganization where
  org : Organization
  timestamp : Nat
deriving DecidableEq, Repr

/-- `RetrieveOrganizationInfo`: `none` when the org has no record. -/
def retrieveOrganizationInfo (s : MongoStorage) (orgID : String) :
    Except SyncServiceError (Option StoredOrganization) :=
  match s.fetchOrganization orgID with
  | .ok result => .ok (some ⟨result.organization, result.lastUpdate⟩)
  | .error .notFound => .ok none
  | .error e => .error (.error e.text)

/-- `DeleteOrganizationInfo`. -/
def deleteOrganizationInfo (s : MongoStorage) (orgID : String) : MongoStorage :=
  { s with organizations := s.organizations.filter fun o => !(o.id == orgID) }

/-- `RetrieveOrganizations`. -/
def retrieveOrganizations (s : MongoStorage) : Except SyncServiceError (List StoredOrganization) :=
  .ok (s.organizations.map fun o => ⟨o.organization, o.lastUpdate⟩)

/-- `RetrieveUpdatedOrganizations`.  The time is given as the server timestamp
`bson.NewMongoTimestamp(time, 1)` makes of it. -/
def retrieveUpdatedOrganizations (s : MongoStorage) (timestamp : Nat) :
    Except SyncServiceError (List StoredOrganization) :=
  .ok ((s.organizations.filter fun o => decide (timestamp ≤ o.lastUpdate)).map fun o =>
    ⟨o.organization, o.lastUpdate⟩)

/-- `StoreOrganization` never fails, returns the timestamp of the record it stored, and
`RetrieveOrganizationInfo` then returns that record. -/
theorem retrieveOrganizationInfo_after_store (s : MongoStorage) (org : Organization) :
    (s.storeOrganization org).1 = .ok (s.clock + 1) ∧
      (s.storeOrganization org).2.retrieveOrganizationInfo org.orgID =
        .ok (some ⟨org, s.clock + 1⟩) := by
  obtain ⟨docs, hu, hf⟩ := upsertDoc_by_key OrganizationObject.id
    ⟨org.orgID, org, s.clock + 1⟩ s.organizations
  simp only [storeOrganization, upsertOrganization, if_true, hu, Except.map, fetchOrganization,
    retrieveOrganizationInfo, hf, and_self]

/-- `StoreOrgToMessagingGroup` writes only the `messaging-groups` collection, with the upsert
of the group, and ticks the clock. -/
theorem storeOrgToMessagingGroup_only (s : MongoStorage) (orgID messagingGroup : String) :
    ∃ gs, upsertDoc MessagingGroupObject.id (fun g => g.id == orgID)
        ⟨orgID, messagingGroup, s.clock + 1⟩ s.messagingGroups = .ok gs ∧
      (s.storeOrgToMessagingGroup orgID messagingGroup).2 =
        { s with messagingGroups := gs, clock := s.clock + 1 } := by
  obtain ⟨docs, hu, -⟩ := upsertDoc_by_key MessagingGroupObject.id
    ⟨orgID, messagingGroup, s.clock + 1⟩ s.messagingGroups
  simp only [storeOrgToMessagingGroup, upsertMessagingGroup, if_true, hu, Except.map]
  exact ⟨_, rfl, rfl⟩

/-- `StoreOrganization` writes only the `organizations` collection, with the upsert of the
record, and ticks the clock. -/
theorem storeOrganization_only (s : MongoStorage) (org : Organization) :
    ∃ os, upsertDoc OrganizationObject.id (fun o => o.id == org.orgID)
        ⟨org.orgID, org, s.clock + 1⟩ s.organizations = .ok os ∧
      (s.storeOrganization org).2 = { s with organizations := os, clock := s.clock + 1 } := by
  obtain ⟨docs, hu, hf⟩ := upsertDoc_by_key OrganizationObject.id
    ⟨org.orgID, org, s.clock + 1⟩ s.organizations
  simp only [storeOrganization, upsertOrganization, if_true, hu, Except.map, fetchOrganization, hf]
  exact ⟨_, rfl, rfl⟩

/-! ### `DeleteOrganization` -/

/-- `DeleteOrganization`: the messaging group, then the destinations, the notifications and
the objects of the org.  No `removeAll` fails in the model, so neither does the call. -/
def deleteOrganization (s : MongoStorage) (orgID : String) : MongoStorage :=
  let s := s.deleteOrgToMessagingGroup orgID
  let s := { s with destinations := s.destinations.filter fun d => !(d.destination.destOrgID == orgID) }
  let s := s.removeNotifications fun n => n.notification.destOrgID == orgID
  s.removeObjects fun o => o.metaData.destOrgID == orgID

/-- What `DeleteOrganization` leaves of each collection it cleans. -/
theorem mem_deleteOrganization (s : MongoStorage) (orgID : String) :
    (∀ g, g ∈ (s.deleteOrganization orgID).messagingGroups ↔ g ∈ s.messagingGroups ∧ g.id ≠ orgID) ∧
    (∀ d, d ∈ (s.deleteOrganization orgID).destinations ↔
      d ∈ s.destinations ∧ d.destination.destOrgID ≠ orgID) ∧
    (∀ n, n ∈ (s.deleteOrganization orgID).notifications ↔
      n ∈ s.notifications ∧ n.notification.destOrgID ≠ orgID) ∧
    (∀ o, o ∈ (s.deleteOrganization orgID).objects ↔ o ∈ s.objects ∧ o.metaData.destOrgID ≠ orgID) := by
  simp [deleteOrganization, deleteOrgToMessagingGroup, removeNotifications, removeObjects]

@[simp] theorem deleteOrganization_files (s : MongoStorage) (orgID : String) :
    (s.deleteOrganization orgID).files = s.files := rfl

@[simp] theorem deleteOrganization_openFiles (s : MongoStorage) (orgID : String) :
    (s.deleteOrganization orgID).openFiles = s.openFiles := rfl

@[simp] theorem deleteOrganization_webhooks (s : MongoStorage) (orgID : String) :
    (s.deleteOrganization orgID).webhooks = s.webhooks := rfl

@[simp] theorem deleteOrganization_organizations (s : MongoStorage) (orgID : String) :
    (s.deleteOrganization orgID).organizations = s.organizations := rfl

/-- After `DeleteOrganization`, the org has no messaging group, no destination, and no
notification for a destination of its own. -/
theorem retrieve_after_deleteOrganization (s : MongoStorage) (orgID destType destID : String)
    (now : Now) (retrieveReceived : Bool) :
    (s.deleteOrganization orgID).retrieveMessagingGroup orgID = .ok "" ∧
      (∀ d, (s.deleteOrganization orgID).retrieveDestination orgID destType destID = .ok d →
        d.destOrgID ≠ orgID) ∧
      ((destType ≠ "" ∨ destID ≠ "") →
        (s.deleteOrganization orgID).retrieveNotifications now orgID destType destID
          retrieveReceived = .ok []) := by
  obtain ⟨hg, hdst, hn, -⟩ := mem_deleteOrganization s orgID
  refine ⟨?_, fun d => ?_, fun hd => ?_⟩
  · unfold retrieveMessagingGroup
    rw [List.find?_eq_none.mpr fun g hg' => by simpa using ((hg g).mp hg').2]
  · unfold retrieveDestination
    split
    · rename_i r hr
      intro h
      cases h
      unfold fetchDestination at hr
      split at hr
      · cases hr; exact ((hdst _).mp (List.mem_of_find?_eq_some ‹_›)).2
      · cases hr
    · intro h; cases h
  · cases hl : (s.deleteOrganization orgID).retrieveNotifications now orgID destType destID
      retrieveReceived with
    | error e => cases hl
    | ok l =>
      suffices l = [] by rw [this]
      rw [List.eq_nil_iff_forall_not_mem]
      intro x hx
      obtain ⟨⟨r, hr, rfl⟩, hq⟩ := (mem_retrieveNotifications hl x).mp hx
      exact ((hn r).mp hr).2 (retrieveNotificationsQuery_dest hd hq).1

/-! ### Runs of the notification engine -/

/-- A call that writes the `notifications` collection. -/
inductive NotificationCall
  | updateNotificationRecord (now : Now) (resendInterval : Int) (notification : Notification)
  | updateNotificationResendTime (now : Now) (resendInterval : Int) (notification : Notification)
  | deleteNotificationRecords (orgID objectType objectID destType destID : String)
  | deleteOrganization (orgID : String)

/-- The store a call leaves. -/
def NotificationCall.run (s : MongoStorage) : NotificationCall → MongoStorage
  | .updateNotificationRecord now resendInterval notification =>
    (s.updateNotificationRecord now resendInterval notification).2
  | .updateNotificationResendTime now resendInterval notification =>
    (s.updateNotificationResendTime now resendInterval notification).2
  | .deleteNotificationRecords orgID objectType objectID destType destID =>
    s.deleteNotificationRecords orgID objectType objectID destType destID
  | .deleteOrganization orgID => s.deleteOrganization orgID

/-- The instant a call schedules rows at, if it schedules any. -/
def NotificationCall.resendAt? : NotificationCall → Option Int
  | .updateNotificationRecord now resendInterval _ => some (resendAt now resendInterval)
  | .updateNotificationResendTime now resendInterval _ => some (resendAt now resendInterval)
  | _ => none

/-- **The invariant of the notification engine**: one row per key, under the key of its
notification, and every row scheduled. -/
structure NotificationsInv (s : MongoStorage) : Prop where
  keyed : NotificationsKeyed s
  scheduled : ∀ n ∈ s.notifications, n.notification.resendTime ≠ 0

theorem notificationsInv_empty : NotificationsInv MongoStorage.empty :=
  ⟨⟨List.nodup_nil, fun _ h => nomatch h⟩, fun _ h => nomatch h⟩

theorem NotificationsInv.sublist (h : NotificationsInv s)
    (hs : s'.notifications.Sublist s.notifications) : NotificationsInv s' :=
  ⟨h.keyed.of_sublist hs, fun n hn => h.scheduled n (hs.subset hn)⟩

/-- **Step lemma.** -/
theorem NotificationsInv.run (h : NotificationsInv s) (c : NotificationCall)
    (hc : ∀ t, c.resendAt? = some t → t ≠ 0) : NotificationsInv (NotificationCall.run s c) := by
  cases c with
  | updateNotificationRecord now resendInterval notification =>
    refine ⟨(h.keyed.updateNotificationRecord now resendInterval notification).1, fun r hr => ?_⟩
    rcases mem_updateNotificationRecord hr with hr | rfl
    · exact h.scheduled r hr
    · show (MongoStorage.scheduled now resendInterval notification).resendTime ≠ 0
      unfold MongoStorage.scheduled
      split
      · exact hc _ rfl
      · assumption
  | updateNotificationResendTime now resendInterval notification =>
    refine ⟨h.keyed.updateNotificationResendTime now resendInterval notification, fun r hr => ?_⟩
    rcases mem_updateNotificationResendTime hr with hr | ⟨x, -, rfl⟩
    · exact h.scheduled r hr
    · exact hc _ rfl
  | deleteNotificationRecords => exact h.sublist (List.filter_sublist _)
  | deleteOrganization => exact h.sublist (List.filter_sublist _)

/-- **Run lemma.**  Over every run of the notification engine from the empty store in which
no call schedules a row at the instant zero, the store holds one row per key, under the key
of its notification, and every row is scheduled. -/
theorem notificationsInv_runs (calls : List NotificationCall)
    (hc : ∀ c ∈ calls, ∀ t, c.resendAt? = some t → t ≠ 0) :
    NotificationsInv (calls.foldl NotificationCall.run MongoStorage.empty) := by
  suffices ∀ (calls : List NotificationCall) (s : MongoStorage), NotificationsInv s →
      (∀ c ∈ calls, ∀ t, c.resendAt? = some t → t ≠ 0) →
      NotificationsInv (calls.foldl NotificationCall.run s) from
    this calls _ notificationsInv_empty hc
  intro calls
  induction calls with
  | nil => exact fun _ h _ => h
  | cons c calls ih =>
    intro s h hc
    exact ih _ (h.run c (hc c (List.mem_cons_self c calls)))
      fun c' hc' => hc c' (List.mem_cons_of_mem c hc')

/-- A notification stored with a resend interval of five seconds at the instant 1000 s. -/
theorem notificationsInv_runs_scheduled :
    let calls : List NotificationCall := [.updateNotificationRecord ⟨1000000000000, ""⟩ 5
      ⟨"obj", "type", "org", "dest", "edge", Update, 0⟩]
    (∀ c ∈ calls, ∀ t, c.resendAt? = some t → t ≠ 0) ∧
      NotificationsInv (calls.foldl NotificationCall.run MongoStorage.empty) := by
  intro calls
  have hc : ∀ c ∈ calls, ∀ t, c.resendAt? = some t → t ≠ 0 := by
    simp only [calls, List.mem_singleton, forall_eq, NotificationCall.resendAt?, Option.some.injEq]
    rintro t rfl
    decide
  exact ⟨hc, notificationsInv_runs calls hc⟩

end MongoStorage

end EdgeSync
