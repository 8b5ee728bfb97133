import EdgeSync.Storage.Objects

/-!
# The notification engine: the `notifications` collection

A notification row tells the transport to send an update, a consumption or a deletion of an
object to one destination, and when to send it again (`resendTime`).  Each row is stored
under its key `NotKey` (`getNotificationCollectionID`).  `UpdateNotificationRecord` upserts
a row, scheduling one that has no resend time `6 × ResendInterval` seconds from now (§4.4);
`UpdateNotificationResendTime` moves the resend time of a row to that instant;
`DeleteNotificationRecords` removes rows in bulk; `RetrieveNotifications`,
`RetrievePendingNotifications` and `GetObjectsForDestination` select rows by status,
destination and resend time.

Main results:
* the store keeps one row per key, under the key of the notification it holds
  (`NotificationsKeyed`, kept by every write of the engine);
* `UpdateNotificationRecord` followed by `RetrieveNotificationRecord` returns the
  notification it stored (`retrieveNotificationRecord_after_update`);
* a notification stored with no resend time is returned by `RetrieveNotifications` without a
  destination exactly from `6 × ResendInterval` seconds on, unless it is `Getdata`
  (`updateNotificationRecord_due_iff`);
* the status variable of the loop of `GetObjectsForDestination` never carries over from one
  row to the next (`getObjectsForDestination_eq_map`).

`ResendInterval` is a parameter of the calls, and the reading of the wall clock a call
takes is its `now`.
-/

namespace EdgeSync

namespace MongoStorage

/-! ### The `notifications` collection -/

/-- Modelled from the spec: `fetchOne` on `notifications` by `_id`. -/
def fetchNotification (s : MongoStorage) (id : String) : Except MgoError NotificationObject :=
  match s.notifications.find? (fun n => n.id == id) with
  | some n => .ok n
  | none => .error .notFound

/-- Modelled from the spec: `update` on `notifications`: the first row matching `filter` is
rewritten; `NotFound` when none matches. -/
def updateNotification (s : MongoStorage) (filter : NotificationObject → Bool)
    (set : NotificationObject → NotificationObject) : Except MgoError MongoStorage :=
  match updateFirst filter set s.notifications with
  | some notifications => .ok { s with notifications := notifications }
  | none => .error .notFound

/-- Modelled from the spec: `upsert` on `notifications`. -/
def upsertNotification (s : MongoStorage) (filter : NotificationObject → Bool)
    (doc : NotificationObject) : Except MgoError MongoStorage :=
  (upsertDoc NotificationObject.id filter doc s.notifications).map fun notifications =>
    { s with notifications := notifications }

/-- Modelled from the spec: `removeAll` on `notifications`. -/
def removeNotifications (s : MongoStorage) (filter : NotificationObject → Bool) : MongoStorage :=
  { s with notifications := s.notifications.filter fun n => !filter n }

/-! ### The calls -/

/-- The resend instant of a row scheduled now:
`time.Now().Unix() + int64(common.Configuration.ResendInterval*6)`. -/
def resendAt (now : Now) (resendInterval : Int) : Int := now.unix + resendInterval * 6

/-- The notification `UpdateNotificationRecord` stores: one with no resend time is
scheduled at `resendAt`. -/
def scheduled (now : Now) (resendInterval : Int) (notification : Notification) : Notification :=
  if notification.resendTime = 0 then { notification with resendTime := resendAt now resendInterval }
  else notification

/-- `UpdateNotificationRecord`.  The upsert matches the row by key and destination. -/
def updateNotificationRecord (s : MongoStorage) (now : Now) (resendInterval : Int)
    (notification : Notification) : Except SyncServiceError Unit × MongoStorage :=
  let id := getNotificationCollectionID notification
  let notification := scheduled now resendInterval notification
  match s.upsertNotification
      (fun n => n.id == id && n.notification.destOrgID == notification.destOrgID &&
        n.notification.destID == notification.destID &&
        n.notification.destType == notification.destType)
      ⟨id, notification⟩ with
  | .ok s => (.ok (), s)
  | .error e => (.error (.error s!"Failed to update notification record. Error: {e.text}."), s)

/-- `UpdateNotificationResendTime`. -/
def updateNotificationResendTime (s : MongoStorage) (now : Now) (resendInterval : Int)
    (notification : Notification) : Except SyncServiceError Unit × MongoStorage :=
  let id := getNotificationCollectionID notification
  match s.updateNotification (fun n => n.id == id)
      (fun n => { n with notification :=
        { n.notification with resendTime := resendAt now resendInterval } }) with
  | .ok s => (.ok (), s)
  | .error e =>
    (.error (.error s!"Failed to update notification resend time. Error: {e.text}."), s)

/-- `RetrieveNotificationRecord`. -/
def retrieveNotificationRecord (s : MongoStorage) (orgID objectType objectID destType destID : String) :
    Except SyncServiceError Notification :=
  match s.fetchNotification (createNotificationCollectionID orgID objectType objectID destType destID) with
  | .ok result => .ok result.notification
  | .error e => .error (.error s!"Failed to fetch the notification. Error: {e.text}.")

/-- The rows `DeleteNotificationRecords` removes: the row of the key when the object and the
destination are both given, else the rows of the object, else the rows of the
destination. -/
def deleteNotificationRecordsQuery (orgID objectType objectID destType destID : String)
    (n : NotificationObject) : Bool :=
  if objectType != "" && objectID != "" then
    if destType != "" && destID != "" then
      n.id == createNotificationCollectionID orgID objectType objectID destType destID
    else
      n.notification.destOrgID == orgID && n.notification.objectType == objectType &&
        n.notification.objectID == objectID
  else
    n.notification.destOrgID == orgID && n.notification.destType == destType &&
      n.notification.destID == destID

/-- `DeleteNotificationRecords`: `removeAll` does not fail in the model, nor does the call. -/
def deleteNotificationRecords (s : MongoStorage) (orgID objectType objectID destType destID : String) :
    MongoStorage :=
  s.removeNotifications (deleteNotificationRecordsQuery orgID objectType objectID destType destID)

/-- The rows `RetrieveNotifications` fetches.  With no destination: every row in `Getdata`,
and every row due at `currentTime` in one of the statuses that are resent.  With a
destination: its rows in the statuses listed, which take `ReceivedByDestination` and `Data`
only when `retrieveReceived`. -/
def retrieveNotificationsQuery (currentTime : Int) (orgID destType destID : String)
    (retrieveReceived : Bool) (n : Notification) : Bool :=
  if destType == "" && destID == "" then
    n.status == Getdata ||
      decide (n.resendTime ≤ currentTime) &&
        [Update, Received, Consumed, Data, Delete, Deleted].contains n.status
  else if retrieveReceived then
    [Update, Received, Consumed, Getdata, Data, ReceivedByDestination, Delete, Deleted].contains
        n.status &&
      n.destOrgID == orgID && n.destID == destID && n.destType == destType
  else
    [Update, Received, Consumed, Getdata, Delete, Deleted].contains n.status &&
      n.destOrgID == orgID && n.destID == destID && n.destType == destType

/-- `RetrieveNotifications`. -/
def retrieveNotifications (s : MongoStorage) (now : Now) (orgID destType destID : String)
    (retrieveReceived : Bool) : Except SyncServiceError (List Notification) :=
  .ok ((s.notifications.filter fun n =>
      retrieveNotificationsQuery now.unix orgID destType destID retrieveReceived n.notification).map
    NotificationObject.notification)

/-- The rows `RetrievePendingNotifications` fetches: the pending ones of the org, and of the
destination when one is given. -/
def retrievePendingNotificationsQuery (orgID destType destID : String) (n : Notification) : Bool :=
  if destType == "" && destID == "" then
    [UpdatePending, ConsumedPending, DeletePending, DeletedPending].contains n.status &&
      n.destOrgID == orgID
  else
    [UpdatePending, ConsumedPending, DeletePending, DeletedPending].contains n.status &&
      n.destOrgID == orgID && n.destID == destID && n.destType == destType

/-- `RetrievePendingNotifications`. -/
def retrievePendingNotifications (s : MongoStorage) (orgID destType destID : String) :
    Except SyncServiceError (List Notification) :=
  .ok ((s.notifications.filter fun n =>
      retrievePendingNotificationsQuery orgID destType destID n.notification).map
    NotificationObject.notification)

/-! ### `GetObjectsForDestination` -/

/-- `common.ObjectStatus`. -/
structure ObjectStatus where
  orgID : String
  objectType : String
  objectID : String
  status : String
deriving DecidableEq, Repr

/-- The `switch` of `GetObjectsForDestination`: the status of the object at the destination,
from the status of its notification.  A status the `switch` does not list leaves the loop's
variable as it was, `previous`. -/
def deliveryStatusOf (previous status : String) : String :=
  if status = Update then Delivering
  else if status = UpdatePending then Delivering
  else if status = Updated then Delivering
  else if status = ReceivedByDestination then Delivered
  else if status = ConsumedByDestination then Consumed
  else if status = Error then Error
  else previous

/-- The loop of `GetObjectsForDestination`, with its variable `status`. -/
def objectStatuses (orgID : String) : String → List Notification → List ObjectStatus
  | _, [] => []
  | status, n :: ns =>
    let status := deliveryStatusOf status n.status
    ⟨orgID, n.objectType, n.objectID, status⟩ :: objectStatuses orgID status ns

/-- The statuses of the rows `GetObjectsForDestination` fetches. -/
def inUseStatuses : List String :=
  [Update, UpdatePending, Updated, ReceivedByDestination, ConsumedByDestination, Error]

/-- The rows `GetObjectsForDestination` fetches: those of the destination in use. -/
def getObjectsForDestinationQuery (orgID destType destID : String) (n : Notification) : Bool :=
  inUseStatuses.contains n.status && n.destOrgID == orgID && n.destID == destID &&
    n.destType == destType

/-- `GetObjectsForDestination`. -/
def getObjectsForDestination (s : MongoStorage) (orgID destType destID : String) :
    Except SyncServiceError (List ObjectStatus) :=
  .ok (objectStatuses orgID ""
    ((s.notifications.filter fun n =>
      getObjectsForDestinationQuery orgID destType destID n.notification).map
      NotificationObject.notification))

theorem deliveryStatusOf_of_mem {status : String} (h : status ∈ inUseStatuses) (previous : String) :
    deliveryStatusOf previous status = deliveryStatusOf "" status := by
  simp only [inUseStatuses, List.mem_cons, List.mem_singleton, List.not_mem_nil, or_false] at h
  unfold deliveryStatusOf
  rcases h with rfl | rfl | rfl | rfl | rfl | rfl <;> rfl

theorem objectStatuses_eq_map (orgID : String) :
    ∀ (previous : String) (ns : List Notification), (∀ n ∈ ns, n.status ∈ inUseStatuses) →
      objectStatuses orgID previous ns =
        ns.map fun n => ⟨orgID, n.objectType, n.objectID, deliveryStatusOf "" n.status⟩
  | _, [], _ => rfl
  | previous, n :: ns, h => by
    simp only [objectStatuses, List.map_cons, List.cons.injEq, ObjectStatus.mk.injEq, true_and]
    rw [deliveryStatusOf_of_mem (h n (List.mem_cons_self n ns))]
    exact ⟨rfl, objectStatuses_eq_map orgID _ ns fun n' hn' => h n' (List.mem_cons_of_mem n hn')⟩

/-- Every row `GetObjectsForDestination` fetches is in a status its `switch` lists, so each
object's status is the one of its own notification. -/
theorem getObjectsForDestination_eq_map (s : MongoStorage) (orgID destType destID : String) :
    s.getObjectsForDestination orgID destType destID =
      .ok ((s.notifications.filter fun n =>
          getObjectsForDestinationQuery orgID destType destID n.notification).map fun n =>
        ⟨orgID, n.notification.objectType, n.notification.objectID,
          deliveryStatusOf "" n.notification.status⟩) := by
  unfold getObjectsForDestination
  rw [objectStatuses_eq_map, List.map_map]
  · rfl
  · intro n hn
    obtain ⟨r, hr, rfl⟩ := List.mem_map.mp hn
    have hq := (List.mem_filter.mp hr).2
    simp only [getObjectsForDestinationQuery, Bool.and_eq_true, List.elem_iff, List.contains] at hq
    exact hq.1.1.1

/-! ### What the writes change -/

/-- `UpdateNotificationRecord` writes only the `notifications` collection. -/
theorem updateNotificationRecord_only (s : MongoStorage) (now : Now) (resendInterval : Int)
    (n : Notification) :
    ∃ ns, (s.updateNotificationRecord now resendInterval n).2 = { s with notifications := ns } := by
  unfold MongoStorage.updateNotificationRecord upsertNotification
  dsimp only
  split
  · rename_i s' hu; obtain ⟨ns, -, rfl⟩ := exists_of_map_eq_ok hu; exact ⟨ns, rfl⟩
  · exact ⟨s.notifications, rfl⟩

/-- `UpdateNotificationResendTime` writes only the `notifications` collection. -/
theorem updateNotificationResendTime_only (s : MongoStorage) (now : Now) (resendInterval : Int)
    (n : Notification) :
    ∃ ns, (s.updateNotificationResendTime now resendInterval n).2 = { s with notifications := ns } := by
  unfold MongoStorage.updateNotificationResendTime updateNotification
  dsimp only
  split
  · rename_i s' hu
    split at hu
    · cases hu; exact ⟨_, rfl⟩
    · cases hu
  · exact ⟨s.notifications, rfl⟩

/-! ### One row per key -/

/-- The rows have distinct ids, each the key of the notification it holds. -/
structure NotificationsKeyed (s : MongoStorage) : Prop where
  ids : (s.notifications.map NotificationObject.id).Nodup
  keys : ∀ n ∈ s.notifications, n.id = getNotificationCollectionID n.notification

variable {s s' : MongoStorage}

theorem NotificationsKeyed.of_sublist (h : NotificationsKeyed s)
    (hs : s'.notifications.Sublist s.notifications) : NotificationsKeyed s' :=
  ⟨(hs.map _).nodup h.ids, fun n hn => h.keys n (hs.subset hn)⟩

theorem NotificationsKeyed.removeNotifications (h : NotificationsKeyed s)
    (filter : NotificationObject → Bool) : NotificationsKeyed (s.removeNotifications filter) :=
  h.of_sublist (List.filter_sublist _)

/-- Rewriting the first row a filter matches into a row under the same id, keyed, keeps the
store keyed, and leaves the new row where the filter's first match was. -/
theorem NotificationsKeyed.updateFirst (h : NotificationsKeyed s) {filter : NotificationObject → Bool}
    {set : NotificationObject → NotificationObject} {ns : List NotificationObject}
    (hu : EdgeSync.updateFirst filter set s.notifications = some ns)
    (hset : ∀ n ∈ s.notifications, filter n = true →
      (set n).id = n.id ∧ (set n).id = getNotificationCollectionID (set n).notification) :
    NotificationsKeyed { s with notifications := ns } ∧ ∃ x ∈ s.notifications, filter x = true ∧
      ({ s with notifications := ns } : MongoStorage).fetchNotification x.id = .ok (set x) := by
  obtain ⟨a, x, b, hs, rfl, hx, -⟩ := updateFirst_eq_some hu
  have hxm : x ∈ s.notifications := by rw [hs]; simp
  obtain ⟨hid, hkey⟩ := hset x hxm hx
  have hids := h.ids
  rw [hs, List.map_append, List.map_cons, List.nodup_middle, List.nodup_cons] at hids
  have hk : NotificationsKeyed { s with notifications := a ++ set x :: b } := by
    refine ⟨?_, fun n hn => ?_⟩
    · rw [List.map_append, List.map_cons, List.nodup_middle, List.nodup_cons, hid]
      exact hids
    · simp only [List.mem_append, List.mem_cons] at hn
      rcases hn with hn | rfl | hn
      · exact h.keys n (by rw [hs]; simp [hn])
      · exact hkey
      · exact h.keys n (by rw [hs]; simp [hn])
  refine ⟨hk, x, hxm, hx, ?_⟩
  have hnot : ∀ y ∈ a, ¬(y.id == x.id) = true := fun y hy heq =>
    hids.1 (List.mem_append_left _ (beq_iff_eq.mp heq ▸ List.mem_map_of_mem _ hy))
  simp [fetchNotification, List.find?_append, List.find?_eq_none.mpr hnot, hid]

/-- An upsert of a keyed row whose filter matches only rows of its id keeps the store keyed,
and leaves the row stored under its id. -/
theorem NotificationsKeyed.upsertNotification (h : NotificationsKeyed s)
    {filter : NotificationObject → Bool} {doc : NotificationObject}
    (hu : s.upsertNotification filter doc = .ok s') (hfilter : ∀ n, filter n = true → n.id = doc.id)
    (hdoc : doc.id = getNotificationCollectionID doc.notification) :
    NotificationsKeyed s' ∧ s'.fetchNotification doc.id = .ok doc := by
  unfold MongoStorage.upsertNotification at hu
  obtain ⟨ns, hup, rfl⟩ := exists_of_map_eq_ok hu
  obtain ⟨hn, hf⟩ := upsertDoc_keyed h.ids hup hfilter
  refine ⟨⟨hn, fun n hn' => ?_⟩, by simp only [fetchNotification, hf]⟩
  rcases mem_upsertDoc hup n hn' with rfl | hn'
  exacts [hdoc, h.keys n hn']

@[simp] theorem scheduled_key (now : Now) (resendInterval : Int) (n : Notification) :
    getNotificationCollectionID (scheduled now resendInterval n) = getNotificationCollectionID n := by
  unfold scheduled; split <;> rfl

@[simp] theorem scheduled_status (now : Now) (resendInterval : Int) (n : Notification) :
    (scheduled now resendInterval n).status = n.status := by
  unfold scheduled; split <;> rfl

/-- **Spec lemma of `UpdateNotificationRecord`**: it fails and writes nothing, or it keeps
the store keyed and stores the scheduled notification under its key. -/
theorem NotificationsKeyed.updateNotificationRecord (h : NotificationsKeyed s) (now : Now)
    (resendInterval : Int) (n : Notification) :
    NotificationsKeyed (s.updateNotificationRecord now resendInterval n).2 ∧
      ((s.updateNotificationRecord now resendInterval n).1 = .ok () →
        (s.updateNotificationRecord now resendInterval n).2.fetchNotification
            (getNotificationCollectionID n) = .ok ⟨getNotificationCollectionID n, scheduled now resendInterval n⟩) := by
  unfold MongoStorage.updateNotificationRecord
  dsimp only
  split
  · rename_i s' hu
    have := h.upsertNotification hu (fun r hr => by
      simp only [Bool.and_eq_true, beq_iff_eq] at hr; exact hr.1.1.1) (by simp)
    exact ⟨this.1, fun _ => this.2⟩
  · exact ⟨h, fun hu => nomatch hu⟩

theorem NotificationsKeyed.updateNotificationResendTime (h : NotificationsKeyed s) (now : Now)
    (resendInterval : Int) (n : Notification) :
    NotificationsKeyed (s.updateNotificationResendTime now resendInterval n).2 := by
  unfold MongoStorage.updateNotificationResendTime updateNotification
  dsimp only
  split
  · rename_i s' hu
    split at hu
    · rename_i ns hupd
      cases hu
      exact (h.updateFirst hupd fun r hr _ => ⟨rfl, h.keys r hr⟩).1
    · cases hu
  · exact h

theorem NotificationsKeyed.deleteNotificationRecords (h : NotificationsKeyed s)
    (orgID objectType objectID destType destID : String) :
    NotificationsKeyed (s.deleteNotificationRecords orgID objectType objectID destType destID) :=
  h.removeNotifications _

theorem mem_upsertNotification {filter : NotificationObject → Bool} {doc : NotificationObject}
    (hu : s.upsertNotification filter doc = .ok s') :
    ∀ r ∈ s'.notifications, r = doc ∨ r ∈ s.notifications := by
  unfold upsertNotification at hu
  cases hd : upsertDoc NotificationObject.id filter doc s.notifications with
  | error e => rw [hd] at hu; cases hu
  | ok ns => rw [hd] at hu; cases hu; exact mem_upsertDoc hd

theorem mem_updateNotification {filter : NotificationObject → Bool}
    {set : NotificationObject → NotificationObject} (hu : s.updateNotification filter set = .ok s') :
    ∀ r ∈ s'.notifications, r ∈ s.notifications ∨ ∃ x ∈ s.notifications, r = set x := by
  unfold updateNotification at hu
  split at hu
  · rename_i ns hupd; cases hu; exact mem_updateFirst hupd
  · cases hu

/-- A row after `UpdateNotificationRecord` was there before, or is the one it stored. -/
theorem mem_updateNotificationRecord {now : Now} {resendInterval : Int} {n : Notification}
    {r : NotificationObject} (hr : r ∈ (s.updateNotificationRecord now resendInterval n).2.notifications) :
    r ∈ s.notifications ∨ r = ⟨getNotificationCollectionID n, scheduled now resendInterval n⟩ := by
  unfold MongoStorage.updateNotificationRecord at hr
  dsimp only at hr
  split at hr
  · rename_i s' hu; exact (mem_upsertNotification hu r hr).symm
  · exact .inl hr

/-- A row after `UpdateNotificationResendTime` was there before, or is one that was, with
the resend time it schedules. -/
theorem mem_updateNotificationResendTime {now : Now} {resendInterval : Int} {n : Notification}
    {r : NotificationObject}
    (hr : r ∈ (s.updateNotificationResendTime now resendInterval n).2.notifications) :
    r ∈ s.notifications ∨ ∃ x ∈ s.notifications,
      r = { x with notification := { x.notification with resendTime := resendAt now resendInterval } } := by
  unfold MongoStorage.updateNotificationResendTime at hr
  dsimp only at hr
  split at hr
  · rename_i s' hu; exact mem_updateNotification hu r hr
  · exact .inl hr

/-- `UpdateNotificationRecord` followed by `RetrieveNotificationRecord` of the same key
returns the notification stored, scheduled. -/
theorem retrieveNotificationRecord_after_update (h : NotificationsKeyed s) {now : Now}
    {resendInterval : Int} {n : Notification}
    (hu : (s.updateNotificationRecord now resendInterval n).1 = .ok ()) :
    (s.updateNotificationRecord now resendInterval n).2.retrieveNotificationRecord n.destOrgID
        n.objectType n.objectID n.destType n.destID = .ok (scheduled now resendInterval n) := by
  have hf := (h.updateNotificationRecord now resendInterval n).2 hu
  unfold retrieveNotificationRecord
  unfold getNotificationCollectionID at hf
  rw [hf]

/-- A notification stored into the empty collection at the instant 1000 s. -/
theorem retrieveNotificationRecord_after_update_fresh :
    let n : Notification := ⟨"obj", "type", "org", "dest", "edge", Update, 0⟩
    NotificationsKeyed MongoStorage.empty ∧
      (MongoStorage.empty.updateNotificationRecord ⟨1000000000000, ""⟩ 5 n).1 = .ok () ∧
      (MongoStorage.empty.updateNotificationRecord ⟨1000000000000, ""⟩ 5 n).2.retrieveNotificationRecord
        n.destOrgID n.objectType n.objectID n.destType n.destID =
        .ok (scheduled ⟨1000000000000, ""⟩ 5 n) := by
  intro n
  have h : NotificationsKeyed MongoStorage.empty := ⟨List.nodup_nil, fun _ h => nomatch h⟩
  have hu : (MongoStorage.empty.updateNotificationRecord ⟨1000000000000, ""⟩ 5 n).1 = .ok () := by
    decide
  exact ⟨h, hu, retrieveNotificationRecord_after_update h hu⟩

/-! ### Retrievals -/

theorem mem_retrieveNotifications {now : Now} {orgID destType destID : String}
    {retrieveReceived : Bool} {l : List Notification}
    (hl : s.retrieveNotifications now orgID destType destID retrieveReceived = .ok l)
    (x : Notification) :
    x ∈ l ↔ (∃ r ∈ s.notifications, r.notification = x) ∧
      retrieveNotificationsQuery now.unix orgID destType destID retrieveReceived x = true := by
  cases hl
  simp only [List.mem_map, List.mem_filter]
  constructor
  · rintro ⟨r, ⟨hr, hq⟩, rfl⟩; exact ⟨⟨r, hr, rfl⟩, hq⟩
  · rintro ⟨⟨r, hr, rfl⟩, hq⟩; exact ⟨r, ⟨hr, hq⟩, rfl⟩

theorem mem_notifications_of_fetch {id : String} {r : NotificationObject}
    (h : s.fetchNotification id = .ok r) : r ∈ s.notifications := by
  unfold fetchNotification at h
  split at h
  · cases h; exact List.mem_of_find?_eq_some ‹_›
  · cases h

/-- **Resend timing.**  A notification stored with no resend time is returned by a
retrieval with no destination exactly when it is `Getdata`, or when the retrieval runs
`6 × ResendInterval` seconds after the store or later and the notification is in a status
that is resent. -/
theorem updateNotificationRecord_due_iff (h : NotificationsKeyed s) {now : Now}
    {resendInterval : Int} {n : Notification}
    (hu : (s.updateNotificationRecord now resendInterval n).1 = .ok ()) (h0 : n.resendTime = 0)
    {later : Now} {orgID : String} {retrieveReceived : Bool} {l : List Notification}
    (hl : (s.updateNotificationRecord now resendInterval n).2.retrieveNotifications later orgID "" ""
      retrieveReceived = .ok l) :
    scheduled now resendInterval n ∈ l ↔ n.status = Getdata ∨
      (now.unix + resendInterval * 6 ≤ later.unix ∧
        n.status ∈ [Update, Received, Consumed, Data, Delete, Deleted]) := by
  have hstored := mem_notifications_of_fetch ((h.updateNotificationRecord now resendInterval n).2 hu)
  rw [mem_retrieveNotifications hl, and_iff_right ⟨_, hstored, rfl⟩]
  simp [retrieveNotificationsQuery, scheduled, h0, resendAt, List.elem_iff]

/-- Spec scenario 6: an `Update` stored at the instant 1000 s with a resend interval of five
seconds, retrieved 31 seconds later. -/
theorem updateNotificationRecord_due_iff_update :
    let n : Notification := ⟨"obj", "type", "org", "dest", "edge", Update, 0⟩
    let s : MongoStorage := (MongoStorage.empty.updateNotificationRecord ⟨1000000000000, ""⟩ 5 n).2
    NotificationsKeyed MongoStorage.empty ∧
      (MongoStorage.empty.updateNotificationRecord ⟨1000000000000, ""⟩ 5 n).1 = .ok () ∧
      n.resendTime = 0 ∧
      s.retrieveNotifications ⟨1031000000000, ""⟩ "org" "" "" false =
        .ok [scheduled ⟨1000000000000, ""⟩ 5 n] ∧
      (scheduled ⟨1000000000000, ""⟩ 5 n ∈ [scheduled ⟨1000000000000, ""⟩ 5 n] ↔
        n.status = Getdata ∨
          ((⟨1000000000000, ""⟩ : Now).unix + 5 * 6 ≤ (⟨1031000000000, ""⟩ : Now).unix ∧
            n.status ∈ [Update, Received, Consumed, Data, Delete, Deleted])) := by
  intro n s
  have h : NotificationsKeyed MongoStorage.empty := ⟨List.nodup_nil, fun _ h => nomatch h⟩
  have hu : (MongoStorage.empty.updateNotificationRecord ⟨1000000000000, ""⟩ 5 n).1 = .ok () := by
    decide
  have hl : s.retrieveNotifications ⟨1031000000000, ""⟩ "org" "" "" false =
      .ok [scheduled ⟨1000000000000, ""⟩ 5 n] := by decide
  exact ⟨h, hu, rfl, hl, updateNotificationRecord_due_iff h hu rfl hl⟩

/-- With a destination given, `RetrieveNotifications` fetches rows of that destination
only. -/
theorem retrieveNotificationsQuery_dest {currentTime : Int} {orgID destType destID : String}
    {retrieveReceived : Bool} {x : Notification} (hd : destType ≠ "" ∨ destID ≠ "")
    (hq : retrieveNotificationsQuery currentTime orgID destType destID retrieveReceived x = true) :
    x.destOrgID = orgID ∧ x.destID = destID ∧ x.destType = destType := by
  have hne : (destType == "" && destID == "") = false := by
    rcases hd with hd | hd <;> simp [hd]
  unfold retrieveNotificationsQuery at hq
  rw [hne, if_neg Bool.false_ne_true] at hq
  split at hq <;> simp only [Bool.and_eq_true, beq_iff_eq] at hq <;> exact ⟨hq.1.1.2, hq.1.2, hq.2⟩

end MongoStorage

end EdgeSync
