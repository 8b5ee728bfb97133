import EdgeSync.Storage.Queries

/-!
# One document per key in every collection, over every run

The collections of `MongoStorage` are keyed: an object, a destination or a notification is
stored under the key of its content, and a messaging group or an organization record under the
org's id.  The store operations keep them so (`StoreKeyed`): every run of them from the empty
store reaches a store with one document per key in each of these collections, whose object
documents carry `last-update` stamps no later than the server clock (`storeKeyed_runOps`).
The read-backs of `EdgeSync.Storage.Queries` therefore hold in every reachable state
(`readback_reachable`), and `StoreObjectData` there never fails and is read back
(`storeObjectData_reachable`).

The object operations write only the `objects` collection, the payload files, the open files
and the clock (`ObjectsOnly`), and keep the object documents keyed and stamped (`ObjWrite`).
Both are compositional: every backend call of an object operation
(`EdgeSync.Storage.Calls`) is such a write (`objWrite_of_calls`).
-/

namespace EdgeSync

namespace MongoStorage

/-! ### The frame of the object operations -/

/-- The store `s'` differs from `s` at most in its objects, its payload files, its open files
and its clock, which has not gone back. -/
def ObjectsOnly (s s' : MongoStorage) : Prop :=
  ∃ objects files openFiles clock, s.clock ≤ clock ∧
    s' = { s with objects := objects, files := files, openFiles := openFiles, clock := clock }

variable {s s' s'' : MongoStorage}

namespace ObjectsOnly

theorem refl (s : MongoStorage) : ObjectsOnly s s := ⟨_, _, _, _, le_rfl, rfl⟩

theorem trans (h : ObjectsOnly s s') (h' : ObjectsOnly s' s'') : ObjectsOnly s s'' := by
  obtain ⟨_, _, _, _, hc, rfl⟩ := h
  obtain ⟨_, _, _, _, hc', rfl⟩ := h'
  exact ⟨_, _, _, _, hc.trans hc', rfl⟩

/-- A write of the payload files and of the open files. -/
theorem of_files {files : String → Option Bytes} {openFiles : String → Option FileHandle} :
    ObjectsOnly s { s with files := files, openFiles := openFiles } :=
  ⟨_, _, _, _, le_rfl, rfl⟩

theorem updateObject {filter : Object → Bool} {set : Object → Object} {cd : Bool}
    (hu : s.updateObject filter set cd = .ok s') : ObjectsOnly s s' := by
  unfold MongoStorage.updateObject at hu
  split at hu
  · cases hu
    exact ⟨_, _, _, _, by split <;> omega, rfl⟩
  · cases hu

theorem upsertObject {filter : Object → Bool} {doc : Object}
    (hu : s.upsertObject filter doc = .ok s') : ObjectsOnly s s' := by
  unfold MongoStorage.upsertObject at hu
  obtain ⟨_, -, rfl⟩ := exists_of_map_eq_ok hu
  exact ⟨_, _, _, _, Nat.le_succ _, rfl⟩

theorem destinations (h : ObjectsOnly s s') : s'.destinations = s.destinations := by
  obtain ⟨_, _, _, _, -, rfl⟩ := h; rfl

theorem notifications (h : ObjectsOnly s s') : s'.notifications = s.notifications := by
  obtain ⟨_, _, _, _, -, rfl⟩ := h; rfl

theorem messagingGroups (h : ObjectsOnly s s') : s'.messagingGroups = s.messagingGroups := by
  obtain ⟨_, _, _, _, -, rfl⟩ := h; rfl

theorem organizations (h : ObjectsOnly s s') : s'.organizations = s.organizations := by
  obtain ⟨_, _, _, _, -, rfl⟩ := h; rfl

theorem webhooks (h : ObjectsOnly s s') : s'.webhooks = s.webhooks := by
  obtain ⟨_, _, _, _, -, rfl⟩ := h; rfl

theorem clock_le (h : ObjectsOnly s s') : s.clock ≤ s'.clock := by
  obtain ⟨_, _, _, _, hc, rfl⟩ := h; exact hc

end ObjectsOnly

/-! ### Keyed, stamped object documents -/

/-- A rewrite that keeps the id, the key and the token of a document. -/
def KeyEdit (x y : Object) : Prop :=
  y.id = x.id ∧ getObjectCollectionID y.metaData = getObjectCollectionID x.metaData ∧
    y.lastUpdate = x.lastUpdate

/-- A new document stored under its key, for the server to stamp. -/
def KeyDoc (doc : Object) : Prop :=
  doc.id = getObjectCollectionID doc.metaData ∧ doc.lastUpdate = 0

theorem ObjStore.mono (h : ObjStore s) (ho : s'.objects = s.objects) (hc : s.clock ≤ s'.clock) :
    ObjStore s' := by
  obtain ⟨h₁, h₂, h₃⟩ := h
  exact ⟨ho ▸ h₁, ho ▸ h₂, fun o hoo => (h₃ o (ho ▸ hoo)).trans hc⟩

theorem ObjStore.sublist (h : ObjStore s) (hs : s'.objects.Sublist s.objects)
    (hc : s.clock ≤ s'.clock) : ObjStore s' :=
  ⟨(hs.map _).nodup h.ids, fun o ho => h.keys o (hs.subset ho),
    fun o ho => (h.stamped o (hs.subset ho)).trans hc⟩

/-- An update that keeps the id, the key and the token of the document it rewrites keeps a
store keyed and stamped. -/
theorem ObjStore.updateObject (h : ObjStore s) {filter : Object → Bool} {set : Object → Object}
    {cd : Bool} (hu : s.updateObject filter set cd = .ok s')
    (hset : ∀ x, s.objects.find? filter = some x → KeyEdit x (set x)) : ObjStore s' := by
  obtain ⟨a, x, b, hs, hfx, hs', hc⟩ := updateObject_eq hu
  obtain ⟨hid, hkey, ht⟩ := hset x hfx
  have hx := h.stamped x (by rw [hs]; simp)
  cases cd <;> simp only [MongoStorage.stamped, Bool.false_eq_true, if_false, if_true] at hs' hc
  · exact h.rewrite hs hs' hid hkey hc.ge (by omega)
  · exact h.rewrite hs hs' hid hkey (by omega) (by simp [hc])

/-- A write of an object operation: the object documents stay keyed and stamped, and nothing
but the objects, the files, the open files and the clock changes. -/
structure ObjWrite (s s' : MongoStorage) : Prop where
  store : ObjStore s'
  only : ObjectsOnly s s'

namespace ObjWrite

theorem refl (h : ObjStore s) : ObjWrite s s := ⟨h, .refl s⟩

theorem trans (h : ObjWrite s s') (h' : ObjWrite s' s'') : ObjWrite s s'' :=
  ⟨h'.store, h.only.trans h'.only⟩

theorem of_files (h : ObjStore s) {files : String → Option Bytes}
    {openFiles : String → Option FileHandle} :
    ObjWrite s { s with files := files, openFiles := openFiles } :=
  ⟨h.mono rfl le_rfl, .of_files⟩

end ObjWrite

/-- **Every backend call of an object operation is a write**: updates that keep the id, the
key and the token of the document they match, and upserts of documents under their key. -/
theorem objWrite_of_calls (h : ObjStore s) (hc : ObjCalls KeyEdit KeyDoc s s') : ObjWrite s s' :=
  hc.lift (ObjWrite s) (.refl h) fun h₁ hcall => by
    cases hcall with
    | update hu hset => exact h₁.trans ⟨h₁.store.updateObject hu hset, .updateObject hu⟩
    | upsert hu hfilter hdoc =>
      exact h₁.trans ⟨(upsertObject_write hu h₁.store hfilter hdoc.1 hdoc.2).1.store,
        .upsertObject hu⟩
    | files => exact h₁.trans (.of_files h₁.store)

theorem objWrite_deleteStoredObject (h : ObjStore s) {orgID objectType objectID : String} :
    ObjWrite s (s.deleteStoredObject orgID objectType objectID) :=
  ⟨h.sublist (List.filter_sublist _) le_rfl, ⟨_, _, _, _, le_rfl, rfl⟩⟩

/-! ### The invariant of the store -/

/-- **The invariant of the store**: one document per key in each keyed collection, and the
object documents stamped no later than the clock. -/
structure StoreKeyed (s : MongoStorage) : Prop where
  objects : ObjStore s
  destinations : DestinationsKeyed s
  notifications : NotificationsKeyed s
  messagingGroups : (s.messagingGroups.map MessagingGroupObject.id).Nodup
  organizations : (s.organizations.map OrganizationObject.id).Nodup

theorem storeKeyed_empty : StoreKeyed MongoStorage.empty :=
  ⟨ObjStore.empty, DestinationsKeyed.empty, ⟨List.nodup_nil, fun _ h => nomatch h⟩,
    List.nodup_nil, List.nodup_nil⟩

namespace StoreKeyed

variable (h : StoreKeyed s)
include h

theorem objWrite (hw : ObjWrite s s') : StoreKeyed s' :=
  ⟨hw.store, h.destinations.of_sublist (hw.only.destinations ▸ .refl _),
    h.notifications.of_sublist (hw.only.notifications ▸ .refl _),
    hw.only.messagingGroups ▸ h.messagingGroups, hw.only.organizations ▸ h.organizations⟩

/-- A write of the `destinations` collection alone. -/
theorem setDestinations (hs : ∃ ds, s' = { s with destinations := ds })
    (hd : DestinationsKeyed s') : StoreKeyed s' := by
  obtain ⟨_, rfl⟩ := hs
  exact ⟨h.objects.mono rfl le_rfl, hd, ⟨h.notifications.1, h.notifications.2⟩,
    h.messagingGroups, h.organizations⟩

/-- A write of the `notifications` collection alone. -/
theorem setNotifications (hs : ∃ ns, s' = { s with notifications := ns })
    (hn : NotificationsKeyed s') : StoreKeyed s' := by
  obtain ⟨_, rfl⟩ := hs
  exact ⟨h.objects.mono rfl le_rfl, ⟨h.destinations.1, h.destinations.2⟩, hn,
    h.messagingGroups, h.organizations⟩

/-- A write of the `messaging-groups` collection and of the clock. -/
theorem setMessagingGroups
    (hs : ∃ gs c, s.clock ≤ c ∧ s' = { s with messagingGroups := gs, clock := c })
    (hg : (s'.messagingGroups.map MessagingGroupObject.id).Nodup) : StoreKeyed s' := by
  obtain ⟨_, _, hc, rfl⟩ := hs
  exact ⟨h.objects.mono rfl hc, ⟨h.destinations.1, h.destinations.2⟩,
    ⟨h.notifications.1, h.notifications.2⟩, hg, h.organizations⟩

/-- A write of the `organizations` collection and of the clock. -/
theorem setOrganizations
    (hs : ∃ os c, s.clock ≤ c ∧ s' = { s with organizations := os, clock := c })
    (ho : (s'.organizations.map OrganizationObject.id).Nodup) : StoreKeyed s' := by
  obtain ⟨_, _, hc, rfl⟩ := hs
  exact ⟨h.objects.mono rfl hc, ⟨h.destinations.1, h.destinations.2⟩,
    ⟨h.notifications.1, h.notifications.2⟩, h.messagingGroups, ho⟩

/-- A write of the open files. -/
theorem setOpenFiles (hs : ∃ f, s' = { s with openFiles := f }) : StoreKeyed s' := by
  obtain ⟨_, rfl⟩ := hs
  exact ⟨h.objects.mono rfl le_rfl, ⟨h.destinations.1, h.destinations.2⟩,
    ⟨h.notifications.1, h.notifications.2⟩, h.messagingGroups, h.organizations⟩

/-- A write of the `webhooks` collection and of the clock. -/
theorem setWebhooks (hs : ∃ w c, s.clock ≤ c ∧ s' = { s with webhooks := w, clock := c }) :
    StoreKeyed s' := by
  obtain ⟨_, _, hc, rfl⟩ := hs
  exact ⟨h.objects.mono rfl hc, ⟨h.destinations.1, h.destinations.2⟩,
    ⟨h.notifications.1, h.notifications.2⟩, h.messagingGroups, h.organizations⟩

end StoreKeyed

/-- **Step lemma.**  Every store operation keeps the store keyed. -/
theorem StoreKeyed.step (h : StoreKeyed s) : ∀ op : StoreOp, StoreKeyed (StoreOp.run s op)
  | .storeObject .. =>
    h.objWrite (objWrite_of_calls h.objects (storeObject_calls fun _ _ _ _ hid => ⟨hid, rfl⟩))
  | .storeObjectData .. =>
    h.objWrite (objWrite_of_calls h.objects (storeObjectData_calls (fun _ => ⟨rfl, rfl, rfl⟩)
      (fun _ _ => ⟨rfl, rfl, rfl⟩) (fun _ _ => ⟨rfl, rfl, rfl⟩)))
  | .appendObjectData .. => h.objWrite (objWrite_of_calls h.objects appendObjectData_calls)
  | .updateObjectStatus .. | .markObjectDeleted .. | .activateObject .. =>
    h.objWrite (objWrite_of_calls h.objects (setObjectFields_calls fun _ => ⟨rfl, rfl, rfl⟩))
  | .updateObjectDeliveryStatus .. =>
    h.objWrite (objWrite_of_calls h.objects (updateObjectDeliveryStatus_calls
      (fun _ _ => ⟨rfl, rfl, rfl⟩) (fun _ _ _ => ⟨rfl, rfl, rfl⟩)))
  | .updateObjectDelivering .. =>
    h.objWrite (objWrite_of_calls h.objects
      (updateObjectDelivering_calls fun _ _ => ⟨rfl, rfl, rfl⟩))
  | .decrementAndReturnRemainingConsumers .. | .decrementAndReturnRemainingReceivers .. =>
    h.objWrite (objWrite_of_calls h.objects
      (decrementAndReturnRemaining_calls fun _ => ⟨rfl, rfl, rfl⟩))
  | .resetObjectRemainingConsumers .. =>
    h.objWrite (objWrite_of_calls h.objects
      (resetObjectRemainingConsumers_calls fun _ => ⟨rfl, rfl, rfl⟩))
  | .retrieveObjects .. =>
    h.objWrite (objWrite_of_calls h.objects (retrieveObjects_calls fun _ _ => ⟨rfl, rfl, rfl⟩))
  | .deleteStoredObject .. => h.objWrite (objWrite_deleteStoredObject h.objects)
  | .deleteStoredData .. => h.objWrite (objWrite_of_calls h.objects deleteStoredData_calls)
  | .storeDestination destination =>
    h.setDestinations (storeDestination_only s destination)
      (h.destinations.storeDestination destination).1
  | .deleteDestination orgID destType destID =>
    h.setDestinations ⟨_, rfl⟩ (h.destinations.deleteDestination orgID destType destID)
  | .updateNotificationRecord now resendInterval notification =>
    h.setNotifications (updateNotificationRecord_only s now resendInterval notification)
      (h.notifications.updateNotificationRecord now resendInterval notification).1
  | .updateNotificationResendTime now resendInterval notification =>
    h.setNotifications (updateNotificationResendTime_only s now resendInterval notification)
      (h.notifications.updateNotificationResendTime now resendInterval notification)
  | .deleteNotificationRecords orgID objectType objectID destType destID =>
    h.setNotifications ⟨_, rfl⟩
      (h.notifications.deleteNotificationRecords orgID objectType objectID destType destID)
  | .storeOrgToMessagingGroup orgID messagingGroup => by
    obtain ⟨gs, hu, he⟩ := storeOrgToMessagingGroup_only s orgID messagingGroup
    refine h.setMessagingGroups ⟨gs, _, Nat.le_succ _, he⟩ ?_
    rw [StoreOp.run, he]
    exact (upsertDoc_keyed h.messagingGroups hu fun _ hd => beq_iff_eq.mp hd).1
  | .deleteOrgToMessagingGroup orgID =>
    h.setMessagingGroups ⟨_, _, le_rfl, rfl⟩
      (((List.filter_sublist _).map _).nodup h.messagingGroups)
  | .storeOrganization org => by
    obtain ⟨os, hu, he⟩ := storeOrganization_only s org
    refine h.setOrganizations ⟨os, _, Nat.le_succ _, he⟩ ?_
    rw [StoreOp.run, he]
    exact (upsertDoc_keyed h.organizations hu fun _ hd => beq_iff_eq.mp hd).1
  | .deleteOrganizationInfo orgID =>
    h.setOrganizations ⟨_, _, le_rfl, rfl⟩
      (((List.filter_sublist _).map _).nodup h.organizations)
  | .deleteOrganization orgID =>
    ⟨h.objects.sublist (List.filter_sublist _) le_rfl,
      h.destinations.of_sublist (List.filter_sublist _),
      h.notifications.of_sublist (List.filter_sublist _),
      ((List.filter_sublist _).map _).nodup h.messagingGroups, h.organizations⟩
  | .addWebhook orgID objectType url =>
    h.setWebhooks (addWebhookLoop_only (webhookID orgID objectType) url maxUpdateTries 0 s)
  | .deleteWebhook orgID objectType url =>
    h.setWebhooks (deleteWebhookLoop_only equalFold (webhookID orgID objectType) url maxUpdateTries s)
  | .retrieveObjectData orgID objectType objectID =>
    h.setOpenFiles (retrieveObjectData_write s orgID objectType objectID).only
  | .closeDataReader id content => h.setOpenFiles (closeDataReader_write s id content).only

/-- **Run lemma.** -/
theorem StoreKeyed.runs :
    ∀ (ops : List StoreOp) {s : MongoStorage}, StoreKeyed s → StoreKeyed (runOps s ops)
  | [], _, h => h
  | op :: ops, _, h => StoreKeyed.runs ops (h.step op)

/-- **Every reachable store is keyed**: after any run of store operations from the empty
store, each keyed collection holds one document per key, and the object documents are stamped
no later than the server clock. -/
theorem storeKeyed_runOps (ops : List StoreOp) : StoreKeyed (runOps MongoStorage.empty ops) :=
  StoreKeyed.runs ops storeKeyed_empty

/-- **Read-backs in every reachable state.**  In every store a run of store operations reaches
from the empty store, a `StoreObject` that succeeds is read back by `RetrieveObjectAndStatus`,
a `StoreDestination` that succeeds by `RetrieveDestination`, and a
`DecrementAndReturnRemainingConsumers` on an object there returns its count less one. -/
theorem readback_reachable (ops : List StoreOp) :
    let s := runOps MongoStorage.empty ops
    (∀ (now : Now) (metaData : MetaData) (data : Option Bytes) (status : String),
      (s.storeObject now metaData data status).1 = .ok () →
      (s.storeObject now metaData data status).2.retrieveObjectAndStatus metaData.destOrgID
          metaData.objectType metaData.objectID =
        .ok (some (if status = NotReadyToSend ∨ status = ReadyToSend then
          { metaData with instanceID := now.unixNano } else metaData, status))) ∧
    (∀ destination : Destination, (s.storeDestination destination).1 = .ok () →
      (s.storeDestination destination).2.retrieveDestination destination.destOrgID
        destination.destType destination.destID = .ok destination) ∧
    (∀ (orgID objectType objectID : String) (o : Object),
      s.fetchObject (createObjectCollectionID orgID objectType objectID) = .ok o →
      (s.decrementAndReturnRemainingConsumers orgID objectType objectID).1 =
        .ok (o.remainingConsumers - 1)) := by
  have h := storeKeyed_runOps ops
  exact ⟨fun _ _ _ _ hok => (readback_after_storeObject h.objects hok).1,
    fun destination hok => (readback_after_storeDestination h.destinations destination hok).1,
    fun _ _ _ _ hf => (decrementAndReturnRemaining_returns h.objects .consumers hf).1⟩

/-! ### `StoreObjectData` -/

/-- An update by id, with an edit that keeps the id, the key, the destinations and the token,
of a document that `fetchOne` finds: it succeeds, keeps the store keyed and the payload files,
and `fetchOne` then returns the document it wrote. -/
theorem ObjStore.updateObject_by_id (h : ObjStore s) {id : String} {o : Object}
    (set : Object → Object) (cd : Bool) (hf : s.fetchObject id = .ok o)
    (hset : ∀ x, QuietEdit x (set x)) :
    ∃ s', s.updateObject (fun o => o.id == id) set cd = .ok s' ∧ ObjStore s' ∧
      s'.files = s.files ∧ s'.fetchObject id = .ok (s.stamped set cd o) := by
  obtain ⟨s', hu, hf'⟩ := MongoStorage.updateObject_by_id h set cd hf hset
  obtain ⟨-, -, -, -, -, -, -, hfiles, -⟩ := updateObject_ok hu
  exact ⟨s', hu, h.updateObject hu fun x _ => let ⟨hi, hk, _, ht⟩ := hset x; ⟨hi, hk, ht⟩,
    hfiles, hf'⟩

/-- The end of `StoreObjectData`: the data replaces the payload, and the size of the data is
set in the metadata. -/
theorem storeObjectData_tail (h : ObjStore s) {id : String} {o : Object}
    (hf : s.fetchObject id = .ok o) (data : Bytes) :
    ∃ s', (s.storeDataInFile id data).updateObject (fun o => o.id == id)
        (fun o => { o with metaData := { o.metaData with objectSize := data.length } }) false =
        .ok s' ∧ s'.files id = some data ∧
      s'.fetchObject id = .ok { o with metaData := { o.metaData with objectSize := data.length } } := by
  obtain ⟨s', hu, -, hfiles, hf'⟩ := ObjStore.updateObject_by_id
    (h.congr rfl rfl : ObjStore (s.storeDataInFile id data))
    (fun o => { o with metaData := { o.metaData with objectSize := data.length } }) false hf
    fun _ => ⟨rfl, rfl, rfl, rfl⟩
  exact ⟨s', hu, by rw [hfiles]; exact Function.update_same _ _ _, hf'⟩

/-- **Spec lemma.**  `StoreObjectData` on an object that `fetchOne` finds, in a keyed store:
it returns `true`, the payload is the data, and the object is read back with the size of the
data, with a fresh instance id when it was ready to send, and ready to send when it was not. -/
theorem storeObjectData_found (h : ObjStore s) (now : Now) {orgID objectType objectID : String}
    {o : Object} (hf : s.fetchObject (createObjectCollectionID orgID objectType objectID) = .ok o)
    (data : Bytes) :
    ∃ s', s.storeObjectData now orgID objectType objectID data = (.ok true, s') ∧
      s'.files (createObjectCollectionID orgID objectType objectID) = some data ∧
      ∃ o', s'.fetchObject (createObjectCollectionID orgID objectType objectID) = .ok o' ∧
        o'.metaData = { o.metaData with
          instanceID := if o.status = ReadyToSend then now.unixNano else o.metaData.instanceID,
          objectSize := data.length } ∧
        o'.status = if o.status = NotReadyToSend then ReadyToSend else o.status := by
  have hne : NotReadyToSend ≠ ReadyToSend := by decide
  unfold storeObjectData
  simp only [hf]
  by_cases hn : o.status = NotReadyToSend
  · obtain ⟨s₁, hu, h₁, -, hf₁⟩ :=
      h.updateObject_by_id (fun o => { o with status := ReadyToSend }) true hf
        fun _ => ⟨rfl, rfl, rfl, rfl⟩
    obtain ⟨s₂, hu₂, hfiles, hf₂⟩ := storeObjectData_tail h₁ hf₁ data
    refine ⟨s₂, ?_, hfiles, _, hf₂, ?_, ?_⟩
    · simp only [hn, beq_self_eq_true, if_true, updateObjectStatus, setObjectFields, hu,
        copyDataToFile, hu₂]
    · simp [stamped, hn, hne]
    · simp [stamped, hn]
  by_cases hr : o.status = ReadyToSend
  · obtain ⟨s₁, hu, h₁, -, hf₁⟩ :=
      h.updateObject_by_id (fun o => { o with metaData := { o.metaData with instanceID := now.unixNano } })
        true hf fun _ => ⟨rfl, rfl, rfl, rfl⟩
    obtain ⟨s₂, hu₂, hfiles, hf₂⟩ := storeObjectData_tail h₁ hf₁ data
    refine ⟨s₂, ?_, hfiles, _, hf₂, ?_, ?_⟩
    · simp only [hr, hne.symm, beq_self_eq_true, beq_iff_eq, if_true, if_false, hu, copyDataToFile, hu₂]
    · simp [stamped, hr]
    · simp [stamped, hr, hne.symm]
  · obtain ⟨s₂, hu₂, hfiles, hf₂⟩ := storeObjectData_tail h hf data
    refine ⟨s₂, ?_, hfiles, _, hf₂, ?_, ?_⟩
    · simp only [hn, hr, beq_iff_eq, if_false, copyDataToFile, hu₂]
    · simp [hr]
    · simp [hn]

/-- **`StoreObjectData` in every reachable store.**  Either `RetrieveObjectAndStatus` finds no
object, and the call returns `false` and leaves the store as it was; or it finds one, and when
the call returns without an error it returns `true`, the payload of the object is the data, and
`RetrieveObjectAndStatus` then returns the metadata with the size of the data (and a fresh
instance id when the object was ready to send), and the status ready to send when the object
was not ready.  (The failures of the copy of the data, of the reader or of GridFS, are not
modelled.) -/
theorem storeObjectData_reachable (ops : List StoreOp) (now : Now)
    (orgID objectType objectID : String) (data : Bytes) :
    let s : MongoStorage := runOps MongoStorage.empty ops
    let r := s.storeObjectData now orgID objectType objectID data
    (s.retrieveObjectAndStatus orgID objectType objectID = .ok none ∧ r = (.ok false, s)) ∨
    ∃ md status, s.retrieveObjectAndStatus orgID objectType objectID = .ok (some (md, status)) ∧
      ∀ updated, r.1 = .ok updated → updated = true ∧
        r.2.files (createObjectCollectionID orgID objectType objectID) = some data ∧
        r.2.retrieveObjectAndStatus orgID objectType objectID = .ok (some
          ({ md with instanceID := if status = ReadyToSend then now.unixNano else md.instanceID,
                     objectSize := data.length },
           if status = NotReadyToSend then ReadyToSend else status)) := by
  intro s r
  unfold retrieveObjectAndStatus
  rcases hf : s.fetchObject (createObjectCollectionID orgID objectType objectID) with e | o
  · have he : e = .notFound := by unfold fetchObject at hf; split at hf <;> cases hf; rfl
    subst he
    exact .inl ⟨rfl, by simp only [r, storeObjectData, hf]⟩
  · obtain ⟨s', hr, hfiles, o', hf', hm, hs⟩ :=
      storeObjectData_found (storeKeyed_runOps ops).objects now hf data
    refine .inr ⟨o.metaData, o.status, rfl, fun updated hu => ?_⟩
    simp only [r, s, hr, Except.ok.injEq] at hu
    simp only [r, s, hr, hf', hm, hs, hfiles, ← hu, true_and]

end MongoStorage

end EdgeSync
