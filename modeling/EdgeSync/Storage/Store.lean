import EdgeSync.Storage.Organizations
import EdgeSync.Storage.Webhooks
import EdgeSync.Storage.Calls
import EdgeSync.Storage.Readers

/-!
# Runs of store operations, and invariants of the object documents

`StoreOp` lists the calls that write the store, and `runOps` makes them one after the
other; `RunsWith` restricts a run to the calls a condition on the state allows, and
`RunsWith.invariant` is its run lemma.  A property of single object documents holds in every
state of every run as soon as every kind of write the operations make keeps it:
`ObjectWritesPreserve` lists those kinds once, every backend call of an object operation keeps
the property (`allObjects_of_calls`), every call does when the status changes and the new
documents it writes do (`allObjects_step`), and `allObjects_runOps` is the run lemma.
-/

namespace EdgeSync

namespace MongoStorage

/-- A call of an operation of `MongoStorage` that writes the store.  `CloseDataReader` is
called with a reader that `RetrieveObjectData` handed out, a GridFS file open for reading,
given by its id and its contents.  `DeleteWebhook` compares the URLs with the ASCII case
folding `equalFold`. -/
inductive StoreOp
  | storeObject (now : Now) (metaData : MetaData) (data : Option Bytes) (status : String)
  | storeObjectData (now : Now) (orgID objectType objectID : String) (dataReader : Bytes)
  | appendObjectData (orgID objectType objectID : String) (dataReader : Bytes)
      (dataLength : UInt32) (offset total : Int) (isFirstChunk isLastChunk : Bool)
  | updateObjectStatus (orgID objectType objectID status : String)
  | markObjectDeleted (orgID objectType objectID : String)
  | activateObject (orgID objectType objectID : String)
  | updateObjectDeliveryStatus (now : Now) (status message orgID objectType objectID destType destID : String)
  | updateObjectDelivering (orgID objectType objectID : String)
  | decrementAndReturnRemainingConsumers (orgID objectType objectID : String)
  | decrementAndReturnRemainingReceivers (orgID objectType objectID : String)
  | resetObjectRemainingConsumers (orgID objectType objectID : String)
  | retrieveObjects (orgID destType destID : String)
  | deleteStoredObject (orgID objectType objectID : String)
  | deleteStoredData (orgID objectType objectID : String)
  | storeDestination (destination : Destination)
  | deleteDestination (orgID destType destID : String)
  | updateNotificationRecord (now : Now) (resendInterval : Int) (notification : Notification)
  | updateNotificationResendTime (now : Now) (resendInterval : Int) (notification : Notification)
  | deleteNotificationRecords (orgID objectType objectID destType destID : String)
  | storeOrgToMessagingGroup (orgID messagingGroup : String)
  | deleteOrgToMessagingGroup (orgID : String)
  | storeOrganization (org : Organization)
  | deleteOrganizationInfo (orgID : String)
  | deleteOrganization (orgID : String)
  | addWebhook (orgID objectType url : String)
  | deleteWebhook (orgID objectType url : String)
  | retrieveObjectData (orgID objectType objectID : String)
  | closeDataReader (id : String) (content : Bytes)

/-- The store a call leaves. -/
def StoreOp.run (s : MongoStorage) : StoreOp → MongoStorage
  | .storeObject now metaData data status => (s.storeObject now metaData data status).2
  | .storeObjectData now orgID objectType objectID dataReader =>
    (s.storeObjectData now orgID objectType objectID dataReader).2
  | .appendObjectData orgID objectType objectID dataReader dataLength offset total first last =>
    (s.appendObjectData orgID objectType objectID dataReader dataLength offset total first last).2
  | .updateObjectStatus orgID objectType objectID status =>
    (s.updateObjectStatus orgID objectType objectID status).2
  | .markObjectDeleted orgID objectType objectID => (s.markObjectDeleted orgID objectType objectID).2
  | .activateObject orgID objectType objectID => (s.activateObject orgID objectType objectID).2
  | .updateObjectDeliveryStatus now status message orgID objectType objectID destType destID =>
    (s.updateObjectDeliveryStatus now status message orgID objectType objectID destType destID).2
  | .updateObjectDelivering orgID objectType objectID =>
    (s.updateObjectDelivering orgID objectType objectID).2
  | .decrementAndReturnRemainingConsumers orgID objectType objectID =>
    (s.decrementAndReturnRemainingConsumers orgID objectType objectID).2
  | .decrementAndReturnRemainingReceivers orgID objectType objectID =>
    (s.decrementAndReturnRemainingReceivers orgID objectType objectID).2
  | .resetObjectRemainingConsumers orgID objectType objectID =>
    (s.resetObjectRemainingConsumers orgID objectType objectID).2
  | .retrieveObjects orgID destType destID => (s.retrieveObjects orgID destType destID).2
  | .deleteStoredObject orgID objectType objectID => s.deleteStoredObject orgID objectType objectID
  | .deleteStoredData orgID objectType objectID => s.deleteStoredData orgID objectType objectID
  | .storeDestination destination => (s.storeDestination destination).2
  | .deleteDestination orgID destType destID => s.deleteDestination orgID destType destID
  | .updateNotificationRecord now resendInterval notification =>
    (s.updateNotificationRecord now resendInterval notification).2
  | .updateNotificationResendTime now resendInterval notification =>
    (s.updateNotificationResendTime now resendInterval notification).2
  | .deleteNotificationRecords orgID objectType objectID destType destID =>
    s.deleteNotificationRecords orgID objectType objectID destType destID
  | .storeOrgToMessagingGroup orgID messagingGroup =>
    (s.storeOrgToMessagingGroup orgID messagingGroup).2
  | .deleteOrgToMessagingGroup orgID => s.deleteOrgToMessagingGroup orgID
  | .storeOrganization org => (s.storeOrganization org).2
  | .deleteOrganizationInfo orgID => s.deleteOrganizationInfo orgID
  | .deleteOrganization orgID => s.deleteOrganization orgID
  | .addWebhook orgID objectType url => (s.addWebhook orgID objectType url).2
  | .deleteWebhook orgID objectType url => (s.deleteWebhook equalFold orgID objectType url).2
  | .retrieveObjectData orgID objectType objectID => (s.retrieveObjectData orgID objectType objectID).2
  | .closeDataReader id content => (s.closeDataReader (some (.reading id content))).2

/-- The calls made one after the other. -/
def runOps (s : MongoStorage) (ops : List StoreOp) : MongoStorage := ops.foldl StoreOp.run s

@[simp] theorem runOps_nil (s : MongoStorage) : runOps s [] = s := rfl

@[simp] theorem runOps_append (s : MongoStorage) (ops ops' : List StoreOp) :
    runOps s (ops ++ ops') = runOps (runOps s ops) ops' := List.foldl_append _ _ _ _

/-- A run whose every call is made from a state where `ok` allows it. -/
def RunsWith (ok : MongoStorage → StoreOp → Prop) : MongoStorage → List StoreOp → Prop
  | _, [] => True
  | s, op :: ops => ok s op ∧ RunsWith ok (StoreOp.run s op) ops

/-- **Run lemma.**  A property of stores that every call `ok` allows keeps holds after every
run of such calls from a store where it holds. -/
theorem RunsWith.invariant {ok : MongoStorage → StoreOp → Prop} (R : MongoStorage → Prop)
    (hstep : ∀ s op, R s → ok s op → R (StoreOp.run s op)) :
    ∀ (ops : List StoreOp) (s : MongoStorage), R s → RunsWith ok s ops → R (runOps s ops)
  | [], _, h, _ => h
  | op :: ops, s, h, ⟨hop, hrest⟩ => RunsWith.invariant R hstep ops _ (hstep s op h hop) hrest

/-! ### Properties of every document -/

/-- Every document of the `objects` collection satisfies `P`. -/
def AllObjects (P : Object → Prop) (s : MongoStorage) : Prop := ∀ o ∈ s.objects, P o

/-- The kinds of update the operations make to an object document, but the status changes
of `UpdateObjectStatus` and `StoreObjectData`, each keeping `P`. -/
structure ObjectUpdatesPreserve (P : Object → Prop) : Prop where
  lastUpdate : ∀ o t, P o → P { o with lastUpdate := t }
  deleted : ∀ o, P o → P { o with status := ObjDeleted, metaData := { o.metaData with deleted := true } }
  activated : ∀ o, P o → P { o with metaData := { o.metaData with inactive := false } }
  instanceID : ∀ o n, P o → P { o with metaData := { o.metaData with instanceID := n } }
  objectSize : ∀ o n, P o → P { o with metaData := { o.metaData with objectSize := n } }
  destinations : ∀ o ds, P o → P { o with destinations := ds }
  expiration : ∀ o ds e, P o →
    P { o with destinations := ds, metaData := { o.metaData with expiration := e } }
  decrement : ∀ c o, P o → P (Counter.dec c o)
  reset : ∀ o, P o → P { o with remainingConsumers := o.metaData.expectedConsumers }

/-- The kinds of write the operations make to an object document, each keeping `P`: the
document `StoreObject` writes, any status, and the other updates. -/
structure ObjectWritesPreserve (P : Object → Prop) extends ObjectUpdatesPreserve P : Prop where
  stored : ∀ id (metaData : MetaData) status dests,
    P { id := id, metaData := metaData, status := status,
        remainingConsumers := metaData.expectedConsumers,
        remainingReceivers := metaData.expectedConsumers, destinations := dests, lastUpdate := 0 }
  status : ∀ o status, P o → P { o with status := status }

variable {P : Object → Prop} {s s' : MongoStorage}

theorem allObjects_updateObject {filter : Object → Bool} {set : Object → Object} {cd : Bool}
    (h : AllObjects P s) (hP : ObjectUpdatesPreserve P)
    (hset : ∀ x, s.objects.find? filter = some x → P (set x))
    (hu : s.updateObject filter set cd = .ok s') : AllObjects P s' := by
  obtain ⟨a, x, b, hs, hx, hs', -⟩ := updateObject_ok hu
  intro y hy
  rw [hs'] at hy
  simp only [List.mem_append, List.mem_cons] at hy
  rcases hy with hy | rfl | hy
  · exact h y (by simp [hs, hy])
  · unfold stamped
    split
    · exact hP.lastUpdate _ _ (hset x hx)
    · exact hset x hx
  · exact h y (by simp [hs, hy])

theorem allObjects_upsertObject {filter : Object → Bool} {doc : Object}
    (h : AllObjects P s) (hP : ObjectUpdatesPreserve P) (hdoc : P doc)
    (hu : s.upsertObject filter doc = .ok s') : AllObjects P s' := by
  unfold upsertObject at hu
  obtain ⟨objects, hd, rfl⟩ := exists_of_map_eq_ok hu
  intro y hy
  rcases mem_upsertDoc hd y hy with rfl | hy
  · unfold freshStamp
    split
    · exact hP.lastUpdate _ _ hdoc
    · exact hdoc
  · exact h y hy

theorem allObjects_of_objects {s s' : MongoStorage} (h : AllObjects P s)
    (he : s'.objects = s.objects) : AllObjects P s' := by
  unfold AllObjects; rw [he]; exact h

/-- **Every backend call of an object operation keeps `P`**, when every kind of write does. -/
theorem allObjects_of_calls (hP : ObjectUpdatesPreserve P)
    (hc : ObjCalls (fun x y => P x → P y) P s s') (h : AllObjects P s) : AllObjects P s' :=
  hc.lift (AllObjects P) h fun h₁ hcall => by
    cases hcall with
    | update hu hset =>
      exact allObjects_updateObject h₁ hP
        (fun x hx => hset x hx (h₁ x (List.mem_of_find?_eq_some hx))) hu
    | upsert hu _ hdoc => exact allObjects_upsertObject h₁ hP hdoc hu
    | files => exact h₁

/-- `StoreDestination` writes the `destinations` collection only. -/
theorem storeDestination_only (s : MongoStorage) (destination : Destination) :
    ∃ ds, (s.storeDestination destination).2 = { s with destinations := ds } := by
  unfold storeDestination
  dsimp only
  split
  · exact ⟨_, rfl⟩
  · exact ⟨s.destinations, rfl⟩

theorem storeDestination_objects {destination : Destination} :
    (s.storeDestination destination).2.objects = s.objects := by
  obtain ⟨_, he⟩ := storeDestination_only s destination
  rw [he]

/-- **Step lemma.**  A call keeps a property of every document when each write it makes does:
the updates but the status changes by `hP`, the document `StoreObject` builds by `hstored`, the
status `UpdateObjectStatus` sets on the document it finds by `hstatus`, and the `ReadyToSend`
that `StoreObjectData` sets on a document that was not ready by `hready`. -/
theorem allObjects_step (hP : ObjectUpdatesPreserve P) (op : StoreOp)
    (hstored : ∀ now metaData data status, op = .storeObject now metaData data status →
      ∀ (md : MetaData) dests, (md = metaData ∨ md = { metaData with instanceID := now.unixNano }) →
        P ⟨getObjectCollectionID metaData, md, status, md.expectedConsumers, md.expectedConsumers,
          dests, 0⟩)
    (hstatus : ∀ orgID objectType objectID status,
      op = .updateObjectStatus orgID objectType objectID status → ∀ x,
        s.objects.find? (fun o => o.id == createObjectCollectionID orgID objectType objectID) =
          some x → P x → P { x with status := status })
    (hready : ∀ x, x.status = NotReadyToSend → P x → P { x with status := ReadyToSend })
    (h : AllObjects P s) : AllObjects P (StoreOp.run s op) := by
  cases op with
  | storeObject =>
    exact allObjects_of_calls hP (storeObject_calls_of_doc (hstored _ _ _ _ rfl)) h
  | storeObjectData =>
    exact allObjects_of_calls hP
      (storeObjectData_calls_of_status hready hP.instanceID hP.objectSize) h
  | appendObjectData => exact allObjects_of_calls hP appendObjectData_calls h
  | updateObjectStatus =>
    exact allObjects_of_calls hP (setObjectFields_calls_of_find (hstatus _ _ _ _ rfl)) h
  | markObjectDeleted => exact allObjects_of_calls hP (setObjectFields_calls hP.deleted) h
  | activateObject => exact allObjects_of_calls hP (setObjectFields_calls hP.activated) h
  | updateObjectDeliveryStatus =>
    exact allObjects_of_calls hP
      (updateObjectDeliveryStatus_calls hP.destinations hP.expiration) h
  | updateObjectDelivering =>
    exact allObjects_of_calls hP (updateObjectDelivering_calls hP.destinations) h
  | decrementAndReturnRemainingConsumers | decrementAndReturnRemainingReceivers =>
    exact allObjects_of_calls hP (decrementAndReturnRemaining_calls (hP.decrement _)) h
  | resetObjectRemainingConsumers =>
    exact allObjects_of_calls hP (resetObjectRemainingConsumers_calls hP.reset) h
  | retrieveObjects => exact allObjects_of_calls hP (retrieveObjects_calls hP.destinations) h
  | deleteStoredObject =>
    exact fun o ho => h o (List.mem_of_mem_filter ho)
  | deleteStoredData => exact allObjects_of_calls hP deleteStoredData_calls h
  | storeDestination => exact allObjects_of_objects h storeDestination_objects
  | deleteDestination => exact h
  | updateNotificationRecord now resendInterval notification =>
    obtain ⟨_, he⟩ := updateNotificationRecord_only s now resendInterval notification
    exact allObjects_of_objects h (by rw [StoreOp.run, he])
  | updateNotificationResendTime now resendInterval notification =>
    obtain ⟨_, he⟩ := updateNotificationResendTime_only s now resendInterval notification
    exact allObjects_of_objects h (by rw [StoreOp.run, he])
  | deleteNotificationRecords => exact h
  | storeOrgToMessagingGroup orgID messagingGroup =>
    obtain ⟨_, -, he⟩ := storeOrgToMessagingGroup_only s orgID messagingGroup
    exact allObjects_of_objects h (by rw [StoreOp.run, he])
  | deleteOrgToMessagingGroup => exact h
  | storeOrganization org =>
    obtain ⟨_, -, he⟩ := storeOrganization_only s org
    exact allObjects_of_objects h (by rw [StoreOp.run, he])
  | deleteOrganizationInfo => exact h
  | deleteOrganization orgID => exact fun o ho => h o ((mem_deleteOrganization s orgID).2.2.2 o |>.mp ho).1
  | addWebhook orgID objectType url =>
    obtain ⟨_, _, -, he⟩ := addWebhookLoop_only (webhookID orgID objectType) url maxUpdateTries 0 s
    exact allObjects_of_objects h (by rw [StoreOp.run, addWebhook, he])
  | deleteWebhook orgID objectType url =>
    obtain ⟨_, _, -, he⟩ := deleteWebhookLoop_only equalFold (webhookID orgID objectType) url maxUpdateTries s
    exact allObjects_of_objects h (by rw [StoreOp.run, deleteWebhook, he])
  | retrieveObjectData orgID objectType objectID =>
    obtain ⟨_, he⟩ := (retrieveObjectData_write s orgID objectType objectID).only
    exact allObjects_of_objects h (by rw [StoreOp.run, he])
  | closeDataReader id content =>
    obtain ⟨_, he⟩ := (closeDataReader_write s id content).only
    exact allObjects_of_objects h (by rw [StoreOp.run, he])

/-- **Run lemma.**  A property of documents that every kind of write keeps holds after every
run of store operations from a store where it holds. -/
theorem allObjects_runOps (hP : ObjectWritesPreserve P) :
    ∀ (ops : List StoreOp) (s : MongoStorage), AllObjects P s → AllObjects P (runOps s ops)
  | [], _, h => h
  | op :: ops, _, h => allObjects_runOps hP ops _ (allObjects_step hP.toObjectUpdatesPreserve op
      (fun _ _ _ _ _ _ _ _ => hP.stored _ _ _ _) (fun _ _ _ _ _ x _ => hP.status x _)
      (fun x _ => hP.status x _) h)

end MongoStorage

end EdgeSync
