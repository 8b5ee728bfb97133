import EdgeSync.Storage.Linearizable

/-!
# The read-only calls on objects and destinations, and what they read back

`RetrieveObject`, `RetrieveObjectAndStatus`, `RetrieveObjectStatus`,
`RetrieveObjectRemainingConsumers`, `GetObjectDestinations` and `GetObjectDestinationsList`
fetch one object document by its key; `RetrieveUpdatedObjects` fetches the objects of a type
that came back from the destinations.  `RetrieveDestinations`, `DestinationExists`,
`RetrieveDestinationProtocol` and `RetrieveDestination` read the `destinations` collection.
A document that is not there reads as nothing, except where the code reports `NotFound` as an
error.

Main results, in a store with one document per key (`ObjStore`, `DestinationsKeyed`):
* after a `StoreObject` that succeeds, `RetrieveObjectAndStatus` returns the metadata it
  stored, whose instance id is the time of the call exactly when the node is the object's
  origin, and its status; `GetObjectDestinationsList` returns the destinations it computed,
  and `RetrieveObjectRemainingConsumers` the expected consumers
  (`readback_after_storeObject`);
* each `DecrementAndReturnRemainingConsumers` returns the count it leaves, one less than the
  count before (`decrementAndReturnRemaining_returns`);
* after a `StoreDestination` that succeeds, the destination is read back
  (`readback_after_storeDestination`);
* `StoreDestination` fails exactly when a destination of another org is stored under the same
  key, which ids that hold a `:` make possible (`storeDestination_fails_iff`).
-/

namespace EdgeSync

namespace MongoStorage

/-! ### Objects -/

/-- `RetrieveObject`: `none` when there is no such object. -/
def retrieveObject (s : MongoStorage) (orgID objectType objectID : String) :
    Except SyncServiceError (Option MetaData) :=
  match s.fetchObject (createObjectCollectionID orgID objectType objectID) with
  | .ok result => .ok (some result.metaData)
  | .error .notFound => .ok none
  | .error e => .error (.error s!"Failed to fetch the object. Error: {e.text}.")

/-- `RetrieveObjectAndStatus`: `none` when there is no such object. -/
def retrieveObjectAndStatus (s : MongoStorage) (orgID objectType objectID : String) :
    Except SyncServiceError (Option (MetaData × String)) :=
  match s.fetchObject (createObjectCollectionID orgID objectType objectID) with
  | .ok result => .ok (some (result.metaData, result.status))
  | .error .notFound => .ok none
  | .error e => .error (.error s!"Failed to fetch the object. Error: {e.text}.")

/-- `RetrieveObjectStatus`: the empty status when there is no such object. -/
def retrieveObjectStatus (s : MongoStorage) (orgID objectType objectID : String) :
    Except SyncServiceError String :=
  match s.fetchObject (createObjectCollectionID orgID objectType objectID) with
  | .ok result => .ok result.status
  | .error .notFound => .ok ""
  | .error e => .error (.error s!"Failed to retrieve object's status. Error: {e.text}.")

/-- `RetrieveObjectRemainingConsumers`: a missing object is an error. -/
def retrieveObjectRemainingConsumers (s : MongoStorage) (orgID objectType objectID : String) :
    Except SyncServiceError Int :=
  match s.fetchObject (createObjectCollectionID orgID objectType objectID) with
  | .ok result => .ok result.remainingConsumers
  | .error e =>
    .error (.error s!"Failed to retrieve object's remaining comsumers. Error: {e.text}.")

/-- `GetObjectDestinations`: the destinations of the object; the nil slice of a missing
object is the empty list. -/
def getObjectDestinations (s : MongoStorage) (metaData : MetaData) :
    Except SyncServiceError (List Destination) :=
  match s.fetchObject (getObjectCollectionID metaData) with
  | .ok result => .ok (result.destinations.map StoreDestinationStatus.destination)
  | .error .notFound => .ok []
  | .error e => .error (.error s!"Failed to retrieve object's destinations. Error: {e.text}.")

/-- `GetObjectDestinationsList`: the destinations of the object and their status; the nil
slice of a missing object is the empty list. -/
def getObjectDestinationsList (s : MongoStorage) (orgID objectType objectID : String) :
    Except SyncServiceError (List StoreDestinationStatus) :=
  match s.fetchObject (createObjectCollectionID orgID objectType objectID) with
  | .ok result => .ok result.destinations
  | .error .notFound => .ok []
  | .error e => .error (.error s!"Failed to retrieve object's destinations. Error: {e.text}.")

/-- The objects `RetrieveUpdatedObjects` fetches: those of the org and type that are
completely received or deleted, and, when `received`, those marked received. -/
def retrieveUpdatedObjectsQuery (orgID objectType : String) (received : Bool) (o : Object) : Bool :=
  if received then
    (o.status == CompletelyReceived || o.status == ObjReceived || o.status == ObjDeleted) &&
      o.metaData.destOrgID == orgID && o.metaData.objectType == objectType
  else
    (o.status == CompletelyReceived || o.status == ObjDeleted) &&
      o.metaData.destOrgID == orgID && o.metaData.objectType == objectType

/-- `RetrieveUpdatedObjects`. -/
def retrieveUpdatedObjects (s : MongoStorage) (orgID objectType : String) (received : Bool) :
    Except SyncServiceError (List MetaData) :=
  .ok ((s.objects.filter (retrieveUpdatedObjectsQuery orgID objectType received)).map
    Object.metaData)

/-! ### Destinations -/

/-- The destinations `RetrieveDestinations` fetches: those of the org and of the type, each
when given. -/
def retrieveDestinationsQuery (orgID destType : String) (d : DestinationObject) : Bool :=
  if orgID == "" then
    if destType == "" then true else d.destination.destType == destType
  else
    if destType == "" then d.destination.destOrgID == orgID
    else d.destination.destOrgID == orgID && d.destination.destType == destType

/-- `RetrieveDestinations`. -/
def retrieveDestinations (s : MongoStorage) (orgID destType : String) :
    Except SyncServiceError (List Destination) :=
  .ok ((s.destinations.filter (retrieveDestinationsQuery orgID destType)).map
    DestinationObject.destination)

/-- `DestinationExists`. -/
def destinationExists (s : MongoStorage) (orgID destType destID : String) :
    Except SyncServiceError Bool :=
  match s.fetchDestination (createDestinationCollectionID orgID destType destID) with
  | .ok _ => .ok true
  | .error .notFound => .ok false
  | .error e => .error (.error e.text)

/-- `RetrieveDestinationProtocol`. -/
def retrieveDestinationProtocol (s : MongoStorage) (orgID destType destID : String) :
    Except SyncServiceError String :=
  match s.fetchDestination (createDestinationCollectionID orgID destType destID) with
  | .ok result => .ok result.destination.communication
  | .error e => .error (.error s!"Failed to fetch the destination. Error: {e.text}.")

/-! ### Reading back a stored object -/

variable {s s' : MongoStorage}

/-- **Spec lemma of `StoreObject`**: when it succeeds, `fetchOne` by the object's key returns
the document it built, stamped by the server. -/
theorem storeObject_fetch (h : ObjStore s) {now : Now} {metaData : MetaData}
    {data : Option Bytes} {status : String}
    (hok : (s.storeObject now metaData data status).1 = .ok ()) :
    ∃ o, (s.storeObject now metaData data status).2.fetchObject (getObjectCollectionID metaData) =
        .ok o ∧
      o.metaData = (if status = NotReadyToSend ∨ status = ReadyToSend then
        { metaData with instanceID := now.unixNano } else metaData) ∧
      o.status = status ∧ o.remainingConsumers = metaData.expectedConsumers ∧
      o.destinations = (if status = NotReadyToSend ∨ status = ReadyToSend then
        s.createDestinations { metaData with instanceID := now.unixNano } else []) := by
  revert hok
  rcases data with _ | data
  on_goal 1 =>
    by_cases hm : (!metaData.metaOnly || metaData.noData) = true <;>
      simp only [storeObject, hm, if_true, if_false]
  on_goal 3 => simp only [storeObject]
  all_goals
    split
    · rename_i s' hu
      intro _
      have hf := (upsertObject_write hu (h.congr rfl rfl)
        (fun o ho => by simp only [Bool.and_eq_true, beq_iff_eq] at ho; exact ho.1)
        (by dsimp only; split <;> rfl) rfl).2
      refine ⟨_, hf, by simp only [Bool.or_eq_true, beq_iff_eq], rfl, by split <;> rfl, ?_⟩
      simp only [Bool.or_eq_true, beq_iff_eq]
      split <;> rename_i hc <;> simp only [hc, if_true, if_false, Bool.false_eq_true,
        createDestinations_removeFile, createDestinations_storeDataInFile]
    · intro hok; cases hok

/-- **What a successful `StoreObject` reads back**: the metadata it stored and its status,
its destinations, and its count of remaining consumers. -/
theorem readback_after_storeObject (h : ObjStore s) {now : Now} {metaData : MetaData}
    {data : Option Bytes} {status : String}
    (hok : (s.storeObject now metaData data status).1 = .ok ()) :
    let s' := (s.storeObject now metaData data status).2
    s'.retrieveObjectAndStatus metaData.destOrgID metaData.objectType metaData.objectID =
        .ok (some (if status = NotReadyToSend ∨ status = ReadyToSend then
          { metaData with instanceID := now.unixNano } else metaData, status)) ∧
      s'.getObjectDestinationsList metaData.destOrgID metaData.objectType metaData.objectID =
        .ok (if status = NotReadyToSend ∨ status = ReadyToSend then
          s.createDestinations { metaData with instanceID := now.unixNano } else []) ∧
      s'.retrieveObjectRemainingConsumers metaData.destOrgID metaData.objectType
        metaData.objectID = .ok metaData.expectedConsumers := by
  obtain ⟨o, hf, hm, hs, hr, hd⟩ := storeObject_fetch h hok
  simp only [retrieveObjectAndStatus, getObjectDestinationsList, retrieveObjectRemainingConsumers]
  rw [show createObjectCollectionID metaData.destOrgID metaData.objectType metaData.objectID =
    getObjectCollectionID metaData from rfl, hf]
  simp only [hm, hs, hr, hd, and_self]

/-! ### Counters -/

/-- An update by id of a document that `fetchOne` finds succeeds, and `fetchOne` then returns
the document it wrote. -/
theorem updateObject_by_id (h : ObjStore s) {id : String} {o : Object} (set : Object → Object)
    (cd : Bool) (hf : s.fetchObject id = .ok o) (hset : ∀ x, QuietEdit x (set x)) :
    ∃ s', s.updateObject (fun o => o.id == id) set cd = .ok s' ∧
      s'.fetchObject id = .ok (s.stamped set cd o) := by
  have hfind := fetchObject_ok hf
  have hid : o.id = id := by simpa using List.find?_some hfind
  rcases hu : s.updateObject (fun o => o.id == id) set cd with e | s'
  · unfold updateObject at hu
    split at hu
    · cases hu
    · rename_i hn
      exact absurd (updateFirst_eq_none.mp hn o (List.mem_of_find?_eq_some hfind)) (by simp [hid])
  · obtain ⟨a, x, b, -, hx, hs', -⟩ := updateObject_eq hu
    rw [hfind, Option.some.injEq] at hx
    subst hx
    have hsid : (s.stamped set cd o).id = id := by
      unfold stamped; split <;> exact (hset o).1.trans hid
    refine ⟨s', rfl, hsid ▸ (updateObject_quiet h hu fun x _ => hset x).store.fetchObject ?_⟩
    rw [hs']; simp

/-- **`DecrementAndReturnRemainingConsumers` and `DecrementAndReturnRemainingReceivers`
return the count they leave**: one less than the count of the object before, which the
object then holds. -/
theorem decrementAndReturnRemaining_returns (h : ObjStore s) (c : Counter)
    {orgID objectType objectID : String} {o : Object}
    (hf : s.fetchObject (createObjectCollectionID orgID objectType objectID) = .ok o) :
    (decrementAndReturnRemaining c s orgID objectType objectID).1 = .ok (c.get o - 1) ∧
      ∃ o', (decrementAndReturnRemaining c s orgID objectType objectID).2.fetchObject
        (createObjectCollectionID orgID objectType objectID) = .ok o' ∧ c.get o' = c.get o - 1 := by
  obtain ⟨s', hu, hf'⟩ := updateObject_by_id h c.dec true hf fun _ => by
    cases c <;> exact ⟨rfl, rfl, rfl, rfl⟩
  simp only [decrementAndReturnRemaining, hu, hf']
  cases c <;> exact ⟨rfl, _, rfl, rfl⟩

/-! ### Reading back a stored destination -/

/-- The destination documents have distinct ids, each the key of its destination. -/
structure DestinationsKeyed (s : MongoStorage) : Prop where
  ids : (s.destinations.map DestinationObject.id).Nodup
  keys : ∀ d ∈ s.destinations, d.id = getDestinationCollectionID d.destination

theorem DestinationsKeyed.empty : DestinationsKeyed MongoStorage.empty :=
  ⟨List.nodup_nil, fun _ h => nomatch h⟩

theorem DestinationsKeyed.of_sublist (h : DestinationsKeyed s)
    (hs : s'.destinations.Sublist s.destinations) : DestinationsKeyed s' :=
  ⟨(hs.map _).nodup h.ids, fun d hd => h.keys d (hs.subset hd)⟩

theorem DestinationsKeyed.deleteDestination (h : DestinationsKeyed s) (orgID destType destID : String) :
    DestinationsKeyed (s.deleteDestination orgID destType destID) :=
  h.of_sublist (List.filter_sublist _)

/-- **Spec lemma of `StoreDestination`**: it keeps the collection keyed, and when it succeeds
the destination is stored under its key. -/
theorem DestinationsKeyed.storeDestination (h : DestinationsKeyed s) (destination : Destination) :
    DestinationsKeyed (s.storeDestination destination).2 ∧
      ((s.storeDestination destination).1 = .ok () →
        (s.storeDestination destination).2.fetchDestination (getDestinationCollectionID destination) =
          .ok ⟨getDestinationCollectionID destination, destination⟩) := by
  unfold MongoStorage.storeDestination
  dsimp only
  split
  · rename_i ds hu
    obtain ⟨hn, hf⟩ := upsertDoc_keyed h.ids hu
      fun d hd => by simp only [Bool.and_eq_true, beq_iff_eq] at hd; exact hd.1
    refine ⟨⟨hn, fun d hd => ?_⟩, fun _ => by simp only [fetchDestination]; rw [hf]⟩
    rcases mem_upsertDoc hu d hd with rfl | hd
    · rfl
    · exact h.keys d hd
  · exact ⟨h, fun hok => by cases hok⟩

/-- **What a successful `StoreDestination` reads back**: `RetrieveDestination` returns the
destination, `DestinationExists` finds it, and `RetrieveDestinationProtocol` returns its
protocol. -/
theorem readback_after_storeDestination (h : DestinationsKeyed s) (destination : Destination)
    (hok : (s.storeDestination destination).1 = .ok ()) :
    let s' := (s.storeDestination destination).2
    s'.retrieveDestination destination.destOrgID destination.destType destination.destID =
        .ok destination ∧
      s'.destinationExists destination.destOrgID destination.destType destination.destID =
        .ok true ∧
      s'.retrieveDestinationProtocol destination.destOrgID destination.destType
        destination.destID = .ok destination.communication := by
  have hf := (h.storeDestination destination).2 hok
  simp only [retrieveDestination, destinationExists, retrieveDestinationProtocol]
  rw [show createDestinationCollectionID destination.destOrgID destination.destType
    destination.destID = getDestinationCollectionID destination from rfl, hf]
  exact ⟨rfl, rfl, rfl⟩

/-- **When `StoreDestination` fails.**  In a keyed collection, `StoreDestination` fails
exactly when a destination of another org is stored under the same key: the upsert's filter
also asks for the org, which the key `orgID:destType:destID` does not tell apart when the ids
hold a `:`, and the insert then hits the key. -/
theorem storeDestination_fails_iff (h : DestinationsKeyed s) (destination : Destination) :
    (s.storeDestination destination).1 ≠ .ok () ↔
      ∃ d ∈ s.destinations, d.id = getDestinationCollectionID destination ∧
        d.destination.destOrgID ≠ destination.destOrgID := by
  unfold MongoStorage.storeDestination
  dsimp only
  split
  · rename_i ds hu
    simp only [ne_eq, not_true_eq_false, false_iff, not_exists, not_and, not_not]
    intro d hd hid
    unfold upsertDoc at hu
    split at hu
    · rename_i hupd
      obtain ⟨a, x, b, hs, -, hx, -⟩ := updateFirst_eq_some hupd
      simp only [Bool.and_eq_true, beq_iff_eq] at hx
      have hxm : x ∈ s.destinations := by rw [hs]; simp
      rw [List.inj_on_of_nodup_map h.ids hd hxm (hid.trans hx.1.symm)]
      exact hx.2
    · split at hu
      · cases hu
      · rename_i hany
        exact (hany (List.any_eq_true.mpr ⟨d, hd, beq_iff_eq.mpr hid⟩)).elim
  · rename_i e hu
    simp only [ne_eq, reduceCtorEq, not_false_eq_true, true_iff]
    unfold upsertDoc at hu
    split at hu
    · cases hu
    · rename_i hnone
      split at hu
      · rename_i hany
        obtain ⟨d, hd, hid⟩ := List.any_eq_true.mp hany
        have hid := beq_iff_eq.mp hid
        refine ⟨d, hd, hid, fun horg => ?_⟩
        have := updateFirst_eq_none.mp hnone d hd
        simp [hid, horg] at this
      · cases hu

/-- Two destinations whose ids hold a colon: `a:b/c/d` and `a/b:c/d` share the key `a:b:c:d`. -/
theorem storeDestination_fails_iff_colliding :
    let s : MongoStorage := (MongoStorage.empty.storeDestination ⟨"a:b", "c", "d", "mqtt"⟩).2
    DestinationsKeyed s ∧
      ((s.storeDestination ⟨"a", "b:c", "d", "http"⟩).1 ≠ .ok () ↔
        ∃ d ∈ s.destinations, d.id = getDestinationCollectionID ⟨"a", "b:c", "d", "http"⟩ ∧
          d.destination.destOrgID ≠ "a") := by
  intro s
  have h : DestinationsKeyed s := (DestinationsKeyed.empty.storeDestination _).1
  exact ⟨h, storeDestination_fails_iff h _⟩

example : (({ MongoStorage.empty with
      destinations := [⟨"a:b:c:d", ⟨"a:b", "c", "d", ""⟩⟩] } : MongoStorage).storeDestination
      ⟨"a", "b:c", "d", ""⟩).1 ≠ .ok () := by decide

end MongoStorage

end EdgeSync
