import EdgeSync.Storage.Backend

/-!
# The object operations of `MongoStorage`

The functions of `MongoStorage` that write the `objects` collection, each a function from a
store to its result and the store it leaves, run on its own (the interleavings of their
backend calls are in `EdgeSync.Storage.Interleaving`).  The read-modify-write operations
follow the source's retry loop: fetch the document, compute the new field values, and write
them with an update conditional on the `last-update` seen, at most `maxUpdateTries` times.

`createDestinations` and `copyDataToFile` are helpers of the repository that are not part
of the sources at hand, and are modelled from the specification.
-/

namespace EdgeSync

namespace MongoStorage

/-- `maxUpdateTries`. -/
def maxUpdateTries : Nat := 5

/-! ### Destinations -/

/-- `RetrieveDestination`. -/
def retrieveDestination (s : MongoStorage) (orgID destType destID : String) :
    Except SyncServiceError Destination :=
  match s.fetchDestination (createDestinationCollectionID orgID destType destID) with
  | .ok d => .ok d.destination
  | .error e => .error (.error s!"Failed to fetch the destination. Error: {e.text}.")

/-- `StoreDestination`. -/
def storeDestination (s : MongoStorage) (destination : Destination) :
    Except SyncServiceError Unit × MongoStorage :=
  let id := getDestinationCollectionID destination
  match upsertDoc DestinationObject.id
      (fun d => d.id == id && d.destination.destOrgID == destination.destOrgID)
      { id := id, destination := destination } s.destinations with
  | .ok destinations => (.ok (), { s with destinations := destinations })
  | .error e => (.error (.error s!"Failed to store a destination. Error: {e.text}."), s)

/-- `DeleteDestination`. -/
def deleteDestination (s : MongoStorage) (orgID destType destID : String) : MongoStorage :=
  let id := createDestinationCollectionID orgID destType destID
  { s with destinations := s.destinations.filter fun d => d.id != id }

/-- Modelled from the spec: `createDestinations`, the destinations of an object stored at its
origin (§4.3, "Destination computation"): the destinations of its org, of its destination
type and id when these are set, each `Pending`. -/
def createDestinations (s : MongoStorage) (metaData : MetaData) : List StoreDestinationStatus :=
  (s.destinations.filter fun d =>
      d.destination.destOrgID == metaData.destOrgID &&
      (metaData.destType == "" || d.destination.destType == metaData.destType) &&
      (metaData.destID == "" || d.destination.destID == metaData.destID)).map
    fun d => { destination := d.destination, status := Pending, message := "" }

@[simp] theorem createDestinations_removeFile (s : MongoStorage) (id : String) :
    (s.removeFile id).createDestinations = s.createDestinations := rfl
@[simp] theorem createDestinations_storeDataInFile (s : MongoStorage) (id : String) (data : Bytes) :
    (s.storeDataInFile id data).createDestinations = s.createDestinations := rfl

/-! ### Storing objects and their data -/

/-- `StoreObject`.  An object stored with status `NotReadyToSend` or `ReadyToSend` comes
from a service of this node: it gets a new instance id and its destinations. -/
def storeObject (s : MongoStorage) (now : Now) (metaData : MetaData) (data : Option Bytes)
    (status : String) : Except SyncServiceError Unit × MongoStorage :=
  let id := getObjectCollectionID metaData
  let s := match data with
    | some data => s.storeDataInFile id data
    | none => if !metaData.metaOnly || metaData.noData then s.removeFile id else s
  let origin := status == NotReadyToSend || status == ReadyToSend
  let metaData := if origin then { metaData with instanceID := now.unixNano } else metaData
  let dests := if origin then s.createDestinations metaData else []
  let newObject : Object :=
    { id := id, metaData := metaData, status := status,
      remainingConsumers := metaData.expectedConsumers,
      remainingReceivers := metaData.expectedConsumers, destinations := dests, lastUpdate := 0 }
  match s.upsertObject (fun o => o.id == id && o.metaData.destOrgID == metaData.destOrgID)
      newObject with
  | .ok s => (.ok (), s)
  | .error e => (.error (.error s!"Failed to store an object. Error: {e.text}."), s)

/-- Modelled from the spec: `copyDataToFile(id, dataReader, true, true)`, the single-shot
`Store` of §4.1: the data replaces the file at once, and its size is returned. -/
def copyDataToFile (s : MongoStorage) (id : String) (dataReader : Bytes) : MongoStorage × Int :=
  (s.storeDataInFile id dataReader, dataReader.length)

/-- The shape of `UpdateObjectStatus`, `MarkObjectDeleted` and `ActivateObject`: a `$set` on
the object `id` with a fresh `last-update`, failing with the text `failure`. -/
def setObjectFields (s : MongoStorage) (id : String) (set : Object → Object) (failure : String) :
    Except SyncServiceError Unit × MongoStorage :=
  match s.updateObject (fun o => o.id == id) set true with
  | .ok s => (.ok (), s)
  | .error e => (.error (.error s!"{failure} Error: {e.text}."), s)

/-- `UpdateObjectStatus`. -/
def updateObjectStatus (s : MongoStorage) (orgID objectType objectID status : String) :
    Except SyncServiceError Unit × MongoStorage :=
  s.setObjectFields (createObjectCollectionID orgID objectType objectID)
    (fun o => { o with status := status }) "Failed to update object's status."

/-- `MarkObjectDeleted`. -/
def markObjectDeleted (s : MongoStorage) (orgID objectType objectID : String) :
    Except SyncServiceError Unit × MongoStorage :=
  s.setObjectFields (createObjectCollectionID orgID objectType objectID)
    (fun o => { o with status := ObjDeleted, metaData := { o.metaData with deleted := true } })
    "Failed to mark object as deleted."

/-- `ActivateObject`. -/
def activateObject (s : MongoStorage) (orgID objectType objectID : String) :
    Except SyncServiceError Unit × MongoStorage :=
  s.setObjectFields (createObjectCollectionID orgID objectType objectID)
    (fun o => { o with metaData := { o.metaData with inactive := false } })
    "Failed to mark object as active."

/-- `StoreObjectData`: `false` when the object does not exist.  The status change of an
object that was not ready is not checked for errors, as in the source. -/
def storeObjectData (s : MongoStorage) (now : Now) (orgID objectType objectID : String)
    (dataReader : Bytes) : Except SyncServiceError Bool × MongoStorage :=
  let id := createObjectCollectionID orgID objectType objectID
  match s.fetchObject id with
  | .error .notFound => (.ok false, s)
  | .error e => (.error (.error s!"Failed to store the data. Error: {e.text}."), s)
  | .ok result =>
    let prepared : Except SyncServiceError MongoStorage :=
      if result.status == NotReadyToSend then
        .ok (s.updateObjectStatus orgID objectType objectID ReadyToSend).2
      else if result.status == ReadyToSend then
        match s.updateObject (fun o => o.id == id)
            (fun o => { o with metaData := { o.metaData with instanceID := now.unixNano } }) true with
        | .ok s => .ok s
        | .error e => .error (.error s!"Failed to set instance id. Error: {e.text}.")
      else .ok s
    match prepared with
    | .error e => (.error e, s)
    | .ok s =>
      let (s, size) := s.copyDataToFile id dataReader
      match s.updateObject (fun o => o.id == id)
          (fun o => { o with metaData := { o.metaData with objectSize := size } }) false with
      | .ok s => (.ok true, s)
      | .error e => (.error (.error s!"Failed to update object's size. Error: {e.text}."), s)

/-- `DeleteStoredObject`: the failure to remove the data is only logged. -/
def deleteStoredObject (s : MongoStorage) (orgID objectType objectID : String) : MongoStorage :=
  let id := createObjectCollectionID orgID objectType objectID
  (s.removeFile id).removeObjects fun o => o.id == id

/-- `DeleteStoredData`. -/
def deleteStoredData (s : MongoStorage) (orgID objectType objectID : String) : MongoStorage :=
  s.removeFile (createObjectCollectionID orgID objectType objectID)

/-! ### Delivery status -/

/-- The loop of `UpdateObjectDeliveryStatus` over the destinations.  The first entry for
`(destType, destID)` takes the message (when one is given or the entry is in `Error`) and
the status (when one is given); `allConsumed` records whether every other entry is
`Consumed`.  Returns `found`, `allConsumed` and the new list. -/
def markDestination (status message destType destID : String) :
    Bool → List StoreDestinationStatus → Bool × Bool × List StoreDestinationStatus
  | found, [] => (found, true, [])
  | found, d :: ds =>
    if !found && d.destination.destType == destType && d.destination.destID == destID then
      let d' := { d with message := if message != "" || d.status == Error then message else d.message,
                         status := if status != "" then status else d.status }
      let rest := markDestination status message destType destID true ds
      (rest.1, rest.2.1, d' :: rest.2.2)
    else
      let rest := markDestination status message destType destID found ds
      (rest.1, rest.2.1 && d.status == Consumed, d :: rest.2.2)

/-- What one attempt of `UpdateObjectDeliveryStatus` writes over the document it fetched:
`none` when no entry is for the destination. -/
def deliveryStatusWrite (now : Now) (status message destType destID : String) (result : Object) :
    Option (Object → Object) :=
  let (found, allConsumed, dests) := markDestination status message destType destID false result.destinations
  if !found then none
  else if result.metaData.autoDelete && status == Consumed && allConsumed &&
      result.metaData.expiration == "" then
    some fun o => { o with destinations := dests,
                           metaData := { o.metaData with expiration := now.inOneHour } }
  else some fun o => { o with destinations := dests }

/-- The attempts of a read-modify-write on the object `id`: fetch it, compute the write, and
commit it conditionally on the `last-update` fetched; a lost race starts a new attempt. -/
def retryUpdate (id : String) (write : Object → Except SyncServiceError (Object → Object)) :
    Nat → MongoStorage → Except SyncServiceError Unit × MongoStorage
  | 0, s => (.error (.error "Failed to update object's destinations."), s)
  | n + 1, s =>
    match s.fetchObject id with
    | .error e => (.error (.error s!"Failed to retrieve object. Error: {e.text}."), s)
    | .ok result =>
      match write result with
      | .error e => (.error e, s)
      | .ok set =>
        match s.updateObject (fun o => o.id == id && o.lastUpdate == result.lastUpdate) set true with
        | .ok s => (.ok (), s)
        | .error .notFound => retryUpdate id write n s
        | .error e => (.error (.error s!"Failed to update object's destinations. Error: {e.text}."), s)

/-- The write of one attempt of `UpdateObjectDeliveryStatus` over the document it fetched. -/
def deliveryStatusUpdate (now : Now) (status message destType destID : String) (result : Object) :
    Except SyncServiceError (Object → Object) :=
  match deliveryStatusWrite now status message destType destID result with
  | some set => .ok set
  | none => .error (.error "Failed to find destination.")

/-- `UpdateObjectDeliveryStatus`. -/
def updateObjectDeliveryStatus (s : MongoStorage) (now : Now)
    (status message orgID objectType objectID destType destID : String) :
    Except SyncServiceError Unit × MongoStorage :=
  if status == "" && message == "" then (.ok (), s)
  else
    retryUpdate (createObjectCollectionID orgID objectType objectID)
      (deliveryStatusUpdate now status message destType destID) maxUpdateTries s

/-- The write of one attempt of `UpdateObjectDelivering`: every destination fetched becomes
`Delivering`. -/
def deliveringUpdate (result : Object) : Except SyncServiceError (Object → Object) :=
  .ok fun o => { o with destinations := result.destinations.map fun d => { d with status := Delivering } }

/-- `UpdateObjectDelivering`. -/
def updateObjectDelivering (s : MongoStorage) (orgID objectType objectID : String) :
    Except SyncServiceError Unit × MongoStorage :=
  retryUpdate (createObjectCollectionID orgID objectType objectID) deliveringUpdate maxUpdateTries s

/-! ### Counters -/

/-- The two counters of an object. -/
inductive Counter
  | consumers
  | receivers
deriving DecidableEq, Repr

/-- The value of a counter. -/
def Counter.get : Counter → Object → Int
  | .consumers, o => o.remainingConsumers
  | .receivers, o => o.remainingReceivers

/-- `$inc` of a counter by `-1`. -/
def Counter.dec : Counter → Object → Object
  | .consumers, o => { o with remainingConsumers := o.remainingConsumers - 1 }
  | .receivers, o => { o with remainingReceivers := o.remainingReceivers - 1 }

/-- The name of a counter in the error texts. -/
def Counter.name : Counter → String
  | .consumers => "consumers"
  | .receivers => "receivers"

/-- The shape of `DecrementAndReturnRemainingConsumers` and
`DecrementAndReturnRemainingReceivers`: decrement the counter, then read it back. -/
def decrementAndReturnRemaining (c : Counter) (s : MongoStorage) (orgID objectType objectID : String) :
    Except SyncServiceError Int × MongoStorage :=
  let id := createObjectCollectionID orgID objectType objectID
  match s.updateObject (fun o => o.id == id) c.dec true with
  | .error e =>
    (.error (.error s!"Failed to decrement object's remaining {c.name}. Error: {e.text}."), s)
  | .ok s =>
    match s.fetchObject id with
    | .error e =>
      (.error (.error s!"Failed to retrieve object's remaining {c.name}. Error: {e.text}."), s)
    | .ok result => (.ok (c.get result), s)

/-- `DecrementAndReturnRemainingConsumers`. -/
def decrementAndReturnRemainingConsumers (s : MongoStorage) (orgID objectType objectID : String) :
    Except SyncServiceError Int × MongoStorage :=
  decrementAndReturnRemaining .consumers s orgID objectType objectID

/-- `DecrementAndReturnRemainingReceivers`. -/
def decrementAndReturnRemainingReceivers (s : MongoStorage) (orgID objectType objectID : String) :
    Except SyncServiceError Int × MongoStorage :=
  decrementAndReturnRemaining .receivers s orgID objectType objectID

/-- `ResetObjectRemainingConsumers`: the count of expected consumers is read first, and
written by a second call. -/
def resetObjectRemainingConsumers (s : MongoStorage) (orgID objectType objectID : String) :
    Except SyncServiceError Unit × MongoStorage :=
  let id := createObjectCollectionID orgID objectType objectID
  match s.fetchObject id with
  | .error e => (.error (.error s!"Failed to retrieve object. Error: {e.text}."), s)
  | .ok result =>
    match s.updateObject (fun o => o.id == id)
        (fun o => { o with remainingConsumers := result.metaData.expectedConsumers }) true with
    | .ok s => (.ok (), s)
    | .error e => (.error (.error s!"Failed to reset object's remaining comsumers. Error: {e.text}."), s)

/-! ### Registering a destination -/

/-- The objects `RetrieveObjects` fetches: those of the org that are ready or not ready to
send. -/
def retrieveObjectsQuery (orgID : String) (o : Object) : Bool :=
  o.metaData.destOrgID == orgID && (o.status == ReadyToSend || o.status == NotReadyToSend)

/-- Whether an object is meant for a destination: its destination type and id, when set. -/
def objectMatches (destType destID : String) (r : Object) : Bool :=
  (r.metaData.destType == "" || r.metaData.destType == destType) &&
    (r.metaData.destID == "" || r.metaData.destID == destID)

/-- Whether `RetrieveObjects` returns an object, and marks it `Delivering`: it is ready to send
and active. -/
def readyToDeliver (r : Object) : Bool := r.status == ReadyToSend && !r.metaData.inactive

/-- How a pass of `RetrieveObjects` over the fetched objects ends. -/
inductive ScanEnd
  | done (metaDatas : List MetaData) (s : MongoStorage)
  | conflict (s : MongoStorage)
  | failed (e : SyncServiceError) (s : MongoStorage)

/-- The store a pass leaves. -/
def ScanEnd.store : ScanEnd → MongoStorage
  | .done _ s => s
  | .conflict s => s
  | .failed _ s => s

/-- One pass of `RetrieveObjects` over the fetched objects: every object for the
destination that is ready and active is returned, and each one for the destination gets the
destination appended, `Delivering` or `Pending`, by an update conditional on the
`last-update` fetched.  A lost race ends the pass (`continue OUTER`). -/
def scanObjects (orgID destType destID : String) :
    MongoStorage → List Object → List MetaData → ScanEnd
  | s, [], metaDatas => .done metaDatas s
  | s, r :: rs, metaDatas =>
    if objectMatches destType destID r then
      let metaDatas := if readyToDeliver r then metaDatas ++ [r.metaData] else metaDatas
      let status := if readyToDeliver r then Delivering else Pending
      match s.retrieveDestination orgID destType destID with
      | .ok dest =>
        let dests := r.destinations ++ [{ destination := dest, status := status, message := "" }]
        let id := createObjectCollectionID orgID r.metaData.objectType r.metaData.objectID
        match s.updateObject (fun o => o.id == id && o.lastUpdate == r.lastUpdate)
            (fun o => { o with destinations := dests }) true with
        | .ok s => scanObjects orgID destType destID s rs metaDatas
        | .error .notFound => .conflict s
        | .error e => .failed (.error s!"Failed to update object's destinations. Error: {e.text}.") s
      | .error _ => scanObjects orgID destType destID s rs metaDatas
    else scanObjects orgID destType destID s rs metaDatas

/-- The passes of `RetrieveObjects`, at most `maxUpdateTries`. -/
def retrieveObjectsLoop (orgID destType destID : String) :
    Nat → MongoStorage → Except SyncServiceError (List MetaData) × MongoStorage
  | 0, s => (.error (.error "Failed to update object's destinations."), s)
  | n + 1, s =>
    match scanObjects orgID destType destID s (s.objects.filter (retrieveObjectsQuery orgID)) [] with
    | .done metaDatas s => (.ok metaDatas, s)
    | .conflict s => retrieveObjectsLoop orgID destType destID n s
    | .failed e s => (.error e, s)

/-- `RetrieveObjects`: the objects to send to a destination that registers, which is added
to the destinations of every object meant for it. -/
def retrieveObjects (s : MongoStorage) (orgID destType destID : String) :
    Except SyncServiceError (List MetaData) × MongoStorage :=
  retrieveObjectsLoop orgID destType destID maxUpdateTries s

end MongoStorage

end EdgeSync
