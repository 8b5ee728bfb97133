import EdgeSync.Storage.Store

/-!
# Concurrent calls on the `objects` collection

The read-modify-write calls on an object's destinations, `UpdateObjectDeliveryStatus`,
`UpdateObjectDelivering` and `RetrieveObjects`, are made of several backend calls: a fetch,
then an update conditional on the `last-update` token fetched, retried when the token has
changed.  Here each call in flight is a process with a program counter, and a run interleaves
the single steps of the processes, each one backend call, with the calls of the other writers
of the object documents, each of which writes a document in one backend call.

The run keeps a ghost log `hist` of the writes committed to destinations lists, each as the
transformation the call means to apply (`DestWrite`).  A store is linearizable on an object
when the object's destinations list is the log's writes applied in commit order; every run
from a store with no objects keeps it so (`EdgeSync.Storage.Linearizable`).  A call of
`RetrieveObjects` may commit its append to one object more than once: a pass that loses a
race on a later object is started over, and the new pass appends the destination again to
the objects the earlier pass updated (`retrieveObjects_appends_twice`).

A process running alone computes what the sequential model computes (`rmw_run_alone`,
`retrieveObjects_run_alone`); a read-modify-write call alone never retries.
-/

namespace EdgeSync

namespace MongoStorage

/-! ### Writes to a destinations list -/

/-- What a committed write does to the destinations list of the object it writes. -/
inductive DestWrite
  /-- `StoreObject` puts the destinations it computed. -/
  | stored (dests : List StoreDestinationStatus)
  /-- `UpdateObjectDelivering` marks every destination `Delivering`. -/
  | delivering
  /-- `UpdateObjectDeliveryStatus` marks the destination `(destType, destID)`. -/
  | deliveryStatus (status message destType destID : String)
  /-- `RetrieveObjects` appends the destination that registers. -/
  | added (entry : StoreDestinationStatus)
deriving DecidableEq, Repr

/-- The list a write leaves, from the list it finds. -/
def DestWrite.apply : DestWrite → List StoreDestinationStatus → List StoreDestinationStatus
  | .stored dests, _ => dests
  | .delivering, ds => ds.map fun d => { d with status := Delivering }
  | .deliveryStatus status message destType destID, ds =>
    (markDestination status message destType destID false ds).2.2
  | .added entry, ds => ds ++ [entry]

/-! ### Processes -/

/-- A read-modify-write call on one object's destinations. -/
inductive RmwCall
  | updateObjectDeliveryStatus (now : Now)
      (status message orgID objectType objectID destType destID : String)
  | updateObjectDelivering (orgID objectType objectID : String)
deriving DecidableEq, Repr

/-- The id of the object a call writes. -/
def RmwCall.id : RmwCall → String
  | .updateObjectDeliveryStatus _ _ _ orgID objectType objectID _ _ =>
    createObjectCollectionID orgID objectType objectID
  | .updateObjectDelivering orgID objectType objectID =>
    createObjectCollectionID orgID objectType objectID

/-- The write of one attempt of a call, over the document it fetched. -/
def RmwCall.update : RmwCall → Object → Except SyncServiceError (Object → Object)
  | .updateObjectDeliveryStatus now status message _ _ _ destType destID =>
    deliveryStatusUpdate now status message destType destID
  | .updateObjectDelivering .. => deliveringUpdate

/-- What a call means to do to the destinations list. -/
def RmwCall.destWrite : RmwCall → DestWrite
  | .updateObjectDeliveryStatus _ status message _ _ _ destType destID =>
    .deliveryStatus status message destType destID
  | .updateObjectDelivering .. => .delivering

/-- The program counter of a read-modify-write call: the fetch of an attempt, with the attempts
left; its conditional update, with the document fetched; or the call's return. -/
inductive RmwPc
  | fetch (tries : Nat)
  | commit (tries : Nat) (result : Object)
  | done (result : Except SyncServiceError Unit)
deriving DecidableEq, Repr

/-- The program counter of `RetrieveObjects`: the fetch of a pass; the objects of the pass
still to look at, with the metadata gathered; the conditional update of one of them; or the
call's return. -/
inductive ScanPc
  | fetch (tries : Nat)
  | scan (tries : Nat) (rs : List Object) (metaDatas : List MetaData)
  | commit (tries : Nat) (r : Object) (rs : List Object) (metaDatas : List MetaData)
      (entry : StoreDestinationStatus)
  | done (result : Except SyncServiceError (List MetaData))
deriving DecidableEq, Repr

/-- A call in flight. -/
inductive Proc
  | rmw (call : RmwCall) (pc : RmwPc)
  | retrieveObjects (orgID destType destID : String) (pc : ScanPc)
deriving DecidableEq, Repr

/-- Where a call starts: `UpdateObjectDeliveryStatus` with neither a status nor a message
returns at once. -/
def RmwCall.start : RmwCall → RmwPc
  | .updateObjectDeliveryStatus _ status message .. =>
    if status == "" && message == "" then .done (.ok ()) else .fetch maxUpdateTries
  | .updateObjectDelivering .. => .fetch maxUpdateTries

/-- One step of a read-modify-write call: one backend call.  Returns the new program counter,
the store, and the destinations write committed. -/
def RmwCall.step (c : RmwCall) (s : MongoStorage) :
    RmwPc → RmwPc × MongoStorage × List (String × DestWrite)
  | .fetch 0 => (.done (.error (.error "Failed to update object's destinations.")), s, [])
  | .fetch (n + 1) =>
    match s.fetchObject c.id with
    | .error e => (.done (.error (.error s!"Failed to retrieve object. Error: {e.text}.")), s, [])
    | .ok result => (.commit n result, s, [])
  | .commit n result =>
    match c.update result with
    | .error e => (.done (.error e), s, [])
    | .ok set =>
      match s.updateObject (fun o => o.id == c.id && o.lastUpdate == result.lastUpdate) set true with
      | .ok s' => (.done (.ok ()), s', [(c.id, c.destWrite)])
      | .error .notFound => (.fetch n, s, [])
      | .error e =>
        (.done (.error (.error s!"Failed to update object's destinations. Error: {e.text}.")), s, [])
  | .done r => (.done r, s, [])

/-- One step of `RetrieveObjects`: one backend call.  Looking at an object meant for the
destination reads the destination; the update of the object is the next step. -/
def scanStep (orgID destType destID : String) (s : MongoStorage) :
    ScanPc → ScanPc × MongoStorage × List (String × DestWrite)
  | .fetch 0 => (.done (.error (.error "Failed to update object's destinations.")), s, [])
  | .fetch (n + 1) => (.scan n (s.objects.filter (retrieveObjectsQuery orgID)) [], s, [])
  | .scan _ [] metaDatas => (.done (.ok metaDatas), s, [])
  | .scan n (r :: rs) metaDatas =>
    if objectMatches destType destID r then
      let metaDatas := if readyToDeliver r then metaDatas ++ [r.metaData] else metaDatas
      let status := if readyToDeliver r then Delivering else Pending
      match s.retrieveDestination orgID destType destID with
      | .ok dest => (.commit n r rs metaDatas { destination := dest, status := status, message := "" }, s, [])
      | .error _ => (.scan n rs metaDatas, s, [])
    else (.scan n rs metaDatas, s, [])
  | .commit n r rs metaDatas entry =>
    let id := createObjectCollectionID orgID r.metaData.objectType r.metaData.objectID
    match s.updateObject (fun o => o.id == id && o.lastUpdate == r.lastUpdate)
        (fun o => { o with destinations := r.destinations ++ [entry] }) true with
    | .ok s' => (.scan n rs metaDatas, s', [(id, .added entry)])
    | .error .notFound => (.fetch n, s, [])
    | .error e =>
      (.done (.error (.error s!"Failed to update object's destinations. Error: {e.text}.")), s, [])
  | .done r => (.done r, s, [])

/-- One step of a call in flight. -/
def Proc.step (s : MongoStorage) : Proc → Proc × MongoStorage × List (String × DestWrite)
  | .rmw c pc => let r := c.step s pc; (.rmw c r.1, r.2)
  | .retrieveObjects orgID destType destID pc =>
    let r := scanStep orgID destType destID s pc; (.retrieveObjects orgID destType destID r.1, r.2)

/-! ### The other writers -/

/-- A call of the other writers of an object document, each one backend write of the
document: `StoreObject`'s upsert, the updates of the status, of the flags and of the
counters, and those of `StoreObjectData`; and the writes of the `destinations` collection,
which `RetrieveObjects` reads. -/
inductive ObjectCall
  | storeObject (now : Now) (metaData : MetaData) (data : Option Bytes) (status : String)
  | storeObjectData (now : Now) (orgID objectType objectID : String) (dataReader : Bytes)
  | updateObjectStatus (orgID objectType objectID status : String)
  | markObjectDeleted (orgID objectType objectID : String)
  | activateObject (orgID objectType objectID : String)
  | decrementAndReturnRemainingConsumers (orgID objectType objectID : String)
  | decrementAndReturnRemainingReceivers (orgID objectType objectID : String)
  | resetObjectRemainingConsumers (orgID objectType objectID : String)
  | storeDestination (destination : Destination)
  | deleteDestination (orgID destType destID : String)

/-- The call as an operation of the store. -/
def ObjectCall.toStoreOp : ObjectCall → StoreOp
  | .storeObject now metaData data status => .storeObject now metaData data status
  | .storeObjectData now orgID objectType objectID dataReader =>
    .storeObjectData now orgID objectType objectID dataReader
  | .updateObjectStatus orgID objectType objectID status =>
    .updateObjectStatus orgID objectType objectID status
  | .markObjectDeleted orgID objectType objectID => .markObjectDeleted orgID objectType objectID
  | .activateObject orgID objectType objectID => .activateObject orgID objectType objectID
  | .decrementAndReturnRemainingConsumers orgID objectType objectID =>
    .decrementAndReturnRemainingConsumers orgID objectType objectID
  | .decrementAndReturnRemainingReceivers orgID objectType objectID =>
    .decrementAndReturnRemainingReceivers orgID objectType objectID
  | .resetObjectRemainingConsumers orgID objectType objectID =>
    .resetObjectRemainingConsumers orgID objectType objectID
  | .storeDestination destination => .storeDestination destination
  | .deleteDestination orgID destType destID => .deleteDestination orgID destType destID

/-- The destinations write a call commits: `StoreObject` puts the destinations of the
document it stored; the others write no destinations. -/
def ObjectCall.commits (s : MongoStorage) : ObjectCall → List (String × DestWrite)
  | .storeObject now metaData data status =>
    let r := s.storeObject now metaData data status
    match r.1, r.2.fetchObject (getObjectCollectionID metaData) with
    | .ok (), .ok o => [(o.id, .stored o.destinations)]
    | _, _ => []
  | _ => []

/-! ### Runs -/

/-- The store, the calls in flight, and the ghost log of the destinations writes committed. -/
structure Sys where
  store : MongoStorage
  procs : List Proc
  hist : List (String × DestWrite)

/-- An event of a run: a step of the call in flight at an index, or a call of another
writer. -/
inductive Event
  | step (i : Nat)
  | call (c : ObjectCall)

/-- The system after an event. -/
def Sys.event (sys : Sys) : Event → Sys
  | .step i =>
    match sys.procs[i]? with
    | some p =>
      let r := p.step sys.store
      { store := r.2.1, procs := sys.procs.set i r.1, hist := sys.hist ++ r.2.2 }
    | none => sys
  | .call c =>
    { sys with store := c.toStoreOp.run sys.store, hist := sys.hist ++ c.commits sys.store }

/-- The system after a run of events. -/
def Sys.run (sys : Sys) (es : List Event) : Sys := es.foldl Sys.event sys

@[simp] theorem Sys.run_nil (sys : Sys) : sys.run [] = sys := rfl

@[simp] theorem Sys.run_cons (sys : Sys) (e : Event) (es : List Event) :
    sys.run (e :: es) = (sys.event e).run es := rfl

theorem Sys.run_append (sys : Sys) (es es' : List Event) :
    sys.run (es ++ es') = (sys.run es).run es' := List.foldl_append _ _ _ _

theorem Sys.eq_mk {sys : Sys} {s : MongoStorage} {procs : List Proc} (hs : sys.store = s)
    (hp : sys.procs = procs) : sys = ⟨s, procs, sys.hist⟩ := by
  cases sys; cases hs; cases hp; rfl

/-- The destinations list of the object `id`, when there is one. -/
def Sys.destinations (sys : Sys) (id : String) : Option (List StoreDestinationStatus) :=
  match sys.store.fetchObject id with
  | .ok o => some o.destinations
  | .error _ => none

/-- The destinations list of the object `id` that the writes of the log committed to it make,
applied in commit order to the list `init`. -/
def Sys.linearized (sys : Sys) (id : String) (init : List StoreDestinationStatus) :
    List StoreDestinationStatus :=
  ((sys.hist.filter fun w => w.1 == id).map Prod.snd).foldl (fun ds w => w.apply ds) init

/-! ### A call running alone -/

theorem Sys.run_alone_succ (s : MongoStorage) (p : Proc) (h : List (String × DestWrite)) (k : Nat) :
    Sys.run ⟨s, [p], h⟩ (List.replicate (k + 1) (.step 0)) =
      Sys.run ⟨(p.step s).2.1, [(p.step s).1], h ++ (p.step s).2.2⟩ (List.replicate k (.step 0)) :=
  rfl

/-- A read-modify-write call that runs with no other event between its steps returns what
`retryUpdate` returns, and leaves the store `retryUpdate` leaves.  It never retries: the
conditional update finds the document the fetch just returned, so the call returns within two
steps. -/
theorem rmw_run_alone (c : RmwCall) (n : Nat) (s : MongoStorage) (h : List (String × DestWrite)) :
    ∃ k ≤ 2,
      (Sys.run ⟨s, [.rmw c (.fetch n)], h⟩ (List.replicate k (.step 0))).store =
          (retryUpdate c.id c.update n s).2 ∧
        (Sys.run ⟨s, [.rmw c (.fetch n)], h⟩ (List.replicate k (.step 0))).procs =
          [.rmw c (.done (retryUpdate c.id c.update n s).1)] := by
  cases n with
  | zero => exact ⟨1, by omega, rfl, rfl⟩
  | succ n =>
    rcases hf : s.fetchObject c.id with e | result
    · exact ⟨1, by omega, by simp [Sys.event, Proc.step, RmwCall.step, retryUpdate, hf]⟩
    rcases hw : c.update result with e | set
    · exact ⟨2, le_rfl, by simp [Sys.event, Proc.step, RmwCall.step, retryUpdate, hf, hw]⟩
    obtain ⟨s', hu⟩ := updateObject_after_fetch hf set true
    exact ⟨2, le_rfl, by simp [Sys.event, Proc.step, RmwCall.step, retryUpdate, hf, hw, hu]⟩

/-- Where `RetrieveObjects` is after a pass of the attempts `n` ended so. -/
def ScanEnd.pc (n : Nat) : ScanEnd → ScanPc
  | .done metaDatas _ => .done (.ok metaDatas)
  | .conflict _ => .fetch n
  | .failed e _ => .done (.error e)

theorem scan_run_alone (orgID destType destID : String) (n : Nat) :
    ∀ rs (s : MongoStorage) metaDatas h, ∃ k,
      (Sys.run ⟨s, [.retrieveObjects orgID destType destID (.scan n rs metaDatas)], h⟩
          (List.replicate k (.step 0))).store = (scanObjects orgID destType destID s rs metaDatas).store ∧
        (Sys.run ⟨s, [.retrieveObjects orgID destType destID (.scan n rs metaDatas)], h⟩
          (List.replicate k (.step 0))).procs =
          [.retrieveObjects orgID destType destID ((scanObjects orgID destType destID s rs metaDatas).pc n)] := by
  intro rs
  induction rs with
  | nil => intro s metaDatas h; exact ⟨1, rfl, rfl⟩
  | cons r rs ih =>
    intro s metaDatas h
    by_cases hm : objectMatches destType destID r
    · rcases hd : s.retrieveDestination orgID destType destID with e | dest
      · obtain ⟨k, hk⟩ := ih s _ h
        refine ⟨k + 1, ?_⟩
        rw [Sys.run_alone_succ]
        simpa [Proc.step, scanStep, scanObjects, hm, hd] using hk
      rcases hu : s.updateObject (fun o => o.id == createObjectCollectionID orgID r.metaData.objectType
          r.metaData.objectID && o.lastUpdate == r.lastUpdate)
          (fun o => { o with destinations := r.destinations ++ [⟨dest,
            if readyToDeliver r then Delivering else Pending,
            ""⟩] }) true with e | s'
      · refine ⟨2, ?_⟩
        cases e <;> simp [Sys.event, Proc.step, scanStep, scanObjects, ScanEnd.pc, ScanEnd.store, hm, hd, hu]
      · obtain ⟨k, hk⟩ := ih s' _ (h ++ [] ++ [(createObjectCollectionID orgID r.metaData.objectType
          r.metaData.objectID, .added ⟨dest,
            if readyToDeliver r then Delivering else Pending,
            ""⟩)])
        refine ⟨k + 2, ?_⟩
        rw [Sys.run_alone_succ, Sys.run_alone_succ]
        simpa [Proc.step, scanStep, scanObjects, hm, hd, hu] using hk
    · obtain ⟨k, hk⟩ := ih s metaDatas h
      refine ⟨k + 1, ?_⟩
      rw [Sys.run_alone_succ]
      simpa [Proc.step, scanStep, scanObjects, hm] using hk

/-- `RetrieveObjects` running with no other event between its steps returns what the
sequential model returns, and leaves the store it leaves. -/
theorem retrieveObjects_run_alone (orgID destType destID : String) :
    ∀ n (s : MongoStorage) h, ∃ k,
      (Sys.run ⟨s, [.retrieveObjects orgID destType destID (.fetch n)], h⟩
          (List.replicate k (.step 0))).store = (retrieveObjectsLoop orgID destType destID n s).2 ∧
        (Sys.run ⟨s, [.retrieveObjects orgID destType destID (.fetch n)], h⟩
          (List.replicate k (.step 0))).procs =
          [.retrieveObjects orgID destType destID (.done (retrieveObjectsLoop orgID destType destID n s).1)] := by
  intro n
  induction n with
  | zero => intro s h; exact ⟨1, rfl, rfl⟩
  | succ n ih =>
    intro s h
    obtain ⟨k, hk⟩ := scan_run_alone orgID destType destID n
      (s.objects.filter (retrieveObjectsQuery orgID)) s [] (h ++ [])
    rcases hsc : scanObjects orgID destType destID s (s.objects.filter (retrieveObjectsQuery orgID)) []
      with ⟨metaDatas, s'⟩ | s' | ⟨e, s'⟩
    · refine ⟨k + 1, ?_⟩
      rw [Sys.run_alone_succ]
      simpa [Proc.step, scanStep, retrieveObjectsLoop, hsc, ScanEnd.pc, ScanEnd.store] using hk
    · rw [hsc] at hk
      obtain ⟨k', hk'⟩ := ih s' (Sys.run ⟨s, [.retrieveObjects orgID destType destID
        (.scan n (s.objects.filter (retrieveObjectsQuery orgID)) [])], h ++ []⟩
        (List.replicate k (.step 0))).hist
      have hmid : Sys.run ⟨s, [.retrieveObjects orgID destType destID (.fetch (n + 1))], h⟩
          (List.replicate (k + 1) (.step 0)) = ⟨s', [.retrieveObjects orgID destType destID (.fetch n)],
            (Sys.run ⟨s, [.retrieveObjects orgID destType destID
              (.scan n (s.objects.filter (retrieveObjectsQuery orgID)) [])], h ++ []⟩
              (List.replicate k (.step 0))).hist⟩ :=
        Sys.eq_mk hk.1 hk.2
      refine ⟨k + 1 + k', ?_⟩
      rw [List.replicate_add, Sys.run_append, hmid]
      simpa [retrieveObjectsLoop, hsc] using hk'
    · refine ⟨k + 1, ?_⟩
      rw [Sys.run_alone_succ]
      simpa [Proc.step, scanStep, retrieveObjectsLoop, hsc, ScanEnd.pc, ScanEnd.store] using hk

/-- One call of `RetrieveObjects` lists its destination twice, the single-call case of
`retrieveObjects_lists_destination_twice`.  Two objects are stored ready at their origin for
every destination of the org, and the destination `node1` is stored.  `RetrieveObjects` for
`node1` fetches both objects and appends `node1` to `objA`; the status of `objB` is then
updated, so the update of `objB` loses its race and the call starts a new pass, which fetches
`objA` with `node1` listed and appends it again. -/
theorem retrieveObjects_appends_twice :
    let md : String → MetaData := fun objectID =>
      { objectID := objectID, objectType := "type", destOrgID := "org", destID := "",
        destType := "", expiration := "", inactive := false, activationTime := "",
        noData := false, metaOnly := false, expectedConsumers := 1, autoDelete := false,
        deleted := false, instanceID := 0, objectSize := 0 }
    let node1 : Destination := ⟨"org", "edge", "node1", "mqtt"⟩
    let s₀ : MongoStorage := runOps MongoStorage.empty
      [.storeObject ⟨1000, ""⟩ (md "objA") none ReadyToSend,
       .storeObject ⟨1000, ""⟩ (md "objB") none ReadyToSend, .storeDestination node1]
    let sys := Sys.run ⟨s₀, [.retrieveObjects "org" "edge" "node1" (.fetch maxUpdateTries)], []⟩
      ([.step 0, .step 0, .step 0, .call (.updateObjectStatus "org" "type" "objB" ReadyToSend)] ++
        List.replicate 8 (.step 0))
    sys.procs = [.retrieveObjects "org" "edge" "node1"
        (.done (.ok [{ md "objA" with instanceID := 1000 }, { md "objB" with instanceID := 1000 }]))] ∧
      sys.hist.filter (fun w => w.1 == "org:type:objA") =
        [("org:type:objA", .added ⟨node1, Delivering, ""⟩),
         ("org:type:objA", .added ⟨node1, Delivering, ""⟩)] ∧
      sys.destinations "org:type:objA" = some [⟨node1, Delivering, ""⟩, ⟨node1, Delivering, ""⟩] := by
  decide

end MongoStorage

end EdgeSync
