import EdgeSync.Storage.Store

/-!
# Invariants of the object documents over runs of the store

Three properties the specification states of every object document (§3): the counters of
remaining consumers and receivers stay between `0` and the count of expected consumers,
the destinations list of an object holds no destination twice, and a deleted object has the
status `ObjDeleted`.

Every kind of write keeps the upper bound of the counters, so it holds in every state
reachable from the empty store (`remaining_le_expectedConsumers`).  The lower bound does not:
`DecrementAndReturnRemainingConsumers` is an unguarded `$inc` of `-1`, and one call more than
an object's expected consumers drives its counter below zero.  The destinations of an object
can repeat: `RetrieveObjects` appends the destination that registers to every object meant for
it without looking for an entry that is already there, so a destination that registers twice
is listed twice.  `UpdateObjectStatus` sets a status whatever the document holds, so a
deleted object can be given another status; every other write keeps deleted objects
`ObjDeleted` (`deletedStatus_runsWith`).
-/

namespace EdgeSync

namespace MongoStorage

/-! ### The counters of remaining consumers and receivers -/

/-- Both counters of an object are at most its count of expected consumers. -/
def CountersBounded (o : Object) : Prop :=
  o.remainingConsumers ≤ o.metaData.expectedConsumers ∧
    o.remainingReceivers ≤ o.metaData.expectedConsumers

/-- A new document starts with both counters at the bound, a reset puts the consumers back
there, a decrement lowers a counter, and no other write touches either side. -/
theorem countersBounded_writes : ObjectWritesPreserve CountersBounded where
  lastUpdate _ _ h := h
  stored _ _ _ _ := ⟨le_rfl, le_rfl⟩
  status _ _ h := h
  deleted _ h := h
  activated _ h := h
  instanceID _ _ h := h
  objectSize _ _ h := h
  destinations _ _ h := h
  expiration _ _ _ h := h
  decrement c _ h := by
    cases c <;> simp only [Counter.dec, CountersBounded] at h ⊢ <;> omega
  reset _ h := ⟨le_rfl, h.2⟩

theorem remaining_le_expectedConsumers (ops : List StoreOp) :
    ∀ o ∈ (runOps MongoStorage.empty ops).objects,
      o.remainingConsumers ≤ o.metaData.expectedConsumers ∧
        o.remainingReceivers ≤ o.metaData.expectedConsumers :=
  allObjects_runOps countersBounded_writes ops _ (fun _ h => nomatch h)

/-- Spec scenario 1: an object with two expected consumers, stored ready with its data, whose
consumers are decremented twice. -/
theorem remaining_le_expectedConsumers_scenario :
    let ops : List StoreOp :=
      [.storeObject ⟨1000, ""⟩
        { objectID := "X", objectType := "T", destOrgID := "O", destID := "", destType := "",
          expiration := "", inactive := false, activationTime := "", noData := false,
          metaOnly := false, expectedConsumers := 2, autoDelete := false, deleted := false,
          instanceID := 0, objectSize := 0 } (some [1, 2, 3]) ReadyToSend,
       .decrementAndReturnRemainingConsumers "O" "T" "X",
       .decrementAndReturnRemainingConsumers "O" "T" "X"]
    ∃ o ∈ (runOps MongoStorage.empty ops).objects,
      o.remainingConsumers = 0 ∧
        (o.remainingConsumers ≤ o.metaData.expectedConsumers ∧
          o.remainingReceivers ≤ o.metaData.expectedConsumers) := by
  intro ops
  obtain ⟨o, ho, h⟩ : ∃ o ∈ (runOps MongoStorage.empty ops).objects, o.remainingConsumers = 0 := by
    decide
  exact ⟨o, ho, h, remaining_le_expectedConsumers ops o ho⟩

/-- Spec scenario 1 with one consumer too many: an object stored ready with one expected
consumer, whose consumers are decremented twice. -/
theorem remainingConsumers_below_zero :
    ∃ o ∈ (runOps MongoStorage.empty
        [.storeObject ⟨1000, ""⟩
          { objectID := "obj", objectType := "type", destOrgID := "org", destID := "",
            destType := "", expiration := "", inactive := false, activationTime := "",
            noData := false, metaOnly := false, expectedConsumers := 1, autoDelete := false,
            deleted := false, instanceID := 0, objectSize := 0 } none ReadyToSend,
         .decrementAndReturnRemainingConsumers "org" "type" "obj",
         .decrementAndReturnRemainingConsumers "org" "type" "obj"]).objects,
      0 ≤ o.metaData.expectedConsumers ∧ o.remainingConsumers < 0 := by
  decide

/-! ### Destinations listed once -/

/-- The key of a destination entry: the org, type and id of the destination. -/
def StoreDestinationStatus.key (d : StoreDestinationStatus) : String × String × String :=
  (d.destination.destOrgID, d.destination.destType, d.destination.destID)

/-- No destination is listed twice in an object's destinations. -/
def DestinationsDistinct (o : Object) : Prop :=
  (o.destinations.map StoreDestinationStatus.key).Nodup

instance : DecidablePred DestinationsDistinct :=
  fun o => inferInstanceAs (Decidable (o.destinations.map StoreDestinationStatus.key).Nodup)

/-- A destination that registers twice: an object stored ready for every destination of its
org, the destination stored, and `RetrieveObjects` called for it twice. -/
theorem retrieveObjects_lists_destination_twice :
    ∃ o ∈ (runOps MongoStorage.empty
        [.storeObject ⟨1000, ""⟩
          { objectID := "obj", objectType := "type", destOrgID := "org", destID := "",
            destType := "", expiration := "", inactive := false, activationTime := "",
            noData := false, metaOnly := false, expectedConsumers := 1, autoDelete := false,
            deleted := false, instanceID := 0, objectSize := 0 } none ReadyToSend,
         .storeDestination ⟨"org", "edge", "node1", "mqtt"⟩,
         .retrieveObjects "org" "edge" "node1",
         .retrieveObjects "org" "edge" "node1"]).objects,
      ¬ DestinationsDistinct o := by
  decide

/-! ### Deleted objects -/

/-- A deleted object has the status `ObjDeleted`. -/
def DeletedStatus (o : Object) : Prop := o.metaData.deleted = true → o.status = ObjDeleted

/-- `MarkObjectDeleted` sets both the flag and the status, and no other update touches either. -/
theorem deletedStatus_updates : ObjectUpdatesPreserve DeletedStatus where
  lastUpdate _ _ h := h
  deleted _ _ _ := rfl
  activated _ h := h
  instanceID _ _ h := h
  objectSize _ _ h := h
  destinations _ _ h := h
  expiration _ _ _ h := h
  decrement c _ h := by cases c <;> exact h
  reset _ h := h

/-- The calls that keep deleted objects `ObjDeleted`: `StoreObject` of an object not deleted or
with the status `ObjDeleted`, and `UpdateObjectStatus` to `ObjDeleted` or of an object not
deleted. -/
def StoreOp.KeepsDeleted (s : MongoStorage) : StoreOp → Prop
  | .storeObject _ metaData _ status => metaData.deleted = false ∨ status = ObjDeleted
  | .updateObjectStatus orgID objectType objectID status => status = ObjDeleted ∨
      ∀ o ∈ s.objects, o.id = createObjectCollectionID orgID objectType objectID →
        o.metaData.deleted = false
  | _ => True

/-- **A deleted object stays `ObjDeleted`** over every run from the empty store whose
`StoreObject` calls store an object not deleted or `ObjDeleted`, and whose `UpdateObjectStatus`
calls give a deleted object no status but `ObjDeleted`.  Every other write keeps it, among
them the `ReadyToSend` of `StoreObjectData`, which it only sets on an object not ready. -/
theorem deletedStatus_runsWith (ops : List StoreOp)
    (hops : RunsWith StoreOp.KeepsDeleted MongoStorage.empty ops) :
    ∀ o ∈ (runOps MongoStorage.empty ops).objects, o.metaData.deleted = true →
      o.status = ObjDeleted := by
  refine RunsWith.invariant (AllObjects DeletedStatus) (fun s op h hop => ?_) ops _
    (fun _ h => nomatch h) hops
  refine allObjects_step deletedStatus_updates op (fun _ metaData _ status heq md _ hmd hdel => ?_)
    (fun _ _ _ status heq x hx _ hdel => ?_) (fun x hx hPx hdel => ?_) h
  · subst heq
    have hmd' : md.deleted = metaData.deleted := by rcases hmd with rfl | rfl <;> rfl
    rcases hop with hop | hop
    · rw [hmd', hop] at hdel; cases hdel
    · exact hop
  · subst heq
    rcases hop with hop | hop
    · exact hop
    · rw [hop x (List.mem_of_find?_eq_some hx) (by simpa using List.find?_some hx)] at hdel
      cases hdel
  · exact absurd (hx.symm.trans (hPx hdel)) (by decide)

/-- An object stored ready, then marked deleted. -/
theorem deletedStatus_runsWith_marked :
    let ops : List StoreOp :=
      [.storeObject ⟨1000, ""⟩
        { objectID := "obj", objectType := "type", destOrgID := "org", destID := "",
          destType := "", expiration := "", inactive := false, activationTime := "",
          noData := false, metaOnly := false, expectedConsumers := 1, autoDelete := false,
          deleted := false, instanceID := 0, objectSize := 0 } none ReadyToSend,
       .markObjectDeleted "org" "type" "obj"]
    RunsWith StoreOp.KeepsDeleted MongoStorage.empty ops ∧
      ∀ o ∈ (runOps MongoStorage.empty ops).objects, o.metaData.deleted = true →
        o.status = ObjDeleted := by
  intro ops
  have h : RunsWith StoreOp.KeepsDeleted MongoStorage.empty ops := ⟨.inl rfl, trivial, trivial⟩
  exact ⟨h, deletedStatus_runsWith ops h⟩

/-- An object stored ready, marked deleted, then given the status `ReadyToSend` by
`UpdateObjectStatus`, which sets the status whatever the document holds: the object stays
deleted with a status other than `ObjDeleted`. -/
theorem updateObjectStatus_after_markObjectDeleted :
    ∃ o ∈ (runOps MongoStorage.empty
        [.storeObject ⟨1000, ""⟩
          { objectID := "obj", objectType := "type", destOrgID := "org", destID := "",
            destType := "", expiration := "", inactive := false, activationTime := "",
            noData := false, metaOnly := false, expectedConsumers := 1, autoDelete := false,
            deleted := false, instanceID := 0, objectSize := 0 } none ReadyToSend,
         .markObjectDeleted "org" "type" "obj",
         .updateObjectStatus "org" "type" "obj" ReadyToSend]).objects,
      o.metaData.deleted = true ∧ o.status ≠ ObjDeleted := by
  decide

end MongoStorage

end EdgeSync
