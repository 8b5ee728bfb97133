import Mathlib.Logic.Relation
import EdgeSync.Storage.Append
import EdgeSync.Storage.Objects

/-!
# The backend calls of the object operations

Each object operation of `MongoStorage` but `DeleteStoredObject` is a sequence of backend
calls: updates of the document a filter matches, upserts of a new document, and writes of the
payload files and of the open files.  `ObjCalls E U s s'` says that `s'` is reached from `s`
by such calls, each update rewriting the document `x` it matches into one that `E x` allows,
and each upsert writing a document `U` allows and matching only documents of its id.

Every object operation is shown once to be such a sequence, for every `E` and `U` that allow
the rewrites it makes (`storeObject_calls` and the others).  An invariant of the object
documents then needs one lemma per kind of call, lifted by `ObjCalls.lift`: the properties of
every document (`EdgeSync.Storage.Store`), the writes that keep every destinations list
(`EdgeSync.Storage.Linearizable`), and the keyed store with its frame
(`EdgeSync.Storage.Keyed`).
-/

namespace EdgeSync

namespace MongoStorage

/-- One backend call of an object operation, from the store `s`. -/
inductive ObjCall (E : Object → Object → Prop) (U : Object → Prop) (s : MongoStorage) :
    MongoStorage → Prop
  /-- An update, whose `$set` rewrites the document it matches as `E` allows. -/
  | update {s' : MongoStorage} {filter : Object → Bool} {set : Object → Object} {cd : Bool}
      (hu : s.updateObject filter set cd = .ok s')
      (hset : ∀ x, s.objects.find? filter = some x → E x (set x)) : ObjCall E U s s'
  /-- An upsert of a document `U` allows, whose filter matches only documents of its id. -/
  | upsert {s' : MongoStorage} {filter : Object → Bool} {doc : Object}
      (hu : s.upsertObject filter doc = .ok s')
      (hfilter : ∀ o, filter o = true → o.id = doc.id) (hdoc : U doc) : ObjCall E U s s'
  /-- A write of the payload files and of the open files. -/
  | files (files : String → Option Bytes) (openFiles : String → Option FileHandle) :
      ObjCall E U s { s with files := files, openFiles := openFiles }

/-- A sequence of backend calls of object operations. -/
def ObjCalls (E : Object → Object → Prop) (U : Object → Prop) :
    MongoStorage → MongoStorage → Prop :=
  Relation.ReflTransGen (ObjCall E U)

variable {E : Object → Object → Prop} {U : Object → Prop} {s s' s'' : MongoStorage}

namespace ObjCalls

theorem refl : ObjCalls E U s s := Relation.ReflTransGen.refl

theorem single (h : ObjCall E U s s') : ObjCalls E U s s' := Relation.ReflTransGen.single h

theorem trans (h : ObjCalls E U s s') (h' : ObjCalls E U s' s'') : ObjCalls E U s s'' :=
  Relation.ReflTransGen.trans h h'

theorem call (h : ObjCalls E U s s') (h' : ObjCall E U s' s'') : ObjCalls E U s s'' :=
  Relation.ReflTransGen.tail h h'

/-- A write of the files alone. -/
theorem files {files : String → Option Bytes} {openFiles : String → Option FileHandle} :
    ObjCalls E U s { s with files := files, openFiles := openFiles } :=
  single (.files files openFiles)

/-- **Lifting.**  A property of stores that holds at `s` and that every call keeps holds after
every sequence of calls. -/
theorem lift (hc : ObjCalls E U s s') (R : MongoStorage → Prop) (h₀ : R s)
    (hstep : ∀ {s₁ s₂}, R s₁ → ObjCall E U s₁ s₂ → R s₂) : R s' := by
  induction hc with
  | refl => exact h₀
  | tail _ h ih => exact hstep ih h

end ObjCalls

theorem closeFile_calls {f : GridFile} (hc : s.closeFile f = .ok s') : ObjCalls E U s s' := by
  unfold closeFile at hc
  split at hc
  · split at hc
    · cases hc
    · cases hc; exact .files
  · cases hc; exact .refl

/-! ### One sequence of calls per object operation -/

/-- The update of `setObjectFields` rewrites the document `fetchOne` finds by its id. -/
theorem setObjectFields_calls_of_find {id failure : String} {set : Object → Object}
    (hset : ∀ x, s.objects.find? (fun o => o.id == id) = some x → E x (set x)) :
    ObjCalls E U s (s.setObjectFields id set failure).2 := by
  unfold setObjectFields
  split
  · rename_i hu; exact .single (.update hu hset)
  · exact .refl

theorem setObjectFields_calls {id failure : String} {set : Object → Object}
    (hset : ∀ x, E x (set x)) : ObjCalls E U s (s.setObjectFields id set failure).2 :=
  setObjectFields_calls_of_find fun x _ => hset x

/-- The upsert of `StoreObject` writes the document it builds from the metadata given, with the
instance id of the call when the node is the object's origin. -/
theorem storeObject_calls_of_doc {now : Now} {metaData : MetaData} {data : Option Bytes}
    {status : String}
    (hU : ∀ (md : MetaData) dests, (md = metaData ∨ md = { metaData with instanceID := now.unixNano }) →
      U ⟨getObjectCollectionID metaData, md, status, md.expectedConsumers, md.expectedConsumers,
        dests, 0⟩) :
    ObjCalls E U s (s.storeObject now metaData data status).2 := by
  have h₁ : ObjCalls E U s (match data with
      | some data => s.storeDataInFile (getObjectCollectionID metaData) data
      | none => if (!metaData.metaOnly || metaData.noData) = true then
          s.removeFile (getObjectCollectionID metaData) else s) := by
    split
    · exact .files
    · split
      · exact .files
      · exact .refl
  unfold storeObject
  simp only
  split
  · rename_i hu
    exact h₁.call (.upsert hu
      (fun o ho => by simp only [Bool.and_eq_true, beq_iff_eq] at ho; exact ho.1)
      (hU _ _ (by split <;> simp)))
  · exact h₁

theorem storeObject_calls
    (hU : ∀ id (metaData : MetaData) status dests, id = getObjectCollectionID metaData →
      U ⟨id, metaData, status, metaData.expectedConsumers, metaData.expectedConsumers, dests,
        0⟩)
    {now : Now} {metaData : MetaData} {data : Option Bytes} {status : String} :
    ObjCalls E U s (s.storeObject now metaData data status).2 :=
  storeObject_calls_of_doc fun _ _ hmd => hU _ _ _ _ (by rcases hmd with rfl | rfl <;> rfl)

/-- `StoreObjectData` sets `ReadyToSend` only on an object that was not ready. -/
theorem storeObjectData_calls_of_status
    (hstatus : ∀ x, x.status = NotReadyToSend → E x { x with status := ReadyToSend })
    (hinstance : ∀ x n, E x { x with metaData := { x.metaData with instanceID := n } })
    (hsize : ∀ x n, E x { x with metaData := { x.metaData with objectSize := n } })
    {now : Now} {orgID objectType objectID : String} {dataReader : Bytes} :
    ObjCalls E U s (s.storeObjectData now orgID objectType objectID dataReader).2 := by
  unfold storeObjectData
  dsimp only
  split
  · exact .refl
  · exact .refl
  · rename_i result hf
    split
    · exact .refl
    · rename_i s₁ hprep
      have h₁ : ObjCalls E U s s₁ := by
        split at hprep
        · rename_i hready
          cases hprep
          refine setObjectFields_calls_of_find fun x hx => hstatus x ?_
          rw [fetchObject_ok hf, Option.some.injEq] at hx
          exact hx ▸ beq_iff_eq.mp hready
        · split at hprep
          · split at hprep
            · rename_i hu; cases hprep; exact .single (.update hu fun x _ => hinstance x _)
            · cases hprep
          · cases hprep; exact .refl
      have h₂ : ObjCalls E U s
          (s₁.storeDataInFile (createObjectCollectionID orgID objectType objectID) dataReader) :=
        h₁.trans .files
      split
      · rename_i hu; exact h₂.call (.update hu fun x _ => hsize x _)
      · exact h₂

theorem storeObjectData_calls (hstatus : ∀ x, E x { x with status := ReadyToSend })
    (hinstance : ∀ x n, E x { x with metaData := { x.metaData with instanceID := n } })
    (hsize : ∀ x n, E x { x with metaData := { x.metaData with objectSize := n } })
    {now : Now} {orgID objectType objectID : String} {dataReader : Bytes} :
    ObjCalls E U s (s.storeObjectData now orgID objectType objectID dataReader).2 :=
  storeObjectData_calls_of_status (fun x _ => hstatus x) hinstance hsize

theorem appendObjectData_calls {orgID objectType objectID : String} {dataReader : Bytes}
    {dataLength : UInt32} {offset total : Int} {first last : Bool} :
    ObjCalls E U s (s.appendObjectData orgID objectType objectID dataReader dataLength offset total
      first last).2 := by
  have hopen : ∀ id, ObjCalls E U s (s.openUpload id first).2 := by
    intro id; unfold openUpload; split
    · exact .files
    · exact .refl
  unfold appendObjectData
  dsimp only
  split
  · exact hopen _
  · split
    · exact hopen _
    · split
      · exact hopen _
      · split
        · have hdel : ObjCalls E U s ((s.openUpload (createObjectCollectionID orgID objectType
              objectID) first).2.deleteFileHandle (createObjectCollectionID orgID objectType
              objectID)) := (hopen _).trans .files
          split
          · rename_i s' hc; exact hdel.trans (closeFile_calls hc)
          · exact hdel
        · exact (hopen _).trans .files

theorem retryUpdate_calls {id : String}
    {write : Object → Except SyncServiceError (Object → Object)}
    (hwrite : ∀ result set, write result = .ok set → ∀ x, E x (set x)) :
    ∀ n (s : MongoStorage), ObjCalls E U s (retryUpdate id write n s).2
  | 0, _ => .refl
  | n + 1, s => by
    unfold retryUpdate
    split
    · exact .refl
    · rename_i result _
      split
      · exact .refl
      · rename_i set hw
        split
        · rename_i s' hu; exact .single (.update hu fun x _ => hwrite result set hw x)
        · exact retryUpdate_calls hwrite n s
        · exact .refl

theorem updateObjectDeliveryStatus_calls
    (hdests : ∀ x ds, E x { x with destinations := ds })
    (hexpiration : ∀ x ds e,
      E x { x with destinations := ds, metaData := { x.metaData with expiration := e } })
    {now : Now} {status message orgID objectType objectID destType destID : String} :
    ObjCalls E U s (s.updateObjectDeliveryStatus now status message orgID objectType objectID
      destType destID).2 := by
  unfold updateObjectDeliveryStatus
  split
  · exact .refl
  · refine retryUpdate_calls (fun result set hw x => ?_) _ _
    unfold deliveryStatusUpdate at hw
    split at hw
    · rename_i set' hd
      cases hw
      unfold deliveryStatusWrite at hd
      split at hd
      split_ifs at hd <;> cases hd
      · exact hexpiration _ _ _
      · exact hdests _ _
    · cases hw

theorem updateObjectDelivering_calls (hdests : ∀ x ds, E x { x with destinations := ds })
    {orgID objectType objectID : String} :
    ObjCalls E U s (s.updateObjectDelivering orgID objectType objectID).2 :=
  retryUpdate_calls (fun _ _ hw x => by cases hw; exact hdests x _) _ _

theorem decrementAndReturnRemaining_calls {c : Counter} (hdec : ∀ x, E x (c.dec x))
    {orgID objectType objectID : String} :
    ObjCalls E U s (decrementAndReturnRemaining c s orgID objectType objectID).2 := by
  unfold decrementAndReturnRemaining
  dsimp only
  split
  · exact .refl
  · rename_i s' hu
    have h' : ObjCalls E U s s' := .single (.update hu fun x _ => hdec x)
    split <;> exact h'

theorem resetObjectRemainingConsumers_calls
    (hreset : ∀ x, E x { x with remainingConsumers := x.metaData.expectedConsumers })
    {orgID objectType objectID : String} :
    ObjCalls E U s (s.resetObjectRemainingConsumers orgID objectType objectID).2 := by
  unfold resetObjectRemainingConsumers
  dsimp only
  split
  · exact .refl
  · rename_i result hf
    split
    · rename_i hu
      refine .single (.update hu fun x hx => ?_)
      obtain rfl := Option.some_injective _ (hx.symm.trans (fetchObject_ok hf))
      exact hreset _
    · exact .refl

theorem scanObjects_calls (hdests : ∀ x ds, E x { x with destinations := ds })
    (orgID destType destID : String) :
    ∀ (rs : List Object) (s : MongoStorage) (metaDatas : List MetaData),
      ObjCalls E U s (scanObjects orgID destType destID s rs metaDatas).store
  | [], _, _ => .refl
  | r :: rs, s, metaDatas => by
    unfold scanObjects
    split
    · dsimp only
      split
      · split
        · rename_i hu
          exact .trans (.single (.update hu fun x _ => hdests x _))
            (scanObjects_calls hdests orgID destType destID rs _ _)
        · exact .refl
        · exact .refl
      · exact scanObjects_calls hdests orgID destType destID rs s _
    · exact scanObjects_calls hdests orgID destType destID rs s _

theorem retrieveObjects_calls (hdests : ∀ x ds, E x { x with destinations := ds })
    {orgID destType destID : String} :
    ObjCalls E U s (s.retrieveObjects orgID destType destID).2 := by
  unfold retrieveObjects
  generalize maxUpdateTries = n
  induction n generalizing s with
  | zero => exact .refl
  | succ n ih =>
    unfold retrieveObjectsLoop
    have hscan : ObjCalls E U s (scanObjects orgID destType destID s
        (s.objects.filter (retrieveObjectsQuery orgID)) []).store :=
      scanObjects_calls hdests orgID destType destID _ s []
    split <;> rename_i heq <;> rw [heq] at hscan
    · exact hscan
    · exact hscan.trans ih
    · exact hscan

theorem deleteStoredData_calls {orgID objectType objectID : String} :
    ObjCalls E U s (s.deleteStoredData orgID objectType objectID) :=
  .files

end MongoStorage

end EdgeSync
