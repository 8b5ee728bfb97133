import EdgeSync.Common

/-!
# The MongoDB store: documents, collections and their primitive operations

`MongoStorage` keeps its state in MongoDB: the collections `objects`, `destinations`,
`notifications`, `messaging-groups`, `organizations` and `webhooks`, the GridFS files that
hold the payloads, and, in process memory, the map `openFiles` of the file handles of
chunked uploads and readers.  This file models that state and the
primitive operations the storage code is written against: `fetchOne`, `fetchAll`,
`update`, `upsert` and `removeAll` on a collection, and the GridFS file operations.

Those helpers are part of the repository but not of the sources at hand; they are modelled
from §4.1 and §4.2 of the specification.  A collection is the list of its documents in
natural order.  `update` rewrites the first document its filter matches and fails with
`NotFound` when none does; a `$currentDate` on `last-update` stamps the document with a
fresh server timestamp, drawn from the counter `clock`.  `upsert` replaces the first
document its filter matches, and inserts the document when none matches; as MongoDB does
with every timestamp field of a written document left at zero, the server stamps a
`last-update` of zero with a fresh timestamp.  A GridFS file becomes visible only when the file written through a
handle is closed (§4.1, "Atomicity").
-/

namespace EdgeSync

/-- A document of the `objects` collection (`object`). -/
structure Object where
  id : String
  metaData : MetaData
  status : String
  remainingConsumers : Int
  remainingReceivers : Int
  destinations : List StoreDestinationStatus
  /-- The `last-update` timestamp, the token of the conditional updates. -/
  lastUpdate : Nat
deriving DecidableEq, Repr

/-- A document of the `destinations` collection (`destinationObject`). -/
structure DestinationObject where
  id : String
  destination : Destination
deriving DecidableEq, Repr

/-- The out-of-order chunks of an upload, keyed by their offset (`map[int64][]byte`). -/
abbrev ChunkMap := AList (fun _ : Int => Bytes)

/-- A GridFS file as the driver hands it out: open for writing, with the bytes written so
far, or open for reading a published file. -/
inductive GridFile
  | writing (id : String) (content : Bytes)
  | reading (id : String) (content : Bytes)
deriving DecidableEq, Repr

/-- The id of a GridFS file (`GridFile.Id()`). -/
def GridFile.id : GridFile → String
  | .writing id _ => id
  | .reading id _ => id

/-- An open file of the store (`fileHandle`): the GridFS file, the offset up to which an
upload has been written, and the chunks that arrived ahead of it (`nil` until the first
such chunk). -/
structure FileHandle where
  file : GridFile
  offset : Int
  chunks : Option ChunkMap
deriving DecidableEq

/-- A document of the `webhooks` collection (`webhookObject`), stored under its `_id`
`orgID:objectType`. -/
structure WebhookObject where
  hooks : List String
  /-- The `last-update` timestamp, the token of the conditional updates. -/
  lastUpdate : Nat
deriving DecidableEq, Repr

/-- A document of the `notifications` collection (`notificationObject`). -/
structure NotificationObject where
  id : String
  notification : Notification
deriving DecidableEq, Repr

/-- A document of the `messaging-groups` collection (`messagingGroupObject`). -/
structure MessagingGroupObject where
  id : String
  groupName : String
  lastUpdate : Nat
deriving DecidableEq, Repr

/-- A document of the `organizations` collection (`organizationObject`). -/
structure OrganizationObject where
  id : String
  organization : Organization
  lastUpdate : Nat
deriving DecidableEq, Repr

/-- The state of a `MongoStorage`: its collections (`webhooks` by `_id`), the published
GridFS files by id, the map `openFiles`, and the server clock behind `$currentDate`. -/
structure MongoStorage where
  objects : List Object
  destinations : List DestinationObject
  notifications : List NotificationObject
  messagingGroups : List MessagingGroupObject
  organizations : List OrganizationObject
  webhooks : String → Option WebhookObject
  files : String → Option Bytes
  openFiles : String → Option FileHandle
  clock : Nat

/-- A store with no documents, no files and no open handles. -/
def MongoStorage.empty : MongoStorage where
  objects := []
  destinations := []
  notifications := []
  messagingGroups := []
  organizations := []
  webhooks := fun _ => none
  files := fun _ => none
  openFiles := fun _ => none
  clock := 0

/-! ### Collections -/

section Collection

variable {α : Type}

/-- Rewrite the first element that satisfies `p`; `none` when there is none. -/
def updateFirst (p : α → Bool) (f : α → α) : List α → Option (List α)
  | [] => none
  | x :: xs => if p x then some (f x :: xs) else (updateFirst p f xs).map (x :: ·)

/-- Modelled from the spec: the `upsert` helper of §4.2 on a collection whose documents
have the key `key`.  The document replaces the first match of the filter; with no match it
is inserted, unless its `_id` is taken, which is a duplicate key. -/
def upsertDoc (key : α → String) (filter : α → Bool) (doc : α) (docs : List α) :
    Except MgoError (List α) :=
  match updateFirst filter (fun _ => doc) docs with
  | some docs' => .ok docs'
  | none => if docs.any (fun d => key d == key doc) then .error .dup else .ok (docs ++ [doc])

theorem updateFirst_eq_some {p : α → Bool} {f : α → α} {l l' : List α}
    (h : updateFirst p f l = some l') :
    ∃ a x b, l = a ++ x :: b ∧ l' = a ++ f x :: b ∧ p x ∧ ∀ y ∈ a, p y = false := by
  induction l generalizing l' with
  | nil => cases h
  | cons y ys ih =>
    simp only [updateFirst] at h
    split at h
    · cases h
      exact ⟨[], y, ys, rfl, rfl, ‹_›, by simp⟩
    · obtain ⟨zs, hzs, rfl⟩ := Option.map_eq_some'.mp h
      obtain ⟨a, x, b, rfl, rfl, hx, ha⟩ := ih hzs
      refine ⟨y :: a, x, b, rfl, rfl, hx, ?_⟩
      simpa [*] using ha

theorem updateFirst_eq_none {p : α → Bool} {f : α → α} {l : List α} :
    updateFirst p f l = none ↔ ∀ y ∈ l, p y = false := by
  induction l with
  | nil => simp [updateFirst]
  | cons y ys ih => by_cases hy : p y <;> simp [updateFirst, hy, ih]

/-- What `updateFirst` rewrites is what `find?` finds. -/
theorem find?_of_updateFirst {p : α → Bool} {f : α → α} {l l' : List α}
    (h : updateFirst p f l = some l') :
    ∃ a x b, l = a ++ x :: b ∧ l' = a ++ f x :: b ∧ l.find? p = some x := by
  obtain ⟨a, x, b, rfl, rfl, hx, ha⟩ := updateFirst_eq_some h
  exact ⟨a, x, b, rfl, rfl, by simp [List.find?_append, List.find?_eq_none.mpr (by simpa using ha), hx]⟩

theorem mem_updateFirst {p : α → Bool} {f : α → α} {l l' : List α}
    (h : updateFirst p f l = some l') : ∀ y ∈ l', y ∈ l ∨ ∃ x ∈ l, y = f x := by
  obtain ⟨a, x, b, rfl, rfl, -, -⟩ := updateFirst_eq_some h
  intro y hy
  simp only [List.mem_append, List.mem_cons] at hy
  rcases hy with hy | rfl | hy
  · exact .inl (by simp [hy])
  · exact .inr ⟨x, by simp, rfl⟩
  · exact .inl (by simp [hy])

theorem mem_upsertDoc {key : α → String} {filter : α → Bool} {doc : α} {docs docs' : List α}
    (h : upsertDoc key filter doc docs = .ok docs') : ∀ y ∈ docs', y = doc ∨ y ∈ docs := by
  unfold upsertDoc at h
  split at h
  · rename_i docs'' hu
    cases h
    intro y hy
    rcases mem_updateFirst hu y hy with hy | ⟨x, -, rfl⟩
    · exact .inr hy
    · exact .inl rfl
  · split at h
    · cases h
    · cases h; intro y hy; simp only [List.mem_append, List.mem_singleton] at hy; tauto

/-- An upsert whose filter is the key of the document never fails, and leaves the document
first among those of its key. -/
theorem upsertDoc_by_key (key : α → String) (doc : α) (docs : List α) :
    ∃ docs', upsertDoc key (fun d => key d == key doc) doc docs = .ok docs' ∧
      docs'.find? (fun d => key d == key doc) = some doc := by
  unfold upsertDoc
  split
  · rename_i docs' h
    obtain ⟨a, x, b, -, rfl, -, ha⟩ := updateFirst_eq_some h
    have hfa : a.find? (fun d => key d == key doc) = none :=
      List.find?_eq_none.mpr fun y hy => by simp [ha y hy]
    exact ⟨_, rfl, by simp [List.find?_append, hfa]⟩
  · rename_i h
    have hnone := updateFirst_eq_none.mp h
    rw [if_neg (by simpa using hnone)]
    have hfd : docs.find? (fun d => key d == key doc) = none :=
      List.find?_eq_none.mpr fun y hy => by simp [hnone y hy]
    exact ⟨_, rfl, by simp [List.find?_append, hfd]⟩

/-- An upsert whose filter matches only documents of the document's key, into documents of
distinct keys, keeps the keys distinct and leaves the document the first of its key. -/
theorem upsertDoc_keyed {key : α → String} {filter : α → Bool} {doc : α} {docs docs' : List α}
    (hn : (docs.map key).Nodup) (h : upsertDoc key filter doc docs = .ok docs')
    (hfilter : ∀ d, filter d = true → key d = key doc) :
    (docs'.map key).Nodup ∧ docs'.find? (fun d => key d == key doc) = some doc := by
  unfold upsertDoc at h
  split at h
  · rename_i hu
    cases h
    obtain ⟨a, x, b, rfl, rfl, hx, -⟩ := updateFirst_eq_some hu
    simp only [List.map_append, List.map_cons, hfilter x hx] at hn ⊢
    have hna : ∀ y ∈ a, ¬(key y == key doc) = true := fun y hy heq =>
      List.disjoint_of_nodup_append hn (List.mem_map_of_mem key hy)
        (beq_iff_eq.mp heq ▸ List.mem_cons_self _ _)
    exact ⟨hn, by simp [List.find?_append, List.find?_eq_none.mpr hna]⟩
  · split at h
    · cases h
    · rename_i hany
      cases h
      have hnot : ∀ y ∈ docs, ¬(key y == key doc) = true := fun y hy heq =>
        hany (List.any_eq_true.mpr ⟨y, hy, heq⟩)
      refine ⟨?_, by simp [List.find?_append, List.find?_eq_none.mpr hnot]⟩
      rw [List.map_append, List.map_singleton]
      refine hn.append (List.nodup_singleton _) fun i hi hj => ?_
      obtain ⟨y, hy, rfl⟩ := List.mem_map.mp hi
      exact hnot y hy (beq_iff_eq.mpr (List.mem_singleton.mp hj))

/-- A successful upsert whose filter matches only documents of the document's key keeps every
key and holds the document. -/
theorem upsertDoc_ok_keys {key : α → String} {filter : α → Bool} {doc : α} {docs docs' : List α}
    (h : upsertDoc key filter doc docs = .ok docs')
    (hfilter : ∀ d, filter d = true → key d = key doc) :
    (∀ y ∈ docs, ∃ z ∈ docs', key z = key y) ∧ doc ∈ docs' := by
  unfold upsertDoc at h
  split at h
  · rename_i hu
    cases h
    obtain ⟨a, x, b, rfl, rfl, hx, -⟩ := updateFirst_eq_some hu
    refine ⟨fun y hy => ?_, by simp⟩
    simp only [List.mem_append, List.mem_cons] at hy
    rcases hy with hy | rfl | hy
    · exact ⟨y, by simp [hy], rfl⟩
    · exact ⟨doc, by simp, (hfilter _ hx).symm⟩
    · exact ⟨y, by simp [hy], rfl⟩
  · split at h
    · cases h
    · cases h
      exact ⟨fun y hy => ⟨y, by simp [hy], rfl⟩, by simp⟩

/-- An upsert fails only on the duplicate key of a document already there. -/
theorem upsertDoc_error_key {key : α → String} {filter : α → Bool} {doc : α} {docs : List α}
    {e : MgoError} (h : upsertDoc key filter doc docs = .error e) : ∃ y ∈ docs, key y = key doc := by
  unfold upsertDoc at h
  split at h
  · cases h
  · split at h
    · rename_i hany
      simpa using hany
    · cases h

theorem exists_of_map_eq_ok {ε β γ : Type} {g : β → γ} {e : Except ε β} {c : γ}
    (h : e.map g = .ok c) : ∃ b, e = .ok b ∧ g b = c := by
  cases e with
  | error _ => cases h
  | ok b => exact ⟨b, rfl, by simpa [Except.map] using h⟩

end Collection

/-! ### The `objects` collection -/

namespace MongoStorage

/-- Modelled from the spec: `fetchOne` on `objects` by `_id`. -/
def fetchObject (s : MongoStorage) (id : String) : Except MgoError Object :=
  match s.objects.find? (fun o => o.id == id) with
  | some o => .ok o
  | none => .error .notFound

/-- The document an update writes: the `$set`/`$inc` of `set`, and, when `currentDate`, a
fresh `last-update`. -/
def stamped (s : MongoStorage) (set : Object → Object) (currentDate : Bool) (o : Object) : Object :=
  if currentDate then { set o with lastUpdate := s.clock + 1 } else set o

@[simp] theorem stamped_id (s : MongoStorage) (set : Object → Object) (currentDate : Bool)
    (o : Object) : (s.stamped set currentDate o).id = (set o).id := by
  unfold stamped; split <;> rfl

/-- Modelled from the spec: `update` on `objects`: the first document matching `filter` is
rewritten (`stamped`); `NotFound` when none matches. -/
def updateObject (s : MongoStorage) (filter : Object → Bool) (set : Object → Object)
    (currentDate : Bool) : Except MgoError MongoStorage :=
  match updateFirst filter (s.stamped set currentDate) s.objects with
  | some objects => .ok { s with objects := objects,
                                 clock := if currentDate then s.clock + 1 else s.clock }
  | none => .error .notFound

/-- The document an insert or a replacement writes: the server gives a `last-update` left at
the zero value of `bson.MongoTimestamp` a fresh timestamp. -/
def freshStamp (s : MongoStorage) (doc : Object) : Object :=
  if doc.lastUpdate = 0 then { doc with lastUpdate := s.clock + 1 } else doc

@[simp] theorem freshStamp_id (s : MongoStorage) (doc : Object) : (s.freshStamp doc).id = doc.id := by
  unfold freshStamp; split <;> rfl

/-- Modelled from the spec: `upsert` on `objects`.  The `last-update` of the document is
"produced by the persistence layer" (§2): one left at zero is stamped (`freshStamp`). -/
def upsertObject (s : MongoStorage) (filter : Object → Bool) (doc : Object) :
    Except MgoError MongoStorage :=
  (upsertDoc Object.id filter (s.freshStamp doc) s.objects).map fun objects =>
    { s with objects := objects, clock := s.clock + 1 }

/-- Modelled from the spec: `removeAll` on `objects`. -/
def removeObjects (s : MongoStorage) (filter : Object → Bool) : MongoStorage :=
  { s with objects := s.objects.filter fun o => !filter o }

/-! ### The `destinations` collection -/

/-- Modelled from the spec: `fetchOne` on `destinations` by `_id`. -/
def fetchDestination (s : MongoStorage) (id : String) : Except MgoError DestinationObject :=
  match s.destinations.find? (fun d => d.id == id) with
  | some d => .ok d
  | none => .error .notFound

/-! ### GridFS and `openFiles` -/

/-- Modelled from the spec: `removeFile`, the idempotent `Delete(key)` of §4.1. -/
def removeFile (s : MongoStorage) (id : String) : MongoStorage :=
  { s with files := Function.update s.files id none }

/-- Modelled from the spec: `storeDataInFile`, the single-shot `Store(key, reader, length)`
of §4.1, which replaces the file and publishes it at once. -/
def storeDataInFile (s : MongoStorage) (id : String) (data : Bytes) : MongoStorage :=
  { s with files := Function.update s.files id (some data) }

/-- `getFileHandle`: a lookup in `openFiles` under the map lock. -/
def getFileHandle (s : MongoStorage) (id : String) : Option FileHandle := s.openFiles id

/-- `putFileHandle`: an insertion into `openFiles` under the map lock. -/
def putFileHandle (s : MongoStorage) (id : String) (fh : FileHandle) : MongoStorage :=
  { s with openFiles := Function.update s.openFiles id (some fh) }

/-- `deleteFileHandle`: a deletion from `openFiles` under the map lock. -/
def deleteFileHandle (s : MongoStorage) (id : String) : MongoStorage :=
  { s with openFiles := Function.update s.openFiles id none }

/-- Modelled from the spec: `createFile`, "a fresh staging handle with `handle.offset = 0`"
(§4.3).  Nothing of it is visible in GridFS before it is closed. -/
def createFile (id : String) : FileHandle :=
  { file := .writing id [], offset := 0, chunks := none }

/-- Modelled from the spec: `openFile`, `Get(key)` of §4.1, a reader on the published file. -/
def openFile (s : MongoStorage) (id : String) : Except MgoError FileHandle :=
  match s.files id with
  | some content => .ok { file := .reading id content, offset := 0, chunks := none }
  | none => .error .notFound

/-- `GridFile.Close`.  Closing a file open for writing publishes it under its id, which
fails when a file with that id is already there; closing a reader has no effect. -/
def closeFile (s : MongoStorage) : GridFile → Except MgoError MongoStorage
  | .writing id content =>
    if (s.files id).isSome then .error .dup
    else .ok { s with files := Function.update s.files id (some content) }
  | .reading _ _ => .ok s

/-- **Spec lemma of `update`.**  A successful update rewrites the document `find?` finds,
and only the `objects` collection and the clock. -/
theorem updateObject_ok {s s' : MongoStorage} {filter : Object → Bool} {set : Object → Object}
    {currentDate : Bool} (h : s.updateObject filter set currentDate = .ok s') :
    ∃ a x b, s.objects = a ++ x :: b ∧ s.objects.find? filter = some x ∧
      s'.objects = a ++ s.stamped set currentDate x :: b ∧ s'.destinations = s.destinations ∧
      s'.files = s.files ∧ s'.openFiles = s.openFiles := by
  unfold updateObject at h
  rcases hu : updateFirst filter (s.stamped set currentDate) s.objects with _ | objects <;>
    rw [hu] at h
  · cases h
  · cases h
    obtain ⟨a, x, b, hs, rfl, hx⟩ := find?_of_updateFirst hu
    exact ⟨a, x, b, hs, hx, rfl, rfl, rfl, rfl⟩

/-- **Spec lemma of `fetchOne`.** -/
theorem fetchObject_ok {s : MongoStorage} {id : String} {o : Object} (h : s.fetchObject id = .ok o) :
    s.objects.find? (fun o => o.id == id) = some o := by
  unfold fetchObject at h
  split at h
  · cases h; assumption
  · cases h

/-- An update conditional on the token of the document just fetched finds that document. -/
theorem updateObject_after_fetch {s : MongoStorage} {id : String} {r : Object}
    (hf : s.fetchObject id = .ok r) (set : Object → Object) (currentDate : Bool) :
    ∃ s', s.updateObject (fun o => o.id == id && o.lastUpdate == r.lastUpdate) set currentDate =
      .ok s' := by
  have hr := fetchObject_ok hf
  have hid : r.id = id := by simpa using List.find?_some hr
  unfold updateObject
  rcases hu : updateFirst _ (s.stamped set currentDate) s.objects with _ | objects
  · have := updateFirst_eq_none.mp hu r (List.mem_of_find?_eq_some hr)
    simp [hid] at this
  · exact ⟨_, rfl⟩

@[simp] theorem removeFile_files (s : MongoStorage) (id : String) :
    (s.removeFile id).files = Function.update s.files id none := rfl
@[simp] theorem removeFile_openFiles (s : MongoStorage) (id : String) :
    (s.removeFile id).openFiles = s.openFiles := rfl
@[simp] theorem removeFile_objects (s : MongoStorage) (id : String) :
    (s.removeFile id).objects = s.objects := rfl
@[simp] theorem storeDataInFile_objects (s : MongoStorage) (id : String) (data : Bytes) :
    (s.storeDataInFile id data).objects = s.objects := rfl
@[simp] theorem putFileHandle_files (s : MongoStorage) (id : String) (fh : FileHandle) :
    (s.putFileHandle id fh).files = s.files := rfl
@[simp] theorem putFileHandle_openFiles (s : MongoStorage) (id : String) (fh : FileHandle) :
    (s.putFileHandle id fh).openFiles = Function.update s.openFiles id (some fh) := rfl
@[simp] theorem deleteFileHandle_files (s : MongoStorage) (id : String) :
    (s.deleteFileHandle id).files = s.files := rfl
@[simp] theorem deleteFileHandle_openFiles (s : MongoStorage) (id : String) :
    (s.deleteFileHandle id).openFiles = Function.update s.openFiles id none := rfl

end MongoStorage

end EdgeSync
