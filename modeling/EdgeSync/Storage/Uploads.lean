import EdgeSync.Storage.Payloads
import EdgeSync.Storage.Reassembly

/-!
# Concurrent uploads

The handles of the chunked uploads in progress live in the process-wide map `openFiles`, one
under each object key, and every call of an upload goes through the handle of its key (§5 of
the specification: append-by-offset is serialized per key by the single handle in
`openFiles`, and across objects no order is guaranteed).  Uploads of different objects thus
interleave freely, call by call.

They do not interfere, as long as every handle of `openFiles` is filed under the key of its
file (`HandlesKeyed`, the second half of `PayloadsOwned`).  Every store operation keeps that
(`HandlesKeyed.step`), so every store reached from the empty one has it
(`handlesKeyed_runOps`).  A call writes the published file and the handle of its own key only
(`appendObjectData_frame`), and what it does there depends on nothing but that file and that
handle (`appendObjectData_local`).  Over any interleaving, the calls of one key therefore return
what they return when made alone, and leave that key's file and handle as they leave them alone
(`uploads_isolated`).  With the reassembly of one upload (`Reassembly.lean`), an upload
interleaved with those of other objects publishes exactly its payload
(`uploads_reassemble`), as long as no other object's calls share its key: the key joins the
ids with `:`, and two objects whose ids contain `:` can share it
(`uploads_share_colliding_key`).

The other store operations do not disturb an upload either.  Each of them, the readers'
`RetrieveObjectData` and `CloseDataReader` among them, writes the payload file and the handle
of one key at most (`StoreOp.fileKey`) and leaves every other key alone (`agreeAt_step`), so
amid any run whose only operations under the key of an object are the calls of its upload, the
key's file and handle end as the upload alone leaves them (`upload_amid_ops`).  A reader of the
object itself is an operation under its key, and its close does end the upload
(`closeDataReader_drops_upload_handle`).
-/

namespace EdgeSync

namespace MongoStorage

/-- A call of `AppendObjectData`, with the object it uploads to. -/
structure UploadCall where
  orgID : String
  objectType : String
  objectID : String
  call : AppendCall

/-- The key of the object a call uploads to. -/
def UploadCall.key (c : UploadCall) : String :=
  createObjectCollectionID c.orgID c.objectType c.objectID

/-- The call, made on a store. -/
def UploadCall.run (s : MongoStorage) (c : UploadCall) : Except SyncServiceError Unit × MongoStorage :=
  s.appendObjectData c.orgID c.objectType c.objectID c.call.dataReader c.call.dataLength
    c.call.offset c.call.total c.call.isFirstChunk c.call.isLastChunk

/-- Calls of uploads to any objects, one after the other: their results and the final store. -/
def uploadRun : MongoStorage → List UploadCall → List (Except SyncServiceError Unit) × MongoStorage
  | s, [] => ([], s)
  | s, c :: cs =>
    let r := UploadCall.run s c
    let rest := uploadRun r.2 cs
    (r.1 :: rest.1, rest.2)

/-- Every handle of `openFiles` is filed under the id of its file. -/
def HandlesKeyed (s : MongoStorage) : Prop := ∀ k fh, s.openFiles k = some fh → fh.file.id = k

/-- Two stores hold the same published file and the same upload handle under the key `k`. -/
def AgreeAt (k : String) (s t : MongoStorage) : Prop :=
  s.files k = t.files k ∧ s.openFiles k = t.openFiles k

variable {s s' t : MongoStorage} {k id : String}

namespace AgreeAt

theorem refl (k : String) (s : MongoStorage) : AgreeAt k s s := ⟨rfl, rfl⟩

theorem trans {u : MongoStorage} (h : AgreeAt k s t) (h' : AgreeAt k t u) : AgreeAt k s u :=
  ⟨h.1.trans h'.1, h.2.trans h'.2⟩

theorem removeFile (h : AgreeAt k s t) (id : String) : AgreeAt k (s.removeFile id) (t.removeFile id) := by
  unfold AgreeAt at *
  by_cases hk : k = id
  · subst hk; simp [h.2]
  · simp [Function.update_noteq hk, h.1, h.2]

theorem putFileHandle (h : AgreeAt k s t) (id : String) (fh : FileHandle) :
    AgreeAt k (s.putFileHandle id fh) (t.putFileHandle id fh) := by
  unfold AgreeAt at *
  by_cases hk : k = id
  · subst hk; simp [h.1]
  · simp [Function.update_noteq hk, h.1, h.2]

theorem deleteFileHandle (h : AgreeAt k s t) (id : String) :
    AgreeAt k (s.deleteFileHandle id) (t.deleteFileHandle id) := by
  unfold AgreeAt at *
  by_cases hk : k = id
  · subst hk; simp [h.1]
  · simp [Function.update_noteq hk, h.1, h.2]

/-- Closing the file of the key `k` in two stores that agree at `k` ends the same way in both,
and they still agree at `k`. -/
theorem closeFile (h : AgreeAt k s t) {f : GridFile} (hf : f.id = k) :
    (∃ s₁ t₁, s.closeFile f = .ok s₁ ∧ t.closeFile f = .ok t₁ ∧ AgreeAt k s₁ t₁) ∨
      ∃ e, s.closeFile f = .error e ∧ t.closeFile f = .error e := by
  cases f with
  | writing id content =>
    cases hf
    by_cases hs : (s.files id).isSome
    · exact .inr ⟨.dup, if_pos hs, if_pos (h.1 ▸ hs)⟩
    · exact .inl ⟨_, _, if_neg hs, if_neg (h.1 ▸ hs), by simp [GridFile.id], h.2⟩
  | reading => exact .inl ⟨s, t, rfl, rfl, h⟩

end AgreeAt

/-- A store agrees with itself at every key a write of the key `id` does not touch. -/
theorem agreeAt_removeFile (hne : k ≠ id) : AgreeAt k (s.removeFile id) s :=
  ⟨Function.update_noteq hne _ _, rfl⟩

theorem agreeAt_putFileHandle (hne : k ≠ id) (fh : FileHandle) : AgreeAt k (s.putFileHandle id fh) s :=
  ⟨rfl, Function.update_noteq hne _ _⟩

theorem agreeAt_deleteFileHandle (hne : k ≠ id) : AgreeAt k (s.deleteFileHandle id) s :=
  ⟨rfl, Function.update_noteq hne _ _⟩

theorem agreeAt_closeFile {f : GridFile} (hc : s.closeFile f = .ok s') (hne : k ≠ f.id) :
    AgreeAt k s' s :=
  let ⟨_, hof, hf⟩ := closeFile_frame hc; ⟨hf k hne, congrFun hof k⟩

/-! ### One call -/

/-- The opening of an upload: the handle it starts from is for its key. -/
theorem openUpload_handle (hk : HandlesKeyed s) (first : Bool) {fh : FileHandle}
    (h : (s.openUpload id first).1 = some fh) : fh.file.id = id := by
  unfold openUpload at h
  split at h
  · cases h; rfl
  · exact hk id fh h

theorem openUpload_agree (h : AgreeAt id s t) (first : Bool) :
    (s.openUpload id first).1 = (t.openUpload id first).1 ∧
      AgreeAt id (s.openUpload id first).2 (t.openUpload id first).2 := by
  unfold openUpload
  split
  · exact ⟨rfl, h.removeFile id⟩
  · exact ⟨h.2, h⟩

section Call

variable {orgID objectType objectID : String} {dataReader : Bytes} {dataLength : UInt32}
  {offset total : Int} {first last : Bool}

/-- **Spec lemma.**  What a call leaves: the store after the opening of the upload, or that
store with the handle of the key replaced by a handle `fh'` for the key, or dropped, and then
the file of `fh'` published. -/
theorem appendObjectData_cases (hk : HandlesKeyed s) (orgID objectType objectID : String)
    (dataReader : Bytes) (dataLength : UInt32) (offset total : Int) (first last : Bool) :
    let id := createObjectCollectionID orgID objectType objectID
    let s₁ := (s.openUpload id first).2
    let s' := (s.appendObjectData orgID objectType objectID dataReader dataLength offset total
      first last).2
    s' = s₁ ∨ ∃ fh' : FileHandle, fh'.file.id = id ∧
      (s' = s₁.putFileHandle id fh' ∨ s' = s₁.deleteFileHandle id ∨
        (s₁.deleteFileHandle id).closeFile fh'.file = .ok s') := by
  intro id s₁ s'
  unfold s' appendObjectData
  dsimp only
  split
  · exact .inl rfl
  · rename_i fh hfh
    split
    · exact .inl rfl
    · split
      · exact .inl rfl
      · rename_i fh' hplace
        refine .inr ⟨fh', (placeChunk_file hplace).trans (openUpload_handle hk first hfh), ?_⟩
        split
        · split
          · exact .inr (.inr ‹_›)
          · exact .inr (.inl rfl)
        · exact .inl rfl

/-- **Frame.**  A call leaves the file and the handle of every other key as they were. -/
theorem appendObjectData_frame (hk : HandlesKeyed s)
    (hne : k ≠ createObjectCollectionID orgID objectType objectID) :
    AgreeAt k (s.appendObjectData orgID objectType objectID dataReader dataLength offset total
      first last).2 s := by
  have hopen : AgreeAt k (s.openUpload (createObjectCollectionID orgID objectType objectID)
      first).2 s := by
    unfold openUpload; split
    · exact agreeAt_removeFile hne
    · exact .refl k s
  rcases appendObjectData_cases hk orgID objectType objectID dataReader dataLength offset
    total first last with h | ⟨fh', hid, h | h | h⟩
  · rw [h]; exact hopen
  · rw [h]; exact (agreeAt_putFileHandle hne fh').trans hopen
  · rw [h]; exact (agreeAt_deleteFileHandle hne).trans hopen
  · exact (agreeAt_closeFile h (hid ▸ hne)).trans ((agreeAt_deleteFileHandle hne).trans hopen)

/-- **Locality.**  From two stores that agree at the call's key, the call returns the same
result, and leaves two stores that agree at that key. -/
theorem appendObjectData_local (hk : HandlesKeyed s)
    (h : AgreeAt (createObjectCollectionID orgID objectType objectID) s t) :
    (s.appendObjectData orgID objectType objectID dataReader dataLength offset total first last).1 =
        (t.appendObjectData orgID objectType objectID dataReader dataLength offset total first
          last).1 ∧
      AgreeAt (createObjectCollectionID orgID objectType objectID)
        (s.appendObjectData orgID objectType objectID dataReader dataLength offset total first
          last).2
        (t.appendObjectData orgID objectType objectID dataReader dataLength offset total first
          last).2 := by
  obtain ⟨hfh, hopen⟩ := openUpload_agree h first
  have hfile : ∀ fh, (s.openUpload (createObjectCollectionID orgID objectType objectID) first).1 =
      some fh → fh.file.id = createObjectCollectionID orgID objectType objectID :=
    fun _ h => openUpload_handle hk first h
  unfold appendObjectData
  dsimp only
  rw [← hfh]
  rcases hfh' : (s.openUpload (createObjectCollectionID orgID objectType objectID) first).1 with
    _ | fh
  · exact ⟨rfl, hopen⟩
  rcases readChunk dataReader dataLength with e | data
  · exact ⟨rfl, hopen⟩
  dsimp only
  rcases hplace : placeChunk fh offset data with e | fh'
  · exact ⟨rfl, hopen⟩
  have hid := (placeChunk_file hplace).trans (hfile fh hfh')
  cases last
  · exact ⟨rfl, hopen.putFileHandle _ fh'⟩
  rcases (hopen.deleteFileHandle (createObjectCollectionID orgID objectType objectID)).closeFile
    hid with ⟨s₁, t₁, hs, ht, h₁⟩ | ⟨e, hs, ht⟩
  · simp only [if_true, hs, ht, true_and]; exact h₁
  · simp only [if_true, hs, ht, true_and]; exact hopen.deleteFileHandle _

/-- Every call keeps the handles filed under the keys of their files. -/
theorem HandlesKeyed.appendObjectData (hk : HandlesKeyed s) :
    HandlesKeyed (s.appendObjectData orgID objectType objectID dataReader dataLength offset total
      first last).2 := by
  intro k' fh hfh
  by_cases hne : k' = createObjectCollectionID orgID objectType objectID
  · rw [hne] at hfh ⊢
    have hopen : ∀ id, (s.openUpload id first).2.openFiles id = s.openFiles id := by
      intro id; unfold openUpload; split <;> rfl
    rcases appendObjectData_cases hk orgID objectType objectID dataReader dataLength offset
      total first last with h | ⟨fh', hid, h | h | h⟩
    · rw [h, hopen] at hfh; exact hk _ _ hfh
    · rw [h] at hfh; simp at hfh; exact hfh ▸ hid
    · rw [h] at hfh; simp at hfh
    · rw [(closeFile_frame h).2.1] at hfh; simp at hfh
  · exact hk k' fh ((appendObjectData_frame hk hne).2 ▸ hfh)

end Call

/-! ### Footprints -/

/-- The key under which an operation may write a payload file or an upload handle. -/
def StoreOp.fileKey : StoreOp → Option String
  | .storeObject _ metaData _ _ => some (getObjectCollectionID metaData)
  | .storeObjectData _ orgID objectType objectID _ | .appendObjectData orgID objectType objectID ..
  | .deleteStoredObject orgID objectType objectID | .deleteStoredData orgID objectType objectID
  | .retrieveObjectData orgID objectType objectID =>
    some (createObjectCollectionID orgID objectType objectID)
  | .closeDataReader id _ => some id
  | _ => none

/-- `StoreObject` writes the payload file of its object only, and no handle. -/
theorem storeObject_frame {now : Now} {metaData : MetaData} {data : Option Bytes}
    {status : String} :
    (s.storeObject now metaData data status).2.openFiles = s.openFiles ∧
      ∀ k ≠ getObjectCollectionID metaData, (s.storeObject now metaData data status).2.files k =
        s.files k := by
  obtain ⟨-, hopen, hfiles⟩ := storeObject_payload s (getObjectCollectionID metaData) data
    (!metaData.metaOnly || metaData.noData)
  unfold storeObject
  dsimp only
  split
  · rename_i hu
    unfold upsertObject at hu
    obtain ⟨_, -, rfl⟩ := exists_of_map_eq_ok hu
    exact ⟨hopen, hfiles⟩
  · exact ⟨hopen, hfiles⟩

/-- `StoreObjectData` writes the payload file of its object only, and no handle. -/
theorem storeObjectData_frame {now : Now} {orgID objectType objectID : String}
    {dataReader : Bytes} :
    (s.storeObjectData now orgID objectType objectID dataReader).2.openFiles = s.openFiles ∧
      ∀ k ≠ createObjectCollectionID orgID objectType objectID,
        (s.storeObjectData now orgID objectType objectID dataReader).2.files k = s.files k := by
  unfold storeObjectData
  dsimp only
  split
  · exact ⟨rfl, fun _ _ => rfl⟩
  · exact ⟨rfl, fun _ _ => rfl⟩
  · split
    · exact ⟨rfl, fun _ _ => rfl⟩
    · rename_i s₁ hprep
      have h₁ : FilesKept s s₁ := by
        split at hprep
        · cases hprep; exact setObjectFields_filesKept
        · split at hprep
          · split at hprep
            · cases hprep; exact .updateObject ‹_›
            · cases hprep
          · cases hprep; exact .refl
      have h₂ : ∀ k ≠ createObjectCollectionID orgID objectType objectID,
          (s₁.storeDataInFile (createObjectCollectionID orgID objectType objectID)
            dataReader).files k = s.files k :=
        fun k hk => (Function.update_noteq hk _ _).trans (congrFun h₁.1 k)
      split
      · rename_i hu
        have h₃ := FilesKept.updateObject hu
        exact ⟨h₃.2.trans h₁.2, fun k hk => (congrFun h₃.1 k).trans (h₂ k hk)⟩
      · exact ⟨h₁.2, h₂⟩

theorem AgreeAt.of_frame (ho : s'.openFiles = s.openFiles) (hf : s'.files k = s.files k) :
    AgreeAt k s' s :=
  ⟨hf, congrFun ho k⟩

theorem AgreeAt.of_filesKept (h : FilesKept s s') : AgreeAt k s' s :=
  ⟨congrFun h.1 k, congrFun h.2 k⟩

theorem AgreeAt.of_readerWrite (hw : ReaderWrite id s s') (hne : k ≠ id) : AgreeAt k s' s :=
  ⟨by obtain ⟨_, rfl⟩ := hw.only; rfl, hw.frame k hne⟩

/-- **Frame.**  An operation leaves the payload file and the upload handle of every key but
its own as they were. -/
theorem agreeAt_step (hk : HandlesKeyed s) :
    ∀ op : StoreOp, op.fileKey ≠ some k → AgreeAt k (StoreOp.run s op) s
  | .storeObject .., h =>
    .of_frame storeObject_frame.1 (storeObject_frame.2 k fun he => h (congrArg some he.symm))
  | .storeObjectData .., h =>
    .of_frame storeObjectData_frame.1 (storeObjectData_frame.2 k fun he => h (congrArg some he.symm))
  | .appendObjectData .., h => appendObjectData_frame hk fun he => h (congrArg some he.symm)
  | .retrieveObjectData orgID objectType objectID, h =>
    .of_readerWrite (retrieveObjectData_write s orgID objectType objectID)
      fun he => h (congrArg some he.symm)
  | .closeDataReader id content, h =>
    .of_readerWrite (closeDataReader_write s id content) fun he => h (congrArg some he.symm)
  | .deleteStoredObject .., h | .deleteStoredData .., h =>
    agreeAt_removeFile fun he => h (congrArg some he.symm)
  | .updateObjectStatus .., _ | .markObjectDeleted .., _ | .activateObject .., _ =>
    .of_filesKept setObjectFields_filesKept
  | .updateObjectDeliveryStatus .., _ => .of_filesKept updateObjectDeliveryStatus_filesKept
  | .updateObjectDelivering .., _ => .of_filesKept (retryUpdate_filesKept _ _)
  | .decrementAndReturnRemainingConsumers .., _ | .decrementAndReturnRemainingReceivers .., _ =>
    .of_filesKept decrementAndReturnRemaining_filesKept
  | .resetObjectRemainingConsumers .., _ => .of_filesKept resetObjectRemainingConsumers_filesKept
  | .retrieveObjects .., _ => .of_filesKept retrieveObjects_filesKept
  | .deleteDestination .., _ | .deleteNotificationRecords .., _ | .deleteOrgToMessagingGroup _, _ |
    .deleteOrganizationInfo _, _ | .deleteOrganization _, _ => .refl k s
  | .storeDestination destination, _ => by
    obtain ⟨_, he⟩ := storeDestination_only s destination
    rw [StoreOp.run, he]; exact .refl k s
  | .updateNotificationRecord now resendInterval notification, _ => by
    obtain ⟨_, he⟩ := updateNotificationRecord_only s now resendInterval notification
    rw [StoreOp.run, he]; exact .refl k s
  | .updateNotificationResendTime now resendInterval notification, _ => by
    obtain ⟨_, he⟩ := updateNotificationResendTime_only s now resendInterval notification
    rw [StoreOp.run, he]; exact .refl k s
  | .storeOrgToMessagingGroup orgID messagingGroup, _ => by
    obtain ⟨_, _, he⟩ := storeOrgToMessagingGroup_only s orgID messagingGroup
    rw [StoreOp.run, he]; exact .refl k s
  | .storeOrganization org, _ => by
    obtain ⟨_, _, he⟩ := storeOrganization_only s org
    rw [StoreOp.run, he]; exact .refl k s
  | .addWebhook orgID objectType url, _ => by
    obtain ⟨_, _, _, he⟩ := addWebhookLoop_only (webhookID orgID objectType) url maxUpdateTries 0 s
    rw [StoreOp.run, addWebhook, he]; exact .refl k s
  | .deleteWebhook orgID objectType url, _ => by
    obtain ⟨_, _, _, he⟩ := deleteWebhookLoop_only equalFold (webhookID orgID objectType) url maxUpdateTries s
    rw [StoreOp.run, deleteWebhook, he]; exact .refl k s

/-! ### Every reachable store -/

theorem HandlesKeyed.of_openFiles (h : HandlesKeyed s) (hof : s'.openFiles = s.openFiles) :
    HandlesKeyed s' :=
  fun k fh hk => h k fh (hof ▸ hk)

theorem handlesKeyed_empty : HandlesKeyed MongoStorage.empty := fun _ _ h => nomatch h

/-- **Step lemma.**  Every store operation keeps the handles filed under their keys: only
`AppendObjectData` and the calls of a reader write `openFiles`. -/
theorem HandlesKeyed.step (h : HandlesKeyed s) (op : StoreOp) : HandlesKeyed (StoreOp.run s op) := by
  intro k fh hfh
  if hk : op.fileKey = some k then
    cases op <;> simp only [StoreOp.fileKey, reduceCtorEq] at hk
    case storeObject => exact h.of_openFiles storeObject_frame.1 k fh hfh
    case storeObjectData => exact h.of_openFiles storeObjectData_frame.1 k fh hfh
    case appendObjectData => exact h.appendObjectData k fh hfh
    case deleteStoredObject | deleteStoredData => exact h k fh hfh
    case retrieveObjectData orgID objectType objectID =>
      exact (retrieveObjectData_write s orgID objectType objectID).handles h k fh hfh
    case closeDataReader id content => exact (closeDataReader_write s id content).handles h k fh hfh
  else exact h k fh ((agreeAt_step h op hk).2 ▸ hfh)

/-- **Run lemma.**  Every store reached from the empty store files its handles under their
keys. -/
theorem handlesKeyed_runOps (ops : List StoreOp) : HandlesKeyed (runOps MongoStorage.empty ops) :=
  go ops handlesKeyed_empty
where
  go : ∀ (ops : List StoreOp) {s : MongoStorage}, HandlesKeyed s → HandlesKeyed (runOps s ops)
    | [], _, h => h
    | op :: ops, _, h => go ops (h.step op)

/-! ### Interleavings -/

namespace UploadCall

variable {c : UploadCall}

theorem run_frame (hk : HandlesKeyed s) (hne : k ≠ c.key) : AgreeAt k (c.run s).2 s :=
  appendObjectData_frame hk hne

theorem run_local (hk : HandlesKeyed s) (h : AgreeAt c.key s t) :
    (c.run s).1 = (c.run t).1 ∧ AgreeAt c.key (c.run s).2 (c.run t).2 :=
  appendObjectData_local hk h

end UploadCall

theorem HandlesKeyed.uploadCall (hk : HandlesKeyed s) (c : UploadCall) : HandlesKeyed (c.run s).2 :=
  hk.appendObjectData

/-- **Run lemma.**  Run an interleaving of uploads from `s`, and the calls of the key `k` alone
from a store `t` that agrees with `s` at `k`: the calls of `k` return the same results in both,
and the two final stores agree at `k`. -/
theorem uploadRun_agree (k : String) : ∀ (calls : List UploadCall) {s t : MongoStorage},
    HandlesKeyed s → AgreeAt k s t →
    ((calls.zip (uploadRun s calls).1).filter (·.1.key == k)).map Prod.snd =
        (uploadRun t (calls.filter (·.key == k))).1 ∧
      AgreeAt k (uploadRun s calls).2 (uploadRun t (calls.filter (·.key == k))).2
  | [], _, _, _, h => ⟨rfl, h⟩
  | c :: calls, s, t, hk, h => by
    by_cases hc : c.key = k
    · subst hc
      obtain ⟨hr, h₁⟩ := UploadCall.run_local hk h
      obtain ⟨ih₁, ih₂⟩ := uploadRun_agree c.key calls (hk.uploadCall c) h₁
      simp only [uploadRun, List.zip_cons_cons, List.filter_cons, beq_self_eq_true, if_true,
        List.map_cons]
      exact ⟨congrArg₂ _ hr ih₁, ih₂⟩
    · obtain ⟨ih₁, ih₂⟩ := uploadRun_agree k calls (hk.uploadCall c)
        ((UploadCall.run_frame hk (Ne.symm hc)).trans h)
      simp only [uploadRun, List.zip_cons_cons, List.filter_cons, beq_iff_eq, hc, if_false]
      exact ⟨ih₁, ih₂⟩

/-- **Uploads of different objects do not interfere.**  From every store the operations reach,
over every interleaving of the calls of uploads to any objects, the calls of one key return what
they return when made alone, and leave the published file and the upload handle of the key as
they leave them alone. -/
theorem uploads_isolated (ops : List StoreOp) (calls : List UploadCall) (k : String) :
    let s : MongoStorage := runOps MongoStorage.empty ops
    ((calls.zip (uploadRun s calls).1).filter (·.1.key == k)).map Prod.snd =
        (uploadRun s (calls.filter (·.key == k))).1 ∧
      AgreeAt k (uploadRun s calls).2 (uploadRun s (calls.filter (·.key == k))).2 :=
  uploadRun_agree k calls (handlesKeyed_runOps ops) (.refl k _)

/-- The calls of one object, made one after the other, are its upload. -/
theorem uploadRun_eq_appendRun {orgID objectType objectID : String} :
    ∀ {calls : List UploadCall} (s : MongoStorage),
      (∀ c ∈ calls, c.orgID = orgID ∧ c.objectType = objectType ∧ c.objectID = objectID) →
      uploadRun s calls = appendRun orgID objectType objectID s (calls.map UploadCall.call)
  | [], _, _ => rfl
  | ⟨_, _, _, call⟩ :: calls, s, h => by
    obtain ⟨rfl, rfl, rfl⟩ := h _ (List.mem_cons_self _ _)
    simp only [uploadRun, appendRun, List.map_cons, UploadCall.run]
    rw [uploadRun_eq_appendRun _ fun c hc => h c (List.mem_cons_of_mem _ hc)]

/-- **Chunked uploads reassemble under any interleaving.**  From every store the operations
reach, over every interleaving of the calls of uploads to any objects: when no other object's
calls share the key of an object, and that object's calls meet the conditions of a whole
upload (the calls that succeed hand over the chunks of a partition of the payload in some
order, the first of them with the first-chunk flag and only the last with the last-chunk flag,
and the others are `Discarded`), the upload publishes exactly the blocks in order and leaves no
handle in `openFiles`. -/
theorem uploads_reassemble (ops : List StoreOp) (calls : List UploadCall)
    (orgID objectType objectID : String) (bs : List Bytes) (order : List (Int × Bytes)) :
    let s : MongoStorage := runOps MongoStorage.empty ops
    let k : String := createObjectCollectionID orgID objectType objectID
    let own : List UploadCall := calls.filter (·.key == k)
    let results := ((calls.zip (uploadRun s calls).1).filter (·.1.key == k)).map Prod.snd
    let kept := succeeded (own.map UploadCall.call) results
    (∀ c ∈ own, c.orgID = orgID ∧ c.objectType = objectType ∧ c.objectID = objectID) →
    (∀ b ∈ bs, b ≠ []) → (∀ r ∈ results, r = .ok () ∨ ∃ m, r = .error (.discarded m)) →
    List.Forall₂ (fun c ch => c.chunk = .ok ch) kept order → order.Perm (chunksOf bs) →
    kept ≠ [] → kept.map (·.isFirstChunk) = true :: List.replicate (kept.length - 1) false →
    kept.map (·.isLastChunk) = List.replicate (kept.length - 1) false ++ [true] →
    Published bs k (uploadRun s calls).2 := by
  intro s k own results kept hown hne hres hchunks hperm hnil hfirst hlast
  obtain ⟨hr, hagree⟩ := uploadRun_agree k calls (handlesKeyed_runOps ops) (.refl k s)
  rw [uploadRun_eq_appendRun s hown] at hr hagree
  have hr : results = (appendRun orgID objectType objectID s (own.map UploadCall.call)).1 := hr
  have hkept : kept = succeeded (own.map UploadCall.call)
      (appendRun orgID objectType objectID s (own.map UploadCall.call)).1 := by
    show succeeded _ results = _; rw [hr]
  rw [hr] at hres
  rw [hkept] at hchunks hnil hfirst hlast
  obtain ⟨hstate, hok⟩ := appendRun_succeeded _ s hres
  have hpub := appendRun_published hne hchunks hperm hnil hfirst hlast hok
  rw [hstate] at hpub
  exact ⟨hagree.1.trans hpub.1, hagree.2.trans hpub.2⟩

/-- The two chunks of an object, the second first, around the whole upload of another
object. -/
theorem uploads_reassemble_interleaved :
    let s : MongoStorage := runOps MongoStorage.empty []
    let calls : List UploadCall :=
      [⟨"O", "T", "X", ⟨[67, 68], 2, 2, 4, true, false⟩⟩,
       ⟨"O", "T", "Y", ⟨[1, 2, 3], 3, 0, 3, true, true⟩⟩,
       ⟨"O", "T", "X", ⟨[65, 66], 2, 0, 4, false, true⟩⟩]
    let k : String := createObjectCollectionID "O" "T" "X"
    let own : List UploadCall := calls.filter (·.key == k)
    let results := ((calls.zip (uploadRun s calls).1).filter (·.1.key == k)).map Prod.snd
    let kept := succeeded (own.map UploadCall.call) results
    let bs : List Bytes := [[65, 66], [67, 68]]
    let order : List (Int × Bytes) := [(2, [67, 68]), (0, [65, 66])]
    ((∀ c ∈ own, c.orgID = "O" ∧ c.objectType = "T" ∧ c.objectID = "X") ∧ (∀ b ∈ bs, b ≠ []) ∧
      (∀ r ∈ results, r = .ok () ∨ ∃ m, r = .error (.discarded m)) ∧
      List.Forall₂ (fun c ch => c.chunk = .ok ch) kept order ∧ order.Perm (chunksOf bs) ∧
      kept ≠ [] ∧ kept.map (·.isFirstChunk) = true :: List.replicate (kept.length - 1) false ∧
      kept.map (·.isLastChunk) = List.replicate (kept.length - 1) false ++ [true]) ∧
    Published bs k (uploadRun s calls).2 := by
  intro s calls k own results kept bs order
  have hown : ∀ c ∈ own, c.orgID = "O" ∧ c.objectType = "T" ∧ c.objectID = "X" := by decide
  have hne : ∀ b ∈ bs, b ≠ [] := by decide
  have hres : ∀ r ∈ results, r = .ok () ∨ ∃ m, r = .error (.discarded m) :=
    fun r hr => .inl ((by decide : ∀ r ∈ results, r = .ok ()) r hr)
  have hchunks : List.Forall₂ (fun c ch => c.chunk = .ok ch) kept order := by decide
  have hperm : order.Perm (chunksOf bs) := by decide
  have hnil : kept ≠ [] := by decide
  have hfirst : kept.map (·.isFirstChunk) = true :: List.replicate (kept.length - 1) false := by
    decide
  have hlast : kept.map (·.isLastChunk) = List.replicate (kept.length - 1) false ++ [true] := by
    decide
  exact ⟨⟨hown, hne, hres, hchunks, hperm, hnil, hfirst, hlast⟩,
    uploads_reassemble [] calls "O" "T" "X" bs order hown hne hres hchunks hperm hnil hfirst hlast⟩

/-- The condition on the key is needed.  `createObjectCollectionID` joins the ids with `:`, so
the objects `O / T / X:1` and `O:T / X / 1` share the key `O:T:X:1`.  The first chunk of the
second, between the two chunks of the first, replaces the handle of the first; every call
succeeds, and the first object's upload publishes the second's byte in place of its own. -/
theorem uploads_share_colliding_key :
    let calls : List UploadCall :=
      [⟨"O", "T", "X:1", ⟨[1], 1, 0, 2, true, false⟩⟩,
       ⟨"O:T", "X", "1", ⟨[9], 1, 0, 1, true, false⟩⟩,
       ⟨"O", "T", "X:1", ⟨[2], 1, 1, 2, false, true⟩⟩]
    (uploadRun MongoStorage.empty calls).1 = [.ok (), .ok (), .ok ()] ∧
      (uploadRun MongoStorage.empty calls).2.files (createObjectCollectionID "O" "T" "X:1") =
        some [9, 2] := by
  decide


/-! ### Amid every other operation -/

/-- A call of an upload to an object, as a store operation. -/
def appendOp (orgID objectType objectID : String) (c : AppendCall) : StoreOp :=
  .appendObjectData orgID objectType objectID c.dataReader c.dataLength c.offset c.total
    c.isFirstChunk c.isLastChunk

/-- **Run lemma.**  Run operations from `s` whose only ones under the key of an object are the
calls of an upload to it, and the upload alone from a store `t` that agrees with `s` at the
key: the two final stores agree at the key. -/
theorem runOps_agree_appendRun (orgID objectType objectID : String) :
    ∀ (ops : List StoreOp) (calls : List AppendCall) {s t : MongoStorage}, HandlesKeyed s →
      AgreeAt (createObjectCollectionID orgID objectType objectID) s t →
      ops.filter (·.fileKey == some (createObjectCollectionID orgID objectType objectID)) =
        calls.map (appendOp orgID objectType objectID) →
      AgreeAt (createObjectCollectionID orgID objectType objectID) (runOps s ops)
        (appendRun orgID objectType objectID t calls).2
  | [], calls, _, _, _, h, hc => by
    obtain rfl : calls = [] := List.eq_nil_of_map_eq_nil hc.symm
    exact h
  | op :: ops, calls, s, t, hk, h, hc => by
    by_cases hop : op.fileKey = some (createObjectCollectionID orgID objectType objectID)
    · rw [List.filter_cons_of_pos (by simpa using hop)] at hc
      rcases calls with _ | ⟨c, cs⟩
      · cases hc
      obtain ⟨rfl, hcs⟩ := List.cons.inj hc
      exact runOps_agree_appendRun orgID objectType objectID ops cs
        (hk.step (appendOp orgID objectType objectID c)) (appendObjectData_local hk h).2 hcs
    · rw [List.filter_cons_of_neg (by simpa using hop)] at hc
      exact runOps_agree_appendRun orgID objectType objectID ops calls (hk.step op)
        ((agreeAt_step hk op hop).trans h) hc

/-- **An upload amid every other operation.**  From every store the operations reach, over
every run of store operations whose only operations that may write under the key of an object
are the calls of an upload to it, the payload file and the upload handle of the key end as the
upload alone leaves them. -/
theorem upload_amid_ops (ops₀ ops : List StoreOp) (orgID objectType objectID : String)
    (calls : List AppendCall) :
    let s : MongoStorage := runOps MongoStorage.empty ops₀
    let k : String := createObjectCollectionID orgID objectType objectID
    ops.filter (·.fileKey == some k) = calls.map (appendOp orgID objectType objectID) →
    AgreeAt k (runOps s ops) (appendRun orgID objectType objectID s calls).2 := by
  intro s k hc
  exact runOps_agree_appendRun orgID objectType objectID ops calls (handlesKeyed_runOps ops₀)
    (.refl k s) hc

/-- The two chunks of an upload around the upload of another object, a change of the
object's status, the removal of another object's payload and the deletion of the org. -/
theorem upload_amid_ops_mixed :
    let calls : List AppendCall := [⟨[1, 2], 2, 0, 4, true, false⟩, ⟨[3, 4], 2, 2, 4, false, true⟩]
    let ops : List StoreOp :=
      [appendOp "O" "T" "X" ⟨[1, 2], 2, 0, 4, true, false⟩,
       .appendObjectData "O" "T" "Y" [9] 1 0 1 true true,
       .updateObjectStatus "O" "T" "X" ReadyToSend,
       appendOp "O" "T" "X" ⟨[3, 4], 2, 2, 4, false, true⟩,
       .deleteStoredData "O" "T" "Y", .deleteOrganization "O"]
    ops.filter (·.fileKey == some (createObjectCollectionID "O" "T" "X")) =
        calls.map (appendOp "O" "T" "X") ∧
      AgreeAt (createObjectCollectionID "O" "T" "X") (runOps (runOps MongoStorage.empty []) ops)
        (appendRun "O" "T" "X" (runOps MongoStorage.empty []) calls).2 := by
  intro calls ops
  have hc : ops.filter (·.fileKey == some (createObjectCollectionID "O" "T" "X")) =
      calls.map (appendOp "O" "T" "X") := rfl
  exact ⟨hc, upload_amid_ops [] ops "O" "T" "X" calls hc⟩

end MongoStorage

end EdgeSync
