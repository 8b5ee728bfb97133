import EdgeSync.Storage.Keyed

/-!
# Payload files and their objects

A payload is stored in GridFS under the key of its object, and the specification has every
payload owned by the object of its key (`PayloadsOwned`, with the open upload handles, each
writing the file of its own key).  Every store operation but `DeleteOrganization` keeps it,
provided `AppendObjectData` is only called for the key of an object document
(`PayloadsOwned.step`, and `payloadsOwned_runsWith` over every run from the empty store).
`DeleteOrganization` removes the object documents of the org by a query and leaves their
payload files, so a payload outlives its object (`deleteOrganization_orphans_payload`).

`StoreObject` writes the payload before it upserts the document, and a failed call keeps that
write (`storeObject_error_eq`): when the upsert fails, the call returns an error and the new
payload stays, next to the document that was there (`storeObject_fails_after_payload_write`).
-/

namespace EdgeSync

namespace MongoStorage

/-! ### Owned payloads -/

/-- The store holds an object document of key `id`. -/
def HasObject (s : MongoStorage) (id : String) : Prop := ∃ o ∈ s.objects, o.id = id

/-- **Payloads are owned**: every payload file is under the key of an object document, and
every open handle writes the file of its own key, the one its upload publishes. -/
structure PayloadsOwned (s : MongoStorage) : Prop where
  files : ∀ id, s.files id ≠ none → HasObject s id
  handles : ∀ id fh, s.openFiles id = some fh → fh.file.id = id

theorem payloadsOwned_empty : PayloadsOwned MongoStorage.empty :=
  ⟨fun _ h => (h rfl).elim, fun _ _ h => nomatch h⟩

variable {s s' s'' : MongoStorage}

/-- A write that keeps every object key and the open files, and changes the payload files only
under `id`, where it leaves a file only when an object of that key remains. -/
theorem PayloadsOwned.of_write (h : PayloadsOwned s) (id : String)
    (hids : ∀ k, HasObject s k → HasObject s' k) (hfiles : ∀ k ≠ id, s'.files k = s.files k)
    (hid : s'.files id ≠ none → HasObject s' id) (hopen : s'.openFiles = s.openFiles) :
    PayloadsOwned s' where
  files k hk := by
    by_cases hk' : k = id
    · subst hk'; exact hid hk
    · exact hids k (h.files k (hfiles k hk' ▸ hk))
  handles k fh hfh := h.handles k fh (hopen ▸ hfh)

/-- A write of nothing the invariant reads. -/
theorem PayloadsOwned.of_frame (h : PayloadsOwned s) (ho : s'.objects = s.objects)
    (hf : s'.files = s.files) (hof : s'.openFiles = s.openFiles) : PayloadsOwned s' :=
  h.of_write "" (fun _ ⟨o, hoo, hid⟩ => ⟨o, ho ▸ hoo, hid⟩) (fun _ _ => hf ▸ rfl)
    (fun hk => let ⟨o, hoo, hid⟩ := h.files "" (hf ▸ hk); ⟨o, ho ▸ hoo, hid⟩) hof

/-- A reader's call keeps the payloads owned. -/
theorem PayloadsOwned.of_readerWrite {id : String} (h : PayloadsOwned s) (hw : ReaderWrite id s s') :
    PayloadsOwned s' where
  files k hk := by obtain ⟨_, rfl⟩ := hw.only; exact h.files k hk
  handles := hw.handles h.handles

/-! ### Object keys -/

/-- Every backend call of an object operation keeps every object key, when its updates keep
the ids of the documents they rewrite. -/
theorem hasObject_of_calls {U : Object → Prop} {id : String}
    (hc : ObjCalls (fun x y => y.id = x.id) U s s') (h : HasObject s id) : HasObject s' id :=
  hc.lift (HasObject · id) h fun ⟨o, ho, hid⟩ hcall => by
    cases hcall with
    | update hu hset =>
      obtain ⟨a, x, b, hs, hx, hs', -⟩ := updateObject_ok hu
      rw [hs] at ho
      simp only [List.mem_append, List.mem_cons] at ho
      rcases ho with ho | rfl | ho
      · exact ⟨o, by rw [hs']; simp [ho], hid⟩
      · exact ⟨_, by rw [hs']; exact List.mem_append_right _ (List.mem_cons_self _ _),
          by rw [stamped_id, hset o hx, hid]⟩
      · exact ⟨o, by rw [hs']; simp [ho], hid⟩
    | upsert hu hfilter _ =>
      unfold upsertObject at hu
      obtain ⟨objects, hd, rfl⟩ := exists_of_map_eq_ok hu
      obtain ⟨z, hz, hk⟩ :=
        (upsertDoc_ok_keys hd fun d hd' => by rw [freshStamp_id]; exact hfilter d hd').1 o ho
      exact ⟨z, hz, hk.trans hid⟩
    | files => exact ⟨o, ho, hid⟩

/-- **Spec lemma of `upsert` on `objects`**, for a filter that matches only documents of the
document's key: a success keeps every key and the files and holds the document's key; a
failure found that key taken. -/
theorem hasObject_upsertObject {filter : Object → Bool} {doc : Object}
    (hfilter : ∀ o, filter o = true → o.id = doc.id) :
    (∀ s', s.upsertObject filter doc = .ok s' →
      (∀ k, HasObject s k → HasObject s' k) ∧ HasObject s' doc.id ∧ s'.files = s.files ∧
        s'.openFiles = s.openFiles) ∧
    (∀ e, s.upsertObject filter doc = .error e → HasObject s doc.id) := by
  have hkey : ∀ d, filter d = true → d.id = (s.freshStamp doc).id := fun d hd => by
    rw [freshStamp_id]; exact hfilter d hd
  refine ⟨fun s' hu => ?_, fun e hu => ?_⟩
  · unfold upsertObject at hu
    obtain ⟨objects, hd, rfl⟩ := exists_of_map_eq_ok hu
    obtain ⟨hkeys, hmem⟩ := upsertDoc_ok_keys hd hkey
    exact ⟨fun k ⟨o, ho, hid⟩ => let ⟨z, hz, hk⟩ := hkeys o ho; ⟨z, hz, hk.trans hid⟩,
      ⟨_, hmem, freshStamp_id _ _⟩, rfl, rfl⟩
  · unfold upsertObject at hu
    cases hd : upsertDoc Object.id filter (s.freshStamp doc) s.objects with
    | ok _ => rw [hd] at hu; cases hu
    | error e' =>
      obtain ⟨y, hy, hk⟩ := upsertDoc_error_key hd
      exact ⟨y, hy, hk.trans (freshStamp_id _ _)⟩

/-! ### Operations that write no payload -/

/-- `s'` holds the payload files and the open files of `s`. -/
def FilesKept (s s' : MongoStorage) : Prop := s'.files = s.files ∧ s'.openFiles = s.openFiles

theorem FilesKept.refl : FilesKept s s := ⟨rfl, rfl⟩

theorem FilesKept.trans (h : FilesKept s s') (h' : FilesKept s' s'') : FilesKept s s'' :=
  ⟨h'.1.trans h.1, h'.2.trans h.2⟩

theorem FilesKept.updateObject {filter : Object → Bool} {set : Object → Object} {cd : Bool}
    (hu : s.updateObject filter set cd = .ok s') : FilesKept s s' :=
  let ⟨_, _, _, _, _, _, _, hf, ho⟩ := updateObject_ok hu; ⟨hf, ho⟩

/-- An operation that writes no payload and keeps the object keys keeps payloads owned. -/
theorem PayloadsOwned.of_kept (h : PayloadsOwned s) (hids : ∀ k, HasObject s k → HasObject s' k)
    (hk : FilesKept s s') : PayloadsOwned s' :=
  h.of_write "" hids (fun _ _ => hk.1 ▸ rfl) (fun hf => hids _ (h.files _ (hk.1 ▸ hf))) hk.2

theorem setObjectFields_filesKept {id failure : String} {set : Object → Object} :
    FilesKept s (s.setObjectFields id set failure).2 := by
  unfold setObjectFields
  split
  · exact .updateObject ‹_›
  · exact .refl

theorem retryUpdate_filesKept {id : String}
    {write : Object → Except SyncServiceError (Object → Object)} :
    ∀ n (s : MongoStorage), FilesKept s (retryUpdate id write n s).2
  | 0, _ => .refl
  | n + 1, s => by
    unfold retryUpdate
    split
    · exact .refl
    · split
      · exact .refl
      · split
        · exact .updateObject ‹_›
        · exact retryUpdate_filesKept n s
        · exact .refl

theorem decrementAndReturnRemaining_filesKept {c : Counter} {orgID objectType objectID : String} :
    FilesKept s (decrementAndReturnRemaining c s orgID objectType objectID).2 := by
  unfold decrementAndReturnRemaining
  dsimp only
  split
  · exact .refl
  · split <;> exact .updateObject ‹_›

theorem resetObjectRemainingConsumers_filesKept {orgID objectType objectID : String} :
    FilesKept s (s.resetObjectRemainingConsumers orgID objectType objectID).2 := by
  unfold resetObjectRemainingConsumers
  dsimp only
  split
  · exact .refl
  · split
    · exact .updateObject ‹_›
    · exact .refl

theorem scanObjects_filesKept (orgID destType destID : String) :
    ∀ (rs : List Object) (s : MongoStorage) (metaDatas : List MetaData),
      FilesKept s (scanObjects orgID destType destID s rs metaDatas).store
  | [], _, _ => .refl
  | r :: rs, s, metaDatas => by
    unfold scanObjects
    split
    · dsimp only
      split
      · split
        · exact (FilesKept.updateObject ‹_›).trans (scanObjects_filesKept orgID destType destID rs _ _)
        · exact .refl
        · exact .refl
      · exact scanObjects_filesKept orgID destType destID rs s _
    · exact scanObjects_filesKept orgID destType destID rs s _

theorem retrieveObjects_filesKept {orgID destType destID : String} :
    FilesKept s (s.retrieveObjects orgID destType destID).2 := by
  unfold retrieveObjects
  generalize maxUpdateTries = n
  induction n generalizing s with
  | zero => exact .refl
  | succ n ih =>
    unfold retrieveObjectsLoop
    have hscan := scanObjects_filesKept orgID destType destID
      (s.objects.filter (retrieveObjectsQuery orgID)) s []
    split <;> rename_i heq <;> rw [heq] at hscan
    · exact hscan
    · exact hscan.trans ih
    · exact hscan

theorem updateObjectDeliveryStatus_filesKept {now : Now}
    {status message orgID objectType objectID destType destID : String} :
    FilesKept s (s.updateObjectDeliveryStatus now status message orgID objectType objectID
      destType destID).2 := by
  unfold updateObjectDeliveryStatus
  split
  · exact .refl
  · exact retryUpdate_filesKept _ _

/-! ### The operations that write payloads -/

/-- The payload write of `StoreObject`: the file of its key alone. -/
theorem storeObject_payload (s : MongoStorage) (id : String) (data : Option Bytes) (c : Bool) :
    let s₁ := match data with
      | some data => s.storeDataInFile id data
      | none => if c = true then s.removeFile id else s
    s₁.objects = s.objects ∧ s₁.openFiles = s.openFiles ∧ ∀ k ≠ id, s₁.files k = s.files k := by
  rcases data with _ | data
  · by_cases hc : c = true
    · simp only [hc, if_true]
      exact ⟨rfl, rfl, fun k hk => Function.update_noteq hk _ _⟩
    · simp only [hc, if_false]
      exact ⟨rfl, rfl, fun _ _ => rfl⟩
  · exact ⟨rfl, rfl, fun k hk => Function.update_noteq hk _ _⟩

theorem storeObject_payloadsOwned (h : PayloadsOwned s) {now : Now} {metaData : MetaData}
    {data : Option Bytes} {status : String} :
    PayloadsOwned (s.storeObject now metaData data status).2 := by
  obtain ⟨hobj, hopen, hfiles⟩ := storeObject_payload s (getObjectCollectionID metaData) data
    (!metaData.metaOnly || metaData.noData)
  have hfilter : ∀ (md : MetaData) (o : Object),
      (o.id == getObjectCollectionID metaData && o.metaData.destOrgID == md.destOrgID) = true →
        o.id = getObjectCollectionID metaData := fun _ o ho => by
    simp only [Bool.and_eq_true, beq_iff_eq] at ho; exact ho.1
  unfold storeObject
  dsimp only
  split
  · rename_i s' hu
    obtain ⟨hids, hid, hf, ho⟩ := (hasObject_upsertObject (hfilter _)).1 s' hu
    exact h.of_write (getObjectCollectionID metaData)
      (fun k ⟨o, hoo, hk⟩ => hids k ⟨o, hobj ▸ hoo, hk⟩) (fun k hk => hf ▸ hfiles k hk)
      (fun _ => hid) (ho.trans hopen)
  · rename_i e hu
    exact h.of_write (getObjectCollectionID metaData) (fun k ⟨o, hoo, hk⟩ => ⟨o, hobj ▸ hoo, hk⟩)
      hfiles (fun _ => (hasObject_upsertObject (hfilter _)).2 e hu) hopen

/-- A removal of a payload file. -/
theorem PayloadsOwned.removeFile (h : PayloadsOwned s) (id : String) :
    PayloadsOwned (s.removeFile id) :=
  h.of_write id (fun _ hk => hk) (fun _ hk => Function.update_noteq hk _ _)
    (fun hn => (hn (Function.update_same _ _ _)).elim) rfl

/-- A write of the open file under `id` of a handle of that key, or its removal. -/
theorem PayloadsOwned.setHandle (h : PayloadsOwned s) (id : String) (v : Option FileHandle)
    (hv : ∀ fh, v = some fh → fh.file.id = id) :
    PayloadsOwned { s with openFiles := Function.update s.openFiles id v } where
  files := h.files
  handles k fh hk := by
    change Function.update s.openFiles id v k = some fh at hk
    by_cases hki : k = id
    · subst hki; rw [Function.update_same] at hk; exact hv fh hk
    · rw [Function.update_noteq hki] at hk; exact h.handles k fh hk

theorem storeObjectData_payloadsOwned (h : PayloadsOwned s) {now : Now}
    {orgID objectType objectID : String} {dataReader : Bytes} :
    PayloadsOwned (s.storeObjectData now orgID objectType objectID dataReader).2 := by
  unfold storeObjectData
  dsimp only
  split
  · exact h
  · exact h
  · rename_i result hf
    have hfind := fetchObject_ok hf
    have hobj : HasObject s (createObjectCollectionID orgID objectType objectID) :=
      ⟨result, List.mem_of_find?_eq_some hfind, by simpa using List.find?_some hfind⟩
    split
    · exact h
    · rename_i s₁ hprep
      have h₁ : FilesKept s s₁ ∧ ∀ k, HasObject s k → HasObject s₁ k := by
        split at hprep
        · cases hprep
          exact ⟨setObjectFields_filesKept,
            fun _ => hasObject_of_calls (U := fun _ => True) (setObjectFields_calls fun _ => rfl)⟩
        · split at hprep
          · split at hprep
            · rename_i hu
              cases hprep
              exact ⟨.updateObject hu,
                fun _ => hasObject_of_calls (U := fun _ => True) (.single (.update hu fun _ _ => rfl))⟩
            · cases hprep
          · cases hprep; exact ⟨.refl, fun _ hk => hk⟩
      have h₂ : PayloadsOwned
          (s₁.storeDataInFile (createObjectCollectionID orgID objectType objectID) dataReader) :=
        h.of_write _ h₁.2 (fun _ hk => (Function.update_noteq hk _ _).trans (congrFun h₁.1.1 _))
          (fun _ => h₁.2 _ hobj) h₁.1.2
      split
      · rename_i hu
        exact h₂.of_kept
          (fun _ => hasObject_of_calls (U := fun _ => True) (.single (.update hu fun _ _ => rfl)))
          (.updateObject hu)
      · exact h₂

/-- A chunk placed in an upload handle stays in the handle's file. -/
theorem placeChunk_file {fh fh' : FileHandle} {offset : Int} {data : Bytes}
    (h : placeChunk fh offset data = .ok fh') : fh'.file.id = fh.file.id := by
  unfold placeChunk at h
  split at h
  · split at h
    · cases h; rename_i heq; rw [heq]; rfl
    · cases h
  · dsimp only at h
    split at h
    · cases h
    · cases h; rfl

/-- Closing a file publishes it under its id, and writes nothing else. -/
theorem closeFile_frame {f : GridFile} (h : s.closeFile f = .ok s') :
    s'.objects = s.objects ∧ s'.openFiles = s.openFiles ∧ ∀ k ≠ f.id, s'.files k = s.files k := by
  unfold closeFile at h
  split at h
  · split at h
    · cases h
    · cases h; exact ⟨rfl, rfl, fun k hk => Function.update_noteq hk _ _⟩
  · cases h; exact ⟨rfl, rfl, fun _ _ => rfl⟩

/-- `AppendObjectData` for the key of an object document: the first chunk removes the payload,
the handle it keeps is for the key, and the last chunk publishes the file of the key. -/
theorem appendObjectData_payloadsOwned (h : PayloadsOwned s) {orgID objectType objectID : String}
    {dataReader : Bytes} {dataLength : UInt32} {offset total : Int} {first last : Bool}
    (hobj : HasObject s (createObjectCollectionID orgID objectType objectID)) :
    PayloadsOwned (s.appendObjectData orgID objectType objectID dataReader dataLength offset total
      first last).2 := by
  have hopen : ∀ id, PayloadsOwned (s.openUpload id first).2 ∧
      (s.openUpload id first).2.objects = s.objects ∧
      ∀ fh, (s.openUpload id first).1 = some fh → fh.file.id = id := by
    intro id
    unfold openUpload
    split
    · exact ⟨h.removeFile id, rfl, fun _ hfh => by cases hfh; rfl⟩
    · exact ⟨h, rfl, h.handles id⟩
  obtain ⟨h₁, hobj₁, hfh⟩ := hopen (createObjectCollectionID orgID objectType objectID)
  unfold appendObjectData
  dsimp only
  split
  · exact h₁
  · rename_i fh hfh₁
    split
    · exact h₁
    · split
      · exact h₁
      · rename_i fh' hplace
        have hid := (placeChunk_file hplace).trans (hfh fh hfh₁)
        have hdel := h₁.setHandle (createObjectCollectionID orgID objectType objectID) none
          fun _ h => nomatch h
        split
        · split
          · rename_i s' hc
            obtain ⟨ho, hof, hf⟩ := closeFile_frame hc
            obtain ⟨o, hoo, hk⟩ := hobj
            exact hdel.of_write _ (fun _ ⟨o, hoo, hk⟩ => ⟨o, ho ▸ hoo, hk⟩)
              (fun k hk => hf k (hid ▸ hk)) (fun _ => ⟨o, ho ▸ hobj₁ ▸ hoo, hk⟩) hof
          · exact hdel
        · exact h₁.setHandle _ (some fh') fun _ hg => by cases hg; exact hid

theorem deleteStoredObject_payloadsOwned (h : PayloadsOwned s) {orgID objectType objectID : String} :
    PayloadsOwned (s.deleteStoredObject orgID objectType objectID) := by
  have h₁ := h.removeFile (createObjectCollectionID orgID objectType objectID)
  refine ⟨fun k hk => ?_, h₁.handles⟩
  have hne : k ≠ createObjectCollectionID orgID objectType objectID := by
    rintro rfl; exact hk (Function.update_same _ _ _)
  obtain ⟨o, ho, hid⟩ := h₁.files k hk
  exact ⟨o, List.mem_filter.mpr ⟨ho, by simp [hid, hne]⟩, hid⟩

/-! ### Runs -/

/-- The calls that keep payloads owned: every call but `DeleteOrganization`, with
`AppendObjectData` made for the key of an object document. -/
def StoreOp.KeepsPayloads (s : MongoStorage) : StoreOp → Prop
  | .appendObjectData orgID objectType objectID .. =>
    HasObject s (createObjectCollectionID orgID objectType objectID)
  | .deleteOrganization _ => False
  | _ => True

/-- **Step lemma.**  Every call that keeps payloads keeps them owned. -/
theorem PayloadsOwned.step (h : PayloadsOwned s) :
    ∀ op : StoreOp, op.KeepsPayloads s → PayloadsOwned (StoreOp.run s op)
  | .storeObject .., _ => storeObject_payloadsOwned h
  | .storeObjectData .., _ => storeObjectData_payloadsOwned h
  | .appendObjectData .., hobj => appendObjectData_payloadsOwned h hobj
  | .updateObjectStatus .., _ | .markObjectDeleted .., _ | .activateObject .., _ =>
    h.of_kept (fun _ => hasObject_of_calls (U := fun _ => True) (setObjectFields_calls fun _ => by rfl))
      setObjectFields_filesKept
  | .updateObjectDeliveryStatus .., _ =>
    h.of_kept (fun _ => hasObject_of_calls (U := fun _ => True)
      (updateObjectDeliveryStatus_calls (fun _ _ => by rfl) fun _ _ _ => by rfl))
      updateObjectDeliveryStatus_filesKept
  | .updateObjectDelivering .., _ =>
    h.of_kept (fun _ => hasObject_of_calls (U := fun _ => True)
      (updateObjectDelivering_calls fun _ _ => by rfl)) (retryUpdate_filesKept _ _)
  | .decrementAndReturnRemainingConsumers .., _ | .decrementAndReturnRemainingReceivers .., _ =>
    h.of_kept (fun _ => hasObject_of_calls (U := fun _ => True)
      (decrementAndReturnRemaining_calls fun _ => by rfl))
      decrementAndReturnRemaining_filesKept
  | .resetObjectRemainingConsumers .., _ =>
    h.of_kept (fun _ => hasObject_of_calls (U := fun _ => True)
      (resetObjectRemainingConsumers_calls fun _ => by rfl)) resetObjectRemainingConsumers_filesKept
  | .retrieveObjects .., _ =>
    h.of_kept (fun _ => hasObject_of_calls (U := fun _ => True)
      (retrieveObjects_calls fun _ _ => by rfl)) retrieveObjects_filesKept
  | .deleteStoredObject .., _ => deleteStoredObject_payloadsOwned h
  | .deleteStoredData orgID objectType objectID, _ =>
    h.removeFile (createObjectCollectionID orgID objectType objectID)
  | .storeDestination destination, _ => by
    obtain ⟨_, he⟩ := storeDestination_only s destination
    rw [StoreOp.run, he]; exact h.of_frame rfl rfl rfl
  | .deleteDestination .., _ => h.of_frame rfl rfl rfl
  | .updateNotificationRecord now resendInterval notification, _ => by
    obtain ⟨_, he⟩ := updateNotificationRecord_only s now resendInterval notification
    rw [StoreOp.run, he]; exact h.of_frame rfl rfl rfl
  | .updateNotificationResendTime now resendInterval notification, _ => by
    obtain ⟨_, he⟩ := updateNotificationResendTime_only s now resendInterval notification
    rw [StoreOp.run, he]; exact h.of_frame rfl rfl rfl
  | .deleteNotificationRecords .., _ => h.of_frame rfl rfl rfl
  | .storeOrgToMessagingGroup orgID messagingGroup, _ => by
    obtain ⟨_, -, he⟩ := storeOrgToMessagingGroup_only s orgID messagingGroup
    rw [StoreOp.run, he]; exact h.of_frame rfl rfl rfl
  | .deleteOrgToMessagingGroup _, _ => h.of_frame rfl rfl rfl
  | .storeOrganization org, _ => by
    obtain ⟨_, -, he⟩ := storeOrganization_only s org
    rw [StoreOp.run, he]; exact h.of_frame rfl rfl rfl
  | .deleteOrganizationInfo _, _ => h.of_frame rfl rfl rfl
  | .addWebhook orgID objectType url, _ => by
    obtain ⟨_, _, -, he⟩ := addWebhookLoop_only (webhookID orgID objectType) url maxUpdateTries 0 s
    rw [StoreOp.run, addWebhook, he]; exact h.of_frame rfl rfl rfl
  | .deleteWebhook orgID objectType url, _ => by
    obtain ⟨_, _, -, he⟩ := deleteWebhookLoop_only equalFold (webhookID orgID objectType) url maxUpdateTries s
    rw [StoreOp.run, deleteWebhook, he]; exact h.of_frame rfl rfl rfl
  | .retrieveObjectData orgID objectType objectID, _ =>
    h.of_readerWrite (retrieveObjectData_write s orgID objectType objectID)
  | .closeDataReader id content, _ => h.of_readerWrite (closeDataReader_write s id content)

/-- **Every payload has its object, over every run** from the empty store that calls
`AppendObjectData` only for the key of an object document and never `DeleteOrganization`. -/
theorem payloadsOwned_runsWith (ops : List StoreOp)
    (hops : RunsWith StoreOp.KeepsPayloads MongoStorage.empty ops) :
    ∀ id, (runOps MongoStorage.empty ops).files id ≠ none →
      ∃ o ∈ (runOps MongoStorage.empty ops).objects, o.id = id :=
  (RunsWith.invariant PayloadsOwned (fun _ op h hop => h.step op hop) ops _ payloadsOwned_empty
    hops).files

/-- An object stored with a payload, then a chunk of an upload to it. -/
theorem payloadsOwned_runsWith_upload :
    let ops : List StoreOp :=
      [.storeObject ⟨1000, ""⟩
        { objectID := "obj", objectType := "type", destOrgID := "org", destID := "",
          destType := "", expiration := "", inactive := false, activationTime := "",
          noData := false, metaOnly := false, expectedConsumers := 1, autoDelete := false,
          deleted := false, instanceID := 0, objectSize := 0 } (some [1, 2, 3]) ReadyToSend,
       .appendObjectData "org" "type" "obj" [4] 1 3 4 false true]
    RunsWith StoreOp.KeepsPayloads MongoStorage.empty ops ∧
      ∀ id, (runOps MongoStorage.empty ops).files id ≠ none →
        ∃ o ∈ (runOps MongoStorage.empty ops).objects, o.id = id := by
  intro ops
  have h : RunsWith StoreOp.KeepsPayloads MongoStorage.empty ops :=
    ⟨trivial, by simp only [StoreOp.KeepsPayloads, HasObject]; decide, trivial⟩
  exact ⟨h, payloadsOwned_runsWith ops h⟩

/-- `DeleteOrganization`, the call the run lemma leaves out: an object stored with its payload,
then its org deleted.  The payload file stays under the object's key, and no object document
has that key. -/
theorem deleteOrganization_orphans_payload :
    let s : MongoStorage := runOps MongoStorage.empty
      [.storeObject ⟨1000, ""⟩
        { objectID := "obj", objectType := "type", destOrgID := "org", destID := "",
          destType := "", expiration := "", inactive := false, activationTime := "",
          noData := false, metaOnly := false, expectedConsumers := 1, autoDelete := false,
          deleted := false, instanceID := 0, objectSize := 0 } (some [1, 2, 3]) ReadyToSend,
       .deleteOrganization "org"]
    s.files "org:type:obj" = some [1, 2, 3] ∧ ∀ o ∈ s.objects, o.id ≠ "org:type:obj" := by
  decide

/-! ### A failed `StoreObject` -/

/-- **A failed `StoreObject` keeps its payload write**: when the call returns an error, the
store is the one its write of the payload left, with the documents as they were. -/
theorem storeObject_error_eq {now : Now} {metaData : MetaData} {data : Option Bytes}
    {status : String} (h : (s.storeObject now metaData data status).1 ≠ .ok ()) :
    (s.storeObject now metaData data status).2 = match data with
      | some data => s.storeDataInFile (getObjectCollectionID metaData) data
      | none => if (!metaData.metaOnly || metaData.noData) = true then
          s.removeFile (getObjectCollectionID metaData) else s := by
  revert h
  rcases data with _ | data
  on_goal 1 =>
    by_cases hc : (!metaData.metaOnly || metaData.noData) = true <;>
      simp only [storeObject, hc, if_true, if_false]
  on_goal 3 => simp only [storeObject]
  all_goals
    split
    · intro h; exact absurd rfl h
    · intro _; rfl

/-- Two objects whose keys meet: `a:b/c/d` and `a/b:c/d` both have the key `a:b:c:d`.  The
second `StoreObject` replaces the payload under that key, then fails on the duplicate key of
its upsert: it returns an error, the document is the first object's, and the payload is the
second's. -/
theorem storeObject_fails_after_payload_write :
    let s : MongoStorage := runOps MongoStorage.empty
      [.storeObject ⟨1000, ""⟩
        { objectID := "d", objectType := "c", destOrgID := "a:b", destID := "",
          destType := "", expiration := "", inactive := false, activationTime := "",
          noData := false, metaOnly := false, expectedConsumers := 1, autoDelete := false,
          deleted := false, instanceID := 0, objectSize := 0 } (some [1]) ReadyToSend]
    let r := s.storeObject ⟨2000, ""⟩
      { objectID := "d", objectType := "b:c", destOrgID := "a", destID := "",
        destType := "", expiration := "", inactive := false, activationTime := "",
        noData := false, metaOnly := false, expectedConsumers := 1, autoDelete := false,
        deleted := false, instanceID := 0, objectSize := 0 } (some [2]) ReadyToSend
    r.1 ≠ .ok () ∧ r.2.objects = s.objects ∧ s.files "a:b:c:d" = some [1] ∧
      r.2.files "a:b:c:d" = some [2] := by
  decide

end MongoStorage

end EdgeSync
