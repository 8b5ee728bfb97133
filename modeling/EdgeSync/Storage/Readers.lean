import EdgeSync.Storage.Append
import EdgeSync.DataURI

/-!
# Reading a payload back

A stored payload is read in two ways.  A reader of the whole payload calls
`RetrieveObjectData`, which opens the GridFS file, keeps its handle in `openFiles` under the
object's key, and hands the file out; the reader gives it back to `CloseDataReader`.  A
random-access read of a chunk is `ReadObjectData` on the database back end and
`dataURI.GetDataChunk` on the file back end.

The specification describes the random-access read once, for every back end (`chunkRead`).
`ReadObjectData` meets that description on every read (`readObjectData_eq_chunkRead`);
`GetDataChunk` meets it on every read that lies inside the payload
(`getDataChunk_eq_chunkRead`), and differs on a read that runs past the end: it hands out
its whole buffer of `size` bytes, zero-padded, and a read of no bytes past the end does not
report the end (`getDataChunk_zero_size`).

`openFiles` is shared by readers and uploads, under the same key.  Both calls of a reader
write `openFiles` only, under the key they read (`ReaderWrite`), so they are store operations
like the others (`StoreOp`).  `CloseDataReader` deletes the entry under the reader's key
whoever put it there, so a reader that closes while an upload of the same object is in
progress drops the upload's handle, and the next chunk of the upload fails
(`appendObjectData_after_closeDataReader`).
-/

namespace EdgeSync

/-- The bytes of a GridFS file: those written so far, or those of the published file. -/
def GridFile.content : GridFile → Bytes
  | .writing _ content => content
  | .reading _ content => content

/-! ### The random-access read of the specification -/

/-- Modelled from the spec: `GetChunk(key, size, offset)` of §4.1 on a payload `c`, as the
specification describes it for every back end: `n = min size (max 0 (|c| - offset))` bytes
from `offset` on, and `eof` when the read reaches the end of the payload. -/
def chunkRead (c : Bytes) (size offset : Int) : Bytes × Bool × Int :=
  let n := min size (max 0 (c.length - offset))
  ((c.drop offset.toNat).take n.toNat, decide (c.length ≤ offset + size), n)

theorem length_take_drop (c : Bytes) {n o : Int} (hn : 0 ≤ n) (ho : 0 ≤ o) (h : n ≤ c.length - o) :
    (((c.drop o.toNat).take n.toNat).length : Int) = n := by
  simp only [List.length_take, List.length_drop]
  omega

/-- A read that starts at or past the end of the payload reads nothing and reports the
end. -/
theorem chunkRead_of_le (c : Bytes) {size offset : Int} (hs : 0 ≤ size)
    (h : (c.length : Int) ≤ offset) : chunkRead c size offset = ([], true, 0) := by
  have hn : min size (max 0 (c.length - offset)) = 0 := by omega
  simp only [chunkRead, hn, Int.toNat_zero, List.take_zero, Prod.mk.injEq, true_and, and_true,
    decide_eq_true_eq]
  omega

/-! ### `ReadObjectData` -/

namespace MongoStorage

/-- `GridFile.Seek(offset, 0)` of the driver, outside the sources at hand, on an offset below
the file's size: it moves to every offset from 0 on; the model fails a negative one. -/
def gridSeek (offset : Int) : Option MgoError :=
  if offset < 0 then some (.other "seek to a negative offset") else none

/-- `ReadObjectData`.  The reader is opened on the published file and closed before the call
returns; a read of a published file does not fail. -/
def readObjectData (s : MongoStorage) (orgID objectType objectID : String) (size : Int)
    (offset : Int) : Except SyncServiceError (Bytes × Bool × Int) :=
  let id := createObjectCollectionID orgID objectType objectID
  match s.openFile id with
  | .error e => .error (.error s!"Failed to open file to read the data. Error: {e.text}.")
  | .ok fileHandle =>
    let content := fileHandle.file.content
    if offset ≥ content.length then .ok ([], true, 0)
    else
      match gridSeek offset with
      | some e => .error (.error s!"Failed to read the data. Error: {e.text}.")
      | none =>
        let sz := min size (content.length - offset)
        if sz < 0 then .error (.panic "runtime error: makeslice: len out of range")
        else
          let b := (content.drop offset.toNat).take sz.toNat
          match s.closeFile fileHandle.file with
          | .error e => .error (.error s!"Failed to close the file. Error: {e.text}.")
          | .ok _ => .ok (b, decide (content.length - offset = b.length), b.length)

theorem openFile_of_files {s : MongoStorage} {id : String} {c : Bytes} (h : s.files id = some c) :
    s.openFile id = .ok { file := .reading id c, offset := 0, chunks := none } := by
  simp only [openFile, h]

/-- **`ReadObjectData` meets the specification** on every read of a stored payload. -/
theorem readObjectData_eq_chunkRead {s : MongoStorage} {orgID objectType objectID : String}
    {c : Bytes} (hc : s.files (createObjectCollectionID orgID objectType objectID) = some c)
    {size offset : Int} (hs : 0 ≤ size) (ho : 0 ≤ offset) :
    s.readObjectData orgID objectType objectID size offset = .ok (chunkRead c size offset) := by
  simp only [readObjectData, openFile_of_files hc, GridFile.content, ge_iff_le]
  by_cases hend : (c.length : Int) ≤ offset
  · rw [if_pos hend, chunkRead_of_le c hs hend]
  · have hsz : ¬ min size (c.length - offset) < 0 := by omega
    have hn : min size (max 0 (c.length - offset)) = min size (c.length - offset) := by omega
    have hb := length_take_drop c (not_lt.mp hsz) ho (min_le_right _ _)
    simp only [if_neg hend, gridSeek, if_neg (not_lt.mpr ho), if_neg hsz, closeFile, chunkRead,
      hn, hb, Except.ok.injEq, Prod.mk.injEq, true_and, and_true, decide_eq_decide]
    omega

/-- Two bytes read from offset 1 of a payload of three. -/
theorem readObjectData_eq_chunkRead_middle :
    let s : MongoStorage := { MongoStorage.empty with
      files := fun id => if id = "org:type:obj" then some [1, 2, 3] else none }
    s.files (createObjectCollectionID "org" "type" "obj") = some [1, 2, 3] ∧ (0 : Int) ≤ 2 ∧
      (0 : Int) ≤ 1 ∧ s.readObjectData "org" "type" "obj" 2 1 = .ok (chunkRead [1, 2, 3] 2 1) := by
  intro s
  have hc : s.files (createObjectCollectionID "org" "type" "obj") = some [1, 2, 3] := by decide
  exact ⟨hc, by decide, by decide, readObjectData_eq_chunkRead hc (by decide) (by decide)⟩

/-! ### `RetrieveObjectData` and `CloseDataReader` -/

/-- `RetrieveObjectData`: the reader of the published file, whose handle is kept in
`openFiles` under the object's key; `nil` when there is no file. -/
def retrieveObjectData (s : MongoStorage) (orgID objectType objectID : String) :
    Except SyncServiceError (Option GridFile) × MongoStorage :=
  let id := createObjectCollectionID orgID objectType objectID
  match s.openFile id with
  | .ok fileHandle => (.ok (some fileHandle.file), s.putFileHandle id fileHandle)
  | .error .notFound => (.ok none, s)
  | .error e => (.error (.error s!"Failed to open file to read the data. Error: {e.text}."), s)

/-- The end of `CloseDataReader`: the handle under `id`, if there is one, is deleted. -/
def dropFileHandle (s : MongoStorage) (id : String) : MongoStorage :=
  if (s.getFileHandle id).isSome then s.deleteFileHandle id else s

/-- `CloseDataReader`.  A GridFS file is closed, the handle under its id is deleted, and the
error of the close, if any, is returned; a `nil` reader is left alone. -/
def closeDataReader (s : MongoStorage) : Option GridFile → Except SyncServiceError Unit × MongoStorage
  | none => (.ok (), s)
  | some dataReader =>
    match s.closeFile dataReader with
    | .ok s' => (.ok (), s'.dropFileHandle dataReader.id)
    | .error e => (.error (.error e.text), s.dropFileHandle dataReader.id)

/-- Deleting a handle that is not there changes nothing. -/
theorem dropFileHandle_eq (s : MongoStorage) (id : String) :
    s.dropFileHandle id = s.deleteFileHandle id := by
  unfold dropFileHandle deleteFileHandle getFileHandle
  split
  · rfl
  · rename_i h
    have h' : s.openFiles id = none := by simpa using h
    rw [show Function.update s.openFiles id none = s.openFiles from
      Function.update_eq_self_iff.mpr h'.symm]

@[simp] theorem dropFileHandle_files (s : MongoStorage) (id : String) :
    (s.dropFileHandle id).files = s.files := by
  unfold dropFileHandle; split <;> rfl

/-- Closing a reader changes no file and deletes the entry of `openFiles` under its key,
whoever put it there. -/
theorem closeDataReader_reading (s : MongoStorage) (id : String) (content : Bytes) :
    s.closeDataReader (some (.reading id content)) = (.ok (), s.dropFileHandle id) := rfl

/-- What a reader's call does to the store: it writes `openFiles` only, and only under the key
`id` it reads, where it leaves the handle that was there, no handle, or a handle of a file of
`id`. -/
structure ReaderWrite (id : String) (s s' : MongoStorage) : Prop where
  only : ∃ f, s' = { s with openFiles := f }
  frame : ∀ k ≠ id, s'.openFiles k = s.openFiles k
  handle : ∀ fh, s'.openFiles id = some fh → s.openFiles id = some fh ∨ fh.file.id = id

theorem ReaderWrite.refl (id : String) (s : MongoStorage) : ReaderWrite id s s :=
  ⟨⟨s.openFiles, rfl⟩, fun _ _ => rfl, fun _ h => .inl h⟩

/-- A reader's call keeps every handle filed under the id of its file. -/
theorem ReaderWrite.handles {id : String} {s s' : MongoStorage} (hw : ReaderWrite id s s')
    (h : ∀ k fh, s.openFiles k = some fh → fh.file.id = k) :
    ∀ k fh, s'.openFiles k = some fh → fh.file.id = k := by
  intro k fh hk
  by_cases hid : k = id
  · subst hid
    exact (hw.handle fh hk).elim (h k fh) id
  · exact h k fh (hw.frame k hid ▸ hk)

/-- **Spec lemma.**  `RetrieveObjectData` keeps, under the object's key, a handle of the file
of that key, or changes nothing. -/
theorem retrieveObjectData_write (s : MongoStorage) (orgID objectType objectID : String) :
    ReaderWrite (createObjectCollectionID orgID objectType objectID) s
      (s.retrieveObjectData orgID objectType objectID).2 := by
  unfold retrieveObjectData
  dsimp only
  split
  · rename_i fh hfh
    have hid : fh.file.id = createObjectCollectionID orgID objectType objectID := by
      unfold openFile at hfh; split at hfh <;> cases hfh; rfl
    refine ⟨⟨_, rfl⟩, fun k hk => Function.update_noteq hk _ _, fun fh' h => .inr ?_⟩
    simp only [putFileHandle, Function.update_same, Option.some.injEq] at h
    exact h ▸ hid
  · exact .refl _ s
  · exact .refl _ s

/-- **Spec lemma.**  Closing a reader deletes the handle under its id. -/
theorem closeDataReader_write (s : MongoStorage) (id : String) (content : Bytes) :
    ReaderWrite id s (s.closeDataReader (some (.reading id content))).2 := by
  rw [closeDataReader_reading, dropFileHandle_eq]
  exact ⟨⟨_, rfl⟩, fun k hk => Function.update_noteq hk _ _, fun _ h => by simp [deleteFileHandle] at h⟩

/-- A call on one object, as it reaches the store: a chunk of the upload, or a reader's
`RetrieveObjectData` or `CloseDataReader`. -/
inductive DataCall
  | append (c : AppendCall)
  | retrieveObjectData
  | closeDataReader (dataReader : Option GridFile)

/-- The calls on one object made one after the other: the results of the upload's chunks,
and the final state. -/
def callRun (orgID objectType objectID : String) :
    MongoStorage → List DataCall → List (Except SyncServiceError Unit) × MongoStorage
  | s, [] => ([], s)
  | s, .append c :: calls =>
    let r := s.appendObjectData orgID objectType objectID c.dataReader c.dataLength c.offset
      c.total c.isFirstChunk c.isLastChunk
    let rest := callRun orgID objectType objectID r.2 calls
    (r.1 :: rest.1, rest.2)
  | s, .retrieveObjectData :: calls =>
    callRun orgID objectType objectID (s.retrieveObjectData orgID objectType objectID).2 calls
  | s, .closeDataReader dataReader :: calls =>
    callRun orgID objectType objectID (s.closeDataReader dataReader).2 calls

/-- A published payload `[1, 2, 3, 4]` of `org:type:obj` is replaced by an upload of two
chunks, while a reader of the old payload, opened before the upload's first chunk, is
closed between the chunks. -/
theorem closeDataReader_drops_upload_handle :
    let s₀ : MongoStorage :=
      (appendRun "org" "type" "obj" MongoStorage.empty [⟨[1, 2, 3, 4], 4, 0, 4, true, true⟩]).2
    let reader := GridFile.reading "org:type:obj" [1, 2, 3, 4]
    let c₁ : AppendCall := ⟨[5, 6, 7, 8], 4, 0, 8, true, false⟩
    let c₂ : AppendCall := ⟨[9, 10, 11, 12], 4, 4, 8, false, true⟩
    let withReader := callRun "org" "type" "obj" s₀
      [.retrieveObjectData, .append c₁, .closeDataReader (some reader), .append c₂]
    let alone := appendRun "org" "type" "obj" s₀ [c₁, c₂]
    (s₀.retrieveObjectData "org" "type" "obj").1 = .ok (some reader) ∧
      withReader.1 = [.ok (), .error (.error "Failed to append the data at offset 4, the file org:type:obj doesn't exist.")] ∧
      withReader.2.files "org:type:obj" = none ∧
      alone.1 = [.ok (), .ok ()] ∧
      alone.2.files "org:type:obj" = some [5, 6, 7, 8, 9, 10, 11, 12] := by
  decide

end MongoStorage

/-! ### `GetDataChunk` -/

namespace DataURI

/-- **`GetDataChunk` meets the specification** on every read that lies inside the
payload. -/
theorem getDataChunk_eq_chunkRead {fs : FileSystem} {uri path : String}
    (hp : parseDataURI uri = some path) {c : Bytes} (hc : fs.files path = some c)
    {size offset : Int} (hs : 0 ≤ size) (ho : 0 ≤ offset) (hin : offset + size ≤ c.length) :
    getDataChunk fs uri size offset = .ok (chunkRead c size offset) := by
  have hn : min size (max 0 (c.length - offset)) = size := by omega
  have hb := length_take_drop c hs ho (by omega)
  have hb' : ((c.drop offset.toNat).take size.toNat).length = size.toNat := by omega
  simp only [getDataChunk, hp, hc, if_neg (not_lt.mpr hs), if_neg (not_lt.mpr ho), hb', if_true,
    Nat.sub_self, List.replicate_zero, List.append_nil, chunkRead, hn, hb, Except.ok.injEq,
    Prod.mk.injEq, true_and, and_true, decide_eq_decide]
  omega

/-- Two bytes read from offset 1 of a file of three. -/
theorem getDataChunk_eq_chunkRead_middle :
    let fs : FileSystem := ⟨fun p => if p = "/data/obj" then some [1, 2, 3] else none⟩
    parseDataURI "file:///data/obj" = some "/data/obj" ∧ fs.files "/data/obj" = some [1, 2, 3] ∧
      (0 : Int) ≤ 2 ∧ (0 : Int) ≤ 1 ∧ (1 : Int) + 2 ≤ ([1, 2, 3] : Bytes).length ∧
      getDataChunk fs "file:///data/obj" 2 1 = .ok (chunkRead [1, 2, 3] 2 1) := by
  intro fs
  have hp : parseDataURI "file:///data/obj" = some "/data/obj" := by decide
  have hc : fs.files "/data/obj" = some [1, 2, 3] := by decide
  exact ⟨hp, hc, by decide, by decide, by decide,
    getDataChunk_eq_chunkRead hp hc (by decide) (by decide) (by decide)⟩

/-- The payload `[1, 2, 3]` read from offset 0 with a buffer of five bytes, on the file back
end and on the database back end. -/
theorem getDataChunk_pads_short_read :
    let fs : FileSystem := ⟨fun p => if p = "/data/obj" then some [1, 2, 3] else none⟩
    let s : MongoStorage := { MongoStorage.empty with
      files := fun id => if id = "org:type:obj" then some [1, 2, 3] else none }
    getDataChunk fs "file:///data/obj" 5 0 = .ok ([1, 2, 3, 0, 0], true, 3) ∧
      s.readObjectData "org" "type" "obj" 5 0 = .ok ([1, 2, 3], true, 3) ∧
      chunkRead [1, 2, 3] 5 0 = ([1, 2, 3], true, 3) := by
  decide

end DataURI

end EdgeSync
