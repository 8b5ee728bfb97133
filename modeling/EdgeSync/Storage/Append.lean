import EdgeSync.Storage.Backend
import EdgeSync.Chunks

/-!
# Chunked uploads: `MongoStorage.AppendObjectData`

A producer uploads a payload in chunks.  The first chunk removes the published file and
opens a fresh GridFS file; the handle is kept in `openFiles` between the calls.  A chunk
that arrives at the handle's offset is written, and so is every chunk of the handle's
out-of-order map that continues it; a chunk that arrives ahead of the offset waits in that
map, which holds at most 101 chunks (a further one is `Discarded`).  The last chunk closes
the file, which publishes it, and drops the handle.

The request's `dataReader` is modelled by the bytes it holds, read the way a
`bytes.Reader` reads them.
-/

namespace EdgeSync

namespace MongoStorage

/-- The read of the chunk from the request's reader: one `Read` into a buffer of
`dataLength` bytes, or `ioutil.ReadAll` when `dataLength` is 0. -/
def readChunk (dataReader : Bytes) (dataLength : UInt32) : Except SyncServiceError Bytes :=
  if dataLength.toNat = 0 then .ok dataReader
  else if dataReader = [] then
    .error (.error "Failed to read the data from the dataReader. Error: EOF.")
  else if min dataLength.toNat dataReader.length ≠ dataLength.toNat then
    .error (.error s!"Failed to read all the data from the dataReader. Read {min dataLength.toNat dataReader.length} instead of {dataLength}.")
  else .ok (dataReader.take dataLength.toNat)

/-- The number of chunks waiting in a handle's map (`len(fileHandle.chunks)`). -/
def chunkCount : Option ChunkMap → Nat
  | none => 0
  | some m => m.keys.length

/-- The write loop of `AppendObjectData`: write `data` at the handle's offset, then, while
the map holds a chunk at the new offset, delete it from the map and write it.  The first
argument bounds the passes; each pass but the last deletes an entry of the map, so its
number of entries is enough (`placeChunk` passes it), and with none left the loop stops
after its write. -/
def drainLoop : Nat → Bytes → Int → Option ChunkMap → Bytes → Bytes × Int × Option ChunkMap
  | 0, content, offset, chunks, data => (content ++ data, offset + data.length, chunks)
  | _ + 1, content, offset, none, data => (content ++ data, offset + data.length, none)
  | fuel + 1, content, offset, some m, data =>
    match m.lookup (offset + data.length) with
    | none => (content ++ data, offset + data.length, some m)
    | some next =>
      drainLoop fuel (content ++ data) (offset + data.length)
        (some (m.erase (offset + data.length))) next

/-- The middle of `AppendObjectData`: the chunk at `offset` either continues the file and is
written with what it unblocks, or waits in the out-of-order map. -/
def placeChunk (fh : FileHandle) (offset : Int) (data : Bytes) :
    Except SyncServiceError FileHandle :=
  if offset = fh.offset then
    match fh.file with
    | .writing id content =>
      let (content, offset, chunks) := drainLoop (chunkCount fh.chunks) content fh.offset fh.chunks data
      .ok { file := .writing id content, offset := offset, chunks := chunks }
    | .reading _ _ => .error (.panic "GridFile is open for reading")
  else
    let chunks := fh.chunks.getD ∅
    if chunks.keys.length > 100 then
      .error (.discarded s!" Discard data chunk at offset {offset} since there are too many out-of-order chunks\n")
    else .ok { fh with chunks := some (chunks.insert offset data) }

/-- The opening of `AppendObjectData`: the first chunk removes the published file and
creates a fresh handle; a later chunk looks its handle up in `openFiles`. -/
def openUpload (s : MongoStorage) (id : String) (isFirstChunk : Bool) :
    Option FileHandle × MongoStorage :=
  if isFirstChunk then (some (createFile id), s.removeFile id) else (s.getFileHandle id, s)

/-- `AppendObjectData`.  The declared `total` is not read. -/
def appendObjectData (s : MongoStorage) (orgID objectType objectID : String)
    (dataReader : Bytes) (dataLength : UInt32) (offset total : Int)
    (isFirstChunk isLastChunk : Bool) : Except SyncServiceError Unit × MongoStorage :=
  let id := createObjectCollectionID orgID objectType objectID
  let opened := openUpload s id isFirstChunk
  match opened.1 with
  | none =>
    (.error (.error s!"Failed to append the data at offset {offset}, the file {id} doesn't exist."),
      opened.2)
  | some fh =>
    match readChunk dataReader dataLength with
    | .error e => (.error e, opened.2)
    | .ok data =>
      match placeChunk fh offset data with
      | .error e => (.error e, opened.2)
      | .ok fh =>
        if isLastChunk then
          match (opened.2.deleteFileHandle id).closeFile fh.file with
          | .ok s' => (.ok (), s')
          | .error e =>
            (.error (.error s!"Failed to close the file. Error: {e.text}."),
              opened.2.deleteFileHandle id)
        else (.ok (), opened.2.putFileHandle id fh)

/-- The calls of an upload to one key, made one after the other: their results and the
final state. -/
def appendRun (orgID objectType objectID : String) :
    MongoStorage → List AppendCall → List (Except SyncServiceError Unit) × MongoStorage
  | s, [] => ([], s)
  | s, c :: cs =>
    let r := appendObjectData s orgID objectType objectID c.dataReader c.dataLength c.offset
      c.total c.isFirstChunk c.isLastChunk
    let rest := appendRun orgID objectType objectID r.2 cs
    (r.1 :: rest.1, rest.2)

end MongoStorage

/-- The chunk a call hands over to `AppendObjectData`: its offset and the bytes read for it. -/
def AppendCall.chunk (c : AppendCall) : Except SyncServiceError (Int × Bytes) :=
  (MongoStorage.readChunk c.dataReader c.dataLength).map fun data => (c.offset, data)

end EdgeSync
