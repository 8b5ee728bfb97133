import EdgeSync.Chunks

/-!
# The file payload back end: package `dataURI`

The payload of an object can live in a file of the node, named by a data URI
`file://<path>`.  `StoreData` and `AppendData` write the staging file `<path>.tmp` and
publish it by renaming it to `<path>`; `GetData` and `GetDataChunk` read `<path>`, and
`DeleteStoredData` removes it.

The file system is the map from paths to contents.  Of the `os` package the model keeps what
the functions rely on: `os.OpenFile` with `O_WRONLY|O_CREATE` opens the file as it is, or
empty, and does not truncate it; a write at a position past the end leaves a hole of zero
bytes; a `Seek` to a negative offset fails, and the code goes on writing at the start of the
file; `ReadAt` reads what there is and reports `io.EOF` when it reads less than asked.  I/O
failures of the disk are not modelled.

Of `url.Parse` the model keeps what decides the path: the fragment is cut at the first `#` and
the query at the first `?`, a control character fails the parse, the authority of
`scheme://authority/path` is dropped, an opaque URI `scheme:rest` has no path, and the path and
the fragment are unescaped, `%XX` to the byte `XX`, a `%` without two hexadecimal digits failing
the parse.  A Go path is a byte string; the model writes it one character per byte, so that two
URIs name the same file exactly when Go opens the same path.  The checks `parseAuthority` makes
of the host and the user information are not modelled.

Since `StoreData` and `AppendData` never truncate the staging file, what an earlier call left
there stays behind the bytes a later one writes.  A stored payload reads back as
`d ++ drop |d| staged` (`storeData_published`), and an upload in any order publishes
`bs.flatten ++ drop total staged` (`appendData_publishes`): the payload exactly when nothing
longer was staged.
-/

namespace EdgeSync

namespace DataURI

/-! ### URIs -/

/-- `strings.Cut` on a character: what precedes its first occurrence and what follows it; the
whole text and nothing when it does not occur. -/
def cut (sep : Char) : List Char → List Char × List Char
  | [] => ([], [])
  | c :: cs => if c = sep then ([], cs) else let r := cut sep cs; (c :: r.1, r.2)

/-- A control byte, which `url.Parse` refuses: below `0x20`, or `0x7f`. -/
def isCTL (c : Char) : Bool := c.toNat < 0x20 || c.toNat == 0x7f

/-- `unhex`: the value of a hexadecimal digit, none for another character. -/
def hexValue (c : Char) : Option Nat :=
  if '0' ≤ c ∧ c ≤ '9' then some (c.toNat - '0'.toNat)
  else if 'a' ≤ c ∧ c ≤ 'f' then some (c.toNat - 'a'.toNat + 10)
  else if 'A' ≤ c ∧ c ≤ 'F' then some (c.toNat - 'A'.toNat + 10)
  else none

/-- The UTF-8 bytes of a character, one character per byte. -/
def byteChars (c : Char) : List Char :=
  if c.toNat < 0x80 then [c] else (String.utf8EncodeChar c).map fun b => Char.ofNat b.toNat

/-- `unescape(s, encodePath)`, and `unescape(s, encodeFragment)`: `%XX` becomes the byte `XX`,
and a `%` not followed by two hexadecimal digits is an error.  The result is a byte string,
one character per byte. -/
def unescape : List Char → Option (List Char)
  | [] => some []
  | '%' :: a :: b :: rest =>
    match hexValue a, hexValue b with
    | some x, some y => (unescape rest).map (Char.ofNat (16 * x + y) :: ·)
    | _, _ => none
  | '%' :: _ => none
  | c :: rest => (unescape rest).map (byteChars c ++ ·)

/-- The scheme of a URI and what follows its first `:`; none without a `:`. -/
def splitScheme : List Char → Option (List Char × List Char)
  | [] => none
  | ':' :: rest => some ([], rest)
  | c :: cs => (splitScheme cs).map fun r => (c :: r.1, r.2)

/-- The path of what follows the scheme: after the authority when it starts with `//`,
itself when it starts with `/`, and empty for an opaque URI. -/
def uriPath : List Char → List Char
  | '/' :: '/' :: rest => rest.dropWhile (· != '/')
  | '/' :: rest => '/' :: rest
  | _ => []

/-- `url.Parse(uri)` followed by the check `strings.EqualFold(dataURI.Scheme, "file")`: the
`Path` of a `file` URI, none when the parse fails or the scheme is another.  `url.Parse` takes
a scheme of ASCII letters, digits, `+`, `-` and `.` only, so that the ASCII fold decides the
check, and a text before the first `:` with any other character is no `file` scheme either. -/
def parseDataURI (uri : String) : Option String :=
  let parts := cut '#' uri.data
  if (unescape parts.2).isNone || parts.1.any isCTL then none
  else
    match splitScheme parts.1 with
    | some (scheme, rest) =>
      if equalFold ⟨scheme⟩ "file" then (unescape (uriPath (cut '?' rest).1)).map String.mk
      else none
    | none => none

/-- A URI with a query, a fragment and an escape. -/
example : parseDataURI "file:///data/a%20b?x=1#top" = some "/data/a b" := by decide

/-- An escape that is not one fails the parse. -/
example : parseDataURI "file:///data/a%zz" = none := by decide

/-! ### Files -/

/-- The contents of a file after writing `data` at the position `pos`: a write past the end
leaves a hole of zero bytes. -/
def writeAt (content : Bytes) (pos : Nat) (data : Bytes) : Bytes :=
  content.take pos ++ List.replicate (pos - content.length) 0 ++ data ++
    content.drop (pos + data.length)

/-- The files of the node: the contents of every path that exists. -/
structure FileSystem where
  files : String → Option Bytes

namespace FileSystem

/-- A file system with no files. -/
def empty : FileSystem := ⟨fun _ => none⟩

/-- `os.OpenFile(path, os.O_WRONLY|os.O_CREATE, 0644)`, a `Seek` to `pos`, and a write of
`data`. -/
def write (fs : FileSystem) (path : String) (pos : Nat) (data : Bytes) : FileSystem :=
  ⟨Function.update fs.files path (some (writeAt ((fs.files path).getD []) pos data))⟩

/-- `os.Rename(src, dst)` of an existing file. -/
def rename (fs : FileSystem) (src dst : String) : FileSystem :=
  ⟨Function.update (Function.update fs.files dst (fs.files src)) src none⟩

/-- `os.Remove(path)`; an absent file is left absent. -/
def remove (fs : FileSystem) (path : String) : FileSystem :=
  ⟨Function.update fs.files path none⟩

end FileSystem

/-- Modelled from the spec: `common.CreateError(err, message)` on the error of opening a file
that does not exist, an IO error whose text is the message followed by the error's. -/
def openError (message path : String) : SyncServiceError :=
  .ioError (message ++ "open " ++ path ++ ": no such file or directory")

/-- Where a write lands after `file.Seek(offset, io.SeekStart)`: a negative offset fails, the
error is not checked, and the file stays at its start. -/
def seekPos (offset : Int) : Nat := if 0 ≤ offset then offset.toNat else 0

/-! ### The functions of the package -/

/-- `AppendData`.  The chunk is written to the staging file at its offset, also when the
length check that follows fails; the last chunk publishes the staging file.  `total` and
`isFirstChunk` are not read. -/
def appendData (fs : FileSystem) (uri : String) (dataReader : Bytes) (dataLength : UInt32)
    (offset total : Int) (isFirstChunk isLastChunk : Bool) : Except SyncServiceError Unit × FileSystem :=
  match parseDataURI uri with
  | none => (.error (.error "Invalid data URI"), fs)
  | some path =>
    let filePath := path ++ ".tmp"
    let fs := fs.write filePath (seekPos offset) dataReader
    if dataReader.length ≠ dataLength.toNat then
      (.error (.ioError "Failed to write all the data to file."), fs)
    else if isLastChunk then (.ok (), fs.rename filePath path)
    else (.ok (), fs)

/-- `StoreData`: the data is written at the start of the staging file, which is published;
a declared length of `0` accepts any length.  Returns the number of bytes written. -/
def storeData (fs : FileSystem) (uri : String) (dataReader : Bytes) (dataLength : UInt32) :
    Except SyncServiceError Int × FileSystem :=
  match parseDataURI uri with
  | none => (.error (.error "Invalid data URI"), fs)
  | some path =>
    let filePath := path ++ ".tmp"
    let fs := fs.write filePath 0 dataReader
    if dataReader.length ≠ dataLength.toNat ∧ dataLength ≠ 0 then
      (.error (.ioError "Failed to write all the data to file."), fs)
    else (.ok dataReader.length, fs.rename filePath path)

/-- `GetData`: the bytes the returned reader yields. -/
def getData (fs : FileSystem) (uri : String) : Except SyncServiceError Bytes :=
  match parseDataURI uri with
  | none => .error (.error "Invalid data URI")
  | some path =>
    match fs.files path with
    | some content => .ok content
    | none => .error (openError s!"Failed to open file {path} to read data. Error: " path)

/-- `GetDataChunk`: the buffer of `size` bytes `ReadAt` filled at `offset`, whether the read
reached the end of the file, and the number of bytes read. -/
def getDataChunk (fs : FileSystem) (uri : String) (size : Int) (offset : Int) :
    Except SyncServiceError (Bytes × Bool × Int) :=
  match parseDataURI uri with
  | none => .error (.error "Invalid data URI")
  | some path =>
    match fs.files path with
    | none => .error (openError s!"Failed to open file {path} to read data. Error: " path)
    | some content =>
      if size < 0 then .error (.panic "runtime error: makeslice: len out of range")
      else if offset < 0 then
        .error (.ioError s!"Failed to read data. Error: readat {path}: negative offset")
      else
        let got := (content.drop offset.toNat).take size.toNat
        let result := got ++ List.replicate (size.toNat - got.length) 0
        if got.length = size.toNat then
          .ok (result, decide (content.length = offset + size), got.length)
        else .ok (result, true, got.length)

/-- `DeleteStoredData`: an absent file is not an error. -/
def deleteStoredData (fs : FileSystem) (uri : String) : Except SyncServiceError Unit × FileSystem :=
  match parseDataURI uri with
  | none => (.error (.error "Invalid data URI"), fs)
  | some path => (.ok (), fs.remove path)

/-! ### Writing the staging file -/

/-- The byte at `i` after a write: from the data inside the range written, from the old
contents elsewhere, and zero in a hole. -/
theorem getElem?_writeAt (content : Bytes) (pos : Nat) (data : Bytes) (i : Nat) :
    (writeAt content pos data)[i]? =
      if i < pos then some (content.getD i 0)
      else if i < pos + data.length then data[i - pos]?
      else content[i]? := by
  have hAR : (content.take pos ++ List.replicate (pos - content.length) 0).length = pos := by
    simp only [List.length_append, List.length_take, List.length_replicate]; omega
  have hARD : (content.take pos ++ List.replicate (pos - content.length) 0 ++ data).length =
      pos + data.length := by rw [List.length_append, hAR]
  unfold writeAt
  split_ifs with h₁ h₂
  · rw [List.append_assoc, List.getElem?_append_left (by omega), List.getElem?_append,
      List.getD_eq_getElem?_getD]
    by_cases hc : i < content.length
    · rw [if_pos (by simp; omega), List.getElem?_take_of_lt h₁, List.getElem?_eq_getElem hc]; rfl
    · rw [if_neg (by simp; omega), List.getElem?_replicate_of_lt (by simp; omega),
        List.getElem?_eq_none (by omega)]; rfl
  · rw [List.getElem?_append_left (by omega), List.getElem?_append_right (by omega), hAR]
  · rw [List.getElem?_append_right (by omega), hARD, List.getElem?_drop]
    congr 1; omega

/-- Writes to disjoint ranges commute. -/
theorem writeAt_comm {c d d' : Bytes} {p p' : Nat} (h : p + d.length ≤ p') :
    writeAt (writeAt c p d) p' d' = writeAt (writeAt c p' d') p d := by
  ext1 i
  simp only [getElem?_writeAt, List.getD_eq_getElem?_getD]
  split_ifs <;> first
    | rfl
    | omega
    | (rw [List.getElem?_eq_getElem (by omega : i - p < d.length)]; rfl)

theorem writeAt_append_length (a b d : Bytes) :
    writeAt (a ++ b) a.length d = a ++ d ++ b.drop d.length := by
  simp [writeAt, List.drop_append_eq_append_drop]

@[simp] theorem seekPos_natCast (n : Nat) : seekPos n = n := by unfold seekPos; split <;> omega

/-- The staging file after the chunks are written to it in the order given, from `init`. -/
def stage (init : Bytes) (chunks : List (Int × Bytes)) : Bytes :=
  chunks.foldl (fun c ch => writeAt c (seekPos ch.1) ch.2) init

theorem stage_chunksFrom (bs : List Bytes) : ∀ (o : Int) (a b : Bytes), o = a.length →
    stage (a ++ b) (chunksFrom o bs) = a ++ bs.flatten ++ b.drop bs.flatten.length := by
  induction bs with
  | nil => intro o a b _; simp [stage, chunksFrom]
  | cons x xs ih =>
    intro o a b ho
    have h := ih (o + x.length) (a ++ x) (b.drop x.length) (by simp only [List.length_append]; omega)
    subst ho
    simp only [stage, chunksFrom, List.foldl_cons, seekPos_natCast, writeAt_append_length] at h ⊢
    simpa [List.drop_drop, List.append_assoc] using h

section Partition

variable {bs : List Bytes} (hne : ∀ b ∈ bs, b ≠ [])
include hne

theorem pos_succ_le {i j : ℕ} (hij : i < j) (hj : j ≤ bs.length) :
    pos bs i + (block bs i).length ≤ pos bs j := by
  rw [← pos_succ (by omega)]
  rcases Nat.lt_or_ge (i + 1) j with h | h
  · exact (pos_lt_pos hne h hj).le
  · obtain rfl : j = i + 1 := by omega
    exact le_rfl

/-- Written in any order, the chunks of a partition leave the same staging file: the
payload, followed by what was staged past its end. -/
theorem stage_perm {order : List (Int × Bytes)} (hperm : order.Perm (chunksOf bs)) (init : Bytes) :
    stage init order = bs.flatten ++ init.drop bs.flatten.length := by
  have hcomm : ∀ x ∈ order, ∀ y ∈ order, ∀ z : Bytes,
      writeAt (writeAt z (seekPos x.1) x.2) (seekPos y.1) y.2 =
        writeAt (writeAt z (seekPos y.1) y.2) (seekPos x.1) x.2 := by
    intro x hx y hy z
    obtain ⟨i, hi, rfl⟩ := mem_chunksOf.mp (hperm.subset hx)
    obtain ⟨j, hj, rfl⟩ := mem_chunksOf.mp (hperm.subset hy)
    simp only [pos, seekPos_natCast]
    rcases lt_trichotomy i j with h | rfl | h
    · exact writeAt_comm (by have := pos_succ_le hne h hj.le; simp only [pos] at this; omega)
    · rfl
    · exact (writeAt_comm (by have := pos_succ_le hne h hi.le; simp only [pos] at this; omega)).symm
  rw [stage, hperm.foldl_eq' hcomm init, ← stage]
  simpa [chunksOf] using stage_chunksFrom bs 0 [] init rfl

end Partition

/-! ### Storing a payload -/

theorem tmp_ne (path : String) : path ++ ".tmp" ≠ path := fun h => by
  have := congrArg String.length h
  have h4 : ".tmp".length = 4 := rfl
  simp only [String.length_append, h4] at this
  omega

/-- A successful `StoreData` publishes the data followed by what the staging file held past
its length. -/
theorem storeData_published {fs : FileSystem} {uri path : String} (hp : parseDataURI uri = some path)
    {d : Bytes} {dataLength : UInt32} {n : Int} (h : (storeData fs uri d dataLength).1 = .ok n) :
    getData (storeData fs uri d dataLength).2 uri =
      .ok (d ++ ((fs.files (path ++ ".tmp")).getD []).drop d.length) := by
  unfold storeData at h ⊢
  simp only [hp] at h ⊢
  split_ifs at h ⊢
  simp [getData, hp, FileSystem.rename, FileSystem.write, Function.update_noteq (tmp_ne path).symm,
    writeAt]

/-- `StoreData` of two bytes over a staging file that an interrupted upload left four bytes
long. -/
theorem storeData_published_over_staged :
    let fs : FileSystem :=
      (appendData FileSystem.empty "file:///data/obj" [1, 2, 3, 4] 4 0 4 true false).2
    parseDataURI "file:///data/obj" = some "/data/obj" ∧
      (storeData fs "file:///data/obj" [9, 9] 2).1 = .ok 2 ∧
      getData (storeData fs "file:///data/obj" [9, 9] 2).2 "file:///data/obj" =
        .ok ([9, 9] ++ ((fs.files ("/data/obj" ++ ".tmp")).getD []).drop 2) := by
  intro fs
  have hp : parseDataURI "file:///data/obj" = some "/data/obj" := by decide
  have h : (storeData fs "file:///data/obj" [9, 9] 2).1 = .ok 2 := by decide
  exact ⟨hp, h, storeData_published hp h⟩

/-- A `StoreData` on a staging file that an interrupted upload left longer than the data. -/
theorem storeData_keeps_staged_tail :
    let fs : FileSystem :=
      (appendData FileSystem.empty "file:///data/obj" [1, 2, 3, 4, 5, 6, 7, 8] 8 0 8 true false).2
    let r := storeData fs "file:///data/obj" [9, 9, 9] 3
    r.1 = .ok 3 ∧ getData r.2 "file:///data/obj" = .ok [9, 9, 9, 4, 5, 6, 7, 8] := by
  decide

/-! ### Uploading a payload in chunks -/

/-- The calls of an upload to one URI, made one after the other: their results and the final
file system. -/
def appendRun (uri : String) : FileSystem → List AppendCall → List (Except SyncServiceError Unit) × FileSystem
  | fs, [] => ([], fs)
  | fs, c :: cs =>
    let r := appendData fs uri c.dataReader c.dataLength c.offset c.total c.isFirstChunk c.isLastChunk
    let rest := appendRun uri r.2 cs
    (r.1 :: rest.1, rest.2)

theorem appendRun_append (uri : String) (xs ys : List AppendCall) : ∀ fs,
    appendRun uri fs (xs ++ ys) =
      ((appendRun uri fs xs).1 ++ (appendRun uri (appendRun uri fs xs).2 ys).1,
        (appendRun uri (appendRun uri fs xs).2 ys).2) := by
  induction xs with
  | nil => intro fs; rfl
  | cons x xs ih => intro fs; simp [appendRun, ih]

section Upload

variable {uri path : String} (hp : parseDataURI uri = some path)
include hp

/-- **Spec lemma.**  A call that succeeds writes its chunk to the staging file at its offset,
and the last one publishes the staging file. -/
theorem appendData_ok {fs : FileSystem} {c : AppendCall}
    (h : (appendData fs uri c.dataReader c.dataLength c.offset c.total c.isFirstChunk
      c.isLastChunk).1 = .ok ()) :
    (appendData fs uri c.dataReader c.dataLength c.offset c.total c.isFirstChunk c.isLastChunk).2 =
      if c.isLastChunk then
        (fs.write (path ++ ".tmp") (seekPos c.offset) c.dataReader).rename (path ++ ".tmp") path
      else fs.write (path ++ ".tmp") (seekPos c.offset) c.dataReader := by
  unfold appendData at h ⊢
  simp only [hp] at h ⊢
  split_ifs at h ⊢ <;> rfl

/-- The calls before the last one write the staging file and nothing else. -/
theorem appendRun_staged : ∀ (calls : List AppendCall) (fs : FileSystem),
    (∀ c ∈ calls, c.isLastChunk = false) → (∀ r ∈ (appendRun uri fs calls).1, r = .ok ()) →
    (∀ q, q ≠ path ++ ".tmp" → (appendRun uri fs calls).2.files q = fs.files q) ∧
      ((appendRun uri fs calls).2.files (path ++ ".tmp")).getD [] =
        stage ((fs.files (path ++ ".tmp")).getD []) (calls.map fun c => (c.offset, c.dataReader)) := by
  intro calls
  induction calls with
  | nil => intro fs _ _; exact ⟨fun _ _ => rfl, rfl⟩
  | cons c cs ih =>
    intro fs hlast hok
    have hc := appendData_ok hp (hok _ (List.mem_cons_self _ _))
    rw [if_neg (by simp [hlast c (List.mem_cons_self _ _)])] at hc
    obtain ⟨hq, hs⟩ := ih _ (fun c' h' => hlast c' (List.mem_cons_of_mem _ h'))
      (fun r hr => hok r (List.mem_cons_of_mem _ hr))
    simp only [appendRun, hc] at hq hs ⊢
    refine ⟨fun q hne => (hq q hne).trans (Function.update_noteq hne _ _), ?_⟩
    rw [hs]
    simp [FileSystem.write, stage]

/-- Every call of an upload in any order succeeds, and only the last one carries
`isLastChunk`: until the last call the file at the path stays as it was, and the last one
publishes the payload followed by what the staging file held past its end. -/
theorem appendData_publishes (fs : FileSystem) (calls : List AppendCall) (bs : List Bytes)
    (hne : ∀ b ∈ bs, b ≠ [])
    (hperm : (calls.map fun c => (c.offset, c.dataReader)).Perm (chunksOf bs))
    (hok : ∀ r ∈ (appendRun uri fs calls).1, r = .ok ())
    (hlast : calls.map (·.isLastChunk) = List.replicate (calls.length - 1) false ++ [true]) :
    (∀ k < calls.length, (appendRun uri fs (calls.take k)).2.files path = fs.files path) ∧
      (appendRun uri fs calls).2.files path =
        some (bs.flatten ++ ((fs.files (path ++ ".tmp")).getD []).drop bs.flatten.length) := by
  obtain ⟨pre, last, rfl⟩ : ∃ pre last, calls = pre ++ [last] := by
    rcases List.eq_nil_or_concat calls with rfl | ⟨pre, last, rfl⟩
    · simp at hlast
    · exact ⟨pre, last, List.concat_eq_append _ _⟩
  have hflags : pre.map (·.isLastChunk) = List.replicate pre.length false ∧ last.isLastChunk := by
    simp only [List.map_append, List.map_cons, List.map_nil, List.length_append,
      List.length_singleton, Nat.add_sub_cancel] at hlast
    obtain ⟨h₁, h₂⟩ := List.append_inj' hlast rfl
    exact ⟨h₁, by simpa using h₂⟩
  have hpre : ∀ c ∈ pre, c.isLastChunk = false := fun c hc =>
    List.eq_of_mem_replicate (hflags.1 ▸ List.mem_map_of_mem _ hc)
  rw [appendRun_append] at hok ⊢
  have hokpre : ∀ r ∈ (appendRun uri fs pre).1, r = .ok () := fun r hr => hok r (by simp [hr])
  obtain ⟨hq, hs⟩ := appendRun_staged hp pre fs hpre hokpre
  refine ⟨fun k hk => ?_, ?_⟩
  · rw [List.take_append_of_le_length (by simp at hk; omega)]
    have hk' := List.take_prefix k pre
    obtain ⟨hq', -⟩ := appendRun_staged hp (pre.take k) fs
      (fun c hc => hpre c (hk'.subset hc))
      (fun r hr => hokpre r (by
        obtain ⟨t, ht⟩ := hk'
        rw [← ht, appendRun_append] at hokpre
        rw [← ht, appendRun_append]
        exact List.mem_append_left _ hr))
    exact hq' path (tmp_ne path).symm
  · have hlastok : (appendData (appendRun uri fs pre).2 uri last.dataReader last.dataLength last.offset
        last.total last.isFirstChunk last.isLastChunk).1 = .ok () :=
      hok _ (by simp [appendRun])
    simp only [appendRun, appendData_ok hp hlastok, if_pos hflags.2]
    simp only [FileSystem.rename, FileSystem.write, Function.update_noteq (tmp_ne path).symm,
      Function.update_same]
    rw [hs, ← stage_perm hne hperm]
    simp [stage]

end Upload

/-- An upload of the blocks `[1, 2]` and `[3]` whose second block arrives first. -/
theorem appendData_publishes_reversed :
    let calls : List AppendCall := [⟨[3], 1, 2, 3, false, false⟩, ⟨[1, 2], 2, 0, 3, true, true⟩]
    parseDataURI "file:///data/obj" = some "/data/obj" ∧ (∀ b ∈ [[1, 2], [3]], b ≠ ([] : Bytes)) ∧
      (calls.map fun c => (c.offset, c.dataReader)).Perm (chunksOf [[1, 2], [3]]) ∧
      (∀ r ∈ (appendRun "file:///data/obj" FileSystem.empty calls).1, r = .ok ()) ∧
      calls.map (·.isLastChunk) = List.replicate (calls.length - 1) false ++ [true] ∧
      (∀ k < calls.length, (appendRun "file:///data/obj" FileSystem.empty (calls.take k)).2.files
          "/data/obj" = FileSystem.empty.files "/data/obj") ∧
        (appendRun "file:///data/obj" FileSystem.empty calls).2.files "/data/obj" =
          some ([[1, 2], [3]].flatten ++ ((FileSystem.empty.files ("/data/obj" ++ ".tmp")).getD
            []).drop [[1, 2], [3]].flatten.length) := by
  intro calls
  have hp : parseDataURI "file:///data/obj" = some "/data/obj" := by decide
  have hne : ∀ b ∈ [[1, 2], [3]], b ≠ ([] : Bytes) := by decide
  have hperm : (calls.map fun c => (c.offset, c.dataReader)).Perm (chunksOf [[1, 2], [3]]) := by
    decide
  have hok : ∀ r ∈ (appendRun "file:///data/obj" FileSystem.empty calls).1, r = .ok () := by decide
  have hlast : calls.map (·.isLastChunk) = List.replicate (calls.length - 1) false ++ [true] := by
    decide
  exact ⟨hp, hne, hperm, hok, hlast,
    appendData_publishes hp FileSystem.empty calls _ hne hperm hok hlast⟩

/-- An upload of four bytes in one chunk, onto a staging file an interrupted upload left
eight bytes long. -/
theorem appendData_keeps_staged_tail :
    let fs : FileSystem :=
      (appendData FileSystem.empty "file:///data/obj" [1, 2, 3, 4, 5, 6, 7, 8] 8 0 8 true false).2
    let r := appendData fs "file:///data/obj" [9, 9, 9, 9] 4 0 4 true true
    r.1 = .ok () ∧ getData r.2 "file:///data/obj" = .ok [9, 9, 9, 9, 5, 6, 7, 8] := by
  decide

end DataURI

end EdgeSync
