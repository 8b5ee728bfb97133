import EdgeSync.Storage.Append

/-!
# Reassembly of a chunked upload in any order

A payload of `total` bytes is split into blocks `bs`, the chunks of the partition of
`[0, total)` they form: block `j` sits at offset `pos bs j`, the length of the blocks before
it.  The chunks reach `AppendObjectData` in any order.  The invariant that makes this work
is `Frontier`: the file holds the blocks `0 … k-1`, all of which have arrived; block `k` has
not; and the out-of-order map holds exactly the arrived blocks after `k` (`Waiting`).
`placeChunk_frontier` is its step lemma, with `drainLoop_frontier` for the write loop, and
`appendObjectData_reassembles` runs it over a whole upload.
-/

namespace EdgeSync

namespace MongoStorage

variable {bs : List Bytes}

/-! ### The out-of-order map -/

/-- The map `m` holds exactly the blocks `j` with `P j`, each at its offset. -/
structure Waiting (bs : List Bytes) (P : ℕ → Prop) (m : Option ChunkMap) : Prop where
  lookup_pos : ∀ j < bs.length, P j → (m.getD ∅).lookup (pos bs j) = some (block bs j)
  sound : ∀ o b, (m.getD ∅).lookup o = some b → ∃ j < bs.length, P j ∧ o = pos bs j ∧ b = block bs j

theorem Waiting.congr {P Q : ℕ → Prop} {m : Option ChunkMap} (hw : Waiting bs P m)
    (h : ∀ i, P i ↔ Q i) : Waiting bs Q m := by
  obtain rfl : P = Q := funext fun i => propext (h i)
  exact hw

theorem lookup_eq_none_of_chunkCount {m : Option ChunkMap} (h : chunkCount m = 0) (o : Int) :
    (m.getD ∅).lookup o = none := by
  cases m with
  | none => rfl
  | some m =>
    simp only [chunkCount, List.length_eq_zero] at h
    simp [AList.lookup_eq_none, AList.mem_keys, h]

theorem chunkCount_erase {m : ChunkMap} {o : Int} {b : Bytes} (h : m.lookup o = some b) :
    chunkCount (some (m.erase o)) = chunkCount (some m) - 1 := by
  have : o ∈ m.keys := AList.mem_keys.mp (AList.lookup_isSome.mp (by simp [h]))
  simp [chunkCount, AList.keys_erase, List.length_erase_of_mem this]

/-- The file of an upload of `bs` in which the blocks with `A` have arrived has reached block
`k`: it holds the blocks before `k`, all arrived, block `k` has not arrived, and the map
holds the arrived blocks after `k`. -/
structure Frontier (bs : List Bytes) (A : ℕ → Prop) (id : String) (fh : FileHandle) (k : ℕ) :
    Prop where
  le : k ≤ bs.length
  arrived : ∀ j < k, A j
  next : k < bs.length → ¬ A k
  file : fh.file = .writing id (bs.take k).flatten
  offset : fh.offset = pos bs k
  waiting : Waiting bs (fun j => A j ∧ k < j) fh.chunks

theorem frontier_createFile {A : ℕ → Prop} (hA : ∀ j, ¬ A j) (id : String) :
    Frontier bs A id (createFile id) 0 where
  le := Nat.zero_le _
  arrived := fun _ h => absurd h (Nat.not_lt_zero _)
  next := fun _ => hA 0
  file := by simp [createFile]
  offset := by simp [createFile, pos]
  waiting := ⟨fun j _ h => (hA j h.1).elim, fun o b h => by simp [createFile] at h⟩

theorem Frontier.congr {A B : ℕ → Prop} {id : String} {fh : FileHandle} {k : ℕ}
    (hf : Frontier bs A id fh k) (h : ∀ i, A i ↔ B i) : Frontier bs B id fh k := by
  obtain rfl : A = B := funext fun i => propext (h i)
  exact hf

/-- Once every block has arrived the frontier is the end of the payload. -/
theorem Frontier.eq_length {A : ℕ → Prop} {id : String} {fh : FileHandle} {k : ℕ}
    (hf : Frontier bs A id fh k) (hall : ∀ i < bs.length, A i) : k = bs.length :=
  (Nat.lt_or_eq_of_le hf.le).resolve_left fun hk => hf.next hk (hall k hk)

/-- Where the write loop stops: the map has no block at the offset reached. -/
theorem drain_stop {A : ℕ → Prop} {k : ℕ} {m : Option ChunkMap}
    (hw : Waiting bs (fun j => A j ∧ k < j) m) (hnone : (m.getD ∅).lookup (pos bs (k + 1)) = none) :
    (k + 1 < bs.length → ¬ A (k + 1)) ∧ Waiting bs (fun j => A j ∧ k + 1 < j) m := by
  refine ⟨fun hlt hA => by simp [hw.lookup_pos (k + 1) hlt ⟨hA, by omega⟩] at hnone, ?_, ?_⟩
  · exact fun j hj hP => hw.lookup_pos j hj ⟨hP.1, by omega⟩
  · intro o b hob
    obtain ⟨j, hj, ⟨hA, hkj⟩, rfl, rfl⟩ := hw.sound o b hob
    refine ⟨j, hj, ⟨hA, ?_⟩, rfl, rfl⟩
    rcases Nat.lt_or_ge (k + 1) j with h | h
    · exact h
    · obtain rfl : j = k + 1 := by omega
      simp [hnone] at hob

section Drain

variable (hne : ∀ b ∈ bs, b ≠ [])
include hne

/-- One pass of the write loop that finds the next block in the map. -/
theorem drain_next {A : ℕ → Prop} {k : ℕ} {m : ChunkMap} {next : Bytes}
    (hw : Waiting bs (fun j => A j ∧ k < j) (some m)) (hnext : m.lookup (pos bs (k + 1)) = some next) :
    k + 1 < bs.length ∧ A (k + 1) ∧ next = block bs (k + 1) ∧
      Waiting bs (fun j => A j ∧ k + 1 < j) (some (m.erase (pos bs (k + 1)))) := by
  obtain ⟨j, hj, ⟨hA, hkj⟩, hpos, rfl⟩ := hw.sound _ _ hnext
  obtain rfl : k + 1 = j := pos_inj hne (by omega) hj.le hpos
  refine ⟨hj, hA, rfl, ?_, ?_⟩
  · intro i hi hP
    have hne' : pos bs i ≠ pos bs (k + 1) := fun h => by have := pos_inj hne hi.le hj.le h; omega
    simpa [AList.lookup_erase_ne hne'] using hw.lookup_pos i hi ⟨hP.1, by omega⟩
  · intro o b hob
    have ho : o ≠ pos bs (k + 1) := by rintro rfl; simp [AList.lookup_erase] at hob
    simp only [Option.getD_some, AList.lookup_erase_ne ho] at hob
    obtain ⟨i, hi, ⟨hA', hki⟩, rfl, rfl⟩ := hw.sound _ _ (by simpa using hob)
    have hki' : k + 1 < i := by
      rcases Nat.lt_or_ge (k + 1) i with h | h
      · exact h
      · exact absurd (by congr 1; omega) ho
    exact ⟨i, hi, ⟨hA', hki'⟩, rfl, rfl⟩

/-- Buffering block `j` adds it to the map. -/
theorem Waiting.insert {P : ℕ → Prop} {m : Option ChunkMap} {j : ℕ} (hw : Waiting bs P m)
    (hj : j < bs.length) :
    Waiting bs (fun i => P i ∨ i = j) (some ((m.getD ∅).insert (pos bs j) (block bs j))) := by
  refine ⟨fun i hi hP => ?_, fun o b hob => ?_⟩
  · by_cases hij : i = j
    · subst hij; simp
    · simpa [AList.lookup_insert_ne (fun h => hij (pos_inj hne hi.le hj.le h))] using
        hw.lookup_pos i hi (hP.resolve_right hij)
  · by_cases ho : o = pos bs j
    · subst ho
      simp only [Option.getD_some, AList.lookup_insert, Option.some.injEq] at hob
      exact ⟨j, hj, Or.inr rfl, rfl, hob.symm⟩
    · simp only [Option.getD_some, AList.lookup_insert_ne ho] at hob
      obtain ⟨i, hi, hP, rfl, rfl⟩ := hw.sound _ _ hob
      exact ⟨i, hi, Or.inl hP, rfl, rfl⟩

/-- The write loop started on block `k`, which has just arrived, writes every block up to
the first one that has not arrived, and leaves the rest in the map. -/
theorem drainLoop_frontier {A : ℕ → Prop} :
    ∀ (fuel k : ℕ) (m : Option ChunkMap), k < bs.length → A k →
      Waiting bs (fun j => A j ∧ k < j) m → fuel = chunkCount m →
      ∃ k' m', k < k' ∧ k' ≤ bs.length ∧ (∀ j, k ≤ j → j < k' → A j) ∧
        (k' < bs.length → ¬ A k') ∧ Waiting bs (fun j => A j ∧ k' < j) m' ∧
        drainLoop fuel (bs.take k).flatten (pos bs k) m (block bs k) =
          ((bs.take k').flatten, pos bs k', m') := by
  intro fuel
  induction fuel with
  | zero =>
    intro k m hk hA hw hfuel
    have hstop := drain_stop hw (lookup_eq_none_of_chunkCount hfuel.symm _)
    refine ⟨k + 1, m, by omega, hk, fun j h1 h2 => by rwa [show j = k by omega], hstop.1,
      hstop.2, ?_⟩
    simp [drainLoop, take_succ_flatten hk, pos_succ hk]
  | succ fuel ih =>
    intro k m hk hA hw hfuel
    have hrec : (bs.take k).flatten ++ block bs k = (bs.take (k + 1)).flatten ∧
        pos bs k + ((block bs k).length : Int) = pos bs (k + 1) :=
      ⟨(take_succ_flatten hk).symm, (pos_succ hk).symm⟩
    have stop : (m.getD ∅).lookup (pos bs (k + 1)) = none → ∃ k' m', k < k' ∧ k' ≤ bs.length ∧
        (∀ j, k ≤ j → j < k' → A j) ∧ (k' < bs.length → ¬ A k') ∧
        Waiting bs (fun j => A j ∧ k' < j) m' ∧
        ((bs.take (k + 1)).flatten, pos bs (k + 1), m) = ((bs.take k').flatten, pos bs k', m') :=
      fun hnone => ⟨k + 1, m, by omega, hk, fun j h1 h2 => by rwa [show j = k by omega],
        (drain_stop hw hnone).1, (drain_stop hw hnone).2, rfl⟩
    cases m with
    | none => rw [drainLoop, hrec.1, hrec.2]; exact stop rfl
    | some m =>
      simp only [drainLoop]
      rw [hrec.1, hrec.2]
      cases hnext : m.lookup (pos bs (k + 1)) with
      | none => simp only [hnext]; exact stop hnext
      | some next =>
        obtain ⟨hk1, hA1, rfl, hw1⟩ := drain_next hne hw hnext
        obtain ⟨k', m', hlt, hle, harr, hnx, hw', heq⟩ :=
          ih (k + 1) _ hk1 hA1 hw1 (by rw [chunkCount_erase hnext]; simp [← hfuel])
        refine ⟨k', m', by omega, hle, fun j h1 h2 => ?_, hnx, hw', heq⟩
        rcases Nat.eq_or_lt_of_le h1 with rfl | h1
        · exact hA
        · exact harr j h1 h2

/-- **Step lemma.**  Placing a block that has not arrived yet keeps the upload at a
frontier, for the arrivals with that block added. -/
theorem placeChunk_frontier {A : ℕ → Prop} {id : String} {fh fh' : FileHandle} {k j : ℕ}
    (hf : Frontier bs A id fh k) (hj : j < bs.length) (hnew : ¬ A j)
    (hplace : placeChunk fh (pos bs j) (block bs j) = .ok fh') :
    ∃ k', Frontier bs (fun i => A i ∨ i = j) id fh' k' := by
  unfold placeChunk at hplace
  split at hplace
  · rename_i hoff
    obtain rfl : j = k := pos_inj hne hj.le hf.le (hoff.trans hf.offset)
    rw [hf.file] at hplace
    have hw : Waiting bs (fun i => (A i ∨ i = j) ∧ j < i) fh.chunks :=
      hf.waiting.congr fun i => ⟨fun h => ⟨.inl h.1, h.2⟩,
        fun h => ⟨h.1.resolve_right (by omega), h.2⟩⟩
    obtain ⟨k', m', hlt, hle, harr, hnx, hw', heq⟩ :=
      drainLoop_frontier hne _ j _ hj (Or.inr rfl) hw rfl
    simp only [hf.offset, heq, Except.ok.injEq] at hplace
    subst hplace
    exact ⟨k', ⟨hle, fun i hi => (Nat.lt_or_ge i j).elim (fun h => Or.inl (hf.arrived i h))
      (fun h => harr i h hi), hnx, rfl, rfl, hw'⟩⟩
  · rename_i hoff
    dsimp only at hplace
    split at hplace
    · cases hplace
    · simp only [Except.ok.injEq] at hplace
      subst hplace
      have hjk : k < j := by
        rcases lt_trichotomy j k with h | rfl | h
        · exact absurd (hf.arrived j h) hnew
        · exact absurd hf.offset.symm hoff
        · exact h
      refine ⟨k, hf.le, fun i hi => Or.inl (hf.arrived i hi),
        fun hk h => h.elim (hf.next hk) (by omega), hf.file, hf.offset,
        (hf.waiting.insert hne hj).congr fun i => ⟨?_, ?_⟩⟩
      · rintro (⟨hA, hki⟩ | rfl)
        exacts [⟨.inl hA, hki⟩, ⟨.inr rfl, hjk⟩]
      · rintro ⟨hA | rfl, hki⟩
        exacts [.inl ⟨hA, hki⟩, .inr rfl]

end Drain

/-! ### One call of `AppendObjectData` -/

section Call

variable {s s' : MongoStorage} {orgID objectType objectID : String} {dataReader : Bytes}
  {dataLength : UInt32} {offset total : Int} {first last : Bool}

/-- **Inversion lemma.**  What a call that succeeds has done: it opened the upload, read
its chunk, placed it, and then either closed the file or kept the handle. -/
theorem appendObjectData_ok
    (h : appendObjectData s orgID objectType objectID dataReader dataLength offset total first
      last = (.ok (), s')) :
    let id := createObjectCollectionID orgID objectType objectID
    ∃ fh₀ data fh, (openUpload s id first).1 = some fh₀ ∧
      readChunk dataReader dataLength = .ok data ∧ placeChunk fh₀ offset data = .ok fh ∧
      if last then ((openUpload s id first).2.deleteFileHandle id).closeFile fh.file = .ok s'
      else s' = (openUpload s id first).2.putFileHandle id fh := by
  intro id
  unfold appendObjectData at h
  rcases ho : (openUpload s id first).1 with _ | fh₀ <;> simp only [id, ho] at h
  · cases h
  rcases hr : readChunk dataReader dataLength with e | data <;> simp only [hr] at h
  · cases h
  rcases hp : placeChunk fh₀ offset data with e | fh <;> simp only [hp] at h
  · cases h
  refine ⟨fh₀, data, fh, rfl, rfl, hp, ?_⟩
  cases last
  · simpa using h.symm
  · simp only [↓reduceIte] at h ⊢
    split at h
    · rename_i hc; simp only [Prod.mk.injEq] at h; rw [hc, h.2]
    · cases h

theorem readChunk_ne_discarded (dataReader : Bytes) (dataLength : UInt32) (message : String) :
    readChunk dataReader dataLength ≠ .error (.discarded message) := by
  unfold readChunk; split_ifs <;> simp

/-- A fresh handle has room in its map. -/
theorem placeChunk_createFile_ne_discarded (id : String) (offset : Int) (data : Bytes)
    (message : String) : placeChunk (createFile id) offset data ≠ .error (.discarded message) := by
  unfold placeChunk; split_ifs <;> simp [createFile] at *

/-- A call that returns `Discarded` is not a first chunk and leaves the store as it was:
the handle keeps its offset and its map. -/
theorem appendObjectData_discarded {message : String}
    (h : appendObjectData s orgID objectType objectID dataReader dataLength offset total first
      last = (.error (.discarded message), s')) :
    first = false ∧ s' = s := by
  unfold appendObjectData at h
  rcases ho : (openUpload s (createObjectCollectionID orgID objectType objectID) first).1 with
    _ | fh₀ <;> simp only [ho] at h
  · cases h
  rcases hr : readChunk dataReader dataLength with e | data <;> simp only [hr] at h
  · cases h; exact absurd hr (readChunk_ne_discarded _ _ _)
  rcases hp : placeChunk fh₀ offset data with e | fh <;> simp only [hp] at h
  · cases h
    cases first
    · exact ⟨rfl, rfl⟩
    · cases ho; exact absurd hp (placeChunk_createFile_ne_discarded _ _ _ _)
  · split at h
    · split at h <;> cases h
    · cases h

theorem closeFile_writing {s s' : MongoStorage} {id : String} {content : Bytes}
    (h : s.closeFile (.writing id content) = .ok s') :
    s'.files id = some content ∧ s'.openFiles = s.openFiles := by
  simp only [closeFile] at h
  split at h
  · cases h
  · cases h; simp

end Call

/-! ### A whole upload -/

/-- The upload of the blocks `bs` under `id` is complete: the published file holds the
blocks in order and `openFiles` has no handle for `id`. -/
def Published (bs : List Bytes) (id : String) (s : MongoStorage) : Prop :=
  s.files id = some bs.flatten ∧ s.openFiles id = none

/-- The calls of a run that succeeded, in order. -/
def succeeded (calls : List AppendCall) (results : List (Except SyncServiceError Unit)) :
    List AppendCall :=
  (calls.zip results).filterMap fun p => if p.2 = .ok () then some p.1 else none

theorem lastFlags_cons {c : AppendCall} {cs : List AppendCall}
    (h : (c :: cs).map (·.isLastChunk) = List.replicate (cs.length + 1 - 1) false ++ [true]) :
    (cs = [] ∧ c.isLastChunk = true) ∨ (cs ≠ [] ∧ c.isLastChunk = false ∧
      cs.map (·.isLastChunk) = List.replicate (cs.length - 1) false ++ [true]) := by
  rcases cs with _ | ⟨c', cs⟩
  · simp at h; exact Or.inl ⟨rfl, h⟩
  · simp only [List.length_cons, Nat.add_sub_cancel, List.replicate_succ, List.cons_append,
      List.map_cons, List.cons.injEq] at h
    exact Or.inr ⟨List.cons_ne_nil _ _, h.1, by simpa using h.2⟩

section Run

variable (hne : ∀ b ∈ bs, b ≠ [])
include hne

theorem chunk_eq_iff {i j : ℕ} (hj : j < bs.length) :
    (pos bs i, block bs i) = (pos bs j, block bs j) ↔ i = j := by
  refine ⟨fun h => ?_, fun h => h ▸ rfl⟩
  by_cases hi : i ≤ bs.length
  · exact pos_inj hne hi hj.le (congrArg Prod.fst h)
  · have hnil : block bs i = [] := by
      simp [block, List.getD_eq_getElem?_getD, List.getElem?_eq_none (by omega : bs.length ≤ i)]
    have hb : block bs j ≠ [] := by rw [block_eq_getElem hj]; exact hne _ (List.getElem_mem hj)
    exact absurd ((congrArg Prod.snd h).symm.trans hnil) hb

/-- The next chunk of an upload is a block that has not arrived. -/
theorem next_chunk {done todo : List (Int × Bytes)} {ch : Int × Bytes}
    (hperm : (done ++ ch :: todo).Perm (chunksOf bs)) :
    ∃ j < bs.length, ch = (pos bs j, block bs j) ∧ (pos bs j, block bs j) ∉ done := by
  obtain ⟨j, hj, rfl⟩ :=
    mem_chunksOf.mp (hperm.subset (List.mem_append_right _ (List.mem_cons_self _ _)))
  refine ⟨j, hj, rfl, fun hmem => ?_⟩
  have hnd := hperm.nodup_iff.mpr (chunksOf_nodup hne)
  exact (List.nodup_append.mp hnd).2.2 hmem (List.mem_cons_self _ _)

theorem arrived_append {done : List (Int × Bytes)} {j : ℕ} (hj : j < bs.length) (i : ℕ) :
    ((pos bs i, block bs i) ∈ done ∨ i = j) ↔
      (pos bs i, block bs i) ∈ done ++ [(pos bs j, block bs j)] := by
  simp [chunk_eq_iff hne hj]

/-- When the last chunk comes, every other block has arrived. -/
theorem arrived_of_last {done : List (Int × Bytes)} {j : ℕ} (hj : j < bs.length)
    (hperm : (done ++ [(pos bs j, block bs j)]).Perm (chunksOf bs)) (i : ℕ) (hi : i < bs.length) :
    (pos bs i, block bs i) ∈ done ∨ i = j := by
  have := hperm.symm.subset (mem_chunksOf.mpr ⟨i, hi, rfl⟩)
  simpa [chunk_eq_iff hne hj] using this

/-- **Call lemma.**  A successful call with a block that has not arrived keeps the upload at a
frontier; the last call publishes what the file holds and drops the handle. -/
theorem appendObjectData_step {orgID objectType objectID : String} {A : ℕ → Prop}
    {c : AppendCall} {s s' : MongoStorage} {fh : FileHandle} {j k : ℕ}
    (hc : c.chunk = .ok (pos bs j, block bs j)) (hj : j < bs.length) (hnew : ¬ A j)
    (hopen : (openUpload s (createObjectCollectionID orgID objectType objectID)
      c.isFirstChunk).1 = some fh)
    (hf : Frontier bs A (createObjectCollectionID orgID objectType objectID) fh k)
    (h : appendObjectData s orgID objectType objectID c.dataReader c.dataLength c.offset c.total
      c.isFirstChunk c.isLastChunk = (.ok (), s')) :
    ∃ fh' k', Frontier bs (fun i => A i ∨ i = j) (createObjectCollectionID orgID objectType objectID) fh' k' ∧
      if c.isLastChunk then
        s'.files (createObjectCollectionID orgID objectType objectID) = some (bs.take k').flatten ∧
        s'.openFiles (createObjectCollectionID orgID objectType objectID) = none
      else s'.openFiles (createObjectCollectionID orgID objectType objectID) = some fh' := by
  obtain ⟨fh₀, data, fh', ho, hr, hp, hend⟩ := appendObjectData_ok h
  obtain rfl : fh₀ = fh := Option.some_injective _ (ho.symm.trans hopen)
  obtain ⟨hoff, rfl⟩ : c.offset = pos bs j ∧ data = block bs j := by
    simpa [AppendCall.chunk, hr, Except.map] using hc
  obtain ⟨k', hf'⟩ := placeChunk_frontier hne hf hj hnew (hoff ▸ hp)
  refine ⟨fh', k', hf', ?_⟩
  cases hl : c.isLastChunk <;> simp only [hl, Bool.false_eq_true, ↓reduceIte] at hend ⊢
  · simp [hend]
  · obtain ⟨hfiles, hopen'⟩ := closeFile_writing (hf'.file ▸ hend)
    exact ⟨hfiles, by simp [hopen']⟩

/-- **Run lemma.**  The calls after the first one, with only the final one the last chunk,
complete the upload from any frontier their chunks complete. -/
theorem appendRun_tail {orgID objectType objectID : String} :
    ∀ (calls : List AppendCall) (todo done : List (Int × Bytes)) (s : MongoStorage)
      (fh : FileHandle) (k : ℕ),
    List.Forall₂ (fun c ch => c.chunk = .ok ch) calls todo → (done ++ todo).Perm (chunksOf bs) →
    calls ≠ [] → calls.map (·.isFirstChunk) = List.replicate calls.length false →
    calls.map (·.isLastChunk) = List.replicate (calls.length - 1) false ++ [true] →
    (∀ r ∈ (appendRun orgID objectType objectID s calls).1, r = .ok ()) →
    s.openFiles (createObjectCollectionID orgID objectType objectID) = some fh →
    Frontier bs (fun i => (pos bs i, block bs i) ∈ done)
      (createObjectCollectionID orgID objectType objectID) fh k →
    Published bs (createObjectCollectionID orgID objectType objectID)
      (appendRun orgID objectType objectID s calls).2 := by
  intro calls
  induction calls with
  | nil => intro _ _ _ _ _ _ _ h; exact absurd rfl h
  | cons c cs ih =>
    intro todo done s fh k hchunks hperm _ hfirst hlast hok hopen hf
    obtain ⟨ch, todo', hc, hrest, rfl⟩ : ∃ ch todo', c.chunk = .ok ch ∧
        List.Forall₂ (fun c ch => c.chunk = .ok ch) cs todo' ∧ todo = ch :: todo' := by
      cases hchunks; exact ⟨_, _, ‹_›, ‹_›, rfl⟩
    obtain ⟨j, hj, rfl, hnew⟩ := next_chunk hne hperm
    simp only [List.map_cons, List.length_cons, List.replicate_succ, List.cons.injEq] at hfirst
    set s₁ := (appendObjectData s orgID objectType objectID c.dataReader c.dataLength c.offset
        c.total c.isFirstChunk c.isLastChunk).2
    have hres : appendObjectData s orgID objectType objectID c.dataReader c.dataLength c.offset
        c.total c.isFirstChunk c.isLastChunk = (.ok (), s₁) :=
      Prod.ext (hok _ (List.mem_cons_self _ _)) rfl
    obtain ⟨fh', k', hf', hend⟩ := appendObjectData_step hne hc hj hnew
      (by simpa [openUpload, hfirst.1] using hopen) hf hres
    rcases lastFlags_cons hlast with ⟨rfl, hl⟩ | ⟨hcs, hl, hlast'⟩
    · rw [hl] at hend
      obtain rfl : todo' = [] := by cases hrest; rfl
      have hall := hf'.eq_length fun i hi => arrived_of_last hne hj hperm i hi
      subst hall
      simpa [Published, appendRun] using hend
    · rw [hl] at hend
      exact ih todo' (done ++ [(pos bs j, block bs j)]) _ fh' k' hrest (by simpa using hperm) hcs
        (by simpa using hfirst.2) hlast' (fun r hr => hok r (List.mem_cons_of_mem _ hr))
        (by simpa using hend) (hf'.congr (arrived_append hne hj))

/-- An upload whose calls all succeed publishes the blocks in order and drops its handle. -/
theorem appendRun_published {orgID objectType objectID : String} {s : MongoStorage}
    {calls : List AppendCall} {order : List (Int × Bytes)}
    (hchunks : List.Forall₂ (fun c ch => c.chunk = .ok ch) calls order)
    (hperm : order.Perm (chunksOf bs)) (hcalls : calls ≠ [])
    (hfirst : calls.map (·.isFirstChunk) = true :: List.replicate (calls.length - 1) false)
    (hlast : calls.map (·.isLastChunk) = List.replicate (calls.length - 1) false ++ [true])
    (hok : ∀ r ∈ (appendRun orgID objectType objectID s calls).1, r = .ok ()) :
    Published bs (createObjectCollectionID orgID objectType objectID)
      (appendRun orgID objectType objectID s calls).2 := by
  obtain ⟨c, cs, rfl⟩ := List.exists_cons_of_ne_nil hcalls
  obtain ⟨ch, todo', hc, hrest, rfl⟩ : ∃ ch todo', c.chunk = .ok ch ∧
      List.Forall₂ (fun c ch => c.chunk = .ok ch) cs todo' ∧ order = ch :: todo' := by
    cases hchunks; exact ⟨_, _, ‹_›, ‹_›, rfl⟩
  have hperm₀ : ([] ++ ch :: todo').Perm (chunksOf bs) := by simpa using hperm
  obtain ⟨j, hj, rfl, -⟩ := next_chunk hne hperm₀
  simp only [List.map_cons, List.length_cons, Nat.add_sub_cancel, List.cons.injEq] at hfirst
  set s₁ := (appendObjectData s orgID objectType objectID c.dataReader c.dataLength c.offset
      c.total c.isFirstChunk c.isLastChunk).2
  have hres : appendObjectData s orgID objectType objectID c.dataReader c.dataLength c.offset
      c.total c.isFirstChunk c.isLastChunk = (.ok (), s₁) :=
    Prod.ext (hok _ (List.mem_cons_self _ _)) rfl
  have hf₀ : Frontier bs (fun i => (pos bs i, block bs i) ∈ ([] : List (Int × Bytes)))
      (createObjectCollectionID orgID objectType objectID)
      (createFile (createObjectCollectionID orgID objectType objectID)) 0 :=
    frontier_createFile (by simp) _
  obtain ⟨fh', k', hf', hend⟩ := appendObjectData_step hne hc hj (by simp)
    (by simp [openUpload, hfirst.1]) hf₀ hres
  rcases lastFlags_cons hlast with ⟨rfl, hl⟩ | ⟨hcs, hl, hlast'⟩
  · rw [hl] at hend
    obtain rfl : todo' = [] := by cases hrest; rfl
    have hall := hf'.eq_length fun i hi => arrived_of_last hne hj (by simpa using hperm) i hi
    subst hall
    simpa [Published, appendRun] using hend
  · rw [hl] at hend
    exact appendRun_tail hne cs todo' [(pos bs j, block bs j)] _ fh' k' hrest (by simpa using hperm)
      hcs (by simpa using hfirst.2) hlast' (fun r hr => hok r (List.mem_cons_of_mem _ hr))
      (by simpa using hend) (hf'.congr fun i => by
        simpa using (arrived_append hne hj i : _ ↔ _ ∈ ([] : List (Int × Bytes)) ++ _))

end Run

/-- Dropping the calls that returned `Discarded` changes neither the final store nor the
results of the others. -/
theorem appendRun_succeeded {orgID objectType objectID : String} :
    ∀ (calls : List AppendCall) (s : MongoStorage),
      (∀ r ∈ (appendRun orgID objectType objectID s calls).1,
        r = .ok () ∨ ∃ m, r = .error (.discarded m)) →
      let kept := succeeded calls (appendRun orgID objectType objectID s calls).1
      (appendRun orgID objectType objectID s kept).2 = (appendRun orgID objectType objectID s calls).2 ∧
        ∀ r ∈ (appendRun orgID objectType objectID s kept).1, r = .ok () := by
  intro calls
  induction calls with
  | nil => intro s _; simp [succeeded, appendRun]
  | cons c cs ih =>
    intro s hres
    rcases hres _ (List.mem_cons_self _ _) with hr | ⟨m, hr⟩
    · obtain ⟨h1, h2⟩ := ih _ fun r h => hres r (List.mem_cons_of_mem _ h)
      simp only [appendRun, succeeded, List.zip_cons_cons, List.filterMap_cons, hr, ↓reduceIte]
        at h1 h2 ⊢
      exact ⟨h1, by simpa [hr] using h2⟩
    · have hs := (appendObjectData_discarded (Prod.ext hr rfl)).2
      obtain ⟨h1, h2⟩ := ih s fun r h => hres r (by simp [appendRun, hs, h])
      simpa [appendRun, succeeded, hr, hs] using And.intro h1 h2

/-- **Chunked uploads reassemble in any order.**  A call that returns `Discarded` leaves the
store as it was.  And for every partition of a payload into non-empty blocks `bs` and every
order of its chunks: when the calls of an upload that succeed hand over the chunks in that
order, the first of them carrying the first-chunk flag and only the last of them the
last-chunk flag, and every other call was `Discarded`, the upload publishes exactly the
blocks in order and leaves no handle in `openFiles`. -/
theorem appendObjectData_reassembles (orgID objectType objectID : String) :
    (∀ (s s' : MongoStorage) dataReader dataLength offset total first last message,
      appendObjectData s orgID objectType objectID dataReader dataLength offset total first last =
        (.error (.discarded message), s') → s' = s) ∧
    ∀ (s : MongoStorage) (calls : List AppendCall) (bs : List Bytes) (order : List (Int × Bytes)),
      (∀ b ∈ bs, b ≠ []) →
      (∀ r ∈ (appendRun orgID objectType objectID s calls).1,
        r = .ok () ∨ ∃ m, r = .error (.discarded m)) →
      let kept := succeeded calls (appendRun orgID objectType objectID s calls).1
      List.Forall₂ (fun c ch => c.chunk = .ok ch) kept order → order.Perm (chunksOf bs) →
      kept ≠ [] → kept.map (·.isFirstChunk) = true :: List.replicate (kept.length - 1) false →
      kept.map (·.isLastChunk) = List.replicate (kept.length - 1) false ++ [true] →
      Published bs (createObjectCollectionID orgID objectType objectID)
        (appendRun orgID objectType objectID s calls).2 := by
  refine ⟨fun _ _ _ _ _ _ _ _ _ h => (appendObjectData_discarded h).2, ?_⟩
  intro s calls bs order hne hres kept hchunks hperm hkept hfirst hlast
  obtain ⟨hstate, hok⟩ := appendRun_succeeded calls s hres
  rw [← hstate]
  exact appendRun_published hne hchunks hperm hkept hfirst hlast hok

/-- Scenario 2 of the specification: the chunks `[A,B,C,D]`, `[I,J,K,L]` and `[E,F,G,H]`
at the offsets 0, 8 and 4. -/
theorem appendObjectData_reassembles_scenario :
    Published [[65, 66, 67, 68], [69, 70, 71, 72], [73, 74, 75, 76]] "O:T:X"
      (appendRun "O" "T" "X" MongoStorage.empty
        [⟨[65, 66, 67, 68], 4, 0, 12, true, false⟩, ⟨[73, 74, 75, 76], 4, 8, 12, false, false⟩,
          ⟨[69, 70, 71, 72], 4, 4, 12, false, true⟩]).2 :=
  (appendObjectData_reassembles "O" "T" "X").2 _ _ _
    [(0, [65, 66, 67, 68]), (8, [73, 74, 75, 76]), (4, [69, 70, 71, 72])] (by decide)
    (fun r hr => Or.inl ((by decide : ∀ r ∈ (appendRun "O" "T" "X" MongoStorage.empty
      [⟨[65, 66, 67, 68], 4, 0, 12, true, false⟩, ⟨[73, 74, 75, 76], 4, 8, 12, false, false⟩,
        ⟨[69, 70, 71, 72], 4, 4, 12, false, true⟩]).1, r = .ok ()) r hr))
    (by decide) (by decide) (by decide) (by decide) (by decide)

end MongoStorage

end EdgeSync
