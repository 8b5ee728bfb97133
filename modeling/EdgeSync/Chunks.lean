import EdgeSync.Common

/-!
# Partitions of a byte range into chunks

A payload of `total` bytes that travels in chunks is split into blocks `bs`: the chunks
of the partition of `[0, total)` they form.  Block `j` sits at offset `pos bs j`, the length
of the blocks before it, and `chunksOf bs` lists each block with its offset.  The uploads of
both payload back ends receive these chunks in any order.
-/

namespace EdgeSync

/-- The arguments of one call of a chunked upload, to `AppendObjectData` or to `AppendData`. -/
structure AppendCall where
  dataReader : Bytes
  dataLength : UInt32
  offset : Int
  total : Int
  isFirstChunk : Bool
  isLastChunk : Bool
deriving DecidableEq

/-- Block `j` of `bs` (empty past the end). -/
def block (bs : List Bytes) (j : ℕ) : Bytes := bs.getD j []

/-- The offset of block `j`: the number of bytes in the blocks before it. -/
def pos (bs : List Bytes) (j : ℕ) : Int := ((bs.take j).flatten.length : Int)

/-- The chunks of the partition `bs`, each with its offset, from offset `o` on. -/
def chunksFrom : Int → List Bytes → List (Int × Bytes)
  | _, [] => []
  | o, b :: bs => (o, b) :: chunksFrom (o + b.length) bs

/-- The chunks of the partition of `[0, bs.flatten.length)` into the blocks `bs`. -/
def chunksOf (bs : List Bytes) : List (Int × Bytes) := chunksFrom 0 bs

variable {bs : List Bytes}

theorem block_eq_getElem {j : ℕ} (h : j < bs.length) : block bs j = bs[j] := by
  simp [block, List.getD_eq_getElem?_getD, h]

theorem take_succ_flatten {j : ℕ} (h : j < bs.length) :
    (bs.take (j + 1)).flatten = (bs.take j).flatten ++ block bs j := by
  rw [List.take_succ, List.getElem?_eq_getElem h, List.flatten_append, block_eq_getElem h]
  simp

theorem pos_succ {j : ℕ} (h : j < bs.length) : pos bs (j + 1) = pos bs j + (block bs j).length := by
  simp [pos, take_succ_flatten h]

section Nonempty

variable (hne : ∀ b ∈ bs, b ≠ [])
include hne

theorem pos_lt_pos {i j : ℕ} (hij : i < j) (hj : j ≤ bs.length) : pos bs i < pos bs j := by
  induction j with
  | zero => omega
  | succ j ih =>
    have hb : (block bs j).length ≠ 0 := by
      rw [block_eq_getElem (by omega)]
      simpa using hne _ (List.getElem_mem (by omega : j < bs.length))
    rw [pos_succ (by omega)]
    rcases Nat.lt_succ_iff_lt_or_eq.mp hij with h | rfl
    · have := ih h (by omega); omega
    · omega

theorem pos_inj {i j : ℕ} (hi : i ≤ bs.length) (hj : j ≤ bs.length) (h : pos bs i = pos bs j) :
    i = j := by
  rcases lt_trichotomy i j with hij | rfl | hij
  · exact absurd h (pos_lt_pos hne hij hj).ne
  · rfl
  · exact absurd h (pos_lt_pos hne hij hi).ne'

end Nonempty

theorem mem_chunksFrom {o : Int} {ch : Int × Bytes} :
    ch ∈ chunksFrom o bs ↔ ∃ j < bs.length, ch = (o + pos bs j, block bs j) := by
  induction bs generalizing o with
  | nil => simp [chunksFrom]
  | cons b bs ih =>
    simp only [chunksFrom, List.mem_cons, ih, List.length_cons]
    constructor
    · rintro (rfl | ⟨j, hj, rfl⟩)
      · exact ⟨0, by omega, by simp [pos, block]⟩
      · refine ⟨j + 1, by omega, ?_⟩
        simp [pos, block, Int.add_assoc]
    · rintro ⟨j, hj, rfl⟩
      cases j with
      | zero => exact Or.inl (by simp [pos, block])
      | succ j => exact Or.inr ⟨j, by omega, by simp [pos, block, Int.add_assoc]⟩

theorem mem_chunksOf {ch : Int × Bytes} :
    ch ∈ chunksOf bs ↔ ∃ j < bs.length, ch = (pos bs j, block bs j) := by
  simp [chunksOf, mem_chunksFrom]

theorem chunksOf_nodup (hne : ∀ b ∈ bs, b ≠ []) : (chunksOf bs).Nodup := by
  suffices ∀ o, (chunksFrom o bs).Nodup from this 0
  induction bs with
  | nil => simp [chunksFrom]
  | cons b bs ih =>
    intro o
    refine List.nodup_cons.mpr ⟨fun hmem => ?_, ih (fun c hc => hne c (by simp [hc])) _⟩
    obtain ⟨j, -, hj⟩ := mem_chunksFrom.mp hmem
    have : (0 : Int) ≤ pos bs j := by unfold pos; omega
    have hb : b.length ≠ 0 := by simpa using hne b (by simp)
    have := congrArg Prod.fst hj
    simp only at this
    omega

end EdgeSync
