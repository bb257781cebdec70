import Mathlib.Data.List.Basic

/-!
# Scatter/gather vectors (`src/api.c:140-292`)

Model of the iovec helpers of `api.c`: `tcmu_iovec_length`, `tcmu_seek_in_iovec`,
`tcmu_seek_in_cmd_iovec`, `tcmu_memcpy_into_iovec` and `tcmu_memcpy_from_iovec`.

A buffer is a function from offsets to bytes (`Nat → UInt8`), and `memcpy` is `memcpy` on such
functions, so no statement carries a length side condition. A `struct iovec` is the window
`[iov_base, iov_base + iov_len)` of a buffer. Each segment points into a buffer of its own
(`Iovec.mem`), as the kernel's data area hands them out, and the flat source or destination of a
copy is a buffer of its own: nothing here aliases. The pair `(iovec, iov_cnt)` a function receives
is the list of its `iov_cnt` segments. A command keeps the array and the count apart
(`TcmulibCmd`), because `tcmu_seek_in_cmd_iovec` updates the count and not the pointer.

* `tcmu_seek_in_iovec` reads past the array when `count` exceeds the total length; the model
  returns `none` there, so "it returns" means "it stayed inside the array".
* The loops of the two copies carry the source's `copied` accumulator.

Results:
* **`memcpy_iovec_transfers`**: both copies move `min len total` bytes, the leading ones of the
  concatenation, write nothing else, and consume exactly those bytes from the descriptors.
* **`seek_in_iovec_drops_count`**: a seek of at most the total length stays in the array and
  returns the number `k` of segments it passed, which the prefix sums of the lengths fix; it
  empties them and leaves the rest describing the concatenation minus `count` bytes.
* **`seekInCmdIovec_loses_tail`**: after a seek that passes a whole segment, the pair
  `(cmd->iovec, cmd->iov_cnt)` no longer describes the bytes left: the count drops the segments
  passed, the pointer still points at them, so the last segments fall off the end.
-/

namespace TcmuRunner

/-! ## Buffers -/

/-- `memcpy(dst + d, src + s, n)`. -/
def memcpy (dst : Nat → UInt8) (d : Nat) (src : Nat → UInt8) (s n : Nat) : Nat → UInt8 :=
  fun a => if d ≤ a ∧ a < d + n then src (s + (a - d)) else dst a

theorem memcpy_frame {dst src : Nat → UInt8} {d s n a : Nat} (h : a < d ∨ d + n ≤ a) :
    memcpy dst d src s n a = dst a :=
  if_neg (by omega)

@[simp] theorem memcpy_zero (dst : Nat → UInt8) (d : Nat) (src : Nat → UInt8) (s : Nat) :
    memcpy dst d src s 0 = dst :=
  funext fun _ => memcpy_frame (by omega)

theorem map_memcpy_range' (dst : Nat → UInt8) (d : Nat) (src : Nat → UInt8) (s n : Nat) :
    (List.range' d n).map (memcpy dst d src s n) = (List.range' s n).map src := by
  rw [List.range'_eq_map_range, List.range'_eq_map_range, List.map_map, List.map_map]
  refine List.map_congr_left fun i hi => ?_
  have hi : i < n := List.mem_range.mp hi
  simp only [Function.comp, memcpy, if_pos (show d ≤ d + i ∧ d + i < d + n by omega),
    Nat.add_sub_cancel_left]

theorem range'_drop (s n k : Nat) : (List.range' s n).drop k = List.range' (s + k) (n - k) := by
  rcases Nat.lt_or_ge n k with h | h
  · rw [List.drop_eq_nil_of_le (by simp; omega), Nat.sub_eq_zero_of_le h.le]; rfl
  · obtain ⟨j, rfl⟩ : ∃ j, n = j + k := ⟨n - k, by omega⟩
    rw [← List.range'_append_1, List.drop_left' (List.length_range' _ _ _), Nat.add_sub_cancel]

/-- Reading `l` at `s, s + 1, …` is taking a slice of it. -/
theorem map_getD_range' {α : Type} (l : List α) (d : α) {s n : Nat} (h : s + n ≤ l.length) :
    (List.range' s n).map (fun i => l.getD i d) = (l.drop s).take n := by
  induction n generalizing s with
  | zero => simp
  | succ n ih =>
    have hs : l.drop s = l[s] :: l.drop (s + 1) := List.drop_eq_getElem_cons (by omega)
    rw [List.range'_succ, List.map_cons, ih (by omega), hs, List.take_succ_cons,
      List.getD_eq_getElem?_getD, List.getElem?_eq_getElem (by omega), Option.getD_some]

/-- `(l₁ ++ l₂).drop (k + c)` when the first `k` stay inside `l₁` and `c` only starts once `l₁`
is used up: how a copy that fills one segment continues into the next. -/
theorem drop_append_split {α : Type} (l₁ l₂ : List α) {k c : Nat} (hk : k ≤ l₁.length)
    (h : k = l₁.length ∨ c = 0) : (l₁ ++ l₂).drop (k + c) = l₁.drop k ++ l₂.drop c := by
  rcases h with rfl | rfl
  · simp [List.drop_append]
  · rw [Nat.add_zero, List.drop_append_of_le_length hk, List.drop_zero]

theorem take_append_split {α : Type} (l₁ l₂ : List α) {k c : Nat} (hk : k ≤ l₁.length)
    (h : k = l₁.length ∨ c = 0) : (l₁ ++ l₂).take (k + c) = l₁.take k ++ l₂.take c := by
  rcases h with rfl | rfl
  · simp [List.take_append]
  · rw [Nat.add_zero, List.take_append_of_le_length hk, List.take_zero, List.append_nil]

/-! ## Segments -/

/-- A `struct iovec`: the window `[base, base + len)` of the buffer `mem`. -/
structure Iovec where
  /-- The buffer the segment points into. -/
  mem : Nat → UInt8
  /-- `iov_base`, as an offset into `mem`. -/
  base : Nat
  /-- `iov_len`. -/
  len : Nat

namespace Iovec

/-- The bytes the segment describes. -/
def data (v : Iovec) : List UInt8 := (List.range' v.base v.len).map v.mem

/-- `iov_base += k; iov_len -= k`. -/
def advance (v : Iovec) (k : Nat) : Iovec := { v with base := v.base + k, len := v.len - k }

/-- `memcpy(iov_base, src + s, k)`. -/
def store (v : Iovec) (src : Nat → UInt8) (s k : Nat) : Iovec :=
  { v with mem := memcpy v.mem v.base src s k }

@[simp] theorem length_data (v : Iovec) : v.data.length = v.len := by simp [data]

theorem data_advance (v : Iovec) (k : Nat) : (v.advance k).data = v.data.drop k := by
  simp only [data, advance, ← List.map_drop, range'_drop]

theorem data_store (v : Iovec) (src : Nat → UInt8) (s : Nat) {k : Nat} (hk : k ≤ v.len) :
    (v.store src s k).data = (List.range' s k).map src ++ v.data.drop k := by
  obtain ⟨j, hj⟩ : ∃ j, v.len = j + k := ⟨v.len - k, by omega⟩
  have hrest : v.data.drop k = (List.range' (v.base + k) j).map v.mem := by
    rw [data, ← List.map_drop, range'_drop, hj, Nat.add_sub_cancel]
  rw [hrest]
  show (List.range' v.base v.len).map (memcpy v.mem v.base src s k) = _
  rw [hj, ← List.range'_append_1, List.map_append, map_memcpy_range']
  congr 1
  refine List.map_congr_left fun a ha => memcpy_frame ?_
  rw [List.mem_range'_1] at ha
  omega

theorem data_take (v : Iovec) {k : Nat} (hk : k ≤ v.len) :
    v.data.take k = (List.range' v.base k).map v.mem := by
  obtain ⟨j, hj⟩ : ∃ j, v.len = j + k := ⟨v.len - k, by omega⟩
  rw [data, hj, ← List.range'_append_1, List.map_append, List.take_left' (by simp)]

@[simp] theorem advance_zero (v : Iovec) : v.advance 0 = v := rfl

theorem data_advance_store (v : Iovec) (src : Nat → UInt8) (s : Nat) {k : Nat} (hk : k ≤ v.len) :
    ((v.store src s k).advance k).data = v.data.drop k := by
  rw [data_advance, data_store v src s hk, List.drop_left' (by simp)]

@[simp] theorem with_mem_advance_store (v : Iovec) (src : Nat → UInt8) (s k : Nat) :
    { v with mem := ((v.store src s k).advance k).mem } = v.store src s k := rfl

@[simp] theorem store_zero (v : Iovec) (src : Nat → UInt8) (s : Nat) : v.store src s 0 = v := by
  simp [store]

end Iovec

/-- The bytes a list of segments describes, segment after segment. -/
def flat (iovec : List Iovec) : List UInt8 := iovec.flatMap Iovec.data

@[simp] theorem flat_nil : flat [] = [] := rfl

@[simp] theorem flat_cons (v : Iovec) (vs : List Iovec) : flat (v :: vs) = v.data ++ flat vs :=
  List.flatMap_cons _ _ _

/-- The windows of `iovec` read in the buffers of `iovec'`: where a copy into the segments put
its bytes, seen through the descriptors as they were before the copy. -/
def windowsOver (iovec iovec' : List Iovec) : List Iovec :=
  List.zipWith (fun v v' => { v with mem := v'.mem }) iovec iovec'

@[simp] theorem windowsOver_nil (iovec' : List Iovec) : windowsOver [] iovec' = [] := rfl

@[simp] theorem windowsOver_cons (v v' : Iovec) (vs vs' : List Iovec) :
    windowsOver (v :: vs) (v' :: vs') = { v with mem := v'.mem } :: windowsOver vs vs' := rfl

@[simp] theorem windowsOver_self (iovec : List Iovec) : windowsOver iovec iovec = iovec := by
  induction iovec with
  | nil => rfl
  | cons v vs ih => simp [ih]

/-- `tcmu_iovec_length` (`api.c:172-183`). -/
def tcmuIovecLength : List Iovec → Nat
  | [] => 0
  | v :: vs => v.len + tcmuIovecLength vs

@[simp] theorem length_flat (iovec : List Iovec) : (flat iovec).length = tcmuIovecLength iovec := by
  induction iovec with
  | nil => rfl
  | cons v vs ih => simp [tcmuIovecLength, ih]

/-- `tcmu_zero_iovec` (`api.c:222-230`): `bzero` every segment. -/
def tcmuZeroIovec (iovec : List Iovec) : List Iovec :=
  iovec.map fun v => { v with mem := memcpy v.mem v.base (fun _ => 0) 0 v.len }

/-- `tcmu_zero_iovec` zeroes exactly the bytes the iovec describes. -/
theorem flat_tcmuZeroIovec (iovec : List Iovec) :
    flat (tcmuZeroIovec iovec) = List.replicate (tcmuIovecLength iovec) 0 := by
  induction iovec with
  | nil => rfl
  | cons v vs ih =>
    simp only [tcmuZeroIovec, List.map_cons, flat_cons, tcmuIovecLength, List.replicate_add] at ih ⊢
    rw [ih, Iovec.data, map_memcpy_range', List.map_const', List.length_range']

/-! ## Copying into and out of the segments -/

/-- The loop of `tcmu_memcpy_into_iovec` (`api.c:245-259`): `len` bytes still to copy from `src`,
`copied` copied so far. -/
def memcpyIntoLoop (src : Nat → UInt8) : List Iovec → Nat → Nat → List Iovec × Nat
  | [], _, copied => ([], copied)
  | v :: vs, len, copied =>
    if len = 0 then (v :: vs, copied)
    else
      let toCopy := min v.len len
      let v' := if toCopy ≠ 0 then (v.store src copied toCopy).advance toCopy else v
      let r := memcpyIntoLoop src vs (len - toCopy) (copied + toCopy)
      (v' :: r.1, r.2)

/-- `tcmu_memcpy_into_iovec(iovec, iov_cnt, src, len)` (`api.c:237-262`): the segments as the
copy leaves them, and the bytes copied. -/
def tcmuMemcpyIntoIovec (iovec : List Iovec) (src : Nat → UInt8) (len : Nat) : List Iovec × Nat :=
  memcpyIntoLoop src iovec len 0

/-- The loop of `tcmu_memcpy_from_iovec` (`api.c:275-289`). -/
def memcpyFromLoop : (Nat → UInt8) → List Iovec → Nat → Nat → (Nat → UInt8) × List Iovec × Nat
  | dest, [], _, copied => (dest, [], copied)
  | dest, v :: vs, len, copied =>
    if len = 0 then (dest, v :: vs, copied)
    else
      let toCopy := min v.len len
      let dest' := if toCopy ≠ 0 then memcpy dest copied v.mem v.base toCopy else dest
      let v' := if toCopy ≠ 0 then v.advance toCopy else v
      let r := memcpyFromLoop dest' vs (len - toCopy) (copied + toCopy)
      (r.1, v' :: r.2.1, r.2.2)

/-- `tcmu_memcpy_from_iovec(dest, len, iovec, iov_cnt)` (`api.c:267-292`): `dest` and the
segments as the copy leaves them, and the bytes copied. -/
def tcmuMemcpyFromIovec (dest : Nat → UInt8) (len : Nat) (iovec : List Iovec) :
    (Nat → UInt8) × List Iovec × Nat :=
  memcpyFromLoop dest iovec len 0

/-- How far one pass of either loop goes: `toCopy = min iov_len len` bytes of the segment, and
the rest of the copy continues in the next segment only once this one is used up. -/
theorem memcpyIntoLoop_spec (src : Nat → UInt8) (iovec : List Iovec) (len copied : Nat) :
    let r := memcpyIntoLoop src iovec len copied
    let c := min len (tcmuIovecLength iovec)
    r.2 = copied + c ∧
      flat (windowsOver iovec r.1) = (List.range' copied c).map src ++ (flat iovec).drop c ∧
      flat r.1 = (flat iovec).drop c := by
  induction iovec generalizing len copied with
  | nil => simp [memcpyIntoLoop, tcmuIovecLength]
  | cons v vs ih =>
    by_cases hlen : len = 0
    · simp [memcpyIntoLoop, hlen]
    obtain ⟨ih₁, ih₂, ih₃⟩ := ih (len - min v.len len) (copied + min v.len len)
    have hv : (if min v.len len ≠ 0 then (v.store src copied (min v.len len)).advance
        (min v.len len) else v) = (v.store src copied (min v.len len)).advance (min v.len len) :=
      ite_eq_left_iff.mpr fun h => by rw [not_not.mp h, Iovec.store_zero, Iovec.advance_zero]
    have hc : min len (tcmuIovecLength (v :: vs)) =
        min v.len len + min (len - min v.len len) (tcmuIovecLength vs) := by
      simp only [tcmuIovecLength]; omega
    have hk : min v.len len ≤ v.len := by omega
    have hsplit : min v.len len = v.data.length ∨
        min (len - min v.len len) (tcmuIovecLength vs) = 0 := by simp; omega
    simp only [memcpyIntoLoop, hlen, if_false, hv, hc, ih₁, windowsOver_cons, flat_cons, ih₂, ih₃,
      Iovec.with_mem_advance_store, Iovec.data_store v src copied hk,
      Iovec.data_advance_store v src copied hk,
      drop_append_split v.data (flat vs) (v.length_data.symm ▸ hk) hsplit]
    generalize min v.len len = k at *
    generalize min (len - k) (tcmuIovecLength vs) = c' at *
    refine ⟨by omega, ?_, trivial⟩
    rw [Nat.add_comm k c', ← List.range'_append_1, List.map_append]
    rcases hsplit with h | h
    · rw [h, List.drop_length]; simp
    · simp [h]

theorem memcpyFromLoop_spec (dest : Nat → UInt8) (iovec : List Iovec) (len copied : Nat) :
    let r := memcpyFromLoop dest iovec len copied
    let c := min len (tcmuIovecLength iovec)
    r.2.2 = copied + c ∧ (List.range' copied c).map r.1 = (flat iovec).take c ∧
      (∀ a, a < copied ∨ copied + c ≤ a → r.1 a = dest a) ∧ flat r.2.1 = (flat iovec).drop c := by
  induction iovec generalizing dest len copied with
  | nil => simp [memcpyFromLoop, tcmuIovecLength]
  | cons v vs ih =>
    by_cases hlen : len = 0
    · simp [memcpyFromLoop, hlen]
    have hd : (if min v.len len ≠ 0 then memcpy dest copied v.mem v.base (min v.len len) else dest)
        = memcpy dest copied v.mem v.base (min v.len len) :=
      ite_eq_left_iff.mpr fun h => by rw [not_not.mp h, memcpy_zero]
    have hv : (if min v.len len ≠ 0 then v.advance (min v.len len) else v)
        = v.advance (min v.len len) :=
      ite_eq_left_iff.mpr fun h => by rw [not_not.mp h, Iovec.advance_zero]
    obtain ⟨ih₁, ih₂, ih₃, ih₄⟩ :=
      ih (memcpy dest copied v.mem v.base (min v.len len)) (len - min v.len len)
        (copied + min v.len len)
    have hc : min len (tcmuIovecLength (v :: vs)) =
        min v.len len + min (len - min v.len len) (tcmuIovecLength vs) := by
      simp only [tcmuIovecLength]; omega
    have hk : min v.len len ≤ v.len := by omega
    have hsplit : min v.len len = v.data.length ∨
        min (len - min v.len len) (tcmuIovecLength vs) = 0 := by simp; omega
    simp only [memcpyFromLoop, hlen, if_false, hd, hv, hc, flat_cons, Iovec.data_advance, ih₄,
      drop_append_split v.data (flat vs) (v.length_data.symm ▸ hk) hsplit,
      take_append_split v.data (flat vs) (v.length_data.symm ▸ hk) hsplit, v.data_take hk]
    generalize min v.len len = k at *
    generalize min (len - k) (tcmuIovecLength vs) = c' at *
    refine ⟨by omega, ?_, fun a ha => ?_, trivial⟩
    · rw [Nat.add_comm k c', ← List.range'_append_1, List.map_append, ih₂,
        ← map_memcpy_range' dest copied v.mem v.base k]
      congr 1
      exact List.map_congr_left fun a ha => ih₃ a (by rw [List.mem_range'_1] at ha; omega)
    · rw [ih₃ a (by omega), memcpy_frame (by omega)]

/-- The head of the segments after a copy of `len` bytes: the first `k` bytes of `src`, for any
`k` the copy reaches. -/
theorem take_flat_memcpyInto {iovec : List Iovec} {len k : Nat} (src : Nat → UInt8)
    (hk : k ≤ len) (hl : k ≤ tcmuIovecLength iovec) :
    (flat (windowsOver iovec (tcmuMemcpyIntoIovec iovec src len).1)).take k =
      (List.range k).map src := by
  obtain ⟨-, h₂, -⟩ := memcpyIntoLoop_spec src iovec len 0
  simp only [tcmuMemcpyIntoIovec, h₂, ← List.range_eq_range']
  rw [List.take_append_of_le_length (by simp; omega), ← List.map_take, List.take_range,
    Nat.min_eq_left (by omega)]

/-- Byte `k` of what a copy into the segments delivers, for `k` below both lengths. -/
theorem getD_flat_memcpyInto {iovec : List Iovec} {len k : Nat} (src : Nat → UInt8)
    (hk : k < len) (hl : k < tcmuIovecLength iovec) :
    (flat (windowsOver iovec (tcmuMemcpyIntoIovec iovec src len).1)).getD k 0 = src k := by
  rw [List.getD_eq_getElem?_getD, ← List.getElem?_take_of_lt (Nat.lt_succ_self k),
    take_flat_memcpyInto src hk hl]
  simp

/-- Where a copy out of the segments wrote, `dest` holds the concatenation. -/
theorem tcmuMemcpyFromIovec_fst {iovec : List Iovec} {len i : Nat} (dest : Nat → UInt8)
    (hi : i < min len (tcmuIovecLength iovec)) :
    (tcmuMemcpyFromIovec dest len iovec).1 i = (flat iovec).getD i 0 := by
  obtain ⟨-, h₂, -, -⟩ := memcpyFromLoop_spec dest iovec len 0
  have := congrArg (fun l => l.getD i 0) h₂
  simp only [List.getD_eq_getElem?_getD, List.getElem?_map, List.getElem?_range' _ _ hi,
    List.getElem?_take_of_lt hi] at this
  simpa using this

/-- What a copy out of the segments leaves in `dest`: the concatenation below the count copied,
what `dest` held from there on. -/
theorem tcmuMemcpyFromIovec_fst_eq (dest : Nat → UInt8) (len : Nat) (iovec : List Iovec)
    (i : Nat) : (tcmuMemcpyFromIovec dest len iovec).1 i =
      if i < min len (tcmuIovecLength iovec) then (flat iovec).getD i 0 else dest i := by
  split
  · exact tcmuMemcpyFromIovec_fst dest ‹_›
  · exact (memcpyFromLoop_spec dest iovec len 0).2.2.1 i (.inr (by omega))

/-- **Both copies transfer `min len total` bytes.** `tcmu_memcpy_into_iovec` returns that count,
writes the leading bytes of `src` over the leading bytes of the concatenation and leaves every
other byte of the segments as it was, and advances the descriptors past what it wrote;
`tcmu_memcpy_from_iovec` returns the same count, fills the head of `dest` with the leading bytes
of the concatenation, leaves the rest of `dest` alone, and advances the descriptors past what it
read. -/
theorem memcpy_iovec_transfers (iovec : List Iovec) (src dest : Nat → UInt8) (len : Nat) :
    let c := min len (tcmuIovecLength iovec)
    let into := tcmuMemcpyIntoIovec iovec src len
    let out := tcmuMemcpyFromIovec dest len iovec
    (into.2 = c ∧ flat (windowsOver iovec into.1) = (List.range c).map src ++ (flat iovec).drop c ∧
        flat into.1 = (flat iovec).drop c) ∧
      (out.2.2 = c ∧ (List.range c).map out.1 = (flat iovec).take c ∧
        (∀ a, c ≤ a → out.1 a = dest a) ∧ flat out.2.1 = (flat iovec).drop c) := by
  obtain ⟨i₁, i₂, i₃⟩ := memcpyIntoLoop_spec src iovec len 0
  obtain ⟨o₁, o₂, o₃, o₄⟩ := memcpyFromLoop_spec dest iovec len 0
  simp only [Nat.zero_add, ← List.range_eq_range'] at i₁ i₂ o₁ o₂ o₃
  exact ⟨⟨i₁, i₂, i₃⟩, o₁, o₂, fun a ha => o₃ a (.inr ha), o₄⟩

/-! ## Seeking -/

/-- `tcmu_seek_in_iovec` (`api.c:143-161`): the segments as the seek leaves them and the number
of segments it passed over; `none` when `count` runs past the end of the array. -/
def tcmuSeekInIovec : List Iovec → Nat → Option (List Iovec × Nat)
  | iovec, 0 => some (iovec, 0)
  | [], _ + 1 => none
  | v :: vs, count + 1 =>
    if count + 1 ≥ v.len then
      (tcmuSeekInIovec vs (count + 1 - v.len)).map fun r => ({ v with len := 0 } :: r.1, r.2 + 1)
    else some (v.advance (count + 1) :: vs, 0)

/-- **`tcmu_seek_in_iovec` drops `count` bytes.** For a `count` at most the total length the seek
stays inside the array and returns the number `k` of segments it passed: it passes a segment only
while bytes are left to skip, and only one no longer than what is left, and it stops with nothing
left or inside segment `k`. The segments it passed are emptied, and those from `k` on describe the
concatenation with its first `count` bytes dropped. -/
theorem seek_in_iovec_drops_count : ∀ (iovec : List Iovec) {count : Nat},
    count ≤ tcmuIovecLength iovec → ∃ iovec' k, tcmuSeekInIovec iovec count = some (iovec', k) ∧
      iovec'.length = iovec.length ∧ k ≤ iovec.length ∧
      tcmuIovecLength (iovec.take k) ≤ count ∧ (∀ j < k, tcmuIovecLength (iovec.take j) < count) ∧
      (count = tcmuIovecLength (iovec.take k) ∨ count < tcmuIovecLength (iovec.take (k + 1))) ∧
      (∀ v ∈ iovec'.take k, v.len = 0) ∧ flat (iovec'.drop k) = (flat iovec).drop count
  | iovec, 0, _ => ⟨iovec, 0, by cases iovec <;> rfl, rfl, Nat.zero_le _, by simp [tcmuIovecLength],
      nofun, .inl rfl, by simp, by simp⟩
  | [], _ + 1, h => absurd h (by simp [tcmuIovecLength])
  | v :: vs, count + 1, h => by
    unfold tcmuSeekInIovec
    split
    · have hv : v.len ≤ count + 1 := by assumption
      obtain ⟨iovec', k, hs, hl, hk, hsum, hpos, hstop, hz, hd⟩ :=
        seek_in_iovec_drops_count vs (show count + 1 - v.len ≤ tcmuIovecLength vs by
          simp only [tcmuIovecLength] at h; omega)
      refine ⟨{ v with len := 0 } :: iovec', k + 1, by rw [hs]; rfl, by simp [hl], by simp; omega,
        ?_, fun j hj => ?_, ?_, fun w hw => ?_, ?_⟩
      · simp only [List.take_succ_cons, tcmuIovecLength]; omega
      · cases j with
        | zero => simp [tcmuIovecLength]
        | succ j => simp only [List.take_succ_cons, tcmuIovecLength]; have := hpos j (by omega); omega
      · simp only [List.take_succ_cons, tcmuIovecLength]; omega
      · rcases List.mem_cons.mp (List.take_succ_cons ▸ hw) with rfl | hw
        · rfl
        · exact hz w hw
      · rw [List.drop_succ_cons, hd, flat_cons, List.drop_append_eq_append_drop,
          List.drop_eq_nil_of_le (show v.data.length ≤ count + 1 by simpa using hv), List.nil_append,
          Iovec.length_data]
    · refine ⟨v.advance (count + 1) :: vs, 0, rfl, rfl, Nat.zero_le _, by simp [tcmuIovecLength],
        nofun, .inr (by simp [tcmuIovecLength]; omega), by simp, ?_⟩
      rw [List.drop_zero, flat_cons, flat_cons, Iovec.data_advance,
        List.drop_append_of_le_length (by simp; omega)]

/-- Seeking two bytes into two segments of two and three bytes passes the first. -/
theorem seek_in_iovec_two_segments :
    2 ≤ tcmuIovecLength [⟨fun _ => 1, 0, 2⟩, ⟨fun _ => 2, 0, 3⟩] ∧
      ∃ iovec' k, tcmuSeekInIovec [⟨fun _ => 1, 0, 2⟩, ⟨fun _ => 2, 0, 3⟩] 2 = some (iovec', k) ∧
        iovec'.length = 2 ∧ k ≤ 2 ∧
        tcmuIovecLength ([⟨fun _ => 1, 0, 2⟩, ⟨fun _ => 2, 0, 3⟩].take k) ≤ 2 ∧
        (∀ j < k, tcmuIovecLength ([⟨fun _ => 1, 0, 2⟩, ⟨fun _ => 2, 0, 3⟩].take j) < 2) ∧
        (2 = tcmuIovecLength ([⟨fun _ => 1, 0, 2⟩, ⟨fun _ => 2, 0, 3⟩].take k) ∨
          2 < tcmuIovecLength ([⟨fun _ => 1, 0, 2⟩, ⟨fun _ => 2, 0, 3⟩].take (k + 1))) ∧
        (∀ v ∈ iovec'.take k, v.len = 0) ∧
        flat (iovec'.drop k) = (flat [⟨fun _ => 1, 0, 2⟩, ⟨fun _ => 2, 0, 3⟩]).drop 2 :=
  ⟨by decide, seek_in_iovec_drops_count _ (by decide)⟩

/-- The fields of `struct tcmulib_cmd` a seek uses: the array `iovec` and the count `iov_cnt`. -/
structure TcmulibCmd where
  /-- The segment array `cmd->iovec` points at. -/
  iovec : List Iovec
  /-- `cmd->iov_cnt`. -/
  iovCnt : Nat

/-- `tcmu_seek_in_cmd_iovec` (`api.c:167-170`): `cmd->iov_cnt -= tcmu_seek_in_iovec(cmd->iovec,
count)`. The segments change in place; `cmd->iovec` still points at the first of them. -/
def tcmuSeekInCmdIovec (cmd : TcmulibCmd) (count : Nat) : Option TcmulibCmd :=
  (tcmuSeekInIovec cmd.iovec count).map fun r => { iovec := r.1, iovCnt := cmd.iovCnt - r.2 }

/-- The bytes `(cmd->iovec, cmd->iov_cnt)` describe. -/
def TcmulibCmd.data (cmd : TcmulibCmd) : List UInt8 := flat (cmd.iovec.take cmd.iovCnt)

/-- A command with two segments, of two and of three bytes. -/
def twoSegmentCmd : TcmulibCmd where
  iovec := [⟨fun _ => 1, 0, 2⟩, ⟨fun _ => 2, 0, 3⟩]
  iovCnt := 2

/-- Seeking two bytes into `twoSegmentCmd` passes the first segment: `iov_cnt` drops to one, but
`cmd->iovec` still points at that emptied segment, so the command describes no bytes at all
instead of the three of the second segment. -/
theorem seekInCmdIovec_loses_tail :
    twoSegmentCmd.data = [1, 1, 2, 2, 2] ∧
      (tcmuSeekInCmdIovec twoSegmentCmd 2).map TcmulibCmd.data = some [] :=
  ⟨rfl, rfl⟩

end TcmuRunner
