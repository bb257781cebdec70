import TcmuRunner.Iovec
import TcmuRunner.Scsi.Buf

/-!
# Comparing a buffer with an iovec (`src/api.c:100-138`)

Model of `tcmu_compare_with_iovec`, which the handlers' COMPARE AND WRITE uses: it walks the
segments with a `memcmp` of `part = min(size, iov_len)` bytes each, and at the first segment that
differs rescans it byte by byte for the offset of the first difference. It returns that offset
from the start of `mem`, or `-1` when the `size` bytes agree.

The segments are passed by value and only read: the model returns the offset alone. When `size`
exceeds the total length the loop reads past the array; the model returns `none` there.

What the function is for is a first-mismatch search over the flattened iovec (`mismatch`):
`compareLoop_eq` says the loop computes it, whatever the segmentation, and
**`compare_with_iovec_first_mismatch`** reads that off as the offset callers get.
**`copies_compare_equal`** closes the round trip with the two copies of `Iovec`: what either copy
moved compares equal.
-/

namespace TcmuRunner

open Scsi (memcmp memcmp_eq_zero)

/-! ## The first mismatch -/

/-- The offset of the first `k` with `mem (i + k) ≠ l[k]`, if there is one. -/
def mismatch (mem : Nat → UInt8) (i : Nat) : List UInt8 → Option Nat
  | [] => none
  | x :: xs => if mem i = x then (mismatch mem (i + 1) xs).map (· + 1) else some 0

section
variable {mem : Nat → UInt8}

@[simp] theorem mismatch_nil (i : Nat) : mismatch mem i [] = none := rfl

theorem mismatch_append (i : Nat) (l₁ l₂ : List UInt8) :
    mismatch mem i (l₁ ++ l₂) =
      (mismatch mem i l₁).or ((mismatch mem (i + l₁.length) l₂).map (· + l₁.length)) := by
  induction l₁ generalizing i with
  | nil => simp
  | cons x xs ih =>
    rw [List.cons_append, mismatch, mismatch, List.length_cons]
    split
    · rw [ih, show i + 1 + xs.length = i + (xs.length + 1) by omega]
      cases mismatch mem (i + 1) xs <;> simp [Option.map_map, Function.comp_def, Nat.add_assoc]
    · rfl

/-- No mismatch: the bytes at `i` are the list. -/
theorem mismatch_eq_none {i : Nat} {l : List UInt8} :
    mismatch mem i l = none ↔ ∀ k < l.length, mem (i + k) = l.getD k 0 := by
  induction l generalizing i with
  | nil => simp
  | cons x xs ih =>
    simp only [mismatch, List.length_cons]
    split
    · rw [Option.map_eq_none', ih]
      constructor
      · intro h k hk
        cases k with
        | zero => simpa
        | succ k => simpa [Nat.add_right_comm i 1] using h k (by omega)
      · intro h k hk
        simpa [Nat.add_right_comm i 1] using h (k + 1) (by omega)
    · simp only [reduceCtorEq, false_iff, not_forall]
      exact ⟨0, by simp, by simpa⟩

/-- A mismatch at `k`: the bytes agree before `k` and differ at `k`. -/
theorem mismatch_eq_some {i k : Nat} {l : List UInt8} (h : mismatch mem i l = some k) :
    k < l.length ∧ mem (i + k) ≠ l.getD k 0 ∧ ∀ j < k, mem (i + j) = l.getD j 0 := by
  induction l generalizing i k with
  | nil => cases h
  | cons x xs ih =>
    simp only [mismatch] at h
    split at h
    · obtain ⟨k, hk, rfl⟩ := Option.map_eq_some'.mp h
      obtain ⟨h₁, h₂, h₃⟩ := ih hk
      refine ⟨by simp; omega, by simpa [Nat.add_right_comm i 1] using h₂, fun j hj => ?_⟩
      cases j with
      | zero => simpa
      | succ j => simpa [Nat.add_right_comm i 1] using h₃ j (by omega)
    · cases h
      exact ⟨by simp, by simpa, fun _ h => absurd h (Nat.not_lt_zero _)⟩

end

/-! ## The loop -/

/-- The byte rescan (lines 124-126): `for (pos = 0; pos < part && *spos++ == *dpos++; pos++);`,
over the `n` bytes from `s[i]` and `d[j]`. -/
def rescan (s : Nat → UInt8) (i : Nat) (d : Nat → UInt8) (j : Nat) : Nat → Nat
  | 0 => 0
  | n + 1 => if s i = d j then rescan s (i + 1) d (j + 1) n + 1 else 0

/-- Where `memcmp` finds a difference, the rescan stops at the first one. -/
theorem mismatch_range' {s d : Nat → UInt8} {i j : Nat} :
    ∀ {n}, mismatch s i ((List.range' j n).map d) =
      if memcmp s i d j n = 0 then none else some (rescan s i d j n)
  | 0 => rfl
  | n + 1 => by
    simp only [List.range'_succ, List.map_cons, mismatch, memcmp, rescan]
    split
    · rw [mismatch_range']
      split <;> rfl
    · rename_i h
      have : ((s i).toNat : Int) - (d j).toNat ≠ 0 := fun h' => h (UInt8.toNat.inj (by omega))
      rw [if_neg this]

/-- The loop of `tcmu_compare_with_iovec` (lines 110-135): `size` bytes still to compare,
`mem_off` compared so far. -/
def compareLoop (mem : Nat → UInt8) : List Iovec → Nat → Nat → Option Int
  | [], size, _ => if size = 0 then some (-1) else none
  | v :: vs, size, memOff =>
    if size = 0 then some (-1)
    else
      let part := min size v.len
      if memcmp mem memOff v.mem v.base part ≠ 0 then
        some (rescan mem memOff v.mem v.base part + memOff)
      else compareLoop mem vs (size - part) (memOff + part)

/-- `tcmu_compare_with_iovec(mem, iovec, size)` (lines 104-138). -/
def tcmuCompareWithIovec (mem : Nat → UInt8) (iovec : List Iovec) (size : Nat) : Option Int :=
  compareLoop mem iovec size 0

/-- The loop computes the first mismatch between `mem` from `mem_off` and the first `size` bytes
of the concatenation, segment by segment. -/
theorem compareLoop_eq (mem : Nat → UInt8) : ∀ (iovec : List Iovec) (size memOff : Nat),
    size ≤ tcmuIovecLength iovec → compareLoop mem iovec size memOff =
      some ((mismatch mem memOff ((flat iovec).take size)).elim (-1) fun k => ((k + memOff : Nat) : Int))
  | [], size, _, h => by
    obtain rfl : size = 0 := Nat.le_zero.mp h
    rfl
  | v :: vs, size, memOff, h => by
    simp only [tcmuIovecLength] at h
    unfold compareLoop
    split
    · subst size; rfl
    · have hk : min size v.len ≤ v.data.length := v.length_data ▸ Nat.min_le_right _ _
      have hsplit := take_append_split v.data (flat vs) (c := size - min size v.len) hk
        (by simp; omega)
      rw [show min size v.len + (size - min size v.len) = size by omega] at hsplit
      rw [flat_cons, hsplit, mismatch_append, v.data_take (Nat.min_le_right _ _), mismatch_range',
        List.length_map, List.length_range']
      by_cases hc : memcmp mem memOff v.mem v.base (min size v.len) = 0
      · rw [if_pos hc]
        dsimp only
        rw [if_neg (not_not.mpr hc), compareLoop_eq mem vs _ _ (by omega)]
        cases mismatch mem (memOff + min size v.len) ((flat vs).take (size - min size v.len)) with
        | none => rfl
        | some k => simp; omega
      · rw [if_neg hc]
        dsimp only
        rw [if_pos hc]
        rfl

/-- **`tcmu_compare_with_iovec` finds the first mismatch.** For a `size` at most the total length,
the function stays inside the array and returns `-1` exactly when `mem[0..size)` is the first
`size` bytes of the concatenation, and otherwise the least offset at which they differ. -/
theorem compare_with_iovec_first_mismatch (mem : Nat → UInt8) (iovec : List Iovec) {size : Nat}
    (h : size ≤ tcmuIovecLength iovec) :
    ∃ r, tcmuCompareWithIovec mem iovec size = some r ∧
      (r = -1 ↔ ∀ i < size, mem i = (flat iovec).getD i 0) ∧
      (r ≠ -1 → ∃ i : Nat, r = i ∧ i < size ∧ mem i ≠ (flat iovec).getD i 0 ∧
        ∀ j < i, mem j = (flat iovec).getD j 0) := by
  have hlen : ((flat iovec).take size).length = size := by simp; omega
  have hget : ∀ i < size, ((flat iovec).take size).getD i 0 = (flat iovec).getD i 0 :=
    fun i hi => by simp [List.getD_eq_getElem?_getD, List.getElem?_take_of_lt hi]
  refine ⟨_, compareLoop_eq mem iovec size 0 h, ?_⟩
  cases hm : mismatch mem 0 ((flat iovec).take size) with
  | none =>
    have := mismatch_eq_none.mp hm
    refine ⟨iff_of_true rfl fun i hi => ?_, fun h => absurd rfl h⟩
    rw [← hget i hi, ← this i (by omega), Nat.zero_add]
  | some k =>
    obtain ⟨h₁, h₂, h₃⟩ := mismatch_eq_some hm
    simp only [Nat.zero_add, hlen] at h₁ h₂ h₃
    refine ⟨iff_of_false (by simp) fun hall => h₂ ((hall k h₁).trans (hget k h₁).symm),
      fun _ => ⟨k, by simp, h₁, by rwa [← hget k h₁], fun j hj => ?_⟩⟩
    rw [h₃ j hj, hget j (by omega)]

/-- Ten zero bytes against segments of four and six bytes that hold a `1` at offset 7. -/
theorem compare_with_iovec_at_seven :
    let iovec : List Iovec := [⟨fun _ => 0, 0, 4⟩, ⟨fun i => if i = 3 then 1 else 0, 0, 6⟩]
    10 ≤ tcmuIovecLength iovec ∧ ∃ r, tcmuCompareWithIovec (fun _ => 0) iovec 10 = some r ∧
      (r = -1 ↔ ∀ i < 10, (0 : UInt8) = (flat iovec).getD i 0) ∧
      (r ≠ -1 → ∃ i : Nat, r = i ∧ i < 10 ∧ (0 : UInt8) ≠ (flat iovec).getD i 0 ∧
        ∀ j < i, (0 : UInt8) = (flat iovec).getD j 0) :=
  ⟨by decide, compare_with_iovec_first_mismatch (fun _ => 0) _ (by decide)⟩

example : tcmuCompareWithIovec (fun _ => 0)
    [⟨fun _ => 0, 0, 4⟩, ⟨fun i => if i = 3 then 1 else 0, 0, 6⟩] 10 = some 7 := by decide

/-! ## Copies compare equal -/

/-- The first `len` bytes of the concatenation, as `mem` holds them from 0, compare equal. -/
theorem compare_of_take_flat {mem : Nat → UInt8} {iovec : List Iovec} {len : Nat}
    (h : (flat iovec).take len = (List.range len).map mem) :
    tcmuCompareWithIovec mem iovec len = some (-1) := by
  have hlen : len ≤ tcmuIovecLength iovec := by
    have := congrArg List.length h
    simp only [List.length_take, length_flat, List.length_map, List.length_range] at this
    omega
  rw [tcmuCompareWithIovec, compareLoop_eq mem iovec len 0 hlen, h,
    mismatch_eq_none.mpr fun k hk => by simp_all]
  rfl

/-- **A copy compares equal to what it copied.** For `len` at most the total length: `src`
copied into the segments by `tcmu_memcpy_into_iovec` compares equal with them, read through the
descriptors as they were before the copy advanced them; and the bytes `tcmu_memcpy_from_iovec`
copies out of the segments into `dest` compare equal with the segments, whatever `dest` held. -/
theorem copies_compare_equal (iovec : List Iovec) (src dest : Nat → UInt8) {len : Nat}
    (h : len ≤ tcmuIovecLength iovec) :
    tcmuCompareWithIovec src (windowsOver iovec (tcmuMemcpyIntoIovec iovec src len).1) len =
        some (-1) ∧
      tcmuCompareWithIovec (tcmuMemcpyFromIovec dest len iovec).1 iovec len = some (-1) := by
  refine ⟨compare_of_take_flat (take_flat_memcpyInto src le_rfl h), compare_of_take_flat ?_⟩
  refine List.ext_getElem (by simp; omega) fun k hk _ => ?_
  simp only [List.length_take, length_flat] at hk
  rw [List.getElem_take, List.getElem_map, List.getElem_range,
    tcmuMemcpyFromIovec_fst dest (by omega), List.getD_eq_getElem?_getD,
    List.getElem?_eq_getElem (by simp; omega), Option.getD_some]

/-- Six bytes copied into segments of four and six bytes and compared through the old
descriptors; and the same segments copied out into a zeroed buffer. -/
theorem copies_compare_equal_across_segments :
    let iovec : List Iovec := [⟨fun _ => 0, 0, 4⟩, ⟨fun _ => 0, 2, 6⟩]
    6 ≤ tcmuIovecLength iovec ∧
      (tcmuCompareWithIovec (fun i => i.toUInt8)
          (windowsOver iovec (tcmuMemcpyIntoIovec iovec (fun i => i.toUInt8) 6).1) 6 = some (-1) ∧
        tcmuCompareWithIovec (tcmuMemcpyFromIovec (fun _ => 0) 6 iovec).1 iovec 6 = some (-1)) :=
  ⟨by decide, copies_compare_equal _ _ _ (by decide)⟩

end TcmuRunner
