import Mathlib.Data.List.Basic
import Mathlib.Algebra.Group.Nat.Basic

/-!
# C byte arrays (`api.c`)

The SCSI emulation builds each response in a byte array (`data[512]` of the VPD pages, the
`calloc`ed buffer of MODE SENSE, a page handler's local `buf[12]`) and then copies a prefix of it
out. `Buf` is such an array: its bytes, and `top`, one past the highest index any write touched.
As in C, no write is cut at the array's end: the writes of a run stayed inside an array of `n`
bytes exactly when its `top ≤ n`.

The library calls the emulation makes are modelled by their C semantics: `memcpy` and a run of
stores (`writeList`, `set`, `stores`), `put_unaligned_be16/24/32/64` (`putUnalignedBe`),
`snprintf` (`Buf.snprintf`), `memcmp` and `size_t` subtraction (`sizeSub`). A C string is a
`CStr`: its bytes before the NUL, none of which is NUL.
-/

namespace TcmuRunner.Scsi

/-- A byte array: its bytes, and one past the highest index written (`0` if none). -/
structure Buf where
  byte : Nat → UInt8
  top : Nat

namespace Buf

/-- A local array after `memset(data, 0, n)`. -/
def zeros (n : Nat) : Buf := ⟨fun _ => 0, n⟩

/-- `calloc(1, n)`: zeroed, and nothing written yet. -/
def calloc : Buf := ⟨fun _ => 0, 0⟩

/-- Store the bytes `l` at `b[i]`, `b[i + 1]`, … (a `memcpy`, or a run of stores). -/
def writeList (b : Buf) (i : Nat) (l : List UInt8) : Buf where
  byte a := if i ≤ a ∧ a < i + l.length then l.getD (a - i) 0 else b.byte a
  top := if l = [] then b.top else max b.top (i + l.length)

/-- `b[i] = v`. -/
def set (b : Buf) (i : Nat) (v : UInt8) : Buf := b.writeList i [v]

/-- A sequence of single-byte stores `b[i] = v`, in order. -/
def stores (b : Buf) (l : List (Nat × UInt8)) : Buf := l.foldl (fun b e => b.set e.1 e.2) b

/-- The `n` bytes from `b[i]`: what a copy out of the array reads. -/
def slice (b : Buf) (i n : Nat) : List UInt8 := (List.range' i n).map b.byte

/-- `snprintf(&b[i], size, ...)` printing the text `s`: the first `size - 1` bytes of it and the
terminating NUL, nothing when `size = 0`. (It returns `strlen` of the whole text whatever it
wrote, so callers take `s.length`.) -/
def snprintf (b : Buf) (i size : Nat) (s : List UInt8) : Buf :=
  if size = 0 then b else b.writeList i (s.take (size - 1) ++ [0])

/-! ## Lemmas -/

variable {b : Buf} {i a : Nat} {l : List UInt8} {v : UInt8}

theorem byte_writeList_of_lt (h : a < i) : (b.writeList i l).byte a = b.byte a :=
  if_neg fun h' => absurd h'.1 (Nat.not_le.mpr h)

theorem byte_writeList_of_le (h : i + l.length ≤ a) : (b.writeList i l).byte a = b.byte a :=
  if_neg fun h' => absurd h'.2 (Nat.not_lt.mpr h)

theorem byte_writeList (h₁ : i ≤ a) (h₂ : a < i + l.length) :
    (b.writeList i l).byte a = l.getD (a - i) 0 :=
  if_pos ⟨h₁, h₂⟩

theorem byte_writeList_add {k : Nat} (h : k < l.length) :
    (b.writeList i l).byte (i + k) = l[k] := by
  simp [writeList, h, List.getD_eq_getElem?_getD, List.getElem?_eq_getElem h]

theorem top_writeList (h : l ≠ []) : (b.writeList i l).top = max b.top (i + l.length) :=
  if_neg h

/-- A write never lowers the high-water mark. -/
theorem top_le_writeList : b.top ≤ (b.writeList i l).top := by
  show b.top ≤ if l = [] then b.top else max b.top (i + l.length)
  split <;> omega

/-- The bytes a write stored read back as the list. -/
theorem slice_writeList (b : Buf) (i : Nat) (l : List UInt8) : (b.writeList i l).slice i l.length = l :=
  List.ext_getElem (by simp [slice]) fun k hk _ => by
    simp only [slice, List.getElem_map, List.getElem_range', Nat.one_mul]
    exact byte_writeList_add (by simpa [slice] using hk)

theorem slice_add (b : Buf) (i m n : Nat) : b.slice i (m + n) = b.slice i m ++ b.slice (i + m) n := by
  simp only [slice, ← List.map_append, List.range'_append_1, Nat.add_comm n m]

theorem slice_writeList_of_le {n : Nat} (h : i + n ≤ a) : (b.writeList a l).slice i n = b.slice i n :=
  List.map_congr_left fun _ hk => byte_writeList_of_lt (by rw [List.mem_range'_1] at hk; omega)

theorem slice_writeList_of_ge {n : Nat} (h : a + l.length ≤ i) :
    (b.writeList a l).slice i n = b.slice i n :=
  List.map_congr_left fun _ hk => byte_writeList_of_le (by rw [List.mem_range'_1] at hk; omega)

theorem slice_writeList_eq {n : Nat} (h : n = l.length) : (b.writeList i l).slice i n = l :=
  h ▸ slice_writeList b i l

/-- A byte inside a slice is the slice's entry. -/
theorem byte_of_slice {n : Nat} (hs : b.slice i n = l) (h₁ : i ≤ a) (h₂ : a < i + n) :
    b.byte a = l.getD (a - i) 0 := by
  rw [← hs, slice, List.getD_eq_getElem?_getD, List.getElem?_map,
    List.getElem?_range' _ _ (by omega), Nat.one_mul, Nat.add_sub_cancel' h₁]
  rfl

/-- Two arrays that agree byte for byte from `p` and from `q` have the same slices there. -/
theorem slice_eq_of_shift {b' : Buf} {p q n : Nat} (h : ∀ j < n, b.byte (p + j) = b'.byte (q + j)) :
    b.slice p n = b'.slice q n :=
  List.ext_getElem (by simp [slice]) fun k hk _ => by
    simp only [slice, List.getElem_map, List.getElem_range', Nat.one_mul]
    exact h k (by simpa [slice] using hk)

theorem slice_eq_replicate {n : Nat} (h : ∀ a, i ≤ a → a < i + n → b.byte a = 0) :
    b.slice i n = List.replicate n 0 :=
  List.eq_replicate_iff.mpr ⟨by simp [slice], fun _ hx => by
    obtain ⟨a, ha, rfl⟩ := List.mem_map.mp hx
    rw [List.mem_range'_1] at ha
    exact h a ha.1 ha.2⟩

/-- A buffer that reads as `l` from `p` on, is `b` everywhere else and has `b`'s top after the
write is `b` with `l` written at `p`. -/
theorem eq_writeList {b' : Buf} {p : Nat} (hs : b'.slice p l.length = l)
    (hf : ∀ a, a < p ∨ p + l.length ≤ a → b'.byte a = b.byte a)
    (ht : b'.top = (b.writeList p l).top) : b' = b.writeList p l := by
  obtain ⟨byte', top'⟩ := b'
  rw [writeList, mk.injEq]
  refine ⟨funext fun a => ?_, ht⟩
  split
  · exact byte_of_slice hs (by omega) (by omega)
  · exact hf a (by omega)

theorem snprintf_of_lt {size : Nat} {s : List UInt8} (h : s.length < size) :
    b.snprintf i size s = b.writeList i (s ++ [0]) := by
  rw [snprintf, if_neg (by omega), List.take_of_length_le (by omega)]

@[simp] theorem writeList_nil : b.writeList i [] = b := by
  obtain ⟨byte, top⟩ := b
  rw [writeList, mk.injEq]
  exact ⟨funext fun a => if_neg (by simp), if_pos rfl⟩

theorem top_writeList_of_le (h : i + l.length ≤ b.top) : (b.writeList i l).top = b.top := by
  unfold writeList; split
  · rfl
  · exact Nat.max_eq_left h

/-- Two writes, the second right after the first, are one write of both. -/
theorem writeList_append (l₁ l₂ : List UInt8) :
    (b.writeList i l₁).writeList (i + l₁.length) l₂ = b.writeList i (l₁ ++ l₂) := by
  apply eq_writeList
  · rw [List.length_append, slice_add, slice_writeList_of_le le_rfl, slice_writeList,
      slice_writeList]
  · intro a ha
    rw [List.length_append] at ha
    rcases ha with ha | ha
    · rw [byte_writeList_of_lt (by omega), byte_writeList_of_lt ha]
    · rw [byte_writeList_of_le (by omega), byte_writeList_of_le (by omega)]
  · by_cases h₂ : l₂ = []
    · subst h₂; simp [writeList]
    · by_cases h₁ : l₁ = []
      · subst h₁; simp
      · rw [top_writeList h₂, top_writeList h₁, top_writeList (by simp [h₁]), List.length_append]
        omega

/-- Zeros written over zeros inside the buffer change nothing. -/
theorem writeList_append_zeros {n : Nat}
    (hz : ∀ a, i + l.length ≤ a → a < i + l.length + n → b.byte a = 0)
    (ht : i + l.length + n ≤ b.top) :
    b.writeList i (l ++ List.replicate n 0) = b.writeList i l := by
  refine (eq_writeList ?_ (fun a ha => ?_) ?_).symm
  · rw [List.length_append, slice_add, slice_writeList, List.length_replicate,
      slice_writeList_of_ge le_rfl, slice_eq_replicate hz]
  · rw [List.length_append] at ha
    rcases ha with ha | ha
    · exact byte_writeList_of_lt ha
    · exact byte_writeList_of_le (by omega)
  · rw [top_writeList_of_le (by omega), top_writeList_of_le (by simp; omega)]

@[simp] theorem slice_calloc (i n : Nat) : calloc.slice i n = List.replicate n 0 := by
  simp [slice, calloc, List.map_const']

@[simp] theorem byte_set : (b.set i v).byte a = if a = i then v else b.byte a := by
  simp only [set, writeList, List.length_singleton]
  by_cases h : a = i
  · simp [h]
  · rw [if_neg (by omega), if_neg h]

@[simp] theorem top_set : (b.set i v).top = max b.top (i + 1) := rfl
theorem byte_set_of_ne (h : a ≠ i) : (b.set i v).byte a = b.byte a := by simp [h]

theorem byte_set_self : (b.set i v).byte i = v := by simp

theorem slice_set_of_ne {n : Nat} (h : a < i ∨ i + n ≤ a) : (b.set a v).slice i n = b.slice i n := by
  rcases h with h | h
  · exact slice_writeList_of_ge (by simpa using h)
  · exact slice_writeList_of_le h

@[simp] theorem slice_set_self : (b.set i v).slice i 1 = [v] := slice_writeList b i [v]

theorem slice_one (b : Buf) (i : Nat) : b.slice i 1 = [b.byte i] := rfl


@[simp] theorem stores_nil : b.stores [] = b := rfl

@[simp] theorem stores_cons (e : Nat × UInt8) (es : List (Nat × UInt8)) :
    b.stores (e :: es) = (b.set e.1 e.2).stores es := rfl

theorem top_stores_of_lt {es : List (Nat × UInt8)} (h : ∀ e ∈ es, e.1 < b.top) :
    (b.stores es).top = b.top := by
  induction es generalizing b with
  | nil => rfl
  | cons e es ih =>
    have he := h e (List.mem_cons_self e es)
    rw [stores_cons, ih fun e' h' => by rw [top_set]; have := h e' (List.mem_cons_of_mem e h'); omega,
      top_set]
    omega

theorem top_stores (es : List (Nat × UInt8)) :
    (b.stores es).top = (es.map (·.1 + 1)).foldl max b.top := by
  induction es generalizing b <;> simp_all

end Buf

/-- The `w` bytes of `v`, most significant first. -/
def beBytes (w v : Nat) : List UInt8 :=
  (List.range w).map fun k => UInt8.ofNat (v / 256 ^ (w - 1 - k))

/-- `put_unaligned_be16/24/32/64(v, &b[i])` for `w = 2, 3, 4, 8` (`be_byteshift.h`): the low
`8 w` bits of `v`, most significant byte first. -/
def putUnalignedBe (w v : Nat) (b : Buf) (i : Nat) : Buf := b.writeList i (beBytes w v)

/-- `put_unaligned_be16`. -/
def putUnalignedBe16 : Nat → Buf → Nat → Buf := putUnalignedBe 2
/-- `put_unaligned_be24`. -/
def putUnalignedBe24 : Nat → Buf → Nat → Buf := putUnalignedBe 3
/-- `put_unaligned_be32`. -/
def putUnalignedBe32 : Nat → Buf → Nat → Buf := putUnalignedBe 4
/-- `put_unaligned_be64`. -/
def putUnalignedBe64 : Nat → Buf → Nat → Buf := putUnalignedBe 8

/-- The `w`-byte big-endian number at `p[i]`: `be16toh`, `be32toh` or `be64toh` of an unaligned
load. -/
def getBe (p : Nat → UInt8) (i : Nat) : Nat → Nat
  | 0 => 0
  | w + 1 => getBe p i w * 256 + (p (i + w)).toNat

theorem getBe_lt (p : Nat → UInt8) (i : Nat) : ∀ w, getBe p i w < 256 ^ w
  | 0 => Nat.one_pos
  | w + 1 => by
    have := getBe_lt p i w
    have := (p (i + w)).toNat_lt_size
    simp only [getBe, pow_succ, UInt8.size] at *
    omega

@[simp] theorem length_beBytes (w v : Nat) : (beBytes w v).length = w := by simp [beBytes]

/-- The last of `w + 1` big-endian bytes is the low byte; the others are those of `v / 256`. -/
theorem beBytes_succ (w v : Nat) : beBytes (w + 1) v = beBytes w (v / 256) ++ [UInt8.ofNat v] := by
  simp only [beBytes, List.range_succ, List.map_append, List.map_cons, List.map_nil,
    Nat.add_sub_cancel, Nat.sub_self, pow_zero, Nat.div_one]
  congr 1
  refine List.map_congr_left fun k hk => ?_
  rw [List.mem_range] at hk
  rw [Nat.div_div_eq_div_mul, ← pow_succ', show w - 1 - k + 1 = w - k by omega]

/-- A big-endian read sees only its `w` bytes. -/
theorem getBe_congr {p q : Nat → UInt8} {i : Nat} :
    ∀ {w}, (∀ k < w, p (i + k) = q (i + k)) → getBe p i w = getBe q i w
  | 0, _ => rfl
  | w + 1, h => by
    rw [getBe, getBe, getBe_congr fun k hk => h k (by omega), h w (by omega)]

/-- **Big-endian round trip.** Reading back the `w` big-endian bytes of `v` gives `v` modulo
`256 ^ w`. -/
theorem getBe_of_beBytes {p : Nat → UInt8} {i : Nat} :
    ∀ {w v}, (∀ k < w, p (i + k) = (beBytes w v).getD k 0) → getBe p i w = v % 256 ^ w
  | 0, v, _ => (Nat.mod_one v).symm
  | w + 1, v, h => by
    have hhigh : ∀ k < w, p (i + k) = (beBytes w (v / 256)).getD k 0 := fun k hk => by
      rw [h k (by omega), beBytes_succ, List.getD_eq_getElem?_getD, List.getD_eq_getElem?_getD,
        List.getElem?_append_left (by simp; omega)]
    have hlow : p (i + w) = UInt8.ofNat v := by
      rw [h w (by omega), beBytes_succ, List.getD_eq_getElem?_getD,
        List.getElem?_append_right (by simp)]
      simp
    rw [getBe, getBe_of_beBytes hhigh, hlow, pow_succ', Nat.mod_mul, Nat.add_comm, Nat.mul_comm]
    rfl

theorem getBe_eq_zero {p : Nat → UInt8} {i : Nat} : ∀ {w}, (∀ k < w, p (i + k) = 0) → getBe p i w = 0
  | 0, _ => rfl
  | w + 1, h => by rw [getBe, getBe_eq_zero fun k hk => h k (by omega), h w (by omega)]; rfl

namespace Buf

variable {b : Buf} {i j a w w' v : Nat}

@[simp] theorem byte_zeros (n a : Nat) : (zeros n).byte a = 0 := rfl

theorem getBe_zeros (n : Nat) : getBe (zeros n).byte i w = 0 := getBe_eq_zero fun _ _ => rfl

theorem getBe_putUnalignedBe_self : getBe (putUnalignedBe w v b i).byte i w = v % 256 ^ w :=
  getBe_of_beBytes fun k hk => by
    rw [putUnalignedBe, byte_writeList (by omega) (by simp; omega), Nat.add_sub_cancel_left]

theorem byte_putUnalignedBe_of_lt (h : a < j) : (putUnalignedBe w v b j).byte a = b.byte a :=
  byte_writeList_of_lt h

theorem byte_putUnalignedBe_of_le (h : j + w ≤ a) : (putUnalignedBe w v b j).byte a = b.byte a :=
  byte_writeList_of_le (by simpa using h)

/-- A big-endian field read is unchanged by a write to other bytes. -/
theorem getBe_putUnalignedBe_of_disjoint (h : j + w' ≤ i ∨ i + w ≤ j) :
    getBe (putUnalignedBe w' v b j).byte i w = getBe b.byte i w :=
  getBe_congr fun k hk => by
    rcases h with h | h
    · exact byte_putUnalignedBe_of_le (by omega)
    · exact byte_putUnalignedBe_of_lt (by omega)

theorem getBe_set_of_disjoint {u : UInt8} (h : j < i ∨ i + w ≤ j) :
    getBe (b.set j u).byte i w = getBe b.byte i w :=
  getBe_congr fun k hk => byte_set_of_ne (by omega)

end Buf

/-- `size_t` subtraction: `a - b` modulo `2^64`. -/
def sizeSub (a b : Nat) : Nat := (a + 2 ^ 64 - b) % 2 ^ 64

theorem sizeSub_of_le {a b : Nat} (h : b ≤ a) (ha : a < 2 ^ 64) : sizeSub a b = a - b := by
  unfold sizeSub; omega

/-- `memcmp(&s₁[i₁], &s₂[i₂], n)`: `0` when the `n` bytes agree, else the difference of the first
pair that does not. -/
def memcmp (s₁ : Nat → UInt8) (i₁ : Nat) (s₂ : Nat → UInt8) (i₂ : Nat) : Nat → Int
  | 0 => 0
  | n + 1 => if s₁ i₁ = s₂ i₂ then memcmp s₁ (i₁ + 1) s₂ (i₂ + 1) n
    else (s₁ i₁).toNat - (s₂ i₂).toNat

theorem memcmp_eq_zero {s₁ s₂ : Nat → UInt8} {i₁ i₂ n : Nat} :
    memcmp s₁ i₁ s₂ i₂ n = 0 ↔ (List.range' i₁ n).map s₁ = (List.range' i₂ n).map s₂ := by
  induction n generalizing i₁ i₂ with
  | zero => simp [memcmp]
  | succ n ih =>
    simp only [memcmp, List.range'_succ, List.map_cons, List.cons.injEq]
    split
    · simp_all
    · rename_i h
      simp only [h, false_and, iff_false]
      exact fun h' => h (UInt8.toNat.inj (by omega))

/-- A C string: its bytes before the terminating NUL. -/
structure CStr where
  bytes : List UInt8
  noNul : (0 : UInt8) ∉ bytes

/-- The C string of `n` copies of the byte `c`. -/
def CStr.replicate (n : Nat) (c : UInt8) (h : c ≠ 0) : CStr :=
  ⟨List.replicate n c, fun hm => h (List.eq_of_mem_replicate hm).symm⟩

/-- The bytes of an ASCII literal, without its NUL. -/
def ascii (s : String) : List UInt8 := s.toList.map fun c => UInt8.ofNat c.toNat

end TcmuRunner.Scsi
