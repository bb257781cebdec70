import Mathlib.Data.Nat.Digits
import Mathlib.Algebra.BigOperators.Group.List
import TcmuRunner.Scsi.Buf

/-!
# Commands, statuses and the device (`api.c:32-96`, `1266-1307`)

A CDB is read through a pointer, so it is modelled as `Nat → UInt8`: `cdb i` is `cdb[i]`.
`tcmuGetCdbLength` decodes the group code; `tcmuGetLba` and `tcmuGetXferLength` read the LBA and
the transfer (allocation, parameter list) length at the offsets of each CDB size. Both call
`assert_perror(EINVAL)` for any other size, which aborts the process: they return `none` there.

`Sts` holds the `TCMU_STS_*` results the emulation returns, and `Dev` the attributes of the
device it reads (`tcmu_get_dev_*`, `tcmu_get_wwn`, `dev->cfgstring`); `TgtPort` is the target
port of an INQUIRY.

* **`cdb_lba_xfer_round_trip`**: for each format (6, 10, 12 and 16 bytes), an LBA and a transfer
  length written into its fields (`withLbaXfer`, from SBC-3, not from the decoders) decode back,
  whatever the other bytes hold.
* **`print_cdb_info_overflows`**: `tcmu_print_cdb_info` (`tcmuPrintCdbInfo`) chooses its buffer
  by comparing the CDB length with `CDB_FIX_SIZE`, a buffer size, and sizes the heap buffer
  without the `"\n"` and NUL; `tcmuPrintCdbInfo_top` says how far the text reaches for every CDB
  and `info`, and two CDBs overrun `fix` and the heap buffer.
* **`print_cdb_info_fits_fix`**: the other CDBs, at most 16 bytes long, print inside `fix` with
  an `info` of up to 143 characters.
-/

namespace TcmuRunner.Scsi

/-- `EINVAL`. -/
def EINVAL : Int := 22

/-- The `TCMU_STS_*` codes the emulation returns. -/
inductive Sts
  | ok
  | noResource
  | hwErr
  | invalidCdb
  | invalidParamList
  | invalidParamListLen
  | passthroughErr
  deriving DecidableEq, Repr

/-- Opcodes of `scsi/scsi.h`. -/
def modeSelect : UInt8 := 0x15
def modeSense : UInt8 := 0x1a
def modeSelect10 : UInt8 := 0x55
def modeSense10 : UInt8 := 0x5a

/-- The device attributes the emulation reads. -/
structure Dev where
  /-- `tcmu_get_dev_block_size`. -/
  blockSize : UInt32
  /-- `tcmu_get_dev_num_lbas`. -/
  numLbas : UInt64
  /-- `tcmu_get_dev_write_cache_enabled`. -/
  writeCacheEnabled : Bool
  /-- `tcmu_get_wwn`: the unit serial, `NULL` when it cannot be read. -/
  wwn : Option CStr
  /-- `dev->cfgstring`. -/
  cfgstring : CStr
  /-- `tcmu_get_dev_max_xfer_len`. -/
  maxXferLen : UInt32
  /-- `tcmu_get_dev_opt_unmap_gran`. -/
  optUnmapGran : UInt32
  /-- `tcmu_get_dev_unmap_gran_align`. -/
  unmapGranAlign : UInt32
  /-- `tcmu_get_dev_solid_state_media`. -/
  solidStateMedia : Bool
  /-- Whether the runner handler has an `unmap` callback. -/
  unmap : Bool

/-- `struct tgt_port`, with its group's `id` and `tpgs`. -/
structure TgtPort where
  protoId : UInt8
  relPortId : UInt16
  tpgt : UInt16
  wwn : CStr
  grpId : UInt16
  grpTpgs : UInt8

/-- `tcmu_get_cdb_length` (lines 32-61): the length from the group code (`cdb[0] >> 5`), or
`-EINVAL`. -/
def tcmuGetCdbLength (cdb : Nat → UInt8) : Int :=
  match (cdb 0 >>> 5).toNat with
  | 0 => 6
  | 1 | 2 => 10
  | 3 => if cdb 0 = 0x7f then 8 + (cdb 7).toNat else -EINVAL
  | 4 => 16
  | 5 => 12
  | _ => -EINVAL

/-- `tcmu_get_lba` (lines 63-80). -/
def tcmuGetLba (cdb : Nat → UInt8) : Option Nat :=
  match tcmuGetCdbLength cdb with
  | 6 => some (((cdb 1 &&& 0x1f).toNat <<< 16) ||| getBe cdb 2 2)
  | 10 => some (getBe cdb 2 4)
  | 12 => some (getBe cdb 2 4)
  | 16 => some (getBe cdb 2 8)
  | _ => none

/-- `tcmu_get_xfer_length` (lines 82-96). -/
def tcmuGetXferLength (cdb : Nat → UInt8) : Option Nat :=
  match tcmuGetCdbLength cdb with
  | 6 => some (cdb 4).toNat
  | 10 => some (getBe cdb 7 2)
  | 12 => some (getBe cdb 6 4)
  | 16 => some (getBe cdb 10 4)
  | _ => none

/-- The transfer length fits in 32 bits. -/
theorem tcmuGetXferLength_lt {cdb : Nat → UInt8} {a : Nat} (h : tcmuGetXferLength cdb = some a) :
    a < 2 ^ 32 := by
  unfold tcmuGetXferLength at h
  split at h <;> cases h
  · exact lt_trans (cdb 4).toNat_lt_size (by decide)
  · exact lt_trans (getBe_lt cdb 7 2) (by decide)
  · exact getBe_lt cdb 6 4
  · exact getBe_lt cdb 10 4

/-- A 6-byte CDB (group code 0) carries its transfer length in byte 4. -/
theorem tcmuGetXferLength_six {cdb : Nat → UInt8} (h : cdb 0 >>> 5 = 0) :
    tcmuGetXferLength cdb = some (cdb 4).toNat := by
  simp [tcmuGetXferLength, tcmuGetCdbLength, h]

/-- A 10-byte CDB (group code 1 or 2) carries it big-endian in bytes 7-8. -/
theorem tcmuGetXferLength_ten {cdb : Nat → UInt8} (h : cdb 0 >>> 5 = 1 ∨ cdb 0 >>> 5 = 2) :
    tcmuGetXferLength cdb = some (getBe cdb 7 2) := by
  rcases h with h | h <;> simp [tcmuGetXferLength, tcmuGetCdbLength, h]

/-! ## The LBA and transfer length round trip -/

/-- `v` and `t` fit the LBA and transfer length fields of the CDB format of opcode `op`: 21 and 8
bits for 6 bytes (group code 0), 32 and 16 for 10 (1, 2), 64 and 32 for 16 (4), 32 and 32 for 12
(5). No other group code has both fields. -/
def FieldsFit (op : UInt8) (v t : Nat) : Prop :=
  match (op >>> 5).toNat with
  | 0 => v < 2 ^ 21 ∧ t < 2 ^ 8
  | 1 | 2 => v < 2 ^ 32 ∧ t < 2 ^ 16
  | 4 => v < 2 ^ 64 ∧ t < 2 ^ 32
  | 5 => v < 2 ^ 32 ∧ t < 2 ^ 32
  | _ => False

instance (op : UInt8) (v t : Nat) : Decidable (FieldsFit op v t) := by
  unfold FieldsFit; split <;> infer_instance

/-- An initiator's CDB: `cdb` with the LBA `v` and the transfer length `t` written big-endian
into the fields of its format (SBC-3): `v` in bits 4-0 of byte 1 and bytes 2-3 and `t` in byte 4
(6 bytes), `v` in bytes 2-5 and `t` in 7-8 (10), `v` in 2-5 and `t` in 6-9 (12), `v` in 2-9 and
`t` in 10-13 (16). Every other byte, and bits 7-5 of byte 1, keep their values. -/
def withLbaXfer (cdb : Nat → UInt8) (v t : Nat) : Nat → UInt8 :=
  let b : Buf := ⟨cdb, 0⟩
  match (cdb 0 >>> 5).toNat with
  | 0 => (((putUnalignedBe 2 v b 2).set 1 ((cdb 1 &&& 0xe0) ||| UInt8.ofNat (v / 2 ^ 16))).set 4
      (UInt8.ofNat t)).byte
  | 1 | 2 => (putUnalignedBe 2 t (putUnalignedBe 4 v b 2) 7).byte
  | 4 => (putUnalignedBe 4 t (putUnalignedBe 8 v b 2) 10).byte
  | 5 => (putUnalignedBe 4 t (putUnalignedBe 4 v b 2) 6).byte
  | _ => cdb

theorem shiftLeft_or_of_lt {a b n : Nat} (h : b < 2 ^ n) : a <<< n ||| b = 2 ^ n * a + b := by
  apply Nat.eq_of_testBit_eq
  intro j
  rw [Nat.testBit_or, Nat.testBit_shiftLeft, Nat.testBit_mul_pow_two_add a h]
  by_cases hj : j < n
  · simp [hj]
  · have hb : b.testBit j = false :=
      Nat.testBit_lt_two_pow (lt_of_lt_of_le h (Nat.pow_le_pow_right (by omega) (by omega)))
    simp [hj, hb, Nat.le_of_not_lt hj]

theorem uint8_toNat_or (x y : UInt8) : (x ||| y).toNat = x.toNat ||| y.toNat := BitVec.toNat_or ..

/-- Bits 4-0 of byte 1 after the 6-byte encoding are bits 20-16 of `v`. -/
theorem lba_high_bits {a : UInt8} {v : Nat} (hv : v < 2 ^ 21) :
    (((a &&& 0xe0) ||| UInt8.ofNat (v / 2 ^ 16)) &&& 0x1f).toNat = v / 2 ^ 16 := by
  have hw : (UInt8.ofNat (v / 2 ^ 16)).toNat = v / 2 ^ 16 :=
    Nat.mod_eq_of_lt (by rw [Nat.div_lt_iff_lt_mul (by omega)]; omega)
  rw [UInt8.and_toNat, uint8_toNat_or, UInt8.and_toNat, hw, Nat.and_distrib_right, Nat.and_assoc]
  rw [show (UInt8.toNat 0xe0 &&& UInt8.toNat 0x1f) = 0 from rfl, Nat.and_zero, Nat.zero_or,
    show UInt8.toNat 0x1f = 2 ^ 5 - 1 from rfl,
    Nat.and_pow_two_sub_one_of_lt_two_pow (by rw [Nat.div_lt_iff_lt_mul (by omega)]; omega)]

/-- The two big-endian fields of a 10-, 12- or 16-byte CDB read back, and byte 0 is kept. -/
theorem getBe_fields (cdb : Nat → UInt8) (v t wv wt ot : Nat) (hot : 2 + wv ≤ ot) :
    let c := (putUnalignedBe wt t (putUnalignedBe wv v ⟨cdb, 0⟩ 2) ot).byte
    getBe c 2 wv = v % 256 ^ wv ∧ getBe c ot wt = t % 256 ^ wt ∧ c 0 = cdb 0 :=
  ⟨(Buf.getBe_putUnalignedBe_of_disjoint (.inr hot)).trans Buf.getBe_putUnalignedBe_self,
    Buf.getBe_putUnalignedBe_self,
    (Buf.byte_putUnalignedBe_of_lt (by omega)).trans (Buf.byte_putUnalignedBe_of_lt (by omega))⟩

/-- A 6-byte CDB decodes the LBA written in bits 4-0 of byte 1 and bytes 2-3, and the transfer
length written in byte 4. -/
theorem lba_xfer_of_six_byte_fields (cdb : Nat → UInt8) {v t : Nat} (hg : (cdb 0 >>> 5).toNat = 0)
    (hv : v < 2 ^ 21) (ht : t < 2 ^ 8) :
    let c := (((putUnalignedBe 2 v ⟨cdb, 0⟩ 2).set 1
      ((cdb 1 &&& 0xe0) ||| UInt8.ofNat (v / 2 ^ 16))).set 4 (UInt8.ofNat t)).byte
    tcmuGetLba c = some v ∧ tcmuGetXferLength c = some t := by
  intro c
  have hlen : tcmuGetCdbLength c = 6 := by
    simp only [c, tcmuGetCdbLength, Buf.byte_set, Buf.byte_putUnalignedBe_of_lt (show 0 < 2 by omega)]
    simp [hg]
  simp only [tcmuGetLba, tcmuGetXferLength, hlen, c]
  simp only [Buf.byte_set, Buf.getBe_set_of_disjoint (show 4 < 2 ∨ 2 + 2 ≤ 4 by omega),
    Buf.getBe_set_of_disjoint (show 1 < 2 ∨ 2 + 2 ≤ 1 by omega), Buf.getBe_putUnalignedBe_self,
    Nat.reduceEqDiff, ite_true, ite_false, lba_high_bits hv,
    shiftLeft_or_of_lt (show v % 256 ^ 2 < 2 ^ 16 by omega),
    UInt8.toNat_ofNat_of_lt (show t < UInt8.size by exact ht)]
  exact ⟨congrArg some (by omega), trivial⟩

/-- A 10-, 12- or 16-byte CDB decodes the two fields it was written with, when the decoders read
them where they were written. -/
theorem lba_xfer_of_fields (cdb : Nat → UInt8) {v t : Nat} (wv wt ot : Nat) (hot : 2 + wv ≤ ot)
    (hv : v < 256 ^ wv) (ht : t < 256 ^ wt)
    (hdec : ∀ c : Nat → UInt8, c 0 = cdb 0 →
      tcmuGetLba c = some (getBe c 2 wv) ∧ tcmuGetXferLength c = some (getBe c ot wt)) :
    tcmuGetLba (putUnalignedBe wt t (putUnalignedBe wv v ⟨cdb, 0⟩ 2) ot).byte = some v ∧
      tcmuGetXferLength (putUnalignedBe wt t (putUnalignedBe wv v ⟨cdb, 0⟩ 2) ot).byte = some t := by
  obtain ⟨hl, hx, h0⟩ := getBe_fields cdb v t wv wt ot hot
  rw [(hdec _ h0).1, (hdec _ h0).2, hl, hx, Nat.mod_eq_of_lt hv, Nat.mod_eq_of_lt ht]
  exact ⟨rfl, rfl⟩

/-- **`tcmu_get_lba` and `tcmu_get_xfer_length` read back what an initiator wrote.** For every
CDB of group code 0, 1, 2, 4 or 5 and every LBA and transfer length that fit its fields, writing
them into the fields and decoding returns them, whatever the other bytes hold. -/
theorem cdb_lba_xfer_round_trip (cdb : Nat → UInt8) {v t : Nat} (h : FieldsFit (cdb 0) v t) :
    tcmuGetLba (withLbaXfer cdb v t) = some v ∧ tcmuGetXferLength (withLbaXfer cdb v t) = some t := by
  unfold FieldsFit at h
  split at h <;> rename_i hg
  case h_1 =>
    simp only [withLbaXfer, hg]
    exact lba_xfer_of_six_byte_fields cdb hg h.1 h.2
  case h_2 | h_3 =>
    simp only [withLbaXfer, hg]
    exact lba_xfer_of_fields cdb 4 2 7 (by omega) (by omega) (by omega) fun c h0 => by
      simp [tcmuGetLba, tcmuGetXferLength, tcmuGetCdbLength, h0, hg]
  case h_4 =>
    simp only [withLbaXfer, hg]
    exact lba_xfer_of_fields cdb 8 4 10 (by omega) (by omega) (by omega) fun c h0 => by
      simp [tcmuGetLba, tcmuGetXferLength, tcmuGetCdbLength, h0, hg]
  case h_5 =>
    simp only [withLbaXfer, hg]
    exact lba_xfer_of_fields cdb 4 4 6 (by omega) (by omega) (by omega) fun c h0 => by
      simp [tcmuGetLba, tcmuGetXferLength, tcmuGetCdbLength, h0, hg]
  case h_6 => exact h.elim

/-- A READ(10) (`28h`) of 8 blocks at LBA `12345678h`. -/
theorem cdb_lba_xfer_read10 :
    FieldsFit 0x28 0x12345678 8 ∧ tcmuGetLba (withLbaXfer (fun _ => 0x28) 0x12345678 8) = some 0x12345678 ∧
      tcmuGetXferLength (withLbaXfer (fun _ => 0x28) 0x12345678 8) = some 8 :=
  ⟨by decide, cdb_lba_xfer_round_trip (fun _ => 0x28) (by decide)⟩

/-- `tcmu_emulate_test_unit_ready` (lines 759-765). -/
def tcmuEmulateTestUnitReady (_cdb : Nat → UInt8) : Sts := .ok

/-- `tcmu_emulate_start_stop` (lines 1249-1264): no POWER CONDITION, and START set. -/
def tcmuEmulateStartStop (cdb : Nat → UInt8) : Sts :=
  if (cdb 4 >>> 4) &&& 0xf ≠ 0 then .invalidCdb
  else if cdb 4 &&& 0x01 = 0 then .invalidCdb
  else .ok

/-! ## Logging a CDB -/

/-- `CDB_TO_BUF_SIZE(bytes)` (line 1266): three characters a byte, and the NUL. -/
def cdbToBufSize (bytes : Nat) : Nat := bytes * 3 + 1

/-- `CDB_FIX_BYTES` (line 1267). -/
def cdbFixBytes : Nat := 64

/-- `CDB_FIX_SIZE` (line 1268): the size of the stack buffer `fix`. -/
def cdbFixSize : Nat := cdbToBufSize cdbFixBytes

/-- `"%x"` of a byte: its lower-case hexadecimal digits, without leading zeros. -/
def hexX (v : UInt8) : List UInt8 := (Nat.toDigits 16 v.toNat).map fun c => UInt8.ofNat c.toNat

/-- `n += sprintf(buf + n, fmt, ...)` printing the text `s`: `s` and its NUL at `buf[n]`, and `n`
moved past `s`. -/
def sprintfAt (st : Buf × Nat) (s : List UInt8) : Buf × Nat :=
  (st.1.writeList st.2 (s ++ [0]), st.2 + s.length)

/-- `tcmu_print_cdb_info` (lines 1269-1307): `none` when the CDB length is not supported or the
`malloc` fails (`mallocOk`), as nothing is printed then; else the size of the buffer the text goes
to (`fix`, or the `malloc`ed one past `CDB_FIX_SIZE` bytes) and that buffer after the `sprintf`s,
`"%x "` of each CDB byte, `info` if there is one, and `"\n"`. -/
def tcmuPrintCdbInfo (cdb : Nat → UInt8) (info : Option CStr) (mallocOk : Bool) :
    Option (Nat × Buf) :=
  let bytes := tcmuGetCdbLength cdb
  if bytes < 0 then none
  else
    let bytes := bytes.toNat
    if bytes > cdbFixSize ∧ !mallocOk then none
    else
      let size := if bytes > cdbFixSize then cdbToBufSize bytes else cdbFixSize
      let st := (List.range bytes).foldl (fun st i => sprintfAt st (hexX (cdb i) ++ [0x20]))
        (Buf.calloc, 0)
      let st := match info with
        | some s => sprintfAt st s.bytes
        | none => st
      some (size, (sprintfAt st [0x0a]).1)

/-- A byte prints as one hexadecimal digit below `10h`, else as two. -/
theorem length_hexX (v : UInt8) : (hexX v).length = if v.toNat < 16 then 1 else 2 := by
  have h : v.toNat < 256 := v.toNat_lt_size
  rw [hexX, List.length_map, Nat.toDigits, Nat.toDigitsCore]
  by_cases h16 : v.toNat < 16
  · rw [if_pos h16]
    simp [Nat.div_eq_of_lt h16]
  · rw [if_neg h16]
    obtain ⟨m, hm⟩ : ∃ m, v.toNat = m + 1 := ⟨v.toNat - 1, by omega⟩
    simp only [hm, show (m + 1) / 16 ≠ 0 by omega, if_false]
    rw [Nat.toDigitsCore]
    simp [show (m + 1) / 16 / 16 = 0 by omega]

/-- Once something is printed, the buffer is written up to `buf[n]`, the last NUL. -/
theorem sprintfAt_spec {st : Buf × Nat} (h : st.1.top ≤ st.2 + 1) (s : List UInt8) :
    (sprintfAt st s).2 = st.2 + s.length ∧ (sprintfAt st s).1.top = st.2 + s.length + 1 := by
  refine ⟨rfl, ?_⟩
  simp only [sprintfAt, Buf.top_writeList (List.append_ne_nil_of_right_ne_nil s (List.cons_ne_nil 0 [])),
    List.length_append, List.length_singleton]
  omega

theorem foldl_sprintfAt (f : Nat → List UInt8) : ∀ (l : List Nat) (st : Buf × Nat),
    st.1.top ≤ st.2 + 1 →
      (l.foldl (fun st i => sprintfAt st (f i)) st).2 = st.2 + (l.map fun i => (f i).length).sum ∧
        (l.foldl (fun st i => sprintfAt st (f i)) st).1.top ≤
          (l.foldl (fun st i => sprintfAt st (f i)) st).2 + 1
  | [], _, h => ⟨rfl, h⟩
  | i :: l, st, h => by
    obtain ⟨h₁, h₂⟩ := sprintfAt_spec h (f i)
    obtain ⟨r₁, r₂⟩ := foldl_sprintfAt f l (sprintfAt st (f i)) (by omega)
    simp only [List.foldl_cons, List.map_cons, List.sum_cons]
    exact ⟨by rw [r₁, h₁, Nat.add_assoc], r₂⟩

/-- What `tcmu_print_cdb_info` writes: `"%x "` of each CDB byte, `info`, `"\n"` and the NUL. -/
theorem tcmuPrintCdbInfo_top {cdb : Nat → UInt8} {info : Option CStr} {ok : Bool} {size : Nat}
    {b : Buf} (h : tcmuPrintCdbInfo cdb info ok = some (size, b)) :
    b.top = ((List.range (tcmuGetCdbLength cdb).toNat).map fun i => (hexX (cdb i)).length + 1).sum +
      ((info.map CStr.bytes).getD []).length + 2 := by
  unfold tcmuPrintCdbInfo at h
  dsimp only at h
  obtain ⟨f₁, f₂⟩ := foldl_sprintfAt (fun i => hexX (cdb i) ++ [0x20])
    (List.range (tcmuGetCdbLength cdb).toNat) (Buf.calloc, 0) (Nat.zero_le _)
  simp only [List.length_append, List.length_singleton, Nat.zero_add] at f₁
  generalize List.foldl _ (Buf.calloc, 0) _ = st at f₁ f₂ h
  split_ifs at h <;> obtain ⟨-, rfl⟩ := Prod.mk.inj (Option.some.inj h)
  all_goals cases info with
    | none =>
      obtain ⟨-, h₂⟩ := sprintfAt_spec f₂ [0x0a]
      simp only [h₂, f₁]
      rfl
    | some s =>
      obtain ⟨h₁, h₂⟩ := sprintfAt_spec f₂ s.bytes
      have h₀ : (sprintfAt st s.bytes).1.top ≤ (sprintfAt st s.bytes).2 + 1 := by omega
      obtain ⟨-, h₃⟩ := sprintfAt_spec h₀ [0x0a]
      simp only [h₃, h₁, f₁, Option.map_some', Option.getD_some, List.length_singleton]

/-- Bytes that print as two digits take three bytes each with their blank. -/
theorem sum_hexX_of_two_digits {cdb : Nat → UInt8} (hc : ∀ i, 16 ≤ (cdb i).toNat) (n : Nat) :
    ((List.range n).map fun i => (hexX (cdb i)).length + 1).sum = 3 * n := by
  induction n with
  | zero => rfl
  | succ n ih =>
    rw [List.range_succ, List.map_append, List.sum_append, ih]
    simp only [List.map_cons, List.map_nil, List.sum_cons, List.sum_nil, length_hexX,
      if_neg (Nat.not_lt.mpr (hc n))]
    omega

/-- With no `info` and every CDB byte printed as two digits, the text with its NUL takes three
bytes a CDB byte and two more. -/
theorem tcmuPrintCdbInfo_of_two_digits {cdb : Nat → UInt8} {size : Nat}
    (hc : ∀ i, 16 ≤ (cdb i).toNat) (hs : (tcmuPrintCdbInfo cdb none true).map Prod.fst = some size) :
    (tcmuPrintCdbInfo cdb none true).map (fun r => (r.1, r.2.top)) =
      some (size, 3 * (tcmuGetCdbLength cdb).toNat + 2) := by
  obtain ⟨⟨s, b⟩, hr, rfl⟩ := Option.map_eq_some'.mp hs
  rw [hr, Option.map_some', tcmuPrintCdbInfo_top hr, sum_hexX_of_two_digits hc]
  rfl

/-- A byte prints as at most two digits, three bytes with its blank. -/
theorem sum_hexX_le (cdb : Nat → UInt8) (n : Nat) :
    ((List.range n).map fun i => (hexX (cdb i)).length + 1).sum ≤ 3 * n := by
  induction n with
  | zero => rfl
  | succ n ih =>
    have h := length_hexX (cdb n)
    rw [List.range_succ, List.map_append, List.sum_append]
    simp only [List.map_cons, List.map_nil, List.sum_cons, List.sum_nil]
    split at h <;> omega

/-- Every group code but that of the variable-length CDB gives at most 16 bytes. -/
theorem tcmuGetCdbLength_le_sixteen {cdb : Nat → UInt8} (hc : cdb 0 ≠ 0x7f) :
    (tcmuGetCdbLength cdb).toNat ≤ 16 := by
  unfold tcmuGetCdbLength
  split <;> simp [hc, EINVAL]

/-- **A fixed-length CDB prints inside `fix`.** For every CDB but a variable-length one (`7fh`),
with no `info` or one of at most 143 characters, `tcmu_print_cdb_info` prints into `fix`, and the
text it writes, NUL included, stays within its `CDB_FIX_SIZE` bytes: the CDB is at most 16 bytes,
of at most three characters each. -/
theorem print_cdb_info_fits_fix {cdb : Nat → UInt8} {info : Option CStr} {ok : Bool} {size : Nat}
    {b : Buf} (h : tcmuPrintCdbInfo cdb info ok = some (size, b)) (hc : cdb 0 ≠ 0x7f)
    (hi : ((info.map CStr.bytes).getD []).length ≤ 143) :
    size = cdbFixSize ∧ b.top ≤ cdbFixSize := by
  have h16 := tcmuGetCdbLength_le_sixteen hc
  have hsum := sum_hexX_le cdb (tcmuGetCdbLength cdb).toNat
  refine ⟨?_, by rw [tcmuPrintCdbInfo_top h]; simp only [cdbFixSize, cdbToBufSize, cdbFixBytes]; omega⟩
  unfold tcmuPrintCdbInfo at h
  dsimp only at h
  split_ifs at h with h₀ h₁ h₂
  · exact absurd h₂ (by simp only [cdbFixSize, cdbToBufSize, cdbFixBytes]; omega)
  · exact (Prod.mk.inj (Option.some.inj h)).1.symm

/-- READ(16) with every byte printing as two digits and an `info` of 143 characters: the text
fills `fix` to its last byte. -/
theorem print_cdb_info_fits_read16 :
    let info := some (CStr.replicate 143 0x61 (by decide))
    ∃ size b, (tcmuPrintCdbInfo (fun i => [0x88].getD i 0xff) info true = some (size, b) ∧
      [0x88].getD 0 (0xff : UInt8) ≠ 0x7f ∧ ((info.map CStr.bytes).getD []).length ≤ 143) ∧
      (size = cdbFixSize ∧ b.top ≤ cdbFixSize) := by
  intro info
  obtain ⟨⟨size, b⟩, h⟩ := Option.isSome_iff_exists.mp
    (show (tcmuPrintCdbInfo (fun i => [0x88].getD i 0xff) info true).isSome from rfl)
  have hi : ((info.map CStr.bytes).getD []).length ≤ 143 := by simp [info, CStr.replicate]
  exact ⟨size, b, ⟨h, by decide, hi⟩, print_cdb_info_fits_fix h (by decide) hi⟩

/-- **The CDB text overruns its buffer.** A variable-length CDB (`7fh`) whose bytes all print as
two digits and whose ADDITIONAL CDB LENGTH is `7fh` is 135 bytes long, which is at most
`CDB_FIX_SIZE` (193), so it is printed into `fix[193]`: the text takes 407 bytes with its NUL.
With an ADDITIONAL CDB LENGTH of `ffh` the CDB is 263 bytes long and goes to a `malloc`ed buffer
of `CDB_TO_BUF_SIZE(263) = 790` bytes, and the text takes 791: the `"\n"` and the NUL were not
counted. Neither needs an `info` string, which no size accounts for at all. -/
theorem print_cdb_info_overflows :
    (tcmuPrintCdbInfo (fun _ => 0x7f) none true).map (fun r => (r.1, r.2.top)) = some (193, 407) ∧
      (tcmuPrintCdbInfo (fun i => if i = 7 then 0xff else 0x7f) none true).map
        (fun r => (r.1, r.2.top)) = some (790, 791) :=
  ⟨tcmuPrintCdbInfo_of_two_digits (fun _ => by decide) rfl,
    tcmuPrintCdbInfo_of_two_digits (fun i => by split <;> decide) rfl⟩

end TcmuRunner.Scsi
