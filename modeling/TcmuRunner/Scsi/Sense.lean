import TcmuRunner.Scsi.Cdb
import TcmuRunner.Iovec

/-!
# Sense data and READ CAPACITY (`api.c:185-217`, `767-841`)

The sense helpers fill the first 18 bytes of the caller's sense buffer with fixed-format sense
data (response code `70h`). Each of them clears those 18 bytes first, so its result does not
depend on what the buffer held, and a later one wipes what an earlier one wrote (the `_slice`
lemmas give the 18 bytes of each). `__tcmu_set_sense_data` alone does not clear the buffer, so it
can follow the helper that adds a field: after `tcmu_set_sense_key_specific_info` it gives the
sense data with SKSV and the field, but after `tcmu_set_sense_info` its store of `70h` to byte 0
clears VALID, so the INFORMATION it keeps is marked invalid
(**`sense_data_raw_after_helpers`**). READ CAPACITY(10) and (16) report the last LBA and the
block size.
-/

namespace TcmuRunner.Scsi

/-! ## Sense data -/

/-- `__tcmu_set_sense_data` (lines 185-192): fixed format, current, the sense key and the
additional sense code and qualifier. -/
def tcmuSetSenseDataRaw (senseBuf : Buf) (key : UInt8) (ascAscq : UInt16) : Buf :=
  senseBuf.stores [(0, 0x70), (2, key), (7, 0xa), (12, ((ascAscq >>> 8) &&& 0xff).toUInt8),
    (13, (ascAscq &&& 0xff).toUInt8)]

/-- `memset(sense_buf, 0, 18)`. -/
def clearSense (senseBuf : Buf) : Buf := senseBuf.writeList 0 (List.replicate 18 0)

/-- `tcmu_set_sense_data` (lines 194-199): the sense buffer and `TCMU_STS_PASSTHROUGH_ERR`. -/
def tcmuSetSenseData (senseBuf : Buf) (key : UInt8) (ascAscq : UInt16) : Buf × Sts :=
  (tcmuSetSenseDataRaw (clearSense senseBuf) key ascAscq, .passthroughErr)

/-- `tcmu_set_sense_key_specific_info` (lines 201-208): the field in bytes 16-17, and SKSV. -/
def tcmuSetSenseKeySpecificInfo (senseBuf : Buf) (info : UInt16) : Buf :=
  let b := putUnalignedBe16 info.toNat (clearSense senseBuf) 16
  b.set 15 (b.byte 15 ||| 0x80)

/-- `tcmu_set_sense_info` (lines 210-217): the INFORMATION field in bytes 3-6, and VALID. -/
def tcmuSetSenseInfo (senseBuf : Buf) (info : UInt32) : Buf :=
  let b := putUnalignedBe32 info.toNat (clearSense senseBuf) 3
  b.set 0 (b.byte 0 ||| 0x80)

variable (b : Buf)

/-- `__tcmu_set_sense_data` stores its five bytes and leaves the rest of the 18. -/
theorem slice_tcmuSetSenseDataRaw (key : UInt8) (ascAscq : UInt16) :
    (tcmuSetSenseDataRaw b key ascAscq).slice 0 18 =
      (((((b.slice 0 18).set 0 0x70).set 2 key).set 7 0xa).set 12
        ((ascAscq >>> 8) &&& 0xff).toUInt8).set 13 (ascAscq &&& 0xff).toUInt8 := by
  simp [Buf.slice, List.range'_succ, tcmuSetSenseDataRaw, Buf.byte_set]

theorem tcmuSetSenseData_slice (key : UInt8) (ascAscq : UInt16) :
    (tcmuSetSenseData b key ascAscq).1.slice 0 18 = [0x70, 0, key, 0, 0, 0, 0, 0xa, 0, 0, 0, 0,
      ((ascAscq >>> 8) &&& 0xff).toUInt8, (ascAscq &&& 0xff).toUInt8, 0, 0, 0, 0] :=
  rfl

theorem tcmuSetSenseKeySpecificInfo_slice (info : UInt16) :
    (tcmuSetSenseKeySpecificInfo b info).slice 0 18 =
      List.replicate 15 0 ++ [0x80] ++ beBytes 2 info.toNat := by
  with_unfolding_all rfl

theorem tcmuSetSenseInfo_slice (info : UInt32) :
    (tcmuSetSenseInfo b info).slice 0 18 =
      [0x80, 0, 0] ++ beBytes 4 info.toNat ++ List.replicate 11 0 := by
  with_unfolding_all rfl

/-- **`__tcmu_set_sense_data` after the field helpers.** Over what
`tcmu_set_sense_key_specific_info` wrote, it gives fixed-format sense data with the sense key, the
ASC and ASCQ, SKSV and the sense-key specific field. Over what `tcmu_set_sense_info` wrote, the
INFORMATION field is still in bytes 3-6, but byte 0 is `70h`: VALID is clear. -/
theorem sense_data_raw_after_helpers (key : UInt8) (ascAscq info₁₆ : UInt16) (info₃₂ : UInt32) :
    (tcmuSetSenseDataRaw (tcmuSetSenseKeySpecificInfo b info₁₆) key ascAscq).slice 0 18 =
        [0x70, 0, key, 0, 0, 0, 0, 0xa, 0, 0, 0, 0, ((ascAscq >>> 8) &&& 0xff).toUInt8,
          (ascAscq &&& 0xff).toUInt8, 0, 0x80] ++ beBytes 2 info₁₆.toNat ∧
      (tcmuSetSenseDataRaw (tcmuSetSenseInfo b info₃₂) key ascAscq).slice 0 18 =
        [0x70, 0, key] ++ beBytes 4 info₃₂.toNat ++ ([0xa, 0, 0, 0, 0,
          ((ascAscq >>> 8) &&& 0xff).toUInt8, (ascAscq &&& 0xff).toUInt8, 0, 0, 0, 0] : List UInt8) := by
  rw [slice_tcmuSetSenseDataRaw, slice_tcmuSetSenseDataRaw, tcmuSetSenseKeySpecificInfo_slice,
    tcmuSetSenseInfo_slice]
  exact ⟨by simp [List.replicate_succ], by simp [List.replicate_succ, List.set_append, length_beBytes]⟩

/-! ## READ CAPACITY -/

/-- `tcmu_emulate_read_capacity_10` (lines 767-798): the last LBA (`ffffffffh` past 32 bits) and
the block size. -/
def tcmuEmulateReadCapacity10 (numLbas : UInt64) (blockSize : UInt32) (iovec : List Iovec) :
    Sts × List Iovec :=
  let buf := putUnalignedBe32 (if numLbas < 0x100000000 then (numLbas - 1).toNat else 0xffffffff)
    (Buf.zeros 8) 0
  (.ok, (tcmuMemcpyIntoIovec iovec (putUnalignedBe32 blockSize.toNat buf 4).byte 8).1)

/-- `tcmu_emulate_read_capacity_16` (lines 800-841): the last LBA, the block size, and LBPME and
LBPRZ. -/
def tcmuEmulateReadCapacity16 (numLbas : UInt64) (blockSize : UInt32) (iovec : List Iovec) :
    Sts × List Iovec :=
  let buf := putUnalignedBe32 blockSize.toNat (putUnalignedBe64 (numLbas - 1).toNat (Buf.zeros 32) 0) 8
  (.ok, (tcmuMemcpyIntoIovec iovec (buf.set 14 (0x80 ||| 0x40)).byte 32).1)

end TcmuRunner.Scsi
