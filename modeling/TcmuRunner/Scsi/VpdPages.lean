import TcmuRunner.Scsi.Inquiry

/-!
# What VPD pages 80h and B0h carry

An initiator reads a VPD page by its fields: the PAGE LENGTH and then that many bytes for the
Unit Serial Number page (SPC-4 7.8.15), fixed big-endian fields at fixed offsets for the Block
Limits page (SBC-3 6.5.3). This module reads the bytes `tcmu_emulate_evpd_inquiry` delivers that
way.

* `evpd_unit_serial_reads_back`: page 80h carries the serial and its NUL, and its PAGE LENGTH
  counts exactly those bytes, for every serial of at most 254 characters (the kernel's limit).
* `evpd_block_limits_reads_back`: read by `parseBlockLimits`, page B0h holds the fields
  `blockLimits` lists. No field write overlaps another, every value is written big-endian, and
  setting UGAVALID leaves the low 31 bits of UNMAP GRANULARITY ALIGNMENT alone.
-/

namespace TcmuRunner.Scsi

/-! ## Page 80h: the unit serial -/

/-- The bytes of page 80h up to the serial's NUL. -/
theorem slice_unitSerialPage (wwn : CStr) (hlen : wwn.bytes.length ≤ 254) :
    (unitSerialPage wwn).slice 0 (wwn.bytes.length + 5) =
      [0, 0x80, 0, UInt8.ofNat (wwn.bytes.length + 1)] ++ (wwn.bytes ++ [0]) := by
  have hW : (wwn.bytes ++ [0]).length = wwn.bytes.length + 1 := List.length_append _ _
  rw [unitSerialPage, Buf.snprintf_of_lt (by omega), show wwn.bytes.length + 5 = 1 + 1 + 1 + 1 +
      (wwn.bytes.length + 1) by omega, Buf.slice_add _ _ (1 + 1 + 1 + 1),
    Buf.slice_add _ _ (1 + 1 + 1), Buf.slice_add _ _ (1 + 1), Buf.slice_add _ _ 1]
  simp (disch := omega) only [Buf.slice_set_of_ne, Buf.slice_set_self, Buf.slice_writeList_of_le,
    Buf.slice_writeList_of_ge, Buf.slice_writeList_eq, Nat.reduceAdd]
  rfl

/-- **Page 80h reads back the serial.** For a device whose serial has at most 254 characters,
INQUIRY of VPD page 80h returns GOOD, the page code, a PAGE LENGTH of the serial's length plus
one, and as that many bytes after the header the serial and its NUL. -/
theorem evpd_unit_serial_reads_back (lim : VpdLimits) {dev : Dev} {port : Option TgtPort}
    {cdb : Nat → UInt8} {iovec : List Iovec} {wwn : CStr} (hcdb : cdb 2 = 0x80)
    (hwwn : dev.wwn = some wwn) (hlen : wwn.bytes.length ≤ 254)
    (hl : wwn.bytes.length + 5 ≤ tcmuIovecLength iovec) :
    let r := tcmuEmulateEvpdInquiry lim dev port cdb iovec
    let page := flat (windowsOver iovec r.2)
    r.1 = .ok ∧ page.take 3 = [0, 0x80, 0] ∧ (page.getD 3 0).toNat = wwn.bytes.length + 1 ∧
      (page.drop 4).take (page.getD 3 0).toNat = wwn.bytes ++ [0] := by
  intro r page
  have hr : r = (.ok, (tcmuMemcpyIntoIovec iovec (unitSerialPage wwn).byte 512).1) := by
    simp only [r, tcmuEmulateEvpdInquiry, hcdb]
    rw [hwwn]
    rfl
  have htake : page.take (wwn.bytes.length + 5) =
      [0, 0x80, 0, UInt8.ofNat (wwn.bytes.length + 1)] ++ (wwn.bytes ++ [0]) := by
    simp only [page, hr]
    rw [take_flat_memcpyInto _ (show wwn.bytes.length + 5 ≤ 512 by omega) hl,
      List.range_eq_range', ← slice_unitSerialPage wwn hlen]
    rfl
  have h3 : (page.getD 3 0).toNat = wwn.bytes.length + 1 := by
    rw [List.getD_eq_getElem?_getD, ← List.getElem?_take_of_lt (show 3 < wwn.bytes.length + 5 by
      omega), htake, List.getElem?_append_left (by simp)]
    show (UInt8.ofNat (wwn.bytes.length + 1)).toNat = _
    exact Nat.mod_eq_of_lt (by omega)
  refine ⟨by rw [hr], ?_, h3, ?_⟩
  · have h := congrArg (List.take 3) htake
    rwa [List.take_take, min_eq_left (by omega)] at h
  · have h := congrArg (fun l => (l.drop 4).take (wwn.bytes.length + 1)) htake
    simp only [List.drop_take, List.take_take, min_eq_left (show wwn.bytes.length + 1 ≤
      wwn.bytes.length + 5 - 4 by omega)] at h
    rw [h3, h]
    simp

/-- The spec's example: serial `naa.5000`, PAGE LENGTH 9. -/
theorem evpd_unit_serial_naa5000 :
    let wwn : CStr := ⟨ascii "naa.5000", by decide⟩
    let dev : Dev := ⟨512, 5, false, some wwn, ⟨[], List.not_mem_nil 0⟩, 0, 0, 0, false, false⟩
    let cdb : Nat → UInt8 := fun i => [0x12, 0x01, 0x80, 0, 255].getD i 0
    let iovec : List Iovec := [⟨fun _ => 0, 0, 255⟩]
    (cdb 2 = 0x80 ∧ dev.wwn = some wwn ∧ wwn.bytes.length ≤ 254 ∧
      wwn.bytes.length + 5 ≤ tcmuIovecLength iovec) ∧
    let r := tcmuEmulateEvpdInquiry ⟨0, 0, 0⟩ dev none cdb iovec
    let page := flat (windowsOver iovec r.2)
    r.1 = .ok ∧ page.take 3 = [0, 0x80, 0] ∧ (page.getD 3 0).toNat = wwn.bytes.length + 1 ∧
      (page.drop 4).take (page.getD 3 0).toNat = wwn.bytes ++ [0] :=
  ⟨⟨rfl, rfl, by decide, by decide⟩, evpd_unit_serial_reads_back _ rfl rfl (by decide) (by decide)⟩

/-! ## Page B0h: block limits -/

/-- The Block Limits page as an initiator reads it: the fields tcmu fills. -/
structure BlockLimits where
  /-- Byte 4, bit 0: WSNZ. -/
  wsnz : Bool
  /-- Byte 5: MAXIMUM COMPARE AND WRITE LENGTH. -/
  maxCompareAndWriteLength : Nat
  /-- Bytes 8-11: MAXIMUM TRANSFER LENGTH. -/
  maxTransferLength : Nat
  /-- Bytes 12-15: OPTIMAL TRANSFER LENGTH. -/
  optimalTransferLength : Nat
  /-- Bytes 20-23: MAXIMUM UNMAP LBA COUNT. -/
  maxUnmapLbaCount : Nat
  /-- Bytes 24-27: MAXIMUM UNMAP BLOCK DESCRIPTOR COUNT. -/
  maxUnmapBlockDescriptorCount : Nat
  /-- Bytes 28-31: OPTIMAL UNMAP GRANULARITY. -/
  optimalUnmapGranularity : Nat
  /-- Byte 32, bit 7: UGAVALID. -/
  ugavalid : Bool
  /-- Bytes 32-35 below bit 31: UNMAP GRANULARITY ALIGNMENT. -/
  unmapGranularityAlignment : Nat
  /-- Bytes 36-43: MAXIMUM WRITE SAME LENGTH. -/
  maxWriteSameLength : Nat
  deriving DecidableEq, Repr

/-- Reading page B0h: `none` unless byte 1 is the page code and the PAGE LENGTH is 3Ch. -/
def parseBlockLimits (p : Nat → UInt8) : Option BlockLimits :=
  if p 1 = 0xb0 ∧ getBe p 2 2 = 0x3c then
    some ⟨p 4 &&& 0x01 = 0x01, (p 5).toNat, getBe p 8 4, getBe p 12 4, getBe p 20 4, getBe p 24 4,
      getBe p 28 4, p 32 &&& 0x80 = 0x80, getBe p 32 4 % 2 ^ 31, getBe p 36 8⟩
  else none

/-- What page B0h is meant to say: WSNZ, COMPARE AND WRITE of at most one block, the device's
maximum transfer length as both transfer lengths, the unmap limits, granularity and alignment
only when the handler can unmap, and the write-same limit; each as wide as its field. -/
def blockLimits (lim : VpdLimits) (dev : Dev) : BlockLimits :=
  ⟨true, 1, dev.maxXferLen.toNat, dev.maxXferLen.toNat,
    if dev.unmap then lim.maxUnmapLbaCount % 2 ^ 32 else 0,
    if dev.unmap then lim.maxUnmapBlockDescCount % 2 ^ 32 else 0,
    if dev.unmap then dev.optUnmapGran.toNat else 0, dev.unmap,
    if dev.unmap then dev.unmapGranAlign.toNat % 2 ^ 31 else 0, lim.maxWriteSameLength % 2 ^ 64⟩

/-- `x |= 0x80` sets bit 7 and keeps the low seven bits. -/
theorem or_0x80 (x : UInt8) :
    (x ||| 0x80) &&& 0x80 = 0x80 ∧ (x ||| 0x80).toNat % 128 = x.toNat % 128 := by
  obtain ⟨v⟩ := x
  revert v
  decide

/-- Setting bit 7 of the first byte leaves a 4-byte field's low 31 bits alone. -/
theorem getBe_set_ugavalid (b : Buf) (i : Nat) :
    getBe (b.set i (b.byte i ||| 0x80)).byte i 4 % 2 ^ 31 = getBe b.byte i 4 % 2 ^ 31 := by
  have hk : ∀ k, 0 < k → (b.set i (b.byte i ||| 0x80)).byte (i + k) = b.byte (i + k) :=
    fun k hk => Buf.byte_set_of_ne (by omega)
  simp only [getBe, Nat.add_zero, Buf.byte_set_self, hk 1 Nat.one_pos, hk 2 (by omega),
    hk 3 (by omega)]
  have := (or_0x80 (b.byte i)).2
  simp only [Nat.reducePow]
  omega

/-- The reader looks at the first 64 bytes only. -/
theorem parseBlockLimits_congr {p q : Nat → UInt8} (h : ∀ k < 64, p k = q k) :
    parseBlockLimits p = parseBlockLimits q := by
  have hb : ∀ i w, i + w ≤ 64 → getBe p i w = getBe q i w :=
    fun i w hiw => getBe_congr fun k hk => h _ (by omega)
  simp only [parseBlockLimits, h 1 (by omega), h 4 (by omega), h 5 (by omega), h 32 (by omega),
    hb 2 2 (by omega), hb 8 4 (by omega), hb 12 4 (by omega), hb 20 4 (by omega),
    hb 24 4 (by omega), hb 28 4 (by omega), hb 32 4 (by omega), hb 36 8 (by omega)]

/-- The builder of page B0h writes the fields `blockLimits` lists. -/
theorem parseBlockLimits_blockLimitsPage (lim : VpdLimits) (dev : Dev) :
    parseBlockLimits (blockLimitsPage lim dev).byte = some (blockLimits lim dev) := by
  have hmx : dev.maxXferLen.toNat % 4294967296 = dev.maxXferLen.toNat :=
    Nat.mod_eq_of_lt dev.maxXferLen.toNat_lt_size
  have hgr : dev.optUnmapGran.toNat % 4294967296 = dev.optUnmapGran.toNat :=
    Nat.mod_eq_of_lt dev.optUnmapGran.toNat_lt_size
  have hal : dev.unmapGranAlign.toNat % 4294967296 % 2147483648 =
      dev.unmapGranAlign.toNat % 2147483648 := Nat.mod_mod_of_dvd _ (by decide)
  have hand : ∀ x : UInt8, (x ||| 0x80) &&& 0x80 = 0x80 := fun x => (or_0x80 x).1
  cases hu : dev.unmap <;>
    simp (disch := decide) only [parseBlockLimits, blockLimits, blockLimitsPage, hu, ↓reduceIte,
      Bool.false_eq_true, putUnalignedBe16, putUnalignedBe32, putUnalignedBe64, Buf.stores_cons,
      Buf.stores_nil, Buf.getBe_putUnalignedBe_self, Buf.getBe_putUnalignedBe_of_disjoint,
      Buf.getBe_set_of_disjoint, Buf.getBe_zeros, Buf.byte_putUnalignedBe_of_lt,
      Buf.byte_putUnalignedBe_of_le, Buf.byte_set_of_ne, Buf.byte_set_self, Buf.byte_zeros,
      getBe_set_ugavalid] <;>
    simp only [Nat.reducePow, Nat.reduceMod, hmx, hgr, hal, hand, and_self, ↓reduceIte] <;>
    rfl

/-- **Page B0h reads back its fields.** INQUIRY of VPD page B0h returns GOOD, and an initiator
reading the page it receives by the Block Limits layout gets `blockLimits`: every field the
builder sets, at its offset, big-endian, for every device and every set of limits. -/
theorem evpd_block_limits_reads_back (lim : VpdLimits) {dev : Dev} {port : Option TgtPort}
    {cdb : Nat → UInt8} {iovec : List Iovec} (hcdb : cdb 2 = 0xb0)
    (hl : 64 ≤ tcmuIovecLength iovec) :
    let r := tcmuEmulateEvpdInquiry lim dev port cdb iovec
    r.1 = .ok ∧
      parseBlockLimits (fun k => (flat (windowsOver iovec r.2)).getD k 0) =
        some (blockLimits lim dev) := by
  intro r
  have hr : r = (.ok, (tcmuMemcpyIntoIovec iovec (blockLimitsPage lim dev).byte 64).1) := by
    simp only [r, tcmuEmulateEvpdInquiry, hcdb]
    rfl
  refine ⟨by rw [hr], ?_⟩
  rw [← parseBlockLimits_blockLimitsPage lim dev]
  refine parseBlockLimits_congr fun k hk => ?_
  rw [hr]
  exact getD_flat_memcpyInto _ hk (by omega)

/-- A thin-provisioned device with a 1 MiB transfer limit, asked into 64 bytes. -/
theorem evpd_block_limits_of_thin_disk :
    let lim : VpdLimits := ⟨8192, 1, 1024⟩
    let dev : Dev := ⟨512, 1, false, none, ⟨[], List.not_mem_nil 0⟩, 2048, 8, 0, true, true⟩
    let cdb : Nat → UInt8 := fun i => [0x12, 0x01, 0xb0, 0, 64].getD i 0
    let iovec : List Iovec := [⟨fun _ => 0, 0, 64⟩]
    (cdb 2 = 0xb0 ∧ 64 ≤ tcmuIovecLength iovec) ∧
    let r := tcmuEmulateEvpdInquiry lim dev none cdb iovec
    r.1 = .ok ∧
      parseBlockLimits (fun k => (flat (windowsOver iovec r.2)).getD k 0) =
        some (blockLimits lim dev) :=
  ⟨⟨rfl, by decide⟩, evpd_block_limits_reads_back _ rfl (by decide)⟩

end TcmuRunner.Scsi
