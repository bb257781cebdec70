import TcmuRunner.Scsi.Cdb
import TcmuRunner.Iovec

/-!
# INQUIRY (`api.c:294-757`)

Model of `tcmu_emulate_inquiry`: the standard INQUIRY data (`tcmu_emulate_std_inquiry`) and the
vital product data pages of `tcmu_emulate_evpd_inquiry`. Each page is built in a local array and
a prefix of it is copied into the iovec.

The Device Identification page (`83h`) is a list of designation descriptors, each a 4-byte
header whose byte 3 is the DESIGNATOR LENGTH, then the designator. The builder keeps `ptr`, where
the next descriptor goes, and `used`, the length of the list so far, adds each descriptor in
turn (`t10VendorId`, `naaBinary`, `vendorSpecific`, and with a target port `portDesignator`
twice and `scsiNameDesignator` twice), then writes `used` as the PAGE LENGTH and copies
`used + 4` bytes. Nothing bounds the strings against the 512 bytes of `data`: the `snprintf` of
each later designator is given `sizeof(data) - used - 4` bytes though it starts at
`&data[used + 8]`, and the length bytes are single bytes.

The NAA designator's loop (`naaLoop`) is specified digit by digit: **`naa_loop_packs_digits`**
says it writes only bytes 7-19 of the descriptor, ORs the first hexadecimal digit of the wwn into
byte 7 (`50h` there, from line 450) and packs the next 24 two to a byte, as the kernel does.
-/

namespace TcmuRunner.Scsi

/-! ## Standard INQUIRY data -/

/-- `tcmu_emulate_std_inquiry` (lines 294-326): 36 bytes of standard INQUIRY data. -/
def tcmuEmulateStdInquiry (port : Option TgtPort) (iovec : List Iovec) : Sts × List Iovec :=
  let buf := (Buf.zeros 36).stores [(2, 0x05), (3, 0x02),
    (5, 0x08 ||| match port with | some port => port.grpTpgs | none => 0), (7, 0x02)]
  let buf := (buf.writeList 8 (ascii "LIO-ORG ")).writeList 16 (List.replicate 16 0x20)
  let buf := ((buf.writeList 16 (ascii "TCMU device")).writeList 32 (ascii "0002")).set 4 31
  (.ok, (tcmuMemcpyIntoIovec iovec buf.byte 36).1)

/-! ## The Device Identification page -/

/-- `char_to_hex` (lines 329-344): the value of a hexadecimal digit. -/
def charToHex (c : UInt8) : Option UInt8 :=
  if 0x30 ≤ c ∧ c ≤ 0x39 then some (c - 0x30)
  else if 0x61 ≤ c ∧ c ≤ 0x66 then some (c - 0x61 + 10)
  else if 0x41 ≤ c ∧ c ≤ 0x46 then some (c - 0x41 + 10)
  else none

/-- The NAA loop (lines 459-473) over the rest `p` of the wwn: each hexadecimal digit fills the
low nibble of `ptr[i]` (then `i` moves on) or the high nibble of the next, other characters are
skipped, and the loop stops at the NUL or once `i` reaches 20. -/
def naaLoop (ptr : Nat) : List UInt8 → Bool → Nat → Buf → Buf
  | [], _, _, data => data
  | c :: p, next, i, data =>
    if i < 20 then
      match charToHex c with
      | none => naaLoop ptr p next i data
      | some val =>
        if next then naaLoop ptr p false (i + 1) (data.set (ptr + i) (data.byte (ptr + i) ||| val))
        else naaLoop ptr p true i (data.set (ptr + i) (val <<< 4))
    else data

theorem uint8_or_zero (x : UInt8) : x ||| 0 = x :=
  UInt8.toNat.inj (by rw [uint8_toNat_or]; exact Nat.or_zero _)

/-- What the NAA loop leaves from `ptr[i]` on. With `next` set, the first digit goes into the low
nibble of `ptr[i]`, and the pairs after it into `ptr[i + 1]`, …; with `next` clear the pairs start
at `ptr[i]`. Bytes the digits do not reach keep their (zero) value, and nothing outside
`ptr[i..19]` is written. -/
theorem naaLoop_bytes (p : Nat) : ∀ (w : List UInt8) (next : Bool) (i : Nat) (x : Buf),
    (next = true → i < 20) →
    (∀ j, i + (if next then 1 else 0) ≤ j → j < 20 → x.byte (p + j) = 0) →
    (∀ a, a < p + i ∨ p + 20 ≤ a → (naaLoop p w next i x).byte a = x.byte a) ∧
    (next = true →
      (naaLoop p w next i x).byte (p + i) = x.byte (p + i) ||| (w.filterMap charToHex).getD 0 0) ∧
    ∀ k, i + (if next then 1 else 0) + k < 20 →
      (naaLoop p w next i x).byte (p + (i + (if next then 1 else 0) + k)) =
        ((w.filterMap charToHex).getD (2 * k + (if next then 1 else 0)) 0 <<< 4) |||
          (w.filterMap charToHex).getD (2 * k + (if next then 1 else 0) + 1) 0
  | [], next, i, x, _, hz => ⟨fun _ _ => rfl, fun _ => (uint8_or_zero _).symm,
      fun k hk => by
        rw [naaLoop, hz _ (by omega) (by omega), List.filterMap_nil, List.getD_nil, List.getD_nil]
        decide⟩
  | c :: w, next, i, x, hi, hz => by
    unfold naaLoop
    split
    · rename_i hi20
      cases hc : charToHex c with
      | none =>
        simpa only [List.filterMap_cons, hc] using naaLoop_bytes p w next i x hi hz
      | some val =>
        have hz' : ∀ u, ∀ j, i + 1 ≤ j → j < 20 → (x.set (p + i) u).byte (p + j) = 0 :=
          fun u j hj hj' => by
            rw [Buf.byte_set_of_ne (by omega)]
            exact hz j (by split <;> omega) hj'
        cases next with
        | true =>
          obtain ⟨hf, -, hb⟩ := naaLoop_bytes p w false (i + 1)
            (x.set (p + i) (x.byte (p + i) ||| val)) nofun (hz' _)
          simp only [List.filterMap_cons, hc, if_true, Bool.false_eq_true, if_false,
            Nat.add_zero] at hb ⊢
          refine ⟨fun a ha => (hf a (by omega)).trans (Buf.byte_set_of_ne (by omega)),
            fun _ => by rw [hf _ (by omega), Buf.byte_set_self]; rfl, fun k hk => ?_⟩
          rw [hb k hk, List.getD_cons_succ, List.getD_cons_succ]
        | false =>
          obtain ⟨hf, hlo, hb⟩ := naaLoop_bytes p w true i (x.set (p + i) (val <<< 4))
            (fun _ => hi20) (hz' _)
          have hlo := hlo rfl
          simp only [List.filterMap_cons, hc, if_true, Bool.false_eq_true, if_false,
            Nat.add_zero] at hlo hb ⊢
          refine ⟨fun a ha => (hf a ha).trans (Buf.byte_set_of_ne (by omega)), nofun,
            fun k hk => ?_⟩
          cases k with
          | zero => rw [Nat.add_zero, hlo, Buf.byte_set_self]; rfl
          | succ k =>
            rw [show i + (k + 1) = i + 1 + k by omega, hb k (by omega),
              show 2 * (k + 1) = 2 * k + 1 + 1 by omega, List.getD_cons_succ, List.getD_cons_succ]
    · exact ⟨fun _ _ => rfl, fun h => absurd (hi h) ‹_›, fun k hk => by split at hk <;> omega⟩

/-- **The NAA loop packs the wwn's digits two to a byte.** Run from `i = 7` with `next` set over
any wwn, on a descriptor whose bytes 8-19 are zero, the loop writes only bytes 7-19: byte 7 gets
the first hexadecimal digit `h 0` in its low nibble, and byte `8 + j` is `h (2j + 1) << 4 |
h (2j + 2)` for `j < 12`, where `h` lists the wwn's digit values in order, other characters
skipped and digits past the end read as `0`. -/
theorem naa_loop_packs_digits (p : Nat) (wwn : List UInt8) (x : Buf)
    (hz : ∀ j, 8 ≤ j → j < 20 → x.byte (p + j) = 0) :
    (∀ a, a < p + 7 ∨ p + 20 ≤ a → (naaLoop p wwn true 7 x).byte a = x.byte a) ∧
      (naaLoop p wwn true 7 x).byte (p + 7) = x.byte (p + 7) ||| (wwn.filterMap charToHex).getD 0 0 ∧
      ∀ j < 12, (naaLoop p wwn true 7 x).byte (p + 8 + j) =
        ((wwn.filterMap charToHex).getD (2 * j + 1) 0 <<< 4) ||| (wwn.filterMap charToHex).getD (2 * j + 2) 0 := by
  obtain ⟨hf, h7, hb⟩ := naaLoop_bytes p wwn true 7 x (fun _ => by omega) fun j hj => hz j (by simpa using hj)
  exact ⟨hf, h7 rfl, fun j hj => by simpa [Nat.add_assoc] using hb j (by simp; omega)⟩

/-- The descriptor of a wwn `"5001405-abc"` as the builder leaves it at `data[0]`. -/
theorem naa_loop_packs_example :
    let x := (Buf.zeros 20).set 7 0x50
    let wwn := ascii "5001405-abc"
    (∀ a, a < 0 + 7 ∨ 0 + 20 ≤ a → (naaLoop 0 wwn true 7 x).byte a = x.byte a) ∧
      (naaLoop 0 wwn true 7 x).byte (0 + 7) = x.byte (0 + 7) ||| (wwn.filterMap charToHex).getD 0 0 ∧
      ∀ j < 12, (naaLoop 0 wwn true 7 x).byte (0 + 8 + j) =
        ((wwn.filterMap charToHex).getD (2 * j + 1) 0 <<< 4) ||| (wwn.filterMap charToHex).getD (2 * j + 2) 0 :=
  naa_loop_packs_digits 0 _ _ fun j hj _ => by simp [Buf.byte_set, show j ≠ 7 by omega]

/-- `%04x` of a 16-bit value: four lower-case hexadecimal digits. -/
def hex04 (v : UInt16) : List UInt8 :=
  ([12, 8, 4, 0] : List UInt16).map fun s => (ascii "0123456789abcdef").getD ((v >>> s) &&& 0xf).toNat 0

/-- The page 0x83 builder's variables: `data`, `ptr` (an index into `data`) and `used`. -/
structure Page83 where
  data : Buf
  ptr : Nat
  used : Nat

/-- Lines 411-427: `data` zeroed, the page code, `ptr = &data[4]`. -/
def page83Start : Page83 := ⟨(Buf.zeros 512).set 1 0x83, 4, 0⟩

/-- 1/5 (lines 429-437): the T10 vendor id designator, `"LIO-ORG "` and the wwn. -/
def t10VendorId (wwn : CStr) (st : Page83) : Page83 :=
  let p := st.ptr
  let data := ((st.data.stores [(p, 2), (p + 1, 1)]).writeList (p + 4) (ascii "LIO-ORG ")).snprintf
    (p + 12) (sizeSub 512 16) wwn.bytes
  let len := wwn.bytes.length
  let data := data.set (p + 3) (UInt8.ofNat (8 + len + 1))
  let used := st.used + ((data.byte (p + 3)).toNat + 4)
  ⟨data, p + used, used⟩

/-- 2/5 (lines 439-476): the NAA designator, type 6 with the OpenFabrics company id `00 14 05`,
then the wwn's digits (`naaLoop`). -/
def naaBinary (wwn : CStr) (st : Page83) : Page83 :=
  let p := st.ptr
  let data := st.data.stores
    [(p, 1), (p + 1, 3), (p + 3, 16), (p + 4, 0x60), (p + 5, 0x01), (p + 6, 0x40), (p + 7, 0x50)]
  ⟨naaLoop p wwn.bytes true 7 data, p + 20, st.used + 20⟩

/-- 3/6 (lines 478-486): the vendor specific designator, the `cfgstring`. -/
def vendorSpecific (cfgstring : CStr) (st : Page83) : Page83 :=
  let p := st.ptr
  let data := (st.data.stores [(p, 2), (p + 1, 0)]).snprintf (p + 4)
    (sizeSub (sizeSub 512 st.used) 4) cfgstring.bytes
  let len := cfgstring.bytes.length
  let data := data.set (p + 3) (UInt8.ofNat (len + 1))
  let n := (data.byte (p + 3)).toNat + 4
  ⟨data, p + n, st.used + n⟩

/-- The relative target port (4/5, lines 491-502) and target port group (5/5, lines 504-515)
designators: binary, PIV, associated with the target port, designator type `type`, and `id` in
bytes 6-7. Each `ptr[k] = ...; ptr[k] |= ...;` pair is one store of its final value. -/
def portDesignator (type protoId : UInt8) (id : UInt16) (st : Page83) : Page83 :=
  let p := st.ptr
  ⟨st.data.stores [(p, protoId <<< 4 ||| 0x1), (p + 1, 0x80 ||| 0x10 ||| type), (p + 3, 4),
    (p + 6, ((id >>> 8) &&& 0xff).toUInt8), (p + 7, (id &&& 0xff).toUInt8)], p + 8, st.used + 8⟩

/-- 4/5: the relative target port designator. -/
def relTgtPortId (port : TgtPort) : Page83 → Page83 := portDesignator 0x4 port.protoId port.relPortId

/-- 5/5: the target port group designator. -/
def tgtPortGroup (port : TgtPort) : Page83 → Page83 := portDesignator 0x5 port.protoId port.grpId

/-- The SCSI name string designators (lines 517-540 for the target port, 542-564 for the target
device): UTF-8, PIV, association `assoc`, the text `s` and its NUL, the length padded to a
multiple of 4 (`padding = (-len) & 3`) and cut to 256. The source leaves `ptr` in place after the
last one, where nothing reads it. -/
def scsiNameDesignator (assoc protoId : UInt8) (s : List UInt8) (st : Page83) : Page83 :=
  let p := st.ptr
  let data := (st.data.stores [(p, protoId <<< 4 ||| 0x3), (p + 1, 0x80 ||| assoc ||| 0x8)]).snprintf
    (p + 4) (sizeSub (sizeSub 512 st.used) 4) s
  let len := s.length + 1
  let padding := sizeSub 0 len &&& 3
  let len := if padding ≠ 0 then len + padding else len
  let len := if len > 256 then 256 else len
  ⟨data.set (p + 3) (UInt8.ofNat len), p + len + 4, st.used + len + 4⟩

/-- The text of the target port's SCSI name: `"%s,t,0x%04x"` of its wwn and `tpgt`. -/
def portName (port : TgtPort) : List UInt8 := port.wwn.bytes ++ ascii ",t,0x" ++ hex04 port.tpgt

/-- The descriptors of page 0x83 (lines 409-564): without a target port the first three. -/
def page83 (wwn cfgstring : CStr) (port : Option TgtPort) : Page83 :=
  let st := vendorSpecific cfgstring (naaBinary wwn (t10VendorId wwn page83Start))
  match port with
  | none => st
  | some port =>
    scsiNameDesignator 0x20 port.protoId port.wwn.bytes
      (scsiNameDesignator 0x10 port.protoId (portName port) (tgtPortGroup port (relTgtPortId port st)))

/-- `finish_page83` (lines 566-569): `*tot_len = htobe16(used)`, the PAGE LENGTH in bytes 2-3. -/
def page83Finish (st : Page83) : Buf := putUnalignedBe16 st.used st.data 2

/-- **The T10 designator's length wraps.** With a wwn of 247 characters, `ptr[3] = 8 + len + 1`
stores 256 as 0: the page starts with a T10 vendor id designator of length 0, directly followed by
the NAA designator, written over `"LIO-ORG "` and the wwn. The page stays inside `data`. -/
theorem page83_t10_length_wraps :
    let wwn : CStr := CStr.replicate 247 0x61 (by decide)
    let page := page83Finish (page83 wwn ⟨[], List.not_mem_nil 0⟩ none)
    8 + wwn.bytes.length + 1 = 256 ∧ page.slice 4 8 = [2, 1, 0, 0, 1, 3, 0x4f, 16] ∧ page.top ≤ 512 := by
  set_option maxRecDepth 8000 in decide

/-- **Page 0x83 overruns `data`.** With a wwn of 246 characters and a `cfgstring` of 225, the
vendor specific designator starts at `data[287]` and its `snprintf` is given
`sizeof(data) - used - 4 = 229` bytes where 225 are left: its NUL lands on `data[512]`, and the
final copy reads `used + 4 = 513` bytes of the 512. -/
theorem page83_overruns_data :
    let st : Page83 := page83 (CStr.replicate 246 0x61 (by decide)) (CStr.replicate 225 0x62 (by decide)) none
    (page83Finish st).top = 513 ∧ st.used + 4 = 513 := by
  set_option maxRecDepth 8000 in decide

/-! ## The VPD pages -/

/-- The limits of `libtcmu_common.h` that the Block Limits page reports. -/
structure VpdLimits where
  maxUnmapLbaCount : Nat
  maxUnmapBlockDescCount : Nat
  maxWriteSameLength : Nat

/-- Page 80h, Unit Serial Number (lines 381-408): the serial printed at byte 4, its length plus one
at byte 3. -/
def unitSerialPage (wwn : CStr) : Buf :=
  (((Buf.zeros 512).set 1 0x80).snprintf 4 256 wwn.bytes).set 3 (UInt8.ofNat (wwn.bytes.length + 1))

/-- Page B0h, Block Limits (lines 579-658). -/
def blockLimitsPage (lim : VpdLimits) (dev : Dev) : Buf :=
  let data := putUnalignedBe16 0x3c ((Buf.zeros 64).set 1 0xb0) 2
  let data := (data.stores [(4, 0x01), (5, 0x01)])
  let data := putUnalignedBe32 dev.maxXferLen.toNat
    (putUnalignedBe32 dev.maxXferLen.toNat data 8) 12
  let data := if dev.unmap then
      let data := putUnalignedBe32 lim.maxUnmapBlockDescCount
        (putUnalignedBe32 lim.maxUnmapLbaCount data 20) 24
      let data := putUnalignedBe32 dev.unmapGranAlign.toNat
        (putUnalignedBe32 dev.optUnmapGran.toNat data 28) 32
      data.set 32 (data.byte 32 ||| 0x80)
    else data
  putUnalignedBe64 lim.maxWriteSameLength data 36

/-- Page B1h, Block Device Characteristics (lines 659-687). -/
def blockDeviceCharacteristicsPage (dev : Dev) : Buf :=
  let data := putUnalignedBe16 0x003c ((Buf.zeros 64).set 1 0xb1) 2
  if dev.solidStateMedia then putUnalignedBe16 0x0001 data 4 else data

/-- Page B2h, Logical Block Provisioning (lines 688-730). -/
def logicalBlockProvisioningPage (dev : Dev) : Buf :=
  let data := putUnalignedBe16 0x0004 ((Buf.zeros 64).set 1 0xb2) 2
  data.set 5 (if dev.unmap then 0x04 ||| 0xe0 else 0x04)

/-- `tcmu_emulate_evpd_inquiry` (lines 346-736), for the page code `cdb[2]`. -/
def tcmuEmulateEvpdInquiry (lim : VpdLimits) (dev : Dev) (port : Option TgtPort)
    (cdb : Nat → UInt8) (iovec : List Iovec) : Sts × List Iovec :=
  let copy (data : Buf) (n : Nat) : Sts × List Iovec :=
    (.ok, (tcmuMemcpyIntoIovec iovec data.byte n).1)
  match (cdb 2).toNat with
  | 0x00 => copy ((Buf.zeros 16).stores
      [(4, 0x00), (5, 0x80), (6, 0x83), (7, 0xb0), (8, 0xb1), (9, 0xb2), (3, 6)]) 16
  | 0x80 => match dev.wwn with
    | none => (.hwErr, iovec)
    | some wwn => copy (unitSerialPage wwn) 512
  | 0x83 => match dev.wwn with
    | none => (.hwErr, iovec)
    | some wwn =>
      let st := page83 wwn dev.cfgstring port
      copy (page83Finish st) (st.used + 4)
  | 0xb0 => copy (blockLimitsPage lim dev) 64
  | 0xb1 => copy (blockDeviceCharacteristicsPage dev) 64
  | 0xb2 => copy (logicalBlockProvisioningPage dev) 64
  | _ => (.invalidCdb, iovec)

/-- The switch of `tcmu_emulate_evpd_inquiry` answers exactly six page codes: any other is
INVALID CDB. -/
theorem tcmuEmulateEvpdInquiry_invalidCdb (lim : VpdLimits) (dev : Dev) (port : Option TgtPort)
    (cdb : Nat → UInt8) (iovec : List Iovec) :
    (tcmuEmulateEvpdInquiry lim dev port cdb iovec).1 = .invalidCdb ↔
      cdb 2 ∉ ([0x00, 0x80, 0x83, 0xb0, 0xb1, 0xb2] : List UInt8) := by
  rw [← List.mem_map_of_injective (fun _ _ => UInt8.toNat.inj : Function.Injective UInt8.toNat),
    show ([0x00, 0x80, 0x83, 0xb0, 0xb1, 0xb2] : List UInt8).map UInt8.toNat =
      [0x00, 0x80, 0x83, 0xb0, 0xb1, 0xb2] from rfl]
  unfold tcmuEmulateEvpdInquiry
  split <;> rename_i h
  case h_7 =>
    simp only [List.mem_cons, List.not_mem_nil, or_false, imp_false] at *
    exact iff_of_true trivial (by omega)
  all_goals
    rw [h]
    try cases dev.wwn
    all_goals simp

/-- `tcmu_emulate_inquiry` (lines 741-757): standard data when EVPD is clear and the page code
is 0, a VPD page when EVPD is set. -/
def tcmuEmulateInquiry (lim : VpdLimits) (dev : Dev) (port : Option TgtPort) (cdb : Nat → UInt8)
    (iovec : List Iovec) : Sts × List Iovec :=
  if cdb 1 &&& 0x01 = 0 then
    if cdb 2 = 0 then tcmuEmulateStdInquiry port iovec else (.invalidCdb, iovec)
  else tcmuEmulateEvpdInquiry lim dev port cdb iovec

end TcmuRunner.Scsi
