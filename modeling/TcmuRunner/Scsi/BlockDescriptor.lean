import TcmuRunner.Scsi.Truncation
import TcmuRunner.Scsi.Sense

/-!
# Block descriptors and READ CAPACITY (`api.c:767-841`, `1006-1184`)

The capacity of the device reaches an initiator four ways: the RETURNED LOGICAL BLOCK ADDRESS
and LOGICAL BLOCK LENGTH of READ CAPACITY(10) and (16), and the NUMBER OF BLOCKS and LOGICAL
BLOCK LENGTH of the long block descriptor (MODE SENSE(10) with LLBA) and of the short one.

* **`capacity_fields_agree`**: READ CAPACITY(10) and (16) and the long descriptor agree: the
  last LBA `n - 1` (modulo `2^64`, and `ffffffffh` in READ CAPACITY(10) from there on), the
  block count `n`, the block size. The short descriptor's block count agrees too.
* **`short_descriptor_block_length_shifted`**: the short descriptor's LOGICAL BLOCK LENGTH does
  not. Its bytes are 5-7 of the descriptor ("byte 4 is reserved so only 3 bytes"), but
  `put_unaligned_be24(block_size, &buf[6])` writes bytes 6-8, so the field holds
  `block_size / 256` and the low byte lands on the first byte after the descriptor.
* **`mode_sense_writes_past_alloc_len`**: when the short descriptor ends exactly at `alloc_len`
  that byte is `orig_buf[alloc_len]`, one past the `calloc`ed buffer.
* **`mode_sense_write_bound`**: nothing else leaves the buffer. The page loop keeps its cursor
  at `orig_buf + used_len` while `used_len < alloc_len` and `NULL` after, each page handler
  copies at most `alloc_len - used_len` bytes there, and MODE SENSE(6) keeps `used_len` below
  255, so every write lies below `alloc_len` save that one byte.
-/

namespace TcmuRunner.Scsi

/-! ## Reading the fields back -/

/-- A field of the bytes a copy delivered is the field of the source, inside the copied part. -/
theorem getBe_delivered {iovec : List Iovec} (src : Nat → UInt8) {len i w : Nat}
    (h₁ : i + w ≤ len) (h₂ : i + w ≤ tcmuIovecLength iovec) :
    getBe (fun k => (flat (windowsOver iovec (tcmuMemcpyIntoIovec iovec src len).1)).getD k 0) i w =
      getBe src i w :=
  getBe_congr fun k hk => getD_flat_memcpyInto src (by omega) (by omega)

/-- `num_lbas - 1` in `uint64_t`. -/
theorem uint64_toNat_sub_one (n : UInt64) : (n - 1).toNat = (n.toNat + 2 ^ 64 - 1) % 2 ^ 64 := by
  show (n.toBitVec - (1 : UInt64).toBitVec).toNat = _
  rw [BitVec.toNat_sub]
  have : (1 : UInt64).toBitVec.toNat = 1 := rfl
  have := n.toNat_lt_size
  simp only [UInt64.size] at this
  unfold UInt64.toNat
  omega

theorem uint64_lt_two_pow_32 (n : UInt64) : n < 0x100000000 ↔ n.toNat < 2 ^ 32 :=
  UInt64.lt_def.trans BitVec.lt_def

theorem readCapacity10_fields (n : UInt64) (s : UInt32) {iovec : List Iovec}
    (h : 8 ≤ tcmuIovecLength iovec) :
    let d := fun k => (flat (windowsOver iovec (tcmuEmulateReadCapacity10 n s iovec).2)).getD k 0
    getBe d 0 4 = (if n < 0x100000000 then (n - 1).toNat else 0xffffffff) % 2 ^ 32 ∧
      getBe d 4 4 = s.toNat := by
  simp only [tcmuEmulateReadCapacity10, putUnalignedBe32]
  refine ⟨(getBe_delivered _ (by omega) (by omega)).trans ?_,
    (getBe_delivered _ (by omega) (by omega)).trans ?_⟩
  · rw [Buf.getBe_putUnalignedBe_of_disjoint (.inr (by omega)), Buf.getBe_putUnalignedBe_self]
    rfl
  · rw [Buf.getBe_putUnalignedBe_self]
    exact Nat.mod_eq_of_lt s.toNat_lt_size

theorem readCapacity16_fields (n : UInt64) (s : UInt32) {iovec : List Iovec}
    (h : 32 ≤ tcmuIovecLength iovec) :
    let d := fun k => (flat (windowsOver iovec (tcmuEmulateReadCapacity16 n s iovec).2)).getD k 0
    getBe d 0 8 = (n - 1).toNat ∧ getBe d 8 4 = s.toNat := by
  simp only [tcmuEmulateReadCapacity16, putUnalignedBe32, putUnalignedBe64]
  refine ⟨(getBe_delivered _ (by omega) (by omega)).trans ?_,
    (getBe_delivered _ (by omega) (by omega)).trans ?_⟩
  · rw [Buf.getBe_set_of_disjoint (.inr (by omega)),
      Buf.getBe_putUnalignedBe_of_disjoint (.inr (by omega)), Buf.getBe_putUnalignedBe_self]
    exact Nat.mod_eq_of_lt (n - 1).toNat_lt_size
  · rw [Buf.getBe_set_of_disjoint (.inr (by omega)), Buf.getBe_putUnalignedBe_self]
    exact Nat.mod_eq_of_lt s.toNat_lt_size

theorem longDescriptor_fields (dev : Dev) (mem : Buf) {allocLen : Nat} (h : 8 + 16 ≤ allocLen) :
    getBe (handleLongLbaBlockDescriptor dev mem allocLen).1.byte 8 8 = dev.numLbas.toNat ∧
      getBe (handleLongLbaBlockDescriptor dev mem allocLen).1.byte 20 4 = dev.blockSize.toNat := by
  simp only [handleLongLbaBlockDescriptor, if_neg (Nat.not_lt.mpr h), putUnalignedBe32,
    putUnalignedBe64]
  rw [Buf.getBe_putUnalignedBe_of_disjoint (.inr (by omega)), Buf.getBe_putUnalignedBe_self,
    Buf.getBe_putUnalignedBe_self]
  exact ⟨Nat.mod_eq_of_lt dev.numLbas.toNat_lt_size, Nat.mod_eq_of_lt dev.blockSize.toNat_lt_size⟩

theorem shortDescriptor_count (dev : Dev) (mem : Buf) {allocLen : Nat} (senseTen : Bool)
    (h : (if senseTen then 8 else 4) + 8 ≤ allocLen) :
    getBe (handleShortLbaBlockDescriptor dev mem allocLen senseTen).1.byte
        (if senseTen then 8 else 4) 4 =
      if dev.numLbas.toNat < 2 ^ 32 then dev.numLbas.toNat else 0xffffffff := by
  simp only [handleShortLbaBlockDescriptor, if_neg (Nat.not_lt.mpr h), putUnalignedBe32,
    putUnalignedBe24]
  rw [Buf.getBe_putUnalignedBe_of_disjoint (.inr (by omega)), Buf.getBe_putUnalignedBe_self]
  by_cases hn : dev.numLbas.toNat < 2 ^ 32
  · rw [if_pos ((uint64_lt_two_pow_32 _).mpr hn), if_pos hn]
    exact Nat.mod_eq_of_lt (by omega)
  · rw [if_neg (mt (uint64_lt_two_pow_32 _).mp hn), if_neg hn]
    rfl

/-- **READ CAPACITY and the block descriptors agree on the capacity.** With `n` blocks of `s`
bytes: READ CAPACITY(16) returns the last LBA `n - 1` modulo `2^64`, and READ CAPACITY(10) the
same value when it is below `ffffffffh`, else `ffffffffh`; both return `s`. The long descriptor
holds `n` and `s`, and the short one `n`, or `ffffffffh` when `n` needs more than 32 bits. -/
theorem capacity_fields_agree (dev : Dev) {iov₁₀ iov₁₆ : List Iovec}
    (h₁₀ : 8 ≤ tcmuIovecLength iov₁₀) (h₁₆ : 32 ≤ tcmuIovecLength iov₁₆) (mem : Buf)
    {allocLen : Nat} (senseTen : Bool) :
    let rc10 := fun k =>
      (flat (windowsOver iov₁₀ (tcmuEmulateReadCapacity10 dev.numLbas dev.blockSize iov₁₀).2)).getD k 0
    let rc16 := fun k =>
      (flat (windowsOver iov₁₆ (tcmuEmulateReadCapacity16 dev.numLbas dev.blockSize iov₁₆).2)).getD k 0
    getBe rc16 0 8 = (dev.numLbas.toNat + 2 ^ 64 - 1) % 2 ^ 64 ∧
      getBe rc10 0 4 = (if getBe rc16 0 8 < 0xffffffff then getBe rc16 0 8 else 0xffffffff) ∧
      getBe rc10 4 4 = dev.blockSize.toNat ∧ getBe rc16 8 4 = dev.blockSize.toNat ∧
      (8 + 16 ≤ allocLen →
        getBe (handleLongLbaBlockDescriptor dev mem allocLen).1.byte 8 8 = dev.numLbas.toNat ∧
          getBe (handleLongLbaBlockDescriptor dev mem allocLen).1.byte 20 4 = dev.blockSize.toNat) ∧
      ((if senseTen then 8 else 4) + 8 ≤ allocLen →
        getBe (handleShortLbaBlockDescriptor dev mem allocLen senseTen).1.byte
            (if senseTen then 8 else 4) 4 =
          if dev.numLbas.toNat < 2 ^ 32 then dev.numLbas.toNat else 0xffffffff) := by
  obtain ⟨r10, s10⟩ := readCapacity10_fields dev.numLbas dev.blockSize h₁₀
  obtain ⟨r16, s16⟩ := readCapacity16_fields dev.numLbas dev.blockSize h₁₆
  refine ⟨r16.trans (uint64_toNat_sub_one _), ?_, s10, s16, longDescriptor_fields dev mem,
    shortDescriptor_count dev mem senseTen⟩
  rw [r10, r16, uint64_toNat_sub_one]
  have := dev.numLbas.toNat_lt_size
  simp only [UInt64.size] at this
  by_cases hn : dev.numLbas.toNat < 2 ^ 32
  · rw [if_pos ((uint64_lt_two_pow_32 _).mpr hn)]
    split <;> omega
  · rw [if_neg (mt (uint64_lt_two_pow_32 _).mp hn), if_neg (by omega)]
    rfl

/-- A device of `2^32` blocks of 4096 bytes, read through one segment of 8 bytes and two of 16. -/
theorem capacity_fields_of_large_disk :
    let dev : Dev := ⟨4096, 0x100000000, false, none, ⟨[], List.not_mem_nil 0⟩, 0, 0, 0, false, false⟩
    let iov₁₀ : List Iovec := [⟨fun _ => 0, 0, 8⟩]
    let iov₁₆ : List Iovec := [⟨fun _ => 0, 0, 16⟩, ⟨fun _ => 0, 0, 16⟩]
    let rc10 := fun k =>
      (flat (windowsOver iov₁₀ (tcmuEmulateReadCapacity10 dev.numLbas dev.blockSize iov₁₀).2)).getD k 0
    let rc16 := fun k =>
      (flat (windowsOver iov₁₆ (tcmuEmulateReadCapacity16 dev.numLbas dev.blockSize iov₁₆).2)).getD k 0
    8 ≤ tcmuIovecLength iov₁₀ ∧ 32 ≤ tcmuIovecLength iov₁₆ ∧
      (getBe rc16 0 8 = (dev.numLbas.toNat + 2 ^ 64 - 1) % 2 ^ 64 ∧
        getBe rc10 0 4 = (if getBe rc16 0 8 < 0xffffffff then getBe rc16 0 8 else 0xffffffff) ∧
        getBe rc10 4 4 = dev.blockSize.toNat ∧ getBe rc16 8 4 = dev.blockSize.toNat ∧
        (8 + 16 ≤ 64 →
          getBe (handleLongLbaBlockDescriptor dev Buf.calloc 64).1.byte 8 8 = dev.numLbas.toNat ∧
            getBe (handleLongLbaBlockDescriptor dev Buf.calloc 64).1.byte 20 4 =
              dev.blockSize.toNat) ∧
        ((if false then 8 else 4) + 8 ≤ 64 →
          getBe (handleShortLbaBlockDescriptor dev Buf.calloc 64 false).1.byte
              (if false then 8 else 4) 4 =
            if dev.numLbas.toNat < 2 ^ 32 then dev.numLbas.toNat else 0xffffffff)) :=
  ⟨by decide, by decide, capacity_fields_agree _ (by decide) (by decide) Buf.calloc false⟩

/-! ## The short descriptor's block length -/

/-- **The short block descriptor's LOGICAL BLOCK LENGTH is one byte off.** MODE SENSE(6) with a
block descriptor of a device of one 512-byte block, allocation length 36 (one segment): the
descriptor is bytes 4-11 of the response and its LOGICAL BLOCK LENGTH, bytes 9-11, reads `2`,
while READ CAPACITY(10) returns the block length `512` in bytes 4-7. -/
theorem short_descriptor_block_length_shifted :
    let dev : Dev := ⟨512, 1, false, none, ⟨[], List.not_mem_nil 0⟩, 0, 0, 0, false, false⟩
    let iov : List Iovec := [⟨fun _ => 0, 0, 36⟩]
    let rc : List Iovec := [⟨fun _ => 0, 0, 8⟩]
    (tcmuEmulateModeSense dev (fun i => [modeSense, 0, 0x08, 0, 36].getD i 0) iov true).map
        (fun r => (r.1, getBe (fun k => (flat (windowsOver iov r.2)).getD k 0) 9 3)) = some (.ok, 2) ∧
      getBe (fun k => (flat (windowsOver rc (tcmuEmulateReadCapacity10 dev.numLbas dev.blockSize rc).2)).getD k 0)
        4 4 = 512 := by
  decide

/-! ## Where MODE SENSE writes -/

/-- How far the writes of a MODE SENSE response reach: `alloc_len`, and one byte more when the
short block descriptor ends exactly at `alloc_len`. -/
def senseWriteLimit (cdb : Nat → UInt8) (allocLen : Nat) : Nat :=
  if blockDescriptorLength cdb = 8 ∧ modeHeaderLength cdb + 8 = allocLen then allocLen + 1
  else allocLen

/-- Lines 1136-1141: the page loop's start, after the header and block descriptor. -/
def senseStart (dev : Dev) (cdb : Nat → UInt8) (allocLen : Nat) : SenseSt :=
  let bd := blockDescriptor dev cdb allocLen
  let usedLen := (if cdb 0 = modeSense10 then 8 else 4) + bd.2
  ⟨bd.1, if usedLen < allocLen then some usedLen else none, usedLen⟩

/-- The page loop's cursors as `handle_mode_sense` keeps them: `buf` is `orig_buf + used_len`
while the response is shorter than `alloc_len` and `NULL` after; no write reached `limit`; and a
MODE SENSE(6) response stays below 255 bytes. -/
structure SenseCursor (allocLen limit : Nat) (senseTen : Bool) (st : SenseSt) : Prop where
  buf : st.buf = if st.usedLen < allocLen then some st.usedLen else none
  top : st.mem.top ≤ limit
  short : senseTen = false → st.usedLen < 255

theorem top_putUnalignedBe {w v i : Nat} {b : Buf} (hw : 0 < w) :
    (putUnalignedBe w v b i).top = max b.top (i + w) := by
  rw [putUnalignedBe, Buf.top_writeList (by rw [← List.length_pos, length_beBytes]; exact hw),
    length_beBytes]

theorem top_handleLongLbaBlockDescriptor (dev : Dev) (mem : Buf) (allocLen : Nat) :
    (handleLongLbaBlockDescriptor dev mem allocLen).1.top =
      max mem.top (if 8 + 16 > allocLen then 8 else 24) := by
  unfold handleLongLbaBlockDescriptor putUnalignedBe16 putUnalignedBe32 putUnalignedBe64
  dsimp only
  by_cases hfit : 8 + 16 > allocLen
  · rw [if_pos hfit, if_pos hfit, top_putUnalignedBe (by omega)]
  · rw [if_neg hfit, if_neg hfit, top_putUnalignedBe (by omega), top_putUnalignedBe (by omega),
      top_putUnalignedBe (by omega)]
    omega

theorem top_handleShortLbaBlockDescriptor (dev : Dev) (mem : Buf) (allocLen : Nat) (senseTen : Bool) :
    (handleShortLbaBlockDescriptor dev mem allocLen senseTen).1.top =
      max mem.top (if (if senseTen then 8 else 4) + 8 > allocLen then (if senseTen then 8 else 4)
        else (if senseTen then 8 else 4) + 9) := by
  have hhdr : (if senseTen then putUnalignedBe16 8 mem 6 else mem.set 3 8).top =
      max mem.top (if senseTen then 8 else 4) := by
    cases senseTen
    · rfl
    · exact top_putUnalignedBe (by omega)
  unfold handleShortLbaBlockDescriptor putUnalignedBe24 putUnalignedBe32
  dsimp only
  by_cases hfit : (if senseTen then 8 else 4) + 8 > allocLen
  · rw [if_pos hfit, if_pos hfit, hhdr]
  · rw [if_neg hfit, if_neg hfit, top_putUnalignedBe (by omega), top_putUnalignedBe (by omega), hhdr]
    split <;> omega

/-- The block descriptor helpers write below `alloc_len`, but for the short descriptor's last
byte when the descriptor ends exactly there. -/
theorem blockDescriptor_top (dev : Dev) (cdb : Nat → UInt8) {allocLen : Nat}
    (hhdr : modeHeaderLength cdb ≤ allocLen) :
    (blockDescriptor dev cdb allocLen).1.top ≤ senseWriteLimit cdb allocLen := by
  unfold modeHeaderLength at hhdr
  unfold blockDescriptor senseWriteLimit blockDescriptorLength modeHeaderLength
  dsimp only
  split_ifs at hhdr ⊢ <;> simp only [top_handleLongLbaBlockDescriptor,
    top_handleShortLbaBlockDescriptor, Buf.calloc, decide_eq_true_eq, if_true, if_false, *] <;>
    (try split_ifs) <;> omega

/-- The short block descriptor that ends exactly at `alloc_len` writes `orig_buf[alloc_len]`. -/
theorem blockDescriptor_top_of_short (dev : Dev) (cdb : Nat → UInt8) {allocLen : Nat}
    (h : blockDescriptorLength cdb = 8 ∧ modeHeaderLength cdb + 8 = allocLen) :
    (blockDescriptor dev cdb allocLen).1.top = allocLen + 1 := by
  obtain ⟨h₁, h₂⟩ := h
  unfold blockDescriptorLength at h₁
  unfold modeHeaderLength at h₂
  unfold blockDescriptor
  dsimp only
  split_ifs at h₁ h₂ ⊢ <;> simp only [top_handleShortLbaBlockDescriptor, Buf.calloc,
    decide_eq_true_eq, if_true, if_false, *] at h₁ ⊢ <;> (try split_ifs) <;> omega

theorem senseStart_cursor (dev : Dev) (cdb : Nat → UInt8) {allocLen : Nat}
    (hhdr : modeHeaderLength cdb ≤ allocLen) :
    SenseCursor allocLen (senseWriteLimit cdb allocLen) (cdb 0 = modeSense10)
      (senseStart dev cdb allocLen) where
  buf := rfl
  top := blockDescriptor_top dev cdb hhdr
  short _ := by
    have := blockDescriptor_snd dev cdb allocLen
    unfold blockDescriptorLength at this
    simp only [senseStart, this]
    split_ifs <;> omega

/-- One page handler: the cursors stay as `SenseCursor` says, and the handler copies at most
`alloc_len - used_len` bytes, at the cursor. -/
theorem handleModeSense_cursor {dev : Dev} {h : ModeSenseHandler} {page : List UInt8}
    {allocLen limit : Nat} {senseTen : Bool} {st st' : SenseSt} {ret : Nat}
    (hget : h.get dev = handlePage page page.length) (hlim : allocLen ≤ limit)
    (ha : allocLen < 2 ^ 64) (hc : SenseCursor allocLen limit senseTen st)
    (hr : handleModeSense dev h allocLen senseTen st = some (st', ret)) :
    SenseCursor allocLen limit senseTen st' ∧
      ∃ l : List UInt8, l.length ≤ allocLen - st.usedLen ∧
        st'.mem = match st.buf with
          | some p => st.mem.writeList p l
          | none => st.mem := by
  simp only [handleModeSense, hget, handlePage] at hr
  split at hr
  · cases hr
  rename_i hshort
  obtain ⟨rfl, -⟩ := Prod.mk.inj (Option.some.inj hr)
  have hcopy : ∃ l : List UInt8, l.length ≤ allocLen - st.usedLen ∧
      copyToResponseBuf st.mem st.buf (sizeSub allocLen st.usedLen) page page.length =
        match st.buf with
        | some p => st.mem.writeList p l
        | none => st.mem := by
    rcases hb : st.buf with _ | p
    · exact ⟨[], Nat.zero_le _, rfl⟩
    · have hp : p = st.usedLen ∧ st.usedLen < allocLen := by
        rw [hc.buf] at hb; split at hb <;> cases hb; exact ⟨rfl, ‹_›⟩
      refine ⟨page.take (if sizeSub allocLen st.usedLen > page.length then page.length
        else sizeSub allocLen st.usedLen), ?_, rfl⟩
      rw [List.length_take, sizeSub_of_le (by omega) ha]
      split <;> omega
  obtain ⟨l, hl, hm⟩ := hcopy
  refine ⟨⟨cursor_step hc.buf, ?_, fun hs => ?_⟩, l, hl, hm⟩
  rotate_left
  · subst hs
    simp only [Bool.not_false, Bool.true_and, decide_eq_true_eq, Nat.not_le] at hshort
    exact hshort
  rw [hm]
  split
  · rename_i p hb
    rw [hc.buf] at hb
    split at hb <;> cases hb
    by_cases hl0 : l = []
    · rw [hl0, Buf.writeList_nil]; exact hc.top
    · rw [Buf.top_writeList hl0]; have := hc.top; omega
  · exact hc.top

section
variable {dev : Dev} {allocLen limit : Nat} {senseTen : Bool}

/-- A page copy at the cursor, or none, does not lower the high-water mark. -/
theorem top_le_of_copy {st : SenseSt} {m : Buf} {l : List UInt8}
    (h : m = match st.buf with
      | some p => st.mem.writeList p l
      | none => st.mem) : st.mem.top ≤ m.top := by
  subst h; split
  · exact Buf.top_le_writeList
  · exact le_rfl

/-- The loop over every handler keeps the cursors, and does not lower the high-water mark. -/
theorem handleAll_cursor (hlim : allocLen ≤ limit) (ha : allocLen < 2 ^ 64) :
    ∀ (hs : List ModeSenseHandler), (∀ h ∈ hs, ∃ page, h.get dev = handlePage page page.length) →
      ∀ {st st' : SenseSt}, SenseCursor allocLen limit senseTen st →
        handleAll dev allocLen senseTen hs st = some st' →
          SenseCursor allocLen limit senseTen st' ∧ st.mem.top ≤ st'.mem.top
  | [], _, _, _, hc, hr => by obtain rfl := Option.some.inj hr; exact ⟨hc, le_rfl⟩
  | h :: hs, hget, _, _, hc, hr => by
    obtain ⟨⟨st₁, ret⟩, h₁, h₂⟩ := Option.bind_eq_some.mp hr
    obtain ⟨page, hp⟩ := hget h (List.mem_cons_self h hs)
    obtain ⟨hc₁, l, -, hm⟩ := handleModeSense_cursor hp hlim ha hc h₁
    obtain ⟨hc', ht⟩ := handleAll_cursor hlim ha hs
      (fun h' hh => hget h' (List.mem_cons_of_mem h hh)) hc₁ h₂
    exact ⟨hc', (top_le_of_copy hm).trans ht⟩

/-- The loop for one page keeps the cursors, and does not lower the high-water mark. -/
theorem handleOne_cursor (hlim : allocLen ≤ limit) (ha : allocLen < 2 ^ 64)
    {pageCode subpageCode : UInt8} {st st' : SenseSt} (hc : SenseCursor allocLen limit senseTen st)
    (hr : handleOne dev allocLen senseTen pageCode subpageCode st = some st') :
    SenseCursor allocLen limit senseTen st' ∧ st.mem.top ≤ st'.mem.top := by
  unfold handleOne at hr
  split at hr
  · cases hr
  · rename_i h hh
    obtain ⟨⟨st₁, ret⟩, h₁, h₂⟩ := Option.bind_eq_some.mp hr
    obtain ⟨page, hp⟩ := modesenseHandlers_get (List.mem_of_find?_eq_some hh) dev
    split at h₂
    · cases h₂
    · cases h₂
      obtain ⟨hc₁, l, -, hm⟩ := handleModeSense_cursor hp hlim ha hc h₁
      exact ⟨hc₁, top_le_of_copy hm⟩

end

/-- **MODE SENSE writes below `alloc_len`, but for one byte.** For a CDB whose allocation
length holds the header: the page loop starts with its cursor at `orig_buf + used_len`, or
`NULL` once `used_len` reaches `alloc_len`; each page handler keeps it so and copies at most
`alloc_len - used_len` bytes, at the cursor; a MODE SENSE(6) response stays below 255 bytes; and
every byte the response is built in lies below `alloc_len`, but for `orig_buf[alloc_len]`,
which is written exactly when the short block descriptor ends at `alloc_len`. -/
theorem mode_sense_write_bound (dev : Dev) (cdb : Nat → UInt8) {allocLen : Nat}
    (hhdr : modeHeaderLength cdb ≤ allocLen) (ha : allocLen < 2 ^ 64) :
    SenseCursor allocLen (senseWriteLimit cdb allocLen) (cdb 0 = modeSense10)
        (senseStart dev cdb allocLen) ∧
      (∀ h ∈ modesenseHandlers, ∀ (st st' : SenseSt) (ret : Nat),
        SenseCursor allocLen (senseWriteLimit cdb allocLen) (cdb 0 = modeSense10) st →
        handleModeSense dev h allocLen (cdb 0 = modeSense10) st = some (st', ret) →
          SenseCursor allocLen (senseWriteLimit cdb allocLen) (cdb 0 = modeSense10) st' ∧
            ∃ l : List UInt8, l.length ≤ allocLen - st.usedLen ∧
              st'.mem = match st.buf with
                | some p => st.mem.writeList p l
                | none => st.mem) ∧
      ∀ b, modeSenseFill dev cdb allocLen = some b → b.top ≤ senseWriteLimit cdb allocLen ∧
        (allocLen < b.top ↔ blockDescriptorLength cdb = 8 ∧ modeHeaderLength cdb + 8 = allocLen) := by
  have hlim : allocLen ≤ senseWriteLimit cdb allocLen := by unfold senseWriteLimit; split <;> omega
  have hstart := senseStart_cursor dev cdb hhdr
  refine ⟨hstart, fun h hh st st' ret hc hr => ?_, fun b hb => ?_⟩
  · obtain ⟨page, hp⟩ := modesenseHandlers_get hh dev
    exact handleModeSense_cursor hp hlim ha hc hr
  · unfold modeSenseFill at hb
    obtain ⟨st, hst, rfl⟩ := Option.map_eq_some'.mp hb
    obtain ⟨hc, hmono⟩ : SenseCursor allocLen (senseWriteLimit cdb allocLen) (cdb 0 = modeSense10)
        st ∧ (senseStart dev cdb allocLen).mem.top ≤ st.mem.top := by
      split at hst
      · exact handleAll_cursor hlim ha _ (fun _ hh => modesenseHandlers_get hh dev) hstart hst
      · exact handleOne_cursor hlim ha hstart hst
    have hend : ∀ T, st.mem.top ≤ T → T ≤ max st.mem.top allocLen →
        T ≤ senseWriteLimit cdb allocLen ∧
          (allocLen < T ↔ blockDescriptorLength cdb = 8 ∧ modeHeaderLength cdb + 8 = allocLen) := by
      intro T h₁ h₂
      have := hc.top
      refine ⟨by omega, fun hT => by_contra fun hn => ?_, fun hs => ?_⟩
      · rw [senseWriteLimit, if_neg hn] at this; omega
      · have := blockDescriptor_top_of_short dev cdb hs
        simp only [senseStart] at hmono
        omega
    unfold modeHeaderLength at hhdr
    split
    · rw [putUnalignedBe16, top_putUnalignedBe (by omega)]
      exact hend _ (le_max_left _ _) (by rw [if_pos ‹_›] at hhdr; omega)
    · rw [Buf.top_set]
      exact hend _ (le_max_left _ _) (by rw [if_neg ‹_›] at hhdr; omega)

/-- MODE SENSE(10) of all pages, long descriptor, allocation length 64. -/
theorem mode_sense_write_bound_all_pages :
    let dev : Dev := ⟨512, 1, false, none, ⟨[], List.not_mem_nil 0⟩, 0, 0, 0, false, false⟩
    let cdb : Nat → UInt8 := fun i => [modeSense10, 0x10, 0x3f, 0, 0, 0, 0, 0, 64].getD i 0
    (modeHeaderLength cdb ≤ 64 ∧ 64 < 2 ^ 64) ∧
      (SenseCursor 64 (senseWriteLimit cdb 64) (cdb 0 = modeSense10) (senseStart dev cdb 64) ∧
        (∀ h ∈ modesenseHandlers, ∀ (st st' : SenseSt) (ret : Nat),
          SenseCursor 64 (senseWriteLimit cdb 64) (cdb 0 = modeSense10) st →
          handleModeSense dev h 64 (cdb 0 = modeSense10) st = some (st', ret) →
            SenseCursor 64 (senseWriteLimit cdb 64) (cdb 0 = modeSense10) st' ∧
              ∃ l : List UInt8, l.length ≤ 64 - st.usedLen ∧
                st'.mem = match st.buf with
                  | some p => st.mem.writeList p l
                  | none => st.mem) ∧
        ∀ b, modeSenseFill dev cdb 64 = some b → b.top ≤ senseWriteLimit cdb 64 ∧
          (64 < b.top ↔ blockDescriptorLength cdb = 8 ∧ modeHeaderLength cdb + 8 = 64)) :=
  ⟨⟨by decide, by decide⟩, mode_sense_write_bound _ _ (by decide) (by decide)⟩

/-- **The short descriptor's last byte lands past the buffer.** MODE SENSE(6) with a block
descriptor and an allocation length of 12, the header and the descriptor exactly, on a device of
one 520-byte block: the command completes, and the low byte of the block length (`08h`) is
written to `orig_buf[12]`, past the 12 bytes `calloc` gave. -/
theorem mode_sense_writes_past_alloc_len :
    let dev : Dev := ⟨520, 1, false, none, ⟨[], List.not_mem_nil 0⟩, 0, 0, 0, false, false⟩
    let cdb : Nat → UInt8 := fun i => [modeSense, 0, 0x08, 0, 12].getD i 0
    (tcmuEmulateModeSense dev cdb [⟨fun _ => 0, 0, 12⟩] true).map Prod.fst = some .ok ∧
      (modeSenseFill dev cdb 12).map (fun b => (b.top, b.byte 12)) = some (13, 0x08) := by
  decide

end TcmuRunner.Scsi
