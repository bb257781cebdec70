import TcmuRunner.Scsi.Cdb
import TcmuRunner.Iovec

/-!
# MODE SENSE (`api.c:843-1184`)

Model of `tcmu_emulate_mode_sense` and its helpers. The response is built in a buffer of
`alloc_len` bytes: the mode parameter header (4 bytes for MODE SENSE(6), 8 for MODE SENSE(10)),
a block descriptor unless DBD is set, then the mode pages of `modesense_handlers`; at the end the
MODE DATA LENGTH is written into the header and `alloc_len` bytes are copied into the iovec.

Two cursors run through the buffer: `used_len`, the length of the full response, and `buf`, the
next byte to write, or `NULL` once the response has reached `alloc_len`. The page handlers copy
at most what is left (`copy_to_response_buf`); the block descriptor helpers write the BLOCK
DESCRIPTOR LENGTH and then either the whole descriptor or, when it does not fit, nothing.

Pointers into the buffer are offsets from `orig_buf` (`Option Nat`, `none` for `NULL`).
-/

namespace TcmuRunner.Scsi

/-! ## Mode pages -/

/-- `copy_to_response_buf` (lines 843-857): nothing for a `NULL` `to_buf`, else the first
`min(to_len, from_len)` bytes of the page. -/
def copyToResponseBuf (mem : Buf) (toBuf : Option Nat) (toLen : Nat) (fromBuf : List UInt8)
    (fromLen : Nat) : Buf :=
  match toBuf with
  | none => mem
  | some p => mem.writeList p (fromBuf.take (if toLen > fromLen then fromLen else toLen))

/-- The local `buf[12]` of `handle_rwrecovery_page` (lines 859-870): the read-write error
recovery page. -/
def rwrecoveryPage : List UInt8 := [0x01, 0x0a, 0, 0, 0, 0, 0, 0, 0, 0, 0, 0]

/-- The local `buf[20]` of `handle_cache_page` (lines 872-890): the caching page, with WCE when
the device caches writes. -/
def cachePage (dev : Dev) : List UInt8 :=
  [0x08, 0x12, if dev.writeCacheEnabled then 0x04 else 0] ++ List.replicate 17 0

/-- The local `buf[12]` of `handle_control_page` (lines 892-946): the control page, GLTSD and
TAS set, BUSY TIMEOUT PERIOD `ffffh`. -/
def controlPage : List UInt8 := [0x0a, 0x0a, 0x02, 0, 0, 0x40, 0, 0, 0xff, 0xff, 0, 0]

/-- What the three page handlers do: copy the page (`n` bytes) to `ret_buf`, cut to
`ret_buf_len`, and return `n`. -/
def handlePage (page : List UInt8) (n : Nat) (mem : Buf) (retBuf : Option Nat)
    (retBufLen : Nat) : Buf × Nat :=
  (copyToResponseBuf mem retBuf retBufLen page n, n)

/-- `handle_rwrecovery_page`. -/
def handleRwrecoveryPage (_dev : Dev) := handlePage rwrecoveryPage 12

/-- `handle_cache_page`. -/
def handleCachePage (dev : Dev) := handlePage (cachePage dev) 20

/-- `handle_control_page`. -/
def handleControlPage (_dev : Dev) := handlePage controlPage 12

/-- `struct mode_sense_handler`. -/
structure ModeSenseHandler where
  page : UInt8
  subpage : UInt8
  get : Dev → Buf → Option Nat → Nat → Buf × Nat

/-- `modesense_handlers` (lines 949-957). -/
def modesenseHandlers : List ModeSenseHandler :=
  [⟨0x1, 0, handleRwrecoveryPage⟩, ⟨0x8, 0, handleCachePage⟩, ⟨0xa, 0, handleControlPage⟩]

/-- The pages of the table by page and subpage code: subpage 0 of pages `01h`, `08h` and `0ah`. -/
def currentPage (dev : Dev) (pageCode subpageCode : UInt8) : Option (List UInt8) :=
  if subpageCode ≠ 0 then none
  else if pageCode = 0x01 then some rwrecoveryPage
  else if pageCode = 0x08 then some (cachePage dev)
  else if pageCode = 0x0a then some controlPage
  else none

/-- Every handler of the table copies a page and returns its length. -/
theorem modesenseHandlers_get {h : ModeSenseHandler} (hh : h ∈ modesenseHandlers) (dev : Dev) :
    ∃ page, h.get dev = handlePage page page.length := by
  simp only [modesenseHandlers, List.mem_cons, List.mem_singleton, List.not_mem_nil, or_false] at hh
  rcases hh with rfl | rfl | rfl <;> exact ⟨_, rfl⟩

/-- The lookup of the table is `currentPage`. -/
theorem modesenseHandlers_find (dev : Dev) (pageCode subpageCode : UInt8) :
    (modesenseHandlers.find? fun h => pageCode == h.page && subpageCode == h.subpage).map
        (fun h => h.get dev) =
      (currentPage dev pageCode subpageCode).map fun page => handlePage page page.length := by
  unfold currentPage
  by_cases h0 : subpageCode = 0 <;> by_cases h1 : pageCode = 0x01 <;>
    by_cases h8 : pageCode = 0x08 <;> by_cases ha : pageCode = 0x0a <;>
    simp_all [modesenseHandlers] <;> rfl

theorem currentPage_length {dev : Dev} {pageCode subpageCode : UInt8} {page : List UInt8}
    (h : currentPage dev pageCode subpageCode = some page) : 12 ≤ page.length ∧ page.length ≤ 20 := by
  unfold currentPage at h
  split_ifs at h <;> cases h <;> simp [rwrecoveryPage, cachePage, controlPage]

/-- A page of `currentPage` is found in the table, with the handler that copies it. -/
theorem modesenseHandlers_find_some {dev : Dev} {pageCode subpageCode : UInt8}
    {page : List UInt8} (h : currentPage dev pageCode subpageCode = some page) :
    ∃ hd, (modesenseHandlers.find? fun h => pageCode == h.page && subpageCode == h.subpage) =
      some hd ∧ hd.get dev = handlePage page page.length := by
  have := modesenseHandlers_find dev pageCode subpageCode
  rw [h, Option.map_some'] at this
  exact Option.map_eq_some'.mp this

/-! ## The response -/

/-- The buffer and its two cursors: `orig_buf`'s bytes, `buf` and `used_len`. -/
structure SenseSt where
  mem : Buf
  buf : Option Nat
  usedLen : Nat

/-- `handle_mode_sense` (lines 959-994): run the handler on what is left, `NULL` the cursor once
the response reaches `alloc_len`, and advance both cursors; `none` is `-EINVAL`, a MODE SENSE(6)
response of 255 bytes or more. The second component is the handler's `ret`. -/
def handleModeSense (dev : Dev) (handler : ModeSenseHandler) (allocLen : Nat) (senseTen : Bool)
    (st : SenseSt) : Option (SenseSt × Nat) :=
  let r := handler.get dev st.mem st.buf (sizeSub allocLen st.usedLen)
  let ret := r.2
  if !senseTen && st.usedLen + ret ≥ 255 then none
  else
    let buf := if st.buf.isSome && st.usedLen + ret ≥ allocLen then none else st.buf
    some (⟨r.1, buf.map (· + ret), st.usedLen + ret⟩, ret)

/-- `handle_long_lba_block_descriptor` (lines 1006-1026): BLOCK DESCRIPTOR LENGTH 16, then the
block count and block size if the descriptor fits in `alloc_len`; returns 16. -/
def handleLongLbaBlockDescriptor (dev : Dev) (mem : Buf) (allocLen : Nat) : Buf × Nat :=
  let descLen := 16
  let mem := putUnalignedBe16 descLen mem 6
  if 8 + descLen > allocLen then (mem, descLen)
  else (putUnalignedBe32 dev.blockSize.toNat (putUnalignedBe64 dev.numLbas.toNat mem 8) (8 + 12),
    descLen)

/-- `handle_short_lba_block_descriptor` (lines 1038-1073): BLOCK DESCRIPTOR LENGTH 8, then the
block count (`ffffffffh` past 32 bits) and the 24-bit block size if the descriptor fits;
returns 8. -/
def handleShortLbaBlockDescriptor (dev : Dev) (mem : Buf) (allocLen : Nat) (senseTen : Bool) :
    Buf × Nat :=
  let descLen := 8
  let mem := if senseTen then putUnalignedBe16 descLen mem 6 else mem.set 3 8
  let headerLen := if senseTen then 8 else 4
  if headerLen + descLen > allocLen then (mem, descLen)
  else
    let mem := putUnalignedBe32
      (if dev.numLbas < 0x100000000 then dev.numLbas.toNat else 0xffffffff) mem headerLen
    (putUnalignedBe24 dev.blockSize.toNat mem (headerLen + 6), descLen)

/-- Lines 1110-1136: the block descriptor the CDB asks for, written into the fresh buffer, and
its length; none with DBD. -/
def blockDescriptor (dev : Dev) (cdb : Nat → UInt8) (allocLen : Nat) : Buf × Nat :=
  let senseTen := cdb 0 = modeSense10
  if cdb 1 &&& 0x08 ≠ 0 then (Buf.calloc, 0)
  else if senseTen then
    if cdb 1 &&& 0x10 ≠ 0 then handleLongLbaBlockDescriptor dev Buf.calloc allocLen
    else handleShortLbaBlockDescriptor dev Buf.calloc allocLen senseTen
  else handleShortLbaBlockDescriptor dev Buf.calloc allocLen senseTen

/-- The loop over every handler for page code `3fh` (lines 1145-1152). -/
def handleAll (dev : Dev) (allocLen : Nat) (senseTen : Bool) :
    List ModeSenseHandler → SenseSt → Option SenseSt
  | [], st => some st
  | h :: hs, st => (handleModeSense dev h allocLen senseTen st).bind fun r =>
    handleAll dev allocLen senseTen hs r.1

/-- The loop for one page (lines 1153-1169): the first handler for the page and subpage, and
`goto free_buf` if there is none or it returns `ret <= 0`. -/
def handleOne (dev : Dev) (allocLen : Nat) (senseTen : Bool) (pageCode subpageCode : UInt8)
    (st : SenseSt) : Option SenseSt :=
  match modesenseHandlers.find? fun h => pageCode == h.page && subpageCode == h.subpage with
  | none => none
  | some h => (handleModeSense dev h allocLen senseTen st).bind fun r =>
    if r.2 = 0 then none else some r.1

/-- Lines 1108-1174, after the `calloc`: the header, block descriptor and pages in `orig_buf`,
with the MODE DATA LENGTH written; `none` is `goto free_buf`. -/
def modeSenseFill (dev : Dev) (cdb : Nat → UInt8) (allocLen : Nat) : Option Buf :=
  let senseTen := cdb 0 = modeSense10
  let bd := blockDescriptor dev cdb allocLen
  let usedLen := (if senseTen then 8 else 4) + bd.2
  let st : SenseSt := ⟨bd.1, if usedLen < allocLen then some usedLen else none, usedLen⟩
  let pages := if cdb 2 &&& 0x3f = 0x3f then handleAll dev allocLen senseTen modesenseHandlers st
    else handleOne dev allocLen senseTen (cdb 2 &&& 0x3f) (cdb 3) st
  pages.map fun st =>
    if senseTen then putUnalignedBe16 (st.usedLen - 2) st.mem 0
    else st.mem.set 0 (UInt8.ofNat (st.usedLen - 1))

/-- `tcmu_emulate_mode_sense` (lines 1080-1184), with `callocOk` the outcome of the `calloc`:
the status and the iovec after the copy; `none` where `tcmu_get_xfer_length` aborts. -/
def tcmuEmulateModeSense (dev : Dev) (cdb : Nat → UInt8) (iovec : List Iovec)
    (callocOk : Bool) : Option (Sts × List Iovec) :=
  (tcmuGetXferLength cdb).map fun allocLen =>
    if allocLen = 0 then (.ok, iovec)
    else if (if cdb 0 = modeSense10 then 8 else 4) > allocLen then (.invalidCdb, iovec)
    else if !callocOk then (.noResource, iovec)
    else match modeSenseFill dev cdb allocLen with
      | none => (.invalidCdb, iovec)
      | some origBuf => (.ok, (tcmuMemcpyIntoIovec iovec origBuf.byte allocLen).1)

/-- **Truncation changes the block descriptor.** MODE SENSE(6) of the caching page with a block
descriptor, on a device of one 512-byte block: with an allocation length of 8 the block count
(bytes 4-7) comes back zero, since the descriptor does not fit and is not written; with 32 it is
`00 00 00 01`. The first 8 bytes of the two responses differ, though both report the same MODE
DATA LENGTH (31). -/
theorem mode_sense_prefix_depends_on_alloc_len :
    let dev : Dev := ⟨512, 1, false, none, ⟨[], List.not_mem_nil 0⟩, 0, 0, 0, false, false⟩
    let delivered (a : UInt8) := (tcmuEmulateModeSense dev (fun i => [modeSense, 0, 0x08, 0, a].getD i 0)
      [⟨fun _ => 0, 0, a.toNat⟩] true).map fun r => (r.1, flat (windowsOver [⟨fun _ => 0, 0, a.toNat⟩] r.2))
    delivered 8 = some (.ok, [31, 0, 0, 8, 0, 0, 0, 0]) ∧
      (delivered 32).map (fun r => (r.1, r.2.take 8)) = some (.ok, [31, 0, 0, 8, 0, 0, 0, 1]) := by
  decide

end TcmuRunner.Scsi
