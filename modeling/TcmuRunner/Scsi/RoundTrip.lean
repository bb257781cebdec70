import TcmuRunner.Scsi.Truncation
import TcmuRunner.Scsi.ModeSelect

/-!
# MODE SENSE of one page, and MODE SELECT of what it returned

With DBD set (no block descriptor) and one page that `modesense_handlers` supports, the response
`tcmu_emulate_mode_sense` delivers is the mode parameter header, the page, and zeros up to the
allocation length (`mode_sense_dbd_response`). The header holds only the MODE DATA LENGTH, the
header and page length less the length field's own bytes; the rest of the `calloc`'ed header is
zero.

Sent back as the parameter list of the MODE SELECT of the same size, with PF set, SP clear and
the same page and subpage, that response is accepted, however the data-out buffer is cut into
segments (`mode_select_accepts_sensed_page`): MODE SELECT compares only the page, at the header's
length (`tcmuEmulateModeSelect_current_page`).

Both rest on one equation for the buffer MODE SENSE fills (`modeSenseFill_dbd`) and on
`tcmuEmulateModeSense_of_fill`, which reads off what the command copies out once the buffer is
known.
-/

namespace TcmuRunner.Scsi

/-- `copy_to_response_buf` with room for the whole page copies it whole. -/
theorem copyToResponseBuf_full {x : Buf} {used a : Nat} (page : List UInt8)
    (h : used + page.length ≤ a) (ha : a < 2 ^ 64) :
    copyToResponseBuf x (some used) (sizeSub a used) page page.length = x.writeList used page := by
  simp only [copyToResponseBuf, sizeSub_of_le (by omega : used ≤ a) ha]
  split <;> rw [List.take_of_length_le (by omega)]

/-- A `calloc`'ed buffer with a page written at `hdr` and a shorter header at 0 reads, up to any
length past the page, as the header, zeros to `hdr`, the page, and zeros. -/
theorem Buf.slice_header_page {hdr a : Nat} (h page : List UInt8) (hh : h.length ≤ hdr)
    (hp : hdr + page.length ≤ a) :
    ((Buf.calloc.writeList hdr page).writeList 0 h).slice 0 a =
      h ++ List.replicate (hdr - h.length) 0 ++ page ++ List.replicate (a - hdr - page.length) 0 := by
  have hs : a = h.length + (hdr - h.length) + page.length + (a - hdr - page.length) := by omega
  have hhdr : 0 + (h.length + (hdr - h.length)) = hdr := by omega
  conv_lhs => rw [hs, Buf.slice_add, Buf.slice_add, Buf.slice_add, hhdr]
  rw [Buf.slice_writeList, Buf.slice_writeList_of_ge (by omega), Buf.slice_writeList_of_le (by omega),
    Buf.slice_writeList_of_ge (by omega), Buf.slice_writeList, Buf.slice_writeList_of_ge (by omega),
    Buf.slice_writeList_of_ge (by omega)]
  simp

/-- The buffer MODE SENSE fills for one supported page with DBD set: the page right after the
header, and the MODE DATA LENGTH at the start. -/
theorem modeSenseFill_dbd {dev : Dev} {cdb : Nat → UInt8} {page : List UInt8} {a : Nat}
    (hdbd : cdb 1 &&& 0x08 ≠ 0) (hpage : currentPage dev (cdb 2 &&& 0x3f) (cdb 3) = some page)
    (hlen : modeHeaderLength cdb + page.length ≤ a) (ha : a < 2 ^ 64) :
    modeSenseFill dev cdb a = some (if cdb 0 = modeSense10
      then putUnalignedBe16 (8 + page.length - 2) (Buf.calloc.writeList 8 page) 0
      else (Buf.calloc.writeList 4 page).set 0 (UInt8.ofNat (4 + page.length - 1))) := by
  obtain ⟨hd, hfind, hget⟩ := modesenseHandlers_find_some hpage
  have hn := currentPage_length hpage
  have h3f : cdb 2 &&& 0x3f ≠ 0x3f := fun h => by rw [h] at hpage; simp [currentPage] at hpage
  unfold modeHeaderLength at hlen
  simp only [modeSenseFill, blockDescriptor, if_pos hdbd, if_neg h3f, handleOne, hfind,
    handleModeSense, hget, handlePage, Nat.add_zero]
  by_cases h10 : cdb 0 = modeSense10 <;> simp only [h10, if_true, if_false] at hlen ⊢
  all_goals
    rw [if_neg (by simp <;> omega), if_pos (by omega), copyToResponseBuf_full _ hlen ha]
    simp only [Option.some_bind, if_neg (show page.length ≠ 0 by omega), Option.map_some']

/-- The same buffer read as bytes: header, page, zeros. -/
theorem modeSenseFill_dbd_slice {dev : Dev} {cdb : Nat → UInt8} {page : List UInt8} {a : Nat}
    (hdbd : cdb 1 &&& 0x08 ≠ 0) (hpage : currentPage dev (cdb 2 &&& 0x3f) (cdb 3) = some page)
    (hlen : modeHeaderLength cdb + page.length ≤ a) (ha : a < 2 ^ 64) :
    ∃ B, modeSenseFill dev cdb a = some B ∧ B.slice 0 a =
      (if cdb 0 = modeSense10 then beBytes 2 (page.length + 6) ++ List.replicate 6 0
        else UInt8.ofNat (page.length + 3) :: List.replicate 3 0) ++
      page ++ List.replicate (a - modeHeaderLength cdb - page.length) 0 := by
  refine ⟨_, modeSenseFill_dbd hdbd hpage hlen ha, ?_⟩
  unfold modeHeaderLength at hlen ⊢
  by_cases h10 : cdb 0 = modeSense10 <;> simp only [h10, if_true, if_false] at hlen ⊢
  · rw [show 8 + page.length - 2 = page.length + 6 by omega]
    exact Buf.slice_header_page (beBytes 2 _) page (by simp [beBytes]) hlen
  · rw [show 4 + page.length - 1 = page.length + 3 by omega]
    exact Buf.slice_header_page [_] page (by simp) hlen

/-- Once the buffer is filled, MODE SENSE returns GOOD and copies its first `alloc_len` bytes. -/
theorem tcmuEmulateModeSense_of_fill {dev : Dev} {cdb : Nat → UInt8} {a : Nat} {B : Buf}
    {iovec : List Iovec} (ha : tcmuGetXferLength cdb = some a) (hhdr : modeHeaderLength cdb ≤ a)
    (hfill : modeSenseFill dev cdb a = some B) :
    tcmuEmulateModeSense dev cdb iovec true = some (.ok, (tcmuMemcpyIntoIovec iovec B.byte a).1) := by
  unfold modeHeaderLength at hhdr
  simp only [tcmuEmulateModeSense, ha, Option.map_some', hfill, Bool.not_true, Bool.false_eq_true,
    if_false, if_neg (show a ≠ 0 by split at hhdr <;> omega), if_neg (Nat.not_lt.mpr hhdr)]

/-- **MODE SENSE of one page with DBD.** For a supported page and subpage, and an allocation
length and a data-in buffer that hold the header and the page, the command returns GOOD and the
first `alloc_len` bytes delivered are the header (MODE DATA LENGTH only), the page, and zeros. -/
theorem mode_sense_dbd_response {dev : Dev} {cdb : Nat → UInt8} {page : List UInt8} {a : Nat}
    {iovec : List Iovec} (hdbd : cdb 1 &&& 0x08 ≠ 0)
    (hpage : currentPage dev (cdb 2 &&& 0x3f) (cdb 3) = some page)
    (ha : tcmuGetXferLength cdb = some a) (hlen : modeHeaderLength cdb + page.length ≤ a)
    (hl : a ≤ tcmuIovecLength iovec) :
    ∃ out, tcmuEmulateModeSense dev cdb iovec true = some (.ok, out) ∧
      (flat (windowsOver iovec out)).take a =
        (if cdb 0 = modeSense10 then beBytes 2 (page.length + 6) ++ List.replicate 6 0
          else UInt8.ofNat (page.length + 3) :: List.replicate 3 0) ++
        page ++ List.replicate (a - modeHeaderLength cdb - page.length) 0 := by
  obtain ⟨B, hfill, hB⟩ :=
    modeSenseFill_dbd_slice hdbd hpage hlen (lt_trans (tcmuGetXferLength_lt ha) (by decide))
  refine ⟨_, tcmuEmulateModeSense_of_fill ha (by omega) hfill, ?_⟩
  rw [take_flat_memcpyInto _ le_rfl hl, List.range_eq_range', ← hB]
  rfl

/-- MODE SENSE(10) of the caching page with DBD, 40 bytes into two segments. -/
theorem mode_sense_dbd_cache_page :
    let dev : Dev := ⟨512, 1, false, none, ⟨[], List.not_mem_nil 0⟩, 0, 0, 0, false, false⟩
    let cdb : Nat → UInt8 := fun i => [modeSense10, 0x08, 0x08, 0, 0, 0, 0, 0, 40].getD i 0
    let iovec : List Iovec := [⟨fun _ => 0, 0, 9⟩, ⟨fun _ => 0, 4, 31⟩]
    (cdb 1 &&& 0x08 ≠ 0 ∧ currentPage dev (cdb 2 &&& 0x3f) (cdb 3) = some (cachePage dev) ∧
      tcmuGetXferLength cdb = some 40 ∧ modeHeaderLength cdb + (cachePage dev).length ≤ 40 ∧
      40 ≤ tcmuIovecLength iovec) ∧
    ∃ out, tcmuEmulateModeSense dev cdb iovec true = some (.ok, out) ∧
      (flat (windowsOver iovec out)).take 40 =
        (if cdb 0 = modeSense10 then beBytes 2 ((cachePage dev).length + 6) ++ List.replicate 6 0
          else UInt8.ofNat ((cachePage dev).length + 3) :: List.replicate 3 0) ++
        cachePage dev ++ List.replicate (40 - modeHeaderLength cdb - (cachePage dev).length) 0 :=
  ⟨⟨by decide, rfl, rfl, by decide, by decide⟩,
    mode_sense_dbd_response (by decide) rfl rfl (by decide) (by decide)⟩

/-- **What MODE SENSE returns, MODE SELECT accepts.** The response of a MODE SENSE with DBD for
one supported page, sent unchanged (in any segments, with anything after it) as the parameter
list of the MODE SELECT of the same CDB size with PF set, SP clear and the same page and
subpage, is accepted. -/
theorem mode_select_accepts_sensed_page {dev : Dev} (senseCdb : Nat → UInt8) {selectCdb : Nat → UInt8}
    {page : List UInt8} {a b : Nat} (iovS : List Iovec) {iovT out : List Iovec} (inBuf : Nat → UInt8)
    (hdbd : senseCdb 1 &&& 0x08 ≠ 0)
    (hpage : currentPage dev (senseCdb 2 &&& 0x3f) (senseCdb 3) = some page)
    (ha : tcmuGetXferLength senseCdb = some a) (hlen : modeHeaderLength senseCdb + page.length ≤ a)
    (hl : a ≤ tcmuIovecLength iovS)
    (hout : tcmuEmulateModeSense dev senseCdb iovS true = some (.ok, out))
    (hpf : selectCdb 1 &&& 0x10 ≠ 0) (hsp : selectCdb 1 &&& 0x01 = 0)
    (h2 : selectCdb 2 = senseCdb 2) (h3 : selectCdb 3 = senseCdb 3)
    (hten : selectCdb 0 = modeSelect10 ↔ senseCdb 0 = modeSense10)
    (hb : tcmuGetXferLength selectCdb = some b) (hblen : modeHeaderLength senseCdb + page.length ≤ b)
    (hsent : (flat iovT).take a = (flat (windowsOver iovS out)).take a)
    (hT : a ≤ tcmuIovecLength iovT) (hT' : tcmuIovecLength iovT < 512) :
    (tcmuEmulateModeSelect dev selectCdb iovT inBuf).map Prod.fst = some .ok := by
  obtain ⟨B, hfill, hB⟩ :=
    modeSenseFill_dbd_slice hdbd hpage hlen (lt_trans (tcmuGetXferLength_lt ha) (by decide))
  rw [tcmuEmulateModeSense_of_fill ha (by omega) hfill, Option.some.injEq, Prod.mk.injEq] at hout
  rw [← hout.2, take_flat_memcpyInto _ le_rfl hl, List.range_eq_range'] at hsent
  have hhdr : (if selectCdb 0 = modeSelect10 then 8 else 4) = modeHeaderLength senseCdb := by
    unfold modeHeaderLength; by_cases h10 : senseCdb 0 = modeSense10 <;> simp [h10, hten]
  have hdrop : ((flat iovT).drop (modeHeaderLength senseCdb)).take page.length = page := by
    have hhead : (if senseCdb 0 = modeSense10 then beBytes 2 (page.length + 6) ++ List.replicate 6 0
        else UInt8.ofNat (page.length + 3) :: List.replicate 3 0).length =
        modeHeaderLength senseCdb := by
      unfold modeHeaderLength; split <;> simp [beBytes]
    calc ((flat iovT).drop (modeHeaderLength senseCdb)).take page.length
        = (((flat iovT).take a).drop (modeHeaderLength senseCdb)).take page.length := by
          rw [List.drop_take, List.take_take, min_eq_left (by omega)]
      _ = page := by
          rw [hsent, show List.map B.byte (List.range' 0 a) = B.slice 0 a from rfl, hB,
            List.append_assoc, ← hhead, List.drop_left, List.take_left]
  rw [tcmuEmulateModeSelect_current_page inBuf hpf hsp (by rw [h2, h3]; exact hpage) hb
    (by rw [hhdr]; exact hblen) (by rw [hhdr]; omega) hT', hhdr, if_pos hdrop]

/-- The control page, sensed with MODE SENSE(6) into two segments and sent back to
MODE SELECT(6). -/
theorem mode_select_of_sensed_control_page :
    let dev : Dev := ⟨512, 1, false, none, ⟨[], List.not_mem_nil 0⟩, 0, 0, 0, false, false⟩
    let senseCdb : Nat → UInt8 := fun i => [modeSense, 0x08, 0x0a, 0, 24].getD i 0
    let selectCdb : Nat → UInt8 := fun i => [modeSelect, 0x10, 0x0a, 0, 24].getD i 0
    let iovS : List Iovec := [⟨fun _ => 0, 0, 7⟩, ⟨fun _ => 0, 2, 17⟩]
    let out : List Iovec := ((tcmuEmulateModeSense dev senseCdb iovS true).map Prod.snd).getD []
    let iovT : List Iovec := windowsOver iovS out
    (senseCdb 1 &&& 0x08 ≠ 0 ∧ currentPage dev (senseCdb 2 &&& 0x3f) (senseCdb 3) = some controlPage ∧
      tcmuGetXferLength senseCdb = some 24 ∧ modeHeaderLength senseCdb + controlPage.length ≤ 24 ∧
      24 ≤ tcmuIovecLength iovS ∧ tcmuEmulateModeSense dev senseCdb iovS true = some (.ok, out) ∧
      selectCdb 1 &&& 0x10 ≠ 0 ∧ selectCdb 1 &&& 0x01 = 0 ∧ selectCdb 2 = senseCdb 2 ∧
      selectCdb 3 = senseCdb 3 ∧ (selectCdb 0 = modeSelect10 ↔ senseCdb 0 = modeSense10) ∧
      tcmuGetXferLength selectCdb = some 24 ∧ modeHeaderLength senseCdb + controlPage.length ≤ 24 ∧
      (flat iovT).take 24 = (flat (windowsOver iovS out)).take 24 ∧
      24 ≤ tcmuIovecLength iovT ∧ tcmuIovecLength iovT < 512) ∧
    (tcmuEmulateModeSelect dev selectCdb iovT fun _ => 0).map Prod.fst = some .ok :=
  ⟨⟨by decide, rfl, rfl, by decide, by decide, rfl, by decide, by decide, rfl, rfl, by decide, rfl,
      by decide, rfl, by decide, by decide⟩,
    mode_select_accepts_sensed_page (fun i => [modeSense, 0x08, 0x0a, 0, 24].getD i 0)
      [⟨fun _ => 0, 0, 7⟩, ⟨fun _ => 0, 2, 17⟩] _ (by decide) rfl rfl (by decide) (by decide) rfl (by decide)
      (by decide) rfl rfl (by decide) rfl (by decide) rfl (by decide) (by decide)⟩

end TcmuRunner.Scsi
