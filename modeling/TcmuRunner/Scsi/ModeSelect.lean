import TcmuRunner.Scsi.ModeSense

/-!
# MODE SELECT (`api.c:1191-1247`)

Model of `tcmu_emulate_mode_select`. Nothing can be changed, so the command only checks that the
page sent is the page MODE SENSE would return: it copies the parameter list into `in_buf`, has
the handler for the page and subpage of the CDB write the current page at `&buf[hdr_len]`, and
compares the page's length in bytes at `hdr_len` of both.

That offset is the header length only: the comparison does not look at the BLOCK DESCRIPTOR
LENGTH of the parameter list, so a list that carries block descriptors has them compared with the
page. The lengths are checked against the parameter list length of the CDB, never against what the
copy wrote, so a data-out buffer shorter than the page has the rest compared as whatever `in_buf`
held before.
-/

namespace TcmuRunner.Scsi

/-- `tcmu_emulate_mode_select` (lines 1191-1247): the status and the iovec after the copy;
`inBuf` is what the uninitialised array `in_buf` holds before it, and `none` is where
`tcmu_get_xfer_length` aborts. -/
def tcmuEmulateModeSelect (dev : Dev) (cdb : Nat → UInt8) (iovec : List Iovec)
    (inBuf : Nat → UInt8) : Option (Sts × List Iovec) :=
  let selectTen := cdb 0 = modeSelect10
  let pageCode := cdb 2 &&& 0x3f
  let subpageCode := cdb 3
  let hdrLen := if selectTen then 8 else 4
  (tcmuGetXferLength cdb).map fun allocLen =>
    if allocLen = 0 then (.ok, iovec)
    else
      let r := tcmuMemcpyFromIovec inBuf 512 iovec
      let sts : Sts :=
        if r.2.2 ≥ 512 then .invalidParamListLen
        else if cdb 1 &&& 0x10 = 0 ∨ cdb 1 &&& 0x01 ≠ 0 then .invalidCdb
        else match modesenseHandlers.find? fun h => pageCode == h.page && subpageCode == h.subpage with
          | none => .invalidCdb
          | some h =>
            let g := h.get dev (Buf.zeros 512) (some hdrLen) (512 - hdrLen)
            let ret := g.2
            if ret = 0 then .invalidCdb
            else if !selectTen && hdrLen + ret ≥ 255 then .invalidCdb
            else if allocLen < hdrLen + ret then .invalidParamListLen
            else if memcmp g.1.byte hdrLen r.1 hdrLen ret ≠ 0 then .invalidParamList
            else .ok
      (sts, r.2.1)

/-- A list read off `f` from `s` on, position by position. -/
theorem map_range'_of_getD {f : Nat → UInt8} {s : Nat} :
    ∀ {l : List UInt8}, (∀ j < l.length, f (s + j) = l.getD j 0) → (List.range' s l.length).map f = l
  | [], _ => rfl
  | x :: xs, h => by
    have h₀ : f s = x := by simpa using h 0 (by simp)
    have h₁ : (List.range' (s + 1) xs.length).map f = xs := map_range'_of_getD fun j hj => by
      simpa [Nat.add_assoc, Nat.add_comm 1 j] using h (j + 1) (by simp; omega)
    rw [List.length_cons, List.range'_succ, List.map_cons, h₀, h₁]

/-- With PF set and SP clear, a page and subpage that MODE SENSE supports, a parameter list
length that holds the header and the page, and fewer than 512 bytes sent, the command succeeds
exactly when `in_buf`, after the copy of the parameter list into it, holds the current page after
the header. -/
theorem tcmuEmulateModeSelect_verdict {dev : Dev} {cdb : Nat → UInt8} {iovec : List Iovec}
    {page : List UInt8} {a : Nat} (inBuf : Nat → UInt8)
    (hpf : cdb 1 &&& 0x10 ≠ 0) (hsp : cdb 1 &&& 0x01 = 0)
    (hpage : currentPage dev (cdb 2 &&& 0x3f) (cdb 3) = some page)
    (ha : tcmuGetXferLength cdb = some a)
    (hlen : (if cdb 0 = modeSelect10 then 8 else 4) + page.length ≤ a)
    (hl' : tcmuIovecLength iovec < 512) :
    (tcmuEmulateModeSelect dev cdb iovec inBuf).map Prod.fst =
      some (if (List.range' (if cdb 0 = modeSelect10 then 8 else 4) page.length).map
          (tcmuMemcpyFromIovec inBuf 512 iovec).1 = page then .ok else .invalidParamList) := by
  obtain ⟨hd, hfind, hget⟩ := modesenseHandlers_find_some hpage
  have hn := currentPage_length hpage
  have hc : (tcmuMemcpyFromIovec inBuf 512 iovec).2.2 = tcmuIovecLength iovec := by
    have := (memcpyFromLoop_spec inBuf iovec 512 0).1
    simp only [tcmuMemcpyFromIovec, this]; omega
  have hdr8 : (if cdb 0 = modeSelect10 then 8 else 4) ≤ 8 := by split <;> omega
  simp only [tcmuEmulateModeSelect, ha, Option.map_some', hfind, hget, handlePage, hc,
    if_neg (show a ≠ 0 by omega), if_neg (show ¬tcmuIovecLength iovec ≥ 512 by omega),
    if_neg (show ¬(cdb 1 &&& 16 = 0 ∨ cdb 1 &&& 1 ≠ 0) by simp [hpf, hsp]),
    if_neg (show page.length ≠ 0 by omega)]
  generalize (if cdb 0 = modeSelect10 then 8 else 4) = hdr at *
  rw [if_neg (show ¬(_ && decide (hdr + page.length ≥ 255)) = true by simp; omega), if_neg (by omega)]
  have hbuf : (List.range' hdr page.length).map
      (copyToResponseBuf (Buf.zeros 512) (some hdr) (512 - hdr) page page.length).byte = page := by
    simp only [copyToResponseBuf, if_pos (show 512 - hdr > page.length by omega), List.take_length]
    exact Buf.slice_writeList _ _ _
  simp only [ne_eq, memcmp_eq_zero, hbuf]
  by_cases h : (List.range' hdr page.length).map (tcmuMemcpyFromIovec inBuf 512 iovec).1 = page
  · simp [h]
  · simp [h, Ne.symm h]

/-- **MODE SELECT compares the page and nothing else.** With PF set and SP clear, a page and
subpage that MODE SENSE supports, a parameter list length and a data-out buffer that hold the
header and the page, and fewer than 512 bytes sent, the command succeeds exactly when the bytes
after the header are the current page; the header itself is never read. -/
theorem tcmuEmulateModeSelect_current_page {dev : Dev} {cdb : Nat → UInt8} {iovec : List Iovec}
    {page : List UInt8} {a : Nat} (inBuf : Nat → UInt8)
    (hpf : cdb 1 &&& 0x10 ≠ 0) (hsp : cdb 1 &&& 0x01 = 0)
    (hpage : currentPage dev (cdb 2 &&& 0x3f) (cdb 3) = some page)
    (ha : tcmuGetXferLength cdb = some a)
    (hlen : (if cdb 0 = modeSelect10 then 8 else 4) + page.length ≤ a)
    (hl : (if cdb 0 = modeSelect10 then 8 else 4) + page.length ≤ tcmuIovecLength iovec)
    (hl' : tcmuIovecLength iovec < 512) :
    (tcmuEmulateModeSelect dev cdb iovec inBuf).map Prod.fst =
      some (if ((flat iovec).drop (if cdb 0 = modeSelect10 then 8 else 4)).take page.length = page
        then .ok else .invalidParamList) := by
  rw [tcmuEmulateModeSelect_verdict inBuf hpf hsp hpage ha hlen hl']
  generalize (if cdb 0 = modeSelect10 then 8 else 4) = hdr at *
  rw [← map_getD_range' _ 0 (by simp; omega)]
  congr 3
  exact List.map_congr_left fun i hi =>
    tcmuMemcpyFromIovec_fst inBuf (by rw [List.mem_range'_1] at hi; omega)

/-- **MODE SELECT reads `in_buf` past what it copied.** The length check is made against the
parameter list length of the CDB, not against what the data-out buffer held. When the buffer is
shorter than the header and the page, and what it holds after the header agrees with the page,
the comparison reaches bytes of `in_buf` the copy did not write: for some contents of that
uninitialised array the command succeeds, for others it fails with INVALID PARAMETER LIST. -/
theorem mode_select_reads_uninitialised {dev : Dev} {cdb : Nat → UInt8} {iovec : List Iovec}
    {page : List UInt8} {a : Nat} (hpf : cdb 1 &&& 0x10 ≠ 0) (hsp : cdb 1 &&& 0x01 = 0)
    (hpage : currentPage dev (cdb 2 &&& 0x3f) (cdb 3) = some page)
    (ha : tcmuGetXferLength cdb = some a)
    (hlen : (if cdb 0 = modeSelect10 then 8 else 4) + page.length ≤ a)
    (hshort : tcmuIovecLength iovec < (if cdb 0 = modeSelect10 then 8 else 4) + page.length)
    (hpre : (flat iovec).drop (if cdb 0 = modeSelect10 then 8 else 4) <+: page) :
    (∃ inBuf, (tcmuEmulateModeSelect dev cdb iovec inBuf).map Prod.fst = some .ok) ∧
      ∃ inBuf, (tcmuEmulateModeSelect dev cdb iovec inBuf).map Prod.fst = some .invalidParamList := by
  have hn := currentPage_length hpage
  have hl' : tcmuIovecLength iovec < 512 := by split at hshort <;> omega
  have hv := fun inBuf => tcmuEmulateModeSelect_verdict inBuf hpf hsp hpage ha hlen hl'
  generalize (if cdb 0 = modeSelect10 then 8 else 4) = hdr at *
  /- Below the copied length `in_buf` holds the list, from there on what it held before. -/
  have hcopy : ∀ inBuf i, (tcmuMemcpyFromIovec inBuf 512 iovec).1 i =
      if i < tcmuIovecLength iovec then (flat iovec).getD i 0 else inBuf i := fun inBuf i => by
    rw [tcmuMemcpyFromIovec_fst_eq, Nat.min_eq_right hl'.le]
  have hlist : ∀ i, hdr ≤ i → i < tcmuIovecLength iovec → (flat iovec).getD i 0 = page.getD (i - hdr) 0 := by
    intro i h₁ h₂
    obtain ⟨t, ht⟩ := hpre
    rw [← ht, List.getD_eq_getElem?_getD, List.getD_eq_getElem?_getD,
      List.getElem?_append_left (by simp; omega), List.getElem?_drop, Nat.add_sub_cancel' h₁]
  refine ⟨⟨fun i => page.getD (i - hdr) 0, ?_⟩, ⟨fun i => if page.getD (i - hdr) 0 = 0 then 1 else 0, ?_⟩⟩
  · rw [hv, if_pos (map_range'_of_getD fun j _ => ?_)]
    rw [hcopy]; split
    · exact hlist _ (by omega) ‹_› |>.trans (by rw [Nat.add_sub_cancel_left])
    · rw [Nat.add_sub_cancel_left]
  · rw [hv, if_neg fun heq => ?_]
    /- The first byte the copy did not reach lies inside the page. -/
    have hj : tcmuIovecLength iovec - hdr < page.length := by omega
    have := congrArg (fun l => l.getD (tcmuIovecLength iovec - hdr) 0) heq
    simp only [List.getD_eq_getElem?_getD, List.getElem?_map, List.getElem?_range' _ _ hj,
      Option.map_some', Option.getD_some, Nat.one_mul, hcopy, if_neg (show ¬hdr +
        (tcmuIovecLength iovec - hdr) < tcmuIovecLength iovec by omega), Nat.add_sub_cancel_left] at this
    split at this
    · next h => exact absurd (this.trans h) (by decide)
    · next h => exact h this.symm

/-- MODE SELECT(6) of the control page with a parameter list length of 16 and a data-out buffer
of the 4-byte header only. -/
theorem mode_select_reads_uninitialised_of_header_only :
    let dev : Dev := ⟨512, 1, false, none, ⟨[], List.not_mem_nil 0⟩, 0, 0, 0, false, false⟩
    let cdb : Nat → UInt8 := fun i => [modeSelect, 0x10, 0x0a, 0, 16].getD i 0
    let iovec : List Iovec := [⟨fun _ => 0, 0, 4⟩]
    (cdb 1 &&& 0x10 ≠ 0 ∧ cdb 1 &&& 0x01 = 0 ∧ currentPage dev (cdb 2 &&& 0x3f) (cdb 3) = some controlPage ∧
      tcmuGetXferLength cdb = some 16 ∧
      (if cdb 0 = modeSelect10 then 8 else 4) + controlPage.length ≤ 16 ∧
      tcmuIovecLength iovec < (if cdb 0 = modeSelect10 then 8 else 4) + controlPage.length ∧
      (flat iovec).drop (if cdb 0 = modeSelect10 then 8 else 4) <+: controlPage) ∧
    (∃ inBuf, (tcmuEmulateModeSelect dev cdb iovec inBuf).map Prod.fst = some .ok) ∧
      ∃ inBuf, (tcmuEmulateModeSelect dev cdb iovec inBuf).map Prod.fst = some .invalidParamList :=
  ⟨⟨by decide, by decide, rfl, rfl, by decide, by decide, List.nil_prefix⟩,
    mode_select_reads_uninitialised (by decide) (by decide) rfl rfl (by decide) (by decide)
      List.nil_prefix⟩

/-- **A sensed page with its block descriptor is rejected.** On a device of one 512-byte block,
MODE SENSE(6) of the read-write error recovery page with a block descriptor returns 24 bytes;
sent back unchanged as the parameter list of MODE SELECT(6) (PF set, length 24), they are rejected
as an invalid parameter list, whatever `in_buf` held: bytes 4-15 of the list (the descriptor and
the start of the page) are compared with the page. -/
theorem mode_select_rejects_sensed_descriptor :
    let dev : Dev := ⟨512, 1, false, none, ⟨[], List.not_mem_nil 0⟩, 0, 0, 0, false, false⟩
    let list : List UInt8 := [23, 0, 0, 8, 0, 0, 0, 1, 0, 0, 0, 2] ++ rwrecoveryPage
    (tcmuEmulateModeSense dev (fun i => [modeSense, 0, 0x01, 0, 24].getD i 0) [⟨fun _ => 0, 0, 24⟩]
      true).map (fun r => (r.1, flat (windowsOver [⟨fun _ => 0, 0, 24⟩] r.2))) = some (.ok, list) ∧
    ∀ inBuf, (tcmuEmulateModeSelect dev (fun i => [modeSelect, 0x10, 0x01, 0, 24].getD i 0)
      [⟨fun i => list.getD i 0, 0, 24⟩] inBuf).map Prod.fst = some .invalidParamList :=
  ⟨by decide, fun _ => rfl⟩

end TcmuRunner.Scsi
