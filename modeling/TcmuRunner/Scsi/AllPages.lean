import TcmuRunner.Scsi.BlockDescriptor
import TcmuRunner.Scsi.RoundTrip

/-!
# MODE SENSE of every page (`api.c:1080-1184`)

Page code `3fh` asks for every mode page. `tcmu_emulate_mode_sense` then runs every handler of
`modesense_handlers`, in table order, each on what is left of the buffer (lines 1145-1152); the
subpage code is not looked at. When the allocation length holds the header, the block descriptor
and the three pages, the handlers copy their pages whole, one after the other, right after the
block descriptor, and the MODE DATA LENGTH counts them all.

* `handleAll_pages`: handlers that each copy a page, run from a cursor at `used_len`, write the
  pages' concatenation there and move `used_len` by its length.
* `Buf.Clean`: a buffer that is zero from its high-water mark on, as a `calloc`'ed one written by
  stores is. The block descriptor helpers write nowhere past the descriptor but its next byte,
  which the first page then covers.
* **`mode_sense_all_pages`**: MODE SENSE of page `3fh`, with or without a block descriptor, with
  room for the whole response, returns GOOD and delivers the MODE DATA LENGTH (the length of the
  response less the field's own bytes), then after the header and the block descriptor the
  read-write error recovery, caching and control pages, and zeros up to the allocation length.
-/

namespace TcmuRunner.Scsi

/-- Every page `modesense_handlers` copies, in table order. -/
def allPages (dev : Dev) : List UInt8 := rwrecoveryPage ++ cachePage dev ++ controlPage

theorem length_allPages (dev : Dev) : (allPages dev).length = 44 := by
  simp [allPages, rwrecoveryPage, cachePage, controlPage]

/-! ## The loop over every handler -/

/-- Handlers that each copy a page, run from a cursor at `used_len` (`NULL` from `alloc_len` on)
with room for all the pages, write them one after the other at `used_len`. -/
theorem handleAll_pages (dev : Dev) (senseTen : Bool) {a : Nat} (ha : a < 2 ^ 64)
    {hs : List ModeSenseHandler}
    {pages : List (List UInt8)}
    (hget : List.Forall₂ (fun h page => h.get dev = handlePage page page.length) hs pages) :
    ∀ (mem : Buf) (used : Nat), used + pages.flatten.length ≤ a →
      (senseTen = false → used + pages.flatten.length < 255) →
      handleAll dev a senseTen hs ⟨mem, if used < a then some used else none, used⟩ =
        some ⟨mem.writeList used pages.flatten,
          if used + pages.flatten.length < a then some (used + pages.flatten.length) else none,
          used + pages.flatten.length⟩ := by
  induction hget with
  | nil => intro mem used _ _; simp [handleAll]
  | @cons h page hs pages hh _ ih =>
    intro mem used hfit h255
    rw [List.flatten_cons, List.length_append] at hfit h255
    have hcopy : copyToResponseBuf mem (if used < a then some used else none) (sizeSub a used) page
        page.length = mem.writeList used page := by
      split
      · exact copyToResponseBuf_full page (by omega) ha
      · rw [List.eq_nil_of_length_eq_zero (by omega : page.length = 0)]; simp [copyToResponseBuf]
    have hshort : (!senseTen && used + page.length ≥ 255) = false := by
      cases senseTen
      · have := h255 rfl; simp; omega
      · rfl
    simp only [handleAll, handleModeSense, hh, handlePage, hcopy, hshort, Bool.false_eq_true,
      if_false, cursor_step rfl, Option.some_bind]
    rw [ih _ _ (by omega) (fun h => by have := h255 h; omega), Buf.writeList_append, List.flatten_cons,
      List.length_append, Nat.add_assoc]

/-! ## What the buffer holds past the response -/

/-- Zero from its high-water mark on. -/
def Buf.Clean (b : Buf) : Prop := ∀ k, b.top ≤ k → b.byte k = 0

theorem Buf.clean_calloc : Buf.calloc.Clean := fun _ _ => rfl

theorem Buf.Clean.writeList {b : Buf} (hb : b.Clean) (i : Nat) (l : List UInt8) :
    (b.writeList i l).Clean := by
  intro k hk
  by_cases hl : l = []
  · subst hl; rw [Buf.writeList_nil] at hk ⊢; exact hb k hk
  · rw [Buf.top_writeList hl] at hk
    rw [Buf.byte_writeList_of_le (by omega)]
    exact hb k (by omega)

theorem clean_handleLongLbaBlockDescriptor (dev : Dev) {b : Buf} (hb : b.Clean) (a : Nat) :
    (handleLongLbaBlockDescriptor dev b a).1.Clean := by
  have h₁ : (putUnalignedBe16 16 b 6).Clean := hb.writeList _ _
  unfold handleLongLbaBlockDescriptor
  dsimp only
  split
  · exact h₁
  · exact (h₁.writeList _ _).writeList _ _

theorem clean_handleShortLbaBlockDescriptor (dev : Dev) {b : Buf} (hb : b.Clean) (a : Nat)
    (senseTen : Bool) : (handleShortLbaBlockDescriptor dev b a senseTen).1.Clean := by
  unfold handleShortLbaBlockDescriptor
  generalize (if dev.numLbas < 0x100000000 then dev.numLbas.toNat else 0xffffffff) = n
  dsimp only
  split <;> split
  · exact hb.writeList _ _
  · exact ((hb.writeList _ _).writeList _ _).writeList _ _
  · exact hb.writeList _ _
  · exact ((hb.writeList _ _).writeList _ _).writeList _ _

theorem clean_blockDescriptor (dev : Dev) (cdb : Nat → UInt8) (a : Nat) :
    (blockDescriptor dev cdb a).1.Clean := by
  unfold blockDescriptor
  dsimp only
  split_ifs
  · exact Buf.clean_calloc
  · exact clean_handleLongLbaBlockDescriptor dev Buf.clean_calloc a
  all_goals exact clean_handleShortLbaBlockDescriptor dev Buf.clean_calloc a _

/-- The block descriptor helpers write below the end of the descriptor, but for one byte. -/
theorem top_blockDescriptor_le (dev : Dev) (cdb : Nat → UInt8) (a : Nat) :
    (blockDescriptor dev cdb a).1.top ≤ modeHeaderLength cdb + blockDescriptorLength cdb + 1 := by
  unfold blockDescriptor blockDescriptorLength modeHeaderLength
  dsimp only
  split_ifs <;> simp only [top_handleLongLbaBlockDescriptor, top_handleShortLbaBlockDescriptor,
    Buf.calloc, decide_eq_true_eq, if_true, if_false, *] <;> (try split_ifs) <;> omega

/-- `n` bytes from `i` of the first `a`. -/
theorem Buf.take_drop_slice (b : Buf) {i n a : Nat} (h : i + n ≤ a) :
    ((b.slice 0 a).drop i).take n = b.slice i n := by
  rw [show a = i + (n + (a - i - n)) by omega, Buf.slice_add, Buf.slice_add, Nat.zero_add,
    List.drop_left' (by simp [Buf.slice]), List.take_left' (by simp [Buf.slice])]

/-! ## The response -/

/-- The buffer MODE SENSE fills for page `3fh` when the whole response fits: the block
descriptor, every page after it, and the MODE DATA LENGTH at the start. -/
theorem modeSenseFill_all {dev : Dev} {cdb : Nat → UInt8} {a : Nat}
    (h3f : cdb 2 &&& 0x3f = 0x3f)
    (hlen : modeHeaderLength cdb + blockDescriptorLength cdb + 44 ≤ a) (ha : a < 2 ^ 64) :
    modeSenseFill dev cdb a = some
      (let n := modeHeaderLength cdb + blockDescriptorLength cdb
       let m := (blockDescriptor dev cdb a).1.writeList n (allPages dev)
       if cdb 0 = modeSense10 then putUnalignedBe16 (n + 44 - 2) m 0
       else m.set 0 (UInt8.ofNat (n + 44 - 1))) := by
  have hjoin : [rwrecoveryPage, cachePage dev, controlPage].flatten = allPages dev := by
    simp [allPages]
  have hn : modeHeaderLength cdb + blockDescriptorLength cdb ≤ 24 := by
    unfold modeHeaderLength blockDescriptorLength; split_ifs <;> omega
  have hget : List.Forall₂ (fun h page => h.get dev = handlePage page page.length)
      modesenseHandlers [rwrecoveryPage, cachePage dev, controlPage] :=
    .cons rfl (.cons rfl (.cons rfl .nil))
  have hall := handleAll_pages dev (decide (cdb 0 = modeSense10)) ha hget
    (blockDescriptor dev cdb a).1 (modeHeaderLength cdb + blockDescriptorLength cdb)
    (by rw [hjoin, length_allPages]; exact hlen) (fun _ => by rw [hjoin, length_allPages]; omega)
  rw [hjoin, length_allPages] at hall
  simp only [modeSenseFill, h3f, if_true, blockDescriptor_snd]
  unfold modeHeaderLength at hall ⊢
  rw [hall, Option.map_some']

/-- What the filled buffer holds past the MODE DATA LENGTH, which is written last, at the
start: the pages after the header and the block descriptor, and zeros past them. -/
theorem allPages_after_header (dev : Dev) (cdb : Nat → UInt8) (a : Nat) :
    let n := modeHeaderLength cdb + blockDescriptorLength cdb
    let m := (blockDescriptor dev cdb a).1.writeList n (allPages dev)
    let B := if cdb 0 = modeSense10 then putUnalignedBe16 (n + 44 - 2) m 0
      else m.set 0 (UInt8.ofNat (n + 44 - 1))
    B.slice n 44 = allPages dev ∧ ∀ k, n + 44 ≤ k → B.byte k = 0 := by
  intro n m B
  have hn : 4 ≤ n := by unfold n modeHeaderLength; split <;> omega
  have hm : m.slice n 44 = allPages dev := Buf.slice_writeList_eq (length_allPages dev).symm
  have hz : ∀ k, n + 44 ≤ k → m.byte k = 0 := fun k hk =>
    (clean_blockDescriptor dev cdb a).writeList n (allPages dev) k (by
      have := top_blockDescriptor_le dev cdb a
      rw [Buf.top_writeList (by simp [allPages, rwrecoveryPage]), length_allPages]; omega)
  dsimp only [B]; split
  · exact ⟨by rw [putUnalignedBe16, putUnalignedBe, Buf.slice_writeList_of_ge (by simp; omega), hm],
      fun k hk => by rw [putUnalignedBe16, putUnalignedBe, Buf.byte_writeList_of_le (by simp; omega),
        hz k hk]⟩
  · exact ⟨by rw [Buf.slice_set_of_ne (Or.inl (by omega)), hm], fun k hk => by
      rw [Buf.byte_set_of_ne (by omega), hz k hk]⟩

/-- **MODE SENSE of every page.** For page code `3fh` (any subpage), with or without a block
descriptor, and an allocation length and a data-in buffer that hold the whole response: the
command returns GOOD, and what it delivers starts with the MODE DATA LENGTH (the response's
length less the field's own one or two bytes); after the header and the block descriptor come
the read-write error recovery, caching and control pages, in that order, and then zeros up to
the allocation length. -/
theorem mode_sense_all_pages {dev : Dev} {cdb : Nat → UInt8} {a : Nat} {iovec : List Iovec}
    (h3f : cdb 2 &&& 0x3f = 0x3f) (ha : tcmuGetXferLength cdb = some a)
    (hlen : modeHeaderLength cdb + blockDescriptorLength cdb + 44 ≤ a)
    (hl : a ≤ tcmuIovecLength iovec) :
    ∃ out, tcmuEmulateModeSense dev cdb iovec true = some (.ok, out) ∧
      let d := flat (windowsOver iovec out)
      let n := modeHeaderLength cdb + blockDescriptorLength cdb
      (if cdb 0 = modeSense10 then d.take 2 = beBytes 2 (n + 42)
        else d.take 1 = [UInt8.ofNat (n + 43)]) ∧
      (d.drop n).take 44 = allPages dev ∧
      (d.drop (n + 44)).take (a - n - 44) = List.replicate (a - n - 44) 0 := by
  have hfill : modeSenseFill dev cdb a = _ :=
    modeSenseFill_all h3f hlen (lt_trans (tcmuGetXferLength_lt ha) (by decide))
  refine ⟨_, tcmuEmulateModeSense_of_fill ha (by omega) hfill, ?_⟩
  intro d n
  obtain ⟨B, hB⟩ : ∃ B, B = (let m := (blockDescriptor dev cdb a).1.writeList n (allPages dev)
      if cdb 0 = modeSense10 then putUnalignedBe16 (n + 44 - 2) m 0
      else m.set 0 (UInt8.ofNat (n + 44 - 1))) := ⟨_, rfl⟩
  have hd : ∀ i k, i + k ≤ a → (d.drop i).take k = B.slice i k := fun i k hik => by
    have hta : d.take a = B.slice 0 a := by
      simp only [d, hB]; rw [take_flat_memcpyInto _ le_rfl hl, List.range_eq_range']; rfl
    rw [← Buf.take_drop_slice B hik, ← hta, List.drop_take, List.take_take, min_eq_left (by omega)]
  have hpages : B.slice n 44 = allPages dev ∧ ∀ k, n + 44 ≤ k → B.byte k = 0 := by
    rw [hB]; exact allPages_after_header dev cdb a
  refine ⟨?_, by rw [hd n 44 (by omega), hpages.1], by
    rw [hd _ _ (by omega), Buf.slice_eq_replicate fun k hk _ => hpages.2 k hk]⟩
  have h0 : ∀ k, k ≤ a → d.take k = B.slice 0 k := fun k hk => by
    rw [← hd 0 k (by omega), List.drop_zero]
  split
  · rw [h0 2 (by omega), hB, if_pos ‹_›, putUnalignedBe16, putUnalignedBe,
      Buf.slice_writeList_eq (length_beBytes 2 _).symm, show n + 44 - 2 = n + 42 by omega]
  · rw [h0 1 (by omega), hB, if_neg ‹_›, Buf.slice_set_self, show n + 44 - 1 = n + 43 by omega]

/-- MODE SENSE(6) of every page with the short block descriptor, 64 bytes into two segments. -/
theorem mode_sense_all_pages_short_descriptor :
    let dev : Dev := ⟨512, 1, true, none, ⟨[], List.not_mem_nil 0⟩, 0, 0, 0, false, false⟩
    let cdb : Nat → UInt8 := fun i => [modeSense, 0, 0x3f, 0, 64].getD i 0
    let iovec : List Iovec := [⟨fun _ => 0, 0, 30⟩, ⟨fun _ => 0, 8, 34⟩]
    (cdb 2 &&& 0x3f = 0x3f ∧ tcmuGetXferLength cdb = some 64 ∧
      modeHeaderLength cdb + blockDescriptorLength cdb + 44 ≤ 64 ∧ 64 ≤ tcmuIovecLength iovec) ∧
    ∃ out, tcmuEmulateModeSense dev cdb iovec true = some (.ok, out) ∧
      let d := flat (windowsOver iovec out)
      let n := modeHeaderLength cdb + blockDescriptorLength cdb
      (if cdb 0 = modeSense10 then d.take 2 = beBytes 2 (n + 42)
        else d.take 1 = [UInt8.ofNat (n + 43)]) ∧
      (d.drop n).take 44 = allPages dev ∧
      (d.drop (n + 44)).take (64 - n - 44) = List.replicate (64 - n - 44) 0 :=
  ⟨⟨by decide, rfl, by decide, by decide⟩, mode_sense_all_pages (by decide) rfl (by decide) (by decide)⟩

end TcmuRunner.Scsi
