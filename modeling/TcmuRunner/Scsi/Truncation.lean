import TcmuRunner.Scsi.ModeSense

/-!
# Cutting a MODE SENSE response at the allocation length

The rule `copy_to_response_buf` quotes (SPC-4 4.3.5.6): the device server stops once ALLOCATION
LENGTH bytes are sent, and the length fields still count the whole response. For two allocation
lengths `a ≤ b` the emulation keeps to it exactly when the block descriptor is written under both
or under neither (`mode_sense_cut_is_prefix`).

The page loop runs alike under both lengths (`SenseAgree`): `used_len` does not depend on the
length, each cursor is `orig_buf + used_len` until the response reaches its length and `NULL`
after, and each page handler copies what fits, so the bytes below `a` agree after every handler
(`handleModeSense_agree`, `handleAll_agree`). The block descriptor helpers write the whole
descriptor or nothing (`blockDescriptor_eq`), which is where a cut inside the descriptor departs
from a prefix.
-/

namespace TcmuRunner.Scsi

/-- The mode parameter header's length: 8 bytes for MODE SENSE(10), else 4. -/
def modeHeaderLength (cdb : Nat → UInt8) : Nat := if cdb 0 = modeSense10 then 8 else 4

/-- The block descriptor's length the CDB asks for: none with DBD, 16 bytes with LLBA in
MODE SENSE(10), else 8. -/
def blockDescriptorLength (cdb : Nat → UInt8) : Nat :=
  if cdb 1 &&& 0x08 ≠ 0 then 0 else if cdb 0 = modeSense10 then (if cdb 1 &&& 0x10 ≠ 0 then 16 else 8)
  else 8

/-! ## Block descriptors -/

theorem blockDescriptor_snd (dev : Dev) (cdb : Nat → UInt8) (a : Nat) :
    (blockDescriptor dev cdb a).2 = blockDescriptorLength cdb := by
  have hl : ∀ m, (handleLongLbaBlockDescriptor dev m a).2 = 16 := fun m => by
    dsimp only [handleLongLbaBlockDescriptor]; split <;> rfl
  have hs : ∀ m t, (handleShortLbaBlockDescriptor dev m a t).2 = 8 := fun m t => by
    dsimp only [handleShortLbaBlockDescriptor]; split_ifs <;> rfl
  unfold blockDescriptor blockDescriptorLength
  by_cases h8 : cdb 1 &&& 0x08 = 0 <;> by_cases h10 : cdb 0 = modeSense10 <;>
    by_cases h16 : cdb 1 &&& 0x10 = 0 <;> simp [h8, h10, h16, hl, hs]

/-- The descriptor helpers depend on the allocation length only through whether the descriptor
fits. -/
theorem blockDescriptor_eq (dev : Dev) (cdb : Nat → UInt8) {a b : Nat}
    (h : modeHeaderLength cdb + blockDescriptorLength cdb ≤ a ↔
      modeHeaderLength cdb + blockDescriptorLength cdb ≤ b) :
    blockDescriptor dev cdb a = blockDescriptor dev cdb b := by
  have hl : ∀ m, (8 + 16 ≤ a ↔ 8 + 16 ≤ b) →
      handleLongLbaBlockDescriptor dev m a = handleLongLbaBlockDescriptor dev m b := fun m h =>
    if_congr (by simp only [gt_iff_lt, ← Nat.not_le, h]) rfl rfl
  have hs : ∀ m (t : Bool), ((if t then 8 else 4) + 8 ≤ a ↔ (if t then 8 else 4) + 8 ≤ b) →
      handleShortLbaBlockDescriptor dev m a t = handleShortLbaBlockDescriptor dev m b t :=
    fun m t h => if_congr (by simp only [gt_iff_lt, ← Nat.not_le, h]) rfl rfl
  dsimp only [blockDescriptor]
  unfold modeHeaderLength blockDescriptorLength at h
  by_cases h8 : cdb 1 &&& 0x08 ≠ 0
  · simp only [if_pos h8]
  by_cases h10 : cdb 0 = modeSense10
  · by_cases h16 : cdb 1 &&& 0x10 ≠ 0
    · simp only [if_neg h8, if_pos h10, if_pos h16] at h ⊢; exact hl _ h
    · simp only [if_neg h8, if_pos h10, if_neg h16, decide_eq_true h10] at h ⊢; exact hs _ true h
  · simp only [if_neg h8, if_neg h10, decide_eq_false h10] at h ⊢; exact hs _ false h

/-! ## The page loop under two lengths -/

/-- Two runs of the page loop, under allocation lengths `a` and `b`, in step: the same
`used_len`, each cursor at `used_len` while the response is shorter than its length and `NULL`
after, and the same bytes below `a`. -/
structure SenseAgree (a b : Nat) (x y : SenseSt) : Prop where
  usedLen : x.usedLen = y.usedLen
  cursorA : x.buf = if x.usedLen < a then some x.usedLen else none
  cursorB : y.buf = if y.usedLen < b then some y.usedLen else none
  bytes : ∀ i < a, x.mem.byte i = y.mem.byte i

theorem byte_writeList_agree {a p : Nat} {x y : Buf} (l : List UInt8)
    (h : ∀ i < a, x.byte i = y.byte i) : ∀ i < a, (x.writeList p l).byte i = (y.writeList p l).byte i :=
  fun i hi => by simp only [Buf.writeList, h i hi]

/-- Below the allocation length, a page copied at the cursor reads as the whole page. -/
theorem copyToResponseBuf_below {x : Buf} {a used i : Nat} (page : List UInt8) (hu : used < a)
    (ha : a < 2 ^ 64) (hi : i < a) :
    (copyToResponseBuf x (some used) (sizeSub a used) page page.length).byte i =
      (x.writeList used page).byte i := by
  simp only [copyToResponseBuf, sizeSub_of_le hu.le ha]
  split
  · rw [List.take_of_length_le (by omega)]
  · simp only [Buf.writeList, List.length_take, List.getD_eq_getElem?_getD, List.getElem?_take]
    split_ifs <;> first | rfl | omega

/-- A page copied at the same `used_len` under both lengths leaves the bytes below `a` in
agreement. -/
theorem copyToResponseBuf_agree {a b used : Nat} {x y : Buf} {bx byy : Option Nat}
    (page : List UInt8) (hab : a ≤ b) (hb : b < 2 ^ 64)
    (hx : bx = if used < a then some used else none) (hy : byy = if used < b then some used else none)
    (hxy : ∀ i < a, x.byte i = y.byte i) (i : Nat) (hi : i < a) :
    (copyToResponseBuf x bx (sizeSub a used) page page.length).byte i =
      (copyToResponseBuf y byy (sizeSub b used) page page.length).byte i := by
  subst hx hy
  by_cases hua : used < a
  · rw [if_pos hua, if_pos (by omega), copyToResponseBuf_below page hua (by omega) hi,
      copyToResponseBuf_below page (by omega) hb (by omega)]
    exact byte_writeList_agree page hxy i hi
  · rw [if_neg hua]
    split
    · rw [copyToResponseBuf_below page ‹_› hb (by omega), Buf.byte_writeList_of_lt (by omega)]
      exact hxy i hi
    · exact hxy i hi

/-- The cursor moves as `handle_mode_sense` moves it. -/
theorem cursor_step {buf : Option Nat} {used n a : Nat}
    (h : buf = if used < a then some used else none) :
    (if buf.isSome && used + n ≥ a then none else buf).map (· + n) =
      if used + n < a then some (used + n) else none := by
  subst h
  by_cases hu : used < a <;> by_cases hn : used + n < a <;> simp [hu, hn]; omega

theorem rel_map {α β γ δ : Type} {r : α → β → Prop} {s : γ → δ → Prop} {o₁ : Option α}
    {o₂ : Option β} {f : α → γ} {g : β → δ} (h : Option.Rel r o₁ o₂)
    (hfg : ∀ {x y}, r x y → s (f x) (g y)) : Option.Rel s (o₁.map f) (o₂.map g) := by
  cases h with
  | some hr => exact .some (hfg hr)
  | none => exact .none

theorem rel_bind {α β γ δ : Type} {r : α → β → Prop} {s : γ → δ → Prop} {o₁ : Option α}
    {o₂ : Option β} {f : α → Option γ} {g : β → Option δ} (h : Option.Rel r o₁ o₂)
    (hfg : ∀ {x y}, r x y → Option.Rel s (f x) (g y)) : Option.Rel s (o₁.bind f) (o₂.bind g) := by
  cases h with
  | some hr => exact hfg hr
  | none => exact .none

section
variable {dev : Dev} {a b : Nat} {senseTen : Bool}

/-- One handler under both lengths: both fail, or both succeed, in step, with the same `ret`. -/
theorem handleModeSense_agree {h : ModeSenseHandler} {page : List UInt8} {x y : SenseSt}
    (hab : a ≤ b) (hb : b < 2 ^ 64) (hget : h.get dev = handlePage page page.length)
    (hxy : SenseAgree a b x y) :
    Option.Rel (fun r s => SenseAgree a b r.1 s.1 ∧ r.2 = s.2)
      (handleModeSense dev h a senseTen x) (handleModeSense dev h b senseTen y) := by
  have hyb : y.buf = if x.usedLen < b then some x.usedLen else none := hxy.usedLen ▸ hxy.cursorB
  simp only [handleModeSense, hget, handlePage, ← hxy.usedLen]
  split
  · exact .none
  · exact .some ⟨⟨rfl, cursor_step hxy.cursorA, cursor_step hyb,
      copyToResponseBuf_agree page hab hb hxy.cursorA hyb hxy.bytes⟩, rfl⟩

/-- The loop over every handler, under both lengths. -/
theorem handleAll_agree (hab : a ≤ b) (hb : b < 2 ^ 64) :
    ∀ (hs : List ModeSenseHandler), (∀ h ∈ hs, ∃ page, h.get dev = handlePage page page.length) →
      ∀ {x y : SenseSt}, SenseAgree a b x y →
        Option.Rel (SenseAgree a b) (handleAll dev a senseTen hs x) (handleAll dev b senseTen hs y)
  | [], _, _, _, hxy => .some hxy
  | h :: hs, hget, _, _, hxy =>
    have ⟨_, hp⟩ := hget h (List.mem_cons_self h hs)
    rel_bind (handleModeSense_agree hab hb hp hxy) fun hr =>
      handleAll_agree hab hb hs (fun h' h'' => hget h' (List.mem_cons_of_mem h h'')) hr.1

/-- The loop for one page, under both lengths. -/
theorem handleOne_agree (hab : a ≤ b) (hb : b < 2 ^ 64) (pageCode subpageCode : UInt8)
    {x y : SenseSt} (hxy : SenseAgree a b x y) :
    Option.Rel (SenseAgree a b) (handleOne dev a senseTen pageCode subpageCode x)
      (handleOne dev b senseTen pageCode subpageCode y) := by
  unfold handleOne
  split
  · exact .none
  · rename_i h hh
    obtain ⟨page, hp⟩ := modesenseHandlers_get (List.mem_of_find?_eq_some hh) dev
    refine rel_bind (handleModeSense_agree hab hb hp hxy) fun {r s} hr => ?_
    rw [hr.2]
    split
    · exact .none
    · exact .some hr.1

/-- The whole response under both lengths: both fail, or both succeed with the same bytes below
`a`, when the block descriptor fits in both or in neither. -/
theorem modeSenseFill_agree {cdb : Nat → UInt8} (hab : a ≤ b) (hb : b < 2 ^ 64)
    (hd : modeHeaderLength cdb + blockDescriptorLength cdb ≤ a ∨
      b < modeHeaderLength cdb + blockDescriptorLength cdb) :
    Option.Rel (fun A B => ∀ i < a, A.byte i = B.byte i) (modeSenseFill dev cdb a)
      (modeSenseFill dev cdb b) := by
  unfold modeSenseFill
  rw [@blockDescriptor_eq dev cdb a b ⟨fun _ => by omega, fun _ => by omega⟩]
  refine rel_map (?_ : Option.Rel (SenseAgree a b) _ _) fun {A B} hAB => ?_
  · split
    · exact handleAll_agree hab hb _ (fun _ hh => modesenseHandlers_get hh dev)
        ⟨rfl, rfl, rfl, fun _ _ => rfl⟩
    · exact handleOne_agree hab hb _ _ ⟨rfl, rfl, rfl, fun _ _ => rfl⟩
  · rw [hAB.usedLen]
    split
    · exact byte_writeList_agree _ hAB.bytes
    · exact byte_writeList_agree _ hAB.bytes

end

/-- `tcmu_emulate_mode_sense` reads only bytes 0-3 of the CDB besides the allocation length. -/
theorem modeSenseFill_congr (dev : Dev) {cdbA cdbB : Nat → UInt8} (h : ∀ i < 4, cdbA i = cdbB i)
    (n : Nat) : modeSenseFill dev cdbA n = modeSenseFill dev cdbB n := by
  unfold modeSenseFill blockDescriptor
  rw [h 0 (by omega), h 1 (by omega), h 2 (by omega), h 3 (by omega)]

/-- **Allocation length cuts the response where the block descriptor allows it.** Two MODE SENSE
CDBs that differ only in their allocation lengths `a ≤ b`, both at least the header, return the
same status; and when both succeed, the first `a` bytes delivered for `a` are the first `a`
delivered for `b`, provided the block descriptor fits in both lengths or in neither (always so
with DBD). -/
theorem mode_sense_cut_is_prefix {dev : Dev} {cdbA cdbB : Nat → UInt8} {a b : Nat}
    {iovA iovB : List Iovec} (callocOk : Bool) (hcdb : ∀ i < 4, cdbA i = cdbB i)
    (ha : tcmuGetXferLength cdbA = some a) (hb : tcmuGetXferLength cdbB = some b) (hab : a ≤ b)
    (hhdr : modeHeaderLength cdbA ≤ a)
    (hd : modeHeaderLength cdbA + blockDescriptorLength cdbA ≤ a ∨
      b < modeHeaderLength cdbA + blockDescriptorLength cdbA)
    (hlA : a ≤ tcmuIovecLength iovA) (hlB : a ≤ tcmuIovecLength iovB) :
    (tcmuEmulateModeSense dev cdbA iovA callocOk).map Prod.fst =
        (tcmuEmulateModeSense dev cdbB iovB callocOk).map Prod.fst ∧
      ∀ outA outB, tcmuEmulateModeSense dev cdbA iovA callocOk = some (.ok, outA) →
        tcmuEmulateModeSense dev cdbB iovB callocOk = some (.ok, outB) →
        (flat (windowsOver iovA outA)).take a = (flat (windowsOver iovB outB)).take a := by
  have h0 := hcdb 0 (by omega)
  unfold modeHeaderLength at hhdr
  have hfill := @modeSenseFill_agree dev a b cdbA hab (lt_trans (tcmuGetXferLength_lt hb) (by decide)) hd
  rw [modeSenseFill_congr dev hcdb b] at hfill
  simp only [tcmuEmulateModeSense, ha, hb, Option.map_some', ← h0,
    if_neg (show a ≠ 0 by split at hhdr <;> omega), if_neg (show b ≠ 0 by split at hhdr <;> omega),
    if_neg (show ¬(if cdbA 0 = modeSense10 then 8 else 4) > a by omega),
    if_neg (show ¬(if cdbA 0 = modeSense10 then 8 else 4) > b by omega)]
  cases callocOk
  · simp
  · generalize modeSenseFill dev cdbA a = fA at hfill ⊢
    generalize modeSenseFill dev cdbB b = fB at hfill ⊢
    cases hfill with
    | none => simp
    | @some A B hAB =>
      refine ⟨rfl, fun outA outB hA hB => ?_⟩
      simp only [Bool.not_true, Bool.false_eq_true, if_false, Option.some.injEq, Prod.mk.injEq,
        true_and] at hA hB
      rw [← hA, ← hB, take_flat_memcpyInto _ le_rfl hlA, take_flat_memcpyInto _ hab hlB]
      exact List.map_congr_left fun i hi => hAB i (List.mem_range.mp hi)

/-- MODE SENSE(6) of all pages with a block descriptor, cut at 16 bytes and at 64 (into two
segments). -/
theorem mode_sense_cut_all_pages :
    let dev : Dev := ⟨512, 1, false, none, ⟨[], List.not_mem_nil 0⟩, 0, 0, 0, false, false⟩
    let cdbA : Nat → UInt8 := fun i => [modeSense, 0, 0x3f, 0, 16].getD i 0
    let cdbB : Nat → UInt8 := fun i => [modeSense, 0, 0x3f, 0, 64].getD i 0
    let iovA : List Iovec := [⟨fun _ => 0, 0, 16⟩]
    let iovB : List Iovec := [⟨fun _ => 0, 0, 10⟩, ⟨fun _ => 0, 3, 54⟩]
    ((∀ i < 4, cdbA i = cdbB i) ∧ tcmuGetXferLength cdbA = some 16 ∧
      tcmuGetXferLength cdbB = some 64 ∧ 16 ≤ 64 ∧ modeHeaderLength cdbA ≤ 16 ∧
      (modeHeaderLength cdbA + blockDescriptorLength cdbA ≤ 16 ∨
        64 < modeHeaderLength cdbA + blockDescriptorLength cdbA) ∧
      16 ≤ tcmuIovecLength iovA ∧ 16 ≤ tcmuIovecLength iovB) ∧
    ((tcmuEmulateModeSense dev cdbA iovA true).map Prod.fst =
        (tcmuEmulateModeSense dev cdbB iovB true).map Prod.fst ∧
      ∀ outA outB, tcmuEmulateModeSense dev cdbA iovA true = some (.ok, outA) →
        tcmuEmulateModeSense dev cdbB iovB true = some (.ok, outB) →
        (flat (windowsOver iovA outA)).take 16 = (flat (windowsOver iovB outB)).take 16) :=
  have hcdb : ∀ i < 4, ([modeSense, 0, 0x3f, 0, 16].getD i 0 : UInt8) =
      [modeSense, 0, 0x3f, 0, 64].getD i 0 := by decide
  ⟨⟨hcdb, rfl, rfl, by decide, by decide, by decide, by decide, by decide⟩,
    mode_sense_cut_is_prefix true hcdb rfl rfl (by decide) (by decide) (by decide) (by decide)
      (by decide)⟩

end TcmuRunner.Scsi
