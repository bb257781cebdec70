import TcmuRunner.Scsi.Inquiry

/-!
# Page 83h is a designation descriptor list

What the Device Identification page is for: a list of designation descriptors (SPC-4 7.8.6),
each a 4-byte header (code set, designator type, a reserved byte, the DESIGNATOR LENGTH) and
that many bytes of designator, which an initiator walks by the lengths (`parseDesignators`).
`encodeAll` lays a list of `Designator`s out so, and reads back as itself whenever every
designator's length fits its length byte (`parseDesignators_encodeAll`).

`page83Designators` lists the descriptors the builder of `tcmu_emulate_evpd_inquiry` means to
write. Each step of the builder (`t10VendorId`, `naaBinary`, `vendorSpecific`, `portDesignator`,
`scsiNameDesignator`) writes exactly its descriptor at `ptr` and advances `ptr` and `used` by its
length, from any state where the list so far is in place and the rest of `data` is zero
(`Page83.Holds`), as long as the descriptor fits its length byte and the 512 bytes of `data`.
So when all of them fit (`page83_holds`), the page is `[0, 83h]`, the PAGE LENGTH, and the
encoded list, and an initiator reading it gets the designators back
(`evpd_page83_reads_back`). The bugs of `page83_t10_length_wraps` and `page83_overruns_data`
lie outside that region.
-/

namespace TcmuRunner.Scsi

/-! ## The descriptor list format -/

/-- A designation descriptor, as an initiator reads it. -/
structure Designator where
  /-- Byte 0: PROTOCOL IDENTIFIER and CODE SET. -/
  codeSet : UInt8
  /-- Byte 1: PIV, ASSOCIATION and DESIGNATOR TYPE. -/
  designatorType : UInt8
  /-- The DESIGNATOR, DESIGNATOR LENGTH bytes. -/
  designator : List UInt8
  deriving DecidableEq, Repr

namespace Designator

/-- The descriptor's bytes: byte 2 reserved, byte 3 the DESIGNATOR LENGTH, then the designator. -/
def encode (d : Designator) : List UInt8 :=
  d.codeSet :: d.designatorType :: 0 :: UInt8.ofNat d.designator.length :: d.designator

/-- The DESIGNATOR LENGTH byte holds the designator's length. -/
def Fits (d : Designator) : Prop := d.designator.length < 256

instance : DecidablePred Fits := fun d => inferInstanceAs (Decidable (d.designator.length < 256))

@[simp] theorem length_encode (d : Designator) : d.encode.length = d.designator.length + 4 := by
  simp [encode]

end Designator

/-- A designation descriptor list: the descriptors one after another. -/
def encodeAll (ds : List Designator) : List UInt8 := ds.flatMap Designator.encode

@[simp] theorem encodeAll_nil : encodeAll [] = [] := rfl

@[simp] theorem encodeAll_cons (d : Designator) (ds : List Designator) :
    encodeAll (d :: ds) = d.encode ++ encodeAll ds := rfl

theorem encodeAll_append (ds ds' : List Designator) :
    encodeAll (ds ++ ds') = encodeAll ds ++ encodeAll ds' := by
  simp [encodeAll]

/-- How an initiator walks a designation descriptor list: a 4-byte header, DESIGNATOR LENGTH
bytes of designator, and the next descriptor right after; `none` when a descriptor runs past the
end. `fuel` bounds the number of descriptors. -/
def parseDesignators : Nat → List UInt8 → Option (List Designator)
  | _, [] => some []
  | fuel + 1, b0 :: b1 :: _ :: len :: rest =>
    if len.toNat ≤ rest.length then
      (parseDesignators fuel (rest.drop len.toNat)).map (⟨b0, b1, rest.take len.toNat⟩ :: ·)
    else none
  | _, _ => none

/-- A list of descriptors that fit their length bytes reads back as itself. -/
theorem parseDesignators_encodeAll :
    ∀ (ds : List Designator) (fuel : Nat), (∀ d ∈ ds, d.Fits) → ds.length ≤ fuel →
      parseDesignators fuel (encodeAll ds) = some ds
  | [], fuel, _, _ => by cases fuel <;> rfl
  | d :: ds, fuel + 1, hfit, hlen => by
    have hd : (UInt8.ofNat d.designator.length).toNat = d.designator.length :=
      Nat.mod_eq_of_lt (hfit d (List.mem_cons_self d ds))
    show parseDesignators (fuel + 1) (d.codeSet :: d.designatorType :: 0 ::
      UInt8.ofNat d.designator.length :: (d.designator ++ encodeAll ds)) = _
    rw [parseDesignators, hd, if_pos (by simp), List.drop_left, List.take_left,
      parseDesignators_encodeAll ds fuel (fun d' h => hfit d' (List.mem_cons_of_mem d h))
        (by simpa using hlen)]
    rfl

/-- Each descriptor takes at least its 4 header bytes. -/
theorem length_le_length_encodeAll (ds : List Designator) : ds.length ≤ (encodeAll ds).length := by
  induction ds with
  | nil => rfl
  | cons d ds ih => simp only [encodeAll_cons, List.length_append, Designator.length_encode,
      List.length_cons]; omega

/-! ## The descriptors of page 83h -/

/-- `l` zero-padded to a multiple of 4 bytes. -/
def padTo4 (l : List UInt8) : List UInt8 := l ++ List.replicate ((4 - l.length % 4) % 4) 0

/-- 1/5: ASCII, T10 vendor id: `"LIO-ORG "` and the unit serial, with its NUL. -/
def t10Designator (wwn : CStr) : Designator := ⟨0x02, 0x01, ascii "LIO-ORG " ++ wwn.bytes ++ [0]⟩

/-- The wwn's hexadecimal digits in order, other characters skipped, a digit past the end read
as `0`. -/
def naaDigit (wwn : CStr) (k : Nat) : UInt8 := (wwn.bytes.filterMap charToHex).getD k 0

/-- 2/5: binary, NAA, the registered extended format of the comment at lines 444-458: type 6 and
the OpenFabrics IEEE company id `00 14 05` (`60h 01h 40h 5xh`), the first digit of the wwn in the
low nibble of `5xh`, then the next 24 digits two to a byte. -/
def naaDesignator (wwn : CStr) : Designator :=
  ⟨0x01, 0x03, [0x60, 0x01, 0x40, 0x50 ||| naaDigit wwn 0] ++
    (List.range 12).map fun j => (naaDigit wwn (2 * j + 1) <<< 4) ||| naaDigit wwn (2 * j + 2)⟩

/-- 3/6: ASCII, vendor specific: the `cfgstring` with its NUL. -/
def vendorDesignator (cfgstring : CStr) : Designator := ⟨0x02, 0x00, cfgstring.bytes ++ [0]⟩

/-- 4/5 and 5/5: binary, PIV, target port association, designator type `type`, and `id` in the
last two of four bytes. -/
def portIdDesignator (type protoId : UInt8) (id : UInt16) : Designator :=
  ⟨protoId <<< 4 ||| 0x1, 0x80 ||| 0x10 ||| type,
    [0, 0, ((id >>> 8) &&& 0xff).toUInt8, (id &&& 0xff).toUInt8]⟩

/-- The SCSI name string designators: UTF-8, PIV, association `assoc`, the name NUL-terminated and
zero-padded to a multiple of 4. -/
def nameDesignator (assoc protoId : UInt8) (s : List UInt8) : Designator :=
  ⟨protoId <<< 4 ||| 0x3, 0x80 ||| assoc ||| 0x8, padTo4 (s ++ [0])⟩

/-- The descriptors page 83h is meant to hold, in order. -/
def page83Designators (wwn cfgstring : CStr) : Option TgtPort → List Designator
  | none => [t10Designator wwn, naaDesignator wwn, vendorDesignator cfgstring]
  | some port => [t10Designator wwn, naaDesignator wwn, vendorDesignator cfgstring,
      portIdDesignator 0x4 port.protoId port.relPortId, portIdDesignator 0x5 port.protoId port.grpId,
      nameDesignator 0x10 port.protoId (portName port), nameDesignator 0x20 port.protoId port.wwn.bytes]

/-! ## The builder writes the list -/

namespace Page83

/-- The builder's state after the descriptors `ds`: the page header with the page code, the
encoded list after it, `ptr` just past it, nothing else written, and `top` at the array's end. -/
structure Holds (st : Page83) (ds : List Designator) : Prop where
  used : st.used = (encodeAll ds).length
  ptr : st.ptr = 4 + st.used
  top : st.data.top = 512
  head : st.data.slice 0 4 = [0, 0x83, 0, 0]
  body : st.data.slice 4 st.used = encodeAll ds
  zero : ∀ a, st.ptr ≤ a → st.data.byte a = 0

theorem holds_page83Start : page83Start.Holds [] where
  used := rfl
  ptr := rfl
  top := rfl
  head := rfl
  body := rfl
  zero a (h : 4 ≤ a) := by simp only [page83Start, Buf.byte_set]; rw [if_neg (by omega)]; rfl

/-- What each step of the builder is meant to do: write the descriptor `d` at `ptr` and move
`ptr` and `used` past it. -/
def put (st : Page83) (d : Designator) : Page83 :=
  ⟨st.data.writeList st.ptr d.encode, st.ptr + d.encode.length, st.used + d.encode.length⟩

@[simp] theorem put_data (st : Page83) (d : Designator) :
    (st.put d).data = st.data.writeList st.ptr d.encode := rfl

@[simp] theorem put_ptr (st : Page83) (d : Designator) :
    (st.put d).ptr = st.ptr + d.encode.length := rfl

@[simp] theorem put_used (st : Page83) (d : Designator) :
    (st.put d).used = st.used + d.encode.length := rfl

/-- Writing one more descriptor at `ptr`, inside `data`, keeps the list in place. -/
theorem Holds.put {st : Page83} {ds : List Designator} (h : st.Holds ds) (d : Designator)
    (hroom : st.ptr + d.encode.length ≤ 512) : (st.put d).Holds (ds ++ [d]) where
  used := by simp [h.used, encodeAll_append]
  ptr := by simp only [put_ptr, put_used, h.ptr]; omega
  top := by
    rw [put_data, Buf.top_writeList (List.ne_nil_of_length_pos (by simp)), h.top]
    omega
  head := by rw [put_data, Buf.slice_writeList_of_le (by rw [h.ptr]; omega), h.head]
  body := by
    rw [put_data, put_used, Buf.slice_add, Buf.slice_writeList_of_le (by rw [h.ptr]), h.body,
      ← h.ptr, Buf.slice_writeList, encodeAll_append, encodeAll_cons, encodeAll_nil,
      List.append_nil]
  zero a ha := by
    rw [put_ptr] at ha
    rw [put_data, Buf.byte_writeList_of_le ha]
    exact h.zero a (by omega)

end Page83

/-! ## Each step writes its descriptor -/

namespace Page83

@[simp] theorem length_ascii_lio : (ascii "LIO-ORG ").length = 8 := rfl

/-- Header bytes, the designator at byte 4 and its length at byte 3, over a zero reserved byte
and inside `data`: the encoded descriptor at `p`. -/
theorem stores_writeList_set {b : Buf} {p : Nat} {d : Designator} (hz : b.byte (p + 2) = 0)
    (htop : b.top = 512) (hroom : p + d.encode.length ≤ 512) :
    ((b.stores [(p, d.codeSet), (p + 1, d.designatorType)]).writeList (p + 4) d.designator).set
      (p + 3) (UInt8.ofNat d.designator.length) = b.writeList p d.encode := by
  have hlen := d.length_encode
  have ht : (b.stores [(p, d.codeSet), (p + 1, d.designatorType)]).top = 512 := by
    rw [Buf.stores_cons, Buf.stores_cons, Buf.stores_nil, Buf.top_set, Buf.top_set, htop]
    omega
  apply Buf.eq_writeList
  · rw [hlen, show d.designator.length + 4 = 1 + 1 + 1 + 1 + d.designator.length by omega,
      Buf.slice_add _ _ (1 + 1 + 1 + 1), Buf.slice_add _ _ (1 + 1 + 1), Buf.slice_add _ _ (1 + 1),
      Buf.slice_add _ _ 1]
    simp (disch := omega) only [Buf.stores_cons, Buf.stores_nil, Buf.slice_set_of_ne,
      Buf.slice_set_self, Buf.slice_writeList_of_le, Buf.slice_writeList_of_ge,
      Buf.slice_writeList, Nat.reduceAdd, Nat.add_assoc]
    rw [Buf.slice_one, hz]
    rfl
  · intro a ha
    rw [hlen] at ha
    rcases ha with ha | ha <;> simp (disch := omega) only [Buf.stores_cons, Buf.stores_nil,
      Buf.byte_set_of_ne, Buf.byte_writeList_of_lt, Buf.byte_writeList_of_le]
  · rw [Buf.top_set, Buf.top_writeList_of_le (by omega), ht, Buf.top_writeList_of_le (by omega),
      htop]
    omega

/-- The length byte of a descriptor written at `p`, read back. -/
theorem byte_writeList_encode {b : Buf} {p : Nat} {d : Designator} (hfit : d.Fits) :
    ((b.writeList p d.encode).byte (p + 3)).toNat = d.designator.length := by
  rw [Buf.byte_writeList_add (by simp)]
  exact Nat.mod_eq_of_lt hfit

/-- 1/5: from the start, the T10 vendor id designator. -/
theorem t10VendorId_eq {st : Page83} (h : st.Holds []) {wwn : CStr}
    (hfit : (t10Designator wwn).Fits) (hroom : st.ptr + (t10Designator wwn).encode.length ≤ 512) :
    t10VendorId wwn st = st.put (t10Designator wwn) := by
  have hn : (t10Designator wwn).designator.length = 8 + wwn.bytes.length + 1 := by
    simp only [t10Designator, List.length_append, length_ascii_lio, List.length_singleton]
  have hfit' : 8 + wwn.bytes.length + 1 < 256 := hn ▸ hfit
  have hD : (((st.data.stores [(st.ptr, 2), (st.ptr + 1, 1)]).writeList (st.ptr + 4)
      (ascii "LIO-ORG ")).snprintf (st.ptr + 12) (sizeSub 512 16) wwn.bytes).set (st.ptr + 3)
      (UInt8.ofNat (8 + wwn.bytes.length + 1)) =
      st.data.writeList st.ptr (t10Designator wwn).encode := by
    rw [Buf.snprintf_of_lt (by simp only [sizeSub]; omega),
      show st.ptr + 12 = st.ptr + 4 + (ascii "LIO-ORG ").length by rw [length_ascii_lio],
      Buf.writeList_append, ← hn]
    exact stores_writeList_set (d := t10Designator wwn) (h.zero _ (by omega)) h.top hroom
  simp only [t10VendorId, put]
  rw [hD, byte_writeList_encode hfit, h.used, Designator.length_encode, encodeAll_nil,
    List.length_nil, Nat.zero_add]

/-- 3/6: the vendor specific designator, after any list. -/
theorem vendorSpecific_eq {st : Page83} {ds : List Designator} (h : st.Holds ds) {cfgstring : CStr}
    (hfit : (vendorDesignator cfgstring).Fits)
    (hroom : st.ptr + (vendorDesignator cfgstring).encode.length ≤ 512) :
    vendorSpecific cfgstring st = st.put (vendorDesignator cfgstring) := by
  have hn : (vendorDesignator cfgstring).designator.length = cfgstring.bytes.length + 1 :=
    List.length_append _ _
  have hfit' : cfgstring.bytes.length + 1 < 256 := hn ▸ hfit
  have hlen := (vendorDesignator cfgstring).length_encode
  have hp := h.ptr
  have hD : ((st.data.stores [(st.ptr, 2), (st.ptr + 1, 0)]).snprintf (st.ptr + 4)
      (sizeSub (sizeSub 512 st.used) 4) cfgstring.bytes).set (st.ptr + 3)
      (UInt8.ofNat (cfgstring.bytes.length + 1)) =
      st.data.writeList st.ptr (vendorDesignator cfgstring).encode := by
    rw [Buf.snprintf_of_lt (by simp only [sizeSub]; omega), ← hn]
    exact stores_writeList_set (d := vendorDesignator cfgstring) (h.zero _ (by omega)) h.top hroom
  simp only [vendorSpecific, put]
  rw [hD, byte_writeList_encode hfit, Designator.length_encode]

/-- 4/5 and 5/5: the relative target port and target port group designators, after any list. -/
theorem portDesignator_eq {st : Page83} {ds : List Designator} (h : st.Holds ds)
    (type protoId : UInt8) (id : UInt16) (hroom : st.ptr + 8 ≤ 512) :
    portDesignator type protoId id st = st.put (portIdDesignator type protoId id) := by
  have hz : ∀ k, st.data.byte (st.ptr + k) = 0 := fun k => h.zero _ (by omega)
  have htop := h.top
  simp only [portDesignator, put]
  generalize st.ptr = p at *
  have hD : st.data.stores [(p, protoId <<< 4 ||| 0x1), (p + 1, 0x80 ||| 0x10 ||| type), (p + 3, 4),
      (p + 6, ((id >>> 8) &&& 0xff).toUInt8), (p + 7, (id &&& 0xff).toUInt8)] =
      st.data.writeList p (portIdDesignator type protoId id).encode := by
    apply Buf.eq_writeList
    · simp [Buf.slice, List.range'_succ, Buf.byte_set, hz, Designator.encode, portIdDesignator,
        Nat.add_assoc]
    · intro a ha
      simp only [Designator.length_encode, portIdDesignator, List.length_cons, List.length_nil] at ha
      simp (disch := omega) only [Buf.stores_cons, Buf.stores_nil, Buf.byte_set_of_ne]
    · simp (disch := omega) only [Buf.stores_cons, Buf.stores_nil, Buf.top_set, Nat.max_eq_left,
        Buf.top_writeList (List.cons_ne_nil _ _), Designator.encode, portIdDesignator,
        List.length_cons, List.length_nil]
  rw [hD]
  rfl

/-- `(-len) & 3` of a `size_t`: the padding to the next multiple of 4. -/
theorem sizeSub_zero_and_three {n : Nat} (h₀ : 0 < n) (h : n < 2 ^ 64) :
    sizeSub 0 n &&& 3 = (4 - n % 4) % 4 := by
  rw [show (3 : Nat) = 2 ^ 2 - 1 from rfl, Nat.and_pow_two_sub_one_eq_mod]
  simp only [sizeSub]
  omega

/-- The SCSI name string designators, after any list. The source prints the text and its NUL;
the zero padding is already in place. -/
theorem scsiNameDesignator_eq {st : Page83} {ds : List Designator} (h : st.Holds ds)
    (assoc protoId : UInt8) (s : List UInt8) (hfit : (nameDesignator assoc protoId s).Fits)
    (hroom : st.ptr + (nameDesignator assoc protoId s).encode.length ≤ 512) :
    scsiNameDesignator assoc protoId s st = st.put (nameDesignator assoc protoId s) := by
  generalize hpad : (4 - (s.length + 1) % 4) % 4 = pad
  have hW : (s ++ [0]).length = s.length + 1 := List.length_append _ _
  have hd : (nameDesignator assoc protoId s).designator = s ++ [0] ++ List.replicate pad 0 := by
    simp only [nameDesignator, padTo4, hW, hpad]
  have hn : (nameDesignator assoc protoId s).designator.length = s.length + 1 + pad := by
    simp only [hd, List.length_append, List.length_replicate, hW]
  have hfit' : s.length + 1 + pad < 256 := hn ▸ hfit
  have hlen := (nameDesignator assoc protoId s).length_encode
  have hp := h.ptr
  have ht := h.top
  have hs : st.data.stores [(st.ptr, protoId <<< 4 ||| 0x3), (st.ptr + 1, 0x80 ||| assoc ||| 0x8)] =
      (st.data.set st.ptr (protoId <<< 4 ||| 0x3)).set (st.ptr + 1) (0x80 ||| assoc ||| 0x8) := rfl
  have hD : ((st.data.stores [(st.ptr, protoId <<< 4 ||| 0x3),
      (st.ptr + 1, 0x80 ||| assoc ||| 0x8)]).snprintf (st.ptr + 4) (sizeSub (sizeSub 512 st.used) 4)
      s).set (st.ptr + 3) (UInt8.ofNat (s.length + 1 + pad)) =
      st.data.writeList st.ptr (nameDesignator assoc protoId s).encode := by
    rw [Buf.snprintf_of_lt (by simp only [sizeSub]; omega),
      ← Buf.writeList_append_zeros (fun a (h₁ : st.ptr + 4 + (s ++ [0]).length ≤ a)
          (h₂ : a < st.ptr + 4 + (s ++ [0]).length + pad) => by
          rw [hs, Buf.byte_set_of_ne (by omega), Buf.byte_set_of_ne (by omega)]
          exact h.zero a (by omega))
        (by rw [hs, Buf.top_set, Buf.top_set]; omega),
      ← hd, ← hn]
    exact stores_writeList_set (d := nameDesignator assoc protoId s) (h.zero _ (by omega)) h.top hroom
  simp only [scsiNameDesignator, put, sizeSub_zero_and_three (by omega : 0 < s.length + 1)
    (by omega), hpad, show (if pad ≠ 0 then s.length + 1 + pad else s.length + 1) =
      s.length + 1 + pad by by_cases h0 : pad = 0 <;> simp [h0],
    if_neg (show ¬s.length + 1 + pad > 256 by omega)]
  rw [hD, hlen, hn]
  rfl

/-- The NAA loop writes only `ptr[i]` and after, below `ptr[20]`. -/
theorem naaLoop_frame (p : Nat) : ∀ (w : List UInt8) (next : Bool) (i : Nat) (x : Buf),
    (∀ a, a < p + i ∨ p + 20 ≤ a → (naaLoop p w next i x).byte a = x.byte a) ∧
      (p + 20 ≤ x.top → (naaLoop p w next i x).top = x.top)
  | [], _, _, _ => ⟨fun _ _ => rfl, fun _ => rfl⟩
  | c :: w, next, i, x => by
    unfold naaLoop
    split
    · split
      · exact naaLoop_frame p w next i x
      · split
        · obtain ⟨hb, ht⟩ :=
            naaLoop_frame p w false (i + 1) (x.set (p + i) (x.byte (p + i) ||| ‹_›))
          exact ⟨fun a ha => (hb a (by omega)).trans (Buf.byte_set_of_ne (by omega)),
            fun h => (ht (by simp; omega)).trans (by simp; omega)⟩
        · obtain ⟨hb, ht⟩ := naaLoop_frame p w true i (x.set (p + i) (‹UInt8› <<< 4))
          exact ⟨fun a ha => (hb a ha).trans (Buf.byte_set_of_ne (by omega)),
            fun h => (ht (by simp; omega)).trans (by simp; omega)⟩
    · exact ⟨fun _ _ => rfl, fun _ => rfl⟩

/-- The NAA loop does the same at any `ptr`: it reads and writes only `ptr[i]` for `i < 20`. -/
theorem naaLoop_shift {p q : Nat} : ∀ (w : List UInt8) (next : Bool) (i : Nat) {x y : Buf},
    (∀ j < 20, x.byte (p + j) = y.byte (q + j)) →
      ∀ j < 20, (naaLoop p w next i x).byte (p + j) = (naaLoop q w next i y).byte (q + j)
  | [], _, _, _, _, hxy => hxy
  | c :: w, next, i, x, y, hxy => by
    unfold naaLoop
    split
    · split
      · exact naaLoop_shift w next i hxy
      · have hset : ∀ (u : UInt8), ∀ j < 20, (x.set (p + i) u).byte (p + j) =
            (y.set (q + i) u).byte (q + j) := fun u j hj => by
          simp only [Buf.byte_set, Nat.add_left_cancel_iff]
          split
          · rfl
          · exact hxy j hj
        split
        · rw [hxy i ‹_›]
          exact naaLoop_shift w false (i + 1) (hset _)
        · exact naaLoop_shift w true i (hset _)
    · exact hxy

/-- What the NAA loop leaves in a descriptor whose bytes 8-19 are zero: bytes 0-6 as they were,
the first digit in the low nibble of byte 7, and the next digits two to a byte. -/
theorem slice_naaLoop (p : Nat) (wwn : CStr) (x : Buf)
    (hz : ∀ j, 8 ≤ j → j < 20 → x.byte (p + j) = 0) :
    (naaLoop p wwn.bytes true 7 x).slice p 20 = x.slice p 7 ++ (x.byte (p + 7) ||| naaDigit wwn 0) ::
      (List.range 12).map fun j => (naaDigit wwn (2 * j + 1) <<< 4) ||| naaDigit wwn (2 * j + 2) := by
  obtain ⟨hf, h7, hb⟩ := naaLoop_bytes p wwn.bytes true 7 x (fun _ => by omega)
    fun j hj => hz j (by simpa using hj)
  rw [show (20 : Nat) = 7 + (1 + 12) from rfl, Buf.slice_add, Buf.slice_add, Buf.slice_one, h7 rfl]
  congr 1
  · exact List.map_congr_left fun a ha => hf a (.inl (by rw [List.mem_range'_1] at ha; omega))
  · simp only [List.singleton_append, Buf.slice, List.range'_eq_map_range, List.map_map]
    exact congrArg _ (List.map_congr_left fun j hj => by
      simpa [Nat.add_assoc, naaDigit] using hb j (by simp at hj ⊢; omega))

/-- 2/5: the NAA designator, after any list. -/
theorem naaBinary_eq {st : Page83} {ds : List Designator} (h : st.Holds ds) (wwn : CStr)
    (hroom : st.ptr + 20 ≤ 512) : naaBinary wwn st = st.put (naaDesignator wwn) := by
  have hn : (naaDesignator wwn).designator.length = 16 := by simp [naaDesignator]
  have hlen : (naaDesignator wwn).encode.length = 20 := by rw [Designator.length_encode, hn]
  have hz := h.zero
  have htop := h.top
  simp only [naaBinary, put, hlen]
  generalize st.ptr = p at *
  congr 1
  apply Buf.eq_writeList
  · rw [hlen, slice_naaLoop p wwn _ fun j hj _ => by
      simp (disch := omega) only [Buf.stores_cons, Buf.stores_nil, Buf.byte_set_of_ne]
      exact hz _ (by omega)]
    have h2 : st.data.byte (p + 2) = 0 := hz _ (by omega)
    simp (disch := omega) only [Buf.slice, List.range'_succ, List.range'_zero, List.map_cons,
      List.map_nil, Nat.add_assoc, Nat.reduceAdd, Buf.stores_cons, Buf.stores_nil,
      Buf.byte_set_self, Buf.byte_set_of_ne, h2, Designator.encode, hn, naaDesignator]
    rfl
  · intro a ha
    rw [hlen] at ha
    rw [(naaLoop_frame p _ true 7 _).1 a (by omega)]
    simp (disch := omega) only [Buf.stores_cons, Buf.stores_nil, Buf.byte_set_of_ne]
  · have hst : (st.data.stores [(p, 1), (p + 1, 3), (p + 3, 16), (p + 4, 0x60), (p + 5, 0x01),
        (p + 6, 0x40), (p + 7, 0x50)]).top = st.data.top := Buf.top_stores_of_lt (by
        simp only [List.forall_mem_cons, List.not_mem_nil, false_implies, implies_true, and_true]
        omega)
    rw [(naaLoop_frame p _ true 7 _).2 (by omega), hst, Buf.top_writeList
      (List.ne_nil_of_length_pos (by omega)), hlen]
    omega

@[simp] theorem ptr_page83Start : page83Start.ptr = 4 := rfl

/-- **The builder writes the designators.** When every descriptor of `page83Designators` fits its
length byte and the list fits in `data` after the 4-byte header, `page83` leaves the header, the
encoded list and zeros after it, with `used` its length. -/
theorem page83_holds {wwn cfgstring : CStr} {port : Option TgtPort}
    (hfit : ∀ d ∈ page83Designators wwn cfgstring port, d.Fits)
    (hroom : 4 + (encodeAll (page83Designators wwn cfgstring port)).length ≤ 512) :
    (page83 wwn cfgstring port).Holds (page83Designators wwn cfgstring port) := by
  have h₀ := holds_page83Start
  have hnaa : (naaDesignator wwn).designator.length = 16 := by simp [naaDesignator]
  cases port with
  | none =>
    simp only [page83Designators, encodeAll_cons, encodeAll_nil, List.length_append,
      Designator.length_encode, List.length_nil] at hroom
    have h₁ := h₀.put (t10Designator wwn) (by simp; omega)
    have h₂ := h₁.put (naaDesignator wwn) (by simp; omega)
    have h₃ := h₂.put (vendorDesignator cfgstring) (by simp; omega)
    rw [page83, t10VendorId_eq h₀ (hfit _ (by simp [page83Designators])) (by simp; omega),
      naaBinary_eq h₁ wwn (by simp; omega),
      vendorSpecific_eq h₂ (hfit _ (by simp [page83Designators])) (by simp; omega)]
    exact h₃
  | some port =>
    simp only [page83Designators, encodeAll_cons, encodeAll_nil, List.length_append,
      Designator.length_encode, List.length_nil] at hroom
    have h₁ := h₀.put (t10Designator wwn) (by simp; omega)
    have h₂ := h₁.put (naaDesignator wwn) (by simp; omega)
    have h₃ := h₂.put (vendorDesignator cfgstring) (by simp; omega)
    have h₄ := h₃.put (portIdDesignator 0x4 port.protoId port.relPortId) (by simp; omega)
    have h₅ := h₄.put (portIdDesignator 0x5 port.protoId port.grpId) (by simp; omega)
    have h₆ := h₅.put (nameDesignator 0x10 port.protoId (portName port)) (by simp; omega)
    have h₇ := h₆.put (nameDesignator 0x20 port.protoId port.wwn.bytes) (by simp; omega)
    rw [page83, t10VendorId_eq h₀ (hfit _ (by simp [page83Designators])) (by simp; omega),
      naaBinary_eq h₁ wwn (by simp; omega),
      vendorSpecific_eq h₂ (hfit _ (by simp [page83Designators])) (by simp; omega)]
    simp only [relTgtPortId, tgtPortGroup]
    rw [portDesignator_eq h₃ _ _ _ (by simp; omega), portDesignator_eq h₄ _ _ _ (by simp; omega),
      scsiNameDesignator_eq h₅ _ _ _ (hfit _ (by simp [page83Designators])) (by simp; omega),
      scsiNameDesignator_eq h₆ _ _ _ (hfit _ (by simp [page83Designators])) (by simp; omega)]
    exact h₇

end Page83

/-- The finished page: `[0, 83h]`, the PAGE LENGTH, and the list. -/
theorem slice_page83Finish {st : Page83} {ds : List Designator} (h : st.Holds ds) :
    (page83Finish st).slice 0 (st.used + 4) = [0, 0x83] ++ beBytes 2 st.used ++ encodeAll ds := by
  have hhead : st.data.slice 0 2 = [0, 0x83] := by
    have := h.head
    rw [show (4 : Nat) = 2 + 2 from rfl, Buf.slice_add] at this
    exact (List.append_inj (this.trans (show [0, 0x83, 0, 0] = [0, 0x83] ++ [0, 0] from rfl))
      (by simp [Buf.slice])).1
  rw [show st.used + 4 = 2 + 2 + st.used by omega, Buf.slice_add, Buf.slice_add, page83Finish,
    putUnalignedBe16, putUnalignedBe, Buf.slice_writeList_of_le (by omega), hhead,
    Buf.slice_writeList_eq (by simp [beBytes]),
    Buf.slice_writeList_of_ge (by simp [beBytes]), h.body]

/-- A page whose first bytes are `[0, 83h]`, the big-endian length of a descriptor list and the
list reads back: the page code, the PAGE LENGTH, and the descriptors. -/
theorem page_reads_back_of_take {page : List UInt8} {ds : List Designator} {n : Nat}
    (htake : page.take (n + 4) = [0, 0x83] ++ beBytes 2 n ++ encodeAll ds)
    (hn : (encodeAll ds).length = n) (hsmall : n < 2 ^ 16) (hfit : ∀ d ∈ ds, d.Fits) :
    let pageLength := getBe (fun i => page.getD i 0) 2 2
    page.take 2 = [0, 0x83] ∧ pageLength = n ∧
      parseDesignators pageLength ((page.drop 4).take pageLength) = some ds := by
  intro pageLength
  have hget : ∀ i < n + 4, page.getD i 0 = ([0, 0x83] ++ beBytes 2 n ++ encodeAll ds).getD i 0 :=
    fun i hi => by rw [← htake, List.getD_eq_getElem?_getD, List.getD_eq_getElem?_getD,
      List.getElem?_take_of_lt hi]
  have hlen : pageLength = n := by
    have hto : ∀ m, (UInt8.ofNat m).toNat = m % 256 := fun _ => rfl
    have hbe : beBytes 2 n = [UInt8.ofNat (n / 256), UInt8.ofNat n] := by
      simp [beBytes, List.range_succ]
    simp only [pageLength, getBe, hget 2 (by omega), hget 3 (by omega), hbe, List.cons_append,
      List.nil_append, List.getD_cons_succ, List.getD_cons_zero, hto]
    omega
  refine ⟨?_, hlen, ?_⟩
  · have h2 := congrArg (List.take 2) htake
    rwa [List.take_take, min_eq_left (by omega)] at h2
  · have hbody : (page.drop 4).take n = encodeAll ds := by
      have h4 := congrArg (List.drop 4) htake
      rw [List.drop_take, Nat.add_sub_cancel] at h4
      rw [h4]
      simp [beBytes]
    rw [hlen, hbody]
    exact parseDesignators_encodeAll ds _ hfit (hn ▸ length_le_length_encodeAll ds)

/-- **An initiator reads the designators back from page 83h.** When every descriptor fits its
length byte and the list fits in `data`, INQUIRY of VPD page 83h returns GOOD and delivers the
page code, a PAGE LENGTH that is the list's length, and a descriptor list that walks back to
exactly `page83Designators`. -/
theorem evpd_page83_reads_back (lim : VpdLimits) {dev : Dev} {port : Option TgtPort}
    {cdb : Nat → UInt8} {iovec : List Iovec} {wwn : CStr} (hcdb : cdb 2 = 0x83)
    (hwwn : dev.wwn = some wwn) (hfit : ∀ d ∈ page83Designators wwn dev.cfgstring port, d.Fits)
    (hroom : 4 + (encodeAll (page83Designators wwn dev.cfgstring port)).length ≤ 512)
    (hl : 4 + (encodeAll (page83Designators wwn dev.cfgstring port)).length ≤ tcmuIovecLength iovec) :
    let r := tcmuEmulateEvpdInquiry lim dev port cdb iovec
    let page := flat (windowsOver iovec r.2)
    let pageLength := getBe (fun i => page.getD i 0) 2 2
    r.1 = .ok ∧ page.take 2 = [0, 0x83] ∧
      pageLength = (encodeAll (page83Designators wwn dev.cfgstring port)).length ∧
      parseDesignators pageLength ((page.drop 4).take pageLength) =
        some (page83Designators wwn dev.cfgstring port) := by
  intro r page pageLength
  have hH := Page83.page83_holds hfit hroom
  have hr : r = (.ok, (tcmuMemcpyIntoIovec iovec (page83Finish (page83 wwn dev.cfgstring port)).byte
      ((page83 wwn dev.cfgstring port).used + 4)).1) := by
    simp only [r, tcmuEmulateEvpdInquiry, hcdb]
    rw [hwwn]
    rfl
  generalize page83 wwn dev.cfgstring port = st at *
  generalize page83Designators wwn dev.cfgstring port = ds at *
  have hu := hH.used
  have htake : page.take (st.used + 4) = [0, 0x83] ++ beBytes 2 st.used ++ encodeAll ds := by
    simp only [page, hr]
    rw [take_flat_memcpyInto _ le_rfl (by omega), List.range_eq_range', ← slice_page83Finish hH]
    rfl
  obtain ⟨h2, hlen, hparse⟩ := page_reads_back_of_take htake hu.symm (by omega) hfit
  exact ⟨by rw [hr], h2, hlen.trans hu, hparse⟩

/-- A device with a 4-character serial, behind a target port. -/
theorem evpd_page83_reads_back_with_port :
    let wwn : CStr := CStr.replicate 4 0x61 (by decide)
    let port : TgtPort := ⟨0, 1, 1, CStr.replicate 4 0x62 (by decide), 1, 0⟩
    let dev : Dev := ⟨512, 1, false, some wwn, ⟨[], List.not_mem_nil 0⟩, 0, 0, 0, false, false⟩
    let cdb : Nat → UInt8 := fun i => [0x12, 0x01, 0x83, 2, 0].getD i 0
    let iovec : List Iovec := [⟨fun _ => 0, 0, 40⟩, ⟨fun _ => 0, 0, 472⟩]
    (cdb 2 = 0x83 ∧ dev.wwn = some wwn ∧
      (∀ d ∈ page83Designators wwn dev.cfgstring (some port), d.Fits) ∧
      4 + (encodeAll (page83Designators wwn dev.cfgstring (some port))).length ≤ 512 ∧
      4 + (encodeAll (page83Designators wwn dev.cfgstring (some port))).length ≤
        tcmuIovecLength iovec) ∧
    let r := tcmuEmulateEvpdInquiry ⟨0, 0, 0⟩ dev (some port) cdb iovec
    let page := flat (windowsOver iovec r.2)
    let pageLength := getBe (fun i => page.getD i 0) 2 2
    r.1 = .ok ∧ page.take 2 = [0, 0x83] ∧
      pageLength = (encodeAll (page83Designators wwn dev.cfgstring (some port))).length ∧
      parseDesignators pageLength ((page.drop 4).take pageLength) =
        some (page83Designators wwn dev.cfgstring (some port)) :=
  have hfit : ∀ d ∈ page83Designators (CStr.replicate 4 0x61 (by decide)) ⟨[], List.not_mem_nil 0⟩
      (some ⟨0, 1, 1, CStr.replicate 4 0x62 (by decide), 1, 0⟩), d.Fits := by decide
  ⟨⟨rfl, rfl, hfit, by decide, by decide⟩,
    evpd_page83_reads_back _ rfl rfl hfit (by decide) (by decide)⟩

end TcmuRunner.Scsi
