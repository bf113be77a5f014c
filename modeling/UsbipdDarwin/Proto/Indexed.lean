import UsbipdDarwin.Proto.Record

/-! The decoder of a device record with its running offset and the bounds checks of the
language: it looks at the bytes that it has counted and at no others. -/

namespace Usbip.Proto
open Lts.Records

/-- Why a function did not return a value: an index was out of bounds, or it returned `Err`. -/
inductive Stop
  | panic
  | proto (e : ProtoError)
  deriving DecidableEq

def index (buf : Bytes) (i : Nat) : Except Stop UInt8 :=
  if i < buf.length then .ok (buf.getD i 0) else .error .panic

def slice (buf : Bytes) (lo hi : Nat) : Except Stop Bytes :=
  if lo ≤ hi && hi ≤ buf.length then .ok ((buf.drop lo).take (hi - lo)) else .error .panic

def readU16At (buf : Bytes) (o : Nat) : Except Stop (UInt16 × Nat) := do
  let b₀ ← index buf o
  let b₁ ← index buf (o + 1)
  .ok (u16FromBeBytes b₀ b₁, o + 2)

def readU32At (buf : Bytes) (o : Nat) : Except Stop (UInt32 × Nat) := do
  let b₀ ← index buf o
  let b₁ ← index buf (o + 1)
  let b₂ ← index buf (o + 2)
  let b₃ ← index buf (o + 3)
  .ok (u32FromBeBytes b₀ b₁ b₂ b₃, o + 4)

def readFixedStrAt (buf : Bytes) : Except Stop String := do
  let text ← slice buf 0 ((buf.findIdx? (· == 0)).getD buf.length)
  .ok (fromUtf8Lossy text)

def ExportedInterface.decodeIndexed (buf : Bytes) : Except Stop ExportedInterface :=
  if buf.length < size then .error (.proto (.shortRead size buf.length))
  else do
    let cls ← index buf 0
    let subclass ← index buf 1
    let protocol ← index buf 2
    .ok ⟨cls, subclass, protocol⟩

def decodeInterfaces (buf : Bytes) : Nat → Nat → Except Stop (List ExportedInterface × Nat)
  | 0, o => .ok ([], o)
  | count + 1, o => do
    let record ← slice buf o (o + ExportedInterface.size)
    let iface ← ExportedInterface.decodeIndexed record
    let (ifaces, last) ← decodeInterfaces buf count (o + ExportedInterface.size)
    .ok (iface :: ifaces, last)

def ExportedDevice.decodeIndexed (buf : Bytes) : Except Stop (ExportedDevice × Nat) :=
  if buf.length < headerSize then .error (.proto (.shortRead headerSize buf.length))
  else do
    let path ← readFixedStrAt (← slice buf 0 256)
    let busid ← readFixedStrAt (← slice buf 256 288)
    let o := 288
    let (busnum, o) ← readU32At buf o
    let (devnum, o) ← readU32At buf o
    let (speed, o) ← readU32At buf o
    let (idVendor, o) ← readU16At buf o
    let (idProduct, o) ← readU16At buf o
    let (bcdDevice, o) ← readU16At buf o
    let bDeviceClass ← index buf o
    let bDeviceSubclass ← index buf (o + 1)
    let bDeviceProtocol ← index buf (o + 2)
    let bConfigurationValue ← index buf (o + 3)
    let bNumConfigurations ← index buf (o + 4)
    let nIfaces ← index buf (o + 5)
    let o := o + 6
    let need := nIfaces.toNat * ExportedInterface.size
    if buf.length < o + need then .error (.proto (.shortRead (o + need) buf.length))
    else do
      let (interfaces, o) ← decodeInterfaces buf nIfaces.toNat o
      .ok (⟨path, busid, busnum, devnum, speed, idVendor, idProduct, bcdDevice, bDeviceClass,
        bDeviceSubclass, bDeviceProtocol, bConfigurationValue, bNumConfigurations, interfaces⟩, o)

section Reads

variable {buf : Bytes} {o : Nat}

theorem index_eq (h : o < buf.length) : index buf o = .ok (buf.getD o 0) := if_pos h

theorem slice_eq {n : Nat} (h : o + n ≤ buf.length) :
    slice buf o (o + n) = .ok ((buf.drop o).take n) := by
  rw [slice, if_pos (by simpa using h), Nat.add_sub_cancel_left]

theorem readU16At_eq (h : o + 2 ≤ buf.length) : readU16At buf o = .ok (readU16 buf o, o + 2) := by
  rw [readU16At, index_eq (by omega), index_eq (by omega)]
  rfl

theorem readU32At_eq (h : o + 4 ≤ buf.length) : readU32At buf o = .ok (readU32 buf o, o + 4) := by
  rw [readU32At, index_eq (by omega), index_eq (by omega), index_eq (by omega),
    index_eq (by omega)]
  rfl

theorem readFixedStrAt_eq (buf : Bytes) : readFixedStrAt buf = .ok (readFixedStr buf) := by
  have hend : (buf.findIdx? (· == 0)).getD buf.length = buf.findIdx (· == 0) :=
    List.findIdx_eq_getD_findIdx?.symm
  have htext : buf.takeWhile (· != 0) = buf.take (buf.findIdx (· == 0)) := by
    rw [List.takeWhile_eq_take_findIdx_not]
    simp only [bne, Bool.not_not]
  have hslice : slice buf 0 (0 + buf.findIdx (· == 0)) = _ :=
    slice_eq (by simpa using List.findIdx_le_length)
  rw [Nat.zero_add, List.drop_zero] at hslice
  rw [readFixedStrAt, hend, hslice, readFixedStr, htext]
  rfl

theorem getD_take {n : Nat} (h : o < n) : (buf.take n).getD o 0 = buf.getD o 0 := by
  rw [List.getD_eq_getElem?_getD, List.getElem?_take_of_lt h, List.getD_eq_getElem?_getD]

theorem readU16_take {n : Nat} (h : o + 2 ≤ n) : readU16 (buf.take n) o = readU16 buf o := by
  rw [readU16, getD_take (by omega), getD_take (by omega), readU16]

theorem readU32_take {n : Nat} (h : o + 4 ≤ n) : readU32 (buf.take n) o = readU32 buf o := by
  rw [readU32, getD_take (by omega), getD_take (by omega), getD_take (by omega),
    getD_take (by omega), readU32]

theorem u16ToBeBytes_readU16 (h : o + 2 ≤ buf.length) :
    u16ToBeBytes (readU16 buf o) = (buf.drop o).take 2 := by
  have hbytes : ∀ b₀ b₁ : UInt8, u16ToBeBytes (u16FromBeBytes b₀ b₁) = [b₀, b₁] := by
    intro b₀ b₁
    simp only [u16ToBeBytes, u16FromBeBytes, List.cons.injEq, and_true]
    constructor
    all_goals
      apply UInt8.toBitVec_inj.mp
      ext i hi
      simp
    all_goals grind
  rw [readU16, hbytes]
  iterate 2 rw [take_drop_cons _ (by omega)]
  rw [List.take_zero]

end Reads

section Interfaces

def interfacesAt (buf : Bytes) : Nat → Nat → List ExportedInterface
  | 0, _ => []
  | count + 1, o =>
    ⟨buf.getD o 0, buf.getD (o + 1) 0, buf.getD (o + 2) 0⟩ ::
      interfacesAt buf count (o + ExportedInterface.size)

variable {buf : Bytes} {count o : Nat}

theorem take_drop_interface (h : o + ExportedInterface.size ≤ buf.length) :
    (buf.drop o).take ExportedInterface.size =
      [buf.getD o 0, buf.getD (o + 1) 0, buf.getD (o + 2) 0, buf.getD (o + 3) 0] := by
  rw [ExportedInterface.size] at h ⊢
  iterate 4 rw [take_drop_cons _ (by omega)]
  rw [List.take_zero]

theorem length_interfacesAt (buf : Bytes) (count o : Nat) :
    (interfacesAt buf count o).length = count := by
  induction count generalizing o with
  | zero => rfl
  | succ count ih => rw [interfacesAt, List.length_cons, ih]

theorem decodeMany_interfaces (h : o + count * ExportedInterface.size ≤ buf.length) :
    decodeMany ExportedInterface.decodeNext buf count o =
      .ok (interfacesAt buf count o, o + count * ExportedInterface.size) := by
  induction count generalizing o with
  | zero => simp only [decodeMany, interfacesAt, Nat.zero_mul, Nat.add_zero]
  | succ count ih =>
    rw [Nat.succ_mul] at h
    have hnext : ExportedInterface.decodeNext (buf.drop o) =
        .ok (⟨buf.getD o 0, buf.getD (o + 1) 0, buf.getD (o + 2) 0⟩, ExportedInterface.size) := by
      rw [ExportedInterface.decodeNext, take_drop_interface (by omega)]
      rfl
    rw [decodeMany, hnext]
    simp only [bind, Except.bind]
    rw [ih (by omega), interfacesAt, Nat.succ_mul, Nat.add_right_comm, Nat.add_assoc]

theorem decodeInterfaces_eq (h : o + count * ExportedInterface.size ≤ buf.length) :
    decodeInterfaces buf count o =
      .ok (interfacesAt buf count o, o + count * ExportedInterface.size) := by
  induction count generalizing o with
  | zero => simp only [decodeInterfaces, interfacesAt, Nat.zero_mul, Nat.add_zero]
  | succ count ih =>
    rw [Nat.succ_mul] at h
    have hiface : ExportedInterface.decodeIndexed [buf.getD o 0, buf.getD (o + 1) 0,
        buf.getD (o + 2) 0, buf.getD (o + 3) 0] =
        .ok ⟨buf.getD o 0, buf.getD (o + 1) 0, buf.getD (o + 2) 0⟩ := rfl
    rw [decodeInterfaces, slice_eq (by omega), take_drop_interface (by omega)]
    simp only [bind, Except.bind]
    rw [hiface]
    simp only
    rw [ih (by omega), interfacesAt, Nat.succ_mul, Nat.add_right_comm, Nat.add_assoc]

theorem interfacesAt_take {n : Nat} (h : o + count * ExportedInterface.size ≤ n) :
    interfacesAt (buf.take n) count o = interfacesAt buf count o := by
  induction count generalizing o with
  | zero => rfl
  | succ count ih =>
    rw [Nat.succ_mul, ExportedInterface.size] at h
    rw [interfacesAt, interfacesAt, getD_take (by omega), getD_take (by omega),
      getD_take (by omega), ih (by rw [ExportedInterface.size]; omega)]

theorem encode_interfacesAt (h : o + count * ExportedInterface.size ≤ buf.length)
    (hpad : ∀ i < count, buf.getD (o + i * ExportedInterface.size + 3) 0 = 0) :
    (interfacesAt buf count o).flatMap ExportedInterface.encode =
      (buf.drop o).take (count * ExportedInterface.size) := by
  induction count generalizing o with
  | zero => simp only [interfacesAt, List.flatMap_nil, Nat.zero_mul, List.take_zero]
  | succ count ih =>
    have htail : ∀ i < count, buf.getD (o + ExportedInterface.size +
        i * ExportedInterface.size + 3) 0 = 0 := by
      intro i hi
      have := hpad (i + 1) (by omega)
      rwa [Nat.succ_mul, Nat.add_comm (i * _), ← Nat.add_assoc] at this
    have hfirst : buf.getD (o + 3) 0 = 0 := by
      have := hpad 0 (by omega)
      rwa [Nat.zero_mul, Nat.add_zero] at this
    rw [Nat.succ_mul] at h
    rw [interfacesAt, List.flatMap_cons, ih (by omega) htail, Nat.succ_mul,
      Nat.add_comm (count * _), ← take_drop_append, take_drop_interface (by omega), hfirst]
    rfl

end Interfaces

section Fields

def CanonicalStr (field : Bytes) : Prop :=
  (∃ s, utf8 s = field) ∧ ∀ b ∈ field.dropWhile (· != 0), b = 0

theorem writeFixedStr_readFixedStr {field : Bytes} (h : CanonicalStr field) :
    writeFixedStr (readFixedStr field) field.length = field := by
  obtain ⟨⟨s, hs⟩, hzero⟩ := h
  have htext : field.takeWhile (· != 0) =
      (s.toList.takeWhile (· != '\x00')).flatMap String.utf8EncodeChar := by
    rw [← hs, utf8_eq, takeWhile_utf8]
  have hread : utf8 (readFixedStr field) = field.takeWhile (· != 0) := by
    rw [readFixedStr, htext, fromUtf8Lossy_chars, utf8_eq, String.toList_ofList]
  have hlen := congrArg List.length (List.takeWhile_append_dropWhile (p := (· != 0)) (l := field))
  rw [List.length_append] at hlen
  rw [writeFixedStr_eq (by rw [hread]; omega), hread]
  conv_rhs => rw [← List.takeWhile_append_dropWhile (p := (· != 0)) (l := field)]
  rw [List.eq_replicate_of_mem hzero]
  congr 2
  omega

theorem canonicalStr_writeFixedStr {s : String} {width : Nat} (hs : NulFree s)
    (h : (utf8 s).length ≤ width) : CanonicalStr (writeFixedStr s width) := by
  rw [writeFixedStr_eq h]
  constructor
  · refine ⟨String.ofList (s.toList ++ List.replicate (width - (utf8 s).length) '\x00'), ?_⟩
    rw [utf8_eq, String.toList_ofList, List.flatMap_append, ← utf8_eq, List.flatMap_replicate]
    exact congrArg _ (List.flatten_replicate_singleton (a := 0))
  · intro b hb
    rw [List.dropWhile_append_of_pos] at hb
    · exact List.eq_of_mem_replicate ((List.dropWhile_suffix _).subset hb)
    · intro b hb
      simpa using ne_zero_of_mem_utf8 hs hb

end Fields

theorem padding_encode (is : List ExportedInterface) (rest : Bytes) {i : Nat} (h : i < is.length) :
    (is.flatMap ExportedInterface.encode ++ rest).getD (i * ExportedInterface.size + 3) 0 = 0 := by
  induction is generalizing i with
  | nil => cases h
  | cons iface is ih =>
    rw [List.flatMap_cons, List.append_assoc]
    cases i with
    | zero => rfl
    | succ i =>
      rw [getD_skip (n := ExportedInterface.size) rfl (by rw [Nat.succ_mul]; omega), Nat.succ_mul,
        Nat.add_right_comm, Nat.add_sub_cancel]
      exact ih (Nat.lt_of_succ_lt_succ h)

namespace ExportedDevice

def recordLength (buf : Bytes) : Nat := 312 + 4 * (buf.getD 311 0).toNat

def recordAt (buf : Bytes) : ExportedDevice where
  path := readFixedStr (buf.take 256)
  busid := readFixedStr ((buf.drop 256).take 32)
  busnum := readU32 buf 288
  devnum := readU32 buf 292
  speed := readU32 buf 296
  idVendor := readU16 buf 300
  idProduct := readU16 buf 302
  bcdDevice := readU16 buf 304
  bDeviceClass := buf.getD 306 0
  bDeviceSubclass := buf.getD 307 0
  bDeviceProtocol := buf.getD 308 0
  bConfigurationValue := buf.getD 309 0
  bNumConfigurations := buf.getD 310 0
  interfaces := interfacesAt buf (buf.getD 311 0).toNat 312

variable {buf : Bytes}

theorem recordLength_eq (buf : Bytes) :
    recordLength buf = 312 + (buf.getD 311 0).toNat * ExportedInterface.size := by
  rw [recordLength, Nat.mul_comm, ExportedInterface.size]

theorem decode_eq (h : recordLength buf ≤ buf.length) :
    decode buf = .ok (recordAt buf, recordLength buf) := by
  rw [recordLength_eq] at h ⊢
  rw [decode, if_neg (by rw [headerSize]; omega)]
  simp only
  rw [if_neg (by omega), decodeMany_interfaces h]
  rfl

theorem decode_short (h : buf.length < 312) :
    decode buf = .error (.shortRead 312 buf.length) := if_pos h

theorem decode_short_interfaces (h : 312 ≤ buf.length) (h' : buf.length < recordLength buf) :
    decode buf = .error (.shortRead (recordLength buf) buf.length) := by
  rw [recordLength_eq] at h' ⊢
  rw [decode, if_neg (by rw [headerSize]; omega)]
  exact if_pos h'

theorem decodeIndexed_eq (buf : Bytes) : decodeIndexed buf = (decode buf).mapError .proto := by
  by_cases hshort : buf.length < 312
  · rw [decode_short hshort]
    exact if_pos hshort
  · rw [Nat.not_lt] at hshort
    have hpath : slice buf 0 256 = .ok (buf.take 256) := slice_eq (n := 256) (by omega)
    have hbusid : slice buf 256 288 = .ok ((buf.drop 256).take 32) := slice_eq (n := 32) (by omega)
    rw [decodeIndexed, headerSize, if_neg (by omega)]
    simp (disch := omega) only [bind, Except.bind, hpath, hbusid, readFixedStrAt_eq, readU32At_eq,
      readU16At_eq, index_eq]
    by_cases hifs : buf.length < recordLength buf
    · rw [decode_short_interfaces hshort hifs]
      rw [recordLength_eq] at hifs ⊢
      exact if_pos hifs
    · rw [decode_eq (Nat.not_lt.mp hifs)]
      rw [recordLength_eq] at hifs ⊢
      rw [if_neg hifs, decodeInterfaces_eq (Nat.not_lt.mp hifs)]
      rfl

theorem decodeIndexed_ok (h : recordLength buf ≤ buf.length) :
    decodeIndexed buf = .ok (recordAt buf, recordLength buf) := by
  rw [decodeIndexed_eq, decode_eq h]
  rfl

theorem decodeIndexed_short (h : buf.length < recordLength buf) :
    ∃ need, decodeIndexed buf = .error (.proto (.shortRead need buf.length)) ∧
      buf.length < need := by
  rw [decodeIndexed_eq]
  by_cases hshort : buf.length < 312
  · exact ⟨312, by rw [decode_short hshort]; rfl, hshort⟩
  · exact ⟨_, by rw [decode_short_interfaces (Nat.not_lt.mp hshort) h]; rfl, h⟩

theorem recordAt_congr {buf' : Bytes}
    (h : buf'.take (recordLength buf) = buf.take (recordLength buf)) :
    recordLength buf' = recordLength buf ∧ recordAt buf' = recordAt buf := by
  have hcount : buf'.getD 311 0 = buf.getD 311 0 := by
    rw [← getD_take (n := recordLength buf) (by rw [recordLength]; omega), h,
      getD_take (by rw [recordLength]; omega)]
  have htake : ∀ b : Bytes, b.getD 311 0 = buf.getD 311 0 →
      recordAt (b.take (recordLength buf)) = recordAt b := by
    intro b hb
    have hlen : 312 ≤ recordLength buf := Nat.le_add_right ..
    have hifs : 312 + (b.getD 311 0).toNat * ExportedInterface.size ≤ recordLength buf := by
      rw [recordLength_eq, hb]
    simp only [recordAt, List.take_take, List.drop_take]
    simp (disch := omega) only [readU32_take, readU16_take, getD_take, interfacesAt_take hifs,
      Nat.min_eq_left]
  refine ⟨by rw [recordLength, hcount, recordLength], ?_⟩
  rw [← htake buf' hcount, h, htake buf rfl]

/-- A record as a writer would write it: both strings, and the padding of every interface. -/
structure Canonical (buf : Bytes) : Prop where
  path : CanonicalStr (buf.take 256)
  busid : CanonicalStr ((buf.drop 256).take 32)
  padding : ∀ i < (buf.getD 311 0).toNat, buf.getD (312 + i * ExportedInterface.size + 3) 0 = 0

theorem canonical_encode {d : ExportedDevice} (hd : d.Fits) (rest : Bytes) :
    Canonical (d.encode ++ rest) := by
  have hheader : d.encode ++ rest =
      d.encodeHeaderOnly ++ (d.interfaces.flatMap ExportedInterface.encode ++ rest) := by
    rw [encode_eq, List.append_assoc]
  have hstrings : d.encode ++ rest =
      d.strings ++ (d.numbers ++ (d.interfaces.flatMap ExportedInterface.encode ++ rest)) := by
    rw [hheader, encodeHeaderOnly_eq, List.append_assoc]
  refine ⟨?_, ?_, ?_⟩
  · rw [hstrings, path_field]
    exact canonicalStr_writeFixedStr hd.path_nulFree hd.path_length
  · rw [hstrings, busid_field]
    exact canonicalStr_writeFixedStr hd.busid_nulFree hd.busid_length
  · intro i hi
    have hcount : ((d.encode ++ rest).getD 311 0).toNat = d.interfaces.length := by
      rw [hstrings, getD_skip d.length_strings (by decide)]
      exact (toNat_u8OfUsize _).trans (Nat.min_eq_right hd.interfaces_length)
    rw [hheader, getD_skip d.length_encodeHeaderOnly (by omega), Nat.add_assoc,
      Nat.add_sub_cancel_left]
    exact padding_encode _ _ (hcount ▸ hi)

theorem encode_recordAt (h : recordLength buf ≤ buf.length) (hc : Canonical buf) :
    (recordAt buf).encode = buf.take (recordLength buf) := by
  rw [recordLength_eq] at h ⊢
  have hpath : writeFixedStr (recordAt buf).path 256 = (buf.drop 0).take 256 := by
    have hlen : (buf.take 256).length = 256 := List.length_take_of_le (by omega)
    have hback := writeFixedStr_readFixedStr hc.path
    rwa [hlen] at hback
  have hbusid : writeFixedStr (recordAt buf).busid 32 = (buf.drop 256).take 32 := by
    have hlen : ((buf.drop 256).take 32).length = 32 :=
      List.length_take_of_le (by rw [List.length_drop]; omega)
    have hback := writeFixedStr_readFixedStr hc.busid
    rwa [hlen] at hback
  have hcount : u8OfUsize (recordAt buf).interfaces.length = buf.getD 311 0 := by
    rw [recordAt, length_interfacesAt, u8OfUsize, if_pos (UInt8.toNat_lt _), UInt8.ofNat_toNat]
  have hbytes : [buf.getD 306 0, buf.getD 307 0, buf.getD 308 0, buf.getD 309 0, buf.getD 310 0,
      buf.getD 311 0] = (buf.drop 306).take 6 := by
    iterate 6 rw [take_drop_cons _ (by omega)]
    rw [List.take_zero]
  -- every field is the slice that it was read from, and neighbouring slices make one
  rw [encode, hpath, hbusid, hcount]
  simp only [recordAt]
  rw [hbytes, encode_interfacesAt h hc.padding]
  iterate 3 rw [u32ToBeBytes_readU32 (by omega)]
  iterate 3 rw [u16ToBeBytes_readU16 (by omega)]
  iterate 9 rw [take_drop_append]
  rw [List.drop_zero]

end ExportedDevice

/-- The decoder never indexes out of bounds; it accepts the inputs that are as long as their
header and their count say, and takes that much; what it accepts in canonical form it would
write again as it stands. -/
theorem decodeIndexed_exact (buf : Bytes) :
    ExportedDevice.decodeIndexed buf ≠ .error .panic ∧
    ((∃ r, ExportedDevice.decodeIndexed buf = .ok r) ↔
      312 ≤ buf.length ∧ 312 + 4 * (buf.getD 311 0).toNat ≤ buf.length) ∧
    (∀ d n, ExportedDevice.decodeIndexed buf = .ok (d, n) →
      n = 312 + 4 * (buf.getD 311 0).toNat ∧
      (∀ buf', buf'.take n = buf.take n → ExportedDevice.decodeIndexed buf' = .ok (d, n)) ∧
      (ExportedDevice.Canonical buf → d.encode = buf.take n)) ∧
    ∀ e, ExportedDevice.decodeIndexed buf = .error e →
      ∃ need, e = .proto (.shortRead need buf.length) ∧ buf.length < need := by
  have hheader : 312 ≤ ExportedDevice.recordLength buf := Nat.le_add_right ..
  by_cases h : ExportedDevice.recordLength buf ≤ buf.length
  · have hok := ExportedDevice.decodeIndexed_ok h
    rw [hok]
    refine ⟨?_, ⟨fun _ => ⟨hheader.trans h, h⟩, fun _ => ⟨_, rfl⟩⟩, ?_, ?_⟩
    · intro hpanic
      cases hpanic
    · intro d n hdn
      cases hdn
      refine ⟨rfl, ?_, ExportedDevice.encode_recordAt h⟩
      intro buf' htake
      obtain ⟨hlen, hrecord⟩ := ExportedDevice.recordAt_congr htake
      have hlong := congrArg List.length htake
      rw [List.length_take, List.length_take, Nat.min_eq_left h] at hlong
      rw [ExportedDevice.decodeIndexed_ok (by omega), hlen, hrecord]
    · intro e he
      cases he
  · obtain ⟨need, hshort, hneed⟩ := ExportedDevice.decodeIndexed_short (Nat.not_le.mp h)
    rw [hshort]
    refine ⟨?_, ⟨?_, fun hlong => absurd hlong.2 h⟩, ?_, ?_⟩
    · intro hpanic
      cases hpanic
    · rintro ⟨r, hr⟩
      cases hr
    · intro d n hdn
      cases hdn
    · intro e he
      cases he
      exact ⟨need, rfl, hneed⟩

def driveDevice : ExportedDevice := { longBusidDevice with busid := "20-2" }

theorem decodeIndexed_exact_drive :
    ExportedDevice.Canonical driveDevice.encode ∧
      ExportedDevice.decodeIndexed driveDevice.encode = .ok (driveDevice, 316) ∧
      driveDevice.encode = driveDevice.encode.take 316 := by
  have hfits : driveDevice.Fits :=
    ⟨by decide, by decide, by decide, by decide, by decide⟩
  have hcanonical := ExportedDevice.canonical_encode hfits []
  have hdecode := ExportedDevice.decode_encode driveDevice hfits []
  rw [List.append_nil] at hcanonical hdecode
  have hok : ExportedDevice.decodeIndexed driveDevice.encode = .ok (driveDevice, 316) := by
    rw [ExportedDevice.decodeIndexed_eq, hdecode, ExportedDevice.length_encode]
    rfl
  obtain ⟨-, -, hexact, -⟩ := decodeIndexed_exact driveDevice.encode
  exact ⟨hcanonical, hok, (hexact _ _ hok).2.2 hcanonical⟩

end Usbip.Proto
