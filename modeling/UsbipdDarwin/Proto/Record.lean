import UsbipdDarwin.Lts.Records
import UsbipdDarwin.Proto.FixedStr

/-! The device record of `OP_REP_DEVLIST`: 312 bytes, and four for each of the
interfaces that the last of them counts. -/

namespace Usbip.Proto
open Lts.Records

namespace ExportedInterface

def size : Nat := 4

def decode (buf : Bytes) : Except ProtoError ExportedInterface :=
  if buf.length < size then .error (.shortRead size buf.length)
  else .ok ⟨buf.getD 0 0, buf.getD 1 0, buf.getD 2 0⟩

def decodeNext (buf : Bytes) : Except ProtoError (ExportedInterface × Nat) :=
  (decode (buf.take size)).map fun i => (i, size)

theorem decodeNext_encode : Decodes decodeNext encode fun _ => True := fun _ _ _ => rfl

theorem length_flatMap_encode (is : List ExportedInterface) :
    (is.flatMap encode).length = is.length * size := by
  induction is with
  | nil => rfl
  | cons i is ih =>
    rw [List.flatMap_cons, List.length_append, ih, List.length_cons, Nat.add_mul, Nat.add_comm]
    rfl

end ExportedInterface

namespace ExportedDevice

def headerSize : Nat := 256 + 32 + 4 + 4 + 4 + 2 + 2 + 2 + 1 + 1 + 1 + 1 + 1 + 1

def decode (buf : Bytes) : Except ProtoError (ExportedDevice × Nat) :=
  if buf.length < headerSize then .error (.shortRead headerSize buf.length)
  else
    let nIfaces := (buf.getD 311 0).toNat
    let need := nIfaces * ExportedInterface.size
    if buf.length < 312 + need then .error (.shortRead (312 + need) buf.length)
    else do
      let (interfaces, o) ← decodeMany ExportedInterface.decodeNext buf nIfaces 312
      .ok ({
        path := readFixedStr (buf.take 256)
        busid := readFixedStr ((buf.drop 256).take 32)
        busnum := readU32 buf 288
        devnum := readU32 buf 292
        speed := readU32 buf 296
        idVendor := readU16 buf 300
        idProduct := readU16 buf 302
        bcdDevice := readU16 buf 304
        bDeviceClass := buf.getD 306 0
        bDeviceSubclass := buf.getD 307 0
        bDeviceProtocol := buf.getD 308 0
        bConfigurationValue := buf.getD 309 0
        bNumConfigurations := buf.getD 310 0
        interfaces := interfaces }, o)

structure Fits (d : ExportedDevice) : Prop where
  path_nulFree : NulFree d.path
  path_length : (utf8 d.path).length ≤ 256
  busid_nulFree : NulFree d.busid
  busid_length : (utf8 d.busid).length ≤ 32
  interfaces_length : d.interfaces.length ≤ 255

def numbers (d : ExportedDevice) : Bytes :=
  u32ToBeBytes d.busnum ++ u32ToBeBytes d.devnum ++ u32ToBeBytes d.speed ++
    u16ToBeBytes d.idVendor ++ u16ToBeBytes d.idProduct ++ u16ToBeBytes d.bcdDevice ++
    [d.bDeviceClass, d.bDeviceSubclass, d.bDeviceProtocol, d.bConfigurationValue,
      d.bNumConfigurations, u8OfUsize d.interfaces.length]

end ExportedDevice

@[simp] theorem u16FromBeBytes_toBeBytes (x : UInt16) :
    u16FromBeBytes (x >>> 8).toUInt8 x.toUInt8 = x := by
  apply UInt16.toBitVec_inj.mp
  ext i hi
  simp [u16FromBeBytes, -UInt16.toUInt16_toUInt8]
  grind

theorem OpHeader.decode_encode (h : OpHeader) (rest : Bytes) :
    decode (h.encode ++ rest) = .ok h := by
  simp [decode, encode, size, readU16, readU32, u16ToBeBytes, u32ToBeBytes]

section Offsets

variable {head buf : Bytes} {n off : Nat}

theorem getD_skip (h : head.length = n) (hoff : n ≤ off) :
    (head ++ buf).getD off 0 = buf.getD (off - n) 0 := by
  subst h
  rw [List.getD_eq_getElem?_getD, List.getElem?_append_right hoff, List.getD_eq_getElem?_getD]

theorem readU16_skip (h : head.length = n) (hoff : n ≤ off) :
    readU16 (head ++ buf) off = readU16 buf (off - n) := by
  rw [readU16, getD_skip h hoff, getD_skip h (by omega), Nat.sub_add_comm hoff, readU16]

theorem readU32_skip (h : head.length = n) (hoff : n ≤ off) :
    readU32 (head ++ buf) off = readU32 buf (off - n) := by
  rw [readU32, getD_skip h hoff, getD_skip h (by omega), getD_skip h (by omega),
    getD_skip h (by omega)]
  simp only [Nat.sub_add_comm hoff]
  rfl

end Offsets

theorem toNat_u8OfUsize (n : Nat) : (u8OfUsize n).toNat = min 255 n := by
  rw [u8OfUsize]
  split_ifs with h
  · rw [toNat_byte h, Nat.min_eq_right (Nat.le_of_lt_succ h)]
  · rw [Nat.min_eq_left (by omega)]
    rfl

namespace ExportedDevice

def strings (d : ExportedDevice) : Bytes := writeFixedStr d.path 256 ++ writeFixedStr d.busid 32

theorem length_strings (d : ExportedDevice) : d.strings.length = 288 := by
  rw [strings, List.length_append, length_writeFixedStr, length_writeFixedStr]

theorem encodeHeaderOnly_eq (d : ExportedDevice) : d.encodeHeaderOnly = d.strings ++ d.numbers := by
  simp only [encodeHeaderOnly, strings, numbers, List.append_assoc]

@[simp] theorem length_encodeHeaderOnly (d : ExportedDevice) : d.encodeHeaderOnly.length = 312 := by
  rw [encodeHeaderOnly_eq, List.length_append, length_strings]
  rfl

theorem encode_eq (d : ExportedDevice) :
    d.encode = d.encodeHeaderOnly ++ d.interfaces.flatMap ExportedInterface.encode := rfl

theorem length_encode (d : ExportedDevice) :
    d.encode.length = 312 + d.interfaces.length * ExportedInterface.size := by
  rw [encode_eq, List.length_append, length_encodeHeaderOnly,
    ExportedInterface.length_flatMap_encode]

theorem path_field (d : ExportedDevice) (rest : Bytes) :
    (d.strings ++ rest).take 256 = writeFixedStr d.path 256 := by
  rw [strings, List.append_assoc, List.take_left' (length_writeFixedStr ..)]

theorem busid_field (d : ExportedDevice) (rest : Bytes) :
    ((d.strings ++ rest).drop 256).take 32 = writeFixedStr d.busid 32 := by
  rw [strings, List.append_assoc, List.drop_left' (length_writeFixedStr ..),
    List.take_left' (length_writeFixedStr ..)]

/-- What a reader of the record gets: the strings as their fields return them, and as many
interfaces as the count says. -/
def asRead (d : ExportedDevice) : ExportedDevice :=
  { d with
    path := fixedStr 256 d.path
    busid := fixedStr 32 d.busid
    interfaces := d.interfaces.take 255 }

theorem decode_encode_append (d : ExportedDevice) (rest : Bytes) :
    decode (d.encode ++ rest) =
      .ok (d.asRead, 312 + min 255 d.interfaces.length * ExportedInterface.size) := by
  have hsplit : d.encode ++ rest = d.encodeHeaderOnly ++
      ((d.interfaces.take 255).flatMap ExportedInterface.encode ++
        ((d.interfaces.drop 255).flatMap ExportedInterface.encode ++ rest)) := by
    rw [← List.append_assoc (List.flatMap ..), ← List.flatMap_append, List.take_append_drop,
      encode_eq, List.append_assoc]
  have hmany := decodeMany_flatMap ExportedInterface.decodeNext_encode (fun _ _ => trivial) hsplit
  rw [length_encodeHeaderOnly, ExportedInterface.length_flatMap_encode, List.length_take] at hmany
  have hlen : 312 + min 255 d.interfaces.length * ExportedInterface.size ≤
      (d.encode ++ rest).length := by
    rw [List.length_append, length_encode, ExportedInterface.size]
    omega
  rw [encodeHeaderOnly_eq, List.append_assoc] at hsplit
  have hcount : ((d.encode ++ rest).getD 311 0).toNat = min 255 d.interfaces.length := by
    rw [hsplit, getD_skip d.length_strings (by decide)]
    exact toNat_u8OfUsize _
  rw [decode, if_neg (by rw [headerSize]; omega)]
  simp only [hcount]
  rw [if_neg (by omega), hmany]
  simp only [bind, Except.bind]
  rw [hsplit, path_field, busid_field]
  simp (disch := decide) only [readU32_skip d.length_strings, readU16_skip d.length_strings,
    getD_skip d.length_strings]
  simp [asRead, fixedStr, numbers, readU32, readU16, u32ToBeBytes, u16ToBeBytes]

theorem asRead_of_fits {d : ExportedDevice} (hd : d.Fits) : d.asRead = d := by
  rw [asRead, fixedStr, fixedStr, readFixedStr_writeFixedStr hd.path_nulFree hd.path_length,
    readFixedStr_writeFixedStr hd.busid_nulFree hd.busid_length,
    List.take_of_length_le hd.interfaces_length]

theorem asRead_asRead (d : ExportedDevice) : d.asRead.asRead = d.asRead := by
  simp only [asRead, fixedStr_fixedStr, List.take_take, Nat.min_self]

theorem decode_encode_of_length {d : ExportedDevice} (h : d.interfaces.length ≤ 255)
    (rest : Bytes) : decode (d.encode ++ rest) = .ok (d.asRead, d.encode.length) := by
  rw [decode_encode_append, Nat.min_eq_right h, length_encode]

theorem decode_encode : Decodes decode encode Fits := by
  intro d hd rest
  rw [decode_encode_of_length hd.interfaces_length, asRead_of_fits hd]

end ExportedDevice

/-- The reader of a record ends where its writer ended exactly when the count fits its byte. -/
theorem record_self_delimiting (d : ExportedDevice) (rest : Bytes) :
    ((∃ d', ExportedDevice.decode (d.encode ++ rest) = .ok (d', d.encode.length)) ↔
        d.interfaces.length ≤ 255) ∧
      d.encodeHeaderOnly <+: d.encode ∧ d.encodeHeaderOnly.length = 312 := by
  refine ⟨⟨?_, fun h => ⟨_, ExportedDevice.decode_encode_of_length h rest⟩⟩, ?_,
    d.length_encodeHeaderOnly⟩
  · rintro ⟨d', hdecode⟩
    rw [ExportedDevice.decode_encode_append, ExportedDevice.length_encode] at hdecode
    have hread := congrArg Prod.snd (Except.ok.inj hdecode)
    simp only [ExportedInterface.size] at hread
    omega
  · rw [ExportedDevice.encode_eq]
    exact List.prefix_append _ _

def longBusidDevice : ExportedDevice where
  path := "/usbipd-mac/20-2"
  busid := "aaaaaaaaaaaaaaaaaaaaaaaaaaaaaaaé"
  busnum := 20
  devnum := 2
  speed := 5
  idVendor := 0x0781
  idProduct := 0x5583
  bcdDevice := 0x0100
  bDeviceClass := 0
  bDeviceSubclass := 0
  bDeviceProtocol := 0
  bConfigurationValue := 1
  bNumConfigurations := 1
  interfaces := [⟨8, 6, 80⟩]

def crowdedDevice : ExportedDevice :=
  { longBusidDevice with interfaces := List.replicate 256 ⟨8, 6, 80⟩ }

/-- The reader of the crowded record stops four bytes before its end. -/
theorem crowded_record_cut_short :
    crowdedDevice.encode.length = 1336 ∧
      ExportedDevice.decode crowdedDevice.encode = .ok (crowdedDevice.asRead, 1332) ∧
      ¬ ∃ d', ExportedDevice.decode crowdedDevice.encode =
        .ok (d', crowdedDevice.encode.length) := by
  have hcount : crowdedDevice.interfaces.length = 256 := List.length_replicate
  have hlen : crowdedDevice.encode.length = 1336 := by
    rw [ExportedDevice.length_encode, hcount]
    rfl
  have hdecode : ExportedDevice.decode crowdedDevice.encode = .ok (crowdedDevice.asRead, 1332) := by
    have h := crowdedDevice.decode_encode_append []
    rwa [List.append_nil, hcount] at h
  refine ⟨hlen, hdecode, ?_⟩
  rintro ⟨d', h⟩
  rw [hdecode, hlen] at h
  cases h

/-- Writing and reading a record again changes nothing after the first time, and nothing but
strings that do not fit the first time. -/
theorem decode_encode_idempotent (d : ExportedDevice) (h : d.interfaces.length ≤ 255) :
    ∃ d' n, ExportedDevice.decode d.encode = .ok (d', n) ∧
      ExportedDevice.decode d'.encode = .ok (d', n) ∧
      { d' with path := d.path, busid := d.busid } = d ∧
      (NulFree d.path → (utf8 d.path).length ≤ 256 → NulFree d.busid →
        (utf8 d.busid).length ≤ 32 → d' = d) := by
  have hifs : d.asRead.interfaces = d.interfaces := List.take_of_length_le h
  have hfirst := ExportedDevice.decode_encode_of_length h []
  have hsecond := ExportedDevice.decode_encode_of_length (hifs ▸ h) []
  rw [List.append_nil] at hfirst hsecond
  refine ⟨d.asRead, d.encode.length, hfirst, ?_, ?_, ?_⟩
  · rw [hsecond, d.asRead_asRead, ExportedDevice.length_encode, hifs, ExportedDevice.length_encode]
  · change { d with interfaces := d.interfaces.take 255 } = d
    rw [List.take_of_length_le h]
  · intro hpath hpathLength hbusid hbusidLength
    exact ExportedDevice.asRead_of_fits ⟨hpath, hpathLength, hbusid, hbusidLength, h⟩

theorem decode_encode_idempotent_longBusid :
    longBusidDevice.interfaces.length ≤ 255 ∧
      longBusidDevice.asRead.busid = "aaaaaaaaaaaaaaaaaaaaaaaaaaaaaaa�" ∧
      ∃ d' n, ExportedDevice.decode longBusidDevice.encode = .ok (d', n) ∧
        ExportedDevice.decode d'.encode = .ok (d', n) := by
  obtain ⟨d', n, hfirst, hsecond, -⟩ := decode_encode_idempotent longBusidDevice (by decide)
  exact ⟨by decide, by decide, d', n, hfirst, hsecond⟩

end Usbip.Proto
