import UsbipdDarwin.Proto.Urb

/-! The op half of the wire protocol: the 8-byte header, the device records of
`OP_REP_DEVLIST` and `OP_REP_IMPORT`, and the 32-byte busid of `OP_REQ_IMPORT`. -/

namespace Usbip.Proto

def u16ToBeBytes (x : UInt16) : Bytes := [(x >>> 8).toUInt8, x.toUInt8]

def u16FromBeBytes (b₀ b₁ : UInt8) : UInt16 := b₀.toUInt16 <<< 8 ||| b₁.toUInt16

/-- The two bytes at `off`; every caller has checked the length first. -/
def readU16 (buf : Bytes) (off : Nat) : UInt16 :=
  u16FromBeBytes (buf.getD off 0) (buf.getD (off + 1) 0)

def usbipVersion : UInt16 := 0x0111

def opReqDevlist : UInt16 := 0x8005
def opRepDevlist : UInt16 := 0x0005
def opReqImport : UInt16 := 0x8003
def opRepImport : UInt16 := 0x0003

structure OpHeader where
  version : UInt16
  code : UInt16
  status : UInt32
  deriving DecidableEq, Repr

namespace OpHeader

def size : Nat := 8

def new (code : UInt16) : OpHeader := ⟨usbipVersion, code, 0⟩

def encode (h : OpHeader) : Bytes :=
  u16ToBeBytes h.version ++ u16ToBeBytes h.code ++ u32ToBeBytes h.status

def decode (buf : Bytes) : Except ProtoError OpHeader :=
  if buf.length < size then .error (.shortRead size buf.length)
  else .ok { version := readU16 buf 0, code := readU16 buf 2, status := readU32 buf 4 }

end OpHeader

structure ExportedInterface where
  cls : UInt8
  subclass : UInt8
  protocol : UInt8
  deriving DecidableEq, Repr

def ExportedInterface.encode (i : ExportedInterface) : Bytes := [i.cls, i.subclass, i.protocol, 0]

structure ExportedDevice where
  path : String
  busid : String
  busnum : UInt32
  devnum : UInt32
  speed : UInt32
  idVendor : UInt16
  idProduct : UInt16
  bcdDevice : UInt16
  bDeviceClass : UInt8
  bDeviceSubclass : UInt8
  bDeviceProtocol : UInt8
  bConfigurationValue : UInt8
  bNumConfigurations : UInt8
  interfaces : List ExportedInterface
  deriving DecidableEq, Repr

def u8OfUsize (n : Nat) : UInt8 := if n < 256 then UInt8.ofNat n else 255

def u32OfUsize (n : Nat) : UInt32 := if n < 2 ^ 32 then UInt32.ofNat n else 0xFFFFFFFF

/-- The UTF-8 bytes of a string, cut or padded with NULs to `width`. -/
def writeFixedStr (s : String) (width : Nat) : Bytes :=
  let bytes := s.toUTF8.data.toList
  bytes.take width ++ List.replicate (width - bytes.length) 0

namespace ExportedDevice

def encode (d : ExportedDevice) : Bytes :=
  writeFixedStr d.path 256 ++ writeFixedStr d.busid 32 ++ u32ToBeBytes d.busnum ++
    u32ToBeBytes d.devnum ++ u32ToBeBytes d.speed ++ u16ToBeBytes d.idVendor ++
    u16ToBeBytes d.idProduct ++ u16ToBeBytes d.bcdDevice ++
    [d.bDeviceClass, d.bDeviceSubclass, d.bDeviceProtocol, d.bConfigurationValue,
      d.bNumConfigurations, u8OfUsize d.interfaces.length] ++
    d.interfaces.flatMap ExportedInterface.encode

/-- The fields that `encode` writes first, written by a second copy of its code. -/
def encodeHeaderOnly (d : ExportedDevice) : Bytes :=
  writeFixedStr d.path 256 ++ writeFixedStr d.busid 32 ++ u32ToBeBytes d.busnum ++
    u32ToBeBytes d.devnum ++ u32ToBeBytes d.speed ++ u16ToBeBytes d.idVendor ++
    u16ToBeBytes d.idProduct ++ u16ToBeBytes d.bcdDevice ++
    [d.bDeviceClass, d.bDeviceSubclass, d.bDeviceProtocol, d.bConfigurationValue,
      d.bNumConfigurations, u8OfUsize d.interfaces.length]

end ExportedDevice

def encodeRepImportOk (d : ExportedDevice) : Bytes :=
  (OpHeader.new opRepImport).encode ++ d.encodeHeaderOnly

def encodeRepImportErr : Bytes := OpHeader.encode ⟨usbipVersion, opRepImport, 1⟩

/-! `String::from_utf8_lossy`: every maximal part of an ill-formed sequence becomes
one U+FFFD. -/

def isContinuation (b : UInt8) : Bool := b &&& 0xC0 == 0x80

def second3 (b₀ b₁ : UInt8) : Bool :=
  if b₀ == 0xE0 then 0xA0 ≤ b₁ && b₁ ≤ 0xBF
  else if b₀ == 0xED then 0x80 ≤ b₁ && b₁ ≤ 0x9F
  else isContinuation b₁

def second4 (b₀ b₁ : UInt8) : Bool :=
  if b₀ == 0xF0 then 0x90 ≤ b₁ && b₁ ≤ 0xBF
  else if b₀ == 0xF4 then 0x80 ≤ b₁ && b₁ ≤ 0x8F
  else isContinuation b₁

/-- The first character of `b₀ :: rest` and how much of `rest` belongs to it; a byte
past the end reads as 0, which continues nothing. -/
def decodeHead (b₀ : UInt8) (rest : Bytes) : Char × Nat :=
  let b₁ := rest.getD 0 0
  let b₂ := rest.getD 1 0
  let b₃ := rest.getD 2 0
  let low (b : UInt8) : Nat := (b &&& 0x3F).toNat
  if b₀ < 0x80 then (Char.ofNat b₀.toNat, 0)
  else if 0xC2 ≤ b₀ && b₀ ≤ 0xDF then
    if isContinuation b₁ then (Char.ofNat ((b₀ &&& 0x1F).toNat * 64 + low b₁), 1)
    else ('�', 0)
  else if 0xE0 ≤ b₀ && b₀ ≤ 0xEF then
    if !second3 b₀ b₁ then ('�', 0)
    else if isContinuation b₂ then
      (Char.ofNat (((b₀ &&& 0x0F).toNat * 64 + low b₁) * 64 + low b₂), 2)
    else ('�', 1)
  else if 0xF0 ≤ b₀ && b₀ ≤ 0xF4 then
    if !second4 b₀ b₁ then ('�', 0)
    else if !isContinuation b₂ then ('�', 1)
    else if isContinuation b₃ then
      (Char.ofNat ((((b₀ &&& 0x07).toNat * 64 + low b₁) * 64 + low b₂) * 64 + low b₃), 3)
    else ('�', 2)
  else ('�', 0)

def lossyChars : Nat → Bytes → List Char
  | 0, _ | _, [] => []
  | n + 1, b :: rest =>
    let (c, k) := decodeHead b rest
    c :: lossyChars n (rest.drop k)

def fromUtf8Lossy (bytes : Bytes) : String := String.ofList (lossyChars bytes.length bytes)

def readFixedStr (buf : Bytes) : String := fromUtf8Lossy (buf.takeWhile (· != 0))

def decodeReqImportBusid (buf : Bytes) : Except ProtoError String :=
  if buf.length < 32 then .error (.shortRead 32 buf.length) else .ok (readFixedStr (buf.take 32))

end Usbip.Proto
