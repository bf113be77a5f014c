import UsbipdDarwin.Proto.Bytes

/-! The URB half of the wire protocol: a 20-byte basic header and a 28-byte tail
for each of `CMD_SUBMIT`, `RET_SUBMIT`, `CMD_UNLINK` and `RET_UNLINK`. -/

namespace Usbip.Proto

inductive ProtoError
  | shortRead (need got : Nat)
  | unknownOp (code : UInt16)
  | unsupportedVersion (version : UInt16)
  deriving DecidableEq, Repr

def usbipCmdSubmit : UInt32 := 1
def usbipCmdUnlink : UInt32 := 2
def usbipRetSubmit : UInt32 := 3
def usbipRetUnlink : UInt32 := 4

def urbHeaderSize : Nat := 48

def usbipDirOut : UInt32 := 0
def usbipDirIn : UInt32 := 1

structure UrbHeader where
  command : UInt32
  seqnum : UInt32
  devid : UInt32
  direction : UInt32
  ep : UInt32
  deriving DecidableEq, Repr

namespace UrbHeader

def size : Nat := 20

def encode (h : UrbHeader) : Bytes :=
  u32ToBeBytes h.command ++ u32ToBeBytes h.seqnum ++ u32ToBeBytes h.devid ++
    u32ToBeBytes h.direction ++ u32ToBeBytes h.ep

def decode (buf : Bytes) : Except ProtoError UrbHeader :=
  if buf.length < size then .error (.shortRead size buf.length)
  else .ok {
    command := readU32 buf 0
    seqnum := readU32 buf 4
    devid := readU32 buf 8
    direction := readU32 buf 12
    ep := readU32 buf 16 }

end UrbHeader

structure CmdSubmit where
  transferFlags : UInt32
  transferBufferLength : Int32
  startFrame : Int32
  numberOfPackets : Int32
  interval : Int32
  setup : List.Vector UInt8 8
  deriving DecidableEq

namespace CmdSubmit

def size : Nat := 28

def encode (c : CmdSubmit) : Bytes :=
  u32ToBeBytes c.transferFlags ++ i32ToBeBytes c.transferBufferLength ++
    i32ToBeBytes c.startFrame ++ i32ToBeBytes c.numberOfPackets ++ i32ToBeBytes c.interval ++
    c.setup.toList

def decode (buf : Bytes) : Except ProtoError CmdSubmit :=
  if h : buf.length < size then .error (.shortRead size buf.length)
  else .ok {
    transferFlags := readU32 buf 0
    transferBufferLength := readI32 buf 4
    startFrame := readI32 buf 8
    numberOfPackets := readI32 buf 12
    interval := readI32 buf 16
    setup := ⟨(buf.drop 20).take 8, by simp only [size] at h; simp; omega⟩ }

end CmdSubmit

structure RetSubmit where
  status : Int32
  actualLength : Int32
  startFrame : Int32
  numberOfPackets : Int32
  errorCount : Int32
  padding : List.Vector UInt8 8
  deriving DecidableEq

def RetSubmit.encode (r : RetSubmit) : Bytes :=
  i32ToBeBytes r.status ++ i32ToBeBytes r.actualLength ++ i32ToBeBytes r.startFrame ++
    i32ToBeBytes r.numberOfPackets ++ i32ToBeBytes r.errorCount ++ r.padding.toList

structure CmdUnlink where
  unlinkSeqnum : UInt32
  padding : List.Vector UInt8 24
  deriving DecidableEq

namespace CmdUnlink

def size : Nat := 28

def decode (buf : Bytes) : Except ProtoError CmdUnlink :=
  if h : buf.length < size then .error (.shortRead size buf.length)
  else .ok {
    unlinkSeqnum := readU32 buf 0
    padding := ⟨(buf.drop 4).take 24, by simp only [size] at h; simp; omega⟩ }

end CmdUnlink

structure RetUnlink where
  status : Int32
  padding : List.Vector UInt8 24
  deriving DecidableEq

def RetUnlink.encode (r : RetUnlink) : Bytes := i32ToBeBytes r.status ++ r.padding.toList

def writeRetSubmit (seqnum : UInt32) (ret : RetSubmit) (payload : Bytes) : Bytes :=
  UrbHeader.encode ⟨usbipRetSubmit, seqnum, 0, 0, 0⟩ ++ ret.encode ++ payload

def writeRetUnlink (seqnum : UInt32) (status : Int32) : Bytes :=
  UrbHeader.encode ⟨usbipRetUnlink, seqnum, 0, 0, 0⟩ ++
    RetUnlink.encode ⟨status, List.Vector.replicate 24 0⟩

namespace UrbHeader

@[simp] theorem length_encode (h : UrbHeader) : h.encode.length = 20 := rfl

theorem take_encode (h : UrbHeader) (tail : Bytes) : (h.encode ++ tail).take size = h.encode :=
  List.take_left' h.length_encode

theorem drop_encode (h : UrbHeader) (tail : Bytes) : (h.encode ++ tail).drop size = tail :=
  List.drop_left' h.length_encode

theorem decode_encode (h : UrbHeader) : decode h.encode = .ok h := by
  simp [decode, encode, size, readU32, u32ToBeBytes]

theorem encode_of_decode {buf : Bytes} {h : UrbHeader} (hlen : buf.length = size)
    (hd : decode buf = .ok h) : h.encode = buf := by
  have hsize : size = 20 := rfl
  rw [decode, if_neg (by omega), Except.ok.injEq] at hd
  rw [← hd, encode]
  iterate 5 rw [u32ToBeBytes_readU32 (by omega)]
  iterate 4 rw [take_drop_append]
  rw [List.drop_zero, List.take_of_length_le (by omega)]

end UrbHeader

namespace CmdSubmit

theorem decode_encode (c : CmdSubmit) : decode c.encode = .ok c := by
  obtain ⟨flags, tbl, start, packets, interval, setup, hsetup⟩ := c
  have htake : setup.take 8 = setup := List.take_of_length_le hsetup.le
  simp [decode, encode, size, readI32, readU32, i32ToBeBytes, u32ToBeBytes, hsetup, htake]

theorem encode_of_decode {buf : Bytes} {c : CmdSubmit} (hlen : buf.length = size)
    (hd : decode buf = .ok c) : c.encode = buf := by
  have hsize : size = 28 := rfl
  rw [decode, dif_neg (by omega), Except.ok.injEq] at hd
  rw [← hd, encode, List.Vector.toList_mk]
  rw [u32ToBeBytes_readU32 (by omega)]
  iterate 4 rw [i32ToBeBytes_readI32 (by omega)]
  iterate 5 rw [take_drop_append]
  rw [List.drop_zero, List.take_of_length_le (by omega)]

end CmdSubmit

namespace CmdUnlink

def encode (c : CmdUnlink) : Bytes := u32ToBeBytes c.unlinkSeqnum ++ c.padding.toList

theorem decode_encode (c : CmdUnlink) : decode c.encode = .ok c := by
  obtain ⟨seqnum, padding, hpadding⟩ := c
  have htake : padding.take 24 = padding := List.take_of_length_le hpadding.le
  simp [decode, encode, size, readU32, u32ToBeBytes, hpadding, htake]

theorem encode_of_decode {buf : Bytes} {c : CmdUnlink} (hlen : buf.length = size)
    (hd : decode buf = .ok c) : c.encode = buf := by
  have hsize : size = 28 := rfl
  rw [decode, dif_neg (by omega), Except.ok.injEq] at hd
  rw [← hd, encode, List.Vector.toList_mk, u32ToBeBytes_readU32 (by omega), take_drop_append]
  rw [List.drop_zero, List.take_of_length_le (by omega)]

end CmdUnlink

namespace RetSubmit

def size : Nat := 28

/-- How a client reads the tail of a `RET_SUBMIT`; the daemon only writes it. -/
def decode (buf : Bytes) : Except ProtoError RetSubmit :=
  if h : buf.length < size then .error (.shortRead size buf.length)
  else .ok {
    status := readI32 buf 0
    actualLength := readI32 buf 4
    startFrame := readI32 buf 8
    numberOfPackets := readI32 buf 12
    errorCount := readI32 buf 16
    padding := ⟨(buf.drop 20).take 8, by simp only [size] at h; simp; omega⟩ }

theorem decode_encode (r : RetSubmit) : decode r.encode = .ok r := by
  obtain ⟨status, actual, start, packets, errors, padding, hpadding⟩ := r
  have htake : padding.take 8 = padding := List.take_of_length_le hpadding.le
  simp [decode, encode, size, readI32, readU32, i32ToBeBytes, u32ToBeBytes, hpadding, htake]

end RetSubmit

namespace RetUnlink

def size : Nat := 28

def decode (buf : Bytes) : Except ProtoError RetUnlink :=
  if h : buf.length < size then .error (.shortRead size buf.length)
  else .ok {
    status := readI32 buf 0
    padding := ⟨(buf.drop 4).take 24, by simp only [size] at h; simp; omega⟩ }

theorem decode_encode (r : RetUnlink) : decode r.encode = .ok r := by
  obtain ⟨status, padding, hpadding⟩ := r
  have htake : padding.take 24 = padding := List.take_of_length_le hpadding.le
  simp [decode, encode, size, readI32, readU32, i32ToBeBytes, u32ToBeBytes, hpadding, htake]

end RetUnlink

@[simp] theorem CmdSubmit.length_encode (c : CmdSubmit) : c.encode.length = 28 := by
  simp [CmdSubmit.encode]

@[simp] theorem CmdUnlink.length_encode (c : CmdUnlink) : c.encode.length = 28 := by
  simp [CmdUnlink.encode]

@[simp] theorem RetSubmit.length_encode (r : RetSubmit) : r.encode.length = 28 := by
  simp [RetSubmit.encode]

theorem RetSubmit.take_encode (r : RetSubmit) (tail : Bytes) :
    (r.encode ++ tail).take size = r.encode := List.take_left' r.length_encode

@[simp] theorem length_writeRetSubmit (seqnum : UInt32) (ret : RetSubmit) (payload : Bytes) :
    (writeRetSubmit seqnum ret payload).length = 48 + payload.length := by
  simp only [writeRetSubmit, List.length_append, UrbHeader.length_encode,
    RetSubmit.length_encode]

@[simp] theorem length_writeRetUnlink (seqnum : UInt32) (status : Int32) :
    (writeRetUnlink seqnum status).length = 48 := by
  simp [writeRetUnlink, RetUnlink.encode]

end Usbip.Proto
