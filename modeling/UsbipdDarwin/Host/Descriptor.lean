import UsbipdDarwin.Proto.Bytes
import Mathlib.Data.List.AList
import Mathlib.Data.List.Perm.Basic

/-! Descriptors, setup packets and errors of the host crate, and the walk that
finds the interface an endpoint address belongs to. -/

namespace Usbip.Host
open Proto

/-- A `HashMap` of the source, as an association list without repeated keys. -/
abbrev HashMap (κ β : Type) := AList (fun _ : κ => β)

inductive TransferError
  | cancelled
  | stall
  | disconnected
  | fault
  | invalidArgument
  | unknown (code : UInt32)
  deriving DecidableEq, Repr

inductive HostError
  | nusb
  | transfer (e : TransferError)
  | notFound (busid : String)
  | endpointNotFound (addr : UInt8)
  | unsupportedTransfer (addr : UInt8)
  | invalidSetup
  | capture
  | reenumerateTimeout
  deriving DecidableEq, Repr

inductive TransferType
  | control
  | isochronous
  | bulk
  | interrupt
  deriving DecidableEq, Repr

structure EndpointDescriptor where
  address : UInt8
  transferType : TransferType
  maxPacketSize : Nat
  deriving DecidableEq, Repr

structure InterfaceDescriptor where
  interfaceNumber : UInt8
  alternateSetting : UInt8
  endpoints : List EndpointDescriptor
  deriving DecidableEq, Repr

structure Configuration where
  configurationValue : UInt8
  interfaceAltSettings : List InterfaceDescriptor
  deriving DecidableEq, Repr

inductive EpKind
  | bulk
  | interrupt
  deriving DecidableEq, Repr

structure SetupPacket where
  bmRequestType : UInt8
  bRequest : UInt8
  wValue : UInt16
  wIndex : UInt16
  wLength : UInt16
  deriving DecidableEq, Repr

inductive ControlType
  | standard
  | cls
  | vendor
  deriving DecidableEq, Repr

inductive Recipient
  | device
  | interface
  | endpoint
  | other
  deriving DecidableEq, Repr

namespace SetupPacket

def u16FromLeBytes (lo hi : UInt8) : UInt16 := hi.toUInt16 <<< 8 ||| lo.toUInt16

def fromBytes (b : List.Vector UInt8 8) : SetupPacket where
  bmRequestType := b.get 0
  bRequest := b.get 1
  wValue := u16FromLeBytes (b.get 2) (b.get 3)
  wIndex := u16FromLeBytes (b.get 4) (b.get 5)
  wLength := u16FromLeBytes (b.get 6) (b.get 7)

def isIn (p : SetupPacket) : Bool := p.bmRequestType &&& 0x80 != 0

def controlType (p : SetupPacket) : ControlType :=
  match (p.bmRequestType >>> 5) &&& 0x3 with
  | 0 => .standard
  | 1 => .cls
  | _ => .vendor

def recipient (p : SetupPacket) : Recipient :=
  match p.bmRequestType &&& 0x1F with
  | 0 => .device
  | 1 => .interface
  | 2 => .endpoint
  | _ => .other

end SetupPacket

def isSetConfiguration (p : SetupPacket) : Bool :=
  !p.isIn && p.bmRequestType == 0x00 && p.bRequest == 0x09

def isSetInterface (p : SetupPacket) : Bool :=
  !p.isIn && p.bmRequestType == 0x01 && p.bRequest == 0x0B

theorem not_isSetInterface {p : SetupPacket} (h : isSetConfiguration p = true) :
    isSetInterface p = false := by
  simp only [isSetConfiguration, Bool.and_eq_true, beq_iff_eq] at h
  simp [isSetInterface, h.1.2]

namespace Configuration

def altsOf (cfg : Configuration) (num : UInt8) : List InterfaceDescriptor :=
  cfg.interfaceAltSettings.filter (·.interfaceNumber == num)

def interfaceNumbers (cfg : Configuration) : List UInt8 :=
  (cfg.interfaceAltSettings.map (·.interfaceNumber)).dedup

end Configuration

def activeAlt (alts : List InterfaceDescriptor) (alt : UInt8) : Option InterfaceDescriptor :=
  (alts.find? (·.alternateSetting == alt)).or alts.head?

theorem mem_of_activeAlt {alts : List InterfaceDescriptor} {alt : UInt8}
    {iface : InterfaceDescriptor} (h : activeAlt alts alt = some iface) : iface ∈ alts := by
  rcases Option.or_eq_some_iff.mp h with hfind | ⟨-, hhead⟩
  · exact List.mem_of_find?_eq_some hfind
  · exact List.mem_of_mem_head? hhead

def kindOf (epAddr : UInt8) : TransferType → Except HostError EpKind
  | .bulk => .ok .bulk
  | .interrupt => .ok .interrupt
  | _ => .error (.unsupportedTransfer epAddr)

/-- `endpoint_kind` over an explicit iteration order of the interfaces: the
source walks a `HashMap`, whose order is not fixed. -/
def endpointKind (cfg : Configuration) (altMap : HashMap UInt8 UInt8) (epAddr : UInt8) :
    List UInt8 → Except HostError (UInt8 × EpKind)
  | [] => .error (.endpointNotFound epAddr)
  | num :: rest =>
    match activeAlt (cfg.altsOf num) ((altMap.lookup num).getD 0) with
    | none => endpointKind cfg altMap epAddr rest
    | some iface =>
      match iface.endpoints.find? (·.address == epAddr) with
      | none => endpointKind cfg altMap epAddr rest
      | some ep => (kindOf epAddr ep.transferType).map fun kind => (num, kind)

end Usbip.Host
