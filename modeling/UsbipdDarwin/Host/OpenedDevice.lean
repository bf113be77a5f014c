import UsbipdDarwin.Host.Descriptor
import UsbipdDarwin.Lts.Lock

/-! `OpenedDevice` as threads see it. A call of `control_transfer` or
`data_transfer` is cut at every lock and every call into `nusb`, and what `nusb`
answers is part of the action. Endpoint and interface handles are numbered in the
order `nusb` hands them out, so an `Arc` is the number of what it points to. -/

namespace Usbip.Host
open Proto Lts

/-- Who may hold an endpoint mutex: a transfer call, by its thread, or `cancel_endpoint`. -/
inductive Owner
  | call (t : Nat)
  | canceller
  deriving DecidableEq, Repr

structure Interface where
  num : UInt8
  alt : UInt8
  deriving DecidableEq, Repr

structure AnyEp where
  addr : UInt8
  kind : EpKind
  iface : Nat
  maxPacketSize : Nat
  deriving DecidableEq, Repr

structure EndpointEntry where
  ifaceNum : UInt8
  ep : Nat
  deriving DecidableEq, Repr

structure OpenedDevice where
  configurations : List Configuration
  activeConfigurationValue : UInt8
  interfaces : HashMap UInt8 Nat
  altSettings : HashMap UInt8 UInt8
  endpoints : HashMap UInt8 EndpointEntry
  handles : List Interface
  eps : List AnyEp
  epLock : Nat → Lock Owner

structure TransferResult where
  actualLength : Nat
  data : Bytes
  deriving DecidableEq, Repr

structure Completion where
  actualLen : Nat
  status : Except TransferError Unit
  buffer : Bytes

inductive CallValue
  | bytes (data : Bytes)
  | transfer (r : TransferResult)

inductive Call
  | control (setup : SetupPacket) (outData : Bytes)
  | data (epAddr : UInt8) (length : Nat) (outData : Bytes)

structure ControlRequest where
  controlType : ControlType
  recipient : Recipient
  request : UInt8
  value : UInt16
  index : UInt16
  deriving DecidableEq, Repr

inductive Request
  | controlIn (req : ControlRequest) (length : UInt16)
  | controlOut (req : ControlRequest) (data : Bytes)
  | setConfiguration (cfg : UInt8)
  | setAltSetting (num alt : UInt8)
  | clearHalt (e : Nat)
  | transferBlocking (e : Nat) (requested : Nat) (data : Bytes)
  deriving DecidableEq, Repr

inductive HostEvent
  | locked (e : Nat)
  | started (r : Request)
  deriving DecidableEq, Repr

inductive IfaceUse
  | ensureEndpoint (kind : EpKind)
  | setInterface
  deriving DecidableEq, Repr

inductive CallPc
  | activeConfiguration
  | altMap (cfg : Configuration)
  | epLookup (num : UInt8) (kind : EpKind)
  | ifaceLookup (num : UInt8) (use : IfaceUse)
  | claim (num : UInt8) (use : IfaceUse)
  | selectAlt (h : Nat) (num : UInt8) (use : IfaceUse)
  | ifaceInsert (h : Nat) (num : UInt8) (use : IfaceUse)
  | openEp (h : Nat) (num : UInt8) (kind : EpKind)
  | clearHalt (e : Nat) (num : UInt8)
  | epInsert (e : Nat) (num : UInt8)
  | epWait (e : Nat)
  | epLocked (e : Nat)
  | transferring (e : Nat) (hit : Bool)
  | transferred (e : Nat) (c : Completion)
  | clearEndpoints
  | clearInterfaces
  | clearAlts
  | setConfig
  | settingConfig
  | invalidate
  | setAlt (h : Nat)
  | settingAlt (h : Nat)
  | recordAlt
  | control
  | controlling
  | done (r : Except HostError CallValue)
  | panicked

inductive CallAction
  | go
  | walk (order : List UInt8)
  | opened (maxPacketSize : Nat)
  | ok
  | err
  | completed (c : Completion)
  | answered (r : Except TransferError Bytes)

namespace OpenedDevice

def opened (configurations : List Configuration) (active : UInt8) : OpenedDevice where
  configurations := configurations
  activeConfigurationValue := active
  interfaces := ∅
  altSettings := ∅
  endpoints := ∅
  handles := []
  eps := []
  epLock := fun _ => .free

def activeConfiguration (d : OpenedDevice) : Option Configuration :=
  d.configurations.find? (·.configurationValue == d.activeConfigurationValue)

def setLock (d : OpenedDevice) (e : Nat) (l : Lock Owner) : OpenedDevice :=
  { d with epLock := Function.update d.epLock e l }

def setHandleAlt (d : OpenedDevice) (h : Nat) (alt : UInt8) : OpenedDevice :=
  { d with handles := d.handles.modify h fun i => { i with alt := alt } }

def invalidateInterfaceEndpoints (d : OpenedDevice) (num : UInt8) : OpenedDevice :=
  let stale := d.endpoints.keys.filter fun addr =>
    (d.endpoints.lookup addr).any (·.ifaceNum == num)
  { d with endpoints := stale.foldl (fun m addr => m.erase addr) d.endpoints }

end OpenedDevice

def isIn (epAddr : UInt8) : Bool := epAddr &&& 0x80 != 0

def paddedLen (epAddr : UInt8) (mps length : Nat) : Nat :=
  if isIn epAddr && mps > 0 then max ((length + mps - 1) / mps) 1 * mps else length

/-- The buffer `data_transfer` submits: room to read into, or the bytes to write. -/
def transferRequest (epAddr : UInt8) (length : Nat) (outData : Bytes) (e mps : Nat) : Request :=
  if isIn epAddr then .transferBlocking e (paddedLen epAddr mps length) []
  else .transferBlocking e outData.length outData

/-- The tail of `data_transfer`: an IN transfer is cut to the length the client
asked for, an OUT transfer keeps only its count. -/
def finishTransfer (epAddr : UInt8) (length : Nat) (comp : Completion) :
    Except HostError TransferResult :=
  match comp.status with
  | .error e => .error (.transfer e)
  | .ok () =>
    if isIn epAddr then
      let usable := min comp.actualLen length
      .ok ⟨usable, comp.buffer.take usable⟩
    else .ok ⟨comp.actualLen, []⟩

def controlRequest (setup : SetupPacket) : ControlRequest where
  controlType := setup.controlType
  recipient := setup.recipient
  request := setup.bRequest
  value := setup.wValue
  index := setup.wIndex

def passthrough (setup : SetupPacket) (outData : Bytes) : Request :=
  if setup.isIn then .controlIn (controlRequest setup) setup.wLength
  else .controlOut (controlRequest setup) outData

def Call.start : Call → CallPc
  | .data .. => .activeConfiguration
  | .control setup _ =>
    if isSetConfiguration setup then .clearEndpoints
    else if isSetInterface setup then .invalidate
    else .control

def afterInterface (h : Nat) (num : UInt8) : IfaceUse → CallPc
  | .ensureEndpoint kind => .openEp h num kind
  | .setInterface => .setAlt h

structure CallStep where
  device : OpenedDevice
  pc : CallPc
  event : Option HostEvent := none

namespace OpenedDevice

def ensureInterfaceStep (d : OpenedDevice) : CallPc → CallAction → Option CallStep
  | .ifaceLookup num use, .go =>
    match d.interfaces.lookup num with
    | some h => some ⟨d, afterInterface h num use, none⟩
    | none => some ⟨d, .claim num use, none⟩
  | .claim num use, .ok =>
    some ⟨{ d with handles := d.handles ++ [⟨num, 0⟩] }, .selectAlt d.handles.length num use, none⟩
  | .claim _ _, .err => some ⟨d, .done (.error .nusb), none⟩
  | .selectAlt h num use, .ok =>
    some ⟨d.setHandleAlt h 0, .ifaceInsert h num use, some (.started (.setAltSetting num 0))⟩
  -- a failed `set_alt_setting(0)` is logged and ignored
  | .selectAlt h num use, .err =>
    some ⟨d, .ifaceInsert h num use, some (.started (.setAltSetting num 0))⟩
  | .ifaceInsert h num use, .go =>
    match d.interfaces.lookup num with
    | some h' => some ⟨d, afterInterface h' num use, none⟩
    | none =>
      some ⟨{ d with interfaces := d.interfaces.insert num h }, afterInterface h num use, none⟩
  | _, _ => none

def dataTransferStep (d : OpenedDevice) (t : Nat) (epAddr : UInt8) (length : Nat)
    (outData : Bytes) : CallPc → CallAction → Option CallStep
  | .activeConfiguration, .go =>
    match d.activeConfiguration with
    | none => some ⟨d, .done (.error (.endpointNotFound epAddr)), none⟩
    | some cfg => some ⟨d, .altMap cfg, none⟩
  | .altMap cfg, .walk order =>
    if order.Perm cfg.interfaceNumbers then
      match endpointKind cfg d.altSettings epAddr order with
      | .ok (num, kind) => some ⟨d, .epLookup num kind, none⟩
      | .error e => some ⟨d, .done (.error e), none⟩
    else none
  | .epLookup num kind, .go =>
    match d.endpoints.lookup epAddr with
    | some entry => some ⟨d, .epWait entry.ep, none⟩
    | none => some ⟨d, .ifaceLookup num (.ensureEndpoint kind), none⟩
  | .openEp h num kind, .opened mps =>
    some ⟨{ d with eps := d.eps ++ [⟨epAddr, kind, h, mps⟩] }, .clearHalt d.eps.length num, none⟩
  | .openEp _ _ _, .err => some ⟨d, .done (.error .nusb), none⟩
  -- `clear_halt` may fail; the endpoint is used all the same
  | .clearHalt e num, .ok => some ⟨d, .epInsert e num, some (.started (.clearHalt e))⟩
  | .clearHalt e num, .err => some ⟨d, .epInsert e num, some (.started (.clearHalt e))⟩
  | .epInsert e num, .go =>
    match d.endpoints.lookup epAddr with
    | some entry => some ⟨d, .epWait entry.ep, none⟩
    | none => some ⟨{ d with endpoints := d.endpoints.insert epAddr ⟨num, e⟩ }, .epWait e, none⟩
  | .epWait e, .go =>
    match d.epLock e with
    | .free => some ⟨d.setLock e (.held (.call t)), .epLocked e, some (.locked e)⟩
    | .held _ => none
    | .poisoned => some ⟨d, .panicked, none⟩
  | .epLocked e, .go =>
    let mps := (d.eps[e]?.map (·.maxPacketSize)).getD 0
    some ⟨d, .transferring e false, some (.started (transferRequest epAddr length outData e mps))⟩
  | .transferring e _, .completed comp => some ⟨d, .transferred e comp, none⟩
  | .transferred e comp, .go =>
    some ⟨d.setLock e .free, .done ((finishTransfer epAddr length comp).map .transfer), none⟩
  | pc, a => d.ensureInterfaceStep pc a

def controlTransferStep (d : OpenedDevice) (setup : SetupPacket) (outData : Bytes) :
    CallPc → CallAction → Option CallStep
  | .clearEndpoints, .go => some ⟨{ d with endpoints := ∅ }, .clearInterfaces, none⟩
  | .clearInterfaces, .go => some ⟨{ d with interfaces := ∅ }, .clearAlts, none⟩
  | .clearAlts, .go => some ⟨{ d with altSettings := ∅ }, .setConfig, none⟩
  | .setConfig, .go =>
    some ⟨d, .settingConfig, some (.started (.setConfiguration (setup.wValue &&& 0xFF).toUInt8))⟩
  | .settingConfig, .ok =>
    some ⟨{ d with activeConfigurationValue := (setup.wValue &&& 0xFF).toUInt8 },
      .done (.ok (.bytes [])), none⟩
  | .settingConfig, .err => some ⟨d, .done (.error .nusb), none⟩
  | .invalidate, .go =>
    let num := (setup.wIndex &&& 0xFF).toUInt8
    some ⟨d.invalidateInterfaceEndpoints num, .ifaceLookup num .setInterface, none⟩
  | .setAlt h, .go =>
    some ⟨d, .settingAlt h, some (.started (.setAltSetting (setup.wIndex &&& 0xFF).toUInt8
      (setup.wValue &&& 0xFF).toUInt8))⟩
  | .settingAlt h, .ok =>
    some ⟨d.setHandleAlt h (setup.wValue &&& 0xFF).toUInt8, .recordAlt, none⟩
  | .settingAlt _, .err => some ⟨d, .done (.error .nusb), none⟩
  | .recordAlt, .go =>
    let num := (setup.wIndex &&& 0xFF).toUInt8
    let alt := (setup.wValue &&& 0xFF).toUInt8
    some ⟨{ d with altSettings := d.altSettings.insert num alt }, .done (.ok (.bytes [])), none⟩
  | .control, .go => some ⟨d, .controlling, some (.started (passthrough setup outData))⟩
  | .controlling, .answered (.ok data) =>
    some ⟨d, .done (.ok (.bytes (if setup.isIn then data else []))), none⟩
  | .controlling, .answered (.error e) => some ⟨d, .done (.error (.transfer e)), none⟩
  | pc, a => d.ensureInterfaceStep pc a

def callStep (d : OpenedDevice) (t : Nat) : Call → CallPc → CallAction → Option CallStep
  | .data epAddr length outData, pc, a => d.dataTransferStep t epAddr length outData pc a
  | .control setup outData, pc, a => d.controlTransferStep setup outData pc a

end OpenedDevice

def CallPc.held : CallPc → Option Nat
  | .epLocked e => some e
  | .transferring e _ => some e
  | .transferred e _ => some e
  | _ => none

def OpenedDevice.callPanic (d : OpenedDevice) (pc : CallPc) : OpenedDevice :=
  match pc.held with
  | some e => d.setLock e .poisoned
  | none => d

end Usbip.Host
