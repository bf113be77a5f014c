import UsbipdDarwin.Host.Busid
import UsbipdDarwin.Host.OpenedDevice

/-! Opening a device and giving it back. As root, `open` takes the device from the
kernel's drivers by re-enumerating it; `Drop` re-enumerates whatever it then finds
under the same busid, unless that is another product. -/

namespace Usbip.Host

/-- An entry of `nusb::list_devices`, with the busid `format_busid` gives it. -/
structure DeviceInfo where
  busid : String
  vendorId : UInt16
  productId : UInt16
  locationId : UInt32
  registryEntryId : UInt64
  port : Port
  busid_eq : busid = formatBusid port := by rfl
  deriving DecidableEq, Repr

structure Capture where
  busid : String
  capturedRegistryId : Option UInt64
  capturedVidPid : Option (UInt16 × UInt16)
  deriving DecidableEq, Repr

/-- What the system answers while `open` runs; a list that could not be read is
`none`, and `polls` are the lists seen before the deadline. -/
structure OpenAnswers where
  listed : Option (List DeviceInfo)
  isRoot : Bool
  captures : Bool
  polls : List (Option (List DeviceInfo))
  opens : Option (List Configuration × UInt8)

def DeviceInfo.comesBackAs (old i : DeviceInfo) : Bool :=
  i.locationId == old.locationId && i.vendorId == old.vendorId && i.productId == old.productId

def awaitReenumerated (old : DeviceInfo) :
    List (Option (List DeviceInfo)) → Except HostError (DeviceInfo × Option UInt64)
  | [] => .error .reenumerateTimeout
  | none :: _ => .error .nusb
  | some devices :: rest =>
    match devices.find? old.comesBackAs with
    | some info => .ok (info, some info.registryEntryId)
    | none => awaitReenumerated old rest

def maybeCapture (answers : OpenAnswers) (info : DeviceInfo) :
    Except HostError (DeviceInfo × Option UInt64) :=
  if !answers.isRoot then .ok (info, none)
  else if !answers.captures then .ok (info, none)
  else awaitReenumerated info answers.polls

def openDevice (busid : String) (answers : OpenAnswers) :
    Except HostError (OpenedDevice × Capture) :=
  match answers.listed with
  | none => .error .nusb
  | some devices =>
    match devices.find? (·.busid == busid) with
    | none => .error (.notFound busid)
    | some info =>
      match maybeCapture answers info with
      | .error e => .error e
      | .ok (info, captured) =>
        match answers.opens with
        | none => .error .nusb
        | some (configurations, active) =>
          .ok (.opened configurations active,
            ⟨busid, captured, captured.map fun _ => (info.vendorId, info.productId)⟩)

/-- The registry id `OpenedDevice::drop` gives to `reenumerate_release`, if it comes to that. -/
def Capture.releaseTarget (c : Capture) (listed : Option (List DeviceInfo)) : Option UInt64 :=
  match c.capturedRegistryId with
  | none => none
  | some _ =>
    match listed.bind (·.find? (·.busid == c.busid)), c.capturedVidPid with
    | some info, some (vid, pid) =>
      if info.vendorId == vid && info.productId == pid then some info.registryEntryId else none
    | some info, none => some info.registryEntryId
    | none, _ => none

end Usbip.Host
