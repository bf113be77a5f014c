import UsbipdDarwin.Host.Busid
import UsbipdDarwin.Host.Listing
import UsbipdDarwin.Lts.Radix

/-! What the host crate makes of an entry of `nusb::list_devices`: one function for the
listing, the device list on the wire and the hotplug events. -/

namespace Usbip.Host
open Lts.Radix

inductive Speed
  | low
  | full
  | high
  | super
  | superPlus
  deriving DecidableEq, Repr

def speedToUsbip : Option Speed → UInt32
  | some .low => 1
  | some .full => 2
  | some .high => 3
  | some .super => 5
  | some .superPlus => 6
  | none => 0

structure NusbInfo where
  port : Port
  vendorId : UInt16
  productId : UInt16
  deviceVersion : UInt16
  cls : UInt8
  subclass : UInt8
  protocol : UInt8
  speed : Option Speed
  manufacturerString : Option String
  productString : Option String
  serialNumber : Option String
  interfaces : List UsbInterface
  deriving DecidableEq, Repr

/-- A `UsbDevice` with its descriptor strings, which the wire protocol has no room for. -/
structure HostDevice extends UsbDevice where
  manufacturer : Option String
  product : Option String
  serial : Option String
  deriving DecidableEq, Repr

def fromNusb (info : NusbInfo) (numbers : UInt32 × UInt32) : HostDevice where
  busid := formatBusid info.port
  busnum := numbers.1
  devnum := numbers.2
  speed := speedToUsbip info.speed
  vendorId := info.vendorId
  productId := info.productId
  bcdDevice := info.deviceVersion
  cls := info.cls
  subclass := info.subclass
  protocol := info.protocol
  -- the active configuration can only be asked for once the device is open
  configurationValue := 1
  numConfigurations := 1
  manufacturer := info.manufacturerString
  product := info.productString
  serial := info.serialNumber
  interfaces := info.interfaces

def fromInfo (info : NusbInfo) : HostDevice := fromNusb info (deriveBusDev info.port)

def hex4 (x : UInt16) : String := String.ofList (hexPad 4 x.toNat)

end Usbip.Host
