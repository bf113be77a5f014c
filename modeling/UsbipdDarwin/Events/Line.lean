import UsbipdDarwin.Events.Hub
import UsbipdDarwin.Host.FromInfo
import UsbipdDarwin.Lts.Json
import UsbipdDarwin.Lts.Lines
import UsbipdDarwin.Proto.Utf8

/-! The lines of `usbipd events`: one JSON object a line, and what a consumer reads out of
the bytes, however the stream is cut. How a JSON library writes an object is a parameter. -/

namespace Usbip.Events
open Host Proto Lts

def AddedDevice.fromHost (d : HostDevice) : AddedDevice where
  busid := d.busid
  vendorId := hex4 d.vendorId
  productId := hex4 d.productId
  manufacturer := d.manufacturer
  product := d.product
  serial := d.serial
  cls := d.cls
  subclass := d.subclass
  protocol := d.protocol
  speed := d.speed

section Encode

def optStr : Option String → Json
  | none => .null
  | some s => .str s

def AddedDevice.fields (d : AddedDevice) : List (String × Json) :=
  [("busid", .str d.busid), ("vendor_id", .str d.vendorId), ("product_id", .str d.productId),
    ("manufacturer", optStr d.manufacturer), ("product", optStr d.product),
    ("serial", optStr d.serial), ("class", .num d.cls.toNat), ("subclass", .num d.subclass.toNat),
    ("protocol", .num d.protocol.toNat), ("speed", .num d.speed.toNat)]

def RemovedDevice.fields (d : RemovedDevice) : List (String × Json) :=
  [("busid", .str d.busid), ("vendor_id", .str d.vendorId), ("product_id", .str d.productId)]

def EventLine.toJson : EventLine → Json
  | .added dev => .obj (("event", .str "added") :: dev.fields)
  | .removed dev => .obj (("event", .str "removed") :: dev.fields)

def encodeLine (c : Json.Codec) (ev : EventLine) : String := (c.line ev.toJson).push '\n'

/-- What `write_line` puts on a socket for one event after the other. -/
def wire (c : Json.Codec) (evs : List EventLine) : Bytes :=
  evs.flatMap fun ev => utf8 (encodeLine c ev)

end Encode

section Decode

def field (name : String) (fields : List (String × Json)) : Option Json :=
  (fields.find? fun f => f.1 == name).map fun f => f.2

def strOf : Json → Option String
  | .str s => some s
  | _ => none

def optStrOf : Json → Option (Option String)
  | .null => some none
  | .str s => some (some s)
  | _ => none

def u8Of : Json → Option UInt8
  | .num n => if n < 2 ^ 8 then some (UInt8.ofNat n) else none
  | _ => none

def u32Of : Json → Option UInt32
  | .num n => if n < 2 ^ 32 then some (UInt32.ofNat n) else none
  | _ => none

def AddedDevice.ofFields (fs : List (String × Json)) : Option AddedDevice := do
  let busid ← (field "busid" fs).bind strOf
  let vendorId ← (field "vendor_id" fs).bind strOf
  let productId ← (field "product_id" fs).bind strOf
  let manufacturer ← (field "manufacturer" fs).bind optStrOf
  let product ← (field "product" fs).bind optStrOf
  let serial ← (field "serial" fs).bind optStrOf
  let cls ← (field "class" fs).bind u8Of
  let subclass ← (field "subclass" fs).bind u8Of
  let protocol ← (field "protocol" fs).bind u8Of
  let speed ← (field "speed" fs).bind u32Of
  some ⟨busid, vendorId, productId, manufacturer, product, serial, cls, subclass, protocol, speed⟩

def RemovedDevice.ofFields (fs : List (String × Json)) : Option RemovedDevice := do
  let busid ← (field "busid" fs).bind strOf
  let vendorId ← (field "vendor_id" fs).bind strOf
  let productId ← (field "product_id" fs).bind strOf
  some ⟨busid, vendorId, productId⟩

def EventLine.ofJson : Json → Option EventLine
  | .obj fs => do
    let event ← (field "event" fs).bind strOf
    if event = "added" then (AddedDevice.ofFields fs).map .added
    else if event = "removed" then (RemovedDevice.ofFields fs).map .removed
    else none
  | _ => none

def decodeLine (c : Json.Codec) (line : Bytes) : Option EventLine :=
  (c.parse (fromUtf8Lossy line)).bind EventLine.ofJson

/-- A consumer that splits its input at newlines and keeps what has none yet. -/
def consumer (c : Json.Codec) : Reader EventLine UInt8 Unit := Lines.reader 0x0A (decodeLine c)

end Decode

theorem optStrOf_optStr (s : Option String) : optStrOf (optStr s) = some s := by
  cases s <;> rfl

theorem u8Of_num (x : UInt8) : u8Of (.num x.toNat) = some x := by
  rw [u8Of, if_pos x.toNat_lt, UInt8.ofNat_toNat]

theorem u32Of_num (x : UInt32) : u32Of (.num x.toNat) = some x := by
  rw [u32Of, if_pos x.toNat_lt, UInt32.ofNat_toNat]

theorem ofJson_toJson (ev : EventLine) : EventLine.ofJson ev.toJson = some ev := by
  cases ev with
  | added dev =>
    have hfields : AddedDevice.ofFields (("event", .str "added") :: dev.fields) = some dev := by
      simp [AddedDevice.ofFields, AddedDevice.fields, field, strOf, optStrOf_optStr, u8Of_num,
        u32Of_num]
    have htag : (field "event" (("event", .str "added") :: dev.fields)).bind strOf =
        some "added" := rfl
    simp [EventLine.ofJson, EventLine.toJson, htag, hfields]
  | removed dev =>
    have hfields :
        RemovedDevice.ofFields (("event", .str "removed") :: dev.fields) = some dev := by
      simp [RemovedDevice.ofFields, RemovedDevice.fields, field, strOf]
    have htag : (field "event" (("event", .str "removed") :: dev.fields)).bind strOf =
        some "removed" := rfl
    simp [EventLine.ofJson, EventLine.toJson, htag, hfields]

section Codec

variable {c : Json.Codec} (hc : c.Lawful)

theorem utf8_encodeLine (ev : EventLine) :
    utf8 (encodeLine c ev) = utf8 (c.line ev.toJson) ++ [0x0A] := by
  rw [utf8_eq, utf8_eq, encodeLine, String.toList_push, List.flatMap_append]
  rfl

theorem wire_eq (evs : List EventLine) :
    wire c evs = evs.flatMap fun ev => utf8 (c.line ev.toJson) ++ [0x0A] := by
  simp only [wire, utf8_encodeLine]

include hc

theorem decodeLine_line (ev : EventLine) : decodeLine c (utf8 (c.line ev.toJson)) = some ev := by
  rw [decodeLine, fromUtf8Lossy_utf8, hc.parse_line]
  exact ofJson_toJson ev

theorem newline_not_mem (ev : EventLine) : (0x0A : UInt8) ∉ utf8 (c.line ev.toJson) := by
  rw [utf8_eq, List.mem_flatMap]
  rintro ⟨ch, hch, hb⟩
  have hten : ch.toNat = 10 := toNat_of_mem_utf8EncodeChar hb (by decide)
  obtain rfl : ch = '\n' := Char.toNat_inj.mp hten
  exact hc.newline_not_mem_line _ hch

theorem consumer_run_wire (evs : List EventLine) :
    (consumer c).run (wire c evs) = ⟨evs, [], .ok ()⟩ := by
  rw [wire_eq]
  exact (Lines.reads (newline_not_mem hc) (decodeLine_line hc)).whole fun _ _ => trivial

end Codec

end Usbip.Events
