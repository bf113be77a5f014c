import UsbipdDarwin.Events.Line

/-! `usbipd list`: the table, and the JSON that integrations read. A device is described
there by the same fields as in the `added` events. -/

namespace Usbip.Cli
open Host Events Lts

structure JsonDevice where
  busid : String
  vendorId : String
  productId : String
  manufacturer : Option String
  product : Option String
  cls : UInt8
  subclass : UInt8
  protocol : UInt8
  speed : UInt32
  deriving DecidableEq, Repr

def JsonDevice.ofHost (d : HostDevice) : JsonDevice where
  busid := d.busid
  vendorId := hex4 d.vendorId
  productId := hex4 d.productId
  manufacturer := d.manufacturer
  product := d.product
  cls := d.cls
  subclass := d.subclass
  protocol := d.protocol
  speed := d.speed

def JsonDevice.fields (d : JsonDevice) : List (String × Json) :=
  [("busid", .str d.busid), ("vendor_id", .str d.vendorId), ("product_id", .str d.productId),
    ("manufacturer", optStr d.manufacturer), ("product", optStr d.product),
    ("class", .num d.cls.toNat), ("subclass", .num d.subclass.toNat),
    ("protocol", .num d.protocol.toNat), ("speed", .num d.speed.toNat)]

def listJson (c : Json.Codec) (devices : List HostDevice) : String :=
  let rows := devices.map fun d => Json.obj (JsonDevice.ofHost d).fields
  (c.pretty (.arr rows)).push '\n'

def hex2 (x : UInt8) : String := String.ofList (Radix.hexPad 2 x.toNat)

def vidPid (d : HostDevice) : String := hex4 d.vendorId ++ ":" ++ hex4 d.productId

def tableRow (d : HostDevice) : List String :=
  [" - busid " ++ d.busid ++ " (" ++ vidPid d ++ ")",
    "     " ++ d.manufacturer.getD "(unknown vendor)" ++ " : " ++
      d.product.getD "(unknown product)",
    "     class=" ++ hex2 d.cls ++ "/" ++ hex2 d.subclass ++ "/" ++ hex2 d.protocol,
    "     allow with: --allow " ++ vidPid d]

def tableLines (devices : List HostDevice) : List String :=
  ["Local USB devices", "================="] ++
    if devices.isEmpty then [" (none)"] else devices.flatMap tableRow

def listTable (devices : List HostDevice) : String :=
  String.join ((tableLines devices).map (·.push '\n'))

def list (c : Json.Codec) (json : Bool) (devices : List HostDevice) : String :=
  if json then listJson c devices else listTable devices

/-- The line stands in the text, from the end of another to its own. -/
def IsLine (line text : String) : Prop :=
  ∃ before after, text = before ++ line.push '\n' ++ after ∧
    (before = "" ∨ ∃ s : String, before.toList = s.toList ++ ['\n'])

theorem isLine_join {line : String} {lines : List String} (h : line ∈ lines) :
    IsLine line (String.join (lines.map (·.push '\n'))) := by
  obtain ⟨pre, post, rfl⟩ := List.append_of_mem h
  refine ⟨String.join (pre.map (·.push '\n')), String.join (post.map (·.push '\n')), ?_, ?_⟩
  · rw [List.map_append, List.map_cons, String.join_append, String.join_cons, String.append_assoc]
  · rcases List.eq_nil_or_concat pre with rfl | ⟨before, last, rfl⟩
    · exact .inl rfl
    · refine .inr ⟨String.join (before.map (·.push '\n')) ++ last, ?_⟩
      simp [String.join_append, String.toList_append]

theorem isLine_hint {d : HostDevice} {devices : List HostDevice} (h : d ∈ devices) :
    IsLine ("     allow with: --allow " ++ vidPid d) (listTable devices) := by
  refine isLine_join (List.mem_append_right _ ?_)
  have hsome : devices.isEmpty = false := by
    cases devices with
    | nil => cases h
    | cons => rfl
  rw [if_neg (by rw [hsome]; exact Bool.false_ne_true), List.mem_flatMap]
  exact ⟨d, h, by simp [tableRow]⟩

def eventOnly (name : String) : Bool := name == "event" || name == "serial"

theorem fields_ofHost (d : HostDevice) : (JsonDevice.ofHost d).fields =
    (("event", .str "added") :: (AddedDevice.fromHost d).fields).filter fun f =>
      !eventOnly f.1 := by
  simp [JsonDevice.ofHost, JsonDevice.fields, AddedDevice.fromHost, AddedDevice.fields, eventOnly]

namespace Sample

def stickInfo : NusbInfo where
  port := ⟨"1", [1], 4⟩
  vendorId := 0x0781
  productId := 0x5581
  deviceVersion := 0x0100
  cls := 0
  subclass := 0
  protocol := 0
  speed := some .high
  manufacturerString := none
  productString := some "Ultra"
  serialNumber := some "4C53"
  interfaces := [⟨8, 6, 80⟩]

end Sample

end Usbip.Cli
