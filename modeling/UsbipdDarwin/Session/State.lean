import UsbipdDarwin.Proto.Urb
import UsbipdDarwin.Host.OpenedDevice

/-! One imported device: the URB loop, the tasks it spawns and the blocking
closures these hand off. A URB keeps its task and its closure in one record. -/

namespace Usbip.Session
open Proto Host Lts

def maxInflightUrbs : Nat := 256

def epipe : Int32 := -32
def eoverflow : Int32 := -75

structure Submit where
  basic : UrbHeader
  cmd : CmdSubmit
  outPayload : Bytes

namespace Submit

def seqnum (m : Submit) : UInt32 := m.basic.seqnum

def dirIn (m : Submit) : Bool := m.basic.direction == usbipDirIn

def tbl (m : Submit) : Nat := m.cmd.transferBufferLength.toNatClampNeg

def dataAddr (m : Submit) : UInt8 :=
  (m.basic.ep &&& 0xF).toUInt8 ||| if m.dirIn then 0x80 else 0x00

/-- The address `handle_cmd_submit` records for a later `CMD_UNLINK`. -/
def epAddr (m : Submit) : UInt8 := if m.basic.ep == 0 then 0 else m.dataAddr

def call (m : Submit) : Call :=
  if m.basic.ep == 0 then .control (SetupPacket.fromBytes m.cmd.setup) m.outPayload
  else .data m.dataAddr m.tbl m.outPayload

def WellFormed (m : Submit) : Prop := m.outPayload.length = if m.dirIn then 0 else m.tbl

instance (m : Submit) : Decidable m.WellFormed := inferInstanceAs (Decidable (_ = _))

end Submit

structure Unlink where
  seqnum : UInt32
  unlinkSeqnum : UInt32
  deriving DecidableEq, Repr

inductive Command
  | submit (m : Submit)
  | unlink (r : Unlink)

abbrev Outcome := Except HostError (Nat × Bytes)

def closureOutcome (m : Submit) : Except HostError CallValue → Outcome
  | .ok (.bytes data) => .ok (if m.dirIn then data.length else m.outPayload.length, data)
  | .ok (.transfer r) => .ok (r.actualLength, r.data)
  | .error e => .error e

def i32OfUsize (n : Nat) : Int32 := if n < 2 ^ 31 then Int32.ofNat n else Int32.maxValue

def replyParts (m : Submit) : Outcome → Int32 × Int32 × Bytes
  | .ok (actual, data) =>
    if m.dirIn then
      if data.length > m.tbl then (eoverflow, 0, []) else (0, i32OfUsize actual, data)
    else (0, i32OfUsize actual, [])
  | .error _ => (epipe, 0, [])

def retSubmitFrame (m : Submit) (r : Outcome) : Bytes :=
  let (status, actualLength, payload) := replyParts m r
  writeRetSubmit m.seqnum ⟨status, actualLength, 0, 0, 0, List.Vector.replicate 8 0⟩ payload

def retUnlinkFrame (r : Unlink) : Bytes := writeRetUnlink r.seqnum 0

/-- The async half of a URB: `run_submit` and the clean-up after it. Before
`spawned` is left the task owns the device `Arc`; `polling` tells a first poll
under way from a task that was never polled. -/
inductive TaskPc
  | spawned
  | awaiting
  | joined (r : Outcome)
  | replying (frame : Bytes)
  | writing (frame : Bytes) (sent : Nat)
  | finished
  | returned
  | dropped
  | panicked

inductive ClosurePc
  | idle
  | queued
  | running (pc : CallPc)
  | returned (r : Outcome)
  | panicked

structure Urb where
  msg : Submit
  cancelled : Bool := false
  aborted : Bool := false
  polling : Bool := false
  task : TaskPc := .spawned
  closure : ClosurePc := .idle

/-- `abort` and `cancelled` of the source both name the URB's task. -/
structure Inflight where
  task : Nat
  epAddr : UInt8
  deriving DecidableEq, Repr

inductive LoopPc
  | reading
  | acquiring (m : Submit)
  | inserting (t : Nat) (m : Submit)
  | unlinking (r : Unlink)
  | flagging (r : Unlink) (i : Inflight)
  | cancelling (r : Unlink) (i : Inflight)
  | epWait (r : Unlink) (i : Inflight) (e : Nat)
  | cancelAll (r : Unlink) (i : Inflight) (e : Nat)
  | aborting (r : Unlink) (i : Inflight)
  | unlocking (r : Unlink)
  | replying (r : Unlink)
  | writing (r : Unlink) (sent : Nat)
  | closing
  | drainFlag (i : Inflight) (rest : List Inflight)
  | drainAbort (i : Inflight) (rest : List Inflight)
  | ended
  | panicked

inductive Writer
  | loop
  | urb (t : Nat)
  deriving DecidableEq, Repr

/-- History entries. `aborted` also records whether the task had been polled by then. -/
inductive Event
  | readSubmit (t : Nat) (seqnum : UInt32)
  | readUnlink (r : Unlink)
  | host (t : Nat) (e : HostEvent)
  | returned (t : Nat)
  | aborted (t : Nat) (polled : Bool)
  | retSubmit (t : Nat) (seqnum : UInt32) (frame : Bytes)
  | retUnlink (r : Unlink)
  | writeFailed
  deriving DecidableEq, Repr

/-- The state of a session. `wire` is what was written after the import reply,
`log` the history with the latest event first; no step reads `log`. -/
structure State where
  device : OpenedDevice
  inflight : HashMap UInt32 Inflight
  inflightLock : Lock Unit
  permits : Nat
  writer : Lock Writer
  wire : Bytes
  loop : LoopPc
  urbs : List Urb
  log : List Event

def State.initial (d : OpenedDevice) : State where
  device := d
  inflight := ∅
  inflightLock := .free
  permits := maxInflightUrbs
  writer := .free
  wire := []
  loop := .reading
  urbs := []
  log := []

end Usbip.Session
