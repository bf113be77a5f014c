import UsbipdDarwin.Session.State
import UsbipdDarwin.Lts.Reachable
import UsbipdDarwin.Lts.Threads

/-! The steps of a session. Every thread is cut wherever another may come in
between: at locks, at `await` points, at calls into `nusb`. -/

namespace Usbip.Session
open Proto Host Lts

inductive TaskAction
  | poll
  | suspend
  | handOff
  | join
  | check
  | lockWriter
  | write (n : Nat)
  | finishWrite
  | failWrite
  | remove
  | drop

inductive ClosureAction
  | start
  | call (a : CallAction)
  | panic
  | finish

inductive LoopAction
  | recv (c : Command)
  | hangUp
  | go
  | write (n : Nat)
  | failWrite
  | drain (pending : List Inflight)

inductive Action
  | task (t : Nat) (a : TaskAction)
  | closure (t : Nat) (a : ClosureAction)
  | loop (a : LoopAction)

def TaskPc.awaits : TaskPc → Bool
  | .spawned | .awaiting | .replying _ => true
  | .writing frame sent => sent < frame.length
  | _ => false

namespace State

@[simp] def setUrb (s : State) (t : Nat) (u : Urb) : State := { s with urbs := s.urbs.set t u }

@[simp] def record (s : State) (e : Event) : State := { s with log := e :: s.log }

@[simp] def releasePermit (s : State) : State := { s with permits := s.permits + 1 }

end State

open State

def taskStep (s : State) (t : Nat) (u : Urb) : TaskAction → Option State
  | .poll =>
    if !u.polling && !u.aborted && u.task.awaits then some (s.setUrb t { u with polling := true })
    else none
  | .suspend =>
    match u.task with
    -- the first poll runs into `spawn_blocking` without an await
    | .spawned => none
    | pc => if u.polling && pc.awaits then some (s.setUrb t { u with polling := false }) else none
  | .handOff =>
    match u.polling, u.task with
    | true, .spawned => some (s.setUrb t { u with task := .awaiting, closure := .queued })
    | _, _ => none
  | .join =>
    match u.polling, u.task, u.closure with
    | true, .awaiting, .returned r => some (s.setUrb t { u with task := .joined r })
    | true, .awaiting, .panicked => some (s.setUrb t { u with task := .finished })
    | _, _, _ => none
  | .check =>
    match u.polling, u.task with
    | true, .joined r =>
      if u.cancelled then some (s.setUrb t { u with task := .finished })
      else some (s.setUrb t { u with task := .replying (retSubmitFrame u.msg r) })
    | _, _ => none
  | .lockWriter =>
    match u.polling, u.task, s.writer with
    | true, .replying frame, .free =>
      some { s.setUrb t { u with task := .writing frame 0 } with writer := .held (.urb t) }
    | _, _, _ => none
  | .write n =>
    match u.polling, u.task with
    | true, .writing frame sent =>
      if 0 < n ∧ sent + n ≤ frame.length then
        some { s.setUrb t { u with task := .writing frame (sent + n) } with
          wire := s.wire ++ (frame.drop sent).take n }
      else none
    | _, _ => none
  | .finishWrite =>
    match u.polling, u.task with
    | true, .writing frame sent =>
      if sent = frame.length then
        some ({ s.setUrb t { u with task := .finished } with writer := .free }.record
          (.retSubmit t u.msg.seqnum frame))
      else none
    | _, _ => none
  | .failWrite =>
    match u.polling, u.task with
    | true, .writing frame sent =>
      if sent < frame.length then
        some ({ s.setUrb t { u with task := .finished } with writer := .free }.record .writeFailed)
      else none
    | _, _ => none
  | .remove =>
    match u.polling, u.task, s.inflightLock with
    | true, .finished, .free =>
      some { (s.setUrb t { u with task := .returned, polling := false }).releasePermit with
        inflight := s.inflight.erase u.msg.seqnum }
    -- `expect("inflight map poisoned")`
    | true, .finished, .poisoned =>
      some (s.setUrb t { u with task := .panicked, polling := false }).releasePermit
    | _, _, _ => none
  | .drop =>
    if !u.polling && u.aborted && u.task.awaits then
      let s' := (s.setUrb t { u with task := .dropped }).releasePermit
      match u.task with
      | .writing .. => some { s' with writer := .free }
      | _ => some s'
    else none

def closureStep (s : State) (t : Nat) (u : Urb) : ClosureAction → Option State
  | .start =>
    match u.closure with
    | .queued => some (s.setUrb t { u with closure := .running u.msg.call.start })
    | _ => none
  | .call a =>
    match u.closure with
    | .running pc =>
      (s.device.callStep t u.msg.call pc a).map fun r =>
        { s.setUrb t { u with closure := .running r.pc } with
          device := r.device
          log := (r.event.map (Event.host t)).toList ++ s.log }
    | _ => none
  | .panic =>
    match u.closure with
    | .running (.done _) | .running .panicked => none
    | .running pc =>
      some { s.setUrb t { u with closure := .running .panicked } with
        device := s.device.callPanic pc }
    | _ => none
  | .finish =>
    match u.closure with
    | .running (.done r) =>
      some ((s.setUrb t { u with closure := .returned (closureOutcome u.msg r) }).record
        (.returned t))
    | .running .panicked =>
      some ((s.setUrb t { u with closure := .panicked }).record (.returned t))
    | _ => none

/-- `cancel_all` reaches the transfers pending on that endpoint at that moment. -/
def Urb.hit (e : Nat) (u : Urb) : Urb :=
  match u.closure with
  | .running (.transferring e' _) =>
    if e' = e then { u with closure := .running (.transferring e' true) } else u
  | _ => u

def Urb.polled (u : Urb) : Bool :=
  match u.task with
  | .spawned => u.polling
  | _ => true

def drainNext : List Inflight → LoopPc
  | [] => .ended
  | i :: rest => .drainFlag i rest

def loopGo (s : State) : Option State :=
  match s.loop with
  | .acquiring m =>
    if 0 < s.permits then
      some { s with
        permits := s.permits - 1
        urbs := s.urbs ++ [{ msg := m }]
        loop := .inserting s.urbs.length m }
    else none
  | .inserting t m =>
    match s.inflightLock with
    | .free =>
      some { s with inflight := s.inflight.insert m.seqnum ⟨t, m.epAddr⟩, loop := .reading }
    | .held _ => none
    | .poisoned => some { s with loop := .panicked }
  | .unlinking r =>
    match s.inflightLock with
    | .free =>
      match s.inflight.lookup r.unlinkSeqnum with
      | some i =>
        some { s with
          inflight := s.inflight.erase r.unlinkSeqnum
          inflightLock := .held ()
          loop := .flagging r i }
      | none => some { s with loop := .replying r }
    | .held _ => none
    | .poisoned => some { s with loop := .panicked }
  | .flagging r i =>
    some { s with urbs := s.urbs.modify i.task fun u => { u with cancelled := true }
                  loop := .cancelling r i }
  | .cancelling r i =>
    if i.epAddr ≠ 0 then
      match s.device.endpoints.lookup i.epAddr with
      | some entry => some { s with loop := .epWait r i entry.ep }
      | none => some { s with loop := .aborting r i }
    else some { s with loop := .aborting r i }
  | .epWait r i e =>
    match s.device.epLock e with
    | .free =>
      some { s with device := s.device.setLock e (.held .canceller), loop := .cancelAll r i e }
    | .held _ => none
    -- `expect("endpoint mutex poisoned")` unwinds with the map guard still alive
    | .poisoned => some { s with inflightLock := .poisoned, loop := .panicked }
  | .cancelAll r i e =>
    some { s with device := s.device.setLock e .free
                  urbs := s.urbs.map (Urb.hit e)
                  loop := .aborting r i }
  | .aborting r i =>
    some { s with urbs := s.urbs.modify i.task fun u => { u with aborted := true }
                  log := .aborted i.task ((s.urbs[i.task]?.map Urb.polled).getD true) :: s.log
                  loop := .unlocking r }
  | .unlocking r => some { s with inflightLock := .free, loop := .replying r }
  | .replying r =>
    match s.writer with
    | .free => some { s with writer := .held .loop, loop := .writing r 0 }
    | _ => none
  | .writing r sent =>
    if sent = (retUnlinkFrame r).length then
      some { s with writer := .free, log := .retUnlink r :: s.log, loop := .reading }
    else none
  | .closing =>
    match s.inflightLock with
    | .poisoned => some { s with loop := .panicked }
    | _ => none
  | .drainFlag i rest =>
    some { s with urbs := s.urbs.modify i.task fun u => { u with cancelled := true }
                  loop := .drainAbort i rest }
  | .drainAbort i rest =>
    some { s with urbs := s.urbs.modify i.task fun u => { u with aborted := true }
                  loop := drainNext rest }
  | .reading | .ended | .panicked => none

def loopStep (s : State) : LoopAction → Option State
  | .recv (.submit m) =>
    match s.loop with
    | .reading =>
      if m.WellFormed then
        some { s with loop := .acquiring m, log := .readSubmit s.urbs.length m.seqnum :: s.log }
      else none
    | _ => none
  | .recv (.unlink r) =>
    match s.loop with
    | .reading => some { s with loop := .unlinking r, log := .readUnlink r :: s.log }
    | _ => none
  | .hangUp =>
    match s.loop with
    | .reading => some { s with loop := .closing }
    | _ => none
  | .go => loopGo s
  | .write n =>
    match s.loop with
    | .writing r sent =>
      if 0 < n ∧ sent + n ≤ (retUnlinkFrame r).length then
        some { s with wire := s.wire ++ ((retUnlinkFrame r).drop sent).take n
                      loop := .writing r (sent + n) }
      else none
    | _ => none
  | .failWrite =>
    match s.loop with
    | .writing r sent =>
      if sent < (retUnlinkFrame r).length then
        some { s with writer := .free, log := .writeFailed :: s.log, loop := .closing }
      else none
    | _ => none
  -- `drain` hands the entries out in whatever order the map has them
  | .drain pending =>
    match s.loop, s.inflightLock with
    | .closing, .free =>
      if pending.Perm (s.inflight.entries.map (·.2)) then
        some { s with inflight := ∅, loop := drainNext pending }
      else none
    | _, _ => none

def step (s : State) : Action → Option State
  | .task t a => s.urbs[t]?.bind fun u => taskStep s t u a
  | .closure t a => s.urbs[t]?.bind fun u => closureStep s t u a
  | .loop a => loopStep s a

/-- A session over a device that `OpenedDevice::open` has just returned. -/
def session : System State Action where
  init s := ∃ configurations active, s = .initial (.opened configurations active)
  step := step

/-! Stretches of a run in which nothing goes wrong, to build concrete runs from. -/
namespace Sample

def device : OpenedDevice := .opened [⟨1, [⟨0, 0, [⟨0x81, .bulk, 64⟩]⟩]⟩] 1

theorem init_device : session.init (.initial device) := ⟨_, _, rfl⟩

def submit (seqnum ep : UInt32) : Submit where
  basic := ⟨usbipCmdSubmit, seqnum, 0x10001, usbipDirIn, ep⟩
  cmd := ⟨0, 8, 0, -1, 0, List.Vector.replicate 8 0⟩
  outPayload := []

def spawn (m : Submit) : List Action := [.loop (.recv (.submit m)), .loop .go]

def accept (m : Submit) : List Action := spawn m ++ [.loop .go]

def handOff (t : Nat) : List Action := [.task t .poll, .task t .handOff, .task t .suspend]

/-- The closure of a first transfer on `0x81`, up to the endpoint mutex. -/
def openEndpoint (t : Nat) : List Action :=
  [.start, .call .go, .call (.walk [0]), .call .go, .call .go, .call .ok, .call .ok, .call .go,
    .call (.opened 64), .call .ok, .call .go].map (.closure t)

def startTransfer (t : Nat) : List Action :=
  [.closure t (.call .go), .closure t (.call .go)]

def controlTransfer (t : Nat) : List Action :=
  [.start, .call .go, .call (.answered (.error .stall)), .finish].map (.closure t)

def buildReply (t : Nat) : List Action := [.task t .poll, .task t .join, .task t .check]

def writeReply (t : Nat) : List Action :=
  [.task t .lockWriter, .task t (.write 48), .task t .finishWrite]

/-- A `CMD_UNLINK` of URB 7 whose target has no endpoint to cancel, up to its reply. -/
def unlink : List Action := .loop (.recv (.unlink ⟨8, 7⟩)) :: List.replicate 5 (.loop .go)

def writeUnlink : List Action := [.loop .go, .loop (.write 48), .loop .go]

end Sample

end Usbip.Session
