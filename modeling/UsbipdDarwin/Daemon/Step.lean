import Mathlib.Data.Finset.Defs
import UsbipdDarwin.Host.Capture
import UsbipdDarwin.Session.Replies

/-! The daemon: the registry of attached devices and one `handle_import` for each
connection, up to the end of its scope. A connection keeps its session's state, and
the `OpenedDevice` lives as long as someone has a clone of its `Arc`: the URB loop,
a task that has not handed its closure off, a closure that has not returned. -/

namespace Usbip.Session

def LoopPc.returned : LoopPc → Bool
  | .ended | .panicked => true
  | _ => false

def Urb.ownsDevice (u : Urb) : Bool :=
  u.outstanding || match u.task with
    | .spawned => true
    | _ => false

def Action.isLoop : Action → Bool
  | .loop _ => true
  | _ => false

end Usbip.Session

namespace Usbip.Daemon
open Host Lts

inductive AccessPolicy
  | denyAll
  | allowAll
  | allowList (set : Finset (UInt16 × UInt16))

def AccessPolicy.permits (vendorId productId : UInt16) : AccessPolicy → Bool
  | .denyAll => false
  | .allowAll => true
  | .allowList set => (vendorId, productId) ∈ set

/-- Where `handle_import` is. From `opening` to `unwinding` it has the `AttachGuard`. -/
inductive ImportPc
  | connected
  | requested
  | permitted
  | refused
  | opening
  | openFailed
  | replying
  | serving
  | unwinding
  | ended
  deriving DecidableEq, Repr

def ImportPc.guarded : ImportPc → Bool
  | .opening | .openFailed | .replying | .serving | .unwinding => true
  | _ => false

/-- `handle_import`, or `urb_loop` for it, has a clone of the `Arc`. -/
def ImportPc.ownsDevice : ImportPc → Bool
  | .replying | .serving => true
  | _ => false

/-- The life of a connection's `OpenedDevice`. Its `Drop` runs in the thread that
gives up the last clone; `byImport` tells that this is `handle_import` itself. -/
inductive DeviceLife
  | unopened
  | live (c : Capture)
  | dropping (c : Capture) (byImport : Bool)
  | gone
  deriving DecidableEq, Repr

def DeviceLife.alive : DeviceLife → Bool
  | .live _ | .dropping .. => true
  | _ => false

def DeviceLife.isDropping : DeviceLife → Bool
  | .dropping .. => true
  | _ => false

/-- An accepted connection; `busid` is empty until the request is read. -/
structure Client where
  peer : String
  busid : String := ""
  pc : ImportPc := .connected
  session : Option Session.State := none
  device : DeviceLife := .unopened

inductive ClientAction
  | close
  | request (busid : String)
  | lookup (listed : Option (List DeviceInfo))
  | openDevice (answers : OpenAnswers)
  | openPanic
  | refuse
  | reply (ok : Bool)
  | session (a : Session.Action)
  | leave

namespace Client

def urbsOwnDevice (c : Client) : Bool :=
  (c.session.map fun s => s.urbs.any Session.Urb.ownsDevice).getD false

/-- The last clone is gone: the thread that gave it up goes into `Drop`. -/
def settle (byImport : Bool) (c : Client) : Client :=
  match c.device with
  | .live capture =>
    if c.pc.ownsDevice || c.urbsOwnDevice then c
    else { c with device := .dropping capture byImport }
  | _ => c

/-- The look-up of the busid and the policy check of `handle_import`. -/
def decision (policy : AccessPolicy) (busid : String) (devices : List DeviceInfo) : ImportPc :=
  match devices.find? (·.busid == busid) with
  | none => .refused
  | some d => if policy.permits d.vendorId d.productId then .permitted else .refused

def step (policy : AccessPolicy) (c : Client) : ClientAction → Option Client
  | .close =>
    match c.pc with
    | .connected => some { c with pc := .ended }
    | _ => none
  | .request busid =>
    match c.pc with
    | .connected => some { c with pc := .requested, busid := busid }
    | _ => none
  | .lookup listed =>
    match c.pc, listed with
    | .requested, none => some { c with pc := .ended }
    | .requested, some devices => some { c with pc := decision policy c.busid devices }
    | _, _ => none
  | .openDevice answers =>
    match c.pc, openDevice c.busid answers with
    | .opening, .ok (device, capture) =>
      some { c with pc := .replying, session := some (.initial device), device := .live capture }
    | .opening, .error _ => some { c with pc := .openFailed }
    | _, _ => none
  | .openPanic =>
    match c.pc with
    | .opening => some { c with pc := .unwinding }
    | _ => none
  | .refuse =>
    match c.pc with
    | .refused => some { c with pc := .ended }
    | .openFailed => some { c with pc := .unwinding }
    | _ => none
  | .reply ok =>
    match c.pc with
    | .replying =>
      if ok then some { c with pc := .serving } else some ({ c with pc := .unwinding }.settle true)
    | _ => none
  | .session a =>
    if a.isLoop && c.pc != .serving then none
    else
      (c.session.bind fun s => Session.step s a).map fun s =>
        { c with session := some s }.settle false
  | .leave =>
    match c.pc, c.session with
    | .serving, some s =>
      if s.loop.returned then some ({ c with pc := .unwinding }.settle true) else none
    | _, _ => none

end Client

inductive Event
  | granted (i : Nat) (busid : String)
  | detached (i : Nat) (busid : String)
  | released (i : Nat) (busid : String) (target : UInt64)
  deriving DecidableEq, Repr

/-- `DaemonState` and the connections over it. `log` is the history, latest event
first; no step reads it. -/
structure State where
  policy : AccessPolicy
  attached : HashMap String String
  clients : List Client
  log : List Event

inductive Action
  | connect (peer : String)
  | client (i : Nat) (a : ClientAction)
  | tryAttach (i : Nat)
  | dropGuard (i : Nat)
  | dropDevice (i : Nat) (listed : Option (List DeviceInfo))

namespace State

def new (policy : AccessPolicy) : State := ⟨policy, ∅, [], []⟩

@[simp] def setClient (s : State) (i : Nat) (c : Client) : State :=
  { s with clients := s.clients.set i c }

def tryAttach (s : State) (i : Nat) (c : Client) : Option State :=
  match c.pc with
  | .permitted =>
    if c.busid ∈ s.attached then some (s.setClient i { c with pc := .refused })
    else
      some { s.setClient i { c with pc := .opening } with
        attached := s.attached.insert c.busid c.peer
        log := .granted i c.busid :: s.log }
  | _ => none

/-- `AttachGuard::drop`, at the end of `handle_import`'s scope: a `Drop` of the
device that runs in this thread comes first. -/
def dropGuard (s : State) (i : Nat) (c : Client) : Option State :=
  match c.pc, c.device with
  | .unwinding, .dropping _ true => none
  | .unwinding, _ =>
    some { s.setClient i { c with pc := .ended } with
      attached := s.attached.erase c.busid
      log := .detached i c.busid :: s.log }
  | _, _ => none

def dropDevice (s : State) (i : Nat) (c : Client) (listed : Option (List DeviceInfo)) :
    Option State :=
  match c.device with
  | .dropping capture _ =>
    some { s.setClient i { c with device := .gone } with
      log := ((capture.releaseTarget listed).map (Event.released i c.busid)).toList ++ s.log }
  | _ => none

end State

def step (s : State) : Action → Option State
  | .connect peer => some { s with clients := s.clients ++ [{ peer := peer }] }
  | .client i a => s.clients[i]?.bind fun c => (c.step s.policy a).map (s.setClient i)
  | .tryAttach i => s.clients[i]?.bind fun c => s.tryAttach i c
  | .dropGuard i => s.clients[i]?.bind fun c => s.dropGuard i c
  | .dropDevice i listed => s.clients[i]?.bind fun c => s.dropDevice i c listed

def daemon : System State Action where
  init s := ∃ policy, s = .new policy
  step := step

theorem init_new (policy : AccessPolicy) : daemon.init (.new policy) := ⟨policy, rfl⟩

/-! Stretches of a run with one device, to build concrete runs from. -/
namespace Sample

def info : DeviceInfo :=
  ⟨"1-1", 0x0781, 0x5581, 0x01100000, 42, ⟨"1", [1], 4⟩, rfl⟩

def answers : OpenAnswers where
  listed := some [info]
  isRoot := true
  captures := true
  polls := [some [info]]
  opens := some ([⟨1, [⟨0, 0, [⟨0x81, .bulk, 64⟩]⟩]⟩], 1)

def attach (i : Nat) : List Action :=
  [.client i (.request info.busid), .client i (.lookup (some [info])), .tryAttach i]

def serve (i : Nat) : List Action :=
  [.client i (.openDevice answers), .client i (.reply true)]

def session (i : Nat) (as : List Session.Action) : List Action :=
  as.map fun a => .client i (.session a)

/-- A control transfer on seqnum 7 that is left in the blocking pool. -/
def submit (i : Nat) : List Action :=
  session i (Session.Sample.accept (Session.Sample.submit 7 0) ++ Session.Sample.handOff 0)

/-- The client hangs up while these are in flight, and `urb_loop` returns. -/
def hangUp (i : Nat) (pending : List Session.Inflight) : List Action :=
  session i ([.loop .hangUp, .loop (.drain pending)] ++
    List.replicate (2 * pending.length) (.loop .go)) ++ [.client i .leave]

end Sample

end Usbip.Daemon
