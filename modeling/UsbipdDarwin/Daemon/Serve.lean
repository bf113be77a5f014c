import UsbipdDarwin.Proto.Op
import UsbipdDarwin.Host.Listing
import UsbipdDarwin.Session.Requests
import UsbipdDarwin.Daemon.Ownership

/-! `serve` from the first connection to the end of its shutdown sweep: the daemon's
own steps, and beside them what each connection is told, which device is opened for
it and what becomes of that device on the bus. What an enumeration shows is up to
the environment, so every sequence of plug and unplug events is a run. -/

namespace Usbip.Serve
open Proto Host Daemon Lts

inductive OpRequest
  | devlist
  | attach (busid : String)
  | closed
  deriving DecidableEq, Repr

/-- The reading half of `handle_session` and `handle_import`. A request that is cut
off, of another version or of an unknown code closes the connection without a reply. -/
def handleSession (bytes : Bytes) : OpRequest :=
  match Session.readExact OpHeader.size bytes with
  | none => .closed
  | some (headerBuf, rest) =>
    match OpHeader.decode headerBuf with
    | .error _ => .closed
    | .ok header =>
      if header.version ≠ usbipVersion then .closed
      else if header.code = opReqDevlist then .devlist
      else if header.code = opReqImport then
        match Session.readExact 32 rest with
        | none => .closed
        | some (busidBuf, _) =>
          match decodeReqImportBusid busidBuf with
          | .error _ => .closed
          | .ok busid => .attach busid
      else .closed

def toExported (d : UsbDevice) : ExportedDevice where
  path := "/usbipd-darwin/" ++ d.busid
  busid := d.busid
  busnum := d.busnum
  devnum := d.devnum
  speed := d.speed
  idVendor := d.vendorId
  idProduct := d.productId
  bcdDevice := d.bcdDevice
  bDeviceClass := d.cls
  bDeviceSubclass := d.subclass
  bDeviceProtocol := d.protocol
  bConfigurationValue := d.configurationValue
  bNumConfigurations := d.numConfigurations
  interfaces := d.interfaces.map fun i => ⟨i.cls, i.subclass, i.protocol⟩

def encodeRepDevlist (devices : List UsbDevice) : Bytes :=
  let exported := devices.filter (·.cls != 0x09)
  (OpHeader.new opRepDevlist).encode ++ u32ToBeBytes (u32OfUsize exported.length) ++
    exported.flatMap fun d => (toExported d).encode

def permitsDevice (policy : AccessPolicy) (d : UsbDevice) : Bool :=
  policy.permits d.vendorId d.productId

def filterDevices (policy : AccessPolicy) (devices : List UsbDevice) : List UsbDevice :=
  devices.filter (permitsDevice policy)

/-- What `handle_devlist` writes; a list that could not be read is an error. -/
def devlistReply (policy : AccessPolicy) (listed : Option (List Listed)) : Bytes :=
  (listed.map fun devices => encodeRepDevlist (filterDevices policy (devices.map (·.desc)))).getD []

/-- The record `handle_import` announces: the enumerated one with the numbers and the
configuration of the opened device. -/
def importRecord (desc snap : UsbDevice) : UsbDevice :=
  { desc with
    busid := snap.busid
    busnum := snap.busnum
    devnum := snap.devnum
    configurationValue := snap.configurationValue
    numConfigurations := snap.numConfigurations
    interfaces := if snap.interfaces.isEmpty then desc.interfaces else snap.interfaces }

/-- What the environment answers during one `OpenedDevice::open`, and what the
opened device then says of itself. -/
structure Opening where
  answers : OpenAnswers
  classOf : InterfaceDescriptor → UsbInterface

structure Import where
  devlist : Bool := false
  desc : Option UsbDevice := none
  opened : Option DeviceInfo := none
  snap : Option UsbDevice := none
  announced : Option ExportedDevice := none
  sent : Bytes := []

inductive Phase
  | accepting
  | sweeping (busids : List String)
  deriving DecidableEq, Repr

/-- One call of `open`, with the device it has re-enumerated and whether it
succeeded; one `reenumerate_release`, by the `Drop` of a connection's device or by
the sweep. -/
inductive Event
  | open (i : Nat) (captured : Option DeviceInfo) (ok : Bool)
  | released (origin : Option Nat) (info : DeviceInfo)
  deriving DecidableEq, Repr

structure State where
  daemon : Daemon.State
  root : Bool
  imports : List Import
  phase : Phase
  log : List Event

inductive Action
  | connect (peer : String)
  | request (i : Nat) (bytes : Bytes)
  | devlist (i : Nat) (listed : Option (List Listed))
  | lookup (i : Nat) (listed : Option (List Listed))
  | tryAttach (i : Nat)
  | openDevice (i : Nat) (o : Opening)
  | openPanic (i : Nat)
  | refuse (i : Nat)
  | reply (i : Nat) (ok : Bool)
  | session (i : Nat) (a : Session.Action)
  | leave (i : Nat)
  | dropGuard (i : Nat)
  | dropDevice (i : Nat) (listed : Option (List DeviceInfo))
  | shutdown (busids : List String)
  | sweep (listed : Option (List DeviceInfo))

def Action.daemon : Action → Option Daemon.Action
  | .connect peer => some (.connect peer)
  | .request i bytes =>
    match handleSession bytes with
    | .devlist => none
    | .attach busid => some (.client i (.request busid))
    | .closed => some (.client i .close)
  | .devlist i _ => some (.client i .close)
  | .lookup i listed => some (.client i (.lookup (listed.map (·.map (·.info)))))
  | .tryAttach i => some (.tryAttach i)
  | .openDevice i o => some (.client i (.openDevice o.answers))
  | .openPanic i => some (.client i .openPanic)
  | .refuse i => some (.client i .refuse)
  | .reply i ok => some (.client i (.reply ok))
  | .session i a => some (.client i (.session a))
  | .leave i => some (.client i .leave)
  | .dropGuard i => some (.dropGuard i)
  | .dropDevice i listed => some (.dropDevice i listed)
  | .shutdown _ | .sweep _ => none

namespace State

def new (policy : AccessPolicy) (root : Bool) : State := ⟨.new policy, root, [], .accepting, []⟩

def client (s : State) (i : Nat) : Option Client := s.daemon.clients[i]?

def busidOf (s : State) (i : Nat) : String := ((s.client i).map (·.busid)).getD ""

def awaitsRequest (s : State) (i : Nat) : Bool :=
  (s.client i).any (·.pc == .connected) && s.imports[i]?.any (!·.devlist)

def enabled (s : State) : Action → Bool
  | .connect _ => s.phase == .accepting
  | .request i _ => s.awaitsRequest i
  | .devlist i _ => s.imports[i]?.any (·.devlist)
  | .openDevice _ o => o.answers.isRoot == s.root
  -- the sweep goes over the map in whatever order it has its keys
  | .shutdown busids => s.phase == .accepting && decide (busids.Perm s.daemon.attached.keys)
  | .sweep _ => s.phase != .accepting && s.phase != .sweeping []
  | _ => true

def found (s : State) (i : Nat) (listed : Option (List Listed)) : Option Listed :=
  listed.bind (·.find? (·.info.busid == s.busidOf i))

def opened (s : State) (i : Nat) (o : Opening) : Option DeviceInfo :=
  if (openDevice (s.busidOf i) o.answers).isOk then
    (openTarget (s.busidOf i) o.answers).toOption.map (·.1)
  else none

/-- The opened device has the devid of the port it is plugged into. -/
def snapshot (s : State) (i : Nat) (o : Opening) : Option UsbDevice :=
  (s.opened i o).bind fun info => (openDevice (s.busidOf i) o.answers).toOption.map fun r =>
    descriptorSnapshot (s.busidOf i) (devidOf (deriveBusDev info.port)) o.classOf r.1

end State

def Import.record (m : Import) : Option ExportedDevice :=
  m.desc.bind fun desc => m.snap.map fun snap => toExported (importRecord desc snap)

/-- What an action of connection `i` makes of the connection's record. -/
def importAfter (s : State) (i : Nat) (m : Import) : Action → Import
  | .request _ bytes => if handleSession bytes = .devlist then { m with devlist := true } else m
  | .devlist _ listed => { m with sent := m.sent ++ devlistReply s.daemon.policy listed }
  | .lookup _ listed => { m with desc := (s.found i listed).map (·.desc) }
  | .openDevice _ o => { m with opened := s.opened i o, snap := s.snapshot i o }
  | .refuse _ => { m with sent := m.sent ++ encodeRepImportErr }
  | .reply _ true =>
    { m with announced := m.record, sent := m.sent ++ (m.record.map encodeRepImportOk).getD [] }
  | _ => m

def Action.target : Action → Option Nat
  | .connect _ | .shutdown _ | .sweep _ => none
  | .request i _ | .devlist i _ | .lookup i _ | .tryAttach i | .openDevice i _ | .openPanic i
  | .refuse i | .reply i _ | .session i _ | .leave i | .dropGuard i | .dropDevice i _ => some i

def importsAfter (s : State) (a : Action) : List Import :=
  match a with
  | .connect _ => s.imports ++ [{}]
  | _ =>
    match a.target with
    | some i => s.imports.modify i fun m => importAfter s i m a
    | none => s.imports

def phaseAfter (s : State) : Action → Phase
  | .shutdown busids => .sweeping busids
  | .sweep _ =>
    match s.phase with
    | .sweeping (_ :: busids) => .sweeping busids
    | phase => phase
  | _ => s.phase

/-- The device that the `Drop` of connection `i` re-enumerates for release. -/
def dropReleases (s : State) (i : Nat) (listed : Option (List DeviceInfo)) : Option DeviceInfo :=
  match (s.client i).map Client.device with
  | some (.dropping capture _) => capture.releaseInfo listed
  | _ => none

def sweepReleases (s : State) (listed : Option (List DeviceInfo)) : Option DeviceInfo :=
  match s.phase with
  | .sweeping (busid :: _) => releaseCapture busid s.root listed
  | _ => none

def events (s : State) : Action → List Event
  | .openDevice i o =>
    [.open i (reenumerated (s.busidOf i) o.answers) (openDevice (s.busidOf i) o.answers).isOk]
  | .dropDevice i listed => ((dropReleases s i listed).map (Event.released (some i))).toList
  | .sweep listed => ((sweepReleases s listed).map (Event.released none)).toList
  | _ => []

def daemonAfter (s : State) (a : Action) : Option Daemon.State :=
  match a.daemon with
  | some b => Daemon.step s.daemon b
  | none => some s.daemon

def step (s : State) (a : Action) : Option State :=
  if s.enabled a then
    (daemonAfter s a).map fun d =>
      ⟨d, s.root, importsAfter s a, phaseAfter s a, events s a ++ s.log⟩
  else none

def serve : System State Action where
  init s := ∃ policy root, s = .new policy root
  step := step

theorem init_serve (policy : AccessPolicy) (root : Bool) : serve.init (.new policy root) :=
  ⟨policy, root, rfl⟩

structure Stepped (s : State) (a : Action) (s' : State) : Prop where
  enabled : s.enabled a = true
  daemon : daemonAfter s a = some s'.daemon
  root : s'.root = s.root
  imports : s'.imports = importsAfter s a
  phase : s'.phase = phaseAfter s a
  log : s'.log = events s a ++ s.log

variable {s s' : State} {a : Action}

theorem stepped (h : step s a = some s') : Stepped s a s' := by
  unfold step at h
  split_ifs at h with hen
  obtain ⟨d, hd, rfl⟩ := Option.map_eq_some_iff.mp h
  exact ⟨hen, hd, rfl, rfl, rfl, rfl⟩

/-- A condition on the daemon's own steps, read as one on the steps of `serve`. -/
def OnDaemon (C : Daemon.State → Daemon.Action → Prop) (s : State) (a : Action) : Prop :=
  ∀ b ∈ a.daemon, C s.daemon b

theorem daemon_reachable {C : State → Action → Prop} {D : Daemon.State → Daemon.Action → Prop}
    (hC : ∀ s a, C s a → OnDaemon D s a) (h : serve.ReachableBy C s) :
    daemon.ReachableBy D s.daemon := by
  refine h.invariant (I := fun s => daemon.ReachableBy D s.daemon) ?_ ?_
  · rintro s ⟨policy, root, rfl⟩
    exact .start (init_new policy)
  · intro s a s' _ hi hc hs
    have hd := (stepped hs).daemon
    rw [daemonAfter] at hd
    split at hd
    · rename_i b hb
      exact .step hi (hC s a hc b hb) hd
    · rw [← Option.some.inj hd]
      exact hi

theorem Stepped.move (h : Stepped s a s') : (a.daemon = none ∧ s'.daemon = s.daemon) ∨
    ∃ b, a.daemon = some b ∧ Daemon.Move s.daemon b s'.daemon := by
  have hd := h.daemon
  rw [daemonAfter] at hd
  split at hd
  · exact .inr ⟨_, ‹_›, step_move hd⟩
  · exact .inl ⟨‹_›, (Option.some.inj hd).symm⟩

theorem Stepped.policy (h : Stepped s a s') : s'.daemon.policy = s.daemon.policy := by
  rcases h.move with ⟨-, hd⟩ | ⟨b, -, hm⟩
  · rw [hd]
  · revert hm
    generalize s'.daemon = d
    intro hm
    cases hm <;> rfl

theorem target_of_daemon {b : Daemon.Action} (h : a.daemon = some b) : b.target = a.target := by
  cases a with
  | request i bytes =>
    simp only [Action.daemon] at h
    split at h <;> cases h <;> rfl
  | _ => cases h <;> rfl

theorem eq_connect_of_daemon {peer : String} (h : a.daemon = some (.connect peer)) :
    a = .connect peer := by
  cases a with
  | request i bytes =>
    simp only [Action.daemon] at h
    split at h <;> cases h
  | _ => cases h <;> rfl

def Action.Moves (policy : AccessPolicy) (a : Action) (c c' : Client) : Prop :=
  (a.daemon = none ∧ c' = c) ∨ ∃ b, a.daemon = some b ∧ c.MovedBy policy b c'

inductive ConnMoved (s : State) (a : Action) (i : Nat) (m' : Import) (c' : Client) : Prop
  | same (hm : s.imports[i]? = some m') (hc : s.client i = some c')
  | moved {m : Import} {c : Client} (ha : a.target = some i) (hm : s.imports[i]? = some m)
      (hc : s.client i = some c) (hm' : m' = importAfter s i m a)
      (hc' : a.Moves s.daemon.policy c c')
  | fresh {peer : String} (ha : a = .connect peer) (hm : m' = {}) (hc : c' = { peer := peer })

theorem step_of_moved {i : Nat} {b : ClientAction} {policy : AccessPolicy}
    {c c' : Client} (hb : a.daemon = some (.client i b))
    (hmoved : a.Moves policy c c') : c.step policy b = some c' := by
  rcases hmoved with ⟨hnone, -⟩ | ⟨b', hb', hmoved⟩
  · rw [hb] at hnone
    cases hnone
  · rw [hb] at hb'
    cases hb'
    cases hmoved with
    | own hs => exact hs

theorem busidOf_eq {i : Nat} {c : Client} (hc : s.client i = some c) : s.busidOf i = c.busid := by
  rw [State.busidOf, hc]
  rfl

theorem importsAfter_of_ne (ha : ∀ peer, a ≠ .connect peer) :
    importsAfter s a = match a.target with
      | some i => s.imports.modify i fun m => importAfter s i m a
      | none => s.imports := by
  cases a with
  | connect peer => exact absurd rfl (ha peer)
  | _ => rfl

theorem Stepped.import (h : Stepped s a s') (ha : ∀ peer, a ≠ .connect peer) {i : Nat}
    {m' : Import} (hm' : s'.imports[i]? = some m') : ∃ m, s.imports[i]? = some m ∧
      m' = if a.target = some i then importAfter s i m a else m := by
  rw [h.imports, importsAfter_of_ne ha] at hm'
  split at hm'
  · rename_i j hj
    rw [List.getElem?_modify] at hm'
    obtain ⟨m, hm, rfl⟩ := Option.map_eq_some_iff.mp hm'
    refine ⟨m, hm, ?_⟩
    rw [hj]
    by_cases hij : j = i
    · simp [hij]
    · simp [hij]
  · rename_i hnone
    exact ⟨m', hm', by simp [hnone]⟩

theorem Stepped.client (h : Stepped s a s') (ha : ∀ peer, a ≠ .connect peer) {i : Nat}
    {c' : Client} (hc' : s'.client i = some c') : ∃ c, s.client i = some c ∧
      if a.target = some i then a.Moves s.daemon.policy c c' else c' = c := by
  rcases h.move with ⟨hb, hd⟩ | ⟨b, hb, hmove⟩
  · rw [State.client, hd] at hc'
    refine ⟨c', hc', ?_⟩
    split_ifs
    · exact .inl ⟨hb, rfl⟩
    · rfl
  · rcases hmove.client_some hc' with ⟨c, hc, hmoved⟩ | ⟨peer, rfl, -⟩
    · refine ⟨c, hc, ?_⟩
      rw [target_of_daemon hb] at hmoved
      split_ifs at hmoved ⊢
      · exact .inr ⟨b, hb, hmoved⟩
      · exact hmoved
    · exact absurd (eq_connect_of_daemon hb) (ha peer)

theorem Stepped.connect {peer : String} (h : Stepped s (.connect peer) s') :
    s'.daemon.clients = s.daemon.clients ++ [{ peer := peer }] :=
  (congrArg State.clients (Option.some.inj h.daemon)).symm

theorem Stepped.conn (h : Stepped s a s') (hlen : s.imports.length = s.daemon.clients.length)
    {i : Nat} {m' : Import} {c' : Client} (hm' : s'.imports[i]? = some m')
    (hc' : s'.client i = some c') : ConnMoved s a i m' c' := by
  by_cases hconnect : ∃ peer, a = .connect peer
  · obtain ⟨peer, rfl⟩ := hconnect
    have hmNew : (s.imports ++ [({} : Import)])[i]? = some m' := by rwa [h.imports] at hm'
    rw [State.client, h.connect] at hc'
    rcases getElem?_append_some hmNew with hm | ⟨hi, hm⟩ <;>
      rcases getElem?_append_some hc' with hc | ⟨hi', hc⟩
    · exact .same hm hc
    · have hlt := lt_length_of_getElem? hm
      omega
    · have hlt := lt_length_of_getElem? hc
      omega
    · exact .fresh rfl hm hc
  · have ha : ∀ peer, a ≠ .connect peer := fun peer he => hconnect ⟨peer, he⟩
    obtain ⟨m, hm, rfl⟩ := h.import ha hm'
    obtain ⟨c, hc, hmoved⟩ := h.client ha hc'
    split_ifs at hmoved ⊢ with htarget
    · exact .moved htarget hm hc rfl hmoved
    · rw [hmoved]
      exact .same hm hc

theorem lengths {C : State → Action → Prop} (h : serve.ReachableBy C s) :
    s.imports.length = s.daemon.clients.length := by
  refine h.invariant (I := fun s => s.imports.length = s.daemon.clients.length) ?_ ?_
  · rintro s ⟨policy, root, rfl⟩
    rfl
  · intro s a s' _ hi _ hs
    have hst := stepped hs
    by_cases hconnect : ∃ peer, a = .connect peer
    · obtain ⟨peer, rfl⟩ := hconnect
      rw [hst.imports, hst.connect, importsAfter, List.length_append, List.length_append, hi]
      rfl
    · have ha : ∀ peer, a ≠ .connect peer := fun peer he => hconnect ⟨peer, he⟩
      have himports : s'.imports.length = s.imports.length := by
        rw [hst.imports, importsAfter_of_ne ha]
        split
        · exact List.length_modify ..
        · rfl
      have hclients : s'.daemon.clients.length = s.daemon.clients.length := by
        rcases hst.move with ⟨-, hd⟩ | ⟨b, hb, hmove⟩
        · rw [hd]
        · refine hmove.length_clients fun peer he => ha peer ?_
          exact eq_connect_of_daemon (he ▸ hb)
      rw [himports, hclients, hi]

theorem conns_invariant {C : State → Action → Prop} {P : AccessPolicy → Import → Client → Prop}
    (h : serve.ReachableBy C s)
    (hfresh : ∀ policy peer, P policy {} { peer := peer })
    (hstep : ∀ s a s' i m c c', serve.ReachableBy C s → C s a → Stepped s a s' →
      a.target = some i → s.imports[i]? = some m → s.client i = some c →
      a.Moves s.daemon.policy c c' → P s.daemon.policy m c →
      P s.daemon.policy (importAfter s i m a) c')
    {i : Nat} {m : Import} {c : Client} (hm : s.imports[i]? = some m) (hc : s.client i = some c) :
    P s.daemon.policy m c := by
  refine h.invariant (I := fun s => ∀ i m c, s.imports[i]? = some m → s.client i = some c →
    P s.daemon.policy m c) ?_ ?_ i m c hm hc
  · rintro s ⟨policy, root, rfl⟩ i m c hm
    cases hm
  · intro s a s' hr hi hcond hs i m' c' hm' hc'
    have hst := stepped hs
    rw [hst.policy]
    cases hst.conn (lengths hr) hm' hc' with
    | same hm hc => exact hi i m' c' hm hc
    | moved ha hm hc hrecord hmoved =>
      rw [hrecord]
      exact hstep s a s' i _ _ c' hr hcond hst ha hm hc hmoved (hi i _ _ hm hc)
    | fresh ha hm hc =>
      rw [hm, hc]
      exact hfresh _ _

/-! Stretches of a run with one client, to build concrete runs from. -/
namespace Sample

def listed (info : DeviceInfo) : Listed where
  info := info
  desc := ⟨info.busid, 1, 1, 3, info.vendorId, info.productId, 0x0100, 0, 0, 0, 1, 1, [⟨8, 6, 80⟩]⟩
  busid_eq := rfl
  vendorId_eq := rfl
  productId_eq := rfl

def opening (answers : OpenAnswers) : Opening := ⟨answers, fun _ => ⟨8, 6, 80⟩⟩

def importBytes (busid : String) : Bytes :=
  (OpHeader.new opReqImport).encode ++ writeFixedStr busid 32

def attach (i : Nat) (info : DeviceInfo) : List Action :=
  [.connect "tcp:127.0.0.1:50000", .request i (importBytes info.busid),
    .lookup i (some [listed info]), .tryAttach i]

def openAndReply (i : Nat) (answers : OpenAnswers) : List Action :=
  [.openDevice i (opening answers), .reply i true]

end Sample

end Usbip.Serve
