import UsbipdDarwin.Host.Move
import UsbipdDarwin.Host.Settled
import UsbipdDarwin.Lts.Reachable

/-! The endpoint cache under calls that do not overlap. `ensure_endpoint` answers from
the cache without a look at what `endpoint_kind` has just found, so a cached endpoint
has to be what the descriptors and the selected alternate settings still say. -/

namespace Usbip.Host
open Proto Lts

/-- What `endpoint_kind` answered in the running call, and what `nusb` opened each
endpoint as. The code keeps neither. -/
structure Provenance where
  resolved : Option Binding := none
  bindings : List Binding := []

namespace Provenance

def note (g : Provenance) (d : OpenedDevice) : Call → CallPc → CallAction → Provenance
  | .data epAddr _ _, .altMap cfg, .walk order =>
    match endpointKind cfg d.altSettings epAddr order with
    | .ok (num, kind) =>
      { g with resolved := some ⟨epAddr, kind, num, (d.altSettings.lookup num).getD 0,
          cfg.configurationValue⟩ }
    | .error _ => g
  | .data epAddr _ _, .openEp h _ kind, .opened _ =>
    match d.handles[h]? with
    | some iface =>
      { g with bindings := g.bindings ++ [⟨epAddr, kind, iface.num, iface.alt,
          d.activeConfigurationValue⟩] }
    | none => g
  | _, _, _ => g

end Provenance

structure Calls where
  device : OpenedDevice
  current : Option (Call × CallPc)
  provenance : Provenance

namespace Calls

inductive Action
  | start (call : Call)
  | advance (a : CallAction)

def idle (s : Calls) : Bool :=
  match s.current with
  | none => true
  | some (_, .done _) => true
  | some (_, .panicked) => true
  | some _ => false

def step (s : Calls) : Action → Option Calls
  | .start call =>
    if s.idle then
      some { s with
        current := some (call, call.start), provenance := { s.provenance with resolved := none } }
    else none
  | .advance a =>
    match s.current with
    | none => none
    | some (call, pc) =>
      (s.device.callStep 0 call pc a).map fun r =>
        { device := r.device
          current := some (call, r.pc)
          provenance := s.provenance.note s.device call pc a }

def opened (configurations : List Configuration) (active : UInt8) : Calls where
  device := .opened configurations active
  current := none
  provenance := {}

def system (configurations : List Configuration) (active : UInt8) : System Calls Action where
  init := fun s => s = opened configurations active
  step := step

end Calls

def Found (d : OpenedDevice) (g : Provenance) (epAddr num : UInt8) (kind : EpKind) : Prop :=
  g.resolved = some (d.fresh epAddr num kind) ∧ d.Resolves epAddr num kind

def IfaceOk (d : OpenedDevice) (P : UInt8 → IfaceUse → Prop) : CallPc → Prop
  | .ifaceLookup num use => P num use
  | .claim num use => P num use ∧ d.interfaces.lookup num = none
  | .selectAlt h num use =>
    P num use ∧ d.interfaces.lookup num = none ∧ d.handles[h]? = some ⟨num, 0⟩
  | .ifaceInsert h num use =>
    P num use ∧ d.interfaces.lookup num = none ∧ d.handles[h]? = some ⟨num, 0⟩
  | _ => False

def DataUse (d : OpenedDevice) (g : Provenance) (epAddr num : UInt8) : IfaceUse → Prop
  | .ensureEndpoint kind => Found d g epAddr num kind
  | .setInterface => False

def DataOk (d : OpenedDevice) (g : Provenance) (epAddr : UInt8) : CallPc → Prop
  | .activeConfiguration => True
  | .altMap cfg => d.activeConfiguration = some cfg
  | .epLookup num kind => Found d g epAddr num kind
  | .openEp h num kind => Found d g epAddr num kind ∧ d.interfaces.lookup num = some h
  | .clearHalt e num | .epInsert e num =>
    ∃ kind, Found d g epAddr num kind ∧ d.Bound g.bindings epAddr num kind e
  | .epWait e | .epLocked e | .transferring e _ | .transferred e _ =>
    ∃ num kind, Found d g epAddr num kind ∧ d.Bound g.bindings epAddr num kind e
  | .done _ | .panicked => True
  | pc => IfaceOk d (DataUse d g epAddr) pc

def ControlUse (d : OpenedDevice) (setup : SetupPacket) (num : UInt8) : IfaceUse → Prop
  | .setInterface => num = (setup.wIndex &&& 0xFF).toUInt8 ∧ d.NoneOf num
  | .ensureEndpoint _ => False

def ControlOk (d : OpenedDevice) (setup : SetupPacket) : CallPc → Prop
  | .clearInterfaces | .clearAlts | .setConfig | .settingConfig => d.endpoints = ∅
  | .setAlt h | .settingAlt h =>
    d.NoneOf (setup.wIndex &&& 0xFF).toUInt8 ∧
      d.interfaces.lookup (setup.wIndex &&& 0xFF).toUInt8 = some h
  | .clearEndpoints | .invalidate | .recordAlt | .control | .controlling => True
  | .done _ | .panicked => True
  | pc => IfaceOk d (ControlUse d setup) pc

def OpenedDevice.caughtUp (d : OpenedDevice) : Call → CallPc → OpenedDevice
  | .control _ _, .clearAlts => { d with altSettings := ∅ }
  | .control setup _, .recordAlt =>
    let num := (setup.wIndex &&& 0xFF).toUInt8
    let alt := (setup.wValue &&& 0xFF).toUInt8
    { d with altSettings := d.altSettings.insert num alt }
  | _, _ => d

namespace OpenedDevice

variable {d : OpenedDevice} {call : Call} {pc : CallPc}

theorem caughtUp_eq (hclear : pc ≠ .clearAlts) (hrecord : pc ≠ .recordAlt) :
    d.caughtUp call pc = d := by
  unfold caughtUp
  split
  · exact absurd rfl hclear
  · exact absurd rfl hrecord
  · rfl

theorem caughtUp_interfaces : (d.caughtUp call pc).interfaces = d.interfaces := by
  unfold caughtUp
  split <;> rfl

theorem lookup_of_caughtUp {num : UInt8} (hclear : pc ≠ .clearAlts)
    (h : (d.caughtUp call pc).altSettings.lookup num = none) :
    d.altSettings.lookup num = none := by
  unfold caughtUp at h
  split at h
  · exact absurd rfl hclear
  · rw [AList.lookup_eq_none, AList.mem_insert, not_or] at h
    exact AList.lookup_eq_none.mpr h.2
  · exact h

end OpenedDevice

def PcOk (d : OpenedDevice) (g : Provenance) : Call → CallPc → Prop
  | .data epAddr _ _, pc => DataOk d g epAddr pc
  | .control setup _, pc => ControlOk d setup pc

section Steps

variable {d : OpenedDevice} {g : Provenance} {pc : CallPc} {a : CallAction} {r : CallStep}
  {epAddr : UInt8} {setup : SetupPacket}

inductive CallPc.InEnsureInterface : CallPc → Prop
  | ifaceLookup (num : UInt8) (use : IfaceUse) : InEnsureInterface (.ifaceLookup num use)
  | claim (num : UInt8) (use : IfaceUse) : InEnsureInterface (.claim num use)
  | selectAlt (h : Nat) (num : UInt8) (use : IfaceUse) : InEnsureInterface (.selectAlt h num use)
  | ifaceInsert (h : Nat) (num : UInt8) (use : IfaceUse) :
      InEnsureInterface (.ifaceInsert h num use)

theorem EnsureMove.inEnsureInterface (hm : EnsureMove d pc a r) : pc.InEnsureInterface := by
  cases hm <;> constructor

theorem IfaceOk.inEnsureInterface {P : UInt8 → IfaceUse → Prop} (hok : IfaceOk d P pc) :
    pc.InEnsureInterface := by
  cases pc
  case ifaceLookup num use => exact .ifaceLookup num use
  case claim num use => exact .claim num use
  case selectAlt h num use => exact .selectAlt h num use
  case ifaceInsert h num use => exact .ifaceInsert h num use
  all_goals exact hok.elim

/-- A step of `ensure_interface` goes on, fails, or returns the claimed handle. -/
inductive EnsuredTo (d : OpenedDevice) (P : UInt8 → IfaceUse → Prop) : CallPc → Prop
  | further {pc : CallPc} (h : IfaceOk d P pc) : EnsuredTo d P pc
  | failed (e : Except HostError CallValue) : EnsuredTo d P (.done e)
  | back {h : Nat} {num : UInt8} {use : IfaceUse} (hp : P num use)
      (hi : d.interfaces.lookup num = some h) : EnsuredTo d P (afterInterface h num use)

theorem EnsureMove.spec {bindings : List Binding} {P : UInt8 → IfaceUse → Prop}
    (hm : EnsureMove d pc a r) (hs : d.Settled bindings) (hok : IfaceOk d P pc) :
    ∃ handles interfaces, r.device = { d with handles := handles, interfaces := interfaces } ∧
      r.device.Settled bindings ∧ EnsuredTo r.device P r.pc := by
  cases hm with
  | hit hi => exact ⟨_, _, rfl, hs, .back hok hi⟩
  | miss hi => exact ⟨_, _, rfl, hs, .further ⟨hok, hi⟩⟩
  | claim =>
    exact ⟨_, _, rfl, hs.claim _, .further ⟨hok.1, hok.2, List.getElem?_concat_length⟩⟩
  | claimFailed => exact ⟨_, _, rfl, hs, .failed _⟩
  | select =>
    -- the handle is a new one and at setting 0 already
    rw [OpenedDevice.setHandleAlt_self hok.2.2]
    exact ⟨_, _, rfl, hs, .further hok⟩
  | selectFailed => exact ⟨_, _, rfl, hs, .further hok⟩
  | present hi => exact ⟨_, _, rfl, hs, .back hok.1 hi⟩
  | insert =>
    obtain ⟨hp, hn, hh⟩ := hok
    exact ⟨_, _, rfl, hs.insertInterface hn hh, .back hp (AList.lookup_insert _)⟩

theorem EnsureMove.dataOk (hm : EnsureMove d pc a r) (hs : d.Settled g.bindings)
    (hok : IfaceOk d (DataUse d g epAddr) pc) :
    r.device.Settled g.bindings ∧ DataOk r.device g epAddr r.pc := by
  obtain ⟨handles, interfaces, hr, hs', hto⟩ := hm.spec hs hok
  obtain ⟨device, rpc, event⟩ := r
  subst hr
  refine ⟨hs', ?_⟩
  cases hto with
  | further hon => cases hon.inEnsureInterface <;> exact hon
  | failed e => trivial
  | @back _ _ use hp hi =>
    cases use with
    | ensureEndpoint kind => exact ⟨hp, hi⟩
    | setInterface => exact hp.elim

theorem Found.of_walk {cfg : Configuration} {order : List UInt8} {num : UInt8} {kind : EpKind}
    {length : Nat} {outData : Bytes} (hcfg : d.activeConfiguration = some cfg)
    (hwalk : endpointKind cfg d.altSettings epAddr order = .ok (num, kind)) :
    Found d (g.note d (.data epAddr length outData) (.altMap cfg) (.walk order)) epAddr num
      kind := by
  have hvalue : cfg.configurationValue = d.activeConfigurationValue :=
    beq_iff_eq.mp (List.find?_some hcfg :)
  refine ⟨?_, cfg, hcfg, places_of_endpointKind hwalk⟩
  simp only [Provenance.note, hwalk, hvalue]
  rfl

theorem note_open {h mps : Nat} {num : UInt8} {kind : EpKind} {length : Nat} {outData : Bytes}
    (hs : d.Settled g.bindings) (hi : d.interfaces.lookup num = some h) :
    g.note d (.data epAddr length outData) (.openEp h num kind) (.opened mps) =
      { g with bindings := g.bindings ++ [d.fresh epAddr num kind] } := by
  simp only [Provenance.note, hs.handle num h hi]
  rfl

theorem DataMove.ok {t length : Nat} {outData : Bytes}
    (hm : DataMove d t epAddr length outData pc a r) (hs : d.Settled g.bindings)
    (hok : DataOk d g epAddr pc) :
    r.device.Settled (g.note d (.data epAddr length outData) pc a).bindings ∧
      DataOk r.device (g.note d (.data epAddr length outData) pc a) epAddr r.pc := by
  have hwalked : ∀ cfg order,
      (g.note d (.data epAddr length outData) (.altMap cfg) (.walk order)).bindings =
        g.bindings := by
    intro cfg order
    simp only [Provenance.note]
    split <;> rfl
  cases hm with
  | configured hcfg => exact ⟨hs, hcfg⟩
  | resolved ho hk => exact ⟨(hwalked _ _).symm ▸ hs, .of_walk hok hk⟩
  | unresolved => exact ⟨(hwalked _ _).symm ▸ hs, trivial⟩
  | hit hl => exact ⟨hs, _, _, hok, hs.hit hl hok.2⟩
  | @opened _ _ kind mps =>
    obtain ⟨hf, hi⟩ := hok
    rw [note_open hs hi]
    exact ⟨hs.openEndpoint _ _, kind, hf, hs.bound_of_open hf.2 hi mps⟩
  | clearHalt ha => rcases ha with rfl | rfl <;> exact ⟨hs, hok⟩
  | present hl =>
    obtain ⟨kind, hf, -⟩ := hok
    exact ⟨hs, _, kind, hf, hs.hit hl hf.2⟩
  | insert =>
    obtain ⟨kind, hf, hb⟩ := hok
    exact ⟨hs.insertEndpoint hb, _, kind, hf, hb.ep, hb.binding, hb.resolves⟩
  | lock =>
    obtain ⟨num, kind, hf, hb⟩ := hok
    exact ⟨hs.setLock _ _, num, kind, hf, hb.ep, hb.binding, hb.resolves⟩
  | finish => exact ⟨hs.setLock _ _, trivial⟩
  | unconfigured | openFailed | poisoned => exact ⟨hs, trivial⟩
  | miss | transfer | completed => exact ⟨hs, hok⟩
  | ensure hm => cases hm.inEnsureInterface <;> exact hm.dataOk hs hok

theorem EnsureMove.controlOk {outData : Bytes} {bindings : List Binding}
    (hm : EnsureMove d pc a r) (hs : d.Settled bindings)
    (hok : IfaceOk d (ControlUse d setup) pc) :
    (r.device.caughtUp (.control setup outData) r.pc).Settled bindings ∧
      ControlOk r.device setup r.pc := by
  obtain ⟨handles, interfaces, hr, hs', hto⟩ := hm.spec hs hok
  obtain ⟨device, rpc, event⟩ := r
  subst hr
  cases hto with
  | further hon => cases hon.inEnsureInterface <;> exact ⟨hs', hon⟩
  | failed e => exact ⟨hs', trivial⟩
  | @back _ _ use hp hi =>
    cases use with
    | ensureEndpoint kind => exact hp.elim
    | setInterface =>
      obtain ⟨rfl, hnone⟩ := hp
      exact ⟨hs', hnone, hi⟩

theorem ControlMove.ok {outData : Bytes} {bindings : List Binding}
    (hm : ControlMove d setup outData pc a r)
    (hs : (d.caughtUp (.control setup outData) pc).Settled bindings)
    (hok : ControlOk d setup pc) :
    (r.device.caughtUp (.control setup outData) r.pc).Settled bindings ∧
      ControlOk r.device setup r.pc := by
  cases hm with
  | clearEndpoints => exact ⟨hs.empty_endpoints, rfl⟩
  | clearInterfaces => exact ⟨hs.empty_interfaces hok, hok⟩
  | configured => exact ⟨hs.configure hok _, trivial⟩
  | invalidate => exact ⟨hs.invalidate _, rfl, OpenedDevice.noneOf_invalidate⟩
  | selected => exact ⟨hs.select hok.1 hok.2 _, trivial⟩
  | clearAlts | setConfig | setAlt => exact ⟨hs, hok⟩
  | ensure hm => cases hm.inEnsureInterface <;> exact hm.controlOk hs hok
  | _ => exact ⟨hs, trivial⟩

end Steps

namespace Calls

variable {configurations : List Configuration} {active : UInt8} {s : Calls}

def Ok (s : Calls) : Prop :=
  match s.current with
  | none => s.device.Settled s.provenance.bindings
  | some (call, pc) =>
    (s.device.caughtUp call pc).Settled s.provenance.bindings ∧
      PcOk s.device s.provenance call pc

theorem Ok.settled_of_idle (h : s.Ok) (hidle : s.idle = true) :
    s.device.Settled s.provenance.bindings := by
  obtain ⟨device, current, provenance⟩ := s
  simp only [idle] at hidle
  split at hidle
  · exact h
  · have hs := h.1
    rwa [OpenedDevice.caughtUp_eq (by nofun) (by nofun)] at hs
  · have hs := h.1
    rwa [OpenedDevice.caughtUp_eq (by nofun) (by nofun)] at hs
  · cases hidle

theorem Ok.start (call : Call) (h : s.device.Settled s.provenance.bindings) :
    Ok { s with
      current := some (call, call.start)
      provenance := { s.provenance with resolved := none } } := by
  cases call with
  | data epAddr length outData => exact ⟨h, trivial⟩
  | control setup outData =>
    simp only [Ok, Call.start]
    split_ifs <;> exact ⟨h, trivial⟩

theorem Ok.advance {call : Call} {pc : CallPc} {a : CallAction} {r : CallStep}
    (hs : (s.device.caughtUp call pc).Settled s.provenance.bindings)
    (hok : PcOk s.device s.provenance call pc) (h : s.device.callStep 0 call pc a = some r) :
    Ok ⟨r.device, some (call, r.pc), s.provenance.note s.device call pc a⟩ := by
  cases callStep_move h with
  | data hm => exact hm.ok hs hok
  | control hm => exact hm.ok hs hok

theorem ok (hu : ∀ cfg ∈ configurations, cfg.Unshared)
    (h : (system configurations active).Reachable s) : s.Ok := by
  refine System.ReachableBy.invariant (I := Ok) h ?_ ?_
  · rintro s rfl
    exact OpenedDevice.Settled.opened hu
  · intro s a s' _ hok _ hstep
    cases a with
    | start call =>
      simp only [system, step] at hstep
      split_ifs at hstep with hidle
      cases hstep
      exact .start call (hok.settled_of_idle hidle)
    | advance a =>
      obtain ⟨device, current, provenance⟩ := s
      cases current with
      | none => cases hstep
      | some call =>
        obtain ⟨r, hr, rfl⟩ := Option.map_eq_some_iff.mp hstep
        exact .advance hok.1 hok.2 hr

end Calls

/-- What `nusb` would open on the claimed handle of the interface now. -/
def OpenedDevice.openNow (d : OpenedDevice) (epAddr num : UInt8) (kind : EpKind) :
    Option Binding :=
  ((d.interfaces.lookup num).bind (d.handles[·]?)).map fun iface =>
    ⟨epAddr, kind, iface.num, iface.alt, d.activeConfigurationValue⟩

/-- The endpoint a data transfer runs on, from the moment `ensure_endpoint` returns it. -/
def CallPc.transfersOn : CallPc → Option Nat
  | .epWait e | .epLocked e | .transferring e _ | .transferred e _ => some e
  | _ => none

theorem DataOk.bound {d : OpenedDevice} {g : Provenance} {epAddr : UInt8} {pc : CallPc} {e : Nat}
    (hok : DataOk d g epAddr pc) (ht : pc.transfersOn = some e) :
    ∃ num kind, Found d g epAddr num kind ∧ d.Bound g.bindings epAddr num kind e := by
  cases pc <;> cases ht <;> exact hok

namespace Calls

variable {configurations : List Configuration} {active : UInt8} {s : Calls}

/-- Endpoint `e` was opened as what `endpoint_kind` has found for the address in the
running call, and as what it would be opened as afresh. -/
structure Agrees (s : Calls) (epAddr num : UInt8) (kind : EpKind) (e : Nat) (b : Binding) :
    Prop where
  found : b.addr = epAddr ∧ b.num = num ∧ b.kind = kind
  resolved : s.provenance.resolved = some b
  opened : s.provenance.bindings[e]? = some b
  afresh : s.device.openNow epAddr num kind = some b
  handle : ∃ ep, s.device.eps[e]? = some ep ∧ ep.addr = epAddr ∧ ep.kind = kind ∧
    s.device.interfaces.lookup num = some ep.iface

structure Coherent (s : Calls) : Prop where
  /-- `ensure_endpoint` is about to answer from the cache. -/
  hit : ∀ {epAddr length outData num kind entry},
    s.current = some (.data epAddr length outData, .epLookup num kind) →
    s.device.endpoints.lookup epAddr = some entry → ∃ b, s.Agrees epAddr num kind entry.ep b
  /-- Cached or not, the transfer runs on what `endpoint_kind` has found. -/
  transfer : ∀ {epAddr length outData pc e}, s.current = some (.data epAddr length outData, pc) →
    pc.transfersOn = some e → ∃ num kind b, s.Agrees epAddr num kind e b
  /-- `SET_CONFIGURATION` clears the handles just before the recorded settings. -/
  claimed : (∀ call, s.current ≠ some (call, .clearAlts)) → ∀ {num alt},
    s.device.altSettings.lookup num = some alt → ∃ h, s.device.interfaces.lookup num = some h

theorem agrees_of_bound {epAddr num : UInt8} {kind : EpKind} {e : Nat}
    (hs : s.device.Settled s.provenance.bindings) (hf : Found s.device s.provenance epAddr num kind)
    (hb : s.device.Bound s.provenance.bindings epAddr num kind e) :
    s.Agrees epAddr num kind e (s.device.fresh epAddr num kind) := by
  obtain ⟨h, mps, hep, hi⟩ := hb.ep
  have hhandle := hs.handle num h hi
  refine ⟨⟨rfl, rfl, rfl⟩, hf.1, hb.binding, ?_, _, hep, rfl, rfl, hi⟩
  simp only [OpenedDevice.openNow, hi, Option.bind_some, hhandle, Option.map_some]
  rfl

theorem Ok.unrecorded (h : s.Ok) (hclear : ∀ call, s.current ≠ some (call, .clearAlts))
    {num : UInt8} (hn : s.device.interfaces.lookup num = none) :
    s.device.altSettings.lookup num = none := by
  obtain ⟨device, current, provenance⟩ := s
  cases current with
  | none => exact OpenedDevice.Settled.claimed h num hn
  | some running =>
    obtain ⟨call, pc⟩ := running
    have hpc : pc ≠ .clearAlts := by
      rintro rfl
      exact hclear call rfl
    refine OpenedDevice.lookup_of_caughtUp hpc (h.1.claimed num ?_)
    rw [OpenedDevice.caughtUp_interfaces]
    exact hn

theorem cache_coherent (hu : ∀ cfg ∈ configurations, cfg.Unshared)
    (h : (system configurations active).Reachable s) : s.Coherent where
  hit := by
    intro epAddr length outData num kind entry hcur hl
    have hok := ok hu h
    obtain ⟨device, current, provenance⟩ := s
    cases hcur
    obtain ⟨hs, hf⟩ := hok
    exact ⟨_, agrees_of_bound hs hf (hs.hit hl hf.2)⟩
  transfer := by
    intro epAddr length outData pc e hcur ht
    have hok := ok hu h
    obtain ⟨device, current, provenance⟩ := s
    cases hcur
    obtain ⟨hs, hdata⟩ := hok
    obtain ⟨num, kind, hf, hb⟩ := hdata.bound ht
    exact ⟨num, kind, _, agrees_of_bound hs hf hb⟩
  claimed := by
    intro hclear num alt hl
    by_contra hnone
    have hn := Option.eq_none_iff_forall_ne_some.mpr (not_exists.mp hnone)
    rw [(ok hu h).unrecorded hclear hn] at hl
    cases hl

namespace Sample

def twoSettings : Configuration where
  configurationValue := 1
  interfaceAltSettings :=
    [⟨0, 0, [⟨0x81, .bulk, 512⟩]⟩, ⟨0, 1, [⟨0x81, .interrupt, 64⟩]⟩, ⟨1, 0, [⟨0x02, .bulk, 512⟩]⟩]

def setInterface : Call := .control ⟨0x01, 0x0B, 1, 0, 0⟩ []

def read : Call := .data 0x81 8 []

def during (call : Call) (answers : List CallAction) : List Action :=
  .start call :: answers.map .advance

def firstRead : List CallAction :=
  [.go, .walk [0, 1], .go, .go, .ok, .err, .go, .opened 512, .ok, .go, .go, .go,
    .completed ⟨0, .ok (), []⟩, .go]

def secondRead : List CallAction :=
  [.go, .walk [1, 0], .go, .go, .opened 64, .err, .go, .go, .go, .completed ⟨0, .ok (), []⟩, .go]

def actions : List Action :=
  during read firstRead ++ during setInterface [.go, .go, .go, .ok, .go] ++
    during read secondRead ++ during read [.go, .walk [0, 1]]

/-- `ensure_endpoint` is about to answer a read of 0x81 from the cache. -/
def hits (s : Calls) : Bool :=
  match s.current with
  | some (.data 0x81 _ _, .epLookup 0 .interrupt) => s.device.endpoints.lookup 0x81 == some ⟨0, 1⟩
  | _ => false

end Sample

theorem cache_coherent_reread : ∃ s, (system [Sample.twoSettings] 1).Reachable s ∧
    Sample.hits s = true ∧ s.Coherent := by
  have hunshared : ∀ cfg ∈ [Sample.twoSettings], cfg.Unshared := by decide
  have hrun : ((system [Sample.twoSettings] 1).run (opened [Sample.twoSettings] 1)
      Sample.actions).map Sample.hits = some true := by
    decide
  obtain ⟨s, hs, hhits⟩ := System.exists_reachable_of_run rfl hrun
  exact ⟨s, hs, hhits, cache_coherent hunshared hs⟩

end Calls

end Usbip.Host
