import UsbipdDarwin.Host.Move
import UsbipdDarwin.Lts.Maps
import UsbipdDarwin.Lts.Reachable
import UsbipdDarwin.Lts.Threads

/-! Calls that run side by side on one `OpenedDevice`, as the blocking pool runs them for the
URBs of a session. Between any two steps of a call come steps of the others. -/

namespace Usbip.Host
open Lts

def OpenedDevice.endpointKind (d : OpenedDevice) (epAddr : UInt8) (order : List UInt8) :
    Except HostError (UInt8 × EpKind) :=
  match d.activeConfiguration with
  | none => .error (.endpointNotFound epAddr)
  | some cfg => Host.endpointKind cfg d.altSettings epAddr order

structure Pool where
  device : OpenedDevice
  calls : List (Call × CallPc)

def CallPc.returned : CallPc → Bool
  | .done _ | .panicked => true
  | _ => false

namespace Pool

inductive Action
  | start (call : Call)
  | advance (t : Nat) (a : CallAction)

def step (s : Pool) : Action → Option Pool
  | .start call => some { s with calls := s.calls ++ [(call, call.start)] }
  | .advance t a =>
    match s.calls[t]? with
    | none => none
    | some (call, pc) =>
      (s.device.callStep t call pc a).map fun r => ⟨r.device, s.calls.set t (call, r.pc)⟩

def system (s₀ : Pool) : System Pool Action where
  init := fun s => s = s₀
  step := step

def opened (configurations : List Configuration) (active : UInt8) : Pool where
  device := .opened configurations active
  calls := []

def idle (s : Pool) : Bool := s.calls.all (·.2.returned)

inductive Move (s : Pool) : Action → Pool → Prop
  | start (call : Call) :
      Move s (.start call) { s with calls := s.calls ++ [(call, call.start)] }
  | advance {t : Nat} {call : Call} {pc : CallPc} {a : CallAction} {r : CallStep}
      (hc : s.calls[t]? = some (call, pc)) (hm : CallMove s.device t pc a r call) :
      Move s (.advance t a) ⟨r.device, s.calls.set t (call, r.pc)⟩

theorem step_move {s s' : Pool} {a : Action} (h : s.step a = some s') : Move s a s' := by
  cases a with
  | start call =>
    cases h
    exact .start call
  | advance t a =>
    simp only [step] at h
    split at h
    · cases h
    · rename_i call pc hc
      obtain ⟨r, hr, rfl⟩ := Option.map_eq_some_iff.mp h
      exact .advance hc (callStep_move hr)

end Pool

def CallPc.ifaceHandle : CallPc → Option Nat
  | .selectAlt h _ _ | .ifaceInsert h _ _ | .openEp h _ _ | .setAlt h | .settingAlt h => some h
  | _ => none

def CallPc.epHandle : CallPc → Option Nat
  | .clearHalt e _ | .epInsert e _ | .epWait e | .epLocked e | .transferring e _
  | .transferred e _ => some e
  | _ => none

section Dangling

/-- Whatever a map or an endpoint refers to was handed out by `nusb`. -/
structure OpenedDevice.NoDangling (d : OpenedDevice) : Prop where
  interfaces : ∀ num h, d.interfaces.lookup num = some h → h < d.handles.length
  endpoints : ∀ addr entry, d.endpoints.lookup addr = some entry → entry.ep < d.eps.length
  eps : ∀ (e : Nat) (ep : AnyEp), d.eps[e]? = some ep → ep.iface < d.handles.length

structure CallPc.NoDangling (d : OpenedDevice) (pc : CallPc) : Prop where
  iface : ∀ h ∈ pc.ifaceHandle, h < d.handles.length
  ep : ∀ e ∈ pc.epHandle, e < d.eps.length

variable {d d' : OpenedDevice} {t : Nat} {call : Call} {pc : CallPc} {a : CallAction}
  {r : CallStep}

theorem CallPc.NoDangling.mono (h : pc.NoDangling d)
    (hhandles : d.handles.length ≤ d'.handles.length) (heps : d.eps.length ≤ d'.eps.length) :
    pc.NoDangling d' :=
  ⟨fun i hi => (h.iface i hi).trans_le hhandles, fun e he => (h.ep e he).trans_le heps⟩

theorem noDangling_afterInterface {h : Nat} (hlt : h < d.handles.length) (num : UInt8)
    (use : IfaceUse) : (afterInterface h num use).NoDangling d := by
  cases use with
  | ensureEndpoint kind =>
    refine ⟨fun i hi => ?_, nofun⟩
    cases hi
    exact hlt
  | setInterface =>
    refine ⟨fun i hi => ?_, nofun⟩
    cases hi
    exact hlt

structure NoneDangles (d : OpenedDevice) (r : CallStep) : Prop where
  handles : d.handles.length ≤ r.device.handles.length
  eps : d.eps.length ≤ r.device.eps.length
  device : r.device.NoDangling
  pc : r.pc.NoDangling r.device

theorem NoneDangles.same {pc' : CallPc} {event : Option HostEvent} (hd : d.NoDangling)
    (hpc : pc'.NoDangling d) : NoneDangles d ⟨d, pc', event⟩ := ⟨le_rfl, le_rfl, hd, hpc⟩

theorem OpenedDevice.NoDangling.setHandleAlt (hd : d.NoDangling) (h : Nat) (alt : UInt8) :
    (d.setHandleAlt h alt).NoDangling := by
  have hlen : (d.setHandleAlt h alt).handles.length = d.handles.length := List.length_modify ..
  refine ⟨fun num i hl => ?_, hd.endpoints, fun e ep hep => ?_⟩
  · rw [hlen]
    exact hd.interfaces num i hl
  · rw [hlen]
    exact hd.eps e ep hep

theorem noneDangles_ensure (hm : EnsureMove d pc a r) (hd : d.NoDangling)
    (hpc : pc.NoDangling d) : NoneDangles d r := by
  cases hm with
  | hit hl => exact .same hd (noDangling_afterInterface (hd.interfaces _ _ hl) _ _)
  | present hl => exact .same hd (noDangling_afterInterface (hd.interfaces _ _ hl) _ _)
  | miss | claimFailed => exact .same hd ⟨nofun, nofun⟩
  | selectFailed => exact .same hd ⟨hpc.iface, nofun⟩
  | @claim num use =>
    have hlen : (d.handles ++ [(⟨num, 0⟩ : Interface)]).length = d.handles.length + 1 :=
      List.length_append
    have hle : d.handles.length ≤ (d.handles ++ [(⟨num, 0⟩ : Interface)]).length :=
      hlen ▸ Nat.le_succ _
    refine ⟨hle, le_rfl, ⟨?_, hd.endpoints, ?_⟩, ⟨fun h hh => ?_, nofun⟩⟩
    · exact fun num' h hl => (hd.interfaces num' h hl).trans_le hle
    · exact fun e ep hep => (hd.eps e ep hep).trans_le hle
    · cases hh
      exact hlen ▸ Nat.lt_succ_self _
  | @select h num use =>
    have hlen : (d.setHandleAlt h 0).handles.length = d.handles.length := List.length_modify ..
    exact ⟨hlen.ge, le_rfl, hd.setHandleAlt h 0, fun i hi => hlen ▸ hpc.iface i hi, nofun⟩
  | @insert h num use =>
    have hlt : h < d.handles.length := hpc.iface h rfl
    refine ⟨le_rfl, le_rfl, ⟨fun num' i hl => ?_, hd.endpoints, hd.eps⟩,
      (noDangling_afterInterface hlt num use).mono le_rfl le_rfl⟩
    rcases lookup_of_insert hl with ⟨-, rfl⟩ | ⟨-, hold⟩
    · exact hlt
    · exact hd.interfaces num' i hold

theorem noneDangles_data {epAddr : UInt8} {length : Nat} {outData : Proto.Bytes}
    (hm : DataMove d t epAddr length outData pc a r) (hd : d.NoDangling)
    (hpc : pc.NoDangling d) : NoneDangles d r := by
  have hcached : ∀ {entry : EndpointEntry}, d.endpoints.lookup epAddr = some entry →
      (CallPc.epWait entry.ep).NoDangling d := by
    intro entry hl
    refine ⟨nofun, fun e he => ?_⟩
    cases he
    exact hd.endpoints epAddr entry hl
  cases hm with
  | hit hl => exact .same hd (hcached hl)
  | present hl => exact .same hd (hcached hl)
  | @opened h num kind mps =>
    have hlen : (d.eps ++ [(⟨epAddr, kind, h, mps⟩ : AnyEp)]).length = d.eps.length + 1 :=
      List.length_append
    have hle : d.eps.length ≤ (d.eps ++ [(⟨epAddr, kind, h, mps⟩ : AnyEp)]).length :=
      hlen ▸ Nat.le_succ _
    refine ⟨le_rfl, hle, ⟨hd.interfaces, ?_, ?_⟩, nofun, fun e he => ?_⟩
    · exact fun addr entry hl => (hd.endpoints addr entry hl).trans_le hle
    · intro e ep hep
      rcases getElem?_append_some hep with hold | ⟨-, rfl⟩
      · exact hd.eps e ep hold
      · exact hpc.iface h rfl
    · cases he
      exact hlen ▸ Nat.lt_succ_self _
  | @insert e num hl =>
    have hlt : e < d.eps.length := hpc.ep e rfl
    refine ⟨le_rfl, le_rfl, ⟨hd.interfaces, fun addr entry hentry => ?_, hd.eps⟩,
      hpc.iface, hpc.ep⟩
    rcases lookup_of_insert hentry with ⟨-, rfl⟩ | ⟨-, hold⟩
    · exact hlt
    · exact hd.endpoints addr entry hold
  | lock => exact ⟨le_rfl, le_rfl, ⟨hd.interfaces, hd.endpoints, hd.eps⟩, hpc.iface, hpc.ep⟩
  | finish => exact ⟨le_rfl, le_rfl, ⟨hd.interfaces, hd.endpoints, hd.eps⟩, nofun, nofun⟩
  | clearHalt | transfer | completed => exact .same hd ⟨hpc.iface, hpc.ep⟩
  | ensure hm => exact noneDangles_ensure hm hd hpc
  | _ => exact .same hd ⟨nofun, nofun⟩

theorem noneDangles_control {setup : SetupPacket} {outData : Proto.Bytes}
    (hm : ControlMove d setup outData pc a r) (hd : d.NoDangling) (hpc : pc.NoDangling d) :
    NoneDangles d r := by
  cases hm with
  | clearEndpoints => exact ⟨le_rfl, le_rfl, ⟨hd.interfaces, nofun, hd.eps⟩, nofun, nofun⟩
  | clearInterfaces => exact ⟨le_rfl, le_rfl, ⟨nofun, hd.endpoints, hd.eps⟩, nofun, nofun⟩
  | clearAlts | configured | recordAlt =>
    exact ⟨le_rfl, le_rfl, ⟨hd.interfaces, hd.endpoints, hd.eps⟩, nofun, nofun⟩
  | invalidate =>
    refine ⟨le_rfl, le_rfl, ⟨hd.interfaces, fun addr entry hl => ?_, hd.eps⟩, nofun, nofun⟩
    exact hd.endpoints addr entry (lookup_of_eraseAll hl).2
  | setAlt => exact .same hd ⟨hpc.iface, nofun⟩
  | @selected h =>
    have hlen : (d.setHandleAlt h (setup.wValue &&& 0xFF).toUInt8).handles.length =
        d.handles.length := List.length_modify ..
    exact ⟨hlen.ge, le_rfl, hd.setHandleAlt h _, nofun, nofun⟩
  | ensure hm => exact noneDangles_ensure hm hd hpc
  | _ => exact .same hd ⟨nofun, nofun⟩

theorem noneDangles_start (call : Call) : call.start.NoDangling d := by
  cases call with
  | data epAddr length outData => exact ⟨nofun, nofun⟩
  | control setup outData =>
    simp only [Call.start]
    split_ifs <;> exact ⟨nofun, nofun⟩

namespace Pool

variable {configurations : List Configuration} {active : UInt8} {s : Pool}

theorem noDangling (h : (system (opened configurations active)).Reachable s) :
    s.device.NoDangling ∧ Each (fun _ c => c.2.NoDangling s.device) s.calls := by
  refine System.ReachableBy.invariant (I := fun s => s.device.NoDangling ∧
    Each (fun _ c => c.2.NoDangling s.device) s.calls) h ?_ ?_
  · rintro s rfl
    exact ⟨⟨nofun, nofun, nofun⟩, .nil⟩
  · rintro s a s' _ ⟨hd, hcalls⟩ _ hstep
    cases step_move hstep with
    | start call => exact ⟨hd, hcalls.append (noneDangles_start call)⟩
    | @advance t call pc a r hc hm =>
      have hpc := hcalls t _ hc
      have hnone : NoneDangles s.device r := by
        cases hm with
        | data hm => exact noneDangles_data hm hd hpc
        | control hm => exact noneDangles_control hm hd hpc
      exact ⟨hnone.device, hcalls.set hnone.pc fun _ _ _ _ hold =>
        hold.mono hnone.handles hnone.eps⟩

end Pool

end Dangling

end Usbip.Host
