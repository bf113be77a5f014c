import UsbipdDarwin.Host.Move

/-! What one step of a call does to the endpoint mutexes, and when it reports a
`transfer_blocking`. -/

namespace Usbip.Host
open Proto Lts

def HostEvent.isTransfer : HostEvent → Bool
  | .started (.transferBlocking ..) => true
  | _ => false

def HostEvent.isLocked : HostEvent → Bool
  | .locked _ => true
  | _ => false

def CallPc.uses : CallPc → Option Nat
  | .epLocked e => some e
  | .transferring e _ => some e
  | _ => none

/-- A step either leaves the mutexes alone, takes the one the call waits for,
starts the transfer under it, or gives it back. -/
inductive CallEffect (d : OpenedDevice) (t : Nat) (pc : CallPc) (r : CallStep) : Prop
  | quiet (hl : r.device.epLock = d.epLock) (hh : r.pc.held = pc.held)
      (hu : r.pc.uses = none) (hn : ∀ e, pc ≠ .epLocked e)
      (he : ∀ ev, r.event = some ev → ev.isTransfer = false ∧ ev.isLocked = false)
  | acquire (e : Nat) (hf : d.epLock e = .free)
      (hl : r.device.epLock = Function.update d.epLock e (.held (.call t)))
      (hpc : pc = .epWait e) (hpc' : r.pc = .epLocked e) (he : r.event = some (.locked e))
  | begin (e n : Nat) (b : Bytes) (hl : r.device.epLock = d.epLock)
      (hpc : pc = .epLocked e) (hpc' : r.pc = .transferring e false)
      (he : r.event = some (.started (.transferBlocking e n b)))
  | release (e : Nat) (comp : Completion) (hpc : pc = .transferred e comp)
      (hl : r.device.epLock = Function.update d.epLock e .free) (hh' : r.pc.held = none)
      (he : r.event = none)

variable {d : OpenedDevice} {t : Nat} {pc : CallPc} {a : CallAction} {r : CallStep}

theorem held_afterInterface (h : Nat) (num : UInt8) (use : IfaceUse) :
    (afterInterface h num use).held = none := by
  cases use <;> rfl

theorem uses_afterInterface (h : Nat) (num : UInt8) (use : IfaceUse) :
    (afterInterface h num use).uses = none := by
  cases use <;> rfl

theorem EnsureMove.effect (hm : EnsureMove d pc a r) : CallEffect d t pc r := by
  cases hm with
  | hit | present | insert =>
    exact .quiet rfl (held_afterInterface _ _ _) (uses_afterInterface _ _ _) (by simp) (by simp)
  | miss | claim | claimFailed => exact .quiet rfl rfl rfl (by simp) (by simp)
  | select | selectFailed =>
    exact .quiet rfl rfl rfl (by simp) (by simp [HostEvent.isTransfer, HostEvent.isLocked])

theorem transferRequest_eq (epAddr : UInt8) (length : Nat) (outData : Bytes) (e mps : Nat) :
    ∃ n b, transferRequest epAddr length outData e mps = .transferBlocking e n b := by
  unfold transferRequest
  split_ifs
  · exact ⟨_, _, rfl⟩
  · exact ⟨_, _, rfl⟩

theorem DataMove.effect {epAddr : UInt8} {length : Nat} {outData : Bytes}
    (hm : DataMove d t epAddr length outData pc a r) : CallEffect d t pc r := by
  cases hm with
  | unconfigured | configured | resolved | unresolved | hit | miss | opened | openFailed
  | present | insert | poisoned | completed => exact .quiet rfl rfl rfl (by simp) (by simp)
  | clearHalt =>
    exact .quiet rfl rfl rfl (by simp) (by simp [HostEvent.isTransfer, HostEvent.isLocked])
  | lock hl => exact .acquire _ hl rfl rfl rfl rfl
  | @transfer e =>
    obtain ⟨n, b, hb⟩ := transferRequest_eq epAddr length outData e
      ((d.eps[e]?.map (·.maxPacketSize)).getD 0)
    exact .begin e n b rfl rfl rfl (by rw [← hb])
  | finish => exact .release _ _ rfl rfl rfl rfl
  | ensure hm => exact hm.effect

theorem ControlMove.effect {setup : SetupPacket} {outData : Bytes}
    (hm : ControlMove d setup outData pc a r) : CallEffect d t pc r := by
  cases hm with
  | control =>
    refine .quiet rfl rfl rfl (by simp) ?_
    rintro ev ⟨⟩
    unfold passthrough
    split_ifs <;> exact ⟨rfl, rfl⟩
  | ensure hm => exact hm.effect
  | _ => exact .quiet rfl rfl rfl (by simp) (by simp [HostEvent.isTransfer, HostEvent.isLocked])

theorem callStep_effect {c : Call} (h : d.callStep t c pc a = some r) : CallEffect d t pc r := by
  cases callStep_move h with
  | data hm => exact hm.effect
  | control hm => exact hm.effect

end Usbip.Host
