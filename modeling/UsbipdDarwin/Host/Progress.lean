import UsbipdDarwin.Host.Pool

/-! A call of an `OpenedDevice` gets on. Wherever it is, there is a step it can make,
unless it waits for an endpoint mutex that somebody holds, and each step brings it
nearer to its return. -/

namespace Usbip.Host
open Proto Lts

def IfaceUse.ofData : IfaceUse → Bool
  | .ensureEndpoint _ => true
  | .setInterface => false

def CallPc.ofData : CallPc → Bool
  | .activeConfiguration | .altMap _ | .epLookup .. | .openEp .. | .clearHalt .. | .epInsert ..
  | .epWait _ | .epLocked _ | .transferring .. | .transferred .. => true
  | .ifaceLookup _ use | .claim _ use | .selectAlt _ _ use | .ifaceInsert _ _ use => use.ofData
  | _ => false

def Call.visits : Call → CallPc → Bool
  | .data .., pc => pc.ofData || pc.returned
  | .control .., pc => !pc.ofData

def CallPc.left : CallPc → Nat
  | .activeConfiguration => 15
  | .altMap _ => 14
  | .epLookup .. | .invalidate => 13
  | .ifaceLookup .. => 12
  | .claim .. => 11
  | .selectAlt .. => 10
  | .ifaceInsert .. => 9
  | .openEp .. => 8
  | .clearHalt .. => 7
  | .epInsert .. | .clearEndpoints => 6
  | .epWait _ | .clearInterfaces => 5
  | .epLocked _ | .clearAlts | .setAlt _ => 4
  | .transferring .. | .setConfig | .settingAlt _ | .control => 3
  | .transferred .. | .settingConfig | .recordAlt | .controlling => 2
  | .done _ | .panicked => 1

variable {d : OpenedDevice} {t : Nat} {c : Call} {pc : CallPc} {a : CallAction} {r : CallStep}

theorem CallPc.left_le (pc : CallPc) : pc.left ≤ 15 := by
  cases pc <;> simp [CallPc.left]

theorem CallPc.one_lt_left (h : pc.returned = false) : 1 < pc.left := by
  cases pc with
  | done | panicked => cases h
  | _ => simp [CallPc.left]

theorem left_afterInterface (h : Nat) (num : UInt8) (use : IfaceUse) :
    (afterInterface h num use).left ≤ 8 := by
  cases use <;> simp [afterInterface, CallPc.left]

theorem ofData_afterInterface (h : Nat) (num : UInt8) (use : IfaceUse) :
    (afterInterface h num use).ofData = use.ofData := by
  cases use <;> rfl

theorem visits_start (c : Call) : c.visits c.start = true := by
  cases c with
  | data => rfl
  | control setup outData =>
    simp only [Call.start]
    split_ifs <;> rfl

theorem EnsureMove.left (hm : EnsureMove d pc a r) : r.pc.left < pc.left := by
  have hafter : ∀ h num use, (afterInterface h num use).left < 9 :=
    fun h num use => Nat.lt_succ_of_le (left_afterInterface h num use)
  cases hm with
  | hit => exact (hafter _ _ _).trans_le (by simp [CallPc.left])
  | present | insert => exact hafter _ _ _
  | _ => simp [CallPc.left]

theorem DataMove.left {epAddr : UInt8} {length : Nat} {outData : Bytes}
    (hm : DataMove d t epAddr length outData pc a r) : r.pc.left < pc.left := by
  cases hm with
  | ensure hm => exact hm.left
  | _ => simp [CallPc.left]

theorem ControlMove.left {setup : SetupPacket} {outData : Bytes}
    (hm : ControlMove d setup outData pc a r) : r.pc.left < pc.left := by
  cases hm with
  | ensure hm => exact hm.left
  | _ => simp [CallPc.left]

theorem callStep_left (h : d.callStep t c pc a = some r) : r.pc.left < pc.left := by
  cases callStep_move h with
  | data hm => exact hm.left
  | control hm => exact hm.left

theorem EnsureMove.ofData (hm : EnsureMove d pc a r) :
    r.pc.ofData = pc.ofData ∨ ∃ e, r.pc = .done (.error e) := by
  cases hm with
  | hit | present | insert => exact .inl (ofData_afterInterface _ _ _)
  | claimFailed => exact .inr ⟨_, rfl⟩
  | _ => exact .inl rfl

theorem callStep_visits (h : d.callStep t c pc a = some r) (hv : c.visits pc = true) :
    c.visits r.pc = true := by
  cases callStep_move h with
  | data hm =>
    cases hm with
    | ensure hm =>
      rcases hm.ofData with he | ⟨e, he⟩
      · have hdata : pc.ofData = true := by
          cases hm <;> simpa [Call.visits, CallPc.returned] using hv
        rw [Call.visits, he, hdata]
        rfl
      · rw [he]
        rfl
    | _ => rfl
  | control hm =>
    cases hm with
    | ensure hm =>
      rcases hm.ofData with he | ⟨e, he⟩
      · rw [Call.visits, he]
        exact hv
      · rw [he]
        rfl
    | _ => rfl

theorem exists_ensureStep (h : Nat) (num : UInt8) (use : IfaceUse) :
    (∃ r, d.ensureInterfaceStep (.ifaceLookup num use) .go = some r) ∧
      (∃ r, d.ensureInterfaceStep (.claim num use) .ok = some r) ∧
      (∃ r, d.ensureInterfaceStep (.selectAlt h num use) .ok = some r) ∧
      ∃ r, d.ensureInterfaceStep (.ifaceInsert h num use) .go = some r := by
  refine ⟨?_, ⟨_, rfl⟩, ⟨_, rfl⟩, ?_⟩
  · simp only [OpenedDevice.ensureInterfaceStep]
    split <;> exact ⟨_, rfl⟩
  · simp only [OpenedDevice.ensureInterfaceStep]
    split <;> exact ⟨_, rfl⟩

def CallPc.Waits (d : OpenedDevice) (pc : CallPc) : Prop :=
  ∃ e o, pc = .epWait e ∧ d.epLock e = .held o

theorem exists_dataStep {epAddr : UInt8} {length : Nat} {outData : Bytes}
    (hd : pc.ofData = true) :
    (∃ a r, d.dataTransferStep t epAddr length outData pc a = some r) ∨ pc.Waits d := by
  cases pc with
  | activeConfiguration =>
    refine .inl ⟨.go, ?_⟩
    simp only [OpenedDevice.dataTransferStep]
    split <;> exact ⟨_, rfl⟩
  | altMap cfg =>
    refine .inl ⟨.walk cfg.interfaceNumbers, ?_⟩
    simp only [OpenedDevice.dataTransferStep, if_pos (List.Perm.refl _)]
    split <;> exact ⟨_, rfl⟩
  | epLookup num kind =>
    refine .inl ⟨.go, ?_⟩
    simp only [OpenedDevice.dataTransferStep]
    split <;> exact ⟨_, rfl⟩
  | ifaceLookup num use => exact .inl ⟨.go, (exists_ensureStep 0 num use).1⟩
  | claim num use => exact .inl ⟨.ok, (exists_ensureStep 0 num use).2.1⟩
  | selectAlt h num use => exact .inl ⟨.ok, (exists_ensureStep h num use).2.2.1⟩
  | ifaceInsert h num use => exact .inl ⟨.go, (exists_ensureStep h num use).2.2.2⟩
  | openEp h num kind => exact .inl ⟨.opened 0, _, rfl⟩
  | clearHalt e num => exact .inl ⟨.ok, _, rfl⟩
  | epInsert e num =>
    refine .inl ⟨.go, ?_⟩
    simp only [OpenedDevice.dataTransferStep]
    split <;> exact ⟨_, rfl⟩
  | epWait e =>
    cases hl : d.epLock e with
    | held o => exact .inr ⟨e, o, rfl, hl⟩
    | free | poisoned =>
      refine .inl ⟨.go, ?_⟩
      simp only [OpenedDevice.dataTransferStep, hl]
      exact ⟨_, rfl⟩
  | epLocked e => exact .inl ⟨.go, _, rfl⟩
  | transferring e hit => exact .inl ⟨.completed ⟨0, .ok (), []⟩, _, rfl⟩
  | transferred e comp => exact .inl ⟨.go, _, rfl⟩
  | _ => cases hd

theorem exists_controlStep {setup : SetupPacket} {outData : Bytes} (hd : pc.ofData = false)
    (hr : pc.returned = false) :
    ∃ a r, d.controlTransferStep setup outData pc a = some r := by
  cases pc with
  | ifaceLookup num use => exact ⟨.go, (exists_ensureStep 0 num use).1⟩
  | claim num use => exact ⟨.ok, (exists_ensureStep 0 num use).2.1⟩
  | selectAlt h num use => exact ⟨.ok, (exists_ensureStep h num use).2.2.1⟩
  | ifaceInsert h num use => exact ⟨.go, (exists_ensureStep h num use).2.2.2⟩
  | clearEndpoints | clearInterfaces | clearAlts | setConfig | invalidate | setAlt | recordAlt
  | control => exact ⟨.go, _, rfl⟩
  | settingConfig | settingAlt => exact ⟨.ok, _, rfl⟩
  | controlling => exact ⟨.answered (.ok []), _, rfl⟩
  | done | panicked => cases hr
  | _ => cases hd

theorem exists_callStep (hv : c.visits pc = true) (hr : pc.returned = false) :
    (∃ a r, d.callStep t c pc a = some r) ∨ pc.Waits d := by
  cases c with
  | data epAddr length outData =>
    rw [Call.visits, hr, Bool.or_false] at hv
    exact exists_dataStep hv
  | control setup outData =>
    rw [Call.visits, Bool.not_eq_true'] at hv
    exact .inl (exists_controlStep hv hr)

end Usbip.Host
