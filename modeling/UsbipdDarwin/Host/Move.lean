import UsbipdDarwin.Host.OpenedDevice

/-! What each step of a call can do, one rule a constructor. -/

namespace Usbip.Host
open Proto Lts

inductive EnsureMove (d : OpenedDevice) : CallPc → CallAction → CallStep → Prop
  | hit {num : UInt8} {use : IfaceUse} {h : Nat} (hl : d.interfaces.lookup num = some h) :
      EnsureMove d (.ifaceLookup num use) .go ⟨d, afterInterface h num use, none⟩
  | miss {num : UInt8} {use : IfaceUse} (hl : d.interfaces.lookup num = none) :
      EnsureMove d (.ifaceLookup num use) .go ⟨d, .claim num use, none⟩
  | claim {num : UInt8} {use : IfaceUse} :
      EnsureMove d (.claim num use) .ok
        ⟨{ d with handles := d.handles ++ [⟨num, 0⟩] }, .selectAlt d.handles.length num use, none⟩
  | claimFailed {num : UInt8} {use : IfaceUse} :
      EnsureMove d (.claim num use) .err ⟨d, .done (.error .nusb), none⟩
  | select {h : Nat} {num : UInt8} {use : IfaceUse} :
      EnsureMove d (.selectAlt h num use) .ok
        ⟨d.setHandleAlt h 0, .ifaceInsert h num use, some (.started (.setAltSetting num 0))⟩
  | selectFailed {h : Nat} {num : UInt8} {use : IfaceUse} :
      EnsureMove d (.selectAlt h num use) .err
        ⟨d, .ifaceInsert h num use, some (.started (.setAltSetting num 0))⟩
  | present {h h' : Nat} {num : UInt8} {use : IfaceUse}
      (hl : d.interfaces.lookup num = some h') :
      EnsureMove d (.ifaceInsert h num use) .go ⟨d, afterInterface h' num use, none⟩
  | insert {h : Nat} {num : UInt8} {use : IfaceUse} (hl : d.interfaces.lookup num = none) :
      EnsureMove d (.ifaceInsert h num use) .go
        ⟨{ d with interfaces := d.interfaces.insert num h }, afterInterface h num use, none⟩

inductive DataMove (d : OpenedDevice) (t : Nat) (epAddr : UInt8) (length : Nat)
    (outData : Bytes) : CallPc → CallAction → CallStep → Prop
  | unconfigured (hc : d.activeConfiguration = none) :
      DataMove d t epAddr length outData .activeConfiguration .go
        ⟨d, .done (.error (.endpointNotFound epAddr)), none⟩
  | configured {cfg : Configuration} (hc : d.activeConfiguration = some cfg) :
      DataMove d t epAddr length outData .activeConfiguration .go ⟨d, .altMap cfg, none⟩
  | resolved {cfg : Configuration} {order : List UInt8} {num : UInt8} {kind : EpKind}
      (ho : order.Perm cfg.interfaceNumbers)
      (hk : endpointKind cfg d.altSettings epAddr order = .ok (num, kind)) :
      DataMove d t epAddr length outData (.altMap cfg) (.walk order) ⟨d, .epLookup num kind, none⟩
  | unresolved {cfg : Configuration} {order : List UInt8} {e : HostError}
      (ho : order.Perm cfg.interfaceNumbers)
      (hk : endpointKind cfg d.altSettings epAddr order = .error e) :
      DataMove d t epAddr length outData (.altMap cfg) (.walk order) ⟨d, .done (.error e), none⟩
  | hit {num : UInt8} {kind : EpKind} {entry : EndpointEntry}
      (hl : d.endpoints.lookup epAddr = some entry) :
      DataMove d t epAddr length outData (.epLookup num kind) .go ⟨d, .epWait entry.ep, none⟩
  | miss {num : UInt8} {kind : EpKind} (hl : d.endpoints.lookup epAddr = none) :
      DataMove d t epAddr length outData (.epLookup num kind) .go
        ⟨d, .ifaceLookup num (.ensureEndpoint kind), none⟩
  | opened {h : Nat} {num : UInt8} {kind : EpKind} {mps : Nat} :
      DataMove d t epAddr length outData (.openEp h num kind) (.opened mps)
        ⟨{ d with eps := d.eps ++ [⟨epAddr, kind, h, mps⟩] }, .clearHalt d.eps.length num, none⟩
  | openFailed {h : Nat} {num : UInt8} {kind : EpKind} :
      DataMove d t epAddr length outData (.openEp h num kind) .err
        ⟨d, .done (.error .nusb), none⟩
  | clearHalt {e : Nat} {num : UInt8} {a : CallAction} (ha : a = .ok ∨ a = .err) :
      DataMove d t epAddr length outData (.clearHalt e num) a
        ⟨d, .epInsert e num, some (.started (.clearHalt e))⟩
  | present {e : Nat} {num : UInt8} {entry : EndpointEntry}
      (hl : d.endpoints.lookup epAddr = some entry) :
      DataMove d t epAddr length outData (.epInsert e num) .go ⟨d, .epWait entry.ep, none⟩
  | insert {e : Nat} {num : UInt8} (hl : d.endpoints.lookup epAddr = none) :
      DataMove d t epAddr length outData (.epInsert e num) .go
        ⟨{ d with endpoints := d.endpoints.insert epAddr ⟨num, e⟩ }, .epWait e, none⟩
  | lock {e : Nat} (hl : d.epLock e = .free) :
      DataMove d t epAddr length outData (.epWait e) .go
        ⟨d.setLock e (.held (.call t)), .epLocked e, some (.locked e)⟩
  | poisoned {e : Nat} (hl : d.epLock e = .poisoned) :
      DataMove d t epAddr length outData (.epWait e) .go ⟨d, .panicked, none⟩
  | transfer {e : Nat} :
      DataMove d t epAddr length outData (.epLocked e) .go
        ⟨d, .transferring e false, some (.started (transferRequest epAddr length outData e
          ((d.eps[e]?.map (·.maxPacketSize)).getD 0)))⟩
  | completed {e : Nat} {hit : Bool} {comp : Completion} :
      DataMove d t epAddr length outData (.transferring e hit) (.completed comp)
        ⟨d, .transferred e comp, none⟩
  | finish {e : Nat} {comp : Completion} :
      DataMove d t epAddr length outData (.transferred e comp) .go
        ⟨d.setLock e .free, .done ((finishTransfer epAddr length comp).map .transfer), none⟩
  | ensure {pc : CallPc} {a : CallAction} {r : CallStep} (hm : EnsureMove d pc a r) :
      DataMove d t epAddr length outData pc a r

inductive ControlMove (d : OpenedDevice) (setup : SetupPacket) (outData : Bytes) :
    CallPc → CallAction → CallStep → Prop
  | clearEndpoints :
      ControlMove d setup outData .clearEndpoints .go
        ⟨{ d with endpoints := ∅ }, .clearInterfaces, none⟩
  | clearInterfaces :
      ControlMove d setup outData .clearInterfaces .go
        ⟨{ d with interfaces := ∅ }, .clearAlts, none⟩
  | clearAlts :
      ControlMove d setup outData .clearAlts .go ⟨{ d with altSettings := ∅ }, .setConfig, none⟩
  | setConfig :
      ControlMove d setup outData .setConfig .go
        ⟨d, .settingConfig,
          some (.started (.setConfiguration (setup.wValue &&& 0xFF).toUInt8))⟩
  | configured :
      ControlMove d setup outData .settingConfig .ok
        ⟨{ d with activeConfigurationValue := (setup.wValue &&& 0xFF).toUInt8 },
          .done (.ok (.bytes [])), none⟩
  | configureFailed :
      ControlMove d setup outData .settingConfig .err ⟨d, .done (.error .nusb), none⟩
  | invalidate :
      ControlMove d setup outData .invalidate .go
        ⟨d.invalidateInterfaceEndpoints (setup.wIndex &&& 0xFF).toUInt8,
          .ifaceLookup (setup.wIndex &&& 0xFF).toUInt8 .setInterface, none⟩
  | setAlt {h : Nat} :
      ControlMove d setup outData (.setAlt h) .go
        ⟨d, .settingAlt h, some (.started (.setAltSetting (setup.wIndex &&& 0xFF).toUInt8
          (setup.wValue &&& 0xFF).toUInt8))⟩
  | selected {h : Nat} :
      ControlMove d setup outData (.settingAlt h) .ok
        ⟨d.setHandleAlt h (setup.wValue &&& 0xFF).toUInt8, .recordAlt, none⟩
  | selectFailed {h : Nat} :
      ControlMove d setup outData (.settingAlt h) .err ⟨d, .done (.error .nusb), none⟩
  | recordAlt :
      ControlMove d setup outData .recordAlt .go
        ⟨{ d with
            altSettings := d.altSettings.insert (setup.wIndex &&& 0xFF).toUInt8
              (setup.wValue &&& 0xFF).toUInt8 }, .done (.ok (.bytes [])), none⟩
  | control :
      ControlMove d setup outData .control .go
        ⟨d, .controlling, some (.started (passthrough setup outData))⟩
  | answered {data : Bytes} :
      ControlMove d setup outData .controlling (.answered (.ok data))
        ⟨d, .done (.ok (.bytes (if setup.isIn then data else []))), none⟩
  | failed {e : TransferError} :
      ControlMove d setup outData .controlling (.answered (.error e))
        ⟨d, .done (.error (.transfer e)), none⟩
  | ensure {pc : CallPc} {a : CallAction} {r : CallStep} (hm : EnsureMove d pc a r) :
      ControlMove d setup outData pc a r

inductive CallMove (d : OpenedDevice) (t : Nat) (pc : CallPc) (a : CallAction) (r : CallStep) :
    Call → Prop
  | data {epAddr : UInt8} {length : Nat} {outData : Bytes}
      (hm : DataMove d t epAddr length outData pc a r) :
      CallMove d t pc a r (.data epAddr length outData)
  | control {setup : SetupPacket} {outData : Bytes} (hm : ControlMove d setup outData pc a r) :
      CallMove d t pc a r (.control setup outData)

variable {d : OpenedDevice} {t : Nat} {c : Call} {pc : CallPc} {a : CallAction} {r : CallStep}

theorem ensureInterfaceStep_move (h : d.ensureInterfaceStep pc a = some r) :
    EnsureMove d pc a r := by
  unfold OpenedDevice.ensureInterfaceStep at h
  split at h
  · split at h <;> cases h
    · exact .hit ‹_›
    · exact .miss ‹_›
  · cases h
    exact .claim
  · cases h
    exact .claimFailed
  · cases h
    exact .select
  · cases h
    exact .selectFailed
  · split at h <;> cases h
    · exact .present ‹_›
    · exact .insert ‹_›
  · cases h

theorem dataTransferStep_move {epAddr : UInt8} {length : Nat} {outData : Bytes}
    (h : d.dataTransferStep t epAddr length outData pc a = some r) :
    DataMove d t epAddr length outData pc a r := by
  unfold OpenedDevice.dataTransferStep at h
  split at h
  · split at h <;> cases h
    · exact .unconfigured ‹_›
    · exact .configured ‹_›
  · split_ifs at h with ho
    split at h <;> cases h
    · exact .resolved ho ‹_›
    · exact .unresolved ho ‹_›
  · split at h <;> cases h
    · exact .hit ‹_›
    · exact .miss ‹_›
  · cases h
    exact .opened
  · cases h
    exact .openFailed
  · cases h
    exact .clearHalt (.inl rfl)
  · cases h
    exact .clearHalt (.inr rfl)
  · split at h <;> cases h
    · exact .present ‹_›
    · exact .insert ‹_›
  · split at h <;> cases h
    · exact .lock ‹_›
    · exact .poisoned ‹_›
  · cases h
    exact .transfer
  · cases h
    exact .completed
  · cases h
    exact .finish
  · exact .ensure (ensureInterfaceStep_move h)

theorem controlTransferStep_move {setup : SetupPacket} {outData : Bytes}
    (h : d.controlTransferStep setup outData pc a = some r) :
    ControlMove d setup outData pc a r := by
  unfold OpenedDevice.controlTransferStep at h
  split at h
  case h_15 => exact .ensure (ensureInterfaceStep_move h)
  all_goals
    cases h
    constructor

theorem callStep_move (h : d.callStep t c pc a = some r) : CallMove d t pc a r c := by
  cases c with
  | data epAddr length outData => exact .data (dataTransferStep_move h)
  | control setup outData => exact .control (controlTransferStep_move h)

end Usbip.Host
