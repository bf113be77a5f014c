import UsbipdDarwin.Host.Pool
import UsbipdDarwin.Host.Settled

/-! A `SET_CONFIGURATION` or `SET_INTERFACE` that `nusb` refuses. The handlers update the maps
before they ask, so a refusal can leave `alt_settings` behind what the interfaces were
set to. -/

namespace Usbip.Host
open Proto Lts

namespace OpenedDevice

/-- The setting transfers on an interface run under: that of its claimed handle, and 0 where
`ensure_interface` has yet to claim it. -/
def currentAlt (d : OpenedDevice) (num : UInt8) : UInt8 :=
  (((d.interfaces.lookup num).bind (d.handles[·]?)).map (·.alt)).getD 0

def callRun (d : OpenedDevice) (t : Nat) (call : Call) :
    CallPc → List CallAction → Option (OpenedDevice × CallPc)
  | pc, [] => some (d, pc)
  | pc, a :: as => (d.callStep t call pc a).bind fun r => r.device.callRun t call r.pc as

def Unselected (d : OpenedDevice) : Prop :=
  (∀ num, (d.altSettings.lookup num).getD 0 = 0) ∧ ∀ num, d.currentAlt num = 0

section Kept

variable {d₀ d : OpenedDevice} {num : UInt8} {h : Nat}

theorem currentAlt_of_unclaimed (hl : d.interfaces.lookup num = none) : d.currentAlt num = 0 := by
  rw [currentAlt, hl]
  rfl

theorem currentAlt_of_claimed {i : Interface} (hl : d.interfaces.lookup num = some h)
    (hi : d.handles[h]? = some i) : d.currentAlt num = i.alt := by
  rw [currentAlt, hl, Option.bind_some, hi]
  rfl

/-- What `endpoint_kind` and later transfers go by is as it was in `d₀`. -/
structure Kept (d₀ d : OpenedDevice) : Prop where
  configuration : d.activeConfiguration = d₀.activeConfiguration
  recorded : ∀ num, (d.altSettings.lookup num).getD 0 = (d₀.altSettings.lookup num).getD 0
  selected : ∀ num, d.currentAlt num = d₀.currentAlt num
  handles : ∀ (h : Nat) (i : Interface), d₀.handles[h]? = some i → d.handles[h]? = some i
  eps : ∀ (e : Nat) (ep : AnyEp), d₀.eps[e]? = some ep → d.eps[e]? = some ep
  backed : ∀ num h, d.interfaces.lookup num = some h → h < d.handles.length

theorem Kept.refl (hb : ∀ num h, d.interfaces.lookup num = some h → h < d.handles.length) :
    d.Kept d :=
  ⟨rfl, fun _ => rfl, fun _ => rfl, fun _ _ h => h, fun _ _ h => h, hb⟩

theorem Kept.endpointKind (hk : d₀.Kept d) (epAddr : UInt8) (order : List UInt8) :
    d.endpointKind epAddr order = d₀.endpointKind epAddr order := by
  rw [OpenedDevice.endpointKind, OpenedDevice.endpointKind, hk.configuration]
  split
  · rfl
  · -- the walk reads a setting with 0 as the default, so an entry of 0 and none are alike
    induction order with
    | nil => rfl
    | cons num rest ih =>
      rw [Host.endpointKind, Host.endpointKind, hk.recorded num, ih]

theorem Kept.claim (hk : d₀.Kept d) (i : Interface) :
    d₀.Kept { d with handles := d.handles ++ [i] } where
  configuration := hk.configuration
  recorded := hk.recorded
  selected := by
    intro num
    rw [← hk.selected num]
    cases hl : d.interfaces.lookup num with
    | none => simp only [currentAlt, hl, Option.bind_none]
    | some h =>
      simp only [currentAlt, hl, Option.bind_some]
      rw [List.getElem?_append_left (hk.backed num h hl)]
  handles := by
    intro h i' hi
    have hold := hk.handles h i' hi
    exact (List.getElem?_append_left (lt_length_of_getElem? hold)).trans hold
  eps := hk.eps
  backed := by
    intro num h hl
    rw [List.length_append]
    exact Nat.lt_add_right _ (hk.backed num h hl)

theorem Kept.insertInterface (hk : d₀.Kept d) (hn : d.interfaces.lookup num = none)
    (hh : d.handles[h]? = some ⟨num, 0⟩) :
    d₀.Kept { d with interfaces := d.interfaces.insert num h } where
  configuration := hk.configuration
  recorded := hk.recorded
  selected := by
    intro num'
    rw [← hk.selected num']
    by_cases hne : num' = num
    · subst hne
      rw [currentAlt_of_unclaimed hn]
      exact currentAlt_of_claimed (d := { d with interfaces := d.interfaces.insert num' h })
        (AList.lookup_insert _) hh
    · simp only [currentAlt, AList.lookup_insert_ne hne]
  handles := hk.handles
  eps := hk.eps
  backed := by
    intro num' h' hl
    rcases lookup_of_insert hl with ⟨-, rfl⟩ | ⟨-, hold⟩
    · exact lt_length_of_getElem? hh
    · exact hk.backed num' h' hold

theorem Kept.clearInterfaces (hk : d₀.Kept d) (hu : d₀.Unselected) :
    d₀.Kept { d with interfaces := ∅ } where
  configuration := hk.configuration
  recorded := hk.recorded
  selected := by
    intro num
    rw [hu.2 num]
    exact currentAlt_of_unclaimed rfl
  handles := hk.handles
  eps := hk.eps
  backed := nofun

theorem Kept.clearAlts (hk : d₀.Kept d) (hu : d₀.Unselected) :
    d₀.Kept { d with altSettings := ∅ } where
  configuration := hk.configuration
  recorded := by
    intro num
    rw [hu.1 num]
    rfl
  selected := hk.selected
  handles := hk.handles
  eps := hk.eps
  backed := hk.backed

theorem Kept.openEndpoint (hk : d₀.Kept d) (ep : AnyEp) :
    d₀.Kept { d with eps := d.eps ++ [ep] } where
  configuration := hk.configuration
  recorded := hk.recorded
  selected := hk.selected
  handles := hk.handles
  eps := by
    intro e ep' hep
    have hold := hk.eps e ep' hep
    exact (List.getElem?_append_left (lt_length_of_getElem? hold)).trans hold
  backed := hk.backed

theorem Kept.cached (hk : d₀.Kept d) (endpoints : HashMap UInt8 EndpointEntry)
    (epLock : Nat → Lock Owner) :
    d₀.Kept { d with endpoints := endpoints, epLock := epLock } :=
  ⟨hk.configuration, hk.recorded, hk.selected, hk.handles, hk.eps, hk.backed⟩

end Kept

end OpenedDevice

/-- What is kept at each point of a call that runs alone. Only past `set_alt_setting` and
`set_configuration` is anything new, and there the call no longer fails. -/
def CallPc.KeepsAlts (d₀ d : OpenedDevice) : CallPc → Prop
  | .claim num _ => d₀.Kept d ∧ d.interfaces.lookup num = none
  | .selectAlt h num _ | .ifaceInsert h num _ =>
    d₀.Kept d ∧ d.interfaces.lookup num = none ∧ d.handles[h]? = some ⟨num, 0⟩
  | .openEp h num _ => d₀.Kept d ∧ d.interfaces.lookup num = some h
  | .clearEndpoints | .clearInterfaces | .clearAlts => d₀.Kept d ∧ d₀.Unselected
  | .recordAlt | .done (.ok _) => True
  | _ => d₀.Kept d

section Alone

variable {d₀ d : OpenedDevice} {t : Nat} {call : Call} {pc pc' : CallPc} {a : CallAction}
  {r : CallStep}

theorem keepsAlts_afterInterface {h : Nat} {num : UInt8} (hk : d₀.Kept d)
    (hl : d.interfaces.lookup num = some h) (use : IfaceUse) :
    (afterInterface h num use).KeepsAlts d₀ d := by
  cases use with
  | ensureEndpoint kind => exact ⟨hk, hl⟩
  | setInterface => exact hk

theorem keepsAlts_ensure (hm : EnsureMove d pc a r) (h : pc.KeepsAlts d₀ d) :
    r.pc.KeepsAlts d₀ r.device := by
  cases hm with
  | hit hl => exact keepsAlts_afterInterface h hl _
  | miss hl => exact ⟨h, hl⟩
  | claim =>
    obtain ⟨hk, hn⟩ := h
    exact ⟨hk.claim _, hn, List.getElem?_concat_length⟩
  | claimFailed => exact h.1
  | select =>
    -- a handle is claimed at setting 0, so selecting 0 changes nothing
    rw [OpenedDevice.setHandleAlt_self h.2.2]
    exact h
  | selectFailed => exact h
  | present hl => exact keepsAlts_afterInterface h.1 hl _
  | insert hl =>
    obtain ⟨hk, hn, hh⟩ := h
    exact keepsAlts_afterInterface (hk.insertInterface hn hh) (AList.lookup_insert _) _

theorem keepsAlts_data {epAddr : UInt8} {length : Nat} {outData : Bytes}
    (hm : DataMove d t epAddr length outData pc a r) (h : pc.KeepsAlts d₀ d) :
    r.pc.KeepsAlts d₀ r.device := by
  cases hm with
  | opened => exact h.1.openEndpoint _
  | openFailed => exact h.1
  | insert => exact h.cached _ _
  | lock => exact h.cached _ _
  | @finish e comp =>
    have hk : d₀.Kept (d.setLock e .free) := h.cached _ _
    cases finishTransfer epAddr length comp with
    | ok => trivial
    | error => exact hk
  | ensure hm => exact keepsAlts_ensure hm h
  | _ => exact h

theorem keepsAlts_control {setup : SetupPacket} {outData : Bytes}
    (hm : ControlMove d setup outData pc a r) (h : pc.KeepsAlts d₀ d) :
    r.pc.KeepsAlts d₀ r.device := by
  cases hm with
  | clearEndpoints => exact ⟨h.1.cached _ _, h.2⟩
  | clearInterfaces => exact ⟨h.1.clearInterfaces h.2, h.2⟩
  | clearAlts => exact h.1.clearAlts h.2
  | invalidate => exact h.cached _ _
  | configured | selected | recordAlt | answered => trivial
  | ensure hm => exact keepsAlts_ensure hm h
  | _ => exact h

theorem callRun_invariant {I : OpenedDevice → CallPc → Prop}
    (hstep : ∀ {d pc a r}, I d pc → d.callStep t call pc a = some r → I r.device r.pc)
    {as : List CallAction} {d' : OpenedDevice} (h : I d pc)
    (hrun : d.callRun t call pc as = some (d', pc')) : I d' pc' := by
  induction as generalizing d pc with
  | nil =>
    cases hrun
    exact h
  | cons a as ih =>
    obtain ⟨r, hr, hrest⟩ := Option.bind_eq_some_iff.mp hrun
    exact ih (hstep h hr) hrest

theorem keepsAlts_run {as : List CallAction} {d' : OpenedDevice} (h : pc.KeepsAlts d₀ d)
    (hrun : d.callRun t call pc as = some (d', pc')) : pc'.KeepsAlts d₀ d' := by
  refine callRun_invariant (I := fun d pc => pc.KeepsAlts d₀ d) (fun h hr => ?_) h hrun
  cases callStep_move hr with
  | data hm => exact keepsAlts_data hm h
  | control hm => exact keepsAlts_control hm h

/-- How far a `SET_CONFIGURATION` has cleared the tables of the settings. -/
def CallPc.Cleared (d : OpenedDevice) : CallPc → Prop
  | .clearEndpoints | .clearInterfaces => True
  | .clearAlts => d.interfaces = ∅
  | .setConfig | .settingConfig | .done _ => d.interfaces = ∅ ∧ d.altSettings = ∅
  | _ => False

theorem cleared_step {setup : SetupPacket} {outData : Bytes}
    (hm : ControlMove d setup outData pc a r) (h : pc.Cleared d) : r.pc.Cleared r.device := by
  cases hm with
  | clearEndpoints => trivial
  | clearInterfaces => rfl
  | clearAlts => exact ⟨h, rfl⟩
  | setConfig | configured | configureFailed => exact h
  | ensure hm => cases hm <;> cases h
  | _ => cases h

theorem cleared_of_run {setup : SetupPacket} {outData : Bytes} {as : List CallAction}
    {d' : OpenedDevice} (h : pc.Cleared d)
    (hrun : d.callRun t (.control setup outData) pc as = some (d', pc')) : pc'.Cleared d' := by
  refine callRun_invariant (I := fun d pc => pc.Cleared d) (fun h hr => ?_) h hrun
  cases callStep_move hr with
  | control hm => exact cleared_step hm h

theorem cleared_run {setup : SetupPacket} {outData : Bytes} {as : List CallAction}
    {d' : OpenedDevice} {result : Except HostError CallValue}
    (hconfig : isSetConfiguration setup = true)
    (hrun : d.callRun t (.control setup outData) (Call.control setup outData).start as =
      some (d', .done result)) : d'.Unselected := by
  rw [Call.start, if_pos hconfig] at hrun
  have hstart : CallPc.Cleared d .clearEndpoints := trivial
  obtain ⟨hinterfaces, halts⟩ := cleared_of_run hstart hrun
  constructor
  · intro num
    rw [halts]
    rfl
  · intro num
    refine OpenedDevice.currentAlt_of_unclaimed ?_
    rw [hinterfaces]
    rfl

end Alone

namespace Pool

variable {configurations : List Configuration} {active : UInt8} {s : Pool}

/-- A refused `SET_INTERFACE` leaves every alternate setting as it was, and so does a refused
`SET_CONFIGURATION` if none but 0 was recorded or selected: `endpoint_kind` answers the same,
open endpoints stay under the settings they had, and those that are opened later come under
the settings of before. What was recorded or selected besides, a refused `SET_CONFIGURATION`
loses. -/
theorem refused_request_keeps_alts (hs : (system (opened configurations active)).Reachable s)
    {setup : SetupPacket} {outData : Bytes}
    (hreq : isSetInterface setup = true ∨ isSetConfiguration setup = true)
    {t : Nat} {as : List CallAction} {d : OpenedDevice} {e : HostError}
    (hrun : s.device.callRun t (.control setup outData) (Call.control setup outData).start as =
      some (d, .done (.error e))) :
    (isSetInterface setup = true ∨ s.device.Unselected →
      (∀ epAddr order, d.endpointKind epAddr order = s.device.endpointKind epAddr order) ∧
      (∀ num, d.currentAlt num = s.device.currentAlt num) ∧
      (∀ (e : Nat) (ep : AnyEp) (i : Interface), s.device.eps[e]? = some ep →
        s.device.handles[ep.iface]? = some i →
        d.eps[e]? = some ep ∧ d.handles[ep.iface]? = some i) ∧
      ∀ t' epAddr length outData' as' d' h num kind,
        d.callRun t' (.data epAddr length outData') .activeConfiguration as' =
          some (d', .openEp h num kind) →
        d'.handles[h]?.map (·.alt) = some (s.device.currentAlt num)) ∧
    (isSetConfiguration setup = true → d.Unselected) := by
  refine ⟨fun hkeeps => ?_, fun hconfig => cleared_run hconfig hrun⟩
  have hbacked := (noDangling hs).1.interfaces
  have hstart : (Call.control setup outData).start.KeepsAlts s.device s.device := by
    cases hconfig : isSetConfiguration setup with
    | true =>
      have hiface := not_isSetInterface hconfig
      rw [Call.start, if_pos hconfig]
      exact ⟨.refl hbacked, hkeeps.resolve_left (by rw [hiface]; exact Bool.false_ne_true)⟩
    | false =>
      have hiface := hreq.resolve_right (by rw [hconfig]; exact Bool.false_ne_true)
      rw [Call.start, if_neg (by rw [hconfig]; exact Bool.false_ne_true), if_pos hiface]
      exact .refl hbacked
  have hkept : s.device.Kept d := keepsAlts_run hstart hrun
  refine ⟨hkept.endpointKind, hkept.selected, fun e ep i hep hi => ?_, ?_⟩
  · exact ⟨hkept.eps e ep hep, hkept.handles _ i hi⟩
  · intro t' epAddr length outData' as' d' h num kind hlater
    have hd : CallPc.KeepsAlts d d .activeConfiguration := .refl hkept.backed
    obtain ⟨hkept', hl⟩ := keepsAlts_run hd hlater
    have hhandle := List.getElem?_eq_getElem (hkept'.backed num h hl)
    rw [← hkept.selected num, ← hkept'.selected num,
      OpenedDevice.currentAlt_of_claimed hl hhandle, hhandle]
    rfl

namespace Sample

def twoAlts : Configuration :=
  ⟨1, [⟨0, 0, [⟨0x81, .bulk, 512⟩]⟩, ⟨0, 1, [⟨0x81, .interrupt, 64⟩]⟩]⟩

def altRequest (alt : UInt16) : SetupPacket := ⟨0x01, 0x0B, alt, 0, 0⟩

def configRequest : SetupPacket := ⟨0x00, 0x09, 1, 0, 0⟩

def selecting : List Action :=
  .start (.control (altRequest 1) []) ::
    [.go, .go, .ok, .ok, .go, .go, .ok, .go].map (.advance 0)

def refusal (s : Pool) (setup : SetupPacket) (as : List CallAction) : Option OpenedDevice :=
  match s.device.callRun 1 (.control setup []) (Call.control setup []).start as with
  | some (d, .done (.error .nusb)) => some d
  | _ => none

theorem of_refusal {s : Pool} {setup : SetupPacket} {as : List CallAction} {d : OpenedDevice}
    (h : refusal s setup as = some d) :
    s.device.callRun 1 (.control setup []) (Call.control setup []).start as =
      some (d, .done (.error .nusb)) := by
  unfold refusal at h
  split at h
  · rename_i hrun
    cases h
    exact hrun
  · cases h

end Sample

theorem refused_request_keeps_alts_second : ∃ s d,
    (system (opened [Sample.twoAlts] 1)).Reachable s ∧
    s.device.callRun 1 (.control (Sample.altRequest 0) []) .invalidate [.go, .go, .go, .err] =
      some (d, .done (.error .nusb)) ∧
    d.currentAlt 0 = 1 ∧ d.endpointKind 0x81 [0] = .ok (0, .interrupt) := by
  have hrun : ((system (opened [Sample.twoAlts] 1)).run (opened [Sample.twoAlts] 1)
      Sample.selecting).map (fun s => (s.device.currentAlt 0, s.device.endpointKind 0x81 [0],
        (Sample.refusal s (Sample.altRequest 0) [.go, .go, .go, .err]).isSome)) =
      some (1, .ok (0, .interrupt), true) := rfl
  obtain ⟨s, hs, hout⟩ := System.exists_reachable_of_run rfl hrun
  simp only [Prod.mk.injEq, Option.isSome_iff_exists] at hout
  obtain ⟨halt, hkind, d, hd⟩ := hout
  have hkept := (refused_request_keeps_alts hs (.inl rfl) (Sample.of_refusal hd)).1 (.inl rfl)
  refine ⟨s, d, hs, Sample.of_refusal hd, ?_, ?_⟩
  · rw [hkept.2.1, halt]
  · rw [hkept.1, hkind]

/-- `SET_CONFIGURATION` refused while interface 0 is at setting 1: the endpoint is looked up,
and opened again, under setting 0. -/
theorem refused_configuration_resets_alts : ∃ s d,
    (system (opened [Sample.twoAlts] 1)).Reachable s ∧ s.idle = true ∧
    s.device.callRun 1 (.control Sample.configRequest []) .clearEndpoints
      [.go, .go, .go, .go, .err] = some (d, .done (.error .nusb)) ∧
    s.device.endpointKind 0x81 [0] = .ok (0, .interrupt) ∧
    d.endpointKind 0x81 [0] = .ok (0, .bulk) ∧
    s.device.currentAlt 0 = 1 ∧ d.currentAlt 0 = 0 := by
  have hrun : ((system (opened [Sample.twoAlts] 1)).run (opened [Sample.twoAlts] 1)
      Sample.selecting).map (fun s => (s.idle, s.device.endpointKind 0x81 [0],
        s.device.currentAlt 0,
        (Sample.refusal s Sample.configRequest [.go, .go, .go, .go, .err]).map fun d =>
          (d.endpointKind 0x81 [0], d.currentAlt 0))) =
      some (true, .ok (0, .interrupt), 1, some (.ok (0, .bulk), 0)) := rfl
  obtain ⟨s, hs, hout⟩ := System.exists_reachable_of_run rfl hrun
  simp only [Prod.mk.injEq, Option.map_eq_some_iff] at hout
  obtain ⟨hidle, hkind, halt, d, hd, hkind', halt'⟩ := hout
  exact ⟨s, d, hs, hidle, Sample.of_refusal hd, hkind, hkind', halt, halt'⟩

end Pool

end Usbip.Host
