import UsbipdDarwin.Host.Move

/-! What a finished call hands back, given what `nusb` answered to it last, and given
what `nusb` promises about the completions of its transfers. -/

namespace Usbip.Host
open Proto

/-- A successful IN completion holds exactly the bytes it counts, and an OUT
completion counts no more than was submitted. -/
def Completion.Sound (epAddr : UInt8) (outData : Bytes) (comp : Completion) : Prop :=
  comp.status = .ok () →
    if isIn epAddr then comp.buffer.length = comp.actualLen else comp.actualLen ≤ outData.length

/-- The results of a call: an error, the bytes of a control transfer, or what
`data_transfer` makes of a sound completion. -/
inductive Call.Delivers : Call → Except HostError CallValue → Prop
  | error (c : Call) (e : HostError) : Delivers c (.error e)
  | control (setup : SetupPacket) (outData data : Bytes) :
      Delivers (.control setup outData) (.ok (.bytes data))
  | data (epAddr : UInt8) (length : Nat) (outData : Bytes) (comp : Completion)
      (h : comp.Sound epAddr outData) :
      Delivers (.data epAddr length outData) ((finishTransfer epAddr length comp).map .transfer)

def CallAction.Sound (c : Call) : CallAction → Prop
  | .completed comp => ∀ epAddr length outData, c = .data epAddr length outData →
      comp.Sound epAddr outData
  | _ => True

def CallPc.Delivers (c : Call) : CallPc → Prop
  | .transferred _ comp => ∀ epAddr length outData, c = .data epAddr length outData →
      comp.Sound epAddr outData
  | .done r => c.Delivers r
  | _ => True

theorem delivers_start (c : Call) : c.start.Delivers c := by
  cases c with
  | data => trivial
  | control setup outData =>
    simp only [Call.start]
    split_ifs <;> trivial

theorem delivers_afterInterface (c : Call) (h : Nat) (num : UInt8) (use : IfaceUse) :
    (afterInterface h num use).Delivers c := by
  cases use <;> trivial

variable {d : OpenedDevice} {t : Nat} {c : Call} {pc : CallPc} {a : CallAction} {r : CallStep}

theorem EnsureMove.delivers (hm : EnsureMove d pc a r) : r.pc.Delivers c := by
  cases hm with
  | hit | present | insert => exact delivers_afterInterface ..
  | claimFailed => exact .error _ _
  | miss | claim | select | selectFailed => trivial

theorem DataMove.delivers {epAddr : UInt8} {length : Nat} {outData : Bytes}
    (hm : DataMove d t epAddr length outData pc a r)
    (hpc : pc.Delivers (.data epAddr length outData))
    (ha : a.Sound (.data epAddr length outData)) : r.pc.Delivers (.data epAddr length outData) := by
  cases hm with
  | unconfigured | unresolved | openFailed => exact .error _ _
  | completed => exact ha
  | finish => exact .data _ _ _ _ (hpc _ _ _ rfl)
  | ensure hm => exact hm.delivers
  | _ => trivial

theorem ControlMove.delivers {setup : SetupPacket} {outData : Bytes}
    (hm : ControlMove d setup outData pc a r) : r.pc.Delivers (.control setup outData) := by
  cases hm with
  | configured | recordAlt | answered => exact .control _ _ _
  | configureFailed | selectFailed | failed => exact .error _ _
  | ensure hm => exact hm.delivers
  | _ => trivial

theorem callStep_delivers (h : d.callStep t c pc a = some r) (hpc : pc.Delivers c)
    (ha : a.Sound c) : r.pc.Delivers c := by
  cases callStep_move h with
  | data hm => exact hm.delivers hpc ha
  | control hm => exact hm.delivers

/-- What `nusb` came back with: the completion of a transfer on an endpoint, the answer to
a control request, or how one of its other calls went. -/
inductive Answered
  | completion (comp : Completion)
  | control (r : Except TransferError Bytes)
  | status (ok : Bool)

def CallAction.answer : CallAction → Option Answered → Option Answered
  | .completed comp, _ => some (.completion comp)
  | .answered r, _ => some (.control r)
  | .ok, _ | .opened _, _ => some (.status true)
  | .err, _ => some (.status false)
  | .go, x | .walk _, x => x

inductive Call.Yields : Call → Option Answered → Except HostError CallValue → Prop
  | completed {epAddr : UInt8} {length : Nat} {outData : Bytes} {comp : Completion} :
      Yields (.data epAddr length outData) (some (.completion comp))
        ((finishTransfer epAddr length comp).map .transfer)
  | answered {setup : SetupPacket} {outData data : Bytes} :
      Yields (.control setup outData) (some (.control (.ok data)))
        (.ok (.bytes (if setup.isIn then data else [])))
  | refused {setup : SetupPacket} {outData : Bytes} {e : TransferError} :
      Yields (.control setup outData) (some (.control (.error e))) (.error (.transfer e))
  -- SET_CONFIGURATION and SET_INTERFACE are calls of `nusb` of their own
  | carriedOut {setup : SetupPacket} {outData : Bytes} :
      Yields (.control setup outData) (some (.status true)) (.ok (.bytes []))
  | failed {c : Call} : Yields c (some (.status false)) (.error .nusb)
  -- no endpoint of that address: `nusb` was not asked for anything
  | unresolved {epAddr : UInt8} {length : Nat} {outData : Bytes} {e : HostError} :
      Yields (.data epAddr length outData) none (.error e)

def CallPc.Tracks (c : Call) (x : Option Answered) : CallPc → Prop
  | .activeConfiguration | .altMap _ => x = none
  | .transferred _ comp => x = some (.completion comp)
  | .recordAlt => x = some (.status true)
  | .done r => c.Yields x r
  | _ => True

section Tracks

variable {x : Option Answered}

theorem tracks_start (c : Call) : c.start.Tracks c none := by
  cases c with
  | data => rfl
  | control setup outData =>
    simp only [Call.start]
    split_ifs <;> trivial

theorem tracks_afterInterface (c : Call) (h : Nat) (num : UInt8) (use : IfaceUse) :
    (afterInterface h num use).Tracks c x := by
  cases use <;> trivial

theorem EnsureMove.tracks (hm : EnsureMove d pc a r) : r.pc.Tracks c (a.answer x) := by
  cases hm with
  | hit | present | insert => exact tracks_afterInterface ..
  | claimFailed => exact .failed
  | miss | claim | select | selectFailed => trivial

theorem DataMove.tracks {epAddr : UInt8} {length : Nat} {outData : Bytes}
    (hm : DataMove d t epAddr length outData pc a r)
    (hpc : pc.Tracks (.data epAddr length outData) x) :
    r.pc.Tracks (.data epAddr length outData) (a.answer x) := by
  cases hm with
  | unconfigured | unresolved =>
    obtain rfl : x = none := hpc
    exact .unresolved
  | configured => exact hpc
  | openFailed => exact .failed
  | completed => rfl
  | finish =>
    obtain rfl : x = _ := hpc
    exact .completed
  | ensure hm => exact hm.tracks
  | _ => trivial

theorem ControlMove.tracks {setup : SetupPacket} {outData : Bytes}
    (hm : ControlMove d setup outData pc a r) (hpc : pc.Tracks (.control setup outData) x) :
    r.pc.Tracks (.control setup outData) (a.answer x) := by
  cases hm with
  | answered => exact .answered
  | failed => exact .refused
  | configured => exact .carriedOut
  | selected => rfl
  | recordAlt =>
    obtain rfl : x = _ := hpc
    exact .carriedOut
  | configureFailed | selectFailed => exact .failed
  | ensure hm => exact hm.tracks
  | _ => trivial

theorem callStep_tracks (h : d.callStep t c pc a = some r) (hpc : pc.Tracks c x) :
    r.pc.Tracks c (a.answer x) := by
  cases callStep_move h with
  | data hm => exact hm.tracks hpc
  | control hm => exact hm.tracks hpc

end Tracks

end Usbip.Host
