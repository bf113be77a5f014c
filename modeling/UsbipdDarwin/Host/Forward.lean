import UsbipdDarwin.Host.Progress

/-! What a call asks of the device on behalf of its URB: one request at most, which is the
one the client asked for, and exactly one if the call succeeds. -/

namespace Usbip.Host
open Proto Lts

/-- What a URB is for, apart from selecting an alternate setting: that is also done when an
interface is claimed. -/
def Request.main : Request → Bool
  | .controlIn .. | .controlOut .. | .setConfiguration _ | .transferBlocking .. => true
  | .setAltSetting .. | .clearHalt _ => false

def HostEvent.main : HostEvent → Bool
  | .started req => req.main
  | .locked _ => false

/-- The request a call is to make, `eps` being the endpoints that have been opened: a transfer
goes to one that was opened for its address, in packets of its size. -/
def Call.Asks (eps : List AnyEp) : Call → Request → Prop
  | .control setup outData, req =>
    if isSetConfiguration setup then req = .setConfiguration (setup.wValue &&& 0xFF).toUInt8
    else req = passthrough setup outData
  | .data epAddr length outData, req => ∃ e ep, eps[e]? = some ep ∧ ep.addr = epAddr ∧
      req = transferRequest epAddr length outData e ep.maxPacketSize

/-- How often a call that succeeds has asked: a `SET_INTERFACE` only selects. -/
def Call.asks : Call → Nat
  | .control setup _ => if isSetInterface setup then 0 else 1
  | .data .. => 1

def CallPc.asked : CallPc → Bool
  | .transferring .. | .transferred .. | .settingConfig | .controlling => true
  | _ => false

def CallPc.route (setup : SetupPacket) : CallPc → Bool
  | .clearEndpoints | .clearInterfaces | .clearAlts | .setConfig | .settingConfig =>
    isSetConfiguration setup
  | .control | .controlling => !isSetConfiguration setup && !isSetInterface setup
  | .done _ | .panicked => true
  | _ => isSetInterface setup

def Call.along : Call → CallPc → Bool
  | .data .., pc => pc.ofData || pc.returned
  | .control setup _, pc => !pc.ofData && pc.route setup

def CallPc.Asked (c : Call) (n : Nat) : CallPc → Prop
  | .done (.ok _) => n = c.asks
  | .done (.error _) | .panicked => n ≤ c.asks
  | pc => c.along pc = true ∧ n = if pc.asked then 1 else 0

variable {d : OpenedDevice} {t n : Nat} {c : Call} {pc : CallPc} {a : CallAction} {r : CallStep}
  {setup : SetupPacket} {outData : Bytes} {eps eps' : List AnyEp}

theorem asked_of_not_returned (h : pc.returned = false) :
    pc.Asked c n ↔ c.along pc = true ∧ n = if pc.asked then 1 else 0 := by
  cases pc with
  | done | panicked => cases h
  | _ => rfl

theorem asked_start (c : Call) : c.start.Asked c 0 := by
  cases c with
  | data => exact ⟨rfl, rfl⟩
  | control setup outData =>
    simp only [Call.start]
    split_ifs with hconfig hiface
    · exact ⟨by simpa [Call.along, CallPc.ofData, CallPc.route] using hconfig, rfl⟩
    · exact ⟨by simpa [Call.along, CallPc.ofData, CallPc.route] using hiface, rfl⟩
    · exact ⟨by simp [Call.along, CallPc.ofData, CallPc.route, hconfig, hiface], rfl⟩

theorem Call.asks_of_asked (hon : c.along pc = true) (h : pc.asked = true) : c.asks = 1 := by
  cases c with
  | data => rfl
  | control setup outData =>
    cases pc <;> simp_all [Call.along, CallPc.ofData, CallPc.asked, CallPc.route, Call.asks,
      not_isSetInterface]

theorem CallPc.Asked.le (h : pc.Asked c n) : n ≤ c.asks := by
  cases hreturned : pc.returned with
  | true =>
    cases pc with
    | done r =>
      cases r with
      | ok v => exact Nat.le_of_eq h
      | error e => exact h
    | panicked => exact h
    | _ => cases hreturned
  | false =>
    obtain ⟨hon, hn⟩ := (asked_of_not_returned hreturned).mp h
    split_ifs at hn with hasked
    · rw [hn, Call.asks_of_asked hon hasked]
    · rw [hn]
      exact Nat.zero_le _

def CallStep.adds (r : CallStep) : Nat := if r.event.any HostEvent.main then 1 else 0

/-- What a step leaves of a call that has asked `n` times before it. -/
structure CallStep.Forwards (eps : List AnyEp) (c : Call) (n : Nat) (r : CallStep) : Prop where
  asked : r.pc.Asked c (n + r.adds)
  request : ∀ req, r.event = some (.started req) → req.main = true → c.Asks eps req

theorem CallStep.Forwards.quiet (hmain : r.event.any HostEvent.main = false)
    (h : r.pc.Asked c n) : r.Forwards eps c n where
  asked := by
    have hadds : r.adds = 0 := by simp [CallStep.adds, hmain]
    rw [hadds]
    exact h
  request req hreq hreqmain := by
    rw [hreq] at hmain
    exact absurd hreqmain (by simpa [HostEvent.main] using hmain)

theorem along_afterInterface (c : Call) (h : Nat) (num : UInt8) (use : IfaceUse) :
    c.along (afterInterface h num use) = c.along (.ifaceLookup num use) := by
  cases c <;> cases use <;> rfl

theorem asked_afterInterface (h : Nat) {num : UInt8} {use : IfaceUse}
    (hon : c.along (.ifaceLookup num use) = true) : (afterInterface h num use).Asked c 0 := by
  have hon' := along_afterInterface c h num use
  rw [hon] at hon'
  cases use with
  | ensureEndpoint kind => exact ⟨hon', rfl⟩
  | setInterface => exact ⟨hon', rfl⟩

theorem EnsureMove.forwards (hm : EnsureMove d pc a r) (h : pc.Asked c n) :
    r.Forwards eps c n := by
  cases hm with
  | hit | present | insert =>
    obtain ⟨hon, rfl⟩ := h
    refine .quiet rfl (asked_afterInterface _ ?_)
    cases c <;> exact hon
  | claimFailed =>
    obtain ⟨-, rfl⟩ := h
    exact .quiet rfl (Nat.zero_le _)
  | miss | claim | select | selectFailed =>
    refine .quiet rfl ?_
    cases c <;> exact h

section Aims

def OpenedAt (eps : List AnyEp) (epAddr : UInt8) (e : Nat) : Prop :=
  ∃ ep, eps[e]? = some ep ∧ ep.addr = epAddr

def OpenedDevice.Addressed (d : OpenedDevice) : Prop :=
  ∀ epAddr entry, d.endpoints.lookup epAddr = some entry → OpenedAt d.eps epAddr entry.ep

def Call.endpoint : Call → Option UInt8
  | .data epAddr .. => some epAddr
  | .control .. => none

def CallPc.got : CallPc → Option Nat
  | .clearHalt e _ | .epInsert e _ | .epWait e | .epLocked e => some e
  | _ => none

def Call.Aims (eps : List AnyEp) (c : Call) (pc : CallPc) : Prop :=
  ∀ epAddr ∈ c.endpoint, ∀ e ∈ pc.got, OpenedAt eps epAddr e

theorem OpenedAt.mono {epAddr : UInt8} {e : Nat} (h : OpenedAt eps epAddr e)
    (hgrows : eps <+: eps') : OpenedAt eps' epAddr e := by
  obtain ⟨ep, hep, haddr⟩ := h
  exact ⟨ep, getElem?_of_prefix hep hgrows, haddr⟩

theorem Call.Aims.mono (h : c.Aims eps pc) (hgrows : eps <+: eps') : c.Aims eps' pc :=
  fun epAddr hc e he => (h epAddr hc e he).mono hgrows

theorem Call.aims_of_got (h : pc.got = none) : c.Aims eps pc := by
  intro epAddr _ e he
  rw [h] at he
  cases he

theorem Call.got_start (c : Call) : c.start.got = none := by
  cases c with
  | data => rfl
  | control setup outData =>
    simp only [Call.start]
    split_ifs <;> rfl

theorem Call.Asks.mono {req : Request} (h : c.Asks eps req) (hgrows : eps <+: eps') :
    c.Asks eps' req := by
  cases c with
  | control setup outData => exact h
  | data epAddr length outData =>
    obtain ⟨e, ep, hep, haddr, hreq⟩ := h
    exact ⟨e, ep, getElem?_of_prefix hep hgrows, haddr, hreq⟩

theorem callStep_grows (h : d.callStep t c pc a = some r) : d.eps <+: r.device.eps := by
  have hensure : EnsureMove d pc a r → d.eps <+: r.device.eps := by
    rintro ⟨⟩ <;> exact List.prefix_rfl
  cases callStep_move h with
  | data hm =>
    cases hm with
    | ensure hm => exact hensure hm
    | opened => exact List.prefix_append ..
    | _ => exact List.prefix_rfl
  | control hm =>
    cases hm with
    | ensure hm => exact hensure hm
    | _ => exact List.prefix_rfl

structure CallStep.Aimed (c : Call) (r : CallStep) : Prop where
  addressed : r.device.Addressed
  aims : c.Aims r.device.eps r.pc

theorem EnsureMove.aimed (hm : EnsureMove d pc a r) (hd : d.Addressed) : r.Aimed c := by
  have hafter (h : Nat) (num : UInt8) (use : IfaceUse) : (afterInterface h num use).got = none := by
    cases use <;> rfl
  cases hm with
  | hit | present | insert => exact ⟨hd, Call.aims_of_got (hafter ..)⟩
  | _ => exact ⟨hd, Call.aims_of_got rfl⟩

theorem DataMove.aimed {epAddr : UInt8} {length : Nat}
    (hm : DataMove d t epAddr length outData pc a r) (hd : d.Addressed)
    (hpc : (Call.data epAddr length outData).Aims d.eps pc) :
    r.Aimed (.data epAddr length outData) := by
  have hgot : ∀ {e : Nat} {pc' : CallPc}, OpenedAt d.eps epAddr e → pc'.got = some e →
      (Call.data epAddr length outData).Aims d.eps pc' := by
    intro e pc' hat hpc' epAddr' haddr e' he'
    cases haddr
    rw [hpc'] at he'
    cases he'
    exact hat
  cases hm with
  | ensure hm => exact hm.aimed hd
  | @hit num kind entry hl => exact ⟨hd, hgot (hd epAddr entry hl) rfl⟩
  | @present e num entry hl => exact ⟨hd, hgot (hd epAddr entry hl) rfl⟩
  | @opened h num kind mps =>
    have hgrows : d.eps <+: d.eps ++ [⟨epAddr, kind, h, mps⟩] := List.prefix_append ..
    refine ⟨fun addr entry hl => (hd addr entry hl).mono hgrows, ?_⟩
    intro epAddr' haddr e he
    cases haddr
    cases he
    exact ⟨_, List.getElem?_concat_length, rfl⟩
  | @insert e num hl =>
    have hat := hpc epAddr rfl e rfl
    refine ⟨fun addr entry hentry => ?_, hgot hat rfl⟩
    rcases lookup_of_insert hentry with ⟨rfl, rfl⟩ | ⟨-, hold⟩
    · exact hat
    · exact hd addr entry hold
  | @clearHalt e | @lock e => exact ⟨hd, hgot (hpc epAddr rfl e rfl) rfl⟩
  | _ => exact ⟨hd, Call.aims_of_got rfl⟩

theorem ControlMove.aimed (hm : ControlMove d setup outData pc a r) (hd : d.Addressed) :
    r.Aimed (.control setup outData) := by
  have haims : ∀ eps pc, (Call.control setup outData).Aims eps pc := by
    intro eps pc epAddr haddr
    cases haddr
  cases hm with
  | ensure hm => exact hm.aimed hd
  | clearEndpoints =>
    refine ⟨fun addr entry hl => ?_, haims _ _⟩
    rw [AList.lookup_empty] at hl
    cases hl
  | invalidate =>
    refine ⟨fun addr entry hl => ?_, haims _ _⟩
    exact hd addr entry (lookup_of_eraseAll hl).2
  | _ => exact ⟨hd, haims _ _⟩

theorem callStep_aimed (h : d.callStep t c pc a = some r) (hd : d.Addressed)
    (hpc : c.Aims d.eps pc) : r.Aimed c := by
  cases callStep_move h with
  | data hm => exact hm.aimed hd hpc
  | control hm => exact hm.aimed hd

end Aims

theorem main_transferRequest (epAddr : UInt8) (length : Nat) (outData : Bytes) (e mps : Nat) :
    (transferRequest epAddr length outData e mps).main = true := by
  unfold transferRequest
  split_ifs <;> rfl

theorem main_passthrough (setup : SetupPacket) (outData : Bytes) :
    (passthrough setup outData).main = true := by
  unfold passthrough
  split_ifs <;> rfl

theorem DataMove.forwards {epAddr : UInt8} {length : Nat}
    (hm : DataMove d t epAddr length outData pc a r)
    (haims : (Call.data epAddr length outData).Aims d.eps pc)
    (h : pc.Asked (.data epAddr length outData) n) :
    r.Forwards d.eps (.data epAddr length outData) n := by
  cases hm with
  | ensure hm => exact hm.forwards h
  | @transfer e =>
    obtain ⟨-, rfl⟩ := h
    refine ⟨?_, fun req hreq _ => ?_⟩
    · simp [CallPc.Asked, CallPc.asked, CallStep.adds, HostEvent.main, main_transferRequest,
        Call.along, CallPc.ofData]
    · cases hreq
      obtain ⟨ep, hep, haddr⟩ := haims epAddr rfl e rfl
      refine ⟨e, ep, hep, haddr, ?_⟩
      rw [hep]
      rfl
  | poisoned | unconfigured | unresolved | openFailed =>
    obtain ⟨-, rfl⟩ := h
    exact .quiet rfl (Nat.zero_le _)
  | @finish e comp =>
    obtain ⟨-, rfl⟩ := h
    refine .quiet rfl ?_
    cases (finishTransfer epAddr length comp) with
    | ok r => exact rfl
    | error e => exact Nat.le_refl 1
  | _ => exact .quiet rfl ⟨rfl, h.2⟩

theorem ControlMove.forwards (hm : ControlMove d setup outData pc a r)
    (h : pc.Asked (.control setup outData) n) : r.Forwards eps (.control setup outData) n := by
  cases hm with
  | ensure hm => exact hm.forwards h
  | setConfig =>
    obtain ⟨hon, rfl⟩ := h
    refine ⟨⟨hon, rfl⟩, fun req hreq _ => ?_⟩
    cases hreq
    have hconfig : isSetConfiguration setup = true := by
      simpa [Call.along, CallPc.ofData, CallPc.route] using hon
    simp [Call.Asks, hconfig]
  | control =>
    obtain ⟨hon, rfl⟩ := h
    have hplain : isSetConfiguration setup = false ∧ isSetInterface setup = false := by
      simpa [Call.along, CallPc.ofData, CallPc.route] using hon
    refine ⟨?_, fun req hreq _ => ?_⟩
    · simp [CallPc.Asked, CallPc.asked, CallStep.adds, HostEvent.main, main_passthrough,
        Call.along, CallPc.ofData, CallPc.route, hplain]
    · cases hreq
      simp [Call.Asks, hplain.1]
  | configured | answered =>
    obtain ⟨hon, rfl⟩ := h
    exact .quiet rfl (Call.asks_of_asked hon rfl).symm
  | configureFailed | failed =>
    obtain ⟨hon, rfl⟩ := h
    exact .quiet rfl (Nat.le_of_eq (Call.asks_of_asked hon rfl).symm)
  | recordAlt =>
    obtain ⟨hon, rfl⟩ := h
    have hiface : isSetInterface setup = true := by
      simpa [Call.along, CallPc.ofData, CallPc.route] using hon
    refine .quiet rfl ?_
    simp [CallPc.Asked, Call.asks, hiface, CallPc.asked]
  | selectFailed =>
    obtain ⟨-, rfl⟩ := h
    exact .quiet rfl (Nat.zero_le _)
  | _ => exact .quiet rfl h

theorem callStep_forwards (h : d.callStep t c pc a = some r) (haims : c.Aims d.eps pc)
    (hpc : pc.Asked c n) : r.Forwards d.eps c n := by
  cases callStep_move h with
  | data hm => exact hm.forwards haims hpc
  | control hm => exact hm.forwards hpc

end Usbip.Host
