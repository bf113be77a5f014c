import UsbipdDarwin.Host.Pool
import UsbipdDarwin.Host.Settled
import UsbipdDarwin.Lts.History

/-! `SET_CONFIGURATION` and `SET_INTERFACE` beside data transfers. Both drop cached
endpoints under the lock of the cache, but an endpoint on its way into the cache is in no
map: its interface handle was looked up before, and the entry is made after. -/

namespace Usbip.Host
open Proto Lts

/-- What happened to the endpoint cache: `SET_CONFIGURATION` cleared it, `SET_INTERFACE`
dropped an interface's entries, or an endpoint was opened for it. -/
inductive CacheEvent
  | cleared
  | invalidated (num : UInt8)
  | opened (e : Nat)
  deriving DecidableEq

def OpenedDevice.cacheEvent (d : OpenedDevice) : Call → CallPc → CallAction → Option CacheEvent
  | .control _ _, .clearEndpoints, .go => some .cleared
  | .control setup _, .invalidate, .go => some (.invalidated (setup.wIndex &&& 0xFF).toUInt8)
  | .data _ _ _, .openEp _ _ _, .opened _ => some (.opened d.eps.length)
  | _, _, _ => none

/-- The endpoint was opened after the last `SET_CONFIGURATION`, and after the last
`SET_INTERFACE` of its interface, dropped what was cached. The log has the latest first. -/
def Recent (log : List CacheEvent) (num : UInt8) (e : Nat) : Prop :=
  ∃ later earlier, log = later ++ .opened e :: earlier ∧
    .cleared ∉ later ∧ .invalidated num ∉ later

/-- The endpoint is open on the handle that `interfaces` has, and recently opened. -/
def OpenedDevice.Current (d : OpenedDevice) (log : List CacheEvent) (num : UInt8) (e : Nat) :
    Prop :=
  (∃ ep, d.eps[e]? = some ep ∧ d.interfaces.lookup num = some ep.iface) ∧ Recent log num e

namespace Pool

def noteCache (s : Pool) (a : Action) (log : List CacheEvent) : List CacheEvent :=
  match a with
  | .start _ => log
  | .advance t a =>
    match s.calls[t]? with
    | none => log
    | some (call, pc) => (s.device.cacheEvent call pc a).toList ++ log

def cacheSystem (configurations : List Configuration) (active : UInt8) :
    System (Pool × List CacheEvent) Action :=
  (system (opened configurations active)).withHistory [] noteCache

end Pool

def CallPc.openFor : CallPc → Option UInt8
  | .clearHalt _ num | .epInsert _ num => some num
  | _ => none

def CallPc.onHandle : CallPc → Bool
  | .openEp _ _ _ | .clearHalt _ _ | .epInsert _ _ => true
  | _ => false

/-- Nothing is dropped from under a data transfer on its way to a cached endpoint: when the
endpoints go none is open that is not cached, when the handles go none is in use, and
`SET_INTERFACE` does not meet an open endpoint of its interface. -/
def Pool.orderly (s : Pool) : Pool.Action → Bool
  | .start _ => true
  | .advance t _ =>
    match s.calls[t]? with
    | some (_, .clearEndpoints) => s.calls.all (·.2.openFor.isNone)
    | some (_, .clearInterfaces) =>
      s.device.endpoints.keys.isEmpty && s.calls.all (!·.2.onHandle)
    | some (.control setup _, .invalidate) =>
      s.calls.all (·.2.openFor != some (setup.wIndex &&& 0xFF).toUInt8)
    | _ => true

section Current

variable {d d' : OpenedDevice} {log : List CacheEvent} {num : UInt8} {e : Nat} {ev : CacheEvent}

theorem Recent.opened : Recent (.opened e :: log) num e := ⟨[], log, rfl, nofun, nofun⟩

theorem Recent.cons (h : Recent log num e) (hc : ev ≠ .cleared) (hi : ev ≠ .invalidated num) :
    Recent (ev :: log) num e := by
  obtain ⟨later, earlier, rfl, hcleared, hinvalidated⟩ := h
  refine ⟨ev :: later, earlier, rfl, ?_, ?_⟩
  · exact List.not_mem_cons_of_ne_of_not_mem hc.symm hcleared
  · exact List.not_mem_cons_of_ne_of_not_mem hi.symm hinvalidated

structure OpenedDevice.Grows (d d' : OpenedDevice) : Prop where
  eps : ∀ (e : Nat) (ep : AnyEp), d.eps[e]? = some ep → d'.eps[e]? = some ep
  interfaces : ∀ (num : UInt8) (h : Nat), d.interfaces.lookup num = some h →
    d'.interfaces.lookup num = some h

theorem OpenedDevice.Grows.of_eq (heps : d'.eps = d.eps) (hi : d'.interfaces = d.interfaces) :
    d.Grows d' := by
  refine ⟨fun e ep hep => ?_, fun num h hl => ?_⟩
  · rw [heps]
    exact hep
  · rw [hi]
    exact hl

theorem OpenedDevice.Grows.insertInterface {h : Nat} (hn : d.interfaces.lookup num = none) :
    d.Grows { d with interfaces := d.interfaces.insert num h } := by
  refine ⟨fun _ _ hep => hep, fun num' h' hl => ?_⟩
  have hne : num' ≠ num := by
    rintro rfl
    rw [hn] at hl
    cases hl
  rw [AList.lookup_insert_ne hne]
  exact hl

theorem OpenedDevice.Grows.openEndpoint (ep : AnyEp) :
    d.Grows { d with eps := d.eps ++ [ep] } := by
  refine ⟨fun e ep' hep => ?_, fun _ _ h => h⟩
  exact (List.getElem?_append_left (lt_length_of_getElem? hep)).trans hep

theorem OpenedDevice.Current.grow {log' : List CacheEvent} (h : d.Current log num e)
    (hd : d.Grows d') (hlog : Recent log num e → Recent log' num e) : d'.Current log' num e := by
  obtain ⟨⟨ep, hep, hi⟩, hr⟩ := h
  exact ⟨⟨ep, hd.eps e ep hep, hd.interfaces num _ hi⟩, hlog hr⟩

def CallPc.Fresh (d : OpenedDevice) (log : List CacheEvent) : CallPc → Prop
  | .openEp h num _ => d.interfaces.lookup num = some h
  | .clearHalt e num | .epInsert e num => d.Current log num e
  | _ => True

theorem CallPc.Fresh.grow {pc : CallPc} {log' : List CacheEvent} (h : pc.Fresh d log)
    (hd : d.Grows d') (hlog : ∀ num ∈ pc.openFor, ∀ e, Recent log num e → Recent log' num e) :
    pc.Fresh d' log' := by
  cases pc with
  | openEp h' num kind => exact hd.interfaces num h' h
  | clearHalt e num => exact OpenedDevice.Current.grow h hd (hlog num rfl e)
  | epInsert e num => exact OpenedDevice.Current.grow h hd (hlog num rfl e)
  | _ => trivial

theorem fresh_of_not_onHandle {pc : CallPc} (h : pc.onHandle = false) : pc.Fresh d log := by
  cases pc with
  | openEp | clearHalt | epInsert => cases h
  | _ => trivial

theorem fresh_afterInterface {h : Nat} (hl : d.interfaces.lookup num = some h) (use : IfaceUse) :
    (afterInterface h num use).Fresh d log := by
  cases use with
  | ensureEndpoint kind => exact hl
  | setInterface => trivial

end Current

namespace Pool

structure CacheOk (s : Pool) (log : List CacheEvent) : Prop where
  entries : ∀ addr entry, s.device.endpoints.lookup addr = some entry →
    s.device.Current log entry.ifaceNum entry.ep
  calls : Each (fun _ c => c.2.Fresh s.device log) s.calls

variable {s : Pool} {log log' : List CacheEvent} {t : Nat} {call : Call} {pc pc' : CallPc}
  {a : CallAction} {r : CallStep} {d' : OpenedDevice}

theorem CacheOk.grow (h : s.CacheOk log) (hd : s.device.Grows d')
    (hcalls : ∀ c ∈ s.calls, ∀ num ∈ c.2.openFor, ∀ e, Recent log num e → Recent log' num e)
    (hentries : ∀ addr entry, d'.endpoints.lookup addr = some entry →
      d'.Current log' entry.ifaceNum entry.ep)
    (hpc : pc'.Fresh d' log') : CacheOk ⟨d', s.calls.set t (call, pc')⟩ log' where
  entries := hentries
  calls := h.calls.set hpc fun _ c _ hc hf => hf.grow hd (hcalls c (List.mem_of_getElem? hc))

theorem CacheOk.quiet (h : s.CacheOk log) (heps : d'.eps = s.device.eps)
    (hi : d'.interfaces = s.device.interfaces) (he : d'.endpoints = s.device.endpoints)
    (hpc : pc'.Fresh d' log) : CacheOk ⟨d', s.calls.set t (call, pc')⟩ log := by
  have hd : s.device.Grows d' := .of_eq heps hi
  refine h.grow hd (fun _ _ _ _ _ hr => hr) (fun addr entry hl => ?_) hpc
  rw [he] at hl
  exact (h.entries addr entry hl).grow hd fun hr => hr

theorem CacheOk.ensure (h : s.CacheOk log) (hm : EnsureMove s.device pc a r) :
    CacheOk ⟨r.device, s.calls.set t (call, r.pc)⟩ log := by
  cases hm with
  | hit hl => exact h.quiet rfl rfl rfl (fresh_afterInterface hl _)
  | present hl => exact h.quiet rfl rfl rfl (fresh_afterInterface hl _)
  | insert hl =>
    refine h.grow (.insertInterface hl) (fun _ _ _ _ _ hr => hr) (fun addr entry he => ?_) ?_
    · exact (h.entries addr entry he).grow (.insertInterface hl) fun hr => hr
    · exact fresh_afterInterface (AList.lookup_insert _) _
  | _ => exact h.quiet rfl rfl rfl trivial

theorem cacheEvent_ensure {d : OpenedDevice} (hm : EnsureMove d pc a r) :
    d.cacheEvent call pc a = none := by
  cases call <;> cases hm <;> rfl

theorem CacheOk.data {epAddr : UInt8} {length : Nat} {outData : Bytes} (h : s.CacheOk log)
    (hc : s.calls[t]? = some (.data epAddr length outData, pc))
    (hm : DataMove s.device t epAddr length outData pc a r) :
    CacheOk ⟨r.device, s.calls.set t (.data epAddr length outData, r.pc)⟩
      (s.noteCache (.advance t a) log) := by
  have hfresh := h.calls t _ hc
  simp only [noteCache, hc]
  cases hm with
  | @opened iface num kind mps =>
    -- the handle in hand is still the one in `interfaces`
    have hnew : OpenedDevice.Current
        { s.device with eps := s.device.eps ++ [⟨epAddr, kind, iface, mps⟩] }
        (.opened s.device.eps.length :: log) num s.device.eps.length :=
      ⟨⟨_, List.getElem?_concat_length, hfresh⟩, .opened⟩
    refine h.grow (.openEndpoint _) (fun _ _ _ _ _ hr => hr.cons nofun nofun)
      (fun addr entry he => ?_) hnew
    exact (h.entries addr entry he).grow (.openEndpoint _) fun hr => hr.cons nofun nofun
  | clearHalt ha =>
    rcases ha with rfl | rfl <;> exact h.quiet rfl rfl rfl hfresh
  | @insert e num hl =>
    have hd : s.device.Grows { s.device with
        endpoints := s.device.endpoints.insert epAddr ⟨num, e⟩ } := .of_eq rfl rfl
    refine h.grow hd (fun _ _ _ _ _ hr => hr) (fun addr entry hentry => ?_) trivial
    rcases lookup_of_insert hentry with ⟨-, rfl⟩ | ⟨-, hold⟩
    · exact hfresh
    · exact (h.entries addr entry hold).grow hd fun hr => hr
  | ensure hm =>
    rw [cacheEvent_ensure hm]
    exact h.ensure hm
  | _ => exact h.quiet rfl rfl rfl trivial

theorem CacheOk.control {setup : SetupPacket} {outData : Bytes} (h : s.CacheOk log)
    (hc : s.calls[t]? = some (.control setup outData, pc)) (ho : s.orderly (.advance t a) = true)
    (hm : ControlMove s.device setup outData pc a r) :
    CacheOk ⟨r.device, s.calls.set t (.control setup outData, r.pc)⟩
      (s.noteCache (.advance t a) log) := by
  simp only [orderly, hc] at ho
  simp only [noteCache, hc]
  cases hm with
  | clearEndpoints =>
    -- nothing is cached any more, and what is open but not cached would be older
    refine h.grow (.of_eq rfl rfl) (fun c hcall num hnum => ?_) nofun trivial
    have hnone := List.all_eq_true.mp ho c hcall
    rw [hnum] at hnone
    cases hnone
  | clearInterfaces =>
    obtain ⟨hempty, hfree⟩ := (Bool.and_eq_true _ _).mp ho
    -- the handles go, so no entry and no call may depend on one
    constructor
    · intro addr entry hl
      have hmem : addr ∈ s.device.endpoints :=
        AList.lookup_isSome.mp (Option.isSome_of_eq_some hl)
      rw [AList.mem_keys, List.isEmpty_iff.mp hempty] at hmem
      cases hmem
    · refine h.calls.set trivial fun i c _ hcall _ => fresh_of_not_onHandle ?_
      have hoff := List.all_eq_true.mp hfree c (List.mem_of_getElem? hcall)
      simpa using hoff
  | invalidate =>
    refine h.grow (.of_eq rfl rfl) (fun c hcall num hnum e hr => ?_) (fun addr entry hl => ?_)
      trivial
    · have hother := List.all_eq_true.mp ho c hcall
      rw [hnum] at hother
      refine hr.cons nofun ?_
      rintro ⟨⟩
      simp at hother
    · obtain ⟨hold, hother⟩ := OpenedDevice.lookup_of_invalidate hl
      refine (h.entries addr entry hold).grow (.of_eq rfl rfl) fun hr => hr.cons nofun ?_
      intro heq
      exact hother (CacheEvent.invalidated.inj heq).symm
  | ensure hm =>
    rw [cacheEvent_ensure hm]
    exact h.ensure hm
  | _ => exact h.quiet rfl rfl rfl trivial

variable {configurations : List Configuration} {active : UInt8} {p : Pool × List CacheEvent}

theorem cacheSystem_init :
    (cacheSystem configurations active).init (opened configurations active, []) := ⟨rfl, rfl⟩

theorem cacheOk (h : (cacheSystem configurations active).ReachableBy
    (fun p a => p.1.orderly a = true) p) : p.1.CacheOk p.2 := by
  refine h.invariant (I := fun p => p.1.CacheOk p.2) ?_ ?_
  · rintro ⟨s, log⟩ ⟨rfl, rfl⟩
    exact ⟨nofun, .nil⟩
  · rintro ⟨s, log⟩ a ⟨s', log'⟩ _ hok ho hstep
    obtain ⟨hs, rfl⟩ := System.withHistory_step hstep
    cases step_move hs with
    | start call =>
      refine ⟨hok.entries, hok.calls.append ?_⟩
      cases call with
      | data epAddr length outData => trivial
      | control setup outData =>
        simp only [Call.start]
        split_ifs <;> trivial
    | advance hc hm =>
      cases hm with
      | data hm => exact hok.data hc hm
      | control hm => exact hok.control hc ho hm

/-- While no reconfiguration meets a data transfer between its handle and its entry, every
cached endpoint is open on the handle in `interfaces` and younger than what was dropped,
whether or not calls are in progress. -/
theorem no_stale_endpoint (h : (cacheSystem configurations active).ReachableBy
      (fun p a => p.1.orderly a = true) p) {addr : UInt8} {entry : EndpointEntry}
    (hl : p.1.device.endpoints.lookup addr = some entry) :
    (∃ ep, p.1.device.eps[entry.ep]? = some ep ∧
      p.1.device.interfaces.lookup entry.ifaceNum = some ep.iface) ∧
    ∃ later earlier, p.2 = later ++ .opened entry.ep :: earlier ∧ .cleared ∉ later ∧
      .invalidated entry.ifaceNum ∉ later :=
  (cacheOk h).entries addr entry hl

namespace Sample

def single : Configuration := ⟨1, [⟨0, 0, [⟨0x81, .bulk, 512⟩]⟩]⟩

def read : Call := .data 0x81 8 []

def setConfiguration : Call := .control ⟨0x00, 0x09, 1, 0, 0⟩ []

def opening (t : Nat) : List Action :=
  [.go, .walk [0], .go, .go, .ok, .ok, .go, .opened 512].map (.advance t)

def caching (t : Nat) : List Action := [.ok, .go, .go, .go].map (.advance t)

def finishing (t : Nat) : List Action :=
  [.completed ⟨0, .ok (), []⟩, .go].map (.advance t)

def configuring (t : Nat) : List Action := [.go, .go, .go, .go, .ok].map (.advance t)

/-- A `SET_CONFIGURATION` while a read has its endpoint, and another read after it. -/
def apart : List Action :=
  [.start read, .start setConfiguration, .start read] ++ opening 0 ++ caching 0 ++ configuring 1 ++
    finishing 0 ++ opening 2 ++ caching 2 ++ finishing 2

def overtaken : List Action :=
  [.start read, .start setConfiguration] ++ opening 0 ++ configuring 1 ++ caching 0 ++ finishing 0

end Sample

theorem no_stale_endpoint_apart : ∃ p : Pool × List CacheEvent,
    (cacheSystem [Sample.single] 1).ReachableBy (fun p a => p.1.orderly a = true) p ∧
    p.1.idle = true ∧ p.1.device.endpoints.lookup 0x81 = some ⟨0, 1⟩ ∧
    ∃ ep, p.1.device.eps[1]? = some ep ∧ p.1.device.interfaces.lookup 0 = some ep.iface := by
  have hrun : ((cacheSystem [Sample.single] 1).replay (fun p a => p.1.orderly a = true)
      (opened [Sample.single] 1, []) Sample.apart).map
        (fun p => (p.1.idle, p.1.device.endpoints.lookup 0x81)) = some (true, some ⟨0, 1⟩) := by
    decide
  obtain ⟨p, hp, hout⟩ := System.exists_reachableBy_of_replay cacheSystem_init hrun
  obtain ⟨hidle, hl⟩ := Prod.mk.inj hout
  exact ⟨p, hp, hidle, hl, (no_stale_endpoint hp hl).1⟩

/-- An endpoint opened before `SET_CONFIGURATION` and cached after it: no call is in progress,
the interface is not claimed, and later transfers find the entry. -/
theorem overtaken_endpoint_cached : ∃ p : Pool × List CacheEvent,
    (cacheSystem [Sample.single] 1).Reachable p ∧ p.1.idle = true ∧
    p.1.device.endpoints.lookup 0x81 = some ⟨0, 0⟩ ∧ p.1.device.interfaces.lookup 0 = none ∧
    p.2 = [.cleared, .opened 0] := by
  have hrun : ((cacheSystem [Sample.single] 1).run (opened [Sample.single] 1, [])
      Sample.overtaken).map (fun p => (p.1.idle, p.1.device.endpoints.lookup 0x81,
        p.1.device.interfaces.lookup 0, p.2)) =
      some (true, some ⟨0, 0⟩, none, [.cleared, .opened 0]) := by
    decide
  obtain ⟨p, hp, hout⟩ := System.exists_reachable_of_run cacheSystem_init hrun
  simp only [Prod.mk.injEq] at hout
  exact ⟨p, hp, hout⟩

end Pool

end Usbip.Host
