import UsbipdDarwin.Host.OpenedDevice
import UsbipdDarwin.Lts.Maps
import UsbipdDarwin.Lts.Threads

/-! What `OpenedDevice`'s three maps owe to each other, to the claimed handles and to
the descriptors: every cached endpoint is what opening it now would give. One lemma for
each update the calls make. -/

namespace Usbip.Host
open Proto Lts

/-- What an endpoint is opened as. `alt` is the setting the interface is at; where the
configuration does not list it, `endpoint_kind` reads the first setting instead. -/
structure Binding where
  addr : UInt8
  kind : EpKind
  num : UInt8
  alt : UInt8
  configurationValue : UInt8
  deriving DecidableEq, Repr

section Resolution

def Configuration.Unshared (cfg : Configuration) : Prop :=
  ∀ i ∈ cfg.interfaceAltSettings, ∀ j ∈ cfg.interfaceAltSettings, ∀ e ∈ i.endpoints,
    ∀ f ∈ j.endpoints, e.address = f.address → i.interfaceNumber = j.interfaceNumber

instance (cfg : Configuration) : Decidable cfg.Unshared :=
  inferInstanceAs (Decidable (∀ i ∈ cfg.interfaceAltSettings, ∀ j ∈ cfg.interfaceAltSettings,
    ∀ e ∈ i.endpoints, ∀ f ∈ j.endpoints, e.address = f.address →
      i.interfaceNumber = j.interfaceNumber))

/-- The descriptors place `epAddr` on interface `num` with this kind, `alt` being selected. -/
def Configuration.Places (cfg : Configuration) (epAddr num alt : UInt8) (kind : EpKind) : Prop :=
  ∃ iface ep, activeAlt (cfg.altsOf num) alt = some iface ∧
    iface.endpoints.find? (·.address == epAddr) = some ep ∧ kindOf epAddr ep.transferType = .ok kind

variable {cfg : Configuration} {altMap : HashMap UInt8 UInt8} {epAddr num alt : UInt8}
  {kind : EpKind}

theorem Configuration.Places.mem (h : cfg.Places epAddr num alt kind) :
    ∃ iface ∈ cfg.interfaceAltSettings, iface.interfaceNumber = num ∧
      ∃ ep ∈ iface.endpoints, ep.address = epAddr := by
  obtain ⟨iface, ep, hactive, hfind, -⟩ := h
  obtain ⟨hmem, hnum⟩ := List.mem_filter.mp (mem_of_activeAlt hactive)
  have haddr := List.find?_some hfind
  exact ⟨iface, hmem, beq_iff_eq.mp hnum, ep, List.mem_of_find?_eq_some hfind,
    beq_iff_eq.mp haddr⟩

theorem Configuration.Unshared.place_unique {num' : UInt8} {alts : UInt8 → UInt8} {kind' : EpKind}
    (hu : cfg.Unshared) (h : cfg.Places epAddr num (alts num) kind)
    (h' : cfg.Places epAddr num' (alts num') kind') : num' = num ∧ kind' = kind := by
  obtain ⟨i, hi, rfl, e, he, haddr⟩ := h.mem
  obtain ⟨j, hj, rfl, f, hf, haddr'⟩ := h'.mem
  have hnum : j.interfaceNumber = i.interfaceNumber :=
    hu j hj i hi f hf e he (haddr'.trans haddr.symm)
  rw [hnum] at h'
  obtain ⟨iface, ep, hactive, hfind, hkind⟩ := h
  obtain ⟨iface', ep', hactive', hfind', hkind'⟩ := h'
  cases hactive.symm.trans hactive'
  cases hfind.symm.trans hfind'
  cases hkind.symm.trans hkind'
  exact ⟨hnum, rfl⟩

theorem places_of_endpointKind {order : List UInt8}
    (h : endpointKind cfg altMap epAddr order = .ok (num, kind)) :
    cfg.Places epAddr num ((altMap.lookup num).getD 0) kind := by
  induction order with
  | nil => cases h
  | cons n rest ih =>
    simp only [endpointKind] at h
    split at h
    · exact ih h
    · rename_i iface hactive
      split at h
      · exact ih h
      · rename_i ep hfind
        cases hkind : kindOf epAddr ep.transferType with
        | error e =>
          rw [hkind] at h
          cases h
        | ok k =>
          rw [hkind] at h
          cases h
          exact ⟨iface, ep, hactive, hfind, hkind⟩

end Resolution

namespace OpenedDevice

def altOf (d : OpenedDevice) (num : UInt8) : UInt8 := (d.altSettings.lookup num).getD 0

def Resolves (d : OpenedDevice) (epAddr num : UInt8) (kind : EpKind) : Prop :=
  ∃ cfg, d.activeConfiguration = some cfg ∧ cfg.Places epAddr num (d.altOf num) kind

def fresh (d : OpenedDevice) (epAddr num : UInt8) (kind : EpKind) : Binding where
  addr := epAddr
  kind := kind
  num := num
  alt := d.altOf num
  configurationValue := d.activeConfigurationValue

/-- Endpoint `e` is open on the claimed handle of `num`, as it would be opened now. -/
structure Bound (d : OpenedDevice) (bindings : List Binding) (epAddr num : UInt8) (kind : EpKind)
    (e : Nat) : Prop where
  ep : ∃ h mps, d.eps[e]? = some ⟨epAddr, kind, h, mps⟩ ∧ d.interfaces.lookup num = some h
  binding : bindings[e]? = some (d.fresh epAddr num kind)
  resolves : d.Resolves epAddr num kind

structure Settled (d : OpenedDevice) (bindings : List Binding) : Prop where
  unshared : ∀ cfg ∈ d.configurations, cfg.Unshared
  length : bindings.length = d.eps.length
  entry : ∀ epAddr entry, d.endpoints.lookup epAddr = some entry →
    ∃ kind, d.Bound bindings epAddr entry.ifaceNum kind entry.ep
  handle : ∀ num h, d.interfaces.lookup num = some h → d.handles[h]? = some ⟨num, d.altOf num⟩
  claimed : ∀ num, d.interfaces.lookup num = none → d.altSettings.lookup num = none

def NoneOf (d : OpenedDevice) (num : UInt8) : Prop :=
  ∀ epAddr entry, d.endpoints.lookup epAddr = some entry → entry.ifaceNum ≠ num

variable {d : OpenedDevice} {bindings : List Binding} {epAddr num : UInt8} {kind : EpKind}
  {h e : Nat}

theorem Bound.keep {d' : OpenedDevice} {bindings' : List Binding}
    (hb : d.Bound bindings epAddr num kind e) (hconf : d'.configurations = d.configurations)
    (hactive : d'.activeConfigurationValue = d.activeConfigurationValue)
    (halt : d'.altOf num = d.altOf num)
    (hiface : ∀ h, d.interfaces.lookup num = some h → d'.interfaces.lookup num = some h)
    (heps : ∀ ep, d.eps[e]? = some ep → d'.eps[e]? = some ep)
    (hbind : ∀ b, bindings[e]? = some b → bindings'[e]? = some b) :
    d'.Bound bindings' epAddr num kind e where
  ep := by
    obtain ⟨h, mps, hep, hi⟩ := hb.ep
    exact ⟨h, mps, heps _ hep, hiface h hi⟩
  binding := by
    have hfresh : d'.fresh epAddr num kind = d.fresh epAddr num kind := by
      rw [fresh, halt, hactive, fresh]
    rw [hfresh]
    exact hbind _ hb.binding
  resolves := by
    obtain ⟨cfg, hcfg, hplace⟩ := hb.resolves
    refine ⟨cfg, ?_, halt ▸ hplace⟩
    rw [activeConfiguration, hconf, hactive]
    exact hcfg

theorem Settled.opened {configurations : List Configuration} {active : UInt8}
    (hu : ∀ cfg ∈ configurations, cfg.Unshared) :
    Settled (.opened configurations active) [] where
  unshared := hu
  length := rfl
  entry := nofun
  handle := nofun
  claimed := fun _ _ => rfl

theorem Settled.altOf_of_unclaimed (hs : d.Settled bindings)
    (hn : d.interfaces.lookup num = none) : d.altOf num = 0 := by
  rw [altOf, hs.claimed num hn]
  rfl

theorem Settled.hit {entry : EndpointEntry} (hs : d.Settled bindings)
    (hl : d.endpoints.lookup epAddr = some entry) (hr : d.Resolves epAddr num kind) :
    d.Bound bindings epAddr num kind entry.ep := by
  obtain ⟨kind', hb⟩ := hs.entry epAddr entry hl
  obtain ⟨cfg, hcfg, hplace⟩ := hr
  obtain ⟨cfg', hcfg', hplace'⟩ := hb.resolves
  cases hcfg.symm.trans hcfg'
  have hu : cfg.Unshared := hs.unshared cfg (List.mem_of_find?_eq_some hcfg)
  obtain ⟨hnum, rfl⟩ := hu.place_unique hplace hplace'
  rw [hnum] at hb
  exact hb

theorem Settled.keep (hs : d.Settled bindings) {endpoints : HashMap UInt8 EndpointEntry}
    {handles : List Interface} {epLock : Nat → Lock Owner}
    (hentry : ∀ epAddr entry, endpoints.lookup epAddr = some entry →
      d.endpoints.lookup epAddr = some entry)
    (hhandle : ∀ (h : Nat) i, d.handles[h]? = some i → handles[h]? = some i) :
    Settled { d with endpoints := endpoints, handles := handles, epLock := epLock } bindings where
  unshared := hs.unshared
  length := hs.length
  entry := by
    intro epAddr entry hl
    obtain ⟨kind, hb⟩ := hs.entry epAddr entry (hentry epAddr entry hl)
    exact ⟨kind, hb.ep, hb.binding, hb.resolves⟩
  handle := fun num h hl => hhandle h _ (hs.handle num h hl)
  claimed := hs.claimed

theorem Settled.empty_endpoints (hs : d.Settled bindings) :
    Settled { d with endpoints := ∅ } bindings :=
  hs.keep nofun fun _ _ hi => hi

theorem Settled.empty_interfaces (hs : d.Settled bindings) (he : d.endpoints = ∅) :
    Settled { d with interfaces := ∅, altSettings := ∅ } bindings where
  unshared := hs.unshared
  length := hs.length
  entry := by
    intro epAddr entry hl
    rw [he] at hl
    cases hl
  handle := nofun
  claimed := fun _ _ => rfl

theorem Settled.configure (hs : d.Settled bindings) (he : d.endpoints = ∅) (value : UInt8) :
    Settled { d with activeConfigurationValue := value } bindings where
  unshared := hs.unshared
  length := hs.length
  entry := by
    intro epAddr entry hl
    rw [he] at hl
    cases hl
  handle := hs.handle
  claimed := hs.claimed

theorem Settled.setLock (hs : d.Settled bindings) (e : Nat) (l : Lock Owner) :
    (d.setLock e l).Settled bindings :=
  hs.keep (fun _ _ hl => hl) fun _ _ hi => hi

theorem Settled.claim (hs : d.Settled bindings) (i : Interface) :
    Settled { d with handles := d.handles ++ [i] } bindings := by
  refine hs.keep (fun _ _ hl => hl) fun h i' hi => ?_
  exact (List.getElem?_append_left (lt_length_of_getElem? hi)).trans hi

theorem setHandleAlt_self {num alt : UInt8} (hh : d.handles[h]? = some ⟨num, alt⟩) :
    d.setHandleAlt h alt = d := by
  have hsame : d.handles.modify h (fun i => { i with alt := alt }) = d.handles := by
    apply List.ext_getElem?
    intro i
    rw [List.getElem?_modify]
    split_ifs with hi
    · subst hi
      rw [hh]
      rfl
    · simp
  rw [setHandleAlt, hsame]

theorem Settled.insertInterface (hs : d.Settled bindings) (hn : d.interfaces.lookup num = none)
    (hh : d.handles[h]? = some ⟨num, 0⟩) :
    Settled { d with interfaces := d.interfaces.insert num h } bindings where
  unshared := hs.unshared
  length := hs.length
  entry := by
    intro epAddr entry hl
    obtain ⟨kind, hb⟩ := hs.entry epAddr entry hl
    obtain ⟨h', mps, hep, hi⟩ := hb.ep
    have hne : entry.ifaceNum ≠ num := by
      intro heq
      rw [heq, hn] at hi
      cases hi
    exact ⟨kind, ⟨h', mps, hep, (AList.lookup_insert_ne hne).trans hi⟩, hb.binding, hb.resolves⟩
  handle := by
    intro num' h' hl
    rcases lookup_of_insert hl with ⟨rfl, rfl⟩ | ⟨-, hold⟩
    · rw [hh, ← hs.altOf_of_unclaimed hn]
      rfl
    · exact hs.handle num' h' hold
  claimed := by
    intro num' hl
    by_cases hne : num' = num
    · subst hne
      rw [AList.lookup_insert] at hl
      cases hl
    · exact hs.claimed num' ((AList.lookup_insert_ne hne).symm.trans hl)

theorem lookup_setHandleAlt_ne {h' : Nat} (hne : h' ≠ h) (alt : UInt8) :
    (d.setHandleAlt h alt).handles[h']? = d.handles[h']? := by
  simp [setHandleAlt, hne.symm]

theorem altOf_record_ne {num' : UInt8} (hne : num' ≠ num) (alt : UInt8) :
    altOf { d with altSettings := d.altSettings.insert num alt } num' = d.altOf num' := by
  rw [altOf, AList.lookup_insert_ne hne, altOf]

theorem Settled.select (hs : d.Settled bindings) (hnone : d.NoneOf num)
    (hi : d.interfaces.lookup num = some h) (alt : UInt8) :
    Settled { d.setHandleAlt h alt with altSettings := d.altSettings.insert num alt } bindings where
  unshared := hs.unshared
  length := hs.length
  entry := by
    intro epAddr entry hl
    obtain ⟨kind, hb⟩ := hs.entry epAddr entry hl
    have halt := altOf_record_ne (d := d) (hnone epAddr entry hl) alt
    exact ⟨kind, hb.keep rfl rfl halt (fun _ h => h) (fun _ h => h) (fun _ h => h)⟩
  handle := by
    intro num' h' hl
    have hold := hs.handle num' h' hl
    have hset := hs.handle num h hi
    by_cases hne : num' = num
    · subst hne
      cases hi.symm.trans hl
      simp [setHandleAlt, altOf, hset]
    · have hhandle : h' ≠ h := by
        rintro rfl
        cases hold.symm.trans hset
        exact hne rfl
      have halt := altOf_record_ne (d := d) hne alt
      calc (d.setHandleAlt h alt).handles[h']? = d.handles[h']? :=
            lookup_setHandleAlt_ne hhandle alt
        _ = some ⟨num', d.altOf num'⟩ := hold
        _ = _ := by rw [← halt]; rfl
  claimed := by
    intro num' hl
    have hne : num' ≠ num := by
      rintro rfl
      cases hi.symm.trans hl
    exact (AList.lookup_insert_ne hne).trans (hs.claimed num' hl)

theorem Settled.openEndpoint (hs : d.Settled bindings) (ep : AnyEp) (b : Binding) :
    Settled { d with eps := d.eps ++ [ep] } (bindings ++ [b]) where
  unshared := hs.unshared
  length := by simp [hs.length]
  entry := by
    intro epAddr entry hl
    obtain ⟨kind, hb⟩ := hs.entry epAddr entry hl
    refine ⟨kind, hb.keep rfl rfl rfl (fun _ h => h) (fun ep hep => ?_) (fun b hb => ?_)⟩
    · exact (List.getElem?_append_left (lt_length_of_getElem? hep)).trans hep
    · exact (List.getElem?_append_left (lt_length_of_getElem? hb)).trans hb
  handle := hs.handle
  claimed := hs.claimed

theorem Settled.bound_of_open (hs : d.Settled bindings) (hr : d.Resolves epAddr num kind)
    (hi : d.interfaces.lookup num = some h) (mps : Nat) :
    Bound { d with eps := d.eps ++ [⟨epAddr, kind, h, mps⟩] }
      (bindings ++ [d.fresh epAddr num kind]) epAddr num kind d.eps.length where
  ep := ⟨h, mps, List.getElem?_concat_length, hi⟩
  binding := by
    rw [← hs.length]
    exact List.getElem?_concat_length
  resolves := hr

theorem Settled.insertEndpoint (hs : d.Settled bindings)
    (hb : d.Bound bindings epAddr num kind e) :
    Settled { d with endpoints := d.endpoints.insert epAddr ⟨num, e⟩ } bindings where
  unshared := hs.unshared
  length := hs.length
  entry := by
    intro epAddr' entry hl
    rcases lookup_of_insert hl with ⟨rfl, rfl⟩ | ⟨-, hold⟩
    · exact ⟨kind, hb.ep, hb.binding, hb.resolves⟩
    · obtain ⟨kind', hb'⟩ := hs.entry epAddr' entry hold
      exact ⟨kind', hb'.ep, hb'.binding, hb'.resolves⟩
  handle := hs.handle
  claimed := hs.claimed

theorem lookup_of_invalidate {entry : EndpointEntry}
    (hl : (d.invalidateInterfaceEndpoints num).endpoints.lookup epAddr = some entry) :
    d.endpoints.lookup epAddr = some entry ∧ entry.ifaceNum ≠ num := by
  obtain ⟨hkept, hold⟩ := lookup_of_eraseAll hl
  refine ⟨hold, fun hnum => hkept (List.mem_filter.mpr ⟨?_, ?_⟩)⟩
  · exact AList.lookup_isSome.mp (Option.isSome_of_eq_some hold)
  · simp [hold, hnum]

theorem Settled.invalidate (hs : d.Settled bindings) (num : UInt8) :
    Settled (d.invalidateInterfaceEndpoints num) bindings :=
  hs.keep (fun _ _ hl => (lookup_of_invalidate hl).1) fun _ _ hi => hi

theorem noneOf_invalidate : (d.invalidateInterfaceEndpoints num).NoneOf num :=
  fun _ _ hl => (lookup_of_invalidate hl).2

end OpenedDevice

end Usbip.Host
