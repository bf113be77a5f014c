import UsbipdDarwin.Host.Reconfigure

/-! Data transfers on an endpoint or an interface nobody has used yet. Both caches are looked
up, left, and filled later, and `nusb` gives out an interface or an endpoint once only. Calls
that go past a miss apart from each other are alone until they have made their entry. -/

namespace Usbip.Host
open Proto Lts

structure DataCall where
  epAddr : UInt8
  length : Nat
  outData : Bytes

/-- What does not depend on the schedule: which interfaces and endpoints `nusb` gives out at
all, and the order in which each call walks over the interfaces. -/
structure Surroundings where
  canClaim : UInt8 → Bool
  canOpen : UInt8 → EpKind → Bool
  order : Nat → List UInt8

namespace Pool

def liveEps (s : Pool) : List Nat :=
  s.device.endpoints.entries.map (·.2.ep) ++ s.calls.filterMap (·.2.epHandle)

def liveHandles (s : Pool) : List Nat :=
  s.device.interfaces.entries.map (·.2) ++ s.calls.filterMap (·.2.ifaceHandle) ++
    s.liveEps.filterMap fun e => s.device.eps[e]?.map (·.iface)

def isClaimed (s : Pool) (num : UInt8) : Bool :=
  s.liveHandles.any fun h => s.device.handles[h]?.any (·.num == num)

def isOpen (s : Pool) (epAddr : UInt8) : Bool :=
  s.liveEps.any fun e => s.device.eps[e]?.any (·.addr == epAddr)

end Pool

namespace Surroundings

def claims (env : Surroundings) (s : Pool) (num : UInt8) : Bool :=
  env.canClaim num && !s.isClaimed num

def opens (env : Surroundings) (s : Pool) (epAddr : UInt8) (kind : EpKind) : Bool :=
  env.canOpen epAddr kind && !s.isOpen epAddr

/-- The answer in the action is the one `nusb` gives: no interface is claimed twice, and no
endpoint opened twice. -/
def answers (env : Surroundings) (s : Pool) : Pool.Action → Bool
  | .start _ => false
  | .advance t a =>
    match s.calls[t]?, a with
    | some (_, .altMap _), .walk order => order == env.order t
    | some (_, .claim num _), .ok => env.claims s num
    | some (_, .claim num _), .err => !env.claims s num
    | some (.data epAddr _ _, .openEp _ _ kind), .opened _ => env.opens s epAddr kind
    | some (.data epAddr _ _, .openEp _ _ kind), .err => !env.opens s epAddr kind
    | _, _ => true

/-- Each call walks over all interfaces, and the calls for an endpoint find the same whatever
the order. -/
structure Walks (env : Surroundings) (d : OpenedDevice) : Prop where
  perm : ∀ t cfg, d.activeConfiguration = some cfg → (env.order t).Perm cfg.interfaceNumbers
  same : ∀ t t' epAddr,
    d.endpointKind epAddr (env.order t) = d.endpointKind epAddr (env.order t')

def firstUse (env : Surroundings) (d : OpenedDevice) (calls : List DataCall) :
    System Pool Pool.Action where
  init s := s = ⟨d, calls.map fun c => (.data c.epAddr c.length c.outData, .activeConfiguration)⟩
  step s a := if env.answers s a then s.step a else none

end Surroundings

def CallPc.opening : CallPc → Bool
  | .ifaceLookup _ _ | .claim _ _ | .selectAlt _ _ _ | .ifaceInsert _ _ _ | .openEp _ _ _
  | .clearHalt _ _ | .epInsert _ _ => true
  | _ => false

def CallPc.claiming : CallPc → Option UInt8
  | .claim num _ | .selectAlt _ num _ | .ifaceInsert _ num _ => some num
  | _ => none

def Call.on (epAddr : UInt8) : Call → Bool
  | .data addr _ _ => addr == epAddr
  | .control _ _ => false

namespace Pool

/-- A call goes past a miss only if no other call is past one for the same endpoint, or for
the same interface. -/
def apart (s : Pool) : Action → Bool
  | .start _ => true
  | .advance t _ =>
    match s.calls[t]? with
    | some (.data epAddr _ _, .epLookup _ _) =>
      (s.device.endpoints.lookup epAddr).isSome ||
        s.calls.all fun c => !(c.1.on epAddr && c.2.opening)
    | some (_, .ifaceLookup num _) =>
      (s.device.interfaces.lookup num).isSome || s.calls.all (·.2.claiming != some num)
    | _ => true

/-- One call after another: the others have not begun, or have returned. -/
def serial (s : Pool) : Action → Bool
  | .start _ => true
  | .advance t _ =>
    s.calls.zipIdx.all fun c =>
      c.2 == t || c.1.2.returned || match c.1.2 with
        | .activeConfiguration => true
        | _ => false

end Pool

section Extends

structure OpenedDevice.Extends (d d' : OpenedDevice) : Prop extends d.Grows d' where
  configuration : d'.activeConfiguration = d.activeConfiguration
  alts : d'.altSettings = d.altSettings
  handles : ∀ (h : Nat) (i : Interface), d.handles[h]? = some i →
    ∃ i', d'.handles[h]? = some i' ∧ i'.num = i.num
  endpoints : ∀ (addr : UInt8) (entry : EndpointEntry), d.endpoints.lookup addr = some entry →
    d'.endpoints.lookup addr = some entry

variable {d d' : OpenedDevice} {t : Nat} {epAddr num : UInt8} {length : Nat} {outData : Bytes}
  {pc : CallPc} {a : CallAction} {r : CallStep}

theorem OpenedDevice.Extends.refl : d.Extends d where
  toGrows := .of_eq rfl rfl
  configuration := rfl
  alts := rfl
  handles := fun _ i hi => ⟨i, hi, rfl⟩
  endpoints := fun _ _ hl => hl

theorem OpenedDevice.Extends.trans {d'' : OpenedDevice} (h : d.Extends d') (h' : d'.Extends d'') :
    d.Extends d'' where
  eps := fun e ep hep => h'.eps e ep (h.eps e ep hep)
  interfaces := fun num i hl => h'.interfaces num i (h.interfaces num i hl)
  configuration := h'.configuration.trans h.configuration
  alts := h'.alts.trans h.alts
  handles := by
    intro i j hj
    obtain ⟨j', hj', hnum⟩ := h.handles i j hj
    obtain ⟨j'', hj'', hnum'⟩ := h'.handles i j' hj'
    exact ⟨j'', hj'', hnum'.trans hnum⟩
  endpoints := fun addr entry hl => h'.endpoints addr entry (h.endpoints addr entry hl)

theorem OpenedDevice.Extends.unclaimed (h : d.Extends d')
    (hn : d'.interfaces.lookup num = none) : d.interfaces.lookup num = none := by
  cases hl : d.interfaces.lookup num with
  | none => rfl
  | some i =>
    rw [h.interfaces num i hl] at hn
    cases hn

theorem OpenedDevice.Extends.uncached (h : d.Extends d')
    (hn : d'.endpoints.lookup epAddr = none) : d.endpoints.lookup epAddr = none := by
  cases hl : d.endpoints.lookup epAddr with
  | none => rfl
  | some entry =>
    rw [h.endpoints epAddr entry hl] at hn
    cases hn

theorem extends_ensure (hm : EnsureMove d pc a r) : d.Extends r.device := by
  cases hm with
  | claim =>
    refine { OpenedDevice.Extends.refl (d := d) with handles := fun i j hj => ⟨j, ?_, rfl⟩ }
    exact (List.getElem?_append_left (lt_length_of_getElem? hj)).trans hj
  | @select h num use =>
    refine { OpenedDevice.Extends.refl (d := d) with handles := fun i j hj => ?_ }
    simp only [OpenedDevice.setHandleAlt, List.getElem?_modify, hj]
    split_ifs
    · exact ⟨_, rfl, rfl⟩
    · exact ⟨_, rfl, rfl⟩
  | insert hl => exact { OpenedDevice.Extends.refl (d := d) with toGrows := .insertInterface hl }
  | _ => exact .refl

theorem extends_data (hm : DataMove d t epAddr length outData pc a r) : d.Extends r.device := by
  cases hm with
  | opened => exact { OpenedDevice.Extends.refl (d := d) with toGrows := .openEndpoint _ }
  | insert hl =>
    refine { OpenedDevice.Extends.refl (d := d) with endpoints := fun addr entry hentry => ?_ }
    have hne : addr ≠ epAddr := by
      rintro rfl
      rw [hl] at hentry
      cases hentry
    rw [AList.lookup_insert_ne hne]
    exact hentry
  | lock | finish => exact { OpenedDevice.Extends.refl (d := d) with }
  | ensure hm => exact extends_ensure hm
  | _ => exact .refl

end Extends

section Windows

variable {d : OpenedDevice} {t : Nat} {epAddr num : UInt8} {length : Nat} {outData : Bytes}
  {pc : CallPc} {a : CallAction} {r : CallStep}

theorem opening_data (hm : DataMove d t epAddr length outData pc a r)
    (ho : r.pc.opening = true) : pc.opening = true ∨
      (∃ num kind, pc = .epLookup num kind) ∧ d.endpoints.lookup epAddr = none := by
  cases hm with
  | miss hl => exact .inr ⟨⟨_, _, rfl⟩, hl⟩
  | opened | openFailed | clearHalt | insert | present => exact .inl rfl
  | ensure hm => cases hm <;> exact .inl rfl
  | _ => cases ho

theorem claiming_data (hm : DataMove d t epAddr length outData pc a r)
    (hc : r.pc.claiming = some num) : pc.claiming = some num ∨
      (∃ use, pc = .ifaceLookup num use) ∧ d.interfaces.lookup num = none := by
  have hback : ∀ {h : Nat} {num' : UInt8} {use : IfaceUse},
      (afterInterface h num' use).claiming ≠ some num := by
    intro h num' use
    cases use <;> nofun
  cases hm with
  | ensure hm =>
    cases hm with
    | miss hl =>
      cases hc
      exact .inr ⟨⟨_, rfl⟩, hl⟩
    | hit => exact absurd hc hback
    | present => exact absurd hc hback
    | insert => exact absurd hc hback
    | claimFailed => cases hc
    | _ => exact .inl hc
  | _ => cases hc

theorem endpoints_data (hm : DataMove d t epAddr length outData pc a r) :
    r.device.endpoints = d.endpoints ∨ pc.opening = true ∧ r.pc.opening = false ∧
      ∃ entry, r.device.endpoints = d.endpoints.insert epAddr entry := by
  cases hm with
  | insert => exact .inr ⟨rfl, rfl, _, rfl⟩
  | ensure hm => cases hm <;> exact .inl rfl
  | _ => exact .inl rfl

theorem interfaces_data (hm : DataMove d t epAddr length outData pc a r) :
    r.device.interfaces = d.interfaces ∨ ∃ num h, pc.claiming = some num ∧
      r.pc.claiming = none ∧ r.device.interfaces = d.interfaces.insert num h := by
  cases hm with
  | ensure hm =>
    cases hm with
    | @insert h num use =>
      refine .inr ⟨num, h, rfl, ?_, rfl⟩
      cases use <;> rfl
    | _ => exact .inl rfl
  | _ => exact .inl rfl

namespace Pool

structure Windows (s : Pool) : Prop where
  opening : ∀ epAddr, AtMostOne (fun c => c.1.on epAddr = true ∧ c.2.opening = true) s.calls
  claiming : ∀ num, AtMostOne (fun c => c.2.claiming = some num) s.calls
  unopened : Each (fun _ c => c.2.opening = true → ∀ epAddr, c.1.on epAddr = true →
    s.device.endpoints.lookup epAddr = none) s.calls
  unclaimed : Each (fun _ c => ∀ num, c.2.claiming = some num →
    s.device.interfaces.lookup num = none) s.calls

variable {s : Pool}

theorem none_opening_of_apart {num : UInt8} {kind : EpKind} (ha : s.apart (.advance t a) = true)
    (hc : s.calls[t]? = some (.data epAddr length outData, .epLookup num kind))
    (hl : s.device.endpoints.lookup epAddr = none) :
    ∀ c ∈ s.calls, ¬ (c.1.on epAddr = true ∧ c.2.opening = true) := by
  simp only [apart, hc, hl, Option.isSome_none, Bool.false_or, List.all_eq_true] at ha
  intro c hmem hboth
  have hfree := ha c hmem
  rw [hboth.1, hboth.2] at hfree
  cases hfree

theorem none_claiming_of_apart {call : Call} {use : IfaceUse}
    (ha : s.apart (.advance t a) = true) (hc : s.calls[t]? = some (call, .ifaceLookup num use))
    (hl : s.device.interfaces.lookup num = none) :
    ∀ c ∈ s.calls, c.2.claiming ≠ some num := by
  simp only [apart, hc, hl, Option.isSome_none, Bool.false_or, List.all_eq_true] at ha
  intro c hmem
  exact bne_iff_ne.mp (ha c hmem)

theorem Windows.step (h : s.Windows) (ha : s.apart (.advance t a) = true)
    (hc : s.calls[t]? = some (.data epAddr length outData, pc))
    (hm : DataMove s.device t epAddr length outData pc a r) :
    Windows ⟨r.device, s.calls.set t (.data epAddr length outData, r.pc)⟩ where
  opening := by
    intro addr
    refine (h.opening addr).set hc ?_
    rintro ⟨hon, ho⟩
    rcases opening_data hm ho with hold | ⟨⟨num, kind, rfl⟩, hl⟩
    · exact .inl ⟨hon, hold⟩
    · cases beq_iff_eq.mp hon
      exact .inr (none_opening_of_apart ha hc hl)
  claiming := by
    intro num
    refine (h.claiming num).set hc ?_
    intro hclaim
    rcases claiming_data hm hclaim with hold | ⟨⟨use, rfl⟩, hl⟩
    · exact .inl hold
    · exact .inr (none_claiming_of_apart ha hc hl)
  unopened := by
    refine h.unopened.set ?_ ?_
    · intro ho addr hon
      cases beq_iff_eq.mp hon
      rcases endpoints_data hm with hsame | ⟨-, hclosed, -⟩
      · rw [hsame]
        rcases opening_data hm ho with hold | ⟨-, hl⟩
        · exact h.unopened t _ hc hold epAddr hon
        · exact hl
      · exact absurd ho (by simp [hclosed])
    · intro i c hne hi hold ho addr hon
      have hnone := hold ho addr hon
      rcases endpoints_data hm with hsame | ⟨hopen, -, entry, hinsert⟩
      · rw [hsame]
        exact hnone
      · -- the entry is for another endpoint: a call for this one would be past its miss too
        have haddr : addr ≠ epAddr := by
          rintro rfl
          exact hne (h.opening addr i t c _ hi hc ⟨hon, ho⟩ ⟨beq_self_eq_true addr, hopen⟩)
        rw [hinsert, AList.lookup_insert_ne haddr]
        exact hnone
  unclaimed := by
    refine h.unclaimed.set ?_ ?_
    · intro num hclaim
      rcases interfaces_data hm with hsame | ⟨num', h', -, hnone, -⟩
      · rw [hsame]
        rcases claiming_data hm hclaim with hold | ⟨-, hl⟩
        · exact h.unclaimed t _ hc num hold
        · exact hl
      · rw [hnone] at hclaim
        cases hclaim
    · intro i c hne hi hold num hclaim
      have hnone := hold num hclaim
      rcases interfaces_data hm with hsame | ⟨num', h', hother, -, hinsert⟩
      · rw [hsame]
        exact hnone
      · have hnum : num ≠ num' := by
          rintro rfl
          exact hne (h.claiming num i t c _ hi hc hclaim hother)
        rw [hinsert, AList.lookup_insert_ne hnum]
        exact hnone

end Pool

end Windows

section Live

namespace Pool

variable {s : Pool} {e h : Nat} {num epAddr : UInt8} {d : OpenedDevice}

theorem mem_liveEps : e ∈ s.liveEps ↔
    (∃ addr entry, s.device.endpoints.lookup addr = some entry ∧ entry.ep = e) ∨
      ∃ c ∈ s.calls, c.2.epHandle = some e := by
  rw [liveEps, List.mem_append, mem_entries_map, List.mem_filterMap]

theorem mem_liveHandles : h ∈ s.liveHandles ↔
    ((∃ num, s.device.interfaces.lookup num = some h) ∨
      ∃ c ∈ s.calls, c.2.ifaceHandle = some h) ∨
    ∃ e ∈ s.liveEps, ∃ ep, s.device.eps[e]? = some ep ∧ ep.iface = h := by
  have hmap : h ∈ s.device.interfaces.entries.map (·.2) ↔
      ∃ num, s.device.interfaces.lookup num = some h :=
    (mem_entries_map (f := id)).trans (by simp)
  rw [liveHandles, List.mem_append, List.mem_append, hmap, List.mem_filterMap, List.mem_filterMap]
  simp only [Option.map_eq_some_iff]

theorem isClaimed_iff : s.isClaimed num = true ↔
    ∃ h ∈ s.liveHandles, ∃ i, s.device.handles[h]? = some i ∧ i.num = num := by
  simp only [isClaimed, List.any_eq_true, Option.any_eq_true, beq_iff_eq]

theorem isOpen_iff : s.isOpen epAddr = true ↔
    ∃ e ∈ s.liveEps, ∃ ep, s.device.eps[e]? = some ep ∧ ep.addr = epAddr := by
  simp only [isOpen, List.any_eq_true, Option.any_eq_true, beq_iff_eq]

theorem mem_liveEps_of_extends (hd : d.Extends s.device) (h : e ∈ (Pool.mk d []).liveEps) :
    e ∈ s.liveEps := by
  rcases mem_liveEps.mp h with ⟨addr, entry, hl, rfl⟩ | ⟨c, hc, -⟩
  · exact mem_liveEps.mpr (.inl ⟨addr, entry, hd.endpoints addr entry hl, rfl⟩)
  · cases hc

theorem isOpen_of_extends (hd : d.Extends s.device) (h : (Pool.mk d []).isOpen epAddr = true) :
    s.isOpen epAddr = true := by
  obtain ⟨e, he, ep, hep, haddr⟩ := isOpen_iff.mp h
  exact isOpen_iff.mpr ⟨e, mem_liveEps_of_extends hd he, ep, hd.eps e ep hep, haddr⟩

theorem isClaimed_of_extends (hd : d.Extends s.device)
    (h : (Pool.mk d []).isClaimed num = true) : s.isClaimed num = true := by
  obtain ⟨i, hi, iface, hiface, hnum⟩ := isClaimed_iff.mp h
  obtain ⟨iface', hiface', hnum'⟩ := hd.handles i iface hiface
  refine isClaimed_iff.mpr ⟨i, ?_, iface', hiface', hnum'.trans hnum⟩
  rw [mem_liveHandles] at hi ⊢
  rcases hi with (⟨k, hk⟩ | ⟨c, hc, -⟩) | ⟨e, he, ep, hep, rfl⟩
  · exact .inl (.inl ⟨k, hd.interfaces k i hk⟩)
  · cases hc
  · exact .inr ⟨e, mem_liveEps_of_extends hd he, ep, hd.eps e ep hep, rfl⟩

end Pool

end Live

section Serial

variable {s : Pool} {t : Nat}

theorem quiet_of_serial {a : CallAction} {i : Nat} {c : Call × CallPc}
    (h : s.serial (.advance t a) = true) (hi : s.calls[i]? = some c) :
    i = t ∨ c.2.opening = false ∧ c.2.claiming = none := by
  have hc := List.all_eq_true.mp h (c, i) (List.mk_mem_zipIdx_iff_getElem?.mpr hi)
  obtain ⟨call, pc⟩ := c
  by_cases hit : i = t
  · exact .inl hit
  · right
    have hne : (i == t) = false := beq_eq_false_iff_ne.mpr hit
    rw [hne, Bool.false_or] at hc
    cases pc with
    | activeConfiguration | done | panicked => exact ⟨rfl, rfl⟩
    | _ => cases hc

theorem apart_of_serial {a : Pool.Action} (h : s.serial a = true) : s.apart a = true := by
  cases a with
  | start call => rfl
  | advance t a =>
    unfold Pool.apart
    dsimp only
    split
    · rename_i epAddr length outData num kind hc
      refine Bool.or_eq_true_iff.mpr (.inr (List.all_eq_true.mpr fun c hmem => ?_))
      obtain ⟨i, hi⟩ := List.getElem?_of_mem hmem
      rcases quiet_of_serial h hi with rfl | ⟨hoff, -⟩
      · cases hi.symm.trans hc
        simp [CallPc.opening]
      · simp [hoff]
    · rename_i num use hc
      refine Bool.or_eq_true_iff.mpr (.inr (List.all_eq_true.mpr fun c hmem => ?_))
      obtain ⟨i, hi⟩ := List.getElem?_of_mem hmem
      rcases quiet_of_serial h hi with rfl | ⟨-, hoff⟩
      · cases hi.symm.trans hc
        rfl
      · rw [hoff]
        rfl
    · rfl

end Serial

end Usbip.Host
