import UsbipdDarwin.Host.Grants

/-! What each point of a data transfer says about its endpoint: whether a call that ran alone
would get it. With the calls apart past their misses that is the same for all of them. -/

namespace Usbip.Host
open Proto Lts

section Usable

variable (env : Surroundings) (d : OpenedDevice)

def Claimable (num : UInt8) : Prop :=
  d.interfaces.lookup num = none ∧ env.claims ⟨d, []⟩ num = true

def IfaceUsable (num : UInt8) : Prop :=
  (∃ h, d.interfaces.lookup num = some h) ∨ Claimable env d num

def EpUsable (epAddr num : UInt8) (kind : EpKind) : Prop :=
  IfaceUsable env d num ∧ env.opens ⟨d, []⟩ epAddr kind = true

def ResolvesTo (epAddr num : UInt8) (kind : EpKind) : Prop :=
  ∀ t, d.endpointKind epAddr (env.order t) = .ok (num, kind)

def Usable (epAddr : UInt8) : Prop :=
  ∃ num kind, ResolvesTo env d epAddr num kind ∧
    ((∃ entry, d.endpoints.lookup epAddr = some entry) ∨ EpUsable env d epAddr num kind)

def OpenedFor (s : OpenedDevice) (epAddr num : UInt8) (e : Nat) : Prop :=
  ∃ ep, s.eps[e]? = some ep ∧ ep.addr = epAddr ∧ s.interfaces.lookup num = some ep.iface

def ClaimedFor (s : OpenedDevice) (num : UInt8) (h : Nat) : Prop :=
  ∃ i, s.handles[h]? = some i ∧ i.num = num

/-- What each point of `data_transfer` says about the endpoint, whoever else runs. -/
def CallPc.Tells (s : OpenedDevice) (epAddr : UInt8) : CallPc → Prop
  | .activeConfiguration => True
  | .altMap cfg => d.activeConfiguration = some cfg
  | .epLookup num kind => ResolvesTo env d epAddr num kind
  | .ifaceLookup num use | .claim num use =>
    ∃ kind, use = .ensureEndpoint kind ∧ ResolvesTo env d epAddr num kind
  | .selectAlt h num use | .ifaceInsert h num use =>
    (∃ kind, use = .ensureEndpoint kind ∧ ResolvesTo env d epAddr num kind) ∧
      Claimable env d num ∧ ClaimedFor s num h
  | .openEp h num kind => ResolvesTo env d epAddr num kind ∧ s.interfaces.lookup num = some h
  | .clearHalt e num | .epInsert e num =>
    (∃ kind, ResolvesTo env d epAddr num kind ∧ EpUsable env d epAddr num kind) ∧
      OpenedFor s epAddr num e
  | .epWait e | .epLocked e | .transferring e _ | .transferred e _ =>
    Usable env d epAddr ∧ ∃ entry, s.endpoints.lookup epAddr = some entry ∧ entry.ep = e
  | .done (.ok _) | .done (.error (.transfer _)) | .panicked => Usable env d epAddr
  | .done (.error _) => ¬ Usable env d epAddr
  | _ => False

/-- What is in the caches was there before, or was given out to these calls. -/
structure OpenedDevice.Accounted (s : OpenedDevice) : Prop where
  grown : d.Extends s
  interface : ∀ num h, s.interfaces.lookup num = some h →
    d.interfaces.lookup num = some h ∨ Claimable env d num ∧ ClaimedFor s num h
  entry : ∀ addr entry, s.endpoints.lookup addr = some entry →
    d.endpoints.lookup addr = some entry ∨
      (∃ kind, ResolvesTo env d addr entry.ifaceNum kind ∧
        EpUsable env d addr entry.ifaceNum kind) ∧ OpenedFor s addr entry.ifaceNum entry.ep

end Usable

section Told

variable {env : Surroundings} {d dev dev' : OpenedDevice} {s : Pool} {t : Nat}
  {epAddr num : UInt8} {kind : EpKind} {length : Nat} {outData : Bytes} {pc : CallPc}
  {a : CallAction} {r : CallStep}

theorem OpenedFor.mono {e : Nat} (h : OpenedFor dev epAddr num e) (hd : dev.Extends dev') :
    OpenedFor dev' epAddr num e := by
  obtain ⟨ep, hep, haddr, hl⟩ := h
  exact ⟨ep, hd.eps e ep hep, haddr, hd.interfaces num _ hl⟩

theorem ClaimedFor.mono {h : Nat} (hc : ClaimedFor dev num h) (hd : dev.Extends dev') :
    ClaimedFor dev' num h := by
  obtain ⟨i, hi, hnum⟩ := hc
  obtain ⟨i', hi', hnum'⟩ := hd.handles h i hi
  exact ⟨i', hi', hnum'.trans hnum⟩

theorem CallPc.Tells.mono (h : pc.Tells env d dev epAddr) (hd : dev.Extends dev') :
    pc.Tells env d dev' epAddr := by
  have hcached : ∀ {e : Nat}, (Usable env d epAddr ∧
      ∃ entry, dev.endpoints.lookup epAddr = some entry ∧ entry.ep = e) →
      Usable env d epAddr ∧ ∃ entry, dev'.endpoints.lookup epAddr = some entry ∧ entry.ep = e := by
    rintro e ⟨hu, entry, hl, he⟩
    exact ⟨hu, entry, hd.endpoints epAddr entry hl, he⟩
  cases pc with
  | selectAlt | ifaceInsert => exact ⟨h.1, h.2.1, h.2.2.mono hd⟩
  | openEp => exact ⟨h.1, hd.interfaces _ _ h.2⟩
  | clearHalt | epInsert => exact ⟨h.1, h.2.mono hd⟩
  | epWait | epLocked | transferring | transferred => exact hcached h
  | done r =>
    cases r with
    | ok => exact h
    | error e => cases e <;> exact h
  | _ => exact h

theorem CallPc.Tells.ifaceHandle {h : Nat} (htells : pc.Tells env d dev epAddr)
    (hh : pc.ifaceHandle = some h) : (∃ num, pc.claiming = some num ∧ ClaimedFor dev num h) ∨
      ∃ num, dev.interfaces.lookup num = some h := by
  cases pc with
  | selectAlt | ifaceInsert =>
    cases hh
    exact .inl ⟨_, rfl, htells.2.2⟩
  | openEp =>
    cases hh
    exact .inr ⟨_, htells.2⟩
  | setAlt | settingAlt => exact htells.elim
  | _ => cases hh

theorem CallPc.Tells.epHandle {e : Nat} (htells : pc.Tells env d dev epAddr)
    (he : pc.epHandle = some e) : (pc.opening = true ∧ ∃ num, OpenedFor dev epAddr num e) ∨
      ∃ entry, dev.endpoints.lookup epAddr = some entry ∧ entry.ep = e := by
  cases pc with
  | clearHalt | epInsert =>
    cases he
    exact .inl ⟨rfl, _, htells.2⟩
  | epWait | epLocked | transferring | transferred =>
    cases he
    exact .inr htells.2
  | _ => cases he

def Pool.Told (env : Surroundings) (d : OpenedDevice) (s : Pool) : Prop :=
  Each (fun _ c => ∃ epAddr length outData, c.1 = .data epAddr length outData ∧
    c.2.Tells env d s.device epAddr) s.calls

theorem isClaimed_of_cached (hd : d.NoDangling) (hacc : d.Accounted env s.device)
    (hn : s.device.interfaces.lookup num = none) {k : UInt8} {h : Nat} {i : Interface}
    (hl : s.device.interfaces.lookup k = some h) (hi : s.device.handles[h]? = some i)
    (hnum : i.num = num) : (Pool.mk d []).isClaimed num = true := by
  rcases hacc.interface k h hl with hold | ⟨-, i', hi', hk⟩
  · have hi₀ := List.getElem?_eq_getElem (hd.interfaces k h hold)
    obtain ⟨i', hi', hnum'⟩ := hacc.grown.handles h _ hi₀
    obtain rfl : i = i' := Option.some.inj (hi.symm.trans hi')
    exact Pool.isClaimed_iff.mpr
      ⟨h, Pool.mem_liveHandles.mpr (.inl (.inl ⟨k, hold⟩)), _, hi₀, hnum'.symm.trans hnum⟩
  · obtain rfl : i = i' := Option.some.inj (hi.symm.trans hi')
    obtain rfl : k = num := hk.symm.trans hnum
    rw [hn] at hl
    cases hl

theorem isClaimed_back (hd : d.NoDangling) (hacc : d.Accounted env s.device) (hw : s.Windows)
    (htold : s.Told env d) {c : Call × CallPc} (ht : s.calls[t]? = some c)
    (hclaim : c.2.claiming = some num) (hfree : c.2.ifaceHandle = none)
    (h : s.isClaimed num = true) : (Pool.mk d []).isClaimed num = true := by
  have hn := hw.unclaimed t c ht num hclaim
  obtain ⟨h', hlive, i, hi, hnum⟩ := Pool.isClaimed_iff.mp h
  have hiface : ∀ {k}, s.device.interfaces.lookup k = some h' →
      (Pool.mk d []).isClaimed num = true :=
    fun hl => isClaimed_of_cached hd hacc hn hl hi hnum
  -- an endpoint in the cache holds the handle the interface cache has, or is an old one
  have hcached : ∀ {addr entry ep}, s.device.endpoints.lookup addr = some entry →
      s.device.eps[entry.ep]? = some ep → ep.iface = h' →
      (Pool.mk d []).isClaimed num = true := by
    rintro addr entry ep hl hep rfl
    rcases hacc.entry addr entry hl with hold | ⟨-, ep', hep', -, hk⟩
    · have hep₀ := List.getElem?_eq_getElem (hd.endpoints addr entry hold)
      have heq := hacc.grown.eps _ _ hep₀
      obtain rfl := Option.some.inj (hep.symm.trans heq)
      have hi₀ := List.getElem?_eq_getElem (hd.eps _ _ hep₀)
      obtain ⟨i', hi', hnum'⟩ := hacc.grown.handles _ _ hi₀
      obtain rfl : i = i' := Option.some.inj (hi.symm.trans hi')
      refine Pool.isClaimed_iff.mpr ⟨_, Pool.mem_liveHandles.mpr (.inr ?_), _, hi₀,
        hnum'.symm.trans hnum⟩
      exact ⟨entry.ep, Pool.mem_liveEps.mpr (.inl ⟨addr, entry, hold, rfl⟩), _, hep₀, rfl⟩
    · obtain rfl : ep = ep' := Option.some.inj (hep.symm.trans hep')
      exact hiface hk
  rcases Pool.mem_liveHandles.mp hlive with (⟨k, hk⟩ | ⟨c', hc', hhand⟩) | ⟨e, he, ep, hep, hif⟩
  · exact hiface hk
  · obtain ⟨j, hj⟩ := List.getElem?_of_mem hc'
    obtain ⟨addr, length, outData, -, htells⟩ := htold j c' hj
    rcases htells.ifaceHandle hhand with ⟨num', hclaim', i', hi', hnum'⟩ | ⟨k, hk⟩
    · -- another claim of the interface in progress: there is none but this call's
      obtain rfl : i = i' := Option.some.inj (hi.symm.trans hi')
      obtain rfl : num' = num := hnum'.symm.trans hnum
      obtain rfl := hw.claiming num' j t c' c hj ht hclaim' hclaim
      obtain rfl : c' = c := Option.some.inj (hj.symm.trans ht)
      rw [hfree] at hhand
      cases hhand
    · exact hiface hk
  · rcases Pool.mem_liveEps.mp he with ⟨addr, entry, hl, rfl⟩ | ⟨c', hc', hhand⟩
    · exact hcached hl hep hif
    · obtain ⟨j, hj⟩ := List.getElem?_of_mem hc'
      obtain ⟨addr, length, outData, -, htells⟩ := htold j c' hj
      rcases htells.epHandle hhand with ⟨-, k, ep', hep', -, hk⟩ | ⟨entry, hl, rfl⟩
      · obtain rfl : ep = ep' := Option.some.inj (hep.symm.trans hep')
        exact hiface (hif ▸ hk)
      · exact hcached hl hep hif

theorem isOpen_back (hd : d.NoDangling) (hacc : d.Accounted env s.device) (hw : s.Windows)
    (htold : s.Told env d) {c : Call × CallPc} (ht : s.calls[t]? = some c)
    (hon : c.1.on epAddr = true) (hopen : c.2.opening = true) (hfree : c.2.epHandle = none)
    (h : s.isOpen epAddr = true) : (Pool.mk d []).isOpen epAddr = true := by
  have hn := hw.unopened t c ht hopen epAddr hon
  obtain ⟨e, hlive, ep, hep, haddr⟩ := Pool.isOpen_iff.mp h
  have hcached : ∀ {addr entry}, s.device.endpoints.lookup addr = some entry → entry.ep = e →
      (Pool.mk d []).isOpen epAddr = true := by
    rintro addr entry hl rfl
    rcases hacc.entry addr entry hl with hold | ⟨-, ep', hep', haddr', -⟩
    · have hep₀ := List.getElem?_eq_getElem (hd.endpoints addr entry hold)
      have heq := hacc.grown.eps _ _ hep₀
      obtain rfl := Option.some.inj (hep.symm.trans heq)
      exact Pool.isOpen_iff.mpr
        ⟨entry.ep, Pool.mem_liveEps.mpr (.inl ⟨addr, entry, hold, rfl⟩), _, hep₀, haddr⟩
    · obtain rfl : ep = ep' := Option.some.inj (hep.symm.trans hep')
      obtain rfl : addr = epAddr := haddr'.symm.trans haddr
      rw [hn] at hl
      cases hl
  rcases Pool.mem_liveEps.mp hlive with ⟨addr, entry, hl, he⟩ | ⟨c', hc', hhand⟩
  · exact hcached hl he
  · obtain ⟨j, hj⟩ := List.getElem?_of_mem hc'
    obtain ⟨addr, length, outData, hcall, htells⟩ := htold j c' hj
    rcases htells.epHandle hhand with ⟨hopen', k, ep', hep', haddr', -⟩ | ⟨entry, hl, he⟩
    · obtain rfl : ep = ep' := Option.some.inj (hep.symm.trans hep')
      obtain rfl : addr = epAddr := haddr'.symm.trans haddr
      have hon' : c'.1.on addr = true := by
        rw [hcall]
        exact beq_self_eq_true addr
      obtain rfl := hw.opening addr j t c' c hj ht ⟨hon', hopen'⟩ ⟨hon, hopen⟩
      obtain rfl : c' = c := Option.some.inj (hj.symm.trans ht)
      rw [hfree] at hhand
      cases hhand
    · exact hcached hl he

theorem granted {can live live₀ : Bool} (h : (can && !live) = true)
    (hlive : live₀ = true → live = true) : (can && !live₀) = true := by
  cases live₀ with
  | false => exact (Bool.and_eq_true _ _).mpr ⟨((Bool.and_eq_true _ _).mp h).1, rfl⟩
  | true =>
    rw [hlive rfl] at h
    cases can <;> cases h

theorem refused_before {can live live₀ : Bool} (h : (can && !live) = false)
    (hlive : live = true → live₀ = true) : (can && !live₀) = false := by
  cases live with
  | false => cases can <;> first | rfl | cases h
  | true =>
    rw [hlive rfl]
    exact Bool.and_false _

theorem claimable_of_claims (hd : d.Extends s.device)
    (hn : s.device.interfaces.lookup num = none) (h : env.claims s num = true) :
    Claimable env d num :=
  ⟨hd.unclaimed hn, granted h (Pool.isClaimed_of_extends hd)⟩

theorem not_usable (hr : ResolvesTo env d epAddr num kind)
    (hn : d.endpoints.lookup epAddr = none) (h : ¬ EpUsable env d epAddr num kind) :
    ¬ Usable env d epAddr := by
  rintro ⟨num', kind', hr', hu⟩
  cases (hr 0).symm.trans (hr' 0)
  rcases hu with ⟨entry, hl⟩ | hu
  · rw [hn] at hl
    cases hl
  · exact h hu

theorem ifaceUsable_of_cached (hacc : d.Accounted env dev) {h : Nat}
    (hl : dev.interfaces.lookup num = some h) : IfaceUsable env d num := by
  rcases hacc.interface num h hl with hold | ⟨hclaim, -⟩
  · exact .inl ⟨h, hold⟩
  · exact .inr hclaim

theorem usable_of_cached (hacc : d.Accounted env dev) (hr : ResolvesTo env d epAddr num kind)
    {entry : EndpointEntry} (hl : dev.endpoints.lookup epAddr = some entry) :
    Usable env d epAddr := by
  rcases hacc.entry epAddr entry hl with hold | ⟨⟨kind', hr', hu⟩, -⟩
  · exact ⟨num, kind, hr, .inl ⟨entry, hold⟩⟩
  · exact ⟨_, kind', hr', .inr hu⟩

theorem OpenedDevice.Accounted.interface_mono (hacc : d.Accounted env dev)
    (hd : dev.Extends dev') {h : Nat} (hl : dev.interfaces.lookup num = some h) :
    d.interfaces.lookup num = some h ∨ Claimable env d num ∧ ClaimedFor dev' num h := by
  rcases hacc.interface num h hl with hold | ⟨hclaim, hfor⟩
  · exact .inl hold
  · exact .inr ⟨hclaim, hfor.mono hd⟩

theorem OpenedDevice.Accounted.entry_mono (hacc : d.Accounted env dev)
    (hd : dev.Extends dev') {entry : EndpointEntry}
    (hl : dev.endpoints.lookup epAddr = some entry) :
    d.endpoints.lookup epAddr = some entry ∨
      (∃ kind, ResolvesTo env d epAddr entry.ifaceNum kind ∧
        EpUsable env d epAddr entry.ifaceNum kind) ∧
      OpenedFor dev' epAddr entry.ifaceNum entry.ep := by
  rcases hacc.entry epAddr entry hl with hold | ⟨hu, hfor⟩
  · exact .inl hold
  · exact .inr ⟨hu, hfor.mono hd⟩

theorem OpenedDevice.Accounted.keep (hacc : d.Accounted env dev) (hd : dev.Extends dev')
    (hi : dev'.interfaces = dev.interfaces) (he : dev'.endpoints = dev.endpoints) :
    d.Accounted env dev' where
  grown := hacc.grown.trans hd
  interface := by
    intro num h hl
    rw [hi] at hl
    exact hacc.interface_mono hd hl
  entry := by
    intro addr entry hl
    rw [he] at hl
    exact hacc.entry_mono hd hl

theorem accounted_ensure (hacc : d.Accounted env dev) (hm : EnsureMove dev pc a r)
    (htells : pc.Tells env d dev epAddr) : d.Accounted env r.device := by
  have hd := extends_ensure hm
  cases hm with
  | @insert h num use hn =>
    refine ⟨hacc.grown.trans hd, fun num' h' hl => ?_, fun addr entry hl => ?_⟩
    · rcases lookup_of_insert hl with ⟨rfl, rfl⟩ | ⟨-, hold⟩
      · exact .inr htells.2
      · exact hacc.interface_mono hd hold
    · exact hacc.entry_mono hd hl
  | _ => exact hacc.keep hd rfl rfl

theorem accounted_data (hacc : d.Accounted env dev)
    (hm : DataMove dev t epAddr length outData pc a r) (htells : pc.Tells env d dev epAddr) :
    d.Accounted env r.device := by
  have hd := extends_data hm
  cases hm with
  | insert =>
    refine ⟨hacc.grown.trans hd, fun num' h' hl => ?_, fun addr entry hl => ?_⟩
    · exact hacc.interface_mono hd hl
    · rcases lookup_of_insert hl with ⟨rfl, rfl⟩ | ⟨-, hold⟩
      · exact .inr ⟨htells.1, htells.2.mono hd⟩
      · exact hacc.entry_mono hd hold
  | ensure hm => exact accounted_ensure hacc hm htells
  | _ => exact hacc.keep hd rfl rfl

theorem tells_afterInterface {h : Nat} {use : IfaceUse} (hl : dev.interfaces.lookup num = some h)
    (hu : ∃ kind, use = .ensureEndpoint kind ∧ ResolvesTo env d epAddr num kind) :
    (afterInterface h num use).Tells env d dev epAddr := by
  obtain ⟨kind, rfl, hr⟩ := hu
  exact ⟨hr, hl⟩

theorem tells_ensure (hd : d.NoDangling) (hacc : d.Accounted env s.device) (hw : s.Windows)
    (htold : s.Told env d) (hc : s.calls[t]? = some (.data epAddr length outData, pc))
    (hans : env.answers s (.advance t a) = true) (hm : EnsureMove s.device pc a r)
    (htells : pc.Tells env d s.device epAddr) : r.pc.Tells env d r.device epAddr := by
  cases hm with
  | hit hl => exact tells_afterInterface hl htells
  | miss => exact htells
  | @claim num use =>
    simp only [Surroundings.answers, hc] at hans
    have hclaim : Claimable env d num :=
      claimable_of_claims hacc.grown (hw.unclaimed t _ hc num rfl) hans
    exact ⟨htells, hclaim, _, List.getElem?_concat_length, rfl⟩
  | @claimFailed num use =>
    simp only [Surroundings.answers, hc, Bool.not_eq_true'] at hans
    obtain ⟨kind, -, hr⟩ := htells
    have hn := hw.unclaimed t _ hc num rfl
    have hmiss := hw.unopened t _ hc rfl epAddr (beq_self_eq_true epAddr)
    refine not_usable hr (hacc.grown.uncached hmiss) ?_
    -- whoever has the interface had it before the calls, so it is refused to a lone call too
    rintro ⟨⟨h, hl⟩ | ⟨-, hclaim⟩, -⟩
    · rw [hacc.grown.unclaimed hn] at hl
      cases hl
    · have hrefused : env.claims ⟨d, []⟩ num = false :=
        refused_before hans (isClaimed_back hd hacc hw htold hc rfl rfl)
      rw [hclaim] at hrefused
      cases hrefused
  | select => exact ⟨htells.1, htells.2.1, htells.2.2.mono (extends_ensure .select)⟩
  | selectFailed => exact htells
  | present hl => exact tells_afterInterface hl htells.1
  | insert => exact tells_afterInterface (AList.lookup_insert _) htells.1

theorem endpointKind_ne_transfer {cfg : Configuration} {altMap : HashMap UInt8 UInt8}
    {order : List UInt8} {e : TransferError} :
    endpointKind cfg altMap epAddr order ≠ .error (.transfer e) := by
  intro hk
  induction order with
  | nil => cases hk
  | cons num rest ih =>
    rw [endpointKind] at hk
    split at hk
    · exact ih hk
    · split at hk
      · exact ih hk
      · rename_i ep _
        cases hty : ep.transferType <;> (rw [hty] at hk; cases hk)

theorem tells_data (hd : d.NoDangling) (hwalks : env.Walks d)
    (hacc : d.Accounted env s.device) (hw : s.Windows) (htold : s.Told env d)
    (hc : s.calls[t]? = some (.data epAddr length outData, pc))
    (hans : env.answers s (.advance t a) = true)
    (hm : DataMove s.device t epAddr length outData pc a r)
    (htells : pc.Tells env d s.device epAddr) : r.pc.Tells env d r.device epAddr := by
  cases hm with
  | unconfigured hcfg =>
    rw [hacc.grown.configuration] at hcfg
    rintro ⟨num, kind, hr, -⟩
    have hkind := hr 0
    rw [OpenedDevice.endpointKind, hcfg] at hkind
    cases hkind
  | configured hcfg =>
    rw [hacc.grown.configuration] at hcfg
    exact hcfg
  | @resolved cfg order num kind ho hk =>
    simp only [Surroundings.answers, hc, beq_iff_eq] at hans
    intro t'
    rw [hwalks.same t' t, OpenedDevice.endpointKind, htells, ← hans, ← hacc.grown.alts]
    exact hk
  | @unresolved cfg order e ho hk =>
    simp only [Surroundings.answers, hc, beq_iff_eq] at hans
    have hnot : ¬ Usable env d epAddr := by
      rintro ⟨num, kind, hr, -⟩
      have hkind := hr t
      rw [OpenedDevice.endpointKind, htells, ← hans, ← hacc.grown.alts] at hkind
      cases hk.symm.trans hkind
    cases e with
    | transfer e => exact absurd hk endpointKind_ne_transfer
    | _ => exact hnot
  | hit hl => exact ⟨usable_of_cached hacc htells hl, _, hl, rfl⟩
  | miss => exact ⟨_, rfl, htells⟩
  | @opened h num kind mps =>
    simp only [Surroundings.answers, hc] at hans
    obtain ⟨hr, hl⟩ := htells
    have hopens : env.opens ⟨d, []⟩ epAddr kind = true :=
      granted hans (Pool.isOpen_of_extends hacc.grown)
    have hiface := ifaceUsable_of_cached hacc hl
    exact ⟨⟨kind, hr, hiface, hopens⟩, _, List.getElem?_concat_length, rfl, hl⟩
  | @openFailed h num kind =>
    simp only [Surroundings.answers, hc, Bool.not_eq_true'] at hans
    have hon : (Call.data epAddr length outData).on epAddr = true := beq_self_eq_true epAddr
    have hmiss := hw.unopened t _ hc rfl epAddr hon
    refine not_usable htells.1 (hacc.grown.uncached hmiss) ?_
    rintro ⟨-, hopens⟩
    have hrefused : env.opens ⟨d, []⟩ epAddr kind = false :=
      refused_before hans (isOpen_back hd hacc hw htold hc hon rfl rfl)
    rw [hopens] at hrefused
    cases hrefused
  | clearHalt => exact htells
  | @present e num entry hl =>
    obtain ⟨⟨kind, hr, -⟩, -⟩ := htells
    exact ⟨usable_of_cached hacc hr hl, entry, hl, rfl⟩
  | @insert e num =>
    obtain ⟨⟨kind, hr, hu⟩, -⟩ := htells
    exact ⟨⟨num, kind, hr, .inr hu⟩, _, AList.lookup_insert _, rfl⟩
  | lock | transfer | completed => exact htells
  | poisoned => exact htells.1
  | @finish e comp =>
    simp only [finishTransfer]
    split
    · exact htells.1
    · split_ifs <;> exact htells.1
  | ensure hm => exact tells_ensure hd hacc hw htold hc hans hm htells

end Told

end Usbip.Host
