import Mathlib.Data.Finset.Insert
import UsbipdDarwin.Daemon.Serve

/-! The access policy against hotplug. `handle_import` checks the device it finds
under the busid, and `open` looks the busid up once more: whether the device opened
is the one that was checked depends on what is plugged in by then. -/

namespace Usbip.Daemon
open Host

def ImportPc.beforeOpen : ImportPc → Bool
  | .connected | .requested | .permitted | .opening => true
  | _ => false

def ImportPc.checked : ImportPc → Bool
  | .permitted | .opening => true
  | _ => false

structure ImportPc.Onward (pc pc' : ImportPc) : Prop where
  beforeOpen : pc'.beforeOpen = true → pc.beforeOpen = true
  checked : pc'.checked = true → pc.checked = true

theorem ImportPc.Onward.refl (pc : ImportPc) : pc.Onward pc := ⟨id, id⟩

theorem ImportPc.beforeOpen_of_checked {pc : ImportPc} (h : pc.checked = true) :
    pc.beforeOpen = true := by
  cases pc with
  | permitted | opening => rfl
  | _ => cases h

theorem ImportPc.Onward.late {pc pc' : ImportPc} (h : pc'.beforeOpen = false) :
    pc.Onward pc' := by
  refine ⟨fun hb => ?_, fun hc => ?_⟩
  · rw [h] at hb
    cases hb
  · rw [ImportPc.beforeOpen_of_checked hc] at h
    cases h

variable {policy : AccessPolicy} {c c' : Client}

theorem Client.step_onward {a : ClientAction} (h : c.step policy a = some c')
    (ha : ∀ listed, a ≠ .lookup listed) : c.pc.Onward c'.pc := by
  cases step_rule h with
  | unlisted hp => exact absurd rfl (ha none)
  | lookup hp devices => exact absurd rfl (ha (some devices))
  | request hp busid =>
    rw [hp]
    exact ⟨fun _ => rfl, fun hc => by cases hc⟩
  | unsent | leave =>
    rw [(settle_frame _ _).1]
    exact .late rfl
  | session =>
    rw [(settle_frame _ _).1]
    exact .refl _
  | _ => exact .late rfl

theorem Client.requested_of_lookup {listed : Option (List DeviceInfo)}
    (h : c.step policy (.lookup listed) = some c') : c.pc = .requested := by
  cases step_rule h with
  | unlisted hp | lookup hp => exact hp

theorem Client.MovedBy.onward {a : Action} (h : c.MovedBy policy a c')
    (ha : ∀ i listed, a ≠ .client i (.lookup listed)) : c.pc.Onward c'.pc := by
  cases h with
  | own hs => exact Client.step_onward hs fun listed he => ha _ listed (by rw [he])
  | attach hp hpc =>
    rcases hpc with rfl | rfl
    · exact .late rfl
    · rw [hp]
      exact ⟨fun _ => rfl, fun _ => rfl⟩
  | dropGuard hp => exact .late rfl
  | dropDevice hd => exact .refl _

end Usbip.Daemon

namespace Usbip.Serve
open Proto Host Daemon Lts

variable {s s' : State} {policy : AccessPolicy} {m m' : Import} {c c' : Client} {i : Nat}

/-- What is known of a connection and its record once the product that `open` finds
is the one looked up. -/
structure ImportOk (policy : AccessPolicy) (m : Import) (c : Client) : Prop where
  checked : c.pc.checked = true → ∃ desc, m.desc = some desc ∧ permitsDevice policy desc = true
  before : c.pc.beforeOpen = true → m.opened = none ∧ m.announced = none
  opened : ∀ info, m.opened = some info → ∃ desc, m.desc = some desc ∧
    permitsDevice policy desc = true ∧ info.vendorId = desc.vendorId ∧
    info.productId = desc.productId
  announced : ∀ e, m.announced = some e → ∃ desc, m.desc = some desc ∧
    e.idVendor = desc.vendorId ∧ e.idProduct = desc.productId

theorem ImportOk.keep (h : ImportOk policy m c) (hpc : c.pc.Onward c'.pc)
    (hdesc : m'.desc = m.desc) (hopened : m'.opened = m.opened)
    (hannounced : m'.announced = m.announced) : ImportOk policy m' c' := by
  refine ⟨fun hc => ?_, fun hb => ?_, fun info hi => ?_, fun e he => ?_⟩
  · rw [hdesc]
    exact h.checked (hpc.checked hc)
  · rw [hopened, hannounced]
    exact h.before (hpc.beforeOpen hb)
  · rw [hdesc]
    exact h.opened info (hopened ▸ hi)
  · rw [hdesc]
    exact h.announced e (hannounced ▸ he)

theorem ImportOk.late (hlate : c'.pc.beforeOpen = false)
    (hopened : ∀ info, m.opened = some info → ∃ desc, m.desc = some desc ∧
      permitsDevice policy desc = true ∧ info.vendorId = desc.vendorId ∧
      info.productId = desc.productId)
    (hannounced : ∀ e, m.announced = some e → ∃ desc, m.desc = some desc ∧
      e.idVendor = desc.vendorId ∧ e.idProduct = desc.productId) : ImportOk policy m c' := by
  refine ⟨fun hc => ?_, fun hb => ?_, hopened, hannounced⟩
  · rw [ImportPc.beforeOpen_of_checked hc] at hlate
    cases hlate
  · rw [hb] at hlate
    cases hlate

theorem permits_of_lookup {listed : Option (List Listed)} (hc : s.client i = some c)
    (hs : c.step policy (.lookup (listed.map (·.map (·.info)))) = some c')
    (hchecked : c'.pc.checked = true) :
    ∃ desc, (s.found i listed).map (·.desc) = some desc ∧ permitsDevice policy desc = true := by
  simp only [Client.step] at hs
  split at hs <;> cases hs
  · cases hchecked
  rename_i devices hp hlisted
  obtain ⟨entries, rfl, rfl⟩ := Option.map_eq_some_iff.mp hlisted
  rw [State.found, busidOf_eq hc, Option.bind_some]
  simp only [Client.decision, List.find?_map, Function.comp_def] at hchecked
  cases hfound : entries.find? (·.info.busid == c.busid) with
  | none =>
    rw [hfound] at hchecked
    cases hchecked
  | some d =>
    simp only [hfound, Option.map_some] at hchecked
    split_ifs at hchecked with hpermits
    · refine ⟨d.desc, rfl, ?_⟩
      rwa [permitsDevice, d.vendorId_eq, d.productId_eq]
    · cases hchecked

/-- When `open` is called, the device it finds under the busid is of the product that
was looked up. -/
def SameProduct (s : State) : Action → Prop
  | .openDevice i o => ∀ m ∈ s.imports[i]?, ∀ desc ∈ m.desc,
      ∀ info ∈ o.answers.listed.bind (·.find? (·.busid == s.busidOf i)),
        info.vendorId = desc.vendorId ∧ info.productId = desc.productId
  | _ => True

instance (s : State) : (a : Action) → Decidable (SameProduct s a)
  | .openDevice i o => inferInstanceAs (Decidable (∀ m ∈ s.imports[i]?, ∀ desc ∈ m.desc,
      ∀ info ∈ o.answers.listed.bind (·.find? (·.busid == s.busidOf i)),
        info.vendorId = desc.vendorId ∧ info.productId = desc.productId))
  | .connect _ | .request .. | .devlist .. | .lookup .. | .tryAttach _ | .openPanic _ | .refuse _
  | .reply .. | .session .. | .leave _ | .dropGuard _ | .dropDevice .. | .shutdown _ | .sweep _ =>
    isTrue trivial

theorem opened_same {o : Opening} {info : DeviceInfo} {desc : UsbDevice}
    (hsame : SameProduct s (.openDevice i o)) (hm : s.imports[i]? = some m)
    (hdesc : m.desc = some desc) (hopened : s.opened i o = some info) :
    info.vendorId = desc.vendorId ∧ info.productId = desc.productId := by
  unfold State.opened at hopened
  split_ifs at hopened
  obtain ⟨⟨target, captured⟩, htarget, rfl⟩ := Option.map_eq_some_iff.mp hopened
  have hok : openTarget (s.busidOf i) o.answers = .ok (target, captured) := by
    revert htarget
    cases openTarget (s.busidOf i) o.answers with
    | error e => exact nofun
    | ok r =>
      intro hr
      cases hr
      rfl
  obtain ⟨devices, first, hlisted, hfirst, hvendor, hproduct, -⟩ := openTarget_ok hok
  have hfound := hsame m hm desc hdesc first (by rw [hlisted]; exact hfirst)
  rw [hvendor, hproduct]
  exact hfound

theorem onward_of_moved {a : Action} (ha : ∀ i listed, a ≠ .lookup i listed)
    (hmoved : a.Moves policy c c') : c.pc.Onward c'.pc := by
  rcases hmoved with ⟨-, rfl⟩ | ⟨b, hb, hmoved⟩
  · exact .refl _
  · refine hmoved.onward fun i listed he => ?_
    subst he
    cases a with
    | lookup i listed => exact ha i listed rfl
    | request i bytes =>
      simp only [Action.daemon] at hb
      split at hb <;> cases hb
    | _ => cases hb

theorem importOk (h : serve.ReachableBy SameProduct s) (hm : s.imports[i]? = some m)
    (hc : s.client i = some c) : ImportOk s.daemon.policy m c := by
  refine conns_invariant h (fun _ _ => ⟨nofun, fun _ => ⟨rfl, rfl⟩, nofun, nofun⟩) ?_ hm hc
  intro s a s' i m c c' _ hsame hst htarget hm hc hmoved hok
  cases a with
  | lookup j listed =>
    cases htarget
    have hstep := step_of_moved rfl hmoved
    have hp := Client.requested_of_lookup hstep
    obtain ⟨hopened, hannounced⟩ := hok.before (by rw [hp]; rfl)
    refine ⟨permits_of_lookup hc hstep, fun _ => ⟨hopened, hannounced⟩, fun info hi => ?_,
      fun e he => ?_⟩
    · rw [show m.opened = some info from hi] at hopened
      cases hopened
    · rw [show m.announced = some e from he] at hannounced
      cases hannounced
  | openDevice j o =>
    cases htarget
    have hstep := step_of_moved rfl hmoved
    obtain ⟨hp, hlate⟩ : c.pc = .opening ∧ c'.pc.beforeOpen = false := by
      cases Client.step_rule hstep with
      | opened hp | openFailed hp => exact ⟨hp, rfl⟩
    obtain ⟨desc, hdesc, hpermits⟩ := hok.checked (by rw [hp]; rfl)
    refine .late hlate (fun info hi => ?_) hok.announced
    exact ⟨desc, hdesc, hpermits, opened_same hsame hm hdesc hi⟩
  | reply j ok =>
    cases ok with
    | false => exact hok.keep (onward_of_moved (by simp) hmoved) rfl rfl rfl
    | true =>
      cases htarget
      have hstep := step_of_moved rfl hmoved
      have hlate : c'.pc.beforeOpen = false := by
        cases Client.step_rule hstep with
        | replied => rfl
      refine .late hlate hok.opened fun e he => ?_
      obtain ⟨desc, hdesc, hrecord⟩ := Option.bind_eq_some_iff.mp (he : m.record = some e)
      obtain ⟨snap, -, rfl⟩ := Option.map_eq_some_iff.mp hrecord
      exact ⟨desc, hdesc, rfl, rfl⟩
  | request j bytes =>
    have honward := onward_of_moved (by simp) hmoved
    rw [importAfter]
    split_ifs
    · exact hok.keep honward rfl rfl rfl
    · exact hok.keep honward rfl rfl rfl
  | connect peer | shutdown | sweep listed => cases htarget
  | _ => exact hok.keep (onward_of_moved (by simp) hmoved) rfl rfl rfl

/-- Every device that has been opened for a connection is permitted, and it is of the
product that the connection has been told. -/
def PolicyHolds (s : State) : Prop :=
  ∀ (i : Nat) (m : Import) (info : DeviceInfo), s.imports[i]? = some m → m.opened = some info →
    s.daemon.policy.permits info.vendorId info.productId = true ∧
      ∀ e, m.announced = some e → e.idVendor = info.vendorId ∧ e.idProduct = info.productId

theorem opened_permitted_and_announced (h : serve.ReachableBy SameProduct s) : PolicyHolds s := by
  intro i m info hm hopened
  obtain ⟨c, hc⟩ : ∃ c, s.client i = some c := by
    have hlt := lt_length_of_getElem? hm
    rw [lengths h] at hlt
    exact ⟨_, List.getElem?_eq_getElem hlt⟩
  have hok := importOk h hm hc
  obtain ⟨desc, hdesc, hpermits, hvendor, hproduct⟩ := hok.opened info hopened
  refine ⟨?_, fun e he => ?_⟩
  · rw [hvendor, hproduct]
    exact hpermits
  · obtain ⟨desc', hdesc', hv, hp⟩ := hok.announced e he
    rw [hdesc] at hdesc'
    cases hdesc'
    exact ⟨hv.trans hvendor.symm, hp.trans hproduct.symm⟩

namespace Sample

def allowStick : AccessPolicy := .allowList {(0x0781, 0x5581)}

def key : DeviceInfo := ⟨"1-1", 0x1050, 0x0407, 0x01100000, 57, ⟨"1", [1], 5⟩, rfl⟩

def stickRun : List Action :=
  attach 0 Daemon.Sample.info ++ openAndReply 0 Daemon.Sample.answers

/-- The stick is pulled and the key is plugged in between the look-up and `open`. -/
def swapRun : List Action :=
  attach 0 Daemon.Sample.info ++
    openAndReply 0 { Daemon.Sample.answers with listed := some [key], polls := [some [key]] }

def outcome (s : State) : Option (Option DeviceInfo × Option (UInt16 × UInt16)) :=
  s.imports[0]?.map fun m => (m.opened, m.announced.map fun e => (e.idVendor, e.idProduct))

end Sample

theorem opened_permitted_and_announced_stick : ∃ s, serve.ReachableBy SameProduct s ∧
    Sample.outcome s = some (some Daemon.Sample.info, some (0x0781, 0x5581)) ∧ PolicyHolds s := by
  have hrun : (serve.replay SameProduct (.new Sample.allowStick true) Sample.stickRun).map
      (fun s => decide (Sample.outcome s =
        some (some Daemon.Sample.info, some (0x0781, 0x5581)))) = some true := by
    decide
  obtain ⟨s, hs, ho⟩ := System.exists_reachableBy_of_replay (init_serve _ _) hrun
  exact ⟨s, hs, of_decide_eq_true ho, opened_permitted_and_announced hs⟩

/-- The key is opened past the policy while the reply says it is the stick. -/
theorem swapped_device_opened : ∃ s, serve.Reachable s ∧ ¬ PolicyHolds s := by
  have hrun : (serve.run (.new Sample.allowStick true) Sample.swapRun).map
      (fun s => decide (Sample.outcome s = some (some Sample.key, some (0x0781, 0x5581))) &&
        !s.daemon.policy.permits 0x1050 0x0407) = some true := by
    decide
  obtain ⟨s, hs, ho⟩ := System.exists_reachable_of_run (init_serve _ _) hrun
  refine ⟨s, hs, fun hholds => ?_⟩
  simp only [Bool.and_eq_true, decide_eq_true_eq, Bool.not_eq_true'] at ho
  obtain ⟨m, hm, hout⟩ := Option.map_eq_some_iff.mp ho.1
  have hopened : m.opened = some Sample.key := congrArg Prod.fst hout
  have hpermits := (hholds 0 m _ hm hopened).1
  rw [show Sample.key.vendorId = 0x1050 from rfl, show Sample.key.productId = 0x0407 from rfl,
    ho.2] at hpermits
  cases hpermits

end Usbip.Serve
