import UsbipdDarwin.Daemon.Release

/-! Whose capture a release undoes. A `Drop` releases what its own `open` captured, as
long as the guard keeps other connections off the port; the sweep releases whatever
is plugged in under an attached busid. -/

namespace Usbip.Daemon
open Host Lts

def DeviceLife.capture : DeviceLife → Option Capture
  | .live c | .dropping c _ => some c
  | .unopened | .gone => none

variable {policy : AccessPolicy} {c c' : Client}

theorem alive_of_capture {d : DeviceLife} {capture : Capture} (h : d.capture = some capture) :
    d.alive = true := by
  cases d with
  | live | dropping => rfl
  | unopened | gone => cases h

theorem capture_settle (b : Bool) (c : Client) :
    (c.settle b).device.capture = c.device.capture := by
  unfold Client.settle
  split
  · rename_i hd
    split_ifs
    · rfl
    · rw [hd]
      rfl
  · rfl

theorem Client.step_capture {a : ClientAction} (h : c.step policy a = some c') :
    c'.device.capture = c.device.capture ∨
      ∃ answers device capture, a = .openDevice answers ∧
        openDevice c.busid answers = .ok (device, capture) ∧ c.pc = .opening ∧
        c' = { c with
          pc := .replying, session := some (.initial device), device := .live capture } := by
  cases step_rule h with
  | opened hp ho => exact .inr ⟨_, _, _, rfl, ho, hp, rfl⟩
  | unsent | session | leave => exact .inl (capture_settle _ _)
  | _ => exact .inl rfl

end Usbip.Daemon

namespace Usbip.Serve
open Proto Host Daemon Lts

variable {s s' : State} {a : Action} {i : Nat} {info : DeviceInfo} {e : Event} {log : List Event}
  {c c' : Client}

/-- Looking back from the latest event, the product of `info` was captured in its port
and has not been released there since. -/
def heldCaptured (info : DeviceInfo) : List Event → Bool
  | [] => false
  | .open _ (some info') _ :: log => decide (info'.Same info) || heldCaptured info log
  | .open _ none _ :: log => heldCaptured info log
  | .released _ info' :: log => !decide (info'.Same info) && heldCaptured info log

/-- The event is not the release of a device that is not the daemon's to release. -/
def OwnRelease (e : Event) (log : List Event) : Prop :=
  ∀ origin info, e = .released origin info → heldCaptured info log = true

def swept (busid : String) (log : List Event) : Bool :=
  log.any fun
    | .released none info => info.busid == busid
    | _ => false

def shown (busid : String) (listed : Option (List DeviceInfo)) : Option DeviceInfo :=
  listed.bind (·.find? (·.busid == busid))

theorem busid_of_shown {busid : String} {listed : Option (List DeviceInfo)}
    (h : shown busid listed = some info) : info.busid = busid := by
  obtain ⟨devices, -, hfind⟩ := Option.bind_eq_some_iff.mp h
  exact busid_of_find hfind

def Phase.next : Phase → Option String
  | .sweeping (busid :: _) => some busid
  | _ => none

/-- The opened device of connection `i` was captured as this product. -/
def State.capturedAs (s : State) (i : Nat) (info : DeviceInfo) : Prop :=
  ((s.client i).bind fun c => c.device.capture.bind Capture.capturedVidPid) =
    some (info.vendorId, info.productId)

instance (s : State) (i : Nat) (info : DeviceInfo) : Decidable (s.capturedAs i info) :=
  inferInstanceAs (Decidable (_ = _))

/-- The guard outlives the device; where the sweep comes as root, a device that is plugged in
is one that is held captured there; and so is, where the sweep has been, a device of the
captured product that a `Drop` finds. -/
def OrderlyRelease (s : State) : Action → Prop
  | .dropGuard i => GuardOutlives s.daemon (.dropGuard i)
  | .sweep listed => s.root = true → ∀ busid ∈ s.phase.next, ∀ info ∈ shown busid listed,
      heldCaptured info s.log = true
  | .dropDevice i listed => swept (s.busidOf i) s.log = true →
      ∀ info ∈ shown (s.busidOf i) listed, s.capturedAs i info → heldCaptured info s.log = true
  | _ => True

instance (s : State) : (a : Action) → Decidable (OrderlyRelease s a)
  | .dropGuard i => inferInstanceAs (Decidable (GuardOutlives s.daemon (.dropGuard i)))
  | .sweep listed => inferInstanceAs (Decidable (s.root = true → ∀ busid ∈ s.phase.next,
      ∀ info ∈ shown busid listed, heldCaptured info s.log = true))
  | .dropDevice i listed => inferInstanceAs (Decidable (swept (s.busidOf i) s.log = true →
      ∀ info ∈ shown (s.busidOf i) listed, s.capturedAs i info →
        heldCaptured info s.log = true))
  | .connect _ | .request .. | .devlist .. | .lookup .. | .tryAttach _ | .openDevice ..
  | .openPanic _ | .refuse _ | .reply .. | .session .. | .leave _ | .shutdown _ => isTrue trivial

theorem OrderlyRelease.onDaemon (s : State) (a : Action) (h : OrderlyRelease s a) :
    OnDaemon GuardOutlives s a := by
  intro b hb
  cases a with
  | dropGuard i =>
    cases hb
    exact h
  | request i bytes =>
    simp only [Action.daemon, Option.mem_def] at hb
    split at hb <;> cases hb <;> trivial
  | _ => cases hb <;> trivial

structure CaptureOk (log : List Event) (c : Client) (capture : Capture) : Prop where
  busid : capture.busid = c.busid
  marked : capture.capturedRegistryId.isSome = capture.capturedVidPid.isSome
  held : ∀ info : DeviceInfo, info.busid = c.busid →
    capture.capturedVidPid = some (info.vendorId, info.productId) →
    heldCaptured info log = true ∨ swept c.busid log = true

def CapturesOk (log : List Event) (c : Client) : Prop :=
  ∀ capture, c.device.capture = some capture → CaptureOk log c capture

theorem CapturesOk.of_none (h : c.device.capture = none) : CapturesOk log c := by
  intro capture hc
  rw [h] at hc
  cases hc

theorem CapturesOk.congr (h : CapturesOk log c) (hcapture : c'.device.capture = c.device.capture)
    (hbusid : c'.busid = c.busid) : CapturesOk log c' := by
  intro capture hc
  obtain ⟨hb, hmarked, hheld⟩ := h capture (hcapture ▸ hc)
  rw [← hbusid] at hb hheld
  exact ⟨hb, hmarked, hheld⟩

theorem heldCaptured_open {captured : Option DeviceInfo} {ok : Bool}
    (h : heldCaptured info log = true) :
    heldCaptured info (.open i captured ok :: log) = true := by
  cases captured with
  | none => exact h
  | some info' => simp [heldCaptured, h]

theorem swept_cons {busid : String} (h : swept busid log = true) :
    swept busid (e :: log) = true := by
  simp only [swept, List.any_cons, Bool.or_eq_true] at h ⊢
  exact .inr h

theorem CapturesOk.cons (h : CapturesOk log c) (he : ∀ capture, c.device.capture = some capture →
    ∀ origin info, e = .released origin info → info.busid = c.busid → origin = none) :
    CapturesOk (e :: log) c := by
  intro capture hcapture
  obtain ⟨hb, hmarked, hheld⟩ := h capture hcapture
  refine ⟨hb, hmarked, fun info hinfo hvp => ?_⟩
  rcases hheld info hinfo hvp with hheld | hswept
  · cases e with
    | «open» i captured ok => exact .inl (heldCaptured_open hheld)
    | released origin info' =>
      by_cases hsame : info'.Same info
      · have hport : info'.busid = c.busid := hsame.1.trans hinfo
        obtain rfl := he capture hcapture origin info' rfl hport
        exact .inr (by simp [swept, hport])
      · exact .inl (by simp [heldCaptured, hsame, hheld])
  · exact .inr (swept_cons hswept)

theorem CapturesOk.events (h : CapturesOk s.log c) (hdrop : ∀ j listed info,
    a = .dropDevice j listed → dropReleases s j listed = some info →
    ∀ capture, c.device.capture = some capture → info.busid ≠ c.busid) :
    CapturesOk (events s a ++ s.log) c := by
  cases a with
  | openDevice j o => exact h.cons fun _ _ _ _ he => by cases he
  | dropDevice j listed =>
    rw [Serve.events]
    cases hreleases : dropReleases s j listed with
    | none => exact h
    | some info =>
      refine h.cons fun capture hcapture origin info' he hport => ?_
      cases he
      exact absurd hport (hdrop j listed info rfl hreleases capture hcapture)
  | sweep listed =>
    rw [Serve.events]
    cases sweepReleases s listed with
    | none => exact h
    | some info =>
      refine h.cons fun capture hcapture origin info' he hport => ?_
      cases he
      rfl
  | _ => exact h

theorem CapturesOk.opened {answers : OpenAnswers} {device : OpenedDevice} {capture : Capture}
    (hopen : openDevice c.busid answers = .ok (device, capture))
    (hdevice : c'.device = .live capture) (hbusid : c'.busid = c.busid) (ok : Bool) :
    CapturesOk (.open i (reenumerated c.busid answers) ok :: log) c' := by
  obtain ⟨info, captured, htarget, rfl⟩ := openDevice_ok hopen
  obtain ⟨devices, first, -, hfirst, hvendor, hproduct, hcaptured⟩ := openTarget_ok htarget
  intro capture' hcapture'
  rw [hdevice] at hcapture'
  cases hcapture'
  refine ⟨hbusid.symm, (Option.isSome_map ..).symm, fun info' hport hvp => .inl ?_⟩
  · obtain ⟨regId, hregId, hvp⟩ := Option.map_eq_some_iff.mp hvp
    obtain ⟨hv, hp⟩ := Prod.mk.inj hvp
    have hsame : first.Same info' := ⟨(busid_of_find hfirst).trans (hport.trans hbusid).symm,
      hvendor.symm.trans hv, hproduct.symm.trans hp⟩
    rw [hcaptured (by rw [hregId]; rfl)]
    simp [heldCaptured, hsame]

theorem eq_openDevice_of_daemon {j : Nat} {answers : OpenAnswers}
    (h : a.daemon = some (.client j (.openDevice answers))) :
    ∃ o, a = .openDevice j o ∧ o.answers = answers := by
  cases a with
  | openDevice j o =>
    cases h
    exact ⟨o, rfl, rfl⟩
  | request i bytes =>
    simp only [Action.daemon] at h
    split at h <;> cases h
  | _ => cases h

theorem Action.Moves.capture {policy : AccessPolicy} (h : a.Moves policy c c') :
    c'.device.capture = none ∨
      (c'.device.capture = c.device.capture ∧ (c.pc.guarded = true → c'.busid = c.busid) ∧
        ∀ j listed, a ≠ .dropDevice j listed) ∨
      ∃ j o device capture, a = .openDevice j o ∧
        Host.openDevice c.busid o.answers = .ok (device, capture) ∧ c.pc = .opening ∧
        c' = { c with
          pc := .replying, session := some (.initial device), device := .live capture } := by
  rcases h with ⟨hnone, rfl⟩ | ⟨b, hb, hmoved⟩
  · refine .inr (.inl ⟨rfl, fun _ => rfl, ?_⟩)
    rintro j listed rfl
    cases hnone
  · cases hmoved with
    | own hs =>
      rcases Client.step_capture hs with hsame | ⟨answers, device, capture, rfl, hopen⟩
      · refine .inr (.inl ⟨hsame, (Client.step_moved hs).busid, ?_⟩)
        rintro j listed rfl
        cases hb
      · obtain ⟨o, ha, rfl⟩ := eq_openDevice_of_daemon hb
        exact .inr (.inr ⟨_, o, device, capture, ha, hopen⟩)
    | attach | dropGuard =>
      refine .inr (.inl ⟨rfl, fun _ => rfl, ?_⟩)
      rintro j listed rfl
      cases hb
    | dropDevice => exact .inl rfl

structure ReleasesOk (s : State) : Prop where
  captures : Each (fun _ c => CapturesOk s.log c) s.daemon.clients
  own : Justified OwnRelease s.log

theorem holdsGuard_of_capture (h : serve.ReachableBy OrderlyRelease s) (hc : s.client i = some c)
    {capture : Capture} (hcapture : c.device.capture = some capture) :
    HoldsGuard s.daemon i c.busid := by
  have hdaemon := daemon_reachable OrderlyRelease.onDaemon h
  exact ⟨c, hc, guarded_of_alive hdaemon i c hc (alive_of_capture hcapture), rfl⟩

theorem dropping_of_dropReleases {j : Nat} {listed : Option (List DeviceInfo)}
    (h : dropReleases s j listed = some info) : ∃ c capture byImport, s.client j = some c ∧
      c.device = .dropping capture byImport := by
  unfold dropReleases at h
  split at h
  · rename_i capture byImport hdevice
    obtain ⟨c, hc, hd⟩ := Option.map_eq_some_iff.mp hdevice
    exact ⟨c, capture, byImport, hc, hd⟩
  · cases h

theorem dropping_of_step {j : Nat} {listed : Option (List DeviceInfo)}
    (hst : Stepped s (.dropDevice j listed) s') : ∃ c capture byImport, s.client j = some c ∧
      c.device = .dropping capture byImport := by
  rcases hst.move with ⟨hnone, -⟩ | ⟨b, hb, hmove⟩
  · cases hnone
  · cases hb
    revert hmove
    generalize s'.daemon = d
    intro hmove
    cases hmove with
    | dropDevice hc hd => exact ⟨_, _, _, hc, hd⟩

theorem dropReleases_eq_some {j : Nat} {listed : Option (List DeviceInfo)} {c : Client}
    {capture : Capture} {byImport : Bool} (hc : s.client j = some c)
    (hd : c.device = .dropping capture byImport) (hok : CaptureOk s.log c capture) :
    dropReleases s j listed = some info ↔
      shown (s.busidOf j) listed = some info ∧ s.capturedAs j info := by
  have hreleases : dropReleases s j listed = capture.releaseInfo listed := by
    simp only [dropReleases, hc, Option.map_some, hd]
  have hcaptured : s.capturedAs j info ↔
      capture.capturedVidPid = some (info.vendorId, info.productId) := by
    simp only [State.capturedAs, hc, Option.bind_some, hd, DeviceLife.capture]
  rw [hreleases, hcaptured, busidOf_eq hc, ← hok.busid]
  exact Capture.releaseInfo_eq_some hok.marked

theorem ReleasesOk.captures_step (hi : ReleasesOk s) (h : serve.ReachableBy OrderlyRelease s)
    (hst : Stepped s a s') : Each (fun _ c => CapturesOk s'.log c) s'.daemon.clients := by
  intro i c' hc'
  rw [hst.log]
  by_cases hconnect : ∃ peer, a = .connect peer
  · obtain ⟨peer, rfl⟩ := hconnect
    rw [hst.connect] at hc'
    rcases getElem?_append_some hc' with hold | ⟨-, rfl⟩
    · exact hi.captures i c' hold
    · exact .of_none rfl
  obtain ⟨c, hc, hmoved⟩ := hst.client (fun peer he => hconnect ⟨peer, he⟩) hc'
  have hbefore : CapturesOk s.log c := hi.captures i c hc
  split_ifs at hmoved with htarget
  · rcases Action.Moves.capture hmoved with hnone | ⟨hsame, hbusid, hne⟩ |
      ⟨j, o, device, capture, rfl, hopen, -, rfl⟩
    · exact .of_none hnone
    · cases hcapture : c.device.capture with
      | none => exact .of_none (hsame.trans hcapture)
      | some capture =>
        obtain ⟨c₀, hc₀, hguarded, -⟩ := holdsGuard_of_capture h hc hcapture
        rw [show s.daemon.clients[i]? = some c from hc] at hc₀
        cases hc₀
        exact (hbefore.congr hsame (hbusid hguarded)).events
          fun j listed _ ha => absurd ha (hne j listed)
    · cases htarget
      rw [Serve.events, busidOf_eq hc]
      refine CapturesOk.opened hopen ?_ ?_ _ <;> rfl
  · rw [hmoved]
    refine hbefore.events fun j listed info ha hreleases capture hcapture hport => ?_
    -- Two devices alive in one port: their guards tell the connections apart.
    obtain ⟨cj, capturej, byImport, hcj, hdj⟩ := dropping_of_dropReleases hreleases
    have hcapturej : cj.device.capture = some capturej := by
      rw [hdj]
      rfl
    have hportj : info.busid = cj.busid := by
      have hok := hi.captures j cj hcj capturej hcapturej
      obtain ⟨hshown, -⟩ := (dropReleases_eq_some hcj hdj hok).mp hreleases
      exact (busid_of_shown hshown).trans (busidOf_eq hcj)
    have hguard := holdsGuard_of_capture h hc hcapture
    have hguardj := holdsGuard_of_capture h hcj hcapturej
    rw [← hport] at hguard
    rw [← hportj] at hguardj
    have hguards := guardsOk (daemon_reachable OrderlyRelease.onDaemon h)
    obtain rfl : j = i := hguards.claimed.unique j i _ hguardj hguard
    exact htarget (by rw [ha]; rfl)

theorem sweepReleases_eq_some {listed : Option (List DeviceInfo)} :
    sweepReleases s listed = some info ↔
      s.root = true ∧ ∃ busid, s.phase.next = some busid ∧ shown busid listed = some info := by
  rw [sweepReleases]
  split
  · rename_i busid busids hphase
    have hnext : s.phase.next = some busid := by
      rw [hphase]
      rfl
    simp only [releaseCapture, hnext, Option.some.injEq, exists_eq_left']
    split_ifs with hroot
    · exact (and_iff_right hroot).symm
    · exact iff_of_false (by simp) (fun h => hroot h.1)
  · rename_i hphase
    refine iff_of_false (by simp) ?_
    rintro ⟨-, busid, hnext, -⟩
    revert hnext
    unfold Phase.next
    split
    · rename_i busids hsweeping
      exact absurd hsweeping (hphase _ _)
    · simp

theorem ReleasesOk.held (hi : ReleasesOk s) (hport : info.busid = s.busidOf i)
    (hcaptured : s.capturedAs i info) :
    heldCaptured info s.log = true ∨ swept (s.busidOf i) s.log = true := by
  obtain ⟨c, hc, hdevice⟩ := Option.bind_eq_some_iff.mp hcaptured
  obtain ⟨capture, hcapture, hvp⟩ := Option.bind_eq_some_iff.mp hdevice
  rw [busidOf_eq hc] at hport ⊢
  exact (hi.captures i c hc capture hcapture).held info hport hvp

theorem ReleasesOk.drop_own (hi : ReleasesOk s) {j : Nat} {listed : Option (List DeviceInfo)}
    (hcond : OrderlyRelease s (.dropDevice j listed)) (h : dropReleases s j listed = some info) :
    heldCaptured info s.log = true := by
  obtain ⟨c, capture, byImport, hc, hd⟩ := dropping_of_dropReleases h
  have hok := hi.captures j c hc capture (by rw [hd]; rfl)
  obtain ⟨hshown, hcaptured⟩ := (dropReleases_eq_some hc hd hok).mp h
  rcases hi.held (busid_of_shown hshown) hcaptured with hheld | hswept
  · exact hheld
  · exact hcond hswept info hshown hcaptured

theorem ReleasesOk.own_step (hi : ReleasesOk s) (hcond : OrderlyRelease s a)
    (hst : Stepped s a s') : Justified OwnRelease s'.log := by
  rw [hst.log]
  cases a with
  | openDevice j o => exact hi.own.cons fun _ _ he => by cases he
  | dropDevice j listed =>
    rw [Serve.events]
    cases hreleases : dropReleases s j listed with
    | none => exact hi.own
    | some info =>
      refine hi.own.cons fun origin info' he => ?_
      cases he
      exact hi.drop_own hcond hreleases
  | sweep listed =>
    rw [Serve.events]
    cases hreleases : sweepReleases s listed with
    | none => exact hi.own
    | some info =>
      refine hi.own.cons fun origin info' he => ?_
      cases he
      obtain ⟨hroot, busid, hnext, hshown⟩ := sweepReleases_eq_some.mp hreleases
      exact hcond hroot busid hnext info hshown
  | _ => exact hi.own

theorem releasesOk (h : serve.ReachableBy OrderlyRelease s) : ReleasesOk s := by
  refine h.invariant ?_ ?_
  · rintro s ⟨policy, root, rfl⟩
    exact ⟨.nil, trivial⟩
  · intro s a s' hr hi hcond hs
    have hst := stepped hs
    exact ⟨hi.captures_step hr hst, hi.own_step hcond hst⟩

theorem ReleasesOk.orderly_of_own (hi : ReleasesOk s) (hst : Stepped s a s')
    (hown : Justified OwnRelease s'.log) (ha : ∀ i, a ≠ .dropGuard i) : OrderlyRelease s a := by
  rw [hst.log] at hown
  cases a with
  | dropGuard i => exact absurd rfl (ha i)
  | sweep listed =>
    intro hroot busid hnext info hshown
    have hreleases := sweepReleases_eq_some.mpr ⟨hroot, busid, hnext, hshown⟩
    rw [Serve.events, hreleases] at hown
    exact hown.1 none info rfl
  | dropDevice j listed =>
    intro _ info hshown hcaptured
    obtain ⟨c, capture, byImport, hc, hd⟩ := dropping_of_step hst
    have hok := hi.captures j c hc capture (by rw [hd]; rfl)
    have hreleases := (dropReleases_eq_some hc hd hok).mpr ⟨hshown, hcaptured⟩
    rw [Serve.events, hreleases] at hown
    exact hown.1 (some j) info rfl
  | _ => trivial

namespace Sample

def printer : DeviceInfo := ⟨"1-2", 0x03F0, 0x0C17, 0x01200000, 61, ⟨"1", [2], 6⟩, rfl⟩

def printerAnswers : OpenAnswers :=
  { Daemon.Sample.answers with listed := some [printer], polls := [some [printer]] }

def orderlyRun : List Action :=
  fullRun ++ attach 1 printer ++ openAndReply 1 printerAnswers ++
    [.shutdown ["1-2"], .sweep (some [Daemon.Sample.info, printer])]

def plainClaimRun : List Action :=
  attach 0 Daemon.Sample.info ++
    openAndReply 0 { Daemon.Sample.answers with captures := false } ++
    [.shutdown ["1-1"], .sweep (some [Daemon.Sample.info])]

end Sample

end Usbip.Serve
