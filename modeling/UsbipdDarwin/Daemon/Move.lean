import UsbipdDarwin.Daemon.Step

/-! What each step of the daemon can do: the rules, what a connection's own steps
mean for the registry, and what becomes of the guards. -/

namespace Usbip.Daemon
open Host Lts

variable {s s' : State} {i : Nat} {c c' : Client}

inductive Move (s : State) : Action → State → Prop
  | connect (peer : String) :
      Move s (.connect peer) { s with clients := s.clients ++ [{ peer := peer }] }
  | client {i : Nat} {c c' : Client} {a : ClientAction} (hc : s.clients[i]? = some c)
      (hs : c.step s.policy a = some c') : Move s (.client i a) (s.setClient i c')
  | busy {i : Nat} {c : Client} (hc : s.clients[i]? = some c) (hp : c.pc = .permitted)
      (hb : c.busid ∈ s.attached) :
      Move s (.tryAttach i) (s.setClient i { c with pc := .refused })
  | grant {i : Nat} {c : Client} (hc : s.clients[i]? = some c) (hp : c.pc = .permitted)
      (hb : c.busid ∉ s.attached) :
      Move s (.tryAttach i) { s.setClient i { c with pc := .opening } with
        attached := s.attached.insert c.busid c.peer
        log := .granted i c.busid :: s.log }
  | dropGuard {i : Nat} {c : Client} (hc : s.clients[i]? = some c) (hp : c.pc = .unwinding) :
      Move s (.dropGuard i) { s.setClient i { c with pc := .ended } with
        attached := s.attached.erase c.busid
        log := .detached i c.busid :: s.log }
  | dropDevice {i : Nat} {c : Client} {capture : Capture} {byImport : Bool}
      {listed : Option (List DeviceInfo)} (hc : s.clients[i]? = some c)
      (hd : c.device = .dropping capture byImport) :
      Move s (.dropDevice i listed) { s.setClient i { c with device := .gone } with
        log := ((capture.releaseTarget listed).map (Event.released i c.busid)).toList ++ s.log }

theorem step_move {a : Action} (h : step s a = some s') : Move s a s' := by
  cases a with
  | connect peer =>
    cases h
    exact .connect peer
  | client i a =>
    obtain ⟨c, hc, h⟩ := Option.bind_eq_some_iff.mp h
    obtain ⟨c', hs, rfl⟩ := Option.map_eq_some_iff.mp h
    exact .client hc hs
  | tryAttach i =>
    obtain ⟨c, hc, h⟩ := Option.bind_eq_some_iff.mp h
    unfold State.tryAttach at h
    split at h
    · split_ifs at h with hb <;> cases h
      · exact .busy hc ‹_› hb
      · exact .grant hc ‹_› hb
    · cases h
  | dropGuard i =>
    obtain ⟨c, hc, h⟩ := Option.bind_eq_some_iff.mp h
    unfold State.dropGuard at h
    split at h <;> cases h
    exact .dropGuard hc ‹_›
  | dropDevice i listed =>
    obtain ⟨c, hc, h⟩ := Option.bind_eq_some_iff.mp h
    unfold State.dropDevice at h
    split at h <;> cases h
    exact .dropDevice hc ‹_›

inductive Client.Rule (policy : AccessPolicy) (c : Client) : ClientAction → Client → Prop
  | close (hp : c.pc = .connected) : Rule policy c .close { c with pc := .ended }
  | request (hp : c.pc = .connected) (busid : String) :
      Rule policy c (.request busid) { c with pc := .requested, busid := busid }
  | unlisted (hp : c.pc = .requested) : Rule policy c (.lookup none) { c with pc := .ended }
  | lookup (hp : c.pc = .requested) (devices : List DeviceInfo) :
      Rule policy c (.lookup (some devices)) { c with pc := decision policy c.busid devices }
  | opened (hp : c.pc = .opening) {answers : OpenAnswers} {device : OpenedDevice}
      {capture : Capture} (ho : openDevice c.busid answers = .ok (device, capture)) :
      Rule policy c (.openDevice answers) { c with
        pc := .replying, session := some (.initial device), device := .live capture }
  | openFailed (hp : c.pc = .opening) (answers : OpenAnswers) :
      Rule policy c (.openDevice answers) { c with pc := .openFailed }
  | openPanic (hp : c.pc = .opening) : Rule policy c .openPanic { c with pc := .unwinding }
  | refused (hp : c.pc = .refused) : Rule policy c .refuse { c with pc := .ended }
  | failed (hp : c.pc = .openFailed) : Rule policy c .refuse { c with pc := .unwinding }
  | replied (hp : c.pc = .replying) : Rule policy c (.reply true) { c with pc := .serving }
  | unsent (hp : c.pc = .replying) :
      Rule policy c (.reply false) ({ c with pc := .unwinding }.settle true)
  | session {a : Session.Action} {st st' : Session.State} (hst : c.session = some st)
      (hs : Session.step st a = some st') :
      Rule policy c (.session a) ({ c with session := some st' }.settle false)
  | leave (hp : c.pc = .serving) : Rule policy c .leave ({ c with pc := .unwinding }.settle true)

theorem Client.step_rule {policy : AccessPolicy} {a : ClientAction}
    (h : c.step policy a = some c') : c.Rule policy a c' := by
  cases a with
  | close =>
    simp only [Client.step] at h
    split at h <;> cases h
    exact .close ‹_›
  | request busid =>
    simp only [Client.step] at h
    split at h <;> cases h
    exact .request ‹_› busid
  | lookup listed =>
    simp only [Client.step] at h
    split at h <;> cases h
    · exact .unlisted ‹_›
    · exact .lookup ‹_› _
  | openDevice answers =>
    simp only [Client.step] at h
    split at h <;> cases h
    · exact .opened ‹_› ‹_›
    · exact .openFailed ‹_› answers
  | openPanic =>
    simp only [Client.step] at h
    split at h <;> cases h
    exact .openPanic ‹_›
  | refuse =>
    simp only [Client.step] at h
    split at h <;> cases h
    · exact .refused ‹_›
    · exact .failed ‹_›
  | reply ok =>
    simp only [Client.step] at h
    split at h
    · cases ok <;> cases h
      · exact .unsent ‹_›
      · exact .replied ‹_›
    · cases h
  | session a =>
    simp only [Client.step] at h
    split_ifs at h
    obtain ⟨st', hstep, rfl⟩ := Option.map_eq_some_iff.mp h
    obtain ⟨st, hst, hs⟩ := Option.bind_eq_some_iff.mp hstep
    exact .session hst hs
  | leave =>
    simp only [Client.step] at h
    split at h
    · split_ifs at h
      cases h
      exact .leave ‹_›
    · cases h

def Action.target : Action → Option Nat
  | .connect _ => none
  | .client i _ | .tryAttach i | .dropGuard i | .dropDevice i _ => some i

inductive Client.MovedBy (policy : AccessPolicy) (c : Client) : Action → Client → Prop
  | own {i : Nat} {a : ClientAction} {c' : Client} (hs : c.step policy a = some c') :
      MovedBy policy c (.client i a) c'
  | attach {i : Nat} {pc : ImportPc} (hp : c.pc = .permitted)
      (hpc : pc = .refused ∨ pc = .opening) : MovedBy policy c (.tryAttach i) { c with pc := pc }
  | dropGuard {i : Nat} (hp : c.pc = .unwinding) :
      MovedBy policy c (.dropGuard i) { c with pc := .ended }
  | dropDevice {i : Nat} {listed : Option (List DeviceInfo)} {capture : Capture} {byImport : Bool}
      (hd : c.device = .dropping capture byImport) :
      MovedBy policy c (.dropDevice i listed) { c with device := .gone }

theorem Move.client_some {a : Action} (hm : Move s a s') (hc' : s'.clients[i]? = some c') :
    (∃ c, s.clients[i]? = some c ∧
      if a.target = some i then c.MovedBy s.policy a c' else c' = c) ∨
    ∃ peer, a = .connect peer ∧ i = s.clients.length ∧ c' = { peer := peer } := by
  have hset : ∀ {j c₀ c₁}, s.clients[j]? = some c₀ → s'.clients = s.clients.set j c₁ →
      c₀.MovedBy s.policy a c₁ → a.target = some j → ∃ c, s.clients[i]? = some c ∧
        if a.target = some i then c.MovedBy s.policy a c' else c' = c := by
    intro j c₀ c₁ hc₀ hs hmoved htarget
    rw [hs] at hc'
    rcases getElem?_set_some hc' with ⟨rfl, rfl⟩ | ⟨hne, hold⟩
    · exact ⟨c₀, hc₀, by rwa [if_pos htarget]⟩
    · refine ⟨c', hold, ?_⟩
      rw [if_neg]
      rw [htarget]
      exact fun h => hne (Option.some.inj h).symm
  cases hm with
  | connect peer =>
    rcases getElem?_append_some hc' with hold | ⟨hi, hnew⟩
    · exact .inl ⟨c', hold, rfl⟩
    · exact .inr ⟨peer, rfl, hi, hnew⟩
  | client hc hs => exact .inl (hset hc rfl (.own hs) rfl)
  | busy hc hp => exact .inl (hset hc rfl (.attach hp (.inl rfl)) rfl)
  | grant hc hp => exact .inl (hset hc rfl (.attach hp (.inr rfl)) rfl)
  | dropGuard hc hp => exact .inl (hset hc rfl (.dropGuard hp) rfl)
  | dropDevice hc hd => exact .inl (hset hc rfl (.dropDevice hd) rfl)

theorem Move.length_clients {a : Action} (hm : Move s a s') (ha : ∀ peer, a ≠ .connect peer) :
    s'.clients.length = s.clients.length := by
  cases hm with
  | connect peer => exact absurd rfl (ha peer)
  | _ => exact List.length_set

/-- A device without a clone of its `Arc` left is being dropped already. -/
def Client.Settled (c : Client) : Prop :=
  ∀ capture, c.device = .live capture → c.pc.ownsDevice = true ∨ c.urbsOwnDevice = true

theorem settle_frame (b : Bool) (c : Client) : (c.settle b).pc = c.pc ∧
    (c.settle b).busid = c.busid ∧ (c.settle b).session = c.session ∧
    (c.settle b).device.alive = c.device.alive := by
  unfold Client.settle
  split
  · rename_i hd
    split_ifs
    · exact ⟨rfl, rfl, rfl, rfl⟩
    · exact ⟨rfl, rfl, rfl, by rw [hd]; rfl⟩
  · exact ⟨rfl, rfl, rfl, rfl⟩

theorem settled_settle (b : Bool) (c : Client) : (c.settle b).Settled := by
  intro capture hd
  obtain ⟨hpc, _, hsession, _⟩ := settle_frame b c
  rw [hpc, Client.urbsOwnDevice, hsession]
  change c.pc.ownsDevice = true ∨ c.urbsOwnDevice = true
  unfold Client.settle at hd
  split at hd
  · split_ifs at hd with ho
    simpa using ho
  · exact absurd hd (‹∀ capture, c.device = .live capture → False› capture)

structure Client.Moved (c c' : Client) : Prop where
  guarded : c'.pc.guarded = c.pc.guarded
  busid : c.pc.guarded = true → c'.busid = c.busid
  alive : c'.device.alive = true → c.device.alive = true ∨ c.pc.guarded = true
  settled : c.Settled → c'.Settled

theorem guarded_decision (policy : AccessPolicy) (busid : String) (devices : List DeviceInfo) :
    (Client.decision policy busid devices).guarded = false := by
  unfold Client.decision
  split
  · rfl
  · split_ifs <;> rfl

theorem Client.decision_eq (policy : AccessPolicy) (busid : String) (devices : List DeviceInfo) :
    Client.decision policy busid devices = .refused ∨
      Client.decision policy busid devices = .permitted := by
  unfold Client.decision
  split
  · exact .inl rfl
  · split_ifs
    · exact .inr rfl
    · exact .inl rfl

theorem Client.Settled.with_pc (h : c.Settled) (ho : c.pc.ownsDevice = false) (pc : ImportPc) :
    ({ c with pc := pc } : Client).Settled := by
  intro capture hd
  rcases h capture hd with hown | hown
  · rw [ho] at hown
    cases hown
  · exact .inr hown

theorem Client.Moved.of_pc {pc : ImportPc} (hg : pc.guarded = c.pc.guarded)
    (ho : c.pc.ownsDevice = false) : c.Moved { c with pc := pc } :=
  ⟨hg, fun _ => rfl, .inl, fun h => h.with_pc ho pc⟩

theorem Client.Moved.of_settle {b : Bool} {c₁ : Client} (hg : c₁.pc.guarded = c.pc.guarded)
    (hb : c₁.busid = c.busid) (hd : c₁.device = c.device) : c.Moved (c₁.settle b) := by
  obtain ⟨hpc, hbusid, _, halive⟩ := settle_frame b c₁
  refine ⟨?_, fun _ => hbusid.trans hb, fun h => .inl ?_, fun _ => settled_settle b c₁⟩
  · rw [hpc, hg]
  · rwa [halive, hd] at h

theorem Client.step_moved {policy : AccessPolicy} {a : ClientAction}
    (h : c.step policy a = some c') : c.Moved c' := by
  cases step_rule h with
  | close hp | unlisted hp | openFailed hp | openPanic hp | refused hp | failed hp =>
    exact .of_pc (by rw [hp]; rfl) (by rw [hp]; rfl)
  | request hp busid =>
    refine ⟨by rw [hp]; rfl, fun hg => ?_, .inl, fun h => h.with_pc (by rw [hp]; rfl) _⟩
    rw [hp] at hg
    cases hg
  | lookup hp devices => exact .of_pc (by rw [hp, guarded_decision]; rfl) (by rw [hp]; rfl)
  | opened hp ho =>
    exact ⟨by rw [hp]; rfl, fun _ => rfl, fun _ => .inr (by rw [hp]; rfl), fun _ _ _ => .inl rfl⟩
  | replied hp => exact ⟨by rw [hp]; rfl, fun _ => rfl, .inl, fun _ _ _ => .inl rfl⟩
  | unsent hp | leave hp => exact .of_settle (by rw [hp]; rfl) rfl rfl
  | session hst hs => exact .of_settle rfl rfl rfl

theorem init_of_openDevice {busid : String} {answers : OpenAnswers} {device : OpenedDevice}
    {capture : Capture} (h : openDevice busid answers = .ok (device, capture)) :
    Session.session.init (.initial device) := by
  unfold openDevice at h
  split at h
  · cases h
  · split at h
    · cases h
    · split at h
      · cases h
      · split at h <;> cases h
        exact ⟨_, _, rfl⟩

theorem Client.step_session {policy : AccessPolicy} {a : ClientAction}
    (h : c.step policy a = some c') {st' : Session.State} (hst' : c'.session = some st') :
    c.session = some st' ∨ Session.session.init st' ∨
      ∃ st b, c.session = some st ∧ Session.step st b = some st' := by
  cases step_rule h with
  | opened hp ho =>
    cases hst'
    exact .inr (.inl (init_of_openDevice ho))
  | @session a st₀ st hst hs =>
    rw [(settle_frame _ _).2.2.1] at hst'
    cases hst'
    exact .inr (.inr ⟨st₀, a, hst, hs⟩)
  | unsent | leave =>
    rw [(settle_frame _ _).2.2.1] at hst'
    exact .inl hst'
  | _ => exact .inl hst'

theorem session_reachable {C : State → Action → Prop} (h : daemon.ReachableBy C s) :
    Each (fun _ c => ∀ st, c.session = some st → Session.session.Reachable st) s.clients := by
  refine h.invariant (I := fun s =>
    Each (fun _ c => ∀ st, c.session = some st → Session.session.Reachable st) s.clients) ?_ ?_
  · rintro s ⟨policy, rfl⟩
    exact .nil
  · intro s a s' _ hi _ hs
    cases step_move hs with
    | connect peer =>
      refine hi.append ?_
      rintro st ⟨⟩
    | client hc hstep =>
      refine hi.set (fun st' hst' => ?_) fun _ _ _ _ => id
      rcases Client.step_session hstep hst' with hsame | hinit | ⟨st, b, hst, hb⟩
      · exact hi _ _ hc st' hsame
      · exact .start hinit
      · exact .step (hi _ _ hc st hst) trivial hb
    | busy hc | grant hc | dropGuard hc | dropDevice hc =>
      have hst := hi _ _ hc
      exact hi.set hst fun _ _ _ _ => id

def HoldsGuard (s : State) (i : Nat) (b : String) : Prop :=
  ∃ c, s.clients[i]? = some c ∧ c.pc.guarded = true ∧ c.busid = b

theorem holdsGuard_set (hc : s.clients[i]? = some c) (hs : s'.clients = s.clients.set i c')
    {j : Nat} {b : String} : HoldsGuard s' j b ↔
      if j = i then c'.pc.guarded = true ∧ c'.busid = b else HoldsGuard s j b := by
  unfold HoldsGuard
  rw [hs]
  split_ifs with hj
  · subst hj
    rw [List.getElem?_set_self (lt_length_of_getElem? hc)]
    simp
  · rw [List.getElem?_set_ne (Ne.symm hj)]

theorem holdsGuard_of_get (hc : s.clients[i]? = some c) {b : String} :
    HoldsGuard s i b ↔ c.pc.guarded = true ∧ c.busid = b := by
  unfold HoldsGuard
  rw [hc]
  simp

theorem HoldsGuard.busid_unique {b b' : String} (h : HoldsGuard s i b) (h' : HoldsGuard s i b') :
    b = b' := by
  obtain ⟨c, hc, _, hb⟩ := h
  exact hb.symm.trans ((holdsGuard_of_get hc).mp h').2

inductive GuardEffect (s s' : State) : Prop
  | keep (hh : ∀ i b, HoldsGuard s' i b ↔ HoldsGuard s i b) (ha : s'.attached = s.attached)
      (hl : ∀ i b, (.granted i b ∈ s'.log ↔ .granted i b ∈ s.log) ∧
        (.detached i b ∈ s'.log ↔ .detached i b ∈ s.log))
  | grant (i : Nat) (b peer : String) (hb : b ∉ s.attached)
      (hh : ∀ j b', HoldsGuard s' j b' ↔ HoldsGuard s j b' ∨ (j = i ∧ b' = b))
      (ha : s'.attached = s.attached.insert b peer) (hl : s'.log = .granted i b :: s.log)
  | detach (i : Nat) (b : String) (hi : HoldsGuard s i b)
      (hh : ∀ j b', HoldsGuard s' j b' ↔ HoldsGuard s j b' ∧ j ≠ i)
      (ha : s'.attached = s.attached.erase b) (hl : s'.log = .detached i b :: s.log)

theorem GuardEffect.of_set (hc : s.clients[i]? = some c) (hs : s'.clients = s.clients.set i c')
    (hg : c'.pc.guarded = c.pc.guarded) (hb : c.pc.guarded = true → c'.busid = c.busid)
    (ha : s'.attached = s.attached) (hl : ∀ i b, (.granted i b ∈ s'.log ↔ .granted i b ∈ s.log) ∧
      (.detached i b ∈ s'.log ↔ .detached i b ∈ s.log)) : GuardEffect s s' := by
  refine .keep (fun j b => ?_) ha hl
  rw [holdsGuard_set hc hs]
  split_ifs with hj
  · subst hj
    rw [holdsGuard_of_get hc, hg]
    exact and_congr_right fun h => by rw [hb h]
  · rfl

theorem Move.guards {a : Action} (hm : Move s a s') : GuardEffect s s' := by
  cases hm with
  | connect peer =>
    refine .keep (fun j b => ?_) rfl fun _ _ => ⟨.rfl, .rfl⟩
    constructor
    · rintro ⟨c, hc, hg, hb⟩
      rcases getElem?_append_some hc with hc | ⟨_, rfl⟩
      · exact ⟨c, hc, hg, hb⟩
      · cases hg
    · rintro ⟨c, hc, hg, hb⟩
      exact ⟨c, by rw [List.getElem?_append_left (lt_length_of_getElem? hc), hc], hg, hb⟩
  | client hc hs =>
    have hmoved := Client.step_moved hs
    exact .of_set hc rfl hmoved.guarded hmoved.busid rfl fun _ _ => ⟨.rfl, .rfl⟩
  | busy hc hp =>
    exact .of_set hc rfl (by rw [hp]; rfl) (fun _ => rfl) rfl fun _ _ => ⟨.rfl, .rfl⟩
  | @grant i c hc hp hb =>
    refine .grant i c.busid c.peer hb (fun j b => ?_) rfl rfl
    rw [holdsGuard_set hc rfl]
    split_ifs with hj
    · subst hj
      simp [holdsGuard_of_get hc, hp, ImportPc.guarded, eq_comm]
    · simp [hj]
  | @dropGuard i c hc hp =>
    refine .detach i c.busid ((holdsGuard_of_get hc).mpr ⟨by rw [hp]; rfl, rfl⟩)
      (fun j b => ?_) rfl rfl
    rw [holdsGuard_set hc rfl]
    split_ifs with hj
    · simp [hj, ImportPc.guarded]
    · simp [hj]
  | @dropDevice i c capture _ listed hc =>
    refine .of_set hc rfl rfl (fun _ => rfl) rfl fun j b => ?_
    cases capture.releaseTarget listed <;> simp

end Usbip.Daemon
