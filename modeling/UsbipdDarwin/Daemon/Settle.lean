import UsbipdDarwin.Daemon.Registry
import UsbipdDarwin.Session.Settle

/-! The daemon comes to rest. When no client sends anything more, each import runs to its
refusal, to its end or to a session that waits for its client; every device of an ended
connection is dropped, and the registry has the devices of the waiting sessions alone. -/

namespace Usbip.Daemon
open Host Lts

variable {s s' : State} {i : Nat} {c c' : Client} {policy : AccessPolicy}

def Client.prompt (c : Client) : ClientAction → Bool
  | .close | .request _ => false
  | .session a => c.session.any (·.prompt a)
  | _ => true

def ClientAction.fails : ClientAction → Bool
  | .openPanic | .reply false => true
  | .session a => a.fails
  | _ => false

def State.prompt (s : State) : Action → Bool
  | .connect _ => false
  | .client i a => s.clients[i]?.any (·.prompt a)
  | _ => true

def Action.silent : Action → Bool
  | .connect _ | .client _ .close | .client _ (.request _) => false
  | .client _ (.session a) => a.silent
  | _ => true

def Action.works : Action → Bool
  | .client _ (.session a) => a.works
  | _ => true

def Action.fails : Action → Bool
  | .client _ a => a.fails
  | _ => false

/-- The connection has yet to send its request, is over and has left nothing behind, or has
a session at rest that waits for its client. -/
inductive Client.Idle (c : Client) : Prop
  | connected (hp : c.pc = .connected)
  | ended (hp : c.pc = .ended) (hd : c.device.alive = false)
      (hst : ∀ st, c.session = some st → Session.AtRest st)
  | serving (st : Session.State) (hp : c.pc = .serving) (hst : c.session = some st)
      (hl : st.loop = .reading) (hrest : Session.AtRest st)

structure AtRest (s : State) : Prop where
  clients : ∀ (i : Nat) (c : Client), s.clients[i]? = some c → c.Idle
  attached : ∀ b, b ∈ s.attached ↔
    ∃ (i : Nat) (c : Client), s.clients[i]? = some c ∧ c.pc = .serving ∧ c.busid = b

section Served

def ImportPc.unopened : ImportPc → Bool
  | .connected | .requested | .permitted | .opening => true
  | _ => false

/-- A connection has a session from the open on, and only `urb_loop` moves its loop. -/
structure Client.Served (c : Client) : Prop where
  fresh : c.pc.unopened = true → c.session = none ∧ c.device = .unopened
  session : c.pc.ownsDevice = true → ∃ st, c.session = some st
  idle : c.pc ≠ .serving → ∀ st, c.session = some st → st.loop.idle = true

theorem Client.Served.with_pc (h : c.Served) (hp : c.pc ≠ .serving) {pc : ImportPc}
    (ho : pc.ownsDevice = false) (hf : pc.unopened = true → c.pc.unopened = true) :
    ({ c with pc := pc } : Client).Served :=
  ⟨fun h' => h.fresh (hf h'), fun h' => absurd h' (by simp [ho]), fun _ => h.idle hp⟩

theorem Client.Served.settle (h : c.Served) (b : Bool) : (c.settle b).Served := by
  obtain ⟨hpc, -, hsession, -⟩ := settle_frame b c
  refine ⟨fun hf => ?_, fun ho => ?_, fun hp => ?_⟩
  · have hfresh := h.fresh (hpc ▸ hf)
    refine ⟨hsession.trans hfresh.1, ?_⟩
    rw [Client.settle, hfresh.2]
    exact hfresh.2
  · rw [hsession]
    exact h.session (hpc ▸ ho)
  · rw [hsession]
    exact h.idle (hpc ▸ hp)

theorem ownsDevice_decision (busid : String) (devices : List DeviceInfo) :
    (Client.decision policy busid devices).ownsDevice = false := by
  rcases Client.decision_eq policy busid devices with h | h <;> rw [h] <;> rfl

theorem Client.Served.session_step {a : Session.Action} (h : c.Served)
    (hs : c.step policy (.session a) = some c') : c'.Served := by
  simp only [Client.step] at hs
  split_ifs at hs with hloop
  obtain ⟨st', hst', rfl⟩ := Option.map_eq_some_iff.mp hs
  obtain ⟨st, hst, hstep⟩ := Option.bind_eq_some_iff.mp hst'
  refine Client.Served.settle ⟨fun hf => ?_, fun _ => ⟨st', rfl⟩, fun hp st'' hst'' => ?_⟩ false
  · rw [(h.fresh hf).1] at hst
    cases hst
  · cases hst''
    have hold := h.idle hp st hst
    cases Session.step_move hstep with
    | task hu hm => rwa [hm.loop_eq]
    | closure hu hm => rwa [hm.loop_eq]
    | loop hm =>
      simp only [Session.Action.isLoop, Bool.true_and, bne_iff_ne, ne_eq, not_not] at hloop
      exact absurd hloop hp

theorem Client.served_leave (hs : c.step policy .leave = some c') : c'.Served := by
  simp only [Client.step] at hs
  split at hs
  · rename_i st hp hst
    split_ifs at hs with hret
    cases hs
    refine Client.Served.settle ⟨fun hf => (by cases hf), fun ho => (by cases ho), ?_⟩ true
    intro _ st' hst'
    obtain rfl : st = st' := Option.some.inj (hst.symm.trans hst')
    cases hl : st.loop <;> simp_all [Session.LoopPc.returned, Session.LoopPc.idle]
  · cases hs

theorem Client.Served.step {a : ClientAction} (h : c.Served) (hs : c.step policy a = some c') :
    c'.Served := by
  cases Client.step_rule hs with
  | session => exact h.session_step hs
  | leave => exact Client.served_leave hs
  | close hp | unlisted hp | openFailed hp | openPanic hp | refused hp | failed hp =>
    exact h.with_pc (by simp [hp]) rfl (by simp [ImportPc.unopened])
  | request hp =>
    refine ⟨fun _ => h.fresh (by rw [hp]; rfl), fun ho => (by cases ho), fun _ => ?_⟩
    exact h.idle (by simp [hp])
  | lookup hp =>
    exact h.with_pc (by simp [hp]) (ownsDevice_decision _ _) fun _ => by rw [hp]; rfl
  | opened hp ho =>
    refine ⟨fun hf => (by cases hf), fun _ => ⟨_, rfl⟩, fun _ st hst => ?_⟩
    cases hst
    rfl
  | replied hp =>
    refine ⟨fun hf => (by cases hf), fun _ => h.session (by rw [hp]; rfl), fun hp' => ?_⟩
    exact absurd rfl hp'
  | unsent hp =>
    exact (h.with_pc (by simp [hp]) rfl (by simp [ImportPc.unopened])).settle true

theorem served {C : State → Action → Prop} (h : daemon.ReachableBy C s) :
    Each (fun _ c => c.Served) s.clients := by
  refine h.invariant (I := fun s => Each (fun _ c => c.Served) s.clients) ?_ ?_
  · rintro s ⟨policy, rfl⟩
    exact .nil
  · intro s a s' _ hi _ hs
    have hset : ∀ {i : Nat} {c' : Client}, c'.Served →
        Each (fun _ c => c.Served) (s.clients.set i c') := fun hc' => hi.set hc' fun _ _ _ _ => id
    cases step_move hs with
    | connect peer =>
      refine hi.append ⟨fun _ => ⟨rfl, rfl⟩, fun ho => (by cases ho), fun _ st hst => ?_⟩
      cases hst
    | client hc hstep => exact hset ((hi _ _ hc).step hstep)
    | busy hc hp | dropGuard hc hp =>
      exact hset ((hi _ _ hc).with_pc (by simp [hp]) rfl (by simp [ImportPc.unopened]))
    | grant hc hp => exact hset ((hi _ _ hc).with_pc (by simp [hp]) rfl fun _ => by rw [hp]; rfl)
    | dropDevice hc hd =>
      refine hset ⟨fun hf => ?_, (hi _ _ hc).session, (hi _ _ hc).idle⟩
      rw [((hi _ _ hc).fresh hf).2] at hd
      cases hd

end Served

section Left

def ImportPc.left : ImportPc → Nat
  | .requested => 8
  | .permitted => 7
  | .opening => 6
  | .replying => 3
  | .serving | .openFailed => 2
  | .unwinding | .refused => 1
  | .connected | .ended => 0

def DeviceLife.left : DeviceLife → Nat
  | .live _ => 2
  | .dropping .. => 1
  | .unopened | .gone => 0

/-- How many steps a connection is from rest, at most, by the `work` left to its session. -/
def Client.left (work : Session.State → Nat) (c : Client) : Nat :=
  c.pc.left + c.device.left + (c.session.map work).getD 0

def State.left (work : Session.State → Nat) (s : State) : Nat :=
  (s.clients.map (Client.left work)).sum

variable {work : Session.State → Nat}

theorem left_settle (b : Bool) (c : Client) : (c.settle b).left work ≤ c.left work := by
  unfold Client.settle
  split
  · rename_i hd
    split_ifs
    · exact le_rfl
    · simp only [Client.left, hd, DeviceLife.left]
      omega
  · exact le_rfl

theorem left_decision (policy : AccessPolicy) (busid : String) (devices : List DeviceInfo) :
    (Client.decision policy busid devices).left ≤ 7 := by
  rcases Client.decision_eq policy busid devices with h | h <;> rw [h] <;> decide

theorem left_of_pc {pc : ImportPc} (h : c.pc = pc) :
    c.left work = pc.left + c.device.left + (c.session.map work).getD 0 := by
  subst h
  rfl

theorem Client.left_step {a : ClientAction} (hs : c.step policy a = some c')
    (hclose : a ≠ .close) (hrequest : ∀ busid, a ≠ .request busid)
    (hinitial : ∀ d, work (.initial d) = 0)
    (hsession : ∀ b st st', a = .session b → c.session = some st →
      Session.session.step st b = some st' → work st' < work st)
    (hserved : c.Served) : c'.left work < c.left work := by
  cases Client.step_rule hs with
  | close => exact absurd rfl hclose
  | request => exact absurd rfl (hrequest _)
  | lookup hp devices =>
    have hle := left_decision policy c.busid devices
    rw [left_of_pc hp]
    refine Nat.add_lt_add_right (Nat.add_lt_add_right ?_ _) _
    exact Nat.lt_succ_of_le hle
  | opened hp ho =>
    obtain ⟨hnone, hunopened⟩ := hserved.fresh (by rw [hp]; rfl)
    rw [left_of_pc hp, hnone, hunopened]
    simp [Client.left, hinitial, ImportPc.left, DeviceLife.left]
  | unsent hp | leave hp =>
    refine (left_settle _ _).trans_lt ?_
    rw [left_of_pc hp]
    simp only [Client.left, ImportPc.left]
    omega
  | @session a st st' hsome hstep =>
    refine (left_settle _ _).trans_lt ?_
    have hlt := hsession a st st' rfl hsome hstep
    simp only [Client.left, hsome, Option.map_some, Option.getD_some]
    omega
  | _ hp =>
    rw [left_of_pc hp]
    simp only [Client.left, ImportPc.left]
    omega

theorem left_of_set (hc : s.clients[i]? = some c) (hs : s'.clients = s.clients.set i c')
    (hlt : c'.left work < c.left work) : s'.left work < s.left work := by
  have hsum := sum_map_set_add (Client.left work) hc c'
  unfold State.left
  rw [hs]
  omega

theorem left_step {a : Action} (h : daemon.Reachable s) (ha : a.silent = true)
    (hinitial : ∀ d, work (.initial d) = 0)
    (hsession : ∀ i b c st st', a = .client i (.session b) → s.clients[i]? = some c →
      c.session = some st → Session.session.step st b = some st' → work st' < work st)
    (hs : daemon.step s a = some s') : s'.left work < s.left work := by
  cases step_move hs with
  | connect => cases ha
  | @client i c c' b hc hstep =>
    refine left_of_set hc rfl (Client.left_step hstep ?_ ?_ hinitial ?_ (served h _ _ hc))
    · rintro rfl
      cases ha
    · rintro busid rfl
      cases ha
    · rintro b st st' rfl hst
      exact hsession i b c st st' rfl hc hst
  | busy hc hp | grant hc hp | dropGuard hc hp =>
    refine left_of_set hc rfl ?_
    rw [left_of_pc hp]
    simp only [Client.left, ImportPc.left]
    omega
  | dropDevice hc hd =>
    refine left_of_set hc rfl ?_
    simp only [Client.left, hd, DeviceLife.left]
    omega

theorem left_of_idling {a : Action} (hw : a.works = false) (hs : daemon.step s a = some s') :
    s'.left Session.State.left ≤ s.left Session.State.left := by
  cases step_move hs with
  | @client i c c' b hc hclient =>
    cases b with
    | session b =>
      cases Client.step_rule hclient with
      | @session _ st st' hsome hstep =>
        have hsame := Session.left_of_idling hw hstep
        have hle : (Client.settle false { c with session := some st' }).left Session.State.left ≤
            c.left Session.State.left := by
          refine (left_settle _ _).trans (le_of_eq ?_)
          simp only [Client.left, hsome, Option.map_some, Option.getD_some, hsame]
        have hsum := sum_map_set_add (Client.left Session.State.left) hc
          (Client.settle false { c with session := some st' })
        change ((s.clients.set i _).map (Client.left Session.State.left)).sum ≤ _
        unfold State.left
        omega
    | _ => cases hw
  | _ => cases hw

theorem silent_of_prompt {a : Action} (h : s.prompt a = true) : a.silent = true := by
  cases a with
  | client i b =>
    obtain ⟨c, hc, hb⟩ := (Option.any_eq_true ..).mp h
    cases b with
    | session b =>
      obtain ⟨st, hst, hb⟩ := (Option.any_eq_true ..).mp hb
      exact Session.silent_of_prompt hb
    | close | request => cases hb
    | _ => rfl
  | connect => cases h
  | _ => rfl

theorem ranked : daemon.Ranked (fun s a => s.prompt a = true) daemon.Reachable
    (State.left Session.State.budget) where
  keeps := fun h _ hs => .step h trivial hs
  decreases := by
    intro s s' a h ha hs
    refine left_step h (silent_of_prompt ha) (fun _ => rfl) ?_ hs
    rintro i b c st st' rfl hc hst hstep
    refine Session.budget_decreases (Session.locksOk (session_reachable h _ _ hc st hst)) ?_ hstep
    simpa [State.prompt, Client.prompt, hc, hst] using ha

theorem working : daemon.Working (fun _ a => a.silent = true) Action.works daemon.Reachable
    (State.left Session.State.left) where
  keeps := fun h _ hs => .step h trivial hs
  decreases := by
    intro s s' a h ha hw hs
    refine left_step h ha (fun _ => rfl) ?_ hs
    rintro i b c st st' rfl hc hst hstep
    exact Session.left_decreases (Session.locksOk (session_reachable h _ _ hc st hst)) ha hw hstep
  idles := fun _ _ hw hs => left_of_idling hw hs

end Left

section Rest

def Quiet (s : State) : Prop :=
  daemon.Stuck (fun s a => s.prompt a = true ∧ a.fails = false) s

theorem Quiet.client (hq : Quiet s) (hc : s.clients[i]? = some c) {a : ClientAction}
    (ha : c.prompt a = true) (hf : a.fails = false) : c.step s.policy a = none := by
  have hnone := hq (.client i a) ⟨by simp [State.prompt, hc, ha], hf⟩
  change s.clients[i]?.bind _ = none at hnone
  rw [hc] at hnone
  exact Option.map_eq_none_iff.mp hnone

theorem Quiet.dropDevice (hq : Quiet s) (hc : s.clients[i]? = some c) :
    c.device.isDropping = false := by
  have hnone := hq (.dropDevice i none) ⟨rfl, rfl⟩
  change s.clients[i]?.bind _ = none at hnone
  rw [hc] at hnone
  cases hd : c.device with
  | dropping => simp [State.dropDevice, hd] at hnone
  | _ => rfl

theorem Quiet.pc (hq : Quiet s) (hc : s.clients[i]? = some c) :
    c.pc = .connected ∨ c.pc = .ended ∨ c.pc = .serving := by
  have hclient : ∀ {a : ClientAction}, c.prompt a = true → a.fails = false →
      c.step s.policy a = none := fun ha hf => hq.client hc ha hf
  cases hp : c.pc with
  | connected => exact .inl rfl
  | ended => exact .inr (.inl rfl)
  | serving => exact .inr (.inr rfl)
  | requested =>
    have hstep := hclient (a := .lookup none) rfl rfl
    simp [Client.step, hp] at hstep
  | permitted =>
    have hnone := hq (.tryAttach i) ⟨rfl, rfl⟩
    change s.clients[i]?.bind _ = none at hnone
    rw [hc] at hnone
    simp only [Option.bind_some, State.tryAttach, hp] at hnone
    split_ifs at hnone
  | refused =>
    have hstep := hclient (a := .refuse) rfl rfl
    simp [Client.step, hp] at hstep
  | opening =>
    have hstep := hclient (a := .openDevice ⟨none, false, false, [], none⟩) rfl rfl
    simp [Client.step, hp, openDevice] at hstep
  | openFailed =>
    have hstep := hclient (a := .refuse) rfl rfl
    simp [Client.step, hp] at hstep
  | replying =>
    have hstep := hclient (a := .reply true) rfl rfl
    simp [Client.step, hp] at hstep
  | unwinding =>
    have hdrop := hq.dropDevice hc
    have hnone := hq (.dropGuard i) ⟨rfl, rfl⟩
    change s.clients[i]?.bind _ = none at hnone
    rw [hc] at hnone
    cases hd : c.device with
    | dropping => simp [hd, DeviceLife.isDropping] at hdrop
    | _ => simp [State.dropGuard, hp, hd] at hnone

theorem Quiet.session (hq : Quiet s) (hr : daemon.Reachable s) (hc : s.clients[i]? = some c)
    {st : Session.State} (hst : c.session = some st) : Session.AtRest st := by
  refine Session.Quiet.atRest (fun a ha => ?_) (session_reachable hr i c hc st hst)
  have hprompt : c.prompt (.session a) = true := by simp [Client.prompt, hst, ha.1]
  have hstep := hq.client hc hprompt ha.2
  simp only [Client.step, hst, Option.bind_some] at hstep
  split_ifs at hstep with hloop
  · -- the loop of such a connection is over or has yet to begin
    cases a with
    | loop a =>
      have hidle := (served hr i c hc).idle (by simpa [Session.Action.isLoop] using hloop) st hst
      exact Session.step_of_idle hidle (Session.silent_of_prompt ha.1)
    | _ => simp [Session.Action.isLoop] at hloop
  · exact Option.map_eq_none_iff.mp hstep

theorem urbsOwnDevice_of_atRest (h : ∀ st, c.session = some st → Session.AtRest st) :
    c.urbsOwnDevice = false := by
  unfold Client.urbsOwnDevice
  cases hst : c.session with
  | none => rfl
  | some st =>
    simp only [Option.map_some, Option.getD_some, List.any_eq_false]
    intro u hmem
    obtain ⟨t, hu⟩ := List.mem_iff_getElem?.mp hmem
    obtain ⟨hlive, hout⟩ := (h st hst).urbs t u hu
    unfold Session.Urb.live at hlive
    unfold Session.Urb.ownsDevice
    cases ht : u.task <;> simp_all

theorem Quiet.idle (hq : Quiet s) (hr : daemon.Reachable s) (hc : s.clients[i]? = some c) :
    c.Idle := by
  have hrest : ∀ st, c.session = some st → Session.AtRest st := fun st => hq.session hr hc
  rcases hq.pc hc with hp | hp | hp
  · exact .connected hp
  · refine .ended hp ?_ hrest
    exact not_alive_of_settled (settled hr i c hc) (by rw [hp]; rfl)
      (urbsOwnDevice_of_atRest hrest) (hq.dropDevice hc)
  · obtain ⟨st, hst⟩ := (served hr i c hc).session (by rw [hp]; rfl)
    refine .serving st hp hst ?_ (hrest st hst)
    have hleave := hq.client hc (a := .leave) rfl rfl
    have hidle := (hrest st hst).loop
    cases hl : st.loop with
    | reading => rfl
    | ended | panicked => simp [Client.step, hp, hst, hl, Session.LoopPc.returned] at hleave
    | _ => simp [hl, Session.LoopPc.idle] at hidle

theorem Quiet.atRest (hq : Quiet s) (hr : daemon.Reachable s) : AtRest s := by
  refine ⟨fun i c hc => hq.idle hr hc, fun b => ?_⟩
  rw [(registryExact hr).entry_iff b]
  constructor
  · rintro ⟨i, ⟨c, hc, hg, hb⟩, -⟩
    refine ⟨i, c, hc, ?_, hb⟩
    rcases hq.pc hc with hp | hp | hp
    · rw [hp] at hg
      cases hg
    · rw [hp] at hg
      cases hg
    · exact hp
  · rintro ⟨i, c, hc, hp, hb⟩
    have hheld : HoldsGuard s i b := ⟨c, hc, by rw [hp]; rfl, hb⟩
    exact ⟨i, hheld, fun j hj => (registryExact hr).unique j i b hj hheld⟩

end Rest

/-- When the clients are silent the daemon settles. In whatever order its connections go on
and whatever fails, no more than so much work is done, and where none is left every
connection is idle and the registry has exactly the devices of the sessions that wait for
their client. -/
theorem daemon_settles (h : daemon.Reachable s) :
    (∀ as s', daemon.replay (fun _ a => a.silent = true) s as = some s' →
      as.countP Action.works ≤ s.left Session.State.left ∧
        ((∀ a, s'.prompt a = true → a.fails = false → daemon.step s' a = none) → AtRest s')) ∧
    (∀ as s', daemon.replay (fun s a => s.prompt a = true) s as = some s' →
      as.length ≤ s.left Session.State.budget) ∧
    ∃ as s', daemon.replay (fun s a => s.prompt a = true ∧ a.fails = false) s as = some s' ∧
      AtRest s' := by
  have hrest : ∀ s, daemon.Reachable s → Quiet s → AtRest s := fun _ hr hq => hq.atRest hr
  obtain ⟨hwork, hbound, hend⟩ := working.settles ranked (fun _ _ ha => ha.1) hrest h
  refine ⟨fun as s' hrun => ?_, hbound, hend⟩
  obtain ⟨hcount, hquiet⟩ := hwork as s' hrun
  exact ⟨hcount, fun hstuck => hquiet fun a ha => hstuck a ha.1 ha.2⟩

theorem daemon_settles_hung_up : ∃ s, daemon.Reachable s ∧
    s.clients.map (fun c => (c.pc, c.urbsOwnDevice)) = [(.unwinding, true)] ∧
    ∃ as s', daemon.replay (fun s a => s.prompt a = true ∧ a.fails = false) s as = some s' ∧
      AtRest s' := by
  let actions : List Action := [.connect "tcp:a"] ++ Sample.attach 0 ++ Sample.serve 0 ++
    Sample.submit 0 ++ Sample.hangUp 0 [⟨0, 0⟩]
  have hrun : ((daemon.run (.new .allowAll) actions).map fun s =>
      s.clients.map fun c => (c.pc, c.urbsOwnDevice)) = some [(.unwinding, true)] := by
    decide +kernel
  obtain ⟨s, hs, hp⟩ := System.exists_reachable_of_run (init_new _) hrun
  exact ⟨s, hs, hp, (daemon_settles hs).2.2⟩

end Usbip.Daemon
