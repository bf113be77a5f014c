import UsbipdDarwin.Host.OnBus
import UsbipdDarwin.Session.Closures

/-! How often a session asks the device for what a URB is for. However its threads
interleave and whatever the client unlinks, it asks at most once, for what the client wants;
a reply that is not an error says that it has asked. -/

namespace Usbip.Session
open Proto Host Lts

variable {s s' : State} {t i n : Nat} {u v : Urb} {m : Submit}

def Event.asksFor (t : Nat) : Event → Bool
  | .host t' e => t' == t && e.main
  | _ => false

def askedFor (log : List Event) (t : Nat) : Nat := log.countP (·.asksFor t)

/-- The closure of a URB for `m` can be here once the device was asked `n` times. -/
def ClosurePc.Asked (m : Submit) (n : Nat) : ClosurePc → Prop
  | .idle | .queued => n = 0
  | .running pc => pc.Asked m.call n
  | .returned (.ok _) => n = m.call.asks
  | .returned (.error _) | .panicked => n ≤ m.call.asks

structure AskedOk (s : State) : Prop where
  urbs : Each (fun t u => u.closure.Asked u.msg (askedFor s.log t)) s.urbs
  unborn : ∀ t, s.urbs.length ≤ t → askedFor s.log t = 0
  requests : ∀ t req, .host t (.started req) ∈ s.log → req.main = true →
    ∃ u, s.urbs[t]? = some u ∧ u.msg.call.Asks s.device.eps req
  addressed : s.device.Addressed
  aims : Each (fun _ u => ∀ pc, u.closure = .running pc → u.msg.call.Aims s.device.eps pc) s.urbs

theorem askedFor_call (log : List Event) (t i : Nat) (r : CallStep) :
    askedFor ((r.event.map (Event.host t)).toList ++ log) i =
      askedFor log i + if i = t then r.adds else 0 := by
  unfold askedFor CallStep.adds
  rw [List.countP_append, Nat.add_comm]
  congr 1
  cases r.event with
  | none => simp
  | some e =>
    by_cases hi : t = i
    · simp [Event.asksFor, hi]
    · simp [Event.asksFor, hi, Ne.symm hi]

theorem Move.askedFor_eq {a : Action} (hm : Move s a s') (ha : ∀ x, a ≠ .closure i (.call x)) :
    askedFor s'.log i = askedFor s.log i := by
  cases hm with
  | task _ hm =>
    refine countP_log_eq (p := Event.byTask) (fun e he => ?_) hm.log
    cases e with
    | host => cases he
    | _ => rfl
  | loop hm =>
    refine countP_log_eq (p := Event.byLoop) (fun e he => ?_) hm.log
    cases e with
    | host => cases he
    | _ => rfl
  | @closure t u a s' hu hm =>
    cases hm with
    | call =>
      have hne : i ≠ t := by
        rintro rfl
        exact ha _ rfl
      rw [askedFor_call, if_neg hne]
      rfl
    | _ => rfl

theorem asked_closureOutcome {r : Except HostError CallValue}
    (h : CallPc.Asked m.call n (.done r)) :
    (ClosurePc.returned (closureOutcome m r)).Asked m n := by
  cases r with
  | ok v => cases v <;> exact h
  | error e => exact h

theorem ClosureChange.asked {a : Action} {c c' : ClosurePc} (hc : ClosureChange s t m a c c')
    (ha : ∀ x, a ≠ .closure t (.call x)) (h : c.Asked m n) : c'.Asked m n := by
  cases hc with
  | same => exact h
  | queue => exact h
  | hit =>
    obtain ⟨hon, hn⟩ := h
    refine ⟨?_, hn⟩
    cases hcall : m.call <;> rw [hcall] at hon <;> exact hon
  | start =>
    obtain rfl : n = 0 := h
    exact asked_start m.call
  | call => exact absurd rfl (ha _)
  | panic => exact CallPc.Asked.le h
  | finish => exact asked_closureOutcome h
  | finishPanic => exact h

theorem ClosureChange.aims {a : Action} {c c' : ClosurePc} {eps : List AnyEp}
    (hc : ClosureChange s t m a c c') (ha : ∀ x, a ≠ .closure t (.call x))
    (h : ∀ pc, c = .running pc → m.call.Aims eps pc) {pc : CallPc} (hpc : c' = .running pc) :
    m.call.Aims eps pc := by
  cases hc with
  | same => exact h pc hpc
  | call => exact absurd rfl (ha _)
  | start =>
    cases hpc
    exact Call.aims_of_got m.call.got_start
  | hit | panic =>
    cases hpc
    exact Call.aims_of_got rfl
  | queue | finish | finishPanic => cases hpc

theorem Move.endpoints_eq {a : Action} (hm : Move s a s') (ha : ∀ t x, a ≠ .closure t (.call x)) :
    s'.device.eps = s.device.eps ∧ s'.device.endpoints = s.device.endpoints := by
  cases hm with
  | task hu hm => cases hm <;> exact ⟨rfl, rfl⟩
  | loop hm => cases hm <;> exact ⟨rfl, rfl⟩
  | closure hu hm =>
    cases hm with
    | call => exact absurd rfl (ha _ _)
    | @panic pc hc =>
      change (s.device.callPanic pc).eps = _ ∧ (s.device.callPanic pc).endpoints = _
      unfold OpenedDevice.callPanic
      split <;> exact ⟨rfl, rfl⟩
    | _ => exact ⟨rfl, rfl⟩

theorem Move.eps_grows {a : Action} (hm : Move s a s') : s.device.eps <+: s'.device.eps := by
  by_cases ha : ∃ t x, a = .closure t (.call x)
  · obtain ⟨t, x, rfl⟩ := ha
    cases hm with
    | closure hu hm =>
      cases hm with
      | call hc hr => exact callStep_grows hr
  · have heps := (hm.endpoints_eq fun t x he => ha ⟨t, x, he⟩).1
    exact heps ▸ List.prefix_rfl

theorem AskedOk.other {a : Action} (h : AskedOk s) (hok : RepliesOk s) (hm : Move s a s')
    (ha : ∀ t x, a ≠ .closure t (.call x)) : AskedOk s' := by
  have hlog : ∀ e : Event, (∃ t ev, e = .host t ev) → e ∈ s'.log → e ∈ s.log := by
    rintro e ⟨t, ev, rfl⟩ he
    cases hm with
    | task _ hm => exact mem_log_of (p := Event.byTask) hm.log rfl he
    | loop hm => exact mem_log_of (p := Event.byLoop) hm.log rfl he
    | @closure t' u a s' hu hm =>
      cases hm with
      | call => exact absurd rfl (ha _ _)
      | finish | finishPanic =>
        rcases List.mem_cons.mp he with heq | he
        · cases heq
        · exact he
      | start | panic => exact he
  obtain ⟨heps, hcache⟩ := hm.endpoints_eq ha
  refine ⟨fun i v hv => ?_, fun i hi => ?_, fun i req hreq hmain => ?_, ?_, fun i v hv pc hpc => ?_⟩
  · show v.closure.Asked v.msg (askedFor s'.log i)
    rw [hm.askedFor_eq (ha i)]
    rcases hm.closure_change hok hv with ⟨w, hw, hmsg, hc⟩ | ⟨m, -, hi, rfl⟩
    · rw [hmsg]
      exact hc.asked (ha i) (h.urbs i w hw)
    · exact h.unborn i (Nat.le_of_eq hi.symm)
  · rw [hm.askedFor_eq (ha i)]
    exact h.unborn i (hm.length_le.trans hi)
  · obtain ⟨u, hu, hasks⟩ := h.requests i req (hlog _ ⟨_, _, rfl⟩ hreq) hmain
    obtain ⟨v, hv, hmsg⟩ := hm.persists hu
    refine ⟨v, hv, ?_⟩
    rw [hmsg, heps]
    exact hasks
  · unfold OpenedDevice.Addressed
    rw [heps, hcache]
    exact h.addressed
  · rw [heps]
    rcases hm.closure_change hok hv with ⟨w, hw, hmsg, hc⟩ | ⟨m, -, -, rfl⟩
    · rw [hmsg]
      exact hc.aims (ha i) (h.aims i w hw) hpc
    · cases hpc

theorem AskedOk.running (h : AskedOk s) (hu : s.urbs[t]? = some u) {pc : CallPc}
    (hc : u.closure = .running pc) : pc.Asked u.msg.call (askedFor s.log t) := by
  have hold : u.closure.Asked u.msg (askedFor s.log t) := h.urbs t u hu
  rw [hc] at hold
  exact hold

theorem AskedOk.call (h : AskedOk s) (hu : s.urbs[t]? = some u) {pc : CallPc} {a : CallAction}
    {r : CallStep} (hc : u.closure = .running pc)
    (hr : s.device.callStep t u.msg.call pc a = some r) :
    AskedOk { s.setUrb t { u with closure := .running r.pc } with
      device := r.device
      log := (r.event.map (Event.host t)).toList ++ s.log } := by
  have haims := h.aims t u hu pc hc
  have hforwards := callStep_forwards hr haims (h.running hu hc)
  have hgrows := callStep_grows hr
  obtain ⟨haddressed, haims'⟩ := callStep_aimed hr h.addressed haims
  refine ⟨h.urbs.set ?_ ?_, fun i hi => ?_, fun i req hreq hmain => ?_, haddressed,
    h.aims.set ?_ ?_⟩
  · rw [askedFor_call, if_pos rfl]
    exact hforwards.asked
  · intro i v hne _ hv
    rw [askedFor_call, if_neg hne]
    exact hv
  · have hlen : s.urbs.length ≤ i := by simpa [State.setUrb] using hi
    have hne : i ≠ t := Nat.ne_of_gt ((lt_length_of_getElem? hu).trans_le hlen)
    rw [askedFor_call, if_neg hne]
    exact h.unborn i hlen
  · rcases List.mem_append.mp hreq with hnew | hold
    · obtain ⟨ev, hev, heq⟩ := Option.map_eq_some_iff.mp (Option.mem_toList.mp hnew)
      cases heq
      exact ⟨_, List.getElem?_set_self (lt_length_of_getElem? hu),
        (hforwards.request req hev hmain).mono hgrows⟩
    · obtain ⟨v, hv, hasks⟩ := h.requests i req hold hmain
      by_cases hi : i = t
      · subst hi
        rw [hu] at hv
        cases hv
        exact ⟨_, List.getElem?_set_self (lt_length_of_getElem? hu), hasks.mono hgrows⟩
      · refine ⟨v, ?_, hasks.mono hgrows⟩
        rw [← hv]
        exact List.getElem?_set_ne (Ne.symm hi)
  · intro pc' hpc'
    cases hpc'
    exact haims'
  · intro i v _ _ hv pc' hpc'
    exact (hv pc' hpc').mono hgrows

theorem askedOk {C : State → Action → Prop} (h : session.ReachableBy C s) : AskedOk s := by
  refine h.invariant ?_ ?_
  · rintro s ⟨configurations, active, rfl⟩
    refine ⟨.nil, fun _ _ => rfl, fun t req hreq => ?_, fun addr entry hl => ?_, .nil⟩
    · cases hreq
    · rw [State.initial, OpenedDevice.opened, AList.lookup_empty] at hl
      cases hl
  · intro s a s' hreach hi _ hs
    have hm := step_move hs
    have hok := repliesOk hreach
    by_cases ha : ∃ t x, a = .closure t (.call x)
    · obtain ⟨t, x, rfl⟩ := ha
      cases hm with
      | closure hu hm =>
        cases hm with
        | call hc hr => exact hi.call hu hc hr
    · exact hi.other hok hm fun t x heq => ha ⟨t, x, heq⟩

theorem asks_le_one (c : Call) : c.asks ≤ 1 := by
  unfold Call.asks
  split
  · split_ifs <;> decide
  · exact Nat.le_refl 1

theorem ClosurePc.Asked.le {c : ClosurePc} (h : c.Asked m n) : n ≤ m.call.asks := by
  cases c with
  | idle | queued =>
    obtain rfl : n = 0 := h
    exact Nat.zero_le _
  | running pc => exact CallPc.Asked.le h
  | returned r =>
    cases r with
    | ok v => exact Nat.le_of_eq h
    | error e => exact h
  | panicked => exact h

/-- The device is asked at most once for what a URB is for, and it is asked for that. A
reply that is not the one for an error tells the client that it was: once, or not at all
where the URB was only to select an alternate setting. -/
theorem device_asked_once (h : session.Reachable s) (t : Nat) :
    askedFor s.log t ≤ 1 ∧
    (∀ req, .host t (.started req) ∈ s.log → req.main = true →
      ∃ u, s.urbs[t]? = some u ∧ u.msg.call.Asks s.device.eps req) ∧
    ∀ n frame, .retSubmit t n frame ∈ s.log → ∃ u, s.urbs[t]? = some u ∧
      ((∀ e, frame ≠ retSubmitFrame u.msg (.error e)) → askedFor s.log t = u.msg.call.asks) := by
  have hasked := askedOk h
  refine ⟨?_, hasked.requests t, fun n frame hlog => ?_⟩
  · rcases Nat.lt_or_ge t s.urbs.length with hlt | hge
    · have hu := hasked.urbs t _ (List.getElem?_eq_getElem hlt)
      exact hu.le.trans (asks_le_one _)
    · rw [hasked.unborn t hge]
      exact Nat.zero_le 1
  · obtain ⟨u, hu, -, ⟨r, hr, rfl⟩, -⟩ := (repliesOk h).attributed t n frame hlog
    refine ⟨u, hu, fun hframe => ?_⟩
    have hcount : u.closure.Asked u.msg (askedFor s.log t) := hasked.urbs t u hu
    rw [hr] at hcount
    cases r with
    | ok v => exact hcount
    | error e => exact absurd rfl (hframe e)

theorem device_asked_once_answered : ∃ s n frame, session.Reachable s ∧
    .retSubmit 0 n frame ∈ s.log ∧ askedFor s.log 0 ≤ 1 ∧ askedFor s.log 0 = 1 := by
  let actions := Sample.accept (Sample.submit 7 0) ++ Sample.handOff 0 ++
    [.start, .call .go, .call (.answered (.ok [])), .finish].map (.closure 0) ++
    Sample.buildReply 0 ++ Sample.writeReply 0
  let frame := retSubmitFrame (Sample.submit 7 0) (.ok (0, []))
  have hrun : (session.run (.initial Sample.device) actions).map (fun s =>
      (s.log.contains (.retSubmit 0 7 frame), s.urbs.map fun u =>
        (decide (frame = retSubmitFrame u.msg (.error .nusb)), u.msg.call.asks))) =
        some (true, [(false, 1)]) := by
    decide +kernel
  obtain ⟨s, hs, htest⟩ := System.exists_reachable_of_run Sample.init_device hrun
  obtain ⟨hlog, hurbs⟩ := Prod.mk.inj htest
  have hlog : .retSubmit 0 7 frame ∈ s.log := by simpa using hlog
  obtain ⟨hle, -, hreply⟩ := device_asked_once hs 0
  obtain ⟨u, hu, hcount⟩ := hreply 7 frame hlog
  have hrow := eq_of_map_eq_singleton hurbs hu
  obtain ⟨hframe, hasks⟩ := Prod.mk.inj hrow
  -- an error frame does not say which error
  exact ⟨s, 7, frame, hs, hlog, hle, (hcount fun _ => of_decide_eq_false hframe).trans hasks⟩

/-- What the device sees of a control transfer, whenever it is asked for it, is the packet of
the client, unless that says what `nusb` cannot carry. -/
theorem control_packet_on_bus {onBus : Host.Request → Option SetupPacket}
    (hbus : Assembles onBus) (h : session.Reachable s) (hu : s.urbs[t]? = some u)
    (hep : u.msg.basic.ep = 0) {req : Host.Request} (hreq : .host t (.started req) ∈ s.log)
    (hmain : req.main = true) :
    onBus req = some (SetupPacket.fromBytes u.msg.cmd.setup) ↔
      (SetupPacket.fromBytes u.msg.cmd.setup).Carried u.msg.outPayload := by
  obtain ⟨v, hv, hasks⟩ := (askedOk h).requests t req hreq hmain
  obtain rfl : u = v := Option.some.inj (hu.symm.trans hv)
  have hcall : u.msg.call =
      .control (SetupPacket.fromBytes u.msg.cmd.setup) u.msg.outPayload := by
    simp [Submit.call, hep]
  rw [hcall] at hasks
  exact onBus_eq_iff hbus hasks

theorem control_packet_on_bus_zeros : ∃ s u req, session.Reachable s ∧ s.urbs[0]? = some u ∧
    .host 0 (.started req) ∈ s.log ∧
    Host.Sample.setupPacket req = some (SetupPacket.fromBytes u.msg.cmd.setup) := by
  let actions := Sample.accept (Sample.submit 7 0) ++ Sample.handOff 0 ++
    [.closure 0 .start, .closure 0 (.call .go)]
  let req : Host.Request := .controlOut ⟨.standard, .device, 0, 0, 0⟩ []
  have hrun : (session.run (.initial Sample.device) actions).map (fun s =>
      (s.log.contains (.host 0 (.started req)), s.urbs.map fun u =>
        (u.msg.basic.ep, u.msg.cmd.setup, u.msg.outPayload))) =
      some (true, [(0, List.Vector.replicate 8 0, [])]) := by
    decide +kernel
  obtain ⟨s, hs, htest⟩ := System.exists_reachable_of_run Sample.init_device hrun
  obtain ⟨hlog, hurbs⟩ := Prod.mk.inj htest
  have hlog : .host 0 (.started req) ∈ s.log := by simpa using hlog
  obtain ⟨u, hu, -⟩ := (askedOk hs).requests 0 req hlog rfl
  have hrow := eq_of_map_eq_singleton hurbs hu
  obtain ⟨hep, hrest⟩ := Prod.mk.inj hrow
  obtain ⟨hsetup, hpayload⟩ := Prod.mk.inj hrest
  have hbus := Host.Sample.assembles_setupPacket
  refine ⟨s, u, req, hs, hu, hlog, (control_packet_on_bus hbus hs hu hep hlog rfl).mpr ?_⟩
  rw [hsetup, hpayload]
  unfold SetupPacket.Carried SetupPacket.Named
  decide +kernel

end Usbip.Session
