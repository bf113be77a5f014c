import UsbipdDarwin.Session.Endpoint
import UsbipdDarwin.Session.Replies

/-! In which order transfers start on an endpoint. Nothing on the way from the
read loop to the endpoint mutex keeps the order of the commands; from the mutex
on, transfers start in the order in which it was taken. -/

namespace Usbip.Session
open Proto Host Lts

variable {s s' : State} {t : Nat} {u : Urb}

def StartedOn (log : List Event) (t e : Nat) : Prop :=
  ∃ n b, Event.host t (.started (.transferBlocking e n b)) ∈ log

theorem StartedOn.mono {log log' : List Event} {e : Nat} (h : StartedOn log t e)
    (hl : ∀ ev ∈ log, ev ∈ log') : StartedOn log' t e := by
  obtain ⟨n, b, hs⟩ := h
  exact ⟨n, b, hl _ hs⟩

theorem poisoned_stays {a : Action} (hm : Move s a s') (hg : EpGuarded s) {e : Nat}
    (h : s.device.epLock e = .poisoned) : s'.device.epLock e = .poisoned := by
  have hupdate : ∀ (e' : Nat) (l : Lock Owner), (e' = e → l = .poisoned) →
      Function.update s.device.epLock e' l e = .poisoned := by
    intro e' l hl
    by_cases heq : e = e'
    · subst heq
      rw [Function.update_self, hl rfl]
    · rw [Function.update_of_ne heq, h]
  -- a mutex that someone holds or that is free is not this one
  have hheld : ∀ (o : Owner) (e' : Nat) (l : Lock Owner), HoldsEp s o e' →
      Function.update s.device.epLock e' l e = .poisoned := by
    intro o e' l ho
    refine hupdate e' l ?_
    rintro rfl
    rw [hg o e' ho] at h
    cases h
  have hfree : ∀ (e' : Nat) (l : Lock Owner), s.device.epLock e' = .free →
      Function.update s.device.epLock e' l e = .poisoned := by
    intro e' l hf
    refine hupdate e' l ?_
    rintro rfl
    rw [hf] at h
    cases h
  cases hm with
  | task _ hm =>
    rw [hm.device_eq]
    exact h
  | closure hu hm =>
    cases hm with
    | call hc hr =>
      cases callStep_effect hr with
      | quiet hl => simpa only [hl] using h
      | acquire e' hf hl =>
        simp only [hl]
        exact hfree e' _ hf
      | begin _ _ _ hl => simpa only [hl] using h
      | release e' comp hpc hl =>
        simp only [hl]
        refine hheld (.call _) e' _ ⟨_, hu, ?_⟩
        simp only [Urb.heldEp, hc, hpc, CallPc.held]
    | @panic pc hc =>
      simp only [OpenedDevice.callPanic]
      cases hp : pc.held with
      | none => exact h
      | some e' => exact hupdate e' _ fun _ => rfl
    | _ => exact h
  | loop hm =>
    cases hm with
    | lockEp _ he => exact hfree _ _ he
    | cancelAll hl => exact hheld .canceller _ _ (by simp only [HoldsEp, hl, LoopPc.heldEp])
    | _ => exact h

def LockedOk (s : State) : Prop :=
  ∀ (t e : Nat), .host t (.locked e) ∈ s.log →
    StartedOn s.log t e ∨ s.device.epLock e = .poisoned ∨
      ∃ u, s.urbs[t]? = some u ∧ u.closure = .running (.epLocked e)

theorem lockedOk_closure {a : ClosureAction} (hu : s.urbs[t]? = some u)
    (hm : ClosureMove s t u a s') (hg : EpGuarded s) (h : LockedOk s) : LockedOk s' := by
  have hmove : Move s (.closure t a) s' := .closure hu hm
  -- an older lock: only the step of its own URB can matter
  have hold : ∀ (i e : Nat), .host i (.locked e) ∈ s.log →
      (i = t → u.closure = .running (.epLocked e) →
        StartedOn s'.log t e ∨ s'.device.epLock e = .poisoned) →
      StartedOn s'.log i e ∨ s'.device.epLock e = .poisoned ∨
        ∃ v, s'.urbs[i]? = some v ∧ v.closure = .running (.epLocked e) := by
    intro i e hi hown
    rcases h i e hi with hs | hp | ⟨v, hv, hc⟩
    · exact .inl (hs.mono fun _ he => hmove.log_mono he)
    · exact .inr (.inl (poisoned_stays hmove hg hp))
    · by_cases heq : t = i
      · subst heq
        rw [hu] at hv
        cases hv
        exact (hown rfl hc).imp id .inl
      · obtain ⟨c, hset⟩ := hm.set
        exact .inr (.inr ⟨v, by rw [hset, List.getElem?_set_ne heq, hv], hc⟩)
  intro i e hi
  cases hm with
  | start hc => exact hold i e hi fun _ hc' => by rw [hc] at hc'; cases hc'
  | @call pc a r hc hr =>
    cases callStep_effect hr with
    | quiet _ _ _ hn hev =>
      refine hold i e ?_ fun _ hc' => ?_
      · rcases List.mem_append.mp hi with hi | hi
        · obtain ⟨ev, hev', he⟩ := Option.map_eq_some_iff.mp (Option.mem_toList.mp hi)
          cases he
          exact absurd (hev _ hev').2 (by simp [HostEvent.isLocked])
        · exact hi
      · rw [hc] at hc'
        exact absurd (ClosurePc.running.inj hc') (hn e)
    | acquire e' hf hl hpc hpc' hev =>
      simp only [hev, Option.map_some, Option.toList_some, List.singleton_append,
        List.mem_cons] at hi
      rcases hi with heq | hi
      · cases heq
        exact .inr (.inr ⟨_, List.getElem?_set_self (lt_length_of_getElem? hu),
          congrArg ClosurePc.running hpc'⟩)
      · refine hold i e hi fun _ hc' => ?_
        rw [hc, hpc] at hc'
        cases hc'
    | begin e' n b hl hpc hpc' hev =>
      simp only [hev, Option.map_some, Option.toList_some, List.singleton_append,
        List.mem_cons] at hi
      refine hold i e (hi.resolve_left (by simp)) fun _ hc' => .inl ⟨n, b, ?_⟩
      rw [hc, hpc] at hc'
      cases hc'
      simp [hev]
    | release e' comp hpc hl hh' hev =>
      simp only [hev, Option.map_none, Option.toList_none, List.nil_append] at hi
      refine hold i e hi fun _ hc' => ?_
      rw [hc, hpc] at hc'
      cases hc'
  | @panic pc hc =>
    refine hold i e hi fun _ hc' => .inr ?_
    rw [hc] at hc'
    cases hc'
    exact Function.update_self ..
  | finish hc =>
    refine hold i e (by simpa using hi) fun _ hc' => ?_
    rw [hc] at hc'
    cases hc'
  | finishPanic hc =>
    refine hold i e (by simpa using hi) fun _ hc' => ?_
    rw [hc] at hc'
    cases hc'

theorem LockedOk.frame {a : Action} {p : Event → Bool} (hm : Move s a s') (hg : EpGuarded s)
    (h : LockedOk s) (hl : s'.log = s.log ∨ ∃ e, s'.log = e :: s.log ∧ p e = true)
    (hp : ∀ i e, p (.host i (.locked e)) = false)
    (hc : ∀ (i : Nat) (v : Urb) (e : Nat), s.urbs[i]? = some v →
      v.closure = .running (.epLocked e) →
      ∃ v', s'.urbs[i]? = some v' ∧ v'.closure = .running (.epLocked e)) : LockedOk s' := by
  intro i e hi
  rcases h i e (mem_log_of hl (hp i e) hi) with hs | hpoison | ⟨v, hv, hcl⟩
  · exact .inl (hs.mono fun _ he => hm.log_mono he)
  · exact .inr (.inl (poisoned_stays hm hg hpoison))
  · exact .inr (.inr (hc i v e hv hcl))

theorem lockedOk {C : State → Action → Prop} (h : session.ReachableBy C s) : LockedOk s := by
  refine h.invariant (I := LockedOk) ?_ ?_
  · rintro s ⟨configurations, active, rfl⟩ t e he
    simp [State.initial] at he
  · intro s a s' hr hi _ hs
    cases step_move hs with
    | @task t u _ _ hu hm =>
      refine hi.frame (.task hu hm) (epGuarded hr) hm.log (fun _ _ => rfl) fun i v e hv hc => ?_
      obtain ⟨u', hset, _, _, _, hcl⟩ := hm.set
      rw [hset]
      by_cases heq : t = i
      · subst heq
        rw [hu] at hv
        cases hv
        refine ⟨u', List.getElem?_set_self (lt_length_of_getElem? hu), ?_⟩
        rcases hcl with hcl | ⟨ht, _⟩
        · rw [hcl, hc]
        · have hidle := (repliesOk hr).consistent t u hu
          simp only [Urb.Consistent, ht] at hidle
          rw [hc] at hidle
          cases hidle
      · exact ⟨v, by rw [List.getElem?_set_ne heq, hv], hc⟩
    | closure hu hm => exact lockedOk_closure hu hm (epGuarded hr) hi
    | loop hm =>
      refine hi.frame (.loop hm) (epGuarded hr) hm.log (fun _ _ => rfl) fun i v e hv hc => ?_
      obtain ⟨v', hv', hra⟩ := hm.carries i v hv
      refine ⟨v', hv', ?_⟩
      rcases hra.closure with hcl | ⟨_, _, hcl, _⟩
      · rw [hcl, hc]
      · rw [hc] at hcl
        cases hcl

def LockOrder : Event → List Event → Prop
  | .host b (.started (.transferBlocking e _ _)), log =>
    ∀ a, a ≠ b → .host a (.locked e) ∈ log → StartedOn log a e
  | _, _ => True

theorem lockOrder_begin (hu : s.urbs[t]? = some u) {e : Nat}
    (hc : u.closure = .running (.epLocked e)) (hg : EpGuarded s) (hl : LockedOk s) (n : Nat)
    (b : Bytes) : LockOrder (.host t (.started (.transferBlocking e n b))) s.log := by
  have hmine : HoldsEp s (.call t) e := ⟨u, hu, by simp only [Urb.heldEp, hc, CallPc.held]⟩
  intro a hne ha
  rcases hl a e ha with hs | hp | ⟨v, hv, hcv⟩
  · exact hs
  · rw [hg _ _ hmine] at hp
    cases hp
  · have hother : HoldsEp s (.call a) e := ⟨v, hv, by simp only [Urb.heldEp, hcv, CallPc.held]⟩
    exact absurd (Owner.call.inj (hg.unique hother hmine)) hne

theorem lockOrder {C : State → Action → Prop} (h : session.ReachableBy C s) :
    Justified LockOrder s.log := by
  refine h.invariant (I := fun s => Justified LockOrder s.log) ?_ ?_
  · rintro s ⟨configurations, active, rfl⟩
    trivial
  · intro s a s' hr hi _ hs
    cases step_move hs with
    | task _ hm => exact hi.extend hm.log fun e he => by cases e <;> trivial
    | loop hm => exact hi.extend hm.log fun e he => by cases e <;> trivial
    | closure hu hm =>
      cases hm with
      | @call pc a r hc hcall =>
        cases callStep_effect hcall with
        | begin e n b _ hpc _ hev =>
          simp only [hev, Option.map_some, Option.toList_some, List.singleton_append]
          exact hi.cons (lockOrder_begin hu (by rw [hc, hpc]) (epGuarded hr) (lockedOk hr) n b)
        | quiet _ _ _ _ hev =>
          cases hr' : r.event with
          | none => simpa only [hr', Option.map_none, Option.toList_none, List.nil_append] using hi
          | some ev =>
            simp only [Option.map_some, Option.toList_some, List.singleton_append]
            refine hi.cons ?_
            have hno := (hev ev hr').1
            cases ev with
            | locked => trivial
            | started q => cases q <;> trivial
        | acquire _ _ _ _ _ hev =>
          simp only [hev, Option.map_some, Option.toList_some, List.singleton_append]
          exact hi.cons trivial
        | release _ _ _ _ _ hev =>
          simpa only [hev, Option.map_none, Option.toList_none, List.nil_append] using hi
      | finish => exact hi.cons trivial
      | finishPanic => exact hi.cons trivial
      | _ => exact hi

/-- Of two URBs on one endpoint address, read in this order, the second has not
started before the first, unless that one was unlinked or its closure is over. -/
def EndpointFifo (s : State) : Prop :=
  ∀ (a b : Nat) (ua ub : Urb), a < b → s.urbs[a]? = some ua → s.urbs[b]? = some ub →
    ua.msg.epAddr = ub.msg.epAddr → ua.msg.epAddr ≠ 0 → ¬ Targeted s.log ua.msg.seqnum →
    (∃ e, StartedOn s.log b e) → (∃ e, StartedOn s.log a e) ∨ .returned a ∈ s.log

theorem endpoint_overtaken : ¬ ∀ s, session.Reachable s → EndpointFifo s := by
  intro hall
  let actions := Sample.accept (Sample.submit 7 1) ++ Sample.accept (Sample.submit 8 1) ++
    Sample.handOff 1 ++ Sample.openEndpoint 1 ++ Sample.startTransfer 1
  let events : List Event := [.host 1 (.started (.transferBlocking 0 64 [])), .host 1 (.locked 0),
    .host 1 (.started (.clearHalt 0)), .host 1 (.started (.setAltSetting 0 0)),
    .readSubmit 1 8, .readSubmit 0 7]
  have hrun : ((session.run (.initial Sample.device) actions).map fun s =>
      s.log == events && (s.urbs.map (·.msg.epAddr) == [0x81, 0x81])) = some true := by
    decide
  obtain ⟨s, hr, hp⟩ := System.exists_reachable_of_run Sample.init_device hrun
  simp only [Bool.and_eq_true, beq_iff_eq] at hp
  obtain ⟨hlog, haddr⟩ := hp
  obtain ⟨ua, ub, hurbs⟩ : ∃ ua ub, s.urbs = [ua, ub] :=
    List.length_eq_two.mp (by simpa using congrArg List.length haddr)
  rw [hurbs] at haddr
  simp only [List.map_cons, List.map_nil, List.cons.injEq, and_true] at haddr
  have hfifo := hall s hr 0 1 ua ub (by decide) (by rw [hurbs]; rfl) (by rw [hurbs]; rfl)
    (haddr.1.trans haddr.2.symm) (by rw [haddr.1]; decide)
  simp only [hlog, events, Targeted, StartedOn] at hfifo
  simp at hfifo

theorem starts_in_lock_order (h : session.Reachable s) {a b e n : Nat} {data : Bytes}
    {later earlier : List Event} (hne : a ≠ b)
    (hlog : s.log = later ++ .host b (.started (.transferBlocking e n data)) :: earlier)
    (hlock : .host a (.locked e) ∈ earlier) : StartedOn earlier a e :=
  (lockOrder h).split hlog a hne hlock

/-- The first URB has the mutex when the second is read, and starts first. -/
theorem starts_in_lock_order_two : ∃ s, session.Reachable s ∧
    (∃ later earlier, s.log = later ++ .host 1 (.started (.transferBlocking 0 64 [])) :: earlier ∧
      .host 0 (.locked 0) ∈ earlier ∧ StartedOn earlier 0 0) := by
  let actions := Sample.accept (Sample.submit 7 1) ++ Sample.handOff 0 ++ Sample.openEndpoint 0 ++
    [.closure 0 (.call .go)] ++ Sample.accept (Sample.submit 8 1) ++ Sample.handOff 1 ++
    [.start, .call .go, .call (.walk [0]), .call .go].map (.closure 1) ++
    [.call .go, .call (.completed ⟨8, .ok (), []⟩), .call .go].map (.closure 0) ++
    Sample.startTransfer 1
  let earlier : List Event := [.host 1 (.locked 0), .host 0 (.started (.transferBlocking 0 64 [])),
    .readSubmit 1 8, .host 0 (.locked 0), .host 0 (.started (.clearHalt 0)),
    .host 0 (.started (.setAltSetting 0 0)), .readSubmit 0 7]
  have hrun : ((session.run (.initial Sample.device) actions).map fun s =>
      s.log == .host 1 (.started (.transferBlocking 0 64 [])) :: earlier) = some true := by
    decide
  obtain ⟨s, hr, hp⟩ := System.exists_reachable_of_run Sample.init_device hrun
  have hlog : s.log = [] ++ .host 1 (.started (.transferBlocking 0 64 [])) :: earlier :=
    beq_iff_eq.mp hp
  have hlock : .host 0 (.locked 0) ∈ earlier := by simp [earlier]
  exact ⟨s, hr, [], earlier, hlog, hlock, starts_in_lock_order hr (by decide) hlog hlock⟩

end Usbip.Session
