import UsbipdDarwin.Session.Wire
import UsbipdDarwin.Lts.History

/-! What a `RET_UNLINK` promises about the URB it stands for: whether a transfer
may still be started for it, and whether its `RET_SUBMIT` may still come. -/

namespace Usbip.Session
open Proto Host Lts

variable {s s' : State} {t : Nat} {u u' : Urb}

def Urb.Inert (u : Urb) : Prop :=
  u.outstanding = false ∧ (u.task = .spawned → u.polling = false ∧ u.aborted = true)

theorem TaskMove.inert {a : TaskAction} (hm : TaskMove s t u a s') (hu : s.urbs[t]? = some u)
    (hs : s'.urbs = s.urbs.set t u') (h : u.Inert) : u'.Inert := by
  have hget : ∀ {v : Urb}, s.urbs.set t v = s.urbs.set t u' → v = u' := set_inj hu
  obtain ⟨hout, hspawned⟩ := h
  cases hm with
  | poll _ ha =>
    refine hget hs ▸ ⟨hout, fun ht => ?_⟩
    rw [(hspawned ht).2] at ha
    cases ha
  | suspend _ _ hne => exact hget hs ▸ ⟨hout, fun ht => absurd ht hne⟩
  | handOff hp ht =>
    rw [(hspawned ht).1] at hp
    cases hp
  | _ => exact hget hs ▸ ⟨hout, fun ht => by cases ht⟩

theorem Urb.Inert.keeps {a : Action} (hm : Move s a s') {i : Nat} {v : Urb}
    (hv : s.urbs[i]? = some v) (h : v.Inert) : ∃ v', s'.urbs[i]? = some v' ∧ v'.Inert := by
  refine hm.keeps ?_ ?_ ?_ hv h
  · intro t u u' a hu hm hs h
    exact hm.inert hu hs h
  · intro t u c a hm h
    have hout := hm.outstanding
    rw [h.1] at hout
    cases hout
  · intro u u' hr h
    refine ⟨hr.outstanding_eq.trans h.1, fun ht => ?_⟩
    rw [hr.task] at ht
    rw [hr.polling]
    exact (h.2 ht).imp id hr.aborted

def Ended (log : List Event) (t : Nat) : Prop := .aborted t false ∈ log ∨ .returned t ∈ log

def EndedOk (s : State) : Prop :=
  ∀ t, Ended s.log t → ∃ u, s.urbs[t]? = some u ∧ u.Inert

theorem EndedOk.old {a : Action} (h : EndedOk s) (hm : Move s a s') (he : Ended s.log t) :
    ∃ u, s'.urbs[t]? = some u ∧ u.Inert := by
  obtain ⟨u, hu, hi⟩ := h t he
  exact hi.keeps hm hu

theorem EndedOk.frame {a : Action} {p : Event → Bool} (h : EndedOk s) (hm : Move s a s')
    (hl : s'.log = s.log ∨ ∃ e, s'.log = e :: s.log ∧ p e = true)
    (hp : ∀ t, p (.aborted t false) = false ∧ p (.returned t) = false) : EndedOk s' := by
  intro t he
  refine h.old hm ?_
  exact he.imp (mem_log_of hl (hp t).1) (mem_log_of hl (hp t).2)

theorem endedOk_closure {a : ClosureAction} (hu : s.urbs[t]? = some u)
    (hm : ClosureMove s t u a s') (hr : RepliesOk s) (h : EndedOk s) : EndedOk s' := by
  have hmove : Move s (.closure t a) s' := .closure hu hm
  -- a closure in the pool has left the first poll of its task behind
  have hspawned : u.task ≠ .spawned := by
    intro ht
    have hidle := hr.consistent t u hu
    simp only [Urb.Consistent, ht] at hidle
    have hout := hm.outstanding
    rw [Urb.outstanding, hidle] at hout
    cases hout
  have hover : ∀ c, s'.urbs = s.urbs.set t { u with closure := c } →
      ({ u with closure := c } : Urb).outstanding = false → s'.log = .returned t :: s.log →
      EndedOk s' := by
    intro c hs hc hl i he
    by_cases hi : i = t
    · subst hi
      refine ⟨{ u with closure := c }, ?_, hc, fun ht => absurd ht hspawned⟩
      rw [hs]
      exact List.getElem?_set_self (lt_length_of_getElem? hu)
    · refine h.old hmove ?_
      rw [hl] at he
      unfold Ended at he ⊢
      simpa [hi] using he
  cases hm with
  | start => exact fun i he => h.old hmove he
  | @call pc a r =>
    intro i he
    refine h.old hmove ?_
    unfold Ended at he ⊢
    cases hev : r.event <;> simpa [hev] using he
  | panic => exact fun i he => h.old hmove he
  | finish => exact hover _ rfl rfl rfl
  | finishPanic => exact hover _ rfl rfl rfl

theorem endedOk_loop {a : LoopAction} (hm : LoopMove s a s') (hr : RepliesOk s) (h : EndedOk s) :
    EndedOk s' := by
  have hmove : Move s (.loop a) s' := .loop hm
  cases hm with
  | @abort r i hl =>
    intro t he
    rcases he with he | he
    · rcases List.mem_cons.mp he with heq | he
      · -- never polled: the task is still to make its first step, and will not
        injection heq with ht hp
        subst ht
        obtain ⟨u, hu, hpolled⟩ : ∃ u, s.urbs[i.task]? = some u ∧ u.polled = false := by
          cases hu : s.urbs[i.task]? with
          | none => rw [hu] at hp; cases hp
          | some u => exact ⟨u, rfl, by rw [hu] at hp; exact hp.symm⟩
        refine ⟨{ u with aborted := true }, by rw [List.getElem?_modify_eq, hu]; rfl, ?_, ?_⟩
        · have hc := hr.consistent _ u hu
          unfold Urb.polled at hpolled
          unfold Urb.Consistent at hc
          unfold Urb.outstanding
          cases ht : u.task <;> simp_all
        · intro ht
          unfold Urb.polled at hpolled
          change u.task = .spawned at ht
          rw [ht] at hpolled
          exact ⟨hpolled, rfl⟩
      · exact h.old hmove (.inl he)
    · exact h.old hmove (.inr (by simpa using he))
  | submit =>
    intro t he
    exact h.old hmove (by simpa [Ended] using he)
  | unlink =>
    intro t he
    exact h.old hmove (by simpa [Ended] using he)
  | finishWrite =>
    intro t he
    exact h.old hmove (by simpa [Ended] using he)
  | failWrite =>
    intro t he
    exact h.old hmove (by simpa [Ended] using he)
  | _ => exact fun t he => h.old hmove he

theorem endedOk {C : State → Action → Prop} (h : session.ReachableBy C s) : EndedOk s := by
  refine h.invariant (I := EndedOk) ?_ ?_
  · rintro s ⟨configurations, active, rfl⟩ t he
    simp [Ended, State.initial] at he
  · intro s a s' hr hi _ hs
    cases step_move hs with
    | task hu hm => exact hi.frame (.task hu hm) hm.log fun _ => ⟨rfl, rfl⟩
    | closure hu hm => exact endedOk_closure hu hm (repliesOk hr) hi
    | loop hm => exact endedOk_loop hm (repliesOk hr) hi

def StartsOut : Event → List Event → Prop
  | .host t (.started _), log => ¬ Ended log t
  | _, _ => True

theorem startsOut {C : State → Action → Prop} (h : session.ReachableBy C s) :
    Justified StartsOut s.log := by
  refine h.invariant (I := fun s => Justified StartsOut s.log) ?_ ?_
  · rintro s ⟨configurations, active, rfl⟩
    trivial
  · intro s a s' hr hi _ hs
    cases step_move hs with
    | task _ hm => exact hi.extend hm.log fun e he => by cases e <;> trivial
    | loop hm => exact hi.extend hm.log fun e he => by cases e <;> trivial
    | @closure t u _ _ hu hm =>
      -- the only events recorded here are this URB's own
      have hown : ∀ ev, StartsOut (.host t ev) s.log := by
        intro ev
        cases ev with
        | locked => trivial
        | started q =>
          intro he
          obtain ⟨v, hv, hin⟩ := endedOk hr t he
          rw [hu] at hv
          cases hv
          have hout := hm.outstanding
          rw [hin.1] at hout
          cases hout
      cases hm with
      | @call pc a r =>
        cases hev : r.event with
        | none => simpa [hev] using hi
        | some ev => exact hi.cons (hown ev)
      | finish => exact hi.cons trivial
      | finishPanic => exact hi.cons trivial
      | _ => exact hi

def UnlinkStops (s : State) : Prop :=
  ∀ later earlier r t p, s.log = later ++ .retUnlink r :: earlier → .aborted t p ∈ earlier →
    ∀ q, .host t (.started q) ∉ later

theorem exists_late_start : ∃ s q, session.Reachable s ∧ s.log =
    [.host 0 (.started q)] ++ .retUnlink ⟨8, 7⟩ ::
      [.aborted 0 true, .readUnlink ⟨8, 7⟩, .readSubmit 0 7] := by
  let actions := Sample.accept (Sample.submit 7 0) ++ Sample.handOff 0 ++ Sample.unlink ++
    Sample.writeUnlink ++ [.closure 0 .start, .closure 0 (.call .go)]
  let request : Host.Request := .controlOut ⟨.standard, .device, 0, 0, 0⟩ []
  have hrun : ((session.run (.initial Sample.device) actions).map fun s => s.log ==
      [.host 0 (.started request)] ++ .retUnlink ⟨8, 7⟩ ::
        [.aborted 0 true, .readUnlink ⟨8, 7⟩, .readSubmit 0 7]) = some true := by
    decide
  obtain ⟨s, hr, hp⟩ := System.exists_reachable_of_run Sample.init_device hrun
  exact ⟨s, request, hr, beq_iff_eq.mp hp⟩

theorem unlink_does_not_stop : ¬ ∀ s, session.Reachable s → UnlinkStops s := by
  intro hall
  obtain ⟨s, q, hr, hlog⟩ := exists_late_start
  exact hall s hr _ _ _ 0 true hlog (by simp) q (by simp)

theorem unlink_stops_unless_out (h : session.Reachable s) {later earlier : List Event}
    {r : Unlink} {p : Bool} {q : Host.Request} (hlog : s.log = later ++ .retUnlink r :: earlier)
    (habort : .aborted t p ∈ earlier) (hstart : .host t (.started q) ∈ later) :
    p = true ∧ .returned t ∉ earlier := by
  obtain ⟨between, hnot⟩ := (startsOut h).later hlog hstart
  have hmem : ∀ e, e ∈ earlier → e ∈ between ++ .retUnlink r :: earlier :=
    fun e he => List.mem_append_right _ (List.mem_cons_of_mem _ he)
  constructor
  · cases p with
    | true => rfl
    | false => exact absurd (.inl (hmem _ habort)) hnot
  · intro hret
    exact hnot (.inr (hmem _ hret))

theorem unlink_stops_unless_out_queued : ∃ s later earlier q, session.Reachable s ∧
    s.log = later ++ .retUnlink ⟨8, 7⟩ :: earlier ∧ .host 0 (.started q) ∈ later ∧
    .aborted 0 true ∈ earlier ∧ .returned 0 ∉ earlier := by
  obtain ⟨s, q, hr, hlog⟩ := exists_late_start
  refine ⟨s, _, _, q, hr, hlog, by simp, by simp, ?_⟩
  exact (unlink_stops_unless_out hr hlog (p := true) (q := q) (by simp) (by simp)).2

end Usbip.Session
