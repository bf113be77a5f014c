import UsbipdDarwin.Session.Outcome

/-! Commands read against replies written. Per seqnum the replies written and
the URBs that may still reply never exceed the tasks spawned, and they make up
all of them as long as nobody interferes. -/

namespace Usbip.Session
open Proto Host Lts

variable {s s' : State} {t : Nat} {u u' : Urb} {n : UInt32}

def Event.isReadSubmit (n : UInt32) : Event → Bool
  | .readSubmit _ m => m == n
  | _ => false

def Event.isRetSubmit (n : UInt32) : Event → Bool
  | .retSubmit _ m _ => m == n
  | _ => false

def Event.isReplyOf (t : Nat) : Event → Bool
  | .retSubmit i _ _ => i == t
  | _ => false

def Urb.hasSeqnum (n : UInt32) (u : Urb) : Bool := u.msg.seqnum == n

def Urb.openFor (n : UInt32) (u : Urb) : Bool := u.undecided && u.hasSeqnum n

namespace State

def submits (s : State) (n : UInt32) : Nat := s.log.countP (Event.isReadSubmit n)

def replies (s : State) (n : UInt32) : Nat := s.log.countP (Event.isRetSubmit n)

def spawned (s : State) (n : UInt32) : Nat := s.urbs.countP (Urb.hasSeqnum n)

def unanswered (s : State) (n : UInt32) : Nat := s.urbs.countP (Urb.openFor n)

end State

/-- The loop has read a `CMD_SUBMIT n` and still waits for the permit to spawn its task. -/
def LoopPc.unspawned (n : UInt32) : LoopPc → Nat
  | .acquiring m => if m.seqnum == n then 1 else 0
  | _ => 0

/-- Nothing has happened yet that can keep a URB `n` from replying. -/
structure Undisturbed (s : State) (n : UInt32) : Prop where
  running : s.loop.drained = false
  written : .writeFailed ∉ s.log
  closures : Each (fun _ u => u.closure ≠ .panicked) s.urbs
  untargeted : ¬ Targeted s.log n

structure BalanceOk (s : State) : Prop where
  read : ∀ n, s.submits n = s.spawned n + s.loop.unspawned n
  once : ∀ t, s.log.countP (Event.isReplyOf t) ≤ 1
  bound : ∀ n, s.replies n + s.unanswered n ≤ s.spawned n
  complete : ∀ n, Undisturbed s n → s.replies n + s.unanswered n = s.spawned n

def Lost (s' : State) (u : Urb) : Prop :=
  u.flagged = true ∨ u.closure = .panicked ∨ .writeFailed ∈ s'.log

theorem openFor_congr (hm : u'.msg = u.msg) (hd : u'.undecided = u.undecided) :
    u'.openFor n = u.openFor n := by
  rw [Urb.openFor, Urb.hasSeqnum, hm, hd, Urb.openFor, Urb.hasSeqnum]

theorem openFor_eq_false (h : u.undecided = false) : u.openFor n = false := by
  rw [Urb.openFor, h, Bool.false_and]

theorem openFor_of_undecided (h : u.undecided = true) : u.openFor n = (u.msg.seqnum == n) := by
  rw [Urb.openFor, h, Bool.true_and, Urb.hasSeqnum]

theorem Settles.counts (hu : s.urbs[t]? = some u) (hset : s'.urbs = s.urbs.set t u')
    (hmsg : u'.msg = u.msg) (h : Settles s s' t u u') (n : UInt32) :
    s'.replies n + s'.unanswered n = s.replies n + s.unanswered n ∨
      (u.msg.seqnum = n ∧ Lost s' u ∧
        s'.replies n + s'.unanswered n ≤ s.replies n + s.unanswered n) := by
  have hcount : s'.unanswered n + (if u.openFor n then 1 else 0) =
      s.unanswered n + (if u'.openFor n then 1 else 0) := by
    unfold State.unanswered
    rw [hset]
    exact countP_set_add hu
  cases h with
  | keep hl hd =>
    rw [openFor_congr hmsg hd] at hcount
    have hr : s'.replies n = s.replies n := by rw [State.replies, hl, State.replies]
    exact .inl (by omega)
  | reply frame ht hl hd =>
    have hopen : u.undecided = true := by rw [Urb.undecided, ht]
    have hr : s'.replies n = s.replies n + if u.msg.seqnum == n then 1 else 0 := by
      rw [State.replies, hl, List.countP_cons]
      rfl
    rw [openFor_of_undecided hopen, openFor_eq_false hd] at hcount
    simp only [Bool.false_eq_true, if_false] at hcount
    exact .inl (by omega)
  | silent hopen hd hw =>
    have hr : s'.replies n = s.replies n := by
      rcases hw with ⟨hl, _⟩ | hl
      · rw [State.replies, hl, State.replies]
      · rw [State.replies, hl, List.countP_cons_of_neg (by simp [Event.isRetSubmit])]
        rfl
    rw [openFor_of_undecided hopen, openFor_eq_false hd] at hcount
    simp only [Bool.false_eq_true, if_false] at hcount
    by_cases hn : u.msg.seqnum = n
    · refine .inr ⟨hn, ?_, by omega⟩
      rcases hw with ⟨_, hf | hp⟩ | hl
      · exact .inl hf
      · exact .inr (.inl hp)
      · exact .inr (.inr (by rw [hl]; exact List.mem_cons_self ..))
    · have hne : (u.msg.seqnum == n) = false := beq_eq_false_iff_ne.mpr hn
      rw [hne] at hcount
      simp only [Bool.false_eq_true, if_false] at hcount
      exact .inl (by omega)

theorem Undisturbed.before {a : Action} (hm : Move s a s') (hr : RepliesOk s)
    (h : Undisturbed s' n) : Undisturbed s n where
  running := by
    refine Bool.eq_false_iff.mpr fun hd => ?_
    have hd' : s'.loop.drained = true := by
      cases hm with
      | task _ hm => rw [hm.loop_eq, hd]
      | closure _ hm => rw [hm.loop_eq, hd]
      | loop hm => exact hm.drained_mono hd
    rw [h.running] at hd'
    cases hd'
  written hw := h.written (hm.log_mono hw)
  closures i v hv hp := by
    obtain ⟨v', hv', hc⟩ := hr.closure_stays hm hv (by simp [hp]) (by rw [Urb.outstanding, hp])
    exact h.closures i v' hv' (hc.trans hp)
  untargeted ht := h.untargeted (ht.move hm)

theorem balanceOk_task {a : TaskAction} (hu : s.urbs[t]? = some u) (hm : TaskMove s t u a s')
    (hf : FlagsOk s) (hr : RepliesOk s) (h : BalanceOk s) : BalanceOk s' := by
  obtain ⟨u', hset, hmsg, hsettles⟩ := hm.settles
  have hmove : Move s (.task t a) s' := .task hu hm
  have hspawned : ∀ n, s'.spawned n = s.spawned n := by
    intro n
    unfold State.spawned
    rw [hset]
    exact countP_set_eq hu (by rw [Urb.hasSeqnum, hmsg, Urb.hasSeqnum])
  refine ⟨?_, ?_, ?_, ?_⟩
  · intro n
    have hsub : s'.submits n = s.submits n :=
      countP_log_eq (fun e he => by cases e <;> first | rfl | cases he) hm.log
    rw [hsub, hspawned, hm.loop_eq]
    exact h.read n
  · intro i
    cases hsettles with
    | keep hl => exact hl ▸ h.once i
    | reply frame ht hl =>
      rw [hl, List.countP_cons]
      by_cases hi : t = i
      · subst hi
        -- a URB that is still writing has no earlier reply
        have hzero : s.log.countP (Event.isReplyOf t) = 0 := by
          refine List.countP_eq_zero.mpr fun e he hp => ?_
          cases e with
          | retSubmit j m f =>
            obtain rfl : j = t := by simpa [Event.isReplyOf] using hp
            obtain ⟨v, hv, _, _, hd⟩ := hr.attributed j m f he
            rw [hu] at hv
            cases hv
            simp [Urb.undecided, ht] at hd
          | _ => cases hp
        rw [hzero]
        split_ifs <;> omega
      · have hne : Event.isReplyOf i (.retSubmit t u.msg.seqnum frame) = false := by
          simpa [Event.isReplyOf] using hi
        rw [hne]
        exact h.once i
    | silent _ _ hw =>
      rcases hw with ⟨hl, _⟩ | hl
      · exact hl ▸ h.once i
      · rw [hl, List.countP_cons_of_neg (by simp [Event.isReplyOf])]
        exact h.once i
  · intro n
    have hb := h.bound n
    rcases hsettles.counts hu hset hmsg n with he | ⟨_, _, hle⟩
    · rw [hspawned, he]
      exact hb
    · rw [hspawned]
      omega
  · intro n hn
    have hbefore := hn.before hmove hr
    rw [hspawned, ← h.complete n hbefore]
    rcases hsettles.counts hu hset hmsg n with he | ⟨hseq, hlost, _⟩
    · exact he
    · rcases hlost with hfl | hp | hw
      · exact absurd (hseq ▸ hf.targeted hbefore.running t u hu hfl) hbefore.untargeted
      · exact absurd hp (hbefore.closures t u hu)
      · exact absurd hw hn.written

theorem BalanceOk.frame {a : Action} (hm : Move s a s') (hr : RepliesOk s) (h : BalanceOk s)
    (hsub : ∀ n, s'.submits n = s.submits n)
    (hlog : ∀ i, s'.log.countP (Event.isReplyOf i) = s.log.countP (Event.isReplyOf i))
    (hrep : ∀ n, s'.replies n = s.replies n)
    (hs : ∀ n, s'.spawned n = s.spawned n) (ho : ∀ n, s'.unanswered n = s.unanswered n)
    (hl : ∀ n, s'.loop.unspawned n = s.loop.unspawned n) : BalanceOk s' where
  read n := by
    rw [hsub, hs, hl]
    exact h.read n
  once i := by
    rw [hlog]
    exact h.once i
  bound n := by
    rw [hrep, ho, hs]
    exact h.bound n
  complete n hn := by
    rw [hrep, ho, hs]
    exact h.complete n (hn.before hm hr)

theorem balanceOk_closure {a : ClosureAction} (hu : s.urbs[t]? = some u)
    (hm : ClosureMove s t u a s') (hr : RepliesOk s) (h : BalanceOk s) : BalanceOk s' := by
  obtain ⟨c, hset⟩ := hm.set
  have hcount : ∀ p : Urb → Bool, p { u with closure := c } = p u →
      s'.urbs.countP p = s.urbs.countP p := by
    intro p hp
    rw [hset]
    exact countP_set_eq hu hp
  refine h.frame (.closure hu hm) hr (fun n => ?_) (fun i => ?_) (fun n => ?_)
    (fun n => hcount _ rfl) (fun n => hcount _ rfl) fun n => by rw [hm.loop_eq]
  all_goals exact countP_log_eq (fun e he => by cases e <;> first | rfl | cases he) hm.log

theorem balanceOk_loop {a : LoopAction} (hm : LoopMove s a s') (hr : RepliesOk s)
    (h : BalanceOk s) : BalanceOk s' := by
  have hmove : Move s (.loop a) s' := .loop hm
  have hspawned : ∀ n, _ := fun n => hm.countP fun u u' (hr : u.Raised u') =>
    show u'.hasSeqnum n = u.hasSeqnum n by rw [Urb.hasSeqnum, hr.msg, Urb.hasSeqnum]
  have hopen : ∀ n, _ := fun n => hm.countP fun u u' (hr : u.Raised u') =>
    show u'.openFor n = u.openFor n from openFor_congr hr.msg hr.undecided_eq
  have honce : ∀ i, s'.log.countP (Event.isReplyOf i) = s.log.countP (Event.isReplyOf i) :=
    fun i => countP_log_eq (fun e he => by cases e <;> first | rfl | cases he) hm.log
  have hrep : ∀ n, s'.replies n = s.replies n :=
    fun n => countP_log_eq (fun e he => by cases e <;> first | rfl | cases he) hm.log
  cases hm with
  | @spawn m hl =>
    have hs' : ∀ n, (s.urbs ++ [({ msg := m } : Urb)]).countP (Urb.hasSeqnum n) =
        s.spawned n + if m.seqnum == n then 1 else 0 := by
      intro n
      rw [List.countP_append, List.countP_singleton]
      rfl
    have ho' : ∀ n, (s.urbs ++ [({ msg := m } : Urb)]).countP (Urb.openFor n) =
        s.unanswered n + if m.seqnum == n then 1 else 0 := by
      intro n
      rw [List.countP_append, List.countP_singleton]
      rfl
    refine ⟨fun n => ?_, h.once, fun n => ?_, fun n hn => ?_⟩
    · have hread := h.read n
      rw [hl] at hread
      unfold State.spawned
      rw [hs']
      exact hread
    · have hb := h.bound n
      unfold State.spawned State.unanswered
      rw [hs', ho', hrep]
      omega
    · have hc := h.complete n (hn.before hmove hr)
      unfold State.spawned State.unanswered
      rw [hs', ho', hrep]
      omega
  | @submit m hl =>
    refine ⟨fun n => ?_, h.once, h.bound, fun n hn => h.complete n (hn.before hmove hr)⟩
    have hread := h.read n
    rw [hl] at hread
    unfold State.submits
    rw [List.countP_cons]
    exact congrArg (· + if m.seqnum == n then 1 else 0) hread
  | panic hl =>
    refine h.frame hmove hr (fun _ => rfl) honce hrep (fun _ => rfl) (fun _ => rfl) fun n => ?_
    rcases hl with ⟨_, _, hl⟩ | ⟨_, hl⟩ | hl <;> rw [hl] <;> rfl
  | drain hl =>
    refine h.frame hmove hr (fun _ => rfl) honce hrep (fun _ => rfl) (fun _ => rfl) fun n => ?_
    rw [hl]
    exact drainNext_eq (LoopPc.unspawned n) (fun _ _ => rfl) _
  | _ hl =>
    have hne : ∀ m, s.loop ≠ .acquiring m := by simp [hl]
    refine h.frame hmove hr (fun _ => rfl) honce hrep (fun n => ?_) (fun n => ?_) fun n => ?_
    · exact (hspawned n).elim (·.1) fun ⟨m, hm, _⟩ => absurd hm (hne m)
    · exact (hopen n).elim (·.1) fun ⟨m, hm, _⟩ => absurd hm (hne m)
    · rw [hl]
      first
      | rfl
      | exact drainNext_eq (LoopPc.unspawned n) (fun _ _ => rfl) _

theorem balanceOk {C : State → Action → Prop} (h : session.ReachableBy C s) : BalanceOk s := by
  refine h.invariant ?_ ?_
  · rintro s ⟨configurations, active, rfl⟩
    exact ⟨fun _ => rfl, fun _ => Nat.zero_le _, fun _ => Nat.le_refl _, fun _ _ => rfl⟩
  · intro s a s' hr hi _ hs
    cases step_move hs with
    | task hu hm => exact balanceOk_task hu hm (flagsOk hr) (repliesOk hr) hi
    | closure hu hm => exact balanceOk_closure hu hm (repliesOk hr) hi
    | loop hm => exact balanceOk_loop hm (repliesOk hr) hi

/-! The same for `CMD_UNLINK`, which the loop answers itself. -/

def LoopPc.closed : LoopPc → Bool
  | .closing | .drainFlag .. | .drainAbort .. | .ended => true
  | _ => false

theorem drained_closed {l : LoopPc} (h : l.drained = true) : l.closed = true := by
  cases l <;> first | rfl | cases h

theorem open_of_between {l : LoopPc} (h : l.between = true) :
    l.closed = false ∧ l ≠ .panicked := by
  cases l with
  | reading => exact ⟨rfl, by simp⟩
  | unlinking => exact ⟨rfl, by simp⟩
  | _ => cases h

def LoopPc.unanswered (r : Unlink) (l : LoopPc) : Nat := if l.handling = some r then 1 else 0

inductive Answering (s s' : State) : Prop
  | keep (hh : s'.loop.handling = s.loop.handling)
      (hl : s'.log = s.log ∨ ∃ e, s'.log = e :: s.log ∧ ∀ r, e ≠ .readUnlink r ∧ e ≠ .retUnlink r)
  | read (r : Unlink) (hh : s.loop.handling = none) (hh' : s'.loop.handling = some r)
      (hl : s'.log = .readUnlink r :: s.log)
  | answer (r : Unlink) (hh : s.loop.handling = some r) (hh' : s'.loop.handling = none)
      (hl : s'.log = .retUnlink r :: s.log)
  | giveUp (hh' : s'.loop.handling = none)
      (hl : (s'.log = s.log ∧ s'.loop = .panicked) ∨
        (s'.log = .writeFailed :: s.log ∧ s'.loop.closed = true))

theorem LoopMove.answering {a : LoopAction} (hm : LoopMove s a s') : Answering s s' := by
  cases hm with
  | submit hl => exact .keep (by rw [hl]; rfl) (.inr ⟨_, rfl, by simp⟩)
  | unlink hl => exact .read _ (by rw [hl]; rfl) rfl rfl
  | panic => exact .giveUp rfl (.inl ⟨rfl, rfl⟩)
  | epPoisoned => exact .giveUp rfl (.inl ⟨rfl, rfl⟩)
  | abort hl => exact .keep (by rw [hl]; rfl) (.inr ⟨_, rfl, by simp⟩)
  | finishWrite hl => exact .answer _ (by rw [hl]; rfl) rfl rfl
  | failWrite => exact .giveUp rfl (.inr ⟨rfl, rfl⟩)
  | drain hl | drainAbort hl =>
    exact .keep (by rw [hl, drainNext_eq LoopPc.handling fun _ _ => rfl]; rfl) (.inl rfl)
  | _ hl => exact .keep (by rw [hl]; rfl) (.inl rfl)

theorem LoopMove.closed_before {a : LoopAction} (hm : LoopMove s a s')
    (h : s'.loop.closed = false) (hp : s'.loop ≠ .panicked) : s.loop.closed = false := by
  cases hm with
  | panic | epPoisoned => exact absurd rfl hp
  | drain | drainAbort => rw [drainNext_eq LoopPc.closed fun _ _ => rfl] at h; cases h
  | hangUp | failWrite | drainFlag => cases h
  | _ hl => rw [hl]; rfl

structure UnlinksOk (s : State) : Prop where
  bound : ∀ r, s.log.count (.retUnlink r) + s.loop.unanswered r ≤ s.log.count (.readUnlink r)
  exact : s.loop ≠ .panicked → (.writeFailed ∉ s.log ∨ s.loop.closed = false) →
    ∀ r, s.log.count (.readUnlink r) = s.log.count (.retUnlink r) + s.loop.unanswered r

theorem UnlinksOk.frame {a : Action} {p : Event → Bool} (hm : Move s a s') (h : UnlinksOk s)
    (hl : s'.loop = s.loop) (hlog : s'.log = s.log ∨ ∃ e, s'.log = e :: s.log ∧ p e = true)
    (hp : ∀ e, p e = true → ∀ r, (e == .readUnlink r) = false ∧ (e == .retUnlink r) = false) :
    UnlinksOk s' := by
  have hread : ∀ r, s'.log.count (.readUnlink r) = s.log.count (.readUnlink r) :=
    fun r => countP_log_eq (fun e he => (hp e he r).1) hlog
  have hret : ∀ r, s'.log.count (.retUnlink r) = s.log.count (.retUnlink r) :=
    fun r => countP_log_eq (fun e he => (hp e he r).2) hlog
  constructor
  · intro r
    rw [hread, hret, hl]
    exact h.bound r
  · intro hpan hopen r
    rw [hread, hret, hl]
    rw [hl] at hpan hopen
    exact h.exact hpan (hopen.imp (fun hw he => hw (hm.log_mono he)) id) r

theorem unanswered_eq_zero {l : LoopPc} (h : l.handling = none) (r : Unlink) :
    l.unanswered r = 0 := by
  rw [LoopPc.unanswered, h]
  rfl

theorem Answering.counts (h : Answering s s') (r : Unlink) :
    (∃ k, s'.log.count (.readUnlink r) = s.log.count (.readUnlink r) + k ∧
      s'.log.count (.retUnlink r) + s'.loop.unanswered r =
        s.log.count (.retUnlink r) + s.loop.unanswered r + k) ∨
    (s'.log.count (.readUnlink r) = s.log.count (.readUnlink r) ∧
      s'.log.count (.retUnlink r) = s.log.count (.retUnlink r) ∧ s'.loop.unanswered r = 0 ∧
      (s'.loop = .panicked ∨ (.writeFailed ∈ s'.log ∧ s'.loop.closed = true))) := by
  cases h with
  | keep hh hl =>
    have hun : s'.loop.unanswered r = s.loop.unanswered r := by
      rw [LoopPc.unanswered, hh, LoopPc.unanswered]
    refine .inl ⟨0, ?_⟩
    rcases hl with hl | ⟨e, hl, he⟩
    · rw [hl, hun]
      exact ⟨rfl, rfl⟩
    · rw [hl, hun, List.count_cons_of_ne (he r).1, List.count_cons_of_ne (he r).2]
      exact ⟨rfl, rfl⟩
  | read r' hh hh' hl =>
    refine .inl ⟨s'.loop.unanswered r, ?_, ?_⟩
    · rw [hl, List.count_cons, LoopPc.unanswered, hh']
      simp
    · rw [hl, List.count_cons_of_ne (by simp), unanswered_eq_zero hh]
      rfl
  | answer r' hh hh' hl =>
    refine .inl ⟨0, ?_, ?_⟩
    · rw [hl, List.count_cons_of_ne (by simp)]
      rfl
    · rw [hl, List.count_cons, unanswered_eq_zero hh', LoopPc.unanswered, hh]
      simp
  | giveUp hh' hl =>
    refine .inr ?_
    rcases hl with ⟨hl, hpan⟩ | ⟨hl, hc⟩
    · rw [hl]
      exact ⟨rfl, rfl, unanswered_eq_zero hh' r, .inl hpan⟩
    · rw [hl, List.count_cons_of_ne (by simp), List.count_cons_of_ne (by simp)]
      exact ⟨rfl, rfl, unanswered_eq_zero hh' r, .inr ⟨List.mem_cons_self .., hc⟩⟩

theorem unlinksOk_loop {a : LoopAction} (hm : LoopMove s a s') (h : UnlinksOk s) :
    UnlinksOk s' := by
  constructor
  · intro r
    have hbound := h.bound r
    rcases hm.answering.counts r with ⟨k, hread, hret⟩ | ⟨hread, hret, hun, _⟩ <;> omega
  · intro hp hopen r
    rcases hm.answering.counts r with ⟨k, hread, hret⟩ | ⟨_, _, _, hpan | ⟨hw, hc⟩⟩
    · have hexact := h.exact hm.not_panicked (hopen.imp
        (fun hw he => hw ((Move.loop hm).log_mono he)) fun hc => hm.closed_before hc hp) r
      omega
    · exact absurd hpan hp
    · rw [hc] at hopen
      simp [hw] at hopen

theorem unlinksOk {C : State → Action → Prop} (h : session.ReachableBy C s) : UnlinksOk s := by
  refine h.invariant ?_ ?_
  · rintro s ⟨configurations, active, rfl⟩
    exact ⟨fun _ => Nat.le_refl _, fun _ _ _ => rfl⟩
  · intro s a s' _ hi _ hs
    cases step_move hs with
    | task hu hm =>
      exact hi.frame (.task hu hm) hm.loop_eq hm.log fun e he r => by
        cases e <;> first | exact ⟨rfl, rfl⟩ | cases he
    | closure hu hm =>
      exact hi.frame (.closure hu hm) hm.loop_eq hm.log fun e he r => by
        cases e <;> first | exact ⟨rfl, rfl⟩ | cases he
    | loop hm => exact unlinksOk_loop hm hi

theorem undecided_of_not_live (h : u.live = false) : u.undecided = false := by
  unfold Urb.live at h
  unfold Urb.undecided
  cases ht : u.task <;> simp_all

end Usbip.Session
