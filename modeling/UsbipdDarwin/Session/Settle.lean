import UsbipdDarwin.Lts.Ranking
import UsbipdDarwin.Session.Locks
import UsbipdDarwin.Session.Permits
import UsbipdDarwin.Session.Wire

/-! A session comes to rest. When the client sends nothing more and takes what it is
sent, only so many steps are left to make, whatever their order and whatever fails on
the way; and as long as something is left to do, somebody can do it. -/

namespace Usbip.Session
open Proto Host Lts

variable {s s' : State} {t : Nat} {u u' : Urb}

def ClosurePc.over : ClosurePc → Bool
  | .returned _ | .panicked => true
  | _ => false

def Urb.ready (s : State) (u : Urb) : Bool :=
  match u.task with
  | .spawned | .joined _ | .writing .. => true
  | .awaiting => u.closure.over
  | .replying _ => s.writer == .free
  | .finished => s.inflightLock != .held ()
  | .returned | .dropped | .panicked => false

/-- No more input comes, and a task is polled when what it awaits is there and put aside
when it is not. The socket counts as there: the client takes the replies, or writing fails. -/
def State.prompt (s : State) : Action → Bool
  | .task t .poll => s.urbs[t]?.any (·.ready s)
  | .task t .suspend => s.urbs[t]?.any fun u => !u.ready s
  | .loop (.recv _) | .loop .hangUp => false
  | _ => true

def Action.silent : Action → Bool
  | .loop (.recv _) | .loop .hangUp => false
  | _ => true

def Action.works : Action → Bool
  | .task _ .poll | .task _ .suspend => false
  | _ => true

theorem silent_of_prompt {a : Action} (h : s.prompt a = true) : a.silent = true := by
  unfold State.prompt at h
  split at h
  · rfl
  · rfl
  · cases h
  · cases h
  · unfold Action.silent
    split <;> simp_all

def Action.fails : Action → Bool
  | .closure _ .panic | .task _ .failWrite | .loop .failWrite => true
  | _ => false

def LoopPc.idle : LoopPc → Bool
  | .reading | .ended | .panicked => true
  | _ => false

/-- Nothing is under way: every task and every closure is over, every permit is back and
no mutex is held. -/
structure AtRest (s : State) : Prop where
  loop : s.loop.idle = true
  urbs : ∀ (t : Nat) (u : Urb), s.urbs[t]? = some u → u.live = false ∧ u.outstanding = false
  permits : s.permits = maxInflightUrbs
  writer : s.writer = .free
  inflightLock : s.inflightLock ≠ .held ()
  epLock : ∀ e o, s.device.epLock e ≠ .held o

theorem step_of_idle {a : LoopAction} (h : s.loop.idle = true)
    (ha : (Action.loop a).silent = true) : session.step s (.loop a) = none := by
  change loopStep s a = none
  cases a with
  | recv | hangUp => cases ha
  | go => cases hl : s.loop <;> simp_all [loopStep, loopGo, LoopPc.idle]
  | write | failWrite | drain => cases hl : s.loop <;> simp_all [loopStep, LoopPc.idle]

section Left

def ClosurePc.left : ClosurePc → Nat
  | .queued => 16
  | .running pc => pc.left
  | .idle | .returned _ | .panicked => 0

/-- How many steps the task is from its end, at most; a reply is no longer than its
header and the buffer of the client. -/
def Urb.taskLeft (u : Urb) : Nat :=
  match u.task with
  | .spawned => u.msg.tbl + 70
  | .awaiting => u.msg.tbl + 53
  | .joined _ => u.msg.tbl + 52
  | .replying frame => frame.length + 3
  | .writing frame sent => frame.length - sent + 2
  | .finished => 1
  | .returned | .dropped | .panicked => 0

def Urb.left (u : Urb) : Nat := u.closure.left + u.taskLeft

/-- How many steps the loop is from rest, at most, with `n` entries in the table: the
drain makes two for each. -/
def LoopPc.left (n : Nat) : LoopPc → Nat
  | .reading | .ended | .panicked => 0
  | .inserting .. => 1
  | .acquiring m => m.tbl + 72
  | .drainAbort _ rest => 2 * rest.length + 1
  | .drainFlag _ rest => 2 * rest.length + 2
  | .closing => 2 * n + 1
  | .writing r sent => 2 * n + 2 + ((retUnlinkFrame r).length - sent)
  | .replying _ => 2 * n + 51
  | .unlocking _ => 2 * n + 52
  | .aborting .. => 2 * n + 53
  | .cancelAll .. => 2 * n + 54
  | .epWait .. => 2 * n + 55
  | .cancelling .. => 2 * n + 56
  | .flagging .. => 2 * n + 57
  | .unlinking _ => 2 * n + 58

def State.left (s : State) : Nat :=
  (s.urbs.map Urb.left).sum + s.loop.left s.inflight.entries.length

theorem length_retSubmitFrame_le (m : Submit) (r : Outcome) :
    (retSubmitFrame m r).length ≤ m.tbl + 48 := by
  have hpayload : (replyParts m r).2.2.length ≤ m.tbl := by
    unfold replyParts
    split
    · split_ifs with hin hover
      · exact Nat.zero_le _
      · exact Nat.le_of_not_lt hover
      · exact Nat.zero_le _
    · exact Nat.zero_le _
  have hframe : (retSubmitFrame m r).length = 48 + (replyParts m r).2.2.length :=
    length_writeRetSubmit _ _ _
  omega

theorem length_retUnlinkFrame (r : Unlink) : (retUnlinkFrame r).length = 48 :=
  length_writeRetUnlink _ _

theorem length_erase_le (m : HashMap UInt32 Inflight) (n : UInt32) :
    (m.erase n).entries.length ≤ m.entries.length := List.length_eraseP_le

theorem left_drainNext (n : Nat) (is : List Inflight) : (drainNext is).left n ≤ 2 * is.length := by
  cases is with
  | nil => exact Nat.zero_le _
  | cons i rest =>
    change 2 * rest.length + 2 ≤ 2 * (rest.length + 1)
    omega

theorem LoopPc.left_mono {m n : Nat} (h : m ≤ n) (l : LoopPc) : l.left m ≤ l.left n := by
  cases l <;> simp only [LoopPc.left] <;> omega

theorem Urb.Raised.left_eq (hr : u.Raised u') : u'.left = u.left := by
  have htask : u'.taskLeft = u.taskLeft := by
    unfold Urb.taskLeft
    rw [hr.task, hr.msg]
  rcases hr.closure with hc | ⟨e, b, hc, hc'⟩
  · rw [Urb.left, Urb.left, hc, htask]
  · rw [Urb.left, Urb.left, hc, hc', htask]
    rfl

theorem taskLeft_of {pc : TaskPc} (h : u.task = pc) :
    u.left = u.closure.left + ({ u with task := pc } : Urb).taskLeft := by
  subst h
  rfl

theorem taskLeft_pos (h : u.task.awaits = true) : 0 < u.taskLeft := by
  unfold Urb.taskLeft
  cases ht : u.task <;> simp_all [TaskPc.awaits]

theorem TaskMove.urb_left {a : TaskAction} (hm : TaskMove s t u a s') (hp : a ≠ .poll)
    (hs : a ≠ .suspend) (htended : u.Tended) :
    ∃ u', s'.urbs = s.urbs.set t u' ∧ u'.left < u.left := by
  have hatt := htended.attended
  unfold Urb.Attended at hatt
  cases hm with
  | poll => exact absurd rfl hp
  | suspend => exact absurd rfl hs
  | handOff _ ht =>
    rw [ht] at hatt
    refine ⟨_, rfl, ?_⟩
    rw [taskLeft_of ht, hatt]
    simp only [Urb.left, Urb.taskLeft, ClosurePc.left]
    omega
  | @build r _ ht =>
    have hlen := length_retSubmitFrame_le u.msg r
    refine ⟨_, rfl, ?_⟩
    rw [taskLeft_of ht]
    simp only [Urb.left, Urb.taskLeft]
    omega
  | @write frame sent n _ ht hn hl =>
    refine ⟨_, rfl, ?_⟩
    rw [taskLeft_of ht]
    simp only [Urb.left, Urb.taskLeft]
    omega
  | drop _ _ hw =>
    refine ⟨_, rfl, ?_⟩
    have hpos := taskLeft_pos hw
    simp only [Urb.left, Urb.taskLeft] at hpos ⊢
    omega
  | dropWriting _ _ ht =>
    refine ⟨_, rfl, ?_⟩
    rw [taskLeft_of ht]
    simp only [Urb.left, Urb.taskLeft]
    omega
  | _ _ ht =>
    refine ⟨_, rfl, ?_⟩
    rw [taskLeft_of ht]
    simp only [Urb.left, Urb.taskLeft]
    omega

theorem ClosureMove.urb_left {a : ClosureAction} (hm : ClosureMove s t u a s')
    (hpanic : a = .panic → ∀ pc, u.closure = .running pc → pc.returned = false) :
    ∃ u', s'.urbs = s.urbs.set t u' ∧ u'.left < u.left := by
  have hleft : ∀ {c c' : ClosurePc}, u.closure = c → c'.left < c.left →
      ({ u with closure := c' } : Urb).left < u.left := by
    rintro c c' rfl hlt
    exact Nat.add_lt_add_right hlt _
  cases hm with
  | start hc => exact ⟨_, rfl, hleft hc (Nat.lt_succ_of_le (CallPc.left_le _))⟩
  | call hc hr => exact ⟨_, rfl, hleft hc (callStep_left hr)⟩
  | panic hc => exact ⟨_, rfl, hleft hc (CallPc.one_lt_left (hpanic rfl _ hc))⟩
  | finish hc => exact ⟨_, rfl, hleft hc (by simp [ClosurePc.left, CallPc.left])⟩
  | finishPanic hc => exact ⟨_, rfl, hleft hc (by simp [ClosurePc.left, CallPc.left])⟩

theorem running_of_panic {pc : CallPc} (h : closureStep s t u .panic = some s')
    (hc : u.closure = .running pc) : pc.returned = false := by
  simp only [closureStep, hc] at h
  cases pc with
  | done | panicked => cases h
  | _ => rfl

theorem sum_urbs_loop {a : LoopAction} (hm : LoopMove s a s') :
    (s'.urbs.map Urb.left).sum = (s.urbs.map Urb.left).sum ∨
      ∃ m, s.loop = .acquiring m ∧ s'.loop.left s'.inflight.entries.length = 1 ∧
        (s'.urbs.map Urb.left).sum = (s.urbs.map Urb.left).sum + (m.tbl + 70) := by
  cases hm with
  | @spawn m hl =>
    refine .inr ⟨m, hl, rfl, ?_⟩
    simp [Urb.left, Urb.taskLeft, ClosurePc.left]
  | flag | drainFlag => exact .inl (sum_map_modify fun u => u.raised_cancelled.left_eq)
  | abort | drainAbort => exact .inl (sum_map_modify fun u => u.raised_aborted.left_eq)
  | cancelAll =>
    refine .inl ?_
    rw [List.map_map]
    exact congrArg List.sum (List.map_congr_left fun u _ => (u.raised_hit _).left_eq)
  | _ => exact .inl rfl

theorem LoopMove.left {a : LoopAction} (hm : LoopMove s a s')
    (ha : (Action.loop a).silent = true) : s'.left < s.left := by
  have hsum := sum_urbs_loop hm
  have hother : (∀ m, s.loop ≠ .acquiring m) → s'.loop.left s'.inflight.entries.length <
      s.loop.left s.inflight.entries.length → s'.left < s.left := by
    intro hne hlt
    rcases hsum with hsum | ⟨m, hm, -⟩
    · unfold State.left
      omega
    · exact absurd hm (hne m)
  have hof : ∀ {l : LoopPc}, s.loop = l → s.loop.left s.inflight.entries.length =
      l.left s.inflight.entries.length := fun hl => by rw [hl]
  cases hm with
  | submit | unlink | hangUp => cases ha
  | @spawn m hl =>
    rcases hsum with hsum | ⟨m', hm', hone, hsum⟩
    · simp at hsum
      cases hsum
    · rw [hl] at hm'
      cases hm'
      have hleft := hof hl
      unfold State.left
      rw [hone, hsum, hleft]
      simp only [LoopPc.left]
      omega
  | panic hl =>
    have hpos : 0 < s.loop.left s.inflight.entries.length := by
      rcases hl with ⟨_, _, hl⟩ | ⟨_, hl⟩ | hl <;> rw [hl] <;> simp [LoopPc.left]
    refine hother (fun m hm => ?_) hpos
    rcases hl with ⟨_, _, hl⟩ | ⟨_, hl⟩ | hl <;> rw [hl] at hm <;> cases hm
  | @found r i hl hi hf =>
    have hle := length_erase_le s.inflight r.unlinkSeqnum
    refine hother (by simp [hl]) ?_
    rw [hof hl]
    simp only [LoopPc.left]
    omega
  | lockWriter hl =>
    refine hother (by simp [hl]) ?_
    rw [hof hl]
    simp only [LoopPc.left, length_retUnlinkFrame]
    omega
  | @drain pending hl hi ho =>
    refine hother (by simp [hl]) ?_
    have hle := left_drainNext 0 pending
    rw [ho.length_eq, List.length_map] at hle
    rw [hof hl]
    exact Nat.lt_succ_of_le hle
  | @drainAbort i rest hl =>
    refine hother (by simp [hl]) ?_
    have hle := left_drainNext s.inflight.entries.length rest
    rw [hof hl]
    exact Nat.lt_succ_of_le hle
  | _ hl =>
    refine hother (by simp [hl]) ?_
    rw [hof hl]
    simp only [LoopPc.left]
    omega

theorem left_of_set (hu : s.urbs[t]? = some u) (hs : s'.urbs = s.urbs.set t u')
    (hlt : u'.left < u.left) (hl : s'.loop = s.loop)
    (hn : s'.inflight.entries.length ≤ s.inflight.entries.length) : s'.left < s.left := by
  have hsum := sum_map_set_add Urb.left hu u'
  have hloop := LoopPc.left_mono hn s.loop
  unfold State.left
  rw [hs, hl]
  omega

theorem TaskMove.length_inflight {a : TaskAction} (hm : TaskMove s t u a s') :
    s'.inflight.entries.length ≤ s.inflight.entries.length := by
  cases hm with
  | remove => exact length_erase_le _ _
  | _ => exact le_rfl

theorem left_of_polling (hu : s.urbs[t]? = some u) (p : Bool) :
    (s.setUrb t { u with polling := p }).left = s.left := by
  have hsum := sum_map_set_add Urb.left hu { u with polling := p }
  have hsame : ({ u with polling := p } : Urb).left = u.left := rfl
  change ((s.urbs.set t _).map Urb.left).sum + s.loop.left s.inflight.entries.length = s.left
  rw [hsame] at hsum
  unfold State.left
  omega

theorem left_decreases {a : Action} (h : LocksOk s) (ha : a.silent = true)
    (hw : a.works = true) (hs : session.step s a = some s') : s'.left < s.left := by
  cases step_move hs with
  | @task t u a _ hu hm =>
    have hp : a ≠ .poll := by
      rintro rfl
      cases hw
    have hsus : a ≠ .suspend := by
      rintro rfl
      cases hw
    obtain ⟨u', hset, hlt⟩ := hm.urb_left hp hsus (h.urbs t u hu)
    exact left_of_set hu hset hlt hm.loop_eq hm.length_inflight
  | @closure t u a _ hu hm =>
    have hpanic : a = .panic → ∀ pc, u.closure = .running pc → pc.returned = false := by
      rintro rfl pc hc
      obtain ⟨v, hv, hstep⟩ := Option.bind_eq_some_iff.mp hs
      rw [hu] at hv
      cases hv
      exact running_of_panic hstep hc
    obtain ⟨u', hset, hlt⟩ := hm.urb_left hpanic
    obtain ⟨hloop, hinflight, -⟩ := hm.frame
    exact left_of_set hu hset hlt hloop (by rw [hinflight])
  | loop hm => exact hm.left ha

theorem left_of_idling {a : Action} (hw : a.works = false) (hs : session.step s a = some s') :
    s'.left = s.left := by
  cases step_move hs with
  | task hu hm =>
    cases hm with
    | poll | suspend => exact left_of_polling hu _
    | _ => cases hw
  | closure => cases hw
  | loop => cases hw

end Left

section Budget

def State.size (s : State) : Nat :=
  s.urbs.length + match s.loop with
    | .acquiring _ => 1
    | _ => 0

def State.astray (s : State) : Nat := s.urbs.countP fun u => u.polling != u.ready s

/-- Between two steps of the work each task is woken or put aside at most once. -/
def State.budget (s : State) : Nat := s.left * (s.size + 1) + s.astray

theorem astray_le_size (s : State) : s.astray ≤ s.size :=
  List.countP_le_length.trans (Nat.le_add_right _ _)

theorem budget_lt_of_left (hleft : s'.left < s.left) (hsize : s'.size = s.size) :
    s'.budget < s.budget := by
  have hastray := astray_le_size s'
  have hmul : (s'.left + 1) * (s.size + 1) ≤ s.left * (s.size + 1) :=
    Nat.mul_le_mul_right _ hleft
  rw [Nat.add_mul, Nat.one_mul] at hmul
  unfold State.budget
  rw [hsize]
  omega

theorem size_of_set (hs : s'.urbs = s.urbs.set t u') (hl : s'.loop = s.loop) :
    s'.size = s.size := by
  rw [State.size, State.size, hs, hl, List.length_set]

theorem LoopMove.size {a : LoopAction} (hm : LoopMove s a s')
    (ha : (Action.loop a).silent = true) : s'.size = s.size := by
  cases hm with
  | submit | unlink | hangUp => cases ha
  | spawn hl => simp [State.size, hl]
  | panic hl =>
    rcases hl with ⟨_, _, hl⟩ | ⟨_, hl⟩ | hl <;> simp [State.size, hl]
  | drain hl | drainAbort hl =>
    unfold State.size drainNext
    rw [hl]
    split <;> simp
  | _ hl => simp [State.size, hl]

theorem budget_of_polling {p : Bool} (hu : s.urbs[t]? = some u) (hold : u.polling ≠ u.ready s)
    (hnew : p = u.ready s) : (s.setUrb t { u with polling := p }).budget < s.budget := by
  have hsize : (s.setUrb t { u with polling := p }).size = s.size := size_of_set rfl rfl
  have hleft := left_of_polling hu p
  have hcount : (s.urbs.set t { u with polling := p }).countP (fun v => v.polling != v.ready s) +
      _ = _ := countP_set_add hu
  have hready : ({ u with polling := p } : Urb).ready s = u.ready s := rfl
  have hbefore : (u.polling != u.ready s) = true := bne_iff_ne.mpr hold
  have hafter : (p != u.ready s) = false := by rw [hnew, bne_self_eq_false]
  rw [hready, hbefore, if_pos rfl, hafter, if_neg Bool.false_ne_true] at hcount
  have hastray : (s.setUrb t { u with polling := p }).astray + 1 = s.astray := hcount
  unfold State.budget
  rw [hleft, hsize]
  omega

theorem size_of_silent {a : Action} (ha : a.silent = true) (hs : session.step s a = some s') :
    s'.size = s.size := by
  cases step_move hs with
  | task hu hm =>
    obtain ⟨u', hset, -⟩ := hm.set
    exact size_of_set hset hm.loop_eq
  | closure hu hm =>
    obtain ⟨c, hset⟩ := hm.set
    exact size_of_set hset hm.loop_eq
  | loop hm => exact hm.size ha

theorem budget_decreases {a : Action} (h : LocksOk s) (ha : s.prompt a = true)
    (hs : session.step s a = some s') : s'.budget < s.budget := by
  have hsilent := silent_of_prompt ha
  cases hw : a.works with
  | true =>
    exact budget_lt_of_left (left_decreases h hsilent hw hs) (size_of_silent hsilent hs)
  | false =>
    cases step_move hs with
    | @task t u _ _ hu hm =>
      cases hm with
      | poll hp =>
        have hready : u.ready s = true := by simpa [State.prompt, hu] using ha
        exact budget_of_polling hu (by rw [hp, hready]; simp) hready.symm
      | suspend hp =>
        have hready : u.ready s = false := by simpa [State.prompt, hu] using ha
        exact budget_of_polling hu (by rw [hp, hready]; simp) hready.symm
      | _ => cases hw
    | closure => cases hw
    | loop => cases hw

theorem ranked : session.Ranked (fun s a => s.prompt a = true) session.Reachable State.budget where
  keeps := fun h _ hs => .step h trivial hs
  decreases := fun h ha hs => budget_decreases (locksOk h) ha hs

theorem working : session.Working (fun _ a => a.silent = true) Action.works session.Reachable
    State.left where
  keeps := fun h _ hs => .step h trivial hs
  decreases := fun h ha hw hs => left_decreases (locksOk h) ha hw hs
  idles := fun _ _ hw hs => (left_of_idling hw hs).le

end Budget

section Rest

def Quiet (s : State) : Prop :=
  session.Stuck (fun s a => s.prompt a = true ∧ a.fails = false) s

theorem Quiet.task (hq : Quiet s) (hu : s.urbs[t]? = some u) {a : TaskAction}
    (ha : s.prompt (.task t a) = true) (hf : (Action.task t a).fails = false) :
    taskStep s t u a = none := by
  have hnone := hq (.task t a) ⟨ha, hf⟩
  change s.urbs[t]?.bind _ = none at hnone
  rwa [hu] at hnone

theorem Quiet.closure (hq : Quiet s) (hu : s.urbs[t]? = some u) {a : ClosureAction}
    (hf : (Action.closure t a).fails = false) : closureStep s t u a = none := by
  have hnone := hq (.closure t a) ⟨rfl, hf⟩
  change s.urbs[t]?.bind _ = none at hnone
  rwa [hu] at hnone

theorem Quiet.loopGo (hq : Quiet s) : loopGo s = none := hq (.loop .go) ⟨rfl, rfl⟩

theorem Quiet.waits (hq : Quiet s) (h : LocksOk s) (hu : s.urbs[t]? = some u)
    (hout : u.outstanding = true) : ∃ pc, u.closure = .running pc ∧ pc.Waits s.device := by
  cases hc : u.closure with
  | queued =>
    have hstart := hq.closure hu (a := .start) rfl
    simp [closureStep, hc] at hstart
  | running pc =>
    refine ⟨pc, rfl, ?_⟩
    cases hr : pc.returned with
    | true =>
      have hfinish := hq.closure hu (a := .finish) rfl
      cases pc with
      | done | panicked => simp [closureStep, hc] at hfinish
      | _ => cases hr
    | false =>
      have hvisits := (h.urbs t u hu).visits pc hc
      rcases exists_callStep (d := s.device) (t := t) hvisits hr with ⟨a, r, hcall⟩ | hwaits
      · have hstep := hq.closure hu (a := .call a) rfl
        simp [closureStep, hc, hcall] at hstep
      · exact hwaits
  | idle | returned | panicked => simp [Urb.outstanding, hc] at hout

theorem Quiet.epLock (hq : Quiet s) (h : LocksOk s) (e : Nat) (o : Owner) :
    s.device.epLock e ≠ .held o := by
  intro ho
  have hholds := h.ep o e ho
  cases o with
  | call t =>
    obtain ⟨u, hu, hheld⟩ := hholds
    have hrun : ∃ pc, u.closure = .running pc ∧ pc.held = some e := by
      unfold Urb.heldEp at hheld
      split at hheld
      · exact ⟨_, ‹_›, hheld⟩
      · cases hheld
    obtain ⟨pc, hc, hpc⟩ := hrun
    obtain ⟨pc', hc', e', o', rfl, -⟩ := hq.waits h hu (by simp [Urb.outstanding, hc])
    rw [hc] at hc'
    cases hc'
    cases hpc
  | canceller =>
    change s.loop.heldEp = some e at hholds
    have hgo := hq.loopGo
    cases hl : s.loop with
    | cancelAll => simp [Session.loopGo, hl] at hgo
    | _ => simp [hl, LoopPc.heldEp] at hholds

theorem Quiet.outstanding (hq : Quiet s) (h : LocksOk s) (hu : s.urbs[t]? = some u) :
    u.outstanding = false := by
  by_contra hout
  obtain ⟨pc, -, e, o, -, ho⟩ := hq.waits h hu (Bool.eq_true_of_not_eq_false hout)
  exact hq.epLock h e o ho

theorem Quiet.not_cancelling (hq : Quiet s) (r : Unlink) (i : Inflight) :
    s.loop ≠ .cancelling r i := by
  intro hl
  have hgo := hq.loopGo
  simp only [Session.loopGo, hl] at hgo
  split_ifs at hgo
  split at hgo <;> cases hgo

theorem Quiet.not_epWait (hq : Quiet s) (h : LocksOk s) (r : Unlink) (i : Inflight) (e : Nat) :
    s.loop ≠ .epWait r i e := by
  intro hl
  have hgo := hq.loopGo
  cases he : s.device.epLock e with
  | held o => exact hq.epLock h e o he
  | free | poisoned => simp [Session.loopGo, hl, he] at hgo

theorem Quiet.not_writing (hq : Quiet s) (h : LocksOk s) (r : Unlink) (n : Nat) :
    s.loop ≠ .writing r n := by
  intro hl
  rcases Nat.lt_or_eq_of_le (h.sent r n hl) with hlt | heq
  · have hwrite : session.step s (.loop (.write 1)) = none := hq _ ⟨rfl, rfl⟩
    simp [session, step, loopStep, hl, Nat.succ_le_of_lt hlt] at hwrite
  · have hgo := hq.loopGo
    simp [Session.loopGo, hl, heq] at hgo

theorem Quiet.inflightLock (hq : Quiet s) (h : LocksOk s) : s.inflightLock ≠ .held () := by
  intro ho
  have hlocks := h.inflight () ho
  have hgo := hq.loopGo
  unfold Session.loopGo at hgo
  cases hl : s.loop with
  | flagging | cancelAll | aborting | unlocking => simp [hl] at hgo
  | cancelling r i => exact hq.not_cancelling r i hl
  | epWait r i e => exact hq.not_epWait h r i e hl
  | _ => simp [hl, LoopPc.locksInflight] at hlocks

theorem Quiet.ready (hq : Quiet s) (h : LocksOk s) (hu : s.urbs[t]? = some u) :
    u.ready s = false := by
  have hatt := (h.urbs t u hu).attended
  unfold Urb.Attended at hatt
  by_contra hready
  rw [Bool.not_eq_false] at hready
  have hpoll := hq.task hu (a := .poll) (by simp [State.prompt, hu, hready]) rfl
  have hdrop := hq.task hu (a := .drop) rfl rfl
  have hpolled : u.task.awaits = true → u.polling = true := by
    intro hw
    by_contra hp
    rw [Bool.not_eq_true] at hp
    cases ha : u.aborted with
    | false => simp [taskStep, hp, ha, hw] at hpoll
    | true =>
      simp only [taskStep, hp, ha, hw, Bool.not_false, Bool.and_true, if_true] at hdrop
      split at hdrop <;> cases hdrop
  have htask : ∀ {a : TaskAction}, a ≠ .poll → a ≠ .suspend → a ≠ .failWrite →
      taskStep s t u a = none := by
    intro a hp hsus hf
    refine hq.task hu ?_ ?_
    · cases a <;> first | rfl | contradiction
    · cases a <;> first | rfl | contradiction
  cases ht : u.task with
  | spawned =>
    have hstep := htask (a := .handOff) (by simp) (by simp) (by simp)
    simp [taskStep, hpolled (by rw [ht]; rfl), ht] at hstep
  | awaiting =>
    have hstep := htask (a := .join) (by simp) (by simp) (by simp)
    have hover : u.closure.over = true := by simpa [Urb.ready, ht] using hready
    cases hc : u.closure with
    | returned | panicked => simp [taskStep, hpolled (by rw [ht]; rfl), ht, hc] at hstep
    | _ => simp [ClosurePc.over, hc] at hover
  | joined r =>
    have hstep := htask (a := .check) (by simp) (by simp) (by simp)
    rw [ht] at hatt
    simp only [taskStep, hatt, ht] at hstep
    split_ifs at hstep
  | replying frame =>
    have hstep := htask (a := .lockWriter) (by simp) (by simp) (by simp)
    have hfree : s.writer = .free := by simpa [Urb.ready, ht] using hready
    simp [taskStep, hpolled (by rw [ht]; rfl), ht, hfree] at hstep
  | writing frame sent =>
    rw [ht] at hatt
    rcases Nat.lt_or_eq_of_le hatt.1 with hlt | heq
    · have hstep := htask (a := .write 1) (by simp) (by simp) (by simp)
      have hp := hpolled (by rw [ht]; exact decide_eq_true hlt)
      simp [taskStep, hp, ht, Nat.succ_le_of_lt hlt] at hstep
    · have hstep := htask (a := .finishWrite) (by simp) (by simp) (by simp)
      simp [taskStep, hatt.2 heq, ht, heq] at hstep
  | finished =>
    have hstep := htask (a := .remove) (by simp) (by simp) (by simp)
    rw [ht] at hatt
    have hlock : s.inflightLock ≠ .held () := by simpa [Urb.ready, ht] using hready
    cases hi : s.inflightLock with
    | held o => exact hlock hi
    | free | poisoned => simp [taskStep, hatt, ht, hi] at hstep
  | _ => simp [Urb.ready, ht] at hready

theorem Quiet.writer (hq : Quiet s) (h : LocksOk s) (hex : s.channel.Exclusive) :
    s.writer = .free := by
  cases hw : s.writer with
  | free => rfl
  | poisoned => exact absurd hw h.writer
  | held o =>
    obtain ⟨f, n, hwriting⟩ := (hex o).mpr hw
    cases o with
    | loop =>
      obtain ⟨r, hl, -⟩ := writing_of_writes hwriting
      exact absurd hl (hq.not_writing h r n)
    | urb t =>
      obtain ⟨u, hu, hurb⟩ := Option.bind_eq_some_iff.mp hwriting
      have hready := hq.ready h hu
      unfold Urb.writing at hurb
      split at hurb
      · simp [Urb.ready, ‹u.task = _›] at hready
      · cases hurb

theorem Quiet.live (hq : Quiet s) (h : LocksOk s) (hex : s.channel.Exclusive)
    (hu : s.urbs[t]? = some u) : u.live = false := by
  have hready := hq.ready h hu
  have hout := hq.outstanding h hu
  have hatt := (h.urbs t u hu).attended
  unfold Urb.ready at hready
  unfold Urb.Attended at hatt
  unfold Urb.live
  cases ht : u.task with
  | awaiting =>
    rw [ht] at hready hatt
    cases hc : u.closure <;> simp_all [ClosurePc.over, Urb.outstanding]
  | replying => simp [ht, hq.writer h hex] at hready
  | finished => simp [ht, hq.inflightLock h] at hready
  | spawned | joined | writing => simp [ht] at hready
  | _ => rfl

theorem Quiet.loop_idle (hq : Quiet s) (h : LocksOk s) (hw : s.writer = .free)
    (hp : 0 < s.permits) : s.loop.idle = true := by
  have hgo := hq.loopGo
  have hlock := hq.inflightLock h
  unfold Session.loopGo at hgo
  cases hl : s.loop with
  | reading | ended | panicked => rfl
  | acquiring => simp [hl, hp] at hgo
  | inserting | unlinking =>
    rw [hl] at hgo
    cases hi : s.inflightLock with
    | held o => exact absurd hi hlock
    | free | poisoned =>
      simp only [hi] at hgo
      first | cases hgo | (split at hgo <;> cases hgo)
  | closing =>
    rw [hl] at hgo
    cases hi : s.inflightLock with
    | held o => exact absurd hi hlock
    | poisoned => simp [hi] at hgo
    | free =>
      -- whatever order the map has its entries in is one in which they can be drained
      have hdrain := hq (.loop (.drain (s.inflight.entries.map (·.2)))) ⟨rfl, rfl⟩
      change loopStep s (.drain _) = none at hdrain
      simp [loopStep, hl, hi] at hdrain
  | replying => simp [hl, hw] at hgo
  | writing r n => exact absurd hl (hq.not_writing h r n)
  | cancelling r i => exact absurd hl (hq.not_cancelling r i)
  | epWait r i e => exact absurd hl (hq.not_epWait h r i e)
  | _ => simp [hl] at hgo

theorem Quiet.atRest (hq : Quiet s) (hr : session.Reachable s) : AtRest s := by
  have h := locksOk hr
  have hex := exclusive hr
  have hlive : s.live = 0 := by
    refine List.countP_eq_zero.mpr fun u hmem => ?_
    obtain ⟨t, hu⟩ := List.mem_iff_getElem?.mp hmem
    simp [hq.live h hex hu]
  have hpermits : s.permits = maxInflightUrbs := by
    have hsum := permitsOk hr
    unfold PermitsOk at hsum
    omega
  have hw := hq.writer h hex
  refine ⟨hq.loop_idle h hw ?_, fun t u hu => ⟨hq.live h hex hu, hq.outstanding h hu⟩, hpermits,
    hw, hq.inflightLock h, hq.epLock h⟩
  rw [hpermits]
  decide

end Rest

/-- A session whose client is silent settles. However its steps are interleaved and whatever
fails, no more than so much work is done; where it cannot go on it is at rest. With tasks
polled only when they can get on its whole run is bounded, and it need not come to a failure
for that. -/
theorem session_settles (h : session.Reachable s) :
    (∀ as s', session.replay (fun _ a => a.silent = true) s as = some s' →
      as.countP Action.works ≤ s.left ∧
        ((∀ a, s'.prompt a = true → a.fails = false → session.step s' a = none) → AtRest s')) ∧
    (∀ as s', session.replay (fun s a => s.prompt a = true) s as = some s' →
      as.length ≤ s.budget) ∧
    ∃ as s', session.replay (fun s a => s.prompt a = true ∧ a.fails = false) s as = some s' ∧
      AtRest s' := by
  have hrest : ∀ s, session.Reachable s → Quiet s → AtRest s := fun _ hr hq => hq.atRest hr
  obtain ⟨hwork, hbound, hend⟩ := working.settles ranked (fun _ _ ha => ha.1) hrest h
  refine ⟨fun as s' hrun => ?_, hbound, hend⟩
  obtain ⟨hcount, hquiet⟩ := hwork as s' hrun
  exact ⟨hcount, fun hstuck => hquiet fun a ha => hstuck a ha.1 ha.2⟩

theorem session_settles_spawned : ∃ s, session.Reachable s ∧ s.permits = 255 ∧
    ∃ as s', session.replay (fun s a => s.prompt a = true ∧ a.fails = false) s as = some s' ∧
      AtRest s' := by
  have hrun : (session.run (.initial Sample.device) (Sample.accept (Sample.submit 7 0))).map
      State.permits = some 255 := by
    rfl
  obtain ⟨s, hs, hp⟩ := System.exists_reachable_of_run Sample.init_device hrun
  exact ⟨s, hs, hp, (session_settles hs).2.2⟩

end Usbip.Session
