import UsbipdDarwin.Session.Permits
import UsbipdDarwin.Lts.Framing

/-! The bytes on the socket. The loop and the tasks share the write half as a
`Channel`, so the stream is framed for as long as no task is dropped with a
frame half out. -/

namespace Usbip.Session
open Proto Host Lts

variable {s s' : State} {t : Nat} {u u' : Urb}

def Urb.writing (u : Urb) : Option (Bytes × Nat) :=
  match u.task with
  | .writing frame sent => some (frame, sent)
  | _ => none

def LoopPc.writes : LoopPc → Option (Bytes × Nat)
  | .writing r sent => some (retUnlinkFrame r, sent)
  | _ => none

def State.channel (s : State) : Channel Writer UInt8 where
  writer := s.writer
  wire := s.wire
  writing
    | .loop => s.loop.writes
    | .urb t => s.urbs[t]?.bind Urb.writing

theorem channel_urb (hu : s.urbs[t]? = some u) : s.channel.writing (.urb t) = u.writing := by
  simp only [State.channel, hu, Option.bind_some]

theorem writing_of_task {frame : Bytes} {sent : Nat} (h : u.task = .writing frame sent) :
    u.writing = some (frame, sent) := by
  rw [Urb.writing, h]

theorem not_writing_of_task (h : ∀ frame sent, u.task ≠ .writing frame sent) :
    u.writing = none := by
  unfold Urb.writing
  split
  · exact absurd ‹_› (h _ _)
  · rfl

theorem TaskMove.channel {a : TaskAction} (hm : TaskMove s t u a s') (hu : s.urbs[t]? = some u) :
    s.channel.Move s'.channel (.urb t) := by
  have hold : s.channel.writing (.urb t) = u.writing := channel_urb hu
  have hnew : ∀ u', s'.urbs = s.urbs.set t u' → s'.channel.writing (.urb t) = u'.writing := by
    intro u' hs
    refine channel_urb ?_
    rw [hs]
    exact List.getElem?_set_self (lt_length_of_getElem? hu)
  have hidle : ∀ u', s'.urbs = s.urbs.set t u' → s'.writer = s.writer → s'.wire = s.wire →
      u'.writing = u.writing → s.channel.Move s'.channel (.urb t) :=
    fun u' hs hw hb he => .keep hw hb (by rw [hnew u' hs, he, hold])
  cases hm with
  | poll | suspend => exact hidle _ rfl rfl rfl rfl
  | lockWriter _ ht hw => exact .lock _ hw rfl rfl (hnew _ rfl)
  | write _ ht => exact .send _ _ _ rfl (hold.trans (writing_of_task ht)) rfl (hnew _ rfl)
  | finishWrite _ ht => exact .finish _ rfl (hold.trans (writing_of_task ht)) rfl (hnew _ rfl)
  | failWrite _ ht hl =>
    exact .tear _ _ rfl (hold.trans (writing_of_task ht)) hl rfl (hnew _ rfl)
  | dropWriting _ _ ht hl =>
    exact .tear _ _ rfl (hold.trans (writing_of_task ht)) hl rfl (hnew _ rfl)
  | drop _ _ _ ht => exact hidle _ rfl rfl rfl (not_writing_of_task ht).symm
  | _ _ ht => exact hidle _ rfl rfl rfl (by rw [Urb.writing, Urb.writing, ht])

theorem LoopMove.channel {a : LoopAction} (hm : LoopMove s a s') :
    s.channel.Move s'.channel .loop := by
  have hidle : s'.writer = s.writer → s'.wire = s.wire → s'.loop.writes = s.loop.writes →
      s.channel.Move s'.channel .loop := fun hw hb he => .keep hw hb he
  cases hm with
  | lockWriter _ hw => exact .lock _ hw rfl rfl rfl
  | write hl => exact .send _ _ _ rfl (congrArg LoopPc.writes hl) rfl rfl
  | finishWrite hl => exact .finish _ rfl (congrArg LoopPc.writes hl) rfl rfl
  | failWrite hl hk => exact .tear _ _ rfl (congrArg LoopPc.writes hl) hk rfl rfl
  | panic hl =>
    refine hidle rfl rfl ?_
    rcases hl with ⟨_, _, hl⟩ | ⟨_, hl⟩ | hl <;> rw [hl] <;> rfl
  | drain hl | drainAbort hl =>
    exact hidle rfl rfl (by rw [hl, drainNext_eq LoopPc.writes fun _ _ => rfl]; rfl)
  | _ hl => exact hidle rfl rfl (by rw [hl]; rfl)

theorem TaskMove.channel_other {a : TaskAction} (hm : TaskMove s t u a s') (o : Writer)
    (ho : o ≠ .urb t) : s'.channel.writing o = s.channel.writing o := by
  cases o with
  | loop => simp only [State.channel, hm.loop_eq]
  | urb i =>
    obtain ⟨u', hs, _⟩ := hm.set
    have hi : t ≠ i := fun h => ho (by rw [h])
    simp only [State.channel, hs, List.getElem?_set_ne hi]

theorem LoopMove.channel_other {a : LoopAction} (hm : LoopMove s a s') (o : Writer)
    (ho : o ≠ .loop) : s'.channel.writing o = s.channel.writing o := by
  cases o with
  | loop => exact absurd rfl ho
  | urb i =>
    cases hnew : s'.urbs[i]? with
    | none =>
      cases hold : s.urbs[i]? with
      | none => simp only [State.channel, hnew, hold]
      | some v =>
        obtain ⟨v', hv', _⟩ := hm.carries i v hold
        rw [hnew] at hv'
        cases hv'
    | some v' =>
      rw [channel_urb hnew]
      rcases hm.origin hnew with ⟨v, hv, hr⟩ | ⟨m, _, rfl, rfl⟩
      · rw [channel_urb hv, Urb.writing, hr.task, Urb.writing]
      · simp [State.channel, Urb.writing]

theorem ClosureMove.channel_eq {a : ClosureAction} (hm : ClosureMove s t u a s')
    (hu : s.urbs[t]? = some u) : s'.channel = s.channel := by
  obtain ⟨hl, _, _, _, hw, hb⟩ := hm.frame
  obtain ⟨c, hs⟩ := hm.set
  have hwriting : s'.channel.writing = s.channel.writing := by
    funext o
    cases o with
    | loop => simp only [State.channel, hl]
    | urb i =>
      by_cases hi : t = i
      · subst hi
        have hnew : s'.urbs[t]? = some { u with closure := c } := by
          rw [hs]
          exact List.getElem?_set_self (lt_length_of_getElem? hu)
        rw [channel_urb hnew, channel_urb hu]
        rfl
      · simp only [State.channel, hs, List.getElem?_set_ne hi]
  exact Channel.ext hw hb hwriting

theorem exclusive {C : State → Action → Prop} (h : session.ReachableBy C s) :
    s.channel.Exclusive := by
  refine h.invariant (I := fun s => s.channel.Exclusive) ?_ ?_
  · rintro s ⟨configurations, active, rfl⟩ (_ | t)
    · simp [State.channel, State.initial, LoopPc.writes]
    · simp [State.channel, State.initial]
  · intro s a s' _ hi _ hs
    cases step_move hs with
    | task hu hm => exact (hm.channel hu).exclusive hm.channel_other hi
    | closure hu hm => rw [hm.channel_eq hu]; exact hi
    | loop hm => exact hm.channel.exclusive hm.channel_other hi

def SocketOk (_ : State) : Action → Prop
  | .task _ .failWrite | .loop .failWrite => False
  | _ => True

/-- No abort drops a task that has put a part of its frame on the wire. -/
def DropsWhole (s : State) : Action → Prop
  | .task t .drop => ∀ u ∈ s.urbs[t]?, ∀ p ∈ u.writing, p.2 = 0
  | _ => True

instance (s : State) : ∀ a, Decidable (SocketOk s a)
  | .task _ .failWrite | .loop .failWrite => .isFalse id
  | .task _ .poll | .task _ .suspend | .task _ .handOff | .task _ .join | .task _ .check
  | .task _ .lockWriter | .task _ (.write _) | .task _ .finishWrite | .task _ .remove
  | .task _ .drop | .closure _ _ | .loop (.recv _) | .loop .hangUp | .loop (.drain _) | .loop .go
  | .loop (.write _) => .isTrue trivial

instance (s : State) : ∀ a, Decidable (DropsWhole s a)
  | .task t .drop => inferInstanceAs (Decidable (∀ u ∈ s.urbs[t]?, ∀ p ∈ u.writing, p.2 = 0))
  | .task _ .poll | .task _ .suspend | .task _ .handOff | .task _ .join | .task _ .check
  | .task _ .lockWriter | .task _ (.write _) | .task _ .finishWrite | .task _ .failWrite
  | .task _ .remove | .closure _ _ | .loop _ => .isTrue trivial

theorem Urb.Consistent.answers (h : u.Consistent) {frame : Bytes} {sent : Nat}
    (hw : u.writing = some (frame, sent)) : u.Answers frame := by
  unfold Urb.writing at hw
  unfold Urb.Consistent at h
  split at hw
  · rename_i ht
    cases hw
    rwa [ht] at h
  · cases hw

theorem TaskMove.stops {a : TaskAction} (hm : TaskMove s t u a s') (hu : s.urbs[t]? = some u)
    {frame : Bytes} {sent : Nat} (hw : u.writing = some (frame, sent))
    (hn : sent < frame.length) (hnone : s'.channel.writing (.urb t) = none) :
    a = .failWrite ∨ a = .drop := by
  have hnew : ∀ u', s'.urbs = s.urbs.set t u' → u'.writing = none := by
    intro u' hs
    rw [← hnone]
    refine (channel_urb ?_).symm
    rw [hs]
    exact List.getElem?_set_self (lt_length_of_getElem? hu)
  cases hm with
  | poll | suspend =>
    have hkeep := hnew _ rfl
    change u.writing = none at hkeep
    rw [hw] at hkeep
    cases hkeep
  | finishWrite _ ht =>
    rw [writing_of_task ht] at hw
    cases hw
    exact absurd hn (Nat.lt_irrefl _)
  | write => cases hnew _ rfl
  | failWrite => exact .inl rfl
  | drop | dropWriting => exact .inr rfl
  | _ _ ht => simp [Urb.writing, ht] at hw

theorem writing_of_writes {l : LoopPc} {f : Bytes} {n : Nat} (h : l.writes = some (f, n)) :
    ∃ r, l = .writing r n ∧ f = retUnlinkFrame r := by
  cases l with
  | writing r sent =>
    cases h
    exact ⟨r, rfl, rfl⟩
  | _ => cases h

theorem LoopMove.stops {a : LoopAction} (hm : LoopMove s a s') {r : Unlink} {sent : Nat}
    (hl : s.loop = .writing r sent) (hn : sent < (retUnlinkFrame r).length)
    (hnone : s'.loop.writes = none) : a = .failWrite := by
  cases hm with
  | finishWrite hl' =>
    rw [hl] at hl'
    cases hl'
    exact absurd hn (Nat.lt_irrefl _)
  | write => cases hnone
  | failWrite => rfl
  | panic hl' => rcases hl' with ⟨_, _, hl'⟩ | ⟨_, hl'⟩ | hl' <;> rw [hl] at hl' <;> cases hl'
  | _ hl' => rw [hl] at hl'; cases hl'

def Event.frame : Event → Option Bytes
  | .retSubmit _ _ frame => some frame
  | .retUnlink r => some (retUnlinkFrame r)
  | _ => none

def State.frames (s : State) : List Bytes := (s.log.filterMap Event.frame).reverse

theorem frames_of_reply {e : Event} {f : Bytes} (h : s'.log = e :: s.log)
    (he : e.frame = some f) : s'.frames = s.frames ++ [f] := by
  rw [State.frames, h, List.filterMap_cons_some he, List.reverse_cons, State.frames]

theorem frames_of_other {e : Event} (h : s'.log = e :: s.log) (he : e.frame = none) :
    s'.frames = s.frames := by
  rw [State.frames, h, List.filterMap_cons_none he, State.frames]

theorem frames_of_log (h : s'.log = s.log) : s'.frames = s.frames := by
  rw [State.frames, h, State.frames]

theorem TaskMove.completes {a : TaskAction} (hm : TaskMove s t u a s')
    (hu : s.urbs[t]? = some u) :
    ∃ new, s.channel.Completes s'.channel (.urb t) new ∧ s'.frames = s.frames ++ new := by
  have hnew : ∀ v, s'.urbs = s.urbs.set t v → s'.channel.writing (.urb t) = v.writing := by
    intro v hs
    apply channel_urb
    rw [hs]
    exact List.getElem?_set_self (lt_length_of_getElem? hu)
  have hidle : ∀ {v}, s'.urbs = s.urbs.set t v → s'.log = s.log → v.writing = u.writing →
      ∃ new, s.channel.Completes s'.channel (.urb t) new ∧ s'.frames = s.frames ++ new := by
    intro v hs hlog hwriting
    refine ⟨[], .inl ⟨rfl, fun f hf hnone => ?_⟩, ?_⟩
    · rw [hnew v hs, hwriting, ← channel_urb hu, hf] at hnone
      cases hnone
    · rw [frames_of_log hlog, List.append_nil]
  -- a writer that gives up has not sent its last byte
  have hshort : ∀ {frame : Bytes} {sent : Nat}, u.task = .writing frame sent →
      sent < frame.length → s'.frames = s.frames →
      ∃ new, s.channel.Completes s'.channel (.urb t) new ∧ s'.frames = s.frames ++ new := by
    intro frame sent ht hlt hframes
    refine ⟨[], .inl ⟨rfl, fun f hf _ => ?_⟩, by rw [hframes, List.append_nil]⟩
    rw [channel_urb hu, writing_of_task ht] at hf
    cases hf
    exact absurd hlt (Nat.lt_irrefl _)
  cases hm with
  | poll | suspend => exact hidle rfl rfl rfl
  | finishWrite _ ht =>
    refine ⟨[_], .inr ⟨_, rfl, ?_, hnew _ rfl⟩, frames_of_reply rfl rfl⟩
    rw [channel_urb hu]
    exact writing_of_task ht
  | write _ ht =>
    refine ⟨[], .inl ⟨rfl, fun f _ hnone => ?_⟩, (List.append_nil _).symm⟩
    rw [hnew _ rfl] at hnone
    cases hnone
  | lockWriter _ ht =>
    refine ⟨[], .inl ⟨rfl, fun f _ hnone => ?_⟩, (List.append_nil _).symm⟩
    rw [hnew _ rfl] at hnone
    cases hnone
  | failWrite _ ht hl => exact hshort ht hl (frames_of_other rfl rfl)
  | dropWriting _ _ ht hl => exact hshort ht hl rfl
  | drop _ _ _ ht => exact hidle rfl rfl (not_writing_of_task ht).symm
  | _ _ ht => exact hidle rfl rfl (by rw [Urb.writing, Urb.writing, ht])

theorem LoopMove.completes {a : LoopAction} (hm : LoopMove s a s') :
    ∃ new, s.channel.Completes s'.channel .loop new ∧ s'.frames = s.frames ++ new := by
  have hidle : s.loop.writes = none → s'.frames = s.frames →
      ∃ new, s.channel.Completes s'.channel .loop new ∧ s'.frames = s.frames ++ new := by
    intro hnone hframes
    refine ⟨[], .inl ⟨rfl, fun f hf => ?_⟩, by rw [hframes, List.append_nil]⟩
    rw [show s.channel.writing .loop = none from hnone] at hf
    cases hf
  cases hm with
  | finishWrite hl =>
    exact ⟨[_], .inr ⟨_, rfl, congrArg LoopPc.writes hl, rfl⟩, frames_of_reply rfl rfl⟩
  | write hl =>
    refine ⟨[], .inl ⟨rfl, fun f _ hnone => ?_⟩, (List.append_nil _).symm⟩
    cases hnone
  | failWrite hl hk =>
    refine ⟨[], .inl ⟨rfl, fun f hf _ => ?_⟩,
      (frames_of_other rfl rfl).trans (List.append_nil _).symm⟩
    rw [show s.channel.writing .loop = _ from congrArg LoopPc.writes hl] at hf
    cases hf
    exact absurd hk (Nat.lt_irrefl _)
  | panic hl =>
    apply hidle
    · rcases hl with ⟨_, _, hl⟩ | ⟨_, hl⟩ | hl <;> rw [hl] <;> rfl
    · rfl
  | submit hl | unlink hl | abort hl =>
    apply hidle
    · rw [hl]
      rfl
    · exact frames_of_other rfl rfl
  | _ hl =>
    apply hidle
    · rw [hl]
      rfl
    · rfl

theorem holds_frames (h : session.ReachableBy (fun s a => SocketOk s a ∧ DropsWhole s a) s) :
    s.channel.Holds s.frames := by
  refine h.invariant (I := fun s => s.channel.Holds s.frames) ?_ ?_
  · rintro s ⟨configurations, active, rfl⟩
    rfl
  · intro s a s' hr hi hc hs
    cases step_move hs with
    | task hu hm =>
      obtain ⟨new, hnew, hframes⟩ := hm.completes hu
      rw [hframes]
      refine (hm.channel hu).holds hm.channel_other (exclusive hr) ?_ hnew hi
      intro f n hf hn hnone
      rw [channel_urb hu] at hf
      rcases hm.stops hu hf hn hnone with rfl | rfl
      · exact absurd hc.1 id
      · exact hc.2 _ hu (f, n) hf
    | closure hu hm =>
      rw [hm.channel_eq hu]
      have hframes : s'.frames = s.frames := by
        rcases hm.log with hlog | ⟨e, hlog, he⟩
        · exact frames_of_log hlog
        · apply frames_of_other hlog
          cases e with
          | host | returned => rfl
          | _ => cases he
      rw [hframes]
      exact hi
    | loop hm =>
      obtain ⟨new, hnew, hframes⟩ := hm.completes
      rw [hframes]
      refine hm.channel.holds hm.channel_other (exclusive hr) ?_ hnew hi
      intro f n hf hn hnone
      obtain ⟨r, hl, rfl⟩ := writing_of_writes hf
      rw [hm.stops hl hn hnone] at hc
      exact absurd hc.1 id

def State.IsReply (s : State) (f : Bytes) : Prop :=
  (∃ (t : Nat) (u : Urb), s.urbs[t]? = some u ∧ u.Answers f) ∨
    ∃ r, .readUnlink r ∈ s.log ∧ f = retUnlinkFrame r

/-- The replies of the history, then at most what the holder of the mutex has sent of its own. -/
def Intact (s : State) : Prop :=
  (∀ f ∈ s.frames, s.IsReply f) ∧ ∃ part, s.wire = s.frames.flatten ++ part ∧
    (part = [] ∨ ∃ o f n, s.writer = .held o ∧ s.channel.writing o = some (f, n) ∧
      s.IsReply f ∧ part = f.take n)

section Intact

variable {C : State → Action → Prop} {r : Unlink}

theorem read_of_answered (h : session.ReachableBy C s) (hr : .retUnlink r ∈ s.log) :
    .readUnlink r ∈ s.log := by
  have hbound := (unlinksOk h).bound r
  have hpos := List.count_pos_iff.mpr hr
  exact List.count_pos_iff.mp (by omega)

theorem read_of_handling (h : session.ReachableBy C s) (hr : s.loop.handling = some r) :
    .readUnlink r ∈ s.log := by
  have hbound := (unlinksOk h).bound r
  rw [LoopPc.unanswered, if_pos hr] at hbound
  exact List.count_pos_iff.mp (by omega)

theorem isReply_of_mem_frames (h : session.ReachableBy C s) {f : Bytes} (hf : f ∈ s.frames) :
    s.IsReply f := by
  obtain ⟨e, he, hframe⟩ := List.mem_filterMap.mp (List.mem_reverse.mp hf)
  cases e with
  | retSubmit t n frame =>
    cases hframe
    obtain ⟨u, hu, -, hanswers, -⟩ := (repliesOk h).attributed t n _ he
    exact .inl ⟨t, u, hu, hanswers⟩
  | retUnlink r =>
    cases hframe
    exact .inr ⟨r, read_of_answered h he, rfl⟩
  | _ => cases hframe

theorem isReply_of_writing (h : session.ReachableBy C s) {o : Writer} {f : Bytes} {n : Nat}
    (hw : s.channel.writing o = some (f, n)) : s.IsReply f := by
  cases o with
  | loop =>
    obtain ⟨r, hl, rfl⟩ := writing_of_writes hw
    exact .inr ⟨r, read_of_handling h (by rw [hl]; rfl), rfl⟩
  | urb t =>
    obtain ⟨u, hu, hwriting⟩ := Option.bind_eq_some_iff.mp hw
    exact .inl ⟨t, u, hu, ((repliesOk h).consistent t u hu).answers hwriting⟩

end Intact

theorem wire_intact (h : session.ReachableBy (fun s a => SocketOk s a ∧ DropsWhole s a) s) :
    Intact s := by
  refine ⟨fun f hf => isReply_of_mem_frames h hf, s.channel.partialFrame, holds_frames h, ?_⟩
  cases hw : s.writer with
  | free => exact .inl (Channel.partialFrame_free hw)
  | poisoned => exact .inl (by simp only [Channel.partialFrame, State.channel, hw])
  | held o =>
    obtain ⟨f, n, ho⟩ := (exclusive h o).mpr hw
    exact .inr ⟨o, f, n, rfl, ho, isReply_of_writing h ho, Channel.partialFrame_held hw ho⟩

theorem wire_intact_mid_frame : ∃ s,
    session.ReachableBy (fun s a => SocketOk s a ∧ DropsWhole s a) s ∧
    s.wire.length = 1 ∧ Intact s := by
  let actions := Sample.accept (Sample.submit 7 0) ++ Sample.handOff 0 ++
    Sample.controlTransfer 0 ++ Sample.buildReply 0 ++
    [.task 0 .lockWriter, .task 0 (.write 1), .task 0 .suspend]
  have hrun : ((session.replay (fun s a => SocketOk s a ∧ DropsWhole s a)
      (.initial Sample.device) actions).map fun s => s.wire.length == 1) = some true := by
    decide
  obtain ⟨s, hr, hp⟩ := System.exists_reachableBy_of_replay Sample.init_device hrun
  exact ⟨s, hr, beq_iff_eq.mp hp, wire_intact hr⟩

/-- An unlink aborts a task that is suspended inside `write_all`: its mutex is
released, and the `RET_UNLINK` follows a `RET_SUBMIT` of one byte. -/
theorem wire_torn :
    ¬ ∀ s, session.ReachableBy SocketOk s → s.loop.over = false → Intact s := by
  intro hall
  let actions := Sample.accept (Sample.submit 7 0) ++ Sample.handOff 0 ++
    Sample.controlTransfer 0 ++ Sample.buildReply 0 ++
    [.task 0 .lockWriter, .task 0 (.write 1), .task 0 .suspend] ++ Sample.unlink ++
    [.task 0 .drop] ++ Sample.writeUnlink
  have hrun : ((session.replay SocketOk (.initial Sample.device) actions).map fun s =>
      !s.loop.over && s.wire != s.frames.flatten && s.writer == .free) = some true := by
    decide
  obtain ⟨s, hr, hp⟩ := System.exists_reachableBy_of_replay Sample.init_device hrun
  simp only [Bool.and_eq_true, Bool.not_eq_true', bne_iff_ne, beq_iff_eq] at hp
  obtain ⟨⟨hover, htorn⟩, hfree⟩ := hp
  obtain ⟨-, part, hwire, hpart | ⟨o, _, _, hheld, _⟩⟩ := hall s hr hover
  · rw [hpart, List.append_nil] at hwire
    exact htorn hwire
  · rw [hfree] at hheld
    cases hheld

end Usbip.Session
