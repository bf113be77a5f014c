import UsbipdDarwin.Session.Step

/-! What each step can do, one rule a constructor. The step functions run, the
rules are what every invariant is proved from. -/

namespace Usbip.Session
open Proto Host Lts State

inductive TaskMove (s : State) (t : Nat) (u : Urb) : TaskAction → State → Prop
  | poll (hp : u.polling = false) (ha : u.aborted = false) (hw : u.task.awaits = true) :
      TaskMove s t u .poll (s.setUrb t { u with polling := true })
  | suspend (hp : u.polling = true) (hw : u.task.awaits = true) (hs : u.task ≠ .spawned) :
      TaskMove s t u .suspend (s.setUrb t { u with polling := false })
  | handOff (hp : u.polling = true) (ht : u.task = .spawned) :
      TaskMove s t u .handOff (s.setUrb t { u with task := .awaiting, closure := .queued })
  | join {r : Outcome} (hp : u.polling = true) (ht : u.task = .awaiting)
      (hc : u.closure = .returned r) :
      TaskMove s t u .join (s.setUrb t { u with task := .joined r })
  | joinFailed (hp : u.polling = true) (ht : u.task = .awaiting) (hc : u.closure = .panicked) :
      TaskMove s t u .join (s.setUrb t { u with task := .finished })
  | skip {r : Outcome} (hp : u.polling = true) (ht : u.task = .joined r)
      (hc : u.cancelled = true) :
      TaskMove s t u .check (s.setUrb t { u with task := .finished })
  | build {r : Outcome} (hp : u.polling = true) (ht : u.task = .joined r)
      (hc : u.cancelled = false) :
      TaskMove s t u .check (s.setUrb t { u with task := .replying (retSubmitFrame u.msg r) })
  | lockWriter {frame : Bytes} (hp : u.polling = true) (ht : u.task = .replying frame)
      (hw : s.writer = .free) :
      TaskMove s t u .lockWriter
        { s.setUrb t { u with task := .writing frame 0 } with writer := .held (.urb t) }
  | write {frame : Bytes} {sent n : Nat} (hp : u.polling = true)
      (ht : u.task = .writing frame sent) (hn : 0 < n) (hl : sent + n ≤ frame.length) :
      TaskMove s t u (.write n)
        { s.setUrb t { u with task := .writing frame (sent + n) } with
          wire := s.wire ++ (frame.drop sent).take n }
  | finishWrite {frame : Bytes} (hp : u.polling = true)
      (ht : u.task = .writing frame frame.length) :
      TaskMove s t u .finishWrite
        ({ s.setUrb t { u with task := .finished } with writer := .free }.record
          (.retSubmit t u.msg.seqnum frame))
  | failWrite {frame : Bytes} {sent : Nat} (hp : u.polling = true)
      (ht : u.task = .writing frame sent) (hl : sent < frame.length) :
      TaskMove s t u .failWrite
        ({ s.setUrb t { u with task := .finished } with writer := .free }.record .writeFailed)
  | remove (hp : u.polling = true) (ht : u.task = .finished) (hl : s.inflightLock = .free) :
      TaskMove s t u .remove
        { (s.setUrb t { u with task := .returned, polling := false }).releasePermit with
          inflight := s.inflight.erase u.msg.seqnum }
  | removePanic (hp : u.polling = true) (ht : u.task = .finished)
      (hl : s.inflightLock = .poisoned) :
      TaskMove s t u .remove
        (s.setUrb t { u with task := .panicked, polling := false }).releasePermit
  | drop (hp : u.polling = false) (ha : u.aborted = true) (hw : u.task.awaits = true)
      (ht : ∀ frame sent, u.task ≠ .writing frame sent) :
      TaskMove s t u .drop (s.setUrb t { u with task := .dropped }).releasePermit
  | dropWriting {frame : Bytes} {sent : Nat} (hp : u.polling = false) (ha : u.aborted = true)
      (ht : u.task = .writing frame sent) (hl : sent < frame.length) :
      TaskMove s t u .drop
        { (s.setUrb t { u with task := .dropped }).releasePermit with writer := .free }

inductive ClosureMove (s : State) (t : Nat) (u : Urb) : ClosureAction → State → Prop
  | start (hc : u.closure = .queued) :
      ClosureMove s t u .start (s.setUrb t { u with closure := .running u.msg.call.start })
  | call {pc : CallPc} {a : CallAction} {r : CallStep} (hc : u.closure = .running pc)
      (hr : s.device.callStep t u.msg.call pc a = some r) :
      ClosureMove s t u (.call a)
        { s.setUrb t { u with closure := .running r.pc } with
          device := r.device
          log := (r.event.map (Event.host t)).toList ++ s.log }
  | panic {pc : CallPc} (hc : u.closure = .running pc) :
      ClosureMove s t u .panic
        { s.setUrb t { u with closure := .running .panicked } with
          device := s.device.callPanic pc }
  | finish {r : Except HostError CallValue} (hc : u.closure = .running (.done r)) :
      ClosureMove s t u .finish
        ((s.setUrb t { u with closure := .returned (closureOutcome u.msg r) }).record
          (.returned t))
  | finishPanic (hc : u.closure = .running .panicked) :
      ClosureMove s t u .finish
        ((s.setUrb t { u with closure := .panicked }).record (.returned t))

inductive LoopMove (s : State) : LoopAction → State → Prop
  | submit {m : Submit} (hl : s.loop = .reading) (hm : m.WellFormed) :
      LoopMove s (.recv (.submit m))
        { s with loop := .acquiring m, log := .readSubmit s.urbs.length m.seqnum :: s.log }
  | unlink {r : Unlink} (hl : s.loop = .reading) :
      LoopMove s (.recv (.unlink r)) { s with loop := .unlinking r, log := .readUnlink r :: s.log }
  | hangUp (hl : s.loop = .reading) : LoopMove s .hangUp { s with loop := .closing }
  | spawn {m : Submit} (hl : s.loop = .acquiring m) (hp : 0 < s.permits) :
      LoopMove s .go { s with
        permits := s.permits - 1
        urbs := s.urbs ++ [{ msg := m }]
        loop := .inserting s.urbs.length m }
  | insert {t : Nat} {m : Submit} (hl : s.loop = .inserting t m) (hi : s.inflightLock = .free) :
      LoopMove s .go
        { s with inflight := s.inflight.insert m.seqnum ⟨t, m.epAddr⟩, loop := .reading }
  | panic (hl : (∃ t m, s.loop = .inserting t m) ∨ (∃ r, s.loop = .unlinking r) ∨
        s.loop = .closing) (hi : s.inflightLock = .poisoned) :
      LoopMove s .go { s with loop := .panicked }
  | found {r : Unlink} {i : Inflight} (hl : s.loop = .unlinking r) (hi : s.inflightLock = .free)
      (hf : s.inflight.lookup r.unlinkSeqnum = some i) :
      LoopMove s .go { s with
        inflight := s.inflight.erase r.unlinkSeqnum
        inflightLock := .held ()
        loop := .flagging r i }
  | missing {r : Unlink} (hl : s.loop = .unlinking r) (hi : s.inflightLock = .free)
      (hf : s.inflight.lookup r.unlinkSeqnum = none) :
      LoopMove s .go { s with loop := .replying r }
  | flag {r : Unlink} {i : Inflight} (hl : s.loop = .flagging r i) :
      LoopMove s .go { s with
        urbs := s.urbs.modify i.task fun u => { u with cancelled := true }
        loop := .cancelling r i }
  | cached {r : Unlink} {i : Inflight} {entry : EndpointEntry} (hl : s.loop = .cancelling r i)
      (ha : i.epAddr ≠ 0) (he : s.device.endpoints.lookup i.epAddr = some entry) :
      LoopMove s .go { s with loop := .epWait r i entry.ep }
  | uncached {r : Unlink} {i : Inflight} (hl : s.loop = .cancelling r i)
      (ha : i.epAddr = 0 ∨ s.device.endpoints.lookup i.epAddr = none) :
      LoopMove s .go { s with loop := .aborting r i }
  | lockEp {r : Unlink} {i : Inflight} {e : Nat} (hl : s.loop = .epWait r i e)
      (he : s.device.epLock e = .free) :
      LoopMove s .go
        { s with device := s.device.setLock e (.held .canceller), loop := .cancelAll r i e }
  | epPoisoned {r : Unlink} {i : Inflight} {e : Nat} (hl : s.loop = .epWait r i e)
      (he : s.device.epLock e = .poisoned) :
      LoopMove s .go { s with inflightLock := .poisoned, loop := .panicked }
  | cancelAll {r : Unlink} {i : Inflight} {e : Nat} (hl : s.loop = .cancelAll r i e) :
      LoopMove s .go { s with
        device := s.device.setLock e .free
        urbs := s.urbs.map (Urb.hit e)
        loop := .aborting r i }
  | abort {r : Unlink} {i : Inflight} (hl : s.loop = .aborting r i) :
      LoopMove s .go { s with
        urbs := s.urbs.modify i.task fun u => { u with aborted := true }
        log := .aborted i.task ((s.urbs[i.task]?.map Urb.polled).getD true) :: s.log
        loop := .unlocking r }
  | unlock {r : Unlink} (hl : s.loop = .unlocking r) :
      LoopMove s .go { s with inflightLock := .free, loop := .replying r }
  | lockWriter {r : Unlink} (hl : s.loop = .replying r) (hw : s.writer = .free) :
      LoopMove s .go { s with writer := .held .loop, loop := .writing r 0 }
  | finishWrite {r : Unlink} (hl : s.loop = .writing r (retUnlinkFrame r).length) :
      LoopMove s .go
        { s with writer := .free, log := .retUnlink r :: s.log, loop := .reading }
  | drain {pending : List Inflight} (hl : s.loop = .closing) (hi : s.inflightLock = .free)
      (ho : pending.Perm (s.inflight.entries.map (·.2))) :
      LoopMove s (.drain pending) { s with inflight := ∅, loop := drainNext pending }
  | drainFlag {i : Inflight} {rest : List Inflight} (hl : s.loop = .drainFlag i rest) :
      LoopMove s .go { s with
        urbs := s.urbs.modify i.task fun u => { u with cancelled := true }
        loop := .drainAbort i rest }
  | drainAbort {i : Inflight} {rest : List Inflight} (hl : s.loop = .drainAbort i rest) :
      LoopMove s .go { s with
        urbs := s.urbs.modify i.task fun u => { u with aborted := true }
        loop := drainNext rest }
  | write {r : Unlink} {sent n : Nat} (hl : s.loop = .writing r sent) (hn : 0 < n)
      (hk : sent + n ≤ (retUnlinkFrame r).length) :
      LoopMove s (.write n) { s with
        wire := s.wire ++ ((retUnlinkFrame r).drop sent).take n
        loop := .writing r (sent + n) }
  | failWrite {r : Unlink} {sent : Nat} (hl : s.loop = .writing r sent)
      (hk : sent < (retUnlinkFrame r).length) :
      LoopMove s .failWrite
        { s with writer := .free, log := .writeFailed :: s.log, loop := .closing }

inductive Move (s : State) : Action → State → Prop
  | task {t : Nat} {u : Urb} {a : TaskAction} {s' : State} (hu : s.urbs[t]? = some u)
      (hm : TaskMove s t u a s') : Move s (.task t a) s'
  | closure {t : Nat} {u : Urb} {a : ClosureAction} {s' : State} (hu : s.urbs[t]? = some u)
      (hm : ClosureMove s t u a s') : Move s (.closure t a) s'
  | loop {a : LoopAction} {s' : State} (hm : LoopMove s a s') : Move s (.loop a) s'

variable {s s' : State} {t : Nat} {u : Urb}

theorem taskStep_move {a : TaskAction} (h : taskStep s t u a = some s') :
    TaskMove s t u a s' := by
  cases a with
  | poll =>
    simp only [taskStep] at h
    split_ifs at h with hc
    simp only [Bool.and_eq_true, Bool.not_eq_true'] at hc
    cases h
    exact .poll hc.1.1 hc.1.2 hc.2
  | suspend =>
    simp only [taskStep] at h
    split at h
    · cases h
    · rename_i pc hne
      split_ifs at h with hc
      simp only [Bool.and_eq_true] at hc
      cases h
      exact .suspend hc.1 hc.2 hne
  | handOff =>
    simp only [taskStep] at h
    split at h <;> cases h
    exact .handOff ‹_› ‹_›
  | join =>
    simp only [taskStep] at h
    split at h <;> cases h
    · exact .join ‹_› ‹_› ‹_›
    · exact .joinFailed ‹_› ‹_› ‹_›
  | check =>
    simp only [taskStep] at h
    split at h
    · split_ifs at h with hc <;> cases h
      · exact .skip ‹_› ‹_› hc
      · exact .build ‹_› ‹_› (by simpa using hc)
    · cases h
  | lockWriter =>
    simp only [taskStep] at h
    split at h <;> cases h
    exact .lockWriter ‹_› ‹_› ‹_›
  | write n =>
    simp only [taskStep] at h
    split at h
    · split_ifs at h with hc
      cases h
      exact .write ‹_› ‹_› hc.1 hc.2
    · cases h
  | finishWrite =>
    simp only [taskStep] at h
    split at h
    · split_ifs at h with hc
      cases h
      subst hc
      exact .finishWrite ‹_› ‹_›
    · cases h
  | failWrite =>
    simp only [taskStep] at h
    split at h
    · split_ifs at h with hc
      cases h
      exact .failWrite ‹_› ‹_› hc
    · cases h
  | remove =>
    simp only [taskStep] at h
    split at h <;> cases h
    · exact .remove ‹_› ‹_› ‹_›
    · exact .removePanic ‹_› ‹_› ‹_›
  | drop =>
    simp only [taskStep] at h
    split_ifs at h with hc
    simp only [Bool.and_eq_true, Bool.not_eq_true'] at hc
    split at h <;> cases h
    · rename_i frame sent ht
      have hl : sent < frame.length := by simpa [ht, TaskPc.awaits] using hc.2
      exact .dropWriting hc.1.1 hc.1.2 ht hl
    · exact .drop hc.1.1 hc.1.2 hc.2 ‹_›

theorem closureStep_move {a : ClosureAction} (h : closureStep s t u a = some s') :
    ClosureMove s t u a s' := by
  cases a with
  | start =>
    simp only [closureStep] at h
    split at h <;> cases h
    exact .start ‹_›
  | call a =>
    simp only [closureStep] at h
    split at h
    · obtain ⟨r, hr, rfl⟩ := Option.map_eq_some_iff.mp h
      exact .call ‹_› hr
    · cases h
  | panic =>
    simp only [closureStep] at h
    split at h <;> cases h
    exact .panic ‹_›
  | finish =>
    simp only [closureStep] at h
    split at h <;> cases h
    · exact .finish ‹_›
    · exact .finishPanic ‹_›

theorem loopGo_move (h : loopGo s = some s') : LoopMove s .go s' := by
  unfold loopGo at h
  split at h
  · split_ifs at h with hp
    cases h
    exact .spawn ‹_› hp
  · split at h <;> cases h
    · exact .insert ‹_› ‹_›
    · exact .panic (.inl ⟨_, _, ‹_›⟩) ‹_›
  · split at h
    · split at h <;> cases h
      · exact .found ‹_› ‹_› ‹_›
      · exact .missing ‹_› ‹_› ‹_›
    · cases h
    · cases h
      exact .panic (.inr (.inl ⟨_, ‹_›⟩)) ‹_›
  · cases h
    exact .flag ‹_›
  · split_ifs at h with ha
    · split at h <;> cases h
      · exact .cached ‹_› ha ‹_›
      · exact .uncached ‹_› (.inr ‹_›)
    · cases h
      exact .uncached ‹_› (.inl (not_not.mp ha))
  · split at h <;> cases h
    · exact .lockEp ‹_› ‹_›
    · exact .epPoisoned ‹_› ‹_›
  · cases h
    exact .cancelAll ‹_›
  · cases h
    exact .abort ‹_›
  · cases h
    exact .unlock ‹_›
  · split at h <;> cases h
    exact .lockWriter ‹_› ‹_›
  · split_ifs at h with hk
    cases h
    subst hk
    exact .finishWrite ‹_›
  · split at h <;> cases h
    exact .panic (.inr (.inr ‹_›)) ‹_›
  · cases h
    exact .drainFlag ‹_›
  · cases h
    exact .drainAbort ‹_›
  all_goals cases h

theorem loopStep_move {a : LoopAction} (h : loopStep s a = some s') : LoopMove s a s' := by
  cases a with
  | recv c =>
    cases c with
    | submit m =>
      simp only [loopStep] at h
      split at h
      · split_ifs at h with hm
        cases h
        exact .submit ‹_› hm
      · cases h
    | unlink r =>
      simp only [loopStep] at h
      split at h <;> cases h
      exact .unlink ‹_›
  | hangUp =>
    simp only [loopStep] at h
    split at h <;> cases h
    exact .hangUp ‹_›
  | go => exact loopGo_move h
  | write n =>
    simp only [loopStep] at h
    split at h
    · split_ifs at h with hc
      cases h
      exact .write ‹_› hc.1 hc.2
    · cases h
  | failWrite =>
    simp only [loopStep] at h
    split at h
    · split_ifs at h with hc
      cases h
      exact .failWrite ‹_› hc
    · cases h
  | drain pending =>
    simp only [loopStep] at h
    split at h
    · split_ifs at h with ho
      cases h
      exact .drain ‹_› ‹_› ho
    · cases h

theorem step_move {a : Action} (h : session.step s a = some s') : Move s a s' := by
  cases a with
  | task t a =>
    obtain ⟨u, hu, hs⟩ := Option.bind_eq_some_iff.mp h
    exact .task hu (taskStep_move hs)
  | closure t a =>
    obtain ⟨u, hu, hs⟩ := Option.bind_eq_some_iff.mp h
    exact .closure hu (closureStep_move hs)
  | loop a => exact .loop (loopStep_move h)

end Usbip.Session
