import UsbipdDarwin.Lts.Jobs
import UsbipdDarwin.Lts.Simulation
import UsbipdDarwin.Session.Client
import UsbipdDarwin.Session.Forward
import UsbipdDarwin.Session.Settle

/-! What a session is for. Without its threads, locks and partial writes it is a service
that takes URBs for a device and answers them, and each of its runs is a run of that
service. -/

namespace Usbip.Session
open Proto Host Lts Relation

variable {s s' : State} {t : Nat} {u u' : Urb} {log : List Event} {e : Event} {eps : List AnyEp}

/-- A URB asks the device for what its command says, a success after it has asked; an unlink
is about the URBs of its seqnum. The endpoints are those that have been opened in the end: an
opened endpoint keeps its place. -/
def terms (eps : List AnyEp) : Jobs.Terms Submit Host.Request Outcome Unlink where
  limit := maxInflightUrbs
  wants m req := m.call.Asks eps req
  backs m r n := n ≤ m.call.asks ∧ (r.isOk = true → n = m.call.asks)
  names r m := r.unlinkSeqnum = m.seqnum

section Abstraction

def ClosurePc.work : ClosurePc → Jobs.Work Outcome
  | .idle | .queued | .running _ => .waiting
  | .returned r => .done r
  | .panicked => .lost

/-- What the device is asked for URB `t`, the requests on the way there left out. -/
def Event.request (t : Nat) : Event → Option Host.Request
  | .host i (.started req) => if i = t ∧ req.main = true then some req else none
  | _ => none

def requestsFor (log : List Event) (t : Nat) : List Host.Request :=
  log.filterMap (Event.request t)

def answerOf (log : List Event) (t : Nat) (u : Urb) : Jobs.Answer :=
  if u.undecided then .due else if log.any (Event.isReplyOf t) then .given else .forgone

def jobOf (log : List Event) (t : Nat) (u : Urb) : Jobs.Job Submit Host.Request Outcome where
  msg := u.msg
  asked := requestsFor log t
  work := u.closure.work
  answer := answerOf log t u

def Event.call : Event → Option Unlink
  | .readUnlink r => some r
  | _ => none

def Event.entry : Event → Option (Jobs.Entry Unlink)
  | .retSubmit t _ _ => some (.reply t)
  | .retUnlink r => some (.ack r)
  | _ => none

def State.service (s : State) : Jobs.State Submit Host.Request Outcome Unlink where
  jobs := s.urbs.mapIdx (jobOf s.log)
  handling := s.loop.handling
  calls := (s.log.filterMap Event.call).reverse
  broken := decide (.writeFailed ∈ s.log)
  closed := s.loop.over
  output := (s.log.filterMap Event.entry).reverse

end Abstraction

section Jobs

theorem jobOf_cons (hrequest : e.request t = none) (hreply : e.isReplyOf t = false) :
    jobOf (e :: log) t = jobOf log t := by
  funext u
  simp [jobOf, requestsFor, answerOf, hrequest, hreply]

theorem getElem?_jobs (hu : s.urbs[t]? = some u) :
    s.service.jobs[t]? = some (jobOf s.log t u) := by
  rw [State.service, List.getElem?_mapIdx, hu]
  rfl

theorem jobs_set (hset : s'.urbs = s.urbs.set t u')
    (hother : ∀ i, i ≠ t → jobOf s'.log i = jobOf s.log i) :
    s'.service.jobs = s.service.jobs.set t (jobOf s'.log t u') := by
  apply List.ext_getElem?
  intro i
  show (s'.urbs.mapIdx (jobOf s'.log))[i]? = ((s.urbs.mapIdx (jobOf s.log)).set t _)[i]?
  rw [List.getElem?_mapIdx, hset, List.getElem?_set, List.getElem?_set, List.length_mapIdx]
  by_cases hi : t = i
  · subst hi
    rw [if_pos rfl, if_pos rfl]
    split_ifs <;> rfl
  · rw [if_neg hi, if_neg hi, List.getElem?_mapIdx, hother i (Ne.symm hi)]

theorem Urb.Raised.job_eq (hr : u.Raised u') : jobOf log t u' = jobOf log t u := by
  have hwork : u'.closure.work = u.closure.work := by
    rcases hr.closure with hc | ⟨e, b, hc, hc'⟩
    · rw [hc]
    · rw [hc, hc']
      rfl
  simp only [jobOf, answerOf, hr.msg, hwork, hr.undecided_eq]

theorem jobs_carries (hc : Carries s.urbs s'.urbs) (hlen : s'.urbs.length = s.urbs.length)
    (hjob : ∀ i, jobOf s'.log i = jobOf s.log i) : s'.service.jobs = s.service.jobs := by
  apply List.ext_getElem?
  intro i
  show (s'.urbs.mapIdx (jobOf s'.log))[i]? = (s.urbs.mapIdx (jobOf s.log))[i]?
  rw [List.getElem?_mapIdx, List.getElem?_mapIdx, hjob i]
  cases hu : s.urbs[i]? with
  | none =>
    have hle : s'.urbs.length ≤ i := by
      rw [hlen]
      exact List.getElem?_eq_none_iff.mp hu
    rw [List.getElem?_eq_none hle]
  | some v =>
    obtain ⟨v', hv', hr⟩ := hc i v hu
    rw [hv', Option.map_some, Option.map_some, hr.job_eq]

theorem jobs_cons (hurbs : s'.urbs = s.urbs) (hlog : s'.log = e :: s.log)
    (hrequest : ∀ i, e.request i = none) (hreply : ∀ i, e.isReplyOf i = false) :
    s'.service.jobs = s.service.jobs := by
  have hjob : jobOf s'.log = jobOf s.log := by
    funext i
    rw [hlog]
    exact jobOf_cons (hrequest i) (hreply i)
  rw [State.service, hurbs, hjob]
  rfl

end Jobs

section Said

theorem calls_cons (hlog : s'.log = e :: s.log) (he : e.call = none) :
    s'.service.calls = s.service.calls := by
  rw [State.service, hlog, List.filterMap_cons_none he]
  rfl

theorem output_cons (hlog : s'.log = e :: s.log) (he : e.entry = none) :
    s'.service.output = s.service.output := by
  rw [State.service, hlog, List.filterMap_cons_none he]
  rfl

theorem output_entry {x : Jobs.Entry Unlink} (hlog : s'.log = e :: s.log)
    (he : e.entry = some x) : s'.service.output = s.service.output ++ [x] := by
  rw [State.service, hlog, List.filterMap_cons_some he, List.reverse_cons]
  rfl

theorem broken_cons (hlog : s'.log = e :: s.log) (he : e ≠ .writeFailed) :
    s'.service.broken = s.service.broken := by
  simp only [State.service, hlog, List.mem_cons, Ne.symm he, false_or]

theorem said_eq (hlog : s'.log = s.log) : s'.service.calls = s.service.calls ∧
    s'.service.broken = s.service.broken ∧ s'.service.output = s.service.output := by
  simp only [State.service, hlog, and_self]

structure Event.Unheard (e : Event) : Prop where
  request : ∀ t, e.request t = none
  reply : ∀ t, e.isReplyOf t = false
  call : e.call = none
  entry : e.entry = none
  written : e ≠ .writeFailed

theorem Event.Unheard.job_eq (h : e.Unheard) : jobOf (e :: log) t = jobOf log t :=
  jobOf_cons (h.request t) (h.reply t)

theorem service_eq (hjobs : s'.service.jobs = s.service.jobs)
    (hhandling : s'.loop.handling = s.loop.handling) (hover : s'.loop.over = s.loop.over)
    (hlog : s'.log = s.log ∨ ∃ e, s'.log = e :: s.log ∧ e.Unheard) : s'.service = s.service := by
  rcases hlog with hlog | ⟨e, hlog, he⟩
  · obtain ⟨hcalls, hbroken, houtput⟩ := said_eq hlog
    exact Jobs.State.ext hjobs hhandling hcalls hbroken hover houtput
  · exact Jobs.State.ext hjobs hhandling (calls_cons hlog he.call) (broken_cons hlog he.written)
      hover (output_cons hlog he.entry)

theorem jobs_unheard (hlog : s'.log = s.log ∨ ∃ e, s'.log = e :: s.log ∧ e.Unheard) (i : Nat) :
    jobOf s'.log i = jobOf s.log i := by
  rcases hlog with hlog | ⟨e, hlog, he⟩
  · rw [hlog]
  · rw [hlog]
    exact he.job_eq

theorem service_eq_set (hu : s.urbs[t]? = some u) (hset : s'.urbs = s.urbs.set t u')
    (hloop : s'.loop = s.loop) (hjob : ∀ log, jobOf log t u' = jobOf log t u)
    (hlog : s'.log = s.log ∨ ∃ e, s'.log = e :: s.log ∧ e.Unheard) : s'.service = s.service := by
  have hjobs := jobs_unheard hlog
  refine service_eq ?_ (congrArg LoopPc.handling hloop) (congrArg LoopPc.over hloop) hlog
  rw [jobs_set hset fun i _ => hjobs i, hjob, hjobs t]
  exact set_of_getElem? (getElem?_jobs hu)

theorem service_set (hset : s'.urbs = s.urbs.set t u') (hloop : s'.loop = s.loop)
    (hother : ∀ i, i ≠ t → jobOf s'.log i = jobOf s.log i)
    {j : Jobs.Job Submit Host.Request Outcome} (hjob : jobOf s'.log t u' = j)
    {calls : List Unlink} (hcalls : s'.service.calls = calls)
    {broken : Bool} (hbroken : s'.service.broken = broken)
    {output : List (Jobs.Entry Unlink)} (houtput : s'.service.output = output) :
    s'.service = { s.service with
      jobs := s.service.jobs.set t j, calls := calls, broken := broken, output := output } := by
  refine Jobs.State.ext ?_ ?_ hcalls hbroken ?_ houtput
  · rw [jobs_set hset hother, hjob]
  · exact congrArg LoopPc.handling hloop
  · exact congrArg LoopPc.over hloop

end Said

section Task

theorem TaskMove.work_eq {a : TaskAction} (hm : TaskMove s t u a s') (hc : u.Consistent)
    (hset : s'.urbs = s.urbs.set t u') (hu : s.urbs[t]? = some u) :
    u'.closure.work = u.closure.work := by
  obtain ⟨v, hv, -, -, -, hclosure⟩ := hm.set
  obtain rfl : u' = v := set_inj hu (hset.symm.trans hv)
  rcases hclosure with hclosure | ⟨ht, hclosure⟩
  · rw [hclosure]
  · have hidle : u.closure = .idle := by
      unfold Urb.Consistent at hc
      rwa [ht] at hc
    rw [hclosure, hidle]
    rfl

theorem RepliesOk.no_reply (h : RepliesOk s) (hu : s.urbs[t]? = some u)
    (hd : u.undecided = true) : s.log.any (Event.isReplyOf t) = false := by
  rw [List.any_eq_false]
  intro e he hreply
  cases e with
  | retSubmit i n frame =>
    obtain rfl : i = t := beq_iff_eq.mp hreply
    obtain ⟨v, hv, -, -, hdecided⟩ := h.attributed i n frame he
    rw [hu] at hv
    cases hv
    rw [hd] at hdecided
    cases hdecided
  | _ => cases hreply

theorem excuses_of_flagged (h : FlagsOk s) (hu : s.urbs[t]? = some u) (hf : u.flagged = true) :
    s.service.Excuses (terms eps) (jobOf s.log t u) := by
  cases hd : s.loop.drained with
  | true =>
    refine .inr (.inr (.inr ?_))
    show (s.loop.closed || _) = true
    rw [drained_closed hd, Bool.true_or]
  | false =>
    obtain ⟨r, hr, hn⟩ := h.targeted hd t u hu hf
    refine .inr (.inl ⟨r, ?_, hn⟩)
    exact List.mem_reverse.mpr (List.mem_filterMap.mpr ⟨_, hr, rfl⟩)

theorem jobOf_answer {log' : List Event} {r : Jobs.Answer} (hmsg : u'.msg = u.msg)
    (hwork : u'.closure.work = u.closure.work) (hasked : requestsFor log' t = requestsFor log t)
    (hanswer : answerOf log' t u' = r) : jobOf log' t u' = { jobOf log t u with answer := r } := by
  simp only [jobOf, hmsg, hwork, hasked, hanswer]

theorem simulates_reply (hu : s.urbs[t]? = some u) (hset : s'.urbs = s.urbs.set t u')
    (hloop : s'.loop = s.loop) (hmsg : u'.msg = u.msg)
    (hwork : u'.closure.work = u.closure.work) {frame : Bytes} (hanswers : u.Answers frame)
    (hdue : u.undecided = true) (hl : s'.log = .retSubmit t u.msg.seqnum frame :: s.log)
    (hd : u'.undecided = false) : Jobs.Step (terms eps) s.service s'.service := by
  obtain ⟨r, hr, -⟩ := hanswers
  have hgiven : answerOf s'.log t u' = .given := by
    simp [answerOf, hd, hl, Event.isReplyOf]
  have hjob : jobOf s'.log t u' = { jobOf s.log t u with answer := .given } := by
    refine jobOf_answer hmsg hwork ?_ hgiven
    rw [hl]
    rfl
  have hother : ∀ i, i ≠ t → jobOf s'.log i = jobOf s.log i := by
    intro i hi
    rw [hl]
    exact jobOf_cons rfl (beq_eq_false_iff_ne.mpr (Ne.symm hi))
  rw [service_set hset hloop hother hjob (calls_cons hl rfl) (broken_cons hl Event.noConfusion)
    (output_entry hl rfl)]
  refine .answer r (getElem?_jobs hu) ?_ ?_
  · exact if_pos hdue
  · exact congrArg ClosurePc.work hr

theorem simulates_silence (h : RepliesOk s) (hf : FlagsOk s) (hu : s.urbs[t]? = some u)
    (hset : s'.urbs = s.urbs.set t u') (hloop : s'.loop = s.loop) (hmsg : u'.msg = u.msg)
    (hwork : u'.closure.work = u.closure.work) (hdue : u.undecided = true)
    (hd : u'.undecided = false)
    (hwhy : (s'.log = s.log ∧ (u.flagged = true ∨ u.closure = .panicked)) ∨
      s'.log = .writeFailed :: s.log) :
    ReflTransGen (Jobs.Step (terms eps)) s.service s'.service := by
  have hnone := h.no_reply hu hdue
  have hj := getElem?_jobs hu
  have hanswer : answerOf s.log t u = .due := if_pos hdue
  rcases hwhy with ⟨hl, hwhy⟩ | hl
  · have hforgone : answerOf s'.log t u' = .forgone := by
      simp [answerOf, hd, hl, hnone]
    have hjob : jobOf s'.log t u' = { jobOf s.log t u with answer := .forgone } :=
      jobOf_answer hmsg hwork (by rw [hl]) hforgone
    have hexcuse : s.service.Excuses (terms eps) (jobOf s.log t u) := by
      rcases hwhy with hflag | hpanic
      · exact excuses_of_flagged hf hu hflag
      · exact .inl (congrArg ClosurePc.work hpanic)
    obtain ⟨hcalls, hbroken, houtput⟩ := said_eq hl
    rw [service_set hset hloop (fun i _ => by rw [hl]) hjob hcalls hbroken houtput]
    exact .single (.forgo hj hanswer hexcuse)
  · have hforgone : answerOf s'.log t u' = .forgone := by
      simp [answerOf, hd, hl, hnone, Event.isReplyOf]
    have hjob : jobOf s'.log t u' = { jobOf s.log t u with answer := .forgone } := by
      refine jobOf_answer hmsg hwork ?_ hforgone
      rw [hl]
      rfl
    have hother : ∀ i, i ≠ t → jobOf s'.log i = jobOf s.log i := by
      intro i _
      rw [hl]
      exact jobOf_cons rfl rfl
    have hbroken : s'.service.broken = true := by
      simp [State.service, hl]
    rw [service_set hset hloop hother hjob (calls_cons hl rfl) hbroken (output_cons hl rfl)]
    -- the socket fails first, which excuses the URB
    have hfail : Jobs.Step (terms eps) s.service { s.service with broken := true } := .fail
    exact .head hfail (.single (.forgo hj hanswer (.inr (.inr (.inl rfl)))))

theorem simulates_task {C : State → Action → Prop} (h : session.ReachableBy C s)
    {a : TaskAction} (hu : s.urbs[t]? = some u) (hm : TaskMove s t u a s') :
    ReflTransGen (Jobs.Step (terms eps)) s.service s'.service := by
  have hreplies := repliesOk h
  have hconsistent : u.Consistent := hreplies.consistent t u hu
  obtain ⟨u', hset, hmsg, hsettles⟩ := hm.settles
  have hwork := hm.work_eq hconsistent hset hu
  have hloop := hm.loop_eq
  cases hsettles with
  | keep hl hd =>
    have hjob (log : List Event) : jobOf log t u' = jobOf log t u := by
      simp only [jobOf, answerOf, hmsg, hwork, hd]
    rw [service_eq_set hu hset hloop hjob (.inl hl)]
  | reply frame ht hl hd =>
    have hanswers : u.Answers frame := by
      unfold Urb.Consistent at hconsistent
      rwa [ht] at hconsistent
    have hdue : u.undecided = true := by
      rw [Urb.undecided, ht]
    exact .single (simulates_reply hu hset hloop hmsg hwork hanswers hdue hl hd)
  | silent hdue hd hwhy =>
    exact simulates_silence hreplies (flagsOk h) hu hset hloop hmsg hwork hdue hd hwhy

end Task

section Closure

theorem length_requestsFor (log : List Event) (t : Nat) :
    (requestsFor log t).length = askedFor log t := by
  rw [requestsFor, List.length_filterMap_eq_countP, askedFor]
  congr 1
  funext e
  cases e with
  | host i ev =>
    cases ev with
    | started req =>
      cases hmain : req.main <;> by_cases hi : i = t <;>
        simp [Event.request, Event.asksFor, HostEvent.main, hi, hmain]
    | locked => simp [Event.request, Event.asksFor, HostEvent.main]
  | _ => rfl

theorem ClosurePc.Asked.backs {m : Submit} {r : Outcome} {n : Nat}
    (h : (ClosurePc.returned r).Asked m n) : (terms eps).backs m r n := by
  refine ⟨h.le, fun hok => ?_⟩
  cases r with
  | ok v => exact h
  | error e => cases hok

theorem jobOf_closure {c : ClosurePc} {log' : List Event}
    (hreply : log'.any (Event.isReplyOf t) = log.any (Event.isReplyOf t)) :
    jobOf log' t { u with closure := c } =
      { jobOf log t u with asked := requestsFor log' t, work := c.work } := by
  simp only [jobOf, answerOf, hreply]
  rfl

theorem unheard_host {ev : HostEvent} (hmain : ev.main = false) : (Event.host t ev).Unheard := by
  refine ⟨fun i => ?_, fun _ => rfl, rfl, rfl, Event.noConfusion⟩
  cases ev with
  | started req =>
    have hreq : req.main = false := hmain
    simp [Event.request, hreq]
  | locked => rfl

theorem unheard_returned : (Event.returned t).Unheard :=
  ⟨fun _ => rfl, fun _ => rfl, rfl, rfl, Event.noConfusion⟩

theorem simulates_ask (heps : s.device.eps <+: eps) (h : AskedOk s) (hu : s.urbs[t]? = some u)
    {pc : CallPc} {a : CallAction} {r : CallStep} (hc : u.closure = .running pc)
    (hr : s.device.callStep t u.msg.call pc a = some r) {req : Host.Request}
    (hevent : r.event = some (.started req)) (hmain : req.main = true)
    (hset : s'.urbs = s.urbs.set t { u with closure := .running r.pc })
    (hloop : s'.loop = s.loop) (hl : s'.log = .host t (.started req) :: s.log) :
    Jobs.Step (terms eps) s.service s'.service := by
  have hforwards := callStep_forwards hr (h.aims t u hu pc hc) (h.running hu hc)
  have hfirst : requestsFor s.log t = [] := by
    have hadds : r.adds = 1 := by
      simp [CallStep.adds, hevent, HostEvent.main, hmain]
    have hle := hforwards.asked.le.trans (asks_le_one _)
    rw [hadds] at hle
    refine List.length_eq_zero_iff.mp ?_
    rw [length_requestsFor]
    exact Nat.le_zero.mp (Nat.le_of_succ_le_succ hle)
  have hjob : jobOf s'.log t { u with closure := .running r.pc } =
      { jobOf s.log t u with asked := [req] } := by
    have hasked : requestsFor s'.log t = [req] := by
      rw [hl, requestsFor, List.filterMap_cons_some (b := req) (by simp [Event.request, hmain])]
      exact congrArg (req :: ·) hfirst
    have hreply : s'.log.any (Event.isReplyOf t) = s.log.any (Event.isReplyOf t) := by
      rw [hl]
      rfl
    rw [jobOf_closure hreply]
    simp only [hasked, jobOf, hc, ClosurePc.work]
  have hother : ∀ i, i ≠ t → jobOf s'.log i = jobOf s.log i := by
    intro i hi
    rw [hl]
    exact jobOf_cons (by simp [Event.request, Ne.symm hi]) rfl
  rw [service_set hset hloop hother hjob (calls_cons hl rfl) (broken_cons hl Event.noConfusion)
    (output_cons hl rfl)]
  refine .ask req (getElem?_jobs hu) hfirst ?_ ?_
  · exact congrArg ClosurePc.work hc
  · exact (hforwards.request req hevent hmain).mono heps

theorem simulates_closure {C : State → Action → Prop} (heps : s.device.eps <+: eps)
    (h : session.ReachableBy C s) {a : ClosureAction} (hu : s.urbs[t]? = some u)
    (hm : ClosureMove s t u a s') :
    ReflTransGen (Jobs.Step (terms eps)) s.service s'.service := by
  have hasked := askedOk h
  have hloop := hm.loop_eq
  -- what the closure does without asking or returning
  have hinner : ∀ {c : ClosurePc}, s'.urbs = s.urbs.set t { u with closure := c } →
      c.work = u.closure.work →
      (s'.log = s.log ∨ ∃ e, s'.log = e :: s.log ∧ e.Unheard) →
      ReflTransGen (Jobs.Step (terms eps)) s.service s'.service := by
    intro c hset hwork hlog
    have hjob (log : List Event) : jobOf log t { u with closure := c } = jobOf log t u := by
      rw [jobOf_closure rfl, hwork]
      rfl
    rw [service_eq_set hu hset hloop hjob hlog]
  have hreturned : ∀ {c : ClosurePc}, s'.urbs = s.urbs.set t { u with closure := c } →
      s'.log = .returned t :: s.log → s'.service = { s.service with
        jobs := s.service.jobs.set t { jobOf s.log t u with work := c.work } } := by
    intro c hset hl
    have hjob : jobOf s'.log t { u with closure := c } =
        { jobOf s.log t u with work := c.work } := by
      have hreply : s'.log.any (Event.isReplyOf t) = s.log.any (Event.isReplyOf t) := by
        rw [hl]
        rfl
      rw [jobOf_closure hreply, hl]
      rfl
    exact service_set hset hloop (fun i _ => jobs_unheard (.inr ⟨_, hl, unheard_returned⟩) i) hjob
      (calls_cons hl rfl) (broken_cons hl Event.noConfusion) (output_cons hl rfl)
  cases hm with
  | start hc => exact hinner rfl (by rw [hc]; rfl) (.inl rfl)
  | panic hc => exact hinner rfl (by rw [hc]; rfl) (.inl rfl)
  | @call pc a r hc hr =>
    have hwork : ClosurePc.work (.running r.pc) = u.closure.work := by
      rw [hc]
      rfl
    obtain hev | ⟨ev, hev⟩ := Option.eq_none_or_eq_some r.event
    · exact hinner rfl hwork (.inl (by rw [hev]; rfl))
    · have hl : (r.event.map (Event.host t)).toList ++ s.log = .host t ev :: s.log := by
        rw [hev]
        rfl
      cases hmain : ev.main with
      | false => exact hinner rfl hwork (.inr ⟨_, hl, unheard_host hmain⟩)
      | true =>
        cases ev with
        | started req => exact .single (simulates_ask heps hasked hu hc hr hev hmain rfl rfl hl)
        | locked => cases hmain
  | @finish r hc =>
    rw [hreturned rfl rfl]
    refine .single (.finish _ (getElem?_jobs hu) (congrArg ClosurePc.work hc) ?_)
    show (terms eps).backs u.msg _ (requestsFor s.log t).length
    rw [length_requestsFor]
    exact (asked_closureOutcome (hasked.running hu hc)).backs
  | finishPanic hc =>
    rw [hreturned rfl rfl]
    exact .single (.lose (getElem?_jobs hu) (congrArg ClosurePc.work hc))

end Closure

section Loop

theorem simulates_inner {a : LoopAction} (hm : LoopMove s a s')
    (hlen : s'.urbs.length = s.urbs.length) (hhandling : s'.loop.handling = s.loop.handling)
    (hover : s'.loop.over = s.loop.over)
    (hlog : s'.log = s.log ∨ ∃ e, s'.log = e :: s.log ∧ e.Unheard) :
    ReflTransGen (Jobs.Step (terms eps)) s.service s'.service := by
  have hjobs := jobs_carries hm.carries hlen (jobs_unheard hlog)
  rw [service_eq hjobs hhandling hover hlog]

theorem simulates_close {a : LoopAction} (hm : LoopMove s a s')
    (hlen : s'.urbs.length = s.urbs.length) (hover : s'.loop.over = true)
    (hhandling : s'.loop.handling = none) (hlog : s'.log = s.log) :
    ReflTransGen (Jobs.Step (terms eps)) s.service s'.service := by
  have hjobs := jobs_carries hm.carries hlen (jobs_unheard (.inl hlog))
  obtain ⟨hcalls, hbroken, houtput⟩ := said_eq hlog
  have hservice : s'.service = { s.service with closed := true, handling := none } :=
    Jobs.State.ext hjobs hhandling hcalls hbroken hover houtput
  rw [hservice]
  exact .single .close

theorem isDue_jobOf : (jobOf log t u).isDue = u.undecided := by
  unfold jobOf Jobs.Job.isDue answerOf
  split_ifs with hd <;> simp [hd]

theorem countP_isDue_le (h : PermitsOk s) :
    s.permits + s.service.jobs.countP Jobs.Job.isDue ≤ maxInflightUrbs := by
  have hcount : s.service.jobs.countP Jobs.Job.isDue = s.urbs.countP Urb.undecided :=
    countP_mapIdx fun _ _ => isDue_jobOf
  have hdue : s.urbs.countP Urb.undecided ≤ s.urbs.countP Urb.live := by
    refine List.countP_mono_left fun u _ hu => ?_
    by_contra hlive
    rw [undecided_of_not_live (Bool.eq_false_iff.mpr hlive)] at hu
    cases hu
  unfold PermitsOk State.live at h
  omega

theorem simulates_spawn (hp : PermitsOk s) (ha : AskedOk s) {m : Submit}
    (hl : s.loop = .acquiring m) (hpermit : 0 < s.permits)
    (hurbs : s'.urbs = s.urbs ++ [{ msg := m }])
    (hloop : s'.loop = .inserting s.urbs.length m) (hlog : s'.log = s.log) :
    Jobs.Step (terms eps) s.service s'.service := by
  have hnew : jobOf s.log s.urbs.length { msg := m } = { msg := m } := by
    have hnone : requestsFor s.log s.urbs.length = [] := by
      refine List.length_eq_zero_iff.mp ?_
      rw [length_requestsFor]
      exact ha.unborn _ (Nat.le_refl _)
    simp only [jobOf, hnone, answerOf, Urb.undecided, ClosurePc.work, if_true]
  have hservice : s'.service = { s.service with jobs := s.service.jobs ++ [{ msg := m }] } := by
    obtain ⟨hcalls, hbroken, houtput⟩ := said_eq hlog
    refine Jobs.State.ext ?_ ?_ hcalls hbroken ?_ houtput
    · show s'.urbs.mapIdx (jobOf s'.log) = s.urbs.mapIdx (jobOf s.log) ++ [_]
      rw [hurbs, hlog, List.mapIdx_concat, hnew]
    · show s'.loop.handling = s.loop.handling
      rw [hloop, hl]
      rfl
    · show s'.loop.over = s.loop.over
      rw [hloop, hl]
      rfl
  rw [hservice]
  refine .submit m ?_ ?_ ?_
  · show s.loop.over = false
    rw [hl]
    rfl
  · show s.loop.handling = none
    rw [hl]
    rfl
  · have hroom := countP_isDue_le hp
    show _ < maxInflightUrbs
    omega

theorem calls_entry {r : Unlink} (hlog : s'.log = .readUnlink r :: s.log) :
    s'.service.calls = s.service.calls ++ [r] := by
  have hcall : Event.call (.readUnlink r) = some r := rfl
  rw [State.service, hlog, List.filterMap_cons_some hcall, List.reverse_cons]
  rfl

theorem simulates_unlink {r : Unlink} (hl : s.loop = .reading) (hurbs : s'.urbs = s.urbs)
    (hloop : s'.loop = .unlinking r) (hlog : s'.log = .readUnlink r :: s.log) :
    Jobs.Step (terms eps) s.service s'.service := by
  have hservice : s'.service = { s.service with
      handling := some r, calls := s.service.calls ++ [r] } := by
    refine Jobs.State.ext (jobs_cons hurbs hlog (fun _ => rfl) fun _ => rfl)
      (congrArg LoopPc.handling hloop) (calls_entry hlog) (broken_cons hlog Event.noConfusion) ?_
      (output_cons hlog rfl)
    show s'.loop.over = s.loop.over
    rw [hloop, hl]
    rfl
  rw [hservice]
  exact .callOff r (congrArg LoopPc.over hl) (congrArg LoopPc.handling hl)

theorem simulates_ack {r : Unlink} {sent : Nat} (hl : s.loop = .writing r sent)
    (hurbs : s'.urbs = s.urbs) (hloop : s'.loop = .reading)
    (hlog : s'.log = .retUnlink r :: s.log) : Jobs.Step (terms eps) s.service s'.service := by
  have hservice : s'.service = { s.service with
      handling := none, output := s.service.output ++ [.ack r] } := by
    refine Jobs.State.ext (jobs_cons hurbs hlog (fun _ => rfl) fun _ => rfl)
      (congrArg LoopPc.handling hloop) (calls_cons hlog rfl) (broken_cons hlog Event.noConfusion) ?_
      (output_entry hlog rfl)
    show s'.loop.over = s.loop.over
    rw [hloop, hl]
    rfl
  rw [hservice]
  exact .acknowledge (congrArg LoopPc.handling hl)

theorem simulates_failWrite (hurbs : s'.urbs = s.urbs) (hloop : s'.loop = .closing)
    (hlog : s'.log = .writeFailed :: s.log) :
    ReflTransGen (Jobs.Step (terms eps)) s.service s'.service := by
  have hservice : s'.service = { s.service with
      broken := true, closed := true, handling := none } := by
    refine Jobs.State.ext (jobs_cons hurbs hlog (fun _ => rfl) fun _ => rfl)
      (congrArg LoopPc.handling hloop) (calls_cons hlog rfl) ?_ (congrArg LoopPc.over hloop)
      (output_cons hlog rfl)
    simp [State.service, hlog]
  have hfail : Jobs.Step (terms eps) s.service { s.service with broken := true } := .fail
  rw [hservice]
  exact .head hfail (.single .close)

theorem simulates_loop {C : State → Action → Prop} (h : session.ReachableBy C s)
    {a : LoopAction} (hm : LoopMove s a s') :
    ReflTransGen (Jobs.Step (terms eps)) s.service s'.service := by
  have hmove := hm
  have hlen (hne : ∀ m, s.loop ≠ .acquiring m) : s'.urbs.length = s.urbs.length := by
    refine hm.length_urbs.resolve_right ?_
    rintro ⟨m, hl, -⟩
    exact hne m hl
  cases hm with
  | submit hl | abort hl =>
    refine simulates_inner hmove (hlen (by simp [hl])) (by rw [hl]; rfl) (by rw [hl]; rfl)
      (.inr ⟨_, rfl, ?_⟩)
    exact ⟨fun _ => rfl, fun _ => rfl, rfl, rfl, Event.noConfusion⟩
  | @unlink r hl => exact .single (simulates_unlink hl rfl rfl rfl)
  | spawn hl hp => exact .single (simulates_spawn (permitsOk h) (askedOk h) hl hp rfl rfl rfl)
  | hangUp hl | epPoisoned hl =>
    exact simulates_close hmove (hlen (by simp [hl])) rfl rfl rfl
  | panic => exact simulates_close hmove rfl rfl rfl rfl
  | @finishWrite r hl => exact .single (simulates_ack hl rfl rfl rfl)
  | failWrite => exact simulates_failWrite rfl rfl rfl
  | drain hl | drainAbort hl =>
    refine simulates_inner hmove (hlen (by simp [hl])) ?_ ?_ (.inl rfl)
    · rw [hl]
      exact drainNext_eq LoopPc.handling (fun _ _ => rfl) _
    · rw [hl]
      exact drainNext_eq LoopPc.over (fun _ _ => rfl) _
  | _ hl =>
    exact simulates_inner hmove (hlen (by simp [hl])) (by rw [hl]; rfl) (by rw [hl]; rfl) (.inl rfl)

end Loop

section Refinement

def Within (eps : List AnyEp) (s : State) (_ : Action) : Prop := s.device.eps <+: eps

instance (eps : List AnyEp) (s : State) (a : Action) : Decidable (Within eps s a) :=
  inferInstanceAs (Decidable (_ <+: _))

theorem refines : Refines session (Within eps) State.service (· = {}) (Jobs.Step (terms eps)) where
  init := by
    rintro s ⟨configurations, active, rfl⟩
    rfl
  step := by
    intro s a s' h heps hs
    cases step_move hs with
    | task hu hm => exact simulates_task h hu hm
    | closure hu hm => exact simulates_closure heps h hu hm
    | loop hm => exact simulates_loop h hm

theorem reachable_within (h : session.Reachable s) (heps : s.device.eps <+: eps) :
    session.ReachableBy (Within eps) s := by
  refine h.invariant (I := fun s => s.device.eps <+: eps → session.ReachableBy (Within eps) s)
    ?_ ?_ heps
  · intro s hinit _
    exact .start hinit
  · intro s a s' _ hi _ hs heps'
    have hold : s.device.eps <+: eps := (step_move hs).eps_grows.trans heps'
    exact .step (hi hold) hold hs

theorem run_within {as : List Action} (h : session.run s as = some s') :
    s.device.eps <+: s'.device.eps ∧ session.replay (Within s'.device.eps) s as = some s' := by
  induction as generalizing s with
  | nil =>
    cases h
    exact ⟨List.prefix_rfl, rfl⟩
  | cons a as ih =>
    simp only [System.run, System.replay, if_true] at h
    obtain ⟨s₁, hstep, hrest⟩ := Option.bind_eq_some_iff.mp h
    obtain ⟨hgrows, hreplay⟩ := ih hrest
    have heps : s.device.eps <+: s'.device.eps := (step_move hstep).eps_grows.trans hgrows
    refine ⟨heps, ?_⟩
    rw [System.replay, if_pos (show Within s'.device.eps s a from heps), hstep]
    exact hreplay

theorem kept (h : session.Reachable s) : Jobs.Kept (terms s.device.eps) s.service := by
  refine refines.invariant (I := Jobs.Kept (terms s.device.eps)) ?_ ?_
    (reachable_within h List.prefix_rfl)
  · rintro a rfl
    exact Jobs.kept_init
  · intro a a' ha hstep
    exact ha.step hstep

/-- The frame for an entry of the output: a reply carries the outcome of its job. -/
def frameOf (a : Jobs.State Submit Host.Request Outcome Unlink) : Jobs.Entry Unlink → Option Bytes
  | .reply t => a.jobs[t]?.bind fun j => j.work.outcome.map (retSubmitFrame j.msg)
  | .ack r => some (retUnlinkFrame r)

theorem frames_eq_output (h : RepliesOk s) :
    s.frames.map some = s.service.output.map (frameOf s.service) := by
  show (s.log.filterMap Event.frame).reverse.map some =
    (s.log.filterMap Event.entry).reverse.map _
  rw [List.map_reverse, List.map_reverse, List.map_filterMap, List.map_filterMap]
  congr 1
  apply List.filterMap_congr
  intro e he
  cases e with
  | retSubmit t n frame =>
    obtain ⟨u, hu, -, ⟨r, hr, rfl⟩, -⟩ := h.attributed t n frame he
    have hframe : frameOf s.service (.reply t) = some (retSubmitFrame u.msg r) := by
      rw [frameOf, getElem?_jobs hu]
      simp only [Option.bind_some, jobOf, hr, ClosurePc.work, Jobs.Work.outcome, Option.map_some]
    exact congrArg some hframe.symm
  | _ => rfl

/-- However its threads interleave, a session does what the service does: each of its runs is
a run of the service, which keeps to its terms, and the frames that are out are what the
service has put out, every reply with the outcome of its own job. -/
theorem session_refines_service (h : session.Reachable s) {as : List Action}
    (hrun : session.run s as = some s') :
    ReflTransGen (Jobs.Step (terms s'.device.eps)) {} s.service ∧
      ReflTransGen (Jobs.Step (terms s'.device.eps)) s.service s'.service ∧
      Jobs.Kept (terms s'.device.eps) s'.service ∧
      s'.frames.map some = s'.service.output.map (frameOf s'.service) := by
  have hreach : session.Reachable s' := System.replay_reachableBy h hrun
  obtain ⟨hgrows, hreplay⟩ := run_within hrun
  have hwithin := reachable_within h hgrows
  obtain ⟨a, rfl, hsteps⟩ := refines.reaches hwithin
  exact ⟨hsteps, refines.replay hwithin hreplay, kept hreach, frames_eq_output (repliesOk hreach)⟩

theorem session_refines_service_replied : ∃ s', session.Reachable s' ∧
    Jobs.Kept (terms s'.device.eps) s'.service ∧
    s'.service.output.map (frameOf s'.service) =
      [some (retSubmitFrame (Sample.submit 7 0) (.ok (0, [])))] := by
  let actions := Sample.accept (Sample.submit 7 0) ++ Sample.handOff 0 ++
    [.start, .call .go, .call (.answered (.ok [])), .finish].map (.closure 0) ++
    Sample.buildReply 0 ++ Sample.writeReply 0
  have hframes : (session.run (.initial Sample.device) actions).map State.frames =
      some [retSubmitFrame (Sample.submit 7 0) (.ok (0, []))] := by
    decide +kernel
  obtain ⟨s', hrun, hout⟩ := Option.map_eq_some_iff.mp hframes
  have hstart : session.Reachable (.initial Sample.device) := .start Sample.init_device
  obtain ⟨-, -, hkept, heq⟩ := session_refines_service hstart hrun
  refine ⟨s', System.replay_reachableBy hstart hrun, hkept, ?_⟩
  rw [← heq, hout]
  rfl

end Refinement

section Served

/-- Every submit the loop has read is a job of the service, and none waits for anything. -/
structure Served (s : State) : Prop where
  service : Jobs.Served (terms s.device.eps) s.service
  submits : ∀ n, s.submits n = s.service.jobs.countP fun j => j.msg.seqnum == n

theorem AtRest.served (h : session.Reachable s) (hrest : AtRest s) : Served s := by
  have hidle : s.loop.handling = none ∧ ∀ n, s.loop.unspawned n = 0 := by
    have hloop := hrest.loop
    generalize s.loop = l at hloop
    cases l with
    | reading | ended | panicked => exact ⟨rfl, fun _ => rfl⟩
    | _ => cases hloop
  refine ⟨(kept h).served ?_ hidle.1, fun n => ?_⟩
  · intro t j hj
    obtain ⟨u, hu, rfl⟩ : ∃ u, s.urbs[t]? = some u ∧ jobOf s.log t u = j := by
      rw [State.service, List.getElem?_mapIdx] at hj
      exact Option.map_eq_some_iff.mp hj
    have hdecided : (jobOf s.log t u).isDue = false := by
      rw [isDue_jobOf]
      exact undecided_of_not_live (hrest.urbs t u hu).1
    intro hdue
    rw [Jobs.Job.isDue, hdue] at hdecided
    cases hdecided
  · have hjobs : s.service.jobs.countP (fun j => j.msg.seqnum == n) = s.spawned n :=
      countP_mapIdx (q := Urb.hasSeqnum n) fun _ _ => rfl
    rw [(balanceOk h).read n, hidle.2 n, Nat.add_zero, hjobs]

/-- A session whose client is silent serves it. However its steps are interleaved and
whatever fails, where it cannot go on each submit has had its one reply, with what came of
it, or there is a reason that it has none, and each unlink its acknowledgement; and it need
not come to a failure for that. -/
theorem requests_served (h : session.Reachable s) :
    (∀ as s', session.replay (fun s a => s.prompt a = true) s as = some s' →
      (∀ a, s'.prompt a = true → a.fails = false → session.step s' a = none) → Served s') ∧
    ∃ as s', session.replay (fun s a => s.prompt a = true ∧ a.fails = false) s as = some s' ∧
      Served s' := by
  have hserved : ∀ s, session.Reachable s → Quiet s → Served s :=
    fun _ hr hq => (hq.atRest hr).served hr
  obtain ⟨hbound, hend⟩ := ranked.settles (fun _ _ ha => ha.1) hserved h
  refine ⟨fun as s' hrun hquiet => ?_, hend⟩
  exact (hbound as s' hrun).2 fun a ha => hquiet a ha.1 ha.2

theorem requests_served_accepted : ∃ s, session.Reachable s ∧ s.permits = 255 ∧
    ∃ as s', session.replay (fun s a => s.prompt a = true ∧ a.fails = false) s as = some s' ∧
      Served s' := by
  have hrun : (session.run (.initial Sample.device) (Sample.accept (Sample.submit 7 0))).map
      State.permits = some 255 := by
    rfl
  obtain ⟨s, hs, hp⟩ := System.exists_reachable_of_run Sample.init_device hrun
  exact ⟨s, hs, hp, (requests_served hs).2⟩

end Served

end Usbip.Session
