import Mathlib.Data.List.Nodup
import UsbipdDarwin.Lts.Threads

/-! A service that takes jobs for a device and answers them. Each job is put to the device
at most once and answered at most once, with what came of its own work; an answer is only
left out for a reason. A job can be called off, and each call is acknowledged. -/

namespace Lts.Jobs

variable {μ ρ ω υ : Type*}

inductive Work (ω : Type*)
  | waiting
  | done (r : ω)
  | lost

def Work.outcome : Work ω → Option ω
  | .done r => some r
  | .waiting | .lost => none

inductive Answer
  | due
  | given
  | forgone
  deriving DecidableEq

structure Job (μ ρ ω : Type*) where
  msg : μ
  asked : List ρ := []
  work : Work ω := .waiting
  answer : Answer := .due

def Job.isDue (j : Job μ ρ ω) : Bool := j.answer == .due

inductive Entry (υ : Type*)
  | reply (t : Nat)
  | ack (c : υ)

def Entry.replied : Entry υ → Option Nat
  | .reply t => some t
  | .ack _ => none

def Entry.acked : Entry υ → Option υ
  | .reply _ => none
  | .ack c => some c

/-- `calls` are the calls so far and `handling` is the one that has no word yet. -/
@[ext]
structure State (μ ρ ω υ : Type*) where
  jobs : List (Job μ ρ ω) := []
  handling : Option υ := none
  calls : List υ := []
  broken : Bool := false
  closed : Bool := false
  output : List (Entry υ) := []

/-- The terms of the service: how many answers may be due at a time, what may be asked of
the device for a job, which outcome may be had after how many requests, and which jobs a
call is about. -/
structure Terms (μ ρ ω υ : Type*) where
  limit : Nat
  wants : μ → ρ → Prop
  backs : μ → ω → Nat → Prop
  names : υ → μ → Prop

variable {T : Terms μ ρ ω υ} {s s' : State μ ρ ω υ} {t : Nat} {j : Job μ ρ ω}

def State.Excuses (T : Terms μ ρ ω υ) (s : State μ ρ ω υ) (j : Job μ ρ ω) : Prop :=
  j.work = .lost ∨ (∃ c ∈ s.calls, T.names c j.msg) ∨ s.broken = true ∨ s.closed = true

inductive Step (T : Terms μ ρ ω υ) (s : State μ ρ ω υ) : State μ ρ ω υ → Prop
  | submit (m : μ) (hclosed : s.closed = false) (hidle : s.handling = none)
      (hroom : s.jobs.countP Job.isDue < T.limit) :
      Step T s { s with jobs := s.jobs ++ [{ msg := m }] }
  | ask {t : Nat} {j : Job μ ρ ω} (q : ρ) (hj : s.jobs[t]? = some j) (hfirst : j.asked = [])
      (hwork : j.work = .waiting) (hwants : T.wants j.msg q) :
      Step T s { s with jobs := s.jobs.set t { j with asked := [q] } }
  | finish {t : Nat} {j : Job μ ρ ω} (r : ω) (hj : s.jobs[t]? = some j)
      (hwork : j.work = .waiting) (hbacks : T.backs j.msg r j.asked.length) :
      Step T s { s with jobs := s.jobs.set t { j with work := .done r } }
  | lose {t : Nat} {j : Job μ ρ ω} (hj : s.jobs[t]? = some j) (hwork : j.work = .waiting) :
      Step T s { s with jobs := s.jobs.set t { j with work := .lost } }
  | answer {t : Nat} {j : Job μ ρ ω} (r : ω) (hj : s.jobs[t]? = some j) (hdue : j.answer = .due)
      (hwork : j.work = .done r) :
      Step T s { s with
        jobs := s.jobs.set t { j with answer := .given }
        output := s.output ++ [.reply t] }
  | forgo {t : Nat} {j : Job μ ρ ω} (hj : s.jobs[t]? = some j) (hdue : j.answer = .due)
      (hexcuse : s.Excuses T j) :
      Step T s { s with jobs := s.jobs.set t { j with answer := .forgone } }
  | callOff (c : υ) (hclosed : s.closed = false) (hidle : s.handling = none) :
      Step T s { s with handling := some c, calls := s.calls ++ [c] }
  | acknowledge {c : υ} (hc : s.handling = some c) :
      Step T s { s with handling := none, output := s.output ++ [.ack c] }
  | fail : Step T s { s with broken := true }
  | close : Step T s { s with closed := true, handling := none }

structure Job.Sound (T : Terms μ ρ ω υ) (s : State μ ρ ω υ) (t : Nat) (j : Job μ ρ ω) : Prop where
  asked : j.asked.length ≤ 1 ∧ ∀ q ∈ j.asked, T.wants j.msg q
  backed : ∀ r, j.work = .done r → T.backs j.msg r j.asked.length
  given : j.answer = .given → ∃ r, j.work = .done r
  forgone : j.answer = .forgone → s.Excuses T j
  reply : .reply t ∈ s.output ↔ j.answer = .given

structure Kept (T : Terms μ ρ ω υ) (s : State μ ρ ω υ) : Prop where
  jobs : Each (Job.Sound T s) s.jobs
  unborn : ∀ t, s.jobs.length ≤ t → .reply t ∉ s.output
  once : (s.output.filterMap Entry.replied).Nodup
  acks : s.closed = false → s.output.filterMap Entry.acked ++ s.handling.toList = s.calls

theorem kept_init : Kept T ({} : State μ ρ ω υ) :=
  ⟨.nil, fun _ _ => List.not_mem_nil, List.nodup_nil, fun _ => rfl⟩

theorem Job.Sound.mono (h : j.Sound T s t) (hexcuse : s.Excuses T j → s'.Excuses T j)
    (hout : .reply t ∈ s'.output ↔ .reply t ∈ s.output) : j.Sound T s' t :=
  ⟨h.asked, h.backed, h.given, fun hf => hexcuse (h.forgone hf), hout.trans h.reply⟩

theorem mem_output_append {e : Entry υ} (he : e.replied ≠ some t) :
    .reply t ∈ s.output ++ [e] ↔ .reply t ∈ s.output := by
  rw [List.mem_append, List.mem_singleton, or_iff_left_iff_imp]
  rintro rfl
  exact absurd rfl he

section Sound

variable {q : ρ} {r : ω}

theorem Job.Sound.ask (h : j.Sound T s t) (hwork : j.work = .waiting) (hwants : T.wants j.msg q) :
    Job.Sound T s t { j with asked := [q] } := by
  refine ⟨⟨Nat.le_refl 1, fun q' hq => ?_⟩, fun r hr => ?_, h.given, h.forgone, h.reply⟩
  · rw [List.mem_singleton.mp hq]
    exact hwants
  · rw [show j.work = .done r from hr] at hwork
    cases hwork

theorem Job.Sound.finish (h : j.Sound T s t) (hwork : j.work = .waiting)
    (hbacks : T.backs j.msg r j.asked.length) : Job.Sound T s t { j with work := .done r } := by
  refine ⟨h.asked, fun r' hr => ?_, fun _ => ⟨r, rfl⟩, fun hf => ?_, h.reply⟩
  · cases hr
    exact hbacks
  · rcases h.forgone hf with hlost | hother
    · rw [hlost] at hwork
      cases hwork
    · exact .inr hother

theorem Job.Sound.lose (h : j.Sound T s t) (hwork : j.work = .waiting) :
    Job.Sound T s t { j with work := .lost } := by
  refine ⟨h.asked, fun r hr => ?_, fun hg => ?_, fun _ => .inl rfl, h.reply⟩
  · cases hr
  · obtain ⟨r, hr⟩ := h.given hg
    rw [hr] at hwork
    cases hwork

theorem Job.Sound.not_replied (h : j.Sound T s t) (hdue : j.answer = .due) :
    .reply t ∉ s.output := by
  rw [h.reply, hdue]
  intro hg
  cases hg

theorem Job.Sound.forgo (h : j.Sound T s t) (hdue : j.answer = .due) (hexcuse : s.Excuses T j) :
    Job.Sound T s t { j with answer := .forgone } := by
  refine ⟨h.asked, h.backed, fun hg => ?_, fun _ => hexcuse, fun hmem => ?_, fun hg => ?_⟩
  · cases hg
  · exact absurd hmem (h.not_replied hdue)
  · cases hg

end Sound

theorem mem_replied {output : List (Entry υ)} :
    t ∈ output.filterMap Entry.replied ↔ .reply t ∈ output := by
  rw [List.mem_filterMap]
  constructor
  · rintro ⟨e, he, heq⟩
    cases e with
    | reply i =>
      cases heq
      exact he
    | ack c => cases heq
  · intro hmem
    exact ⟨_, hmem, rfl⟩

theorem Kept.set {j' : Job μ ρ ω} (h : Kept T s) (hjobs : s'.jobs = s.jobs.set t j')
    (hj : s.jobs[t]? = some j) (hcalls : s'.calls = s.calls) (hbroken : s'.broken = s.broken)
    (hclosed : s'.closed = s.closed) (hhandling : s'.handling = s.handling)
    (hacked : s'.output.filterMap Entry.acked = s.output.filterMap Entry.acked)
    (hout : ∀ i, i ≠ t → (.reply i ∈ s'.output ↔ .reply i ∈ s.output))
    (hsound : j'.Sound T s' t) (honce : (s'.output.filterMap Entry.replied).Nodup) :
    Kept T s' := by
  refine ⟨?_, fun i hi => ?_, honce, fun ho => ?_⟩
  · rw [hjobs]
    refine h.jobs.set hsound fun i v hne _ hv => hv.mono (fun he => ?_) (hout i hne)
    rw [State.Excuses, hcalls, hbroken, hclosed]
    exact he
  · rw [hjobs, List.length_set] at hi
    have hne : i ≠ t := Nat.ne_of_gt (Nat.lt_of_lt_of_le (lt_length_of_getElem? hj) hi)
    rw [hout i hne]
    exact h.unborn i hi
  · rw [hacked, hhandling, hcalls]
    exact h.acks (hclosed ▸ ho)

theorem Kept.update {j' : Job μ ρ ω} (h : Kept T s) (hj : s.jobs[t]? = some j)
    (hsound : j'.Sound T s t) : Kept T { s with jobs := s.jobs.set t j' } :=
  h.set rfl hj rfl rfl rfl rfl rfl (fun _ _ => Iff.rfl) (hsound.mono id Iff.rfl) h.once

theorem Kept.step (h : Kept T s) (hs : Step T s s') : Kept T s' := by
  cases hs with
  | submit m hclosed hidle =>
    refine ⟨(Each.append (fun i v hv => (h.jobs i v hv).mono id Iff.rfl) ?_), fun t ht => ?_,
      h.once, h.acks⟩
    · refine ⟨⟨Nat.zero_le 1, fun q hq => ?_⟩, fun r hr => ?_, fun hg => ?_, fun hf => ?_,
        fun hmem => ?_, fun hg => ?_⟩
      · cases hq
      · cases hr
      · cases hg
      · cases hf
      · exact absurd hmem (h.unborn _ (Nat.le_refl _))
      · cases hg
    · rw [List.length_append] at ht
      exact h.unborn t (Nat.le_of_add_right_le ht)
  | ask q hj hfirst hwork hwants => exact h.update hj ((h.jobs _ _ hj).ask hwork hwants)
  | finish r hj hwork hbacks => exact h.update hj ((h.jobs _ _ hj).finish hwork hbacks)
  | lose hj hwork => exact h.update hj ((h.jobs _ _ hj).lose hwork)
  | forgo hj hdue hexcuse => exact h.update hj ((h.jobs _ _ hj).forgo hdue hexcuse)
  | @answer t j r hj hdue hwork =>
    have hold := h.jobs t j hj
    refine h.set rfl hj rfl rfl rfl rfl ?_ (fun i hi => mem_output_append ?_) ?_ ?_
    · rw [List.filterMap_append]
      exact List.append_nil _
    · intro heq
      cases heq
      exact hi rfl
    · refine ⟨hold.asked, hold.backed, fun _ => ⟨r, hwork⟩, fun hf => ?_, ?_⟩
      · cases hf
      · exact ⟨fun _ => rfl, fun _ => List.mem_append_right _ (List.mem_singleton_self _)⟩
    · rw [List.filterMap_append]
      show (s.output.filterMap Entry.replied ++ [t]).Nodup
      refine h.once.append (List.nodup_singleton t) ?_
      rw [List.disjoint_singleton, mem_replied]
      exact hold.not_replied hdue
  | callOff c hclosed hidle =>
    refine ⟨fun i v hv => (h.jobs i v hv).mono (fun he => ?_) Iff.rfl, h.unborn, h.once,
      fun ho => ?_⟩
    · rcases he with hlost | ⟨c', hc', hnames⟩ | hother
      · exact .inl hlost
      · exact .inr (.inl ⟨c', List.mem_append_left _ hc', hnames⟩)
      · exact .inr (.inr hother)
    · have hacks := h.acks hclosed
      rw [hidle, Option.toList_none, List.append_nil] at hacks
      rw [Option.toList_some, hacks]
  | @acknowledge c hc =>
    have hout (i : Nat) : .reply i ∈ s.output ++ [.ack c] ↔ .reply i ∈ s.output :=
      mem_output_append (by simp [Entry.replied])
    refine ⟨fun i v hv => (h.jobs i v hv).mono id (hout i), fun i hi => ?_, ?_, fun ho => ?_⟩
    · rw [hout i]
      exact h.unborn i hi
    · rw [List.filterMap_append]
      exact (List.append_nil (s.output.filterMap Entry.replied)).symm ▸ h.once
    · have hacks := h.acks ho
      rw [hc] at hacks
      rw [List.filterMap_append]
      exact (List.append_nil _).trans hacks
  | fail =>
    refine ⟨fun i v hv => (h.jobs i v hv).mono (fun he => ?_) Iff.rfl, h.unborn, h.once, h.acks⟩
    rcases he with hlost | hcalled | hrest
    · exact .inl hlost
    · exact .inr (.inl hcalled)
    · exact .inr (.inr (.inl rfl))
  | close =>
    have hexcuse (v : Job μ ρ ω) : State.Excuses T { s with closed := true, handling := none } v :=
      .inr (.inr (.inr rfl))
    refine ⟨fun i v hv => (h.jobs i v hv).mono (fun _ => hexcuse v) Iff.rfl, h.unborn, h.once, ?_⟩
    intro ho
    cases ho

/-- Nobody waits for anything: each job has its one answer, which is the outcome of its
work, or is excused, and the calls were acknowledged in the order they came in. -/
structure Served (T : Terms μ ρ ω υ) (s : State μ ρ ω υ) : Prop where
  answered : Each (fun t j => (.reply t ∈ s.output ∧ ∃ r, j.work = .done r ∧
    T.backs j.msg r j.asked.length) ∨ (.reply t ∉ s.output ∧ s.Excuses T j)) s.jobs
  once : (s.output.filterMap Entry.replied).Nodup
  acks : s.closed = false → s.output.filterMap Entry.acked = s.calls

theorem Kept.served (h : Kept T s) (hdue : Each (fun _ j => j.answer ≠ .due) s.jobs)
    (hidle : s.handling = none) : Served T s := by
  refine ⟨fun t j hj => ?_, h.once, fun ho => ?_⟩
  · have hsound := h.jobs t j hj
    cases hanswer : j.answer with
    | due => exact absurd hanswer (hdue t j hj)
    | given =>
      obtain ⟨r, hr⟩ := hsound.given hanswer
      exact .inl ⟨hsound.reply.mpr hanswer, r, hr, hsound.backed r hr⟩
    | forgone =>
      refine .inr ⟨?_, hsound.forgone hanswer⟩
      rw [hsound.reply, hanswer]
      intro hg
      cases hg
  · have hacks := h.acks ho
    rwa [hidle, Option.toList_none, List.append_nil] at hacks

end Lts.Jobs
