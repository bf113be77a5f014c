import Mathlib.Algebra.Ring.Nat
import UsbipdDarwin.Lts.Reachable

/-! Runs that use something up. Where every step of the work takes some of a rank away, no
run does more work than the rank; where every step is one, no run is longer, and each can
be carried on until nothing is left to do. -/

namespace Lts

variable {σ α : Type*}

namespace System

variable {S : System σ α} {C : σ → α → Prop} {I : σ → Prop} {rank : σ → Nat} {s s' : σ}

/-- Under `C` the invariant `I` is kept and `rank` goes down with each action that `works`,
and never up. -/
structure Working (S : System σ α) (C : σ → α → Prop) (works : α → Bool) (I : σ → Prop)
    (rank : σ → Nat) : Prop where
  keeps : ∀ {s s' : σ} {a : α}, I s → C s a → S.step s a = some s' → I s'
  decreases : ∀ {s s' : σ} {a : α}, I s → C s a → works a = true → S.step s a = some s' →
    rank s' < rank s
  idles : ∀ {s s' : σ} {a : α}, I s → C s a → works a = false → S.step s a = some s' →
    rank s' ≤ rank s

structure Ranked (S : System σ α) (C : σ → α → Prop) (I : σ → Prop) (rank : σ → Nat) : Prop where
  keeps : ∀ {s s' : σ} {a : α}, I s → C s a → S.step s a = some s' → I s'
  decreases : ∀ {s s' : σ} {a : α}, I s → C s a → S.step s a = some s' → rank s' < rank s

def Stuck (S : System σ α) (C : σ → α → Prop) (s : σ) : Prop := ∀ a, C s a → S.step s a = none

theorem Ranked.mono {C' : σ → α → Prop} (h : S.Ranked C I rank) (hC : ∀ s a, C' s a → C s a) :
    S.Ranked C' I rank :=
  ⟨fun hi hc hs => h.keeps hi (hC _ _ hc) hs, fun hi hc hs => h.decreases hi (hC _ _ hc) hs⟩

theorem Ranked.restrict {J : σ → Prop} (h : S.Ranked C I rank) (hI : ∀ s, J s → I s)
    (hJ : ∀ {s s' : σ} {a : α}, J s → C s a → S.step s a = some s' → J s') :
    S.Ranked C J rank :=
  ⟨hJ, fun hj hc hs => h.decreases (hI _ hj) hc hs⟩

variable [∀ s a, Decidable (C s a)]

theorem Working.replay {works : α → Bool} (h : S.Working C works I rank) {as : List α}
    (hs : I s) (hr : S.replay C s as = some s') : I s' ∧ as.countP works + rank s' ≤ rank s := by
  induction as generalizing s with
  | nil =>
    cases hr
    exact ⟨hs, Nat.le_of_eq (Nat.zero_add _)⟩
  | cons a as ih =>
    simp only [System.replay] at hr
    split_ifs at hr with hc
    obtain ⟨s₁, hstep, hrest⟩ := Option.bind_eq_some_iff.mp hr
    obtain ⟨hs', hle⟩ := ih (h.keeps hs hc hstep) hrest
    refine ⟨hs', ?_⟩
    cases hw : works a with
    | true =>
      have hlt := h.decreases hs hc hw hstep
      rw [List.countP_cons_of_pos hw]
      omega
    | false =>
      have hge := h.idles hs hc hw hstep
      rw [List.countP_cons_of_neg (by rw [hw]; exact Bool.false_ne_true)]
      omega

theorem Ranked.replay (h : S.Ranked C I rank) {as : List α} (hs : I s)
    (hr : S.replay C s as = some s') : I s' ∧ as.length + rank s' ≤ rank s := by
  have hworking : S.Working C (fun _ => true) I rank :=
    ⟨h.keeps, fun hi hc _ hs => h.decreases hi hc hs, fun _ _ hw => by cases hw⟩
  rw [← List.countP_true]
  exact hworking.replay hs hr

theorem Ranked.exists_stuck (h : S.Ranked C I rank) (hs : I s) :
    ∃ as s', S.replay C s as = some s' ∧ S.Stuck C s' := by
  induction hn : rank s using Nat.strongRecOn generalizing s with
  | ind n ih =>
    by_cases hstuck : S.Stuck C s
    · exact ⟨[], s, rfl, hstuck⟩
    · simp only [Stuck, not_forall] at hstuck
      obtain ⟨a, hc, hne⟩ := hstuck
      obtain ⟨s₁, hstep⟩ := Option.ne_none_iff_exists'.mp hne
      obtain ⟨as, s', hrun, hend⟩ := ih _ (hn ▸ h.decreases hs hc hstep) (h.keeps hs hc hstep) rfl
      refine ⟨a :: as, s', ?_, hend⟩
      simp only [System.replay, if_pos hc, hstep, Option.bind_some]
      exact hrun

/-- Where whoever is stuck under a narrower condition is at rest, every run under the wider
one is bounded and ends at rest if it ends, and the narrower one is enough to get there. -/
theorem Ranked.settles {C' : σ → α → Prop} [∀ s a, Decidable (C' s a)] {Rest : σ → Prop}
    (h : S.Ranked C I rank) (hC : ∀ s a, C' s a → C s a)
    (hrest : ∀ s, I s → S.Stuck C' s → Rest s) (hs : I s) :
    (∀ as s', S.replay C s as = some s' →
      as.length ≤ rank s ∧ (S.Stuck C' s' → Rest s')) ∧
    ∃ as s', S.replay C' s as = some s' ∧ Rest s' := by
  constructor
  · intro as s' hrun
    obtain ⟨hs', hlen⟩ := h.replay hs hrun
    exact ⟨Nat.le_of_add_right_le hlen, hrest s' hs'⟩
  · have hnarrow := h.mono hC
    obtain ⟨as, s', hrun, hstuck⟩ := hnarrow.exists_stuck hs
    exact ⟨as, s', hrun, hrest s' (hnarrow.replay hs hrun).1 hstuck⟩

theorem Working.settles {W C' : σ → α → Prop} [∀ s a, Decidable (W s a)]
    [∀ s a, Decidable (C' s a)] {works : α → Bool} {work : σ → Nat} {Rest : σ → Prop}
    (hw : S.Working W works I work) (h : S.Ranked C I rank) (hC : ∀ s a, C' s a → C s a)
    (hrest : ∀ s, I s → S.Stuck C' s → Rest s) (hs : I s) :
    (∀ as s', S.replay W s as = some s' →
      as.countP works ≤ work s ∧ (S.Stuck C' s' → Rest s')) ∧
    (∀ as s', S.replay C s as = some s' → as.length ≤ rank s) ∧
    ∃ as s', S.replay C' s as = some s' ∧ Rest s' := by
  obtain ⟨hbound, hend⟩ := h.settles hC hrest hs
  refine ⟨fun as s' hrun => ?_, fun as s' hrun => (hbound as s' hrun).1, hend⟩
  obtain ⟨hs', hcount⟩ := hw.replay hs hrun
  exact ⟨Nat.le_of_add_right_le hcount, hrest s' hs'⟩

end System

section Sums

variable {υ : Type*} {pool : List υ} {t : Nat} {u : υ}

theorem sum_map_set_add (f : υ → Nat) (h : pool[t]? = some u) (u' : υ) :
    ((pool.set t u').map f).sum + f u = (pool.map f).sum + f u' := by
  induction pool generalizing t with
  | nil => simp at h
  | cons v pool ih =>
    cases t with
    | zero =>
      obtain rfl : v = u := by simpa using h
      simp only [List.set_cons_zero, List.map_cons, List.sum_cons]
      omega
    | succ t =>
      have htail := ih (t := t) (by simpa using h)
      simp only [List.set_cons_succ, List.map_cons, List.sum_cons]
      omega

theorem sum_map_modify {f : υ → Nat} {g : υ → υ} (hg : ∀ u, f (g u) = f u) :
    ((pool.modify t g).map f).sum = (pool.map f).sum := by
  induction pool generalizing t with
  | nil => simp
  | cons v pool ih =>
    cases t with
    | zero => simp [hg]
    | succ t => simp [ih]

end Sums

end Lts
