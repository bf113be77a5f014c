import Mathlib.Data.List.Basic

/-! Systems with a computable partial step, the states they reach, and the runs
whose every step meets a side condition. A condition reads the state before the
step, so a theorem over `ReachableBy C` speaks of all runs that keep to `C`. -/

namespace Lts

variable {σ α τ β : Type*}

structure System (σ α : Type*) where
  init : σ → Prop
  step : σ → α → Option σ

namespace System

inductive ReachableBy (S : System σ α) (C : σ → α → Prop) : σ → Prop
  | start {s : σ} : S.init s → ReachableBy S C s
  | step {s s' : σ} {a : α} : ReachableBy S C s → C s a → S.step s a = some s' →
      ReachableBy S C s'

def Reachable (S : System σ α) : σ → Prop := S.ReachableBy (fun _ _ => True)

variable {S : System σ α} {C : σ → α → Prop} {s s' : σ}

/-- The invariant rule. The step obligation may use that the state before the
step is itself reachable, hence any invariant proved earlier. -/
theorem ReachableBy.invariant {I : σ → Prop} (h : S.ReachableBy C s)
    (hinit : ∀ s, S.init s → I s)
    (hstep : ∀ s a s', S.ReachableBy C s → I s → C s a → S.step s a = some s' → I s') : I s := by
  induction h with
  | start h0 => exact hinit _ h0
  | step hr hc hs ih => exact hstep _ _ _ hr ih hc hs

theorem ReachableBy.mono {C' : σ → α → Prop} (h : S.ReachableBy C s)
    (hC : ∀ s a, C s a → C' s a) : S.ReachableBy C' s := by
  induction h with
  | start h0 => exact .start h0
  | step _ hc hs ih => exact .step ih (hC _ _ hc) hs

/-- Replays a list of actions, refusing one that is not enabled or breaks `C`. -/
def replay (S : System σ α) (C : σ → α → Prop) [∀ s a, Decidable (C s a)] :
    σ → List α → Option σ
  | s, [] => some s
  | s, a :: as => if C s a then (S.step s a).bind (fun s' => replay S C s' as) else none

theorem replay_reachableBy [∀ s a, Decidable (C s a)] {as : List α}
    (h : S.ReachableBy C s) (hr : S.replay C s as = some s') : S.ReachableBy C s' := by
  induction as generalizing s with
  | nil =>
    cases hr
    exact h
  | cons a as ih =>
    simp only [replay] at hr
    split_ifs at hr with hc
    obtain ⟨s₁, h₁, h₂⟩ := Option.bind_eq_some_iff.mp hr
    exact ih (.step h hc h₁) h₂

theorem exists_reachableBy_of_replay [∀ s a, Decidable (C s a)] {as : List α} {β : Type*}
    {p : σ → β} {b : β} (h0 : S.init s) (h : (S.replay C s as).map p = some b) :
    ∃ s', S.ReachableBy C s' ∧ p s' = b := by
  obtain ⟨s', hs, hp⟩ := Option.map_eq_some_iff.mp h
  exact ⟨s', replay_reachableBy (.start h0) hs, hp⟩

def run (S : System σ α) : σ → List α → Option σ := S.replay (fun _ _ => True)

theorem run_append {s₁ : σ} {as bs : List α} (h : S.run s as = some s₁)
    (h' : S.run s₁ bs = some s') : S.run s (as ++ bs) = some s' := by
  induction as generalizing s with
  | nil =>
    cases h
    exact h'
  | cons a as ih =>
    simp only [run, replay, if_true] at h
    obtain ⟨s₂, hstep, hrun⟩ := Option.bind_eq_some_iff.mp h
    simp only [List.cons_append, run, replay, if_true, hstep, Option.bind_some]
    exact ih hrun

theorem exists_reachable_of_run {as : List α} {β : Type*} {p : σ → β} {b : β} (h0 : S.init s)
    (h : (S.run s as).map p = some b) : ∃ s', S.Reachable s' ∧ p s' = b :=
  exists_reachableBy_of_replay h0 h

end System
end Lts
