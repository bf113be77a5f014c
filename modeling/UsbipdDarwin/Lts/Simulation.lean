import Mathlib.Logic.Relation
import UsbipdDarwin.Lts.Reachable

/-! A system against what it is for. The specification is a step relation on states of its
own, and a function reads its state off the system's; a step of the system is then some
steps of the specification, or none where nobody outside can tell. -/

namespace Lts

open Relation

variable {σ α τ : Type*} {S : System σ α} {C : σ → α → Prop} {f : σ → τ} {Init : τ → Prop}
  {Step : τ → τ → Prop} {s s' : σ}

/-- Runs of `S` that keep to `C`, read through `f`, are runs of the specification. -/
structure Refines (S : System σ α) (C : σ → α → Prop) (f : σ → τ) (Init : τ → Prop)
    (Step : τ → τ → Prop) : Prop where
  init : ∀ s, S.init s → Init (f s)
  step : ∀ s a s', S.ReachableBy C s → C s a → S.step s a = some s' →
    ReflTransGen Step (f s) (f s')

theorem Refines.replay [∀ s a, Decidable (C s a)] (h : Refines S C f Init Step)
    (hs : S.ReachableBy C s) {as : List α} (hrun : S.replay C s as = some s') :
    ReflTransGen Step (f s) (f s') := by
  induction as generalizing s with
  | nil =>
    cases hrun
    exact .refl
  | cons a as ih =>
    simp only [System.replay] at hrun
    split_ifs at hrun with hc
    obtain ⟨s₁, hstep, hrest⟩ := Option.bind_eq_some_iff.mp hrun
    exact (h.step s a s₁ hs hc hstep).trans (ih (.step hs hc hstep) hrest)

theorem Refines.reaches (h : Refines S C f Init Step) (hs : S.ReachableBy C s) :
    ∃ a, Init a ∧ ReflTransGen Step a (f s) := by
  refine hs.invariant (I := fun s => ∃ a, Init a ∧ ReflTransGen Step a (f s)) ?_ ?_
  · intro s h0
    exact ⟨f s, h.init s h0, .refl⟩
  · rintro s a s' hr ⟨b, hb, hsteps⟩ hc hstep
    exact ⟨b, hb, hsteps.trans (h.step s a s' hr hc hstep)⟩

theorem Refines.invariant (h : Refines S C f Init Step) {I : τ → Prop}
    (hinit : ∀ a, Init a → I a) (hstep : ∀ a a', I a → Step a a' → I a')
    (hs : S.ReachableBy C s) : I (f s) := by
  obtain ⟨a, ha, hsteps⟩ := h.reaches hs
  generalize f s = b at hsteps
  induction hsteps with
  | refl => exact hinit a ha
  | tail _ hlast ih => exact hstep _ _ ih hlast

end Lts
