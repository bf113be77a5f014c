import Mathlib.Data.Option.Basic
import Mathlib.Data.List.Basic

/-! Two machines fed with the same inputs. If related states accept the same inputs
and go to related states, then so do whole runs. -/

namespace Lts

variable {σ τ ι : Type*}

def feed (step : σ → ι → Option σ) : σ → List ι → Option σ
  | s, [] => some s
  | s, i :: is => (step s i).bind fun s' => feed step s' is

variable {f : σ → ι → Option σ} {g : τ → ι → Option τ} {R : σ → τ → Prop}

theorem rel_feed (hstep : ∀ s t i, R s t → Option.Rel R (f s i) (g t i)) {s : σ} {t : τ}
    (h : R s t) (is : List ι) : Option.Rel R (feed f s is) (feed g t is) := by
  induction is generalizing s t with
  | nil => exact .some h
  | cons i is ih =>
    rw [feed, feed]
    have hi := hstep s t i h
    generalize f s i = fs at hi
    generalize g t i = gt at hi
    cases hi with
    | none => exact .none
    | some hr => exact ih hr

theorem rel_of_mem {R' : σ → τ → Prop} {os : Option σ} {ot : Option τ} (h : Option.Rel R os ot)
    (himp : ∀ s t, os = some s → ot = some t → R s t → R' s t) : Option.Rel R' os ot := by
  cases h with
  | none => exact .none
  | some hr => exact .some (himp _ _ rfl rfl hr)

theorem map_eq_of_rel {γ : Type*} {p : σ → γ} {q : τ → γ} (hpq : ∀ s t, R s t → p s = q t)
    {os : Option σ} {ot : Option τ} (h : Option.Rel R os ot) : os.map p = ot.map q := by
  cases h with
  | none => rfl
  | some hr => exact congrArg some (hpq _ _ hr)

end Lts
