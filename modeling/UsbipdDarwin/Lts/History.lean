import Mathlib.Data.List.Basic
import UsbipdDarwin.Lts.Reachable

/-! Histories, latest event first. `Justified Q` says that every event was
allowed by what had happened before it; a step that adds one event has to
justify that one only. A system can be given a history variable, which its own steps
neither read nor need. -/

namespace Lts

variable {ε : Type*} {Q : ε → List ε → Prop} {e : ε} {log : List ε}

def Justified (Q : ε → List ε → Prop) : List ε → Prop
  | [] => True
  | e :: log => Q e log ∧ Justified Q log

theorem Justified.cons (h : Justified Q log) (he : Q e log) : Justified Q (e :: log) := ⟨he, h⟩

theorem Justified.extend {P : ε → Prop} {log' : List ε} (h : Justified Q log)
    (hl : log' = log ∨ ∃ e, log' = e :: log ∧ P e) (hQ : ∀ e, P e → Q e log) :
    Justified Q log' := by
  rcases hl with rfl | ⟨e, rfl, he⟩
  · exact h
  · exact h.cons (hQ e he)

theorem Justified.split (h : Justified Q log) {later earlier : List ε}
    (hs : log = later ++ e :: earlier) : Q e earlier := by
  induction later generalizing log with
  | nil =>
    subst hs
    exact h.1
  | cons e' later ih =>
    subst hs
    exact ih h.2 rfl

theorem Justified.later (h : Justified Q log) {e' : ε} {later earlier : List ε}
    (hs : log = later ++ e :: earlier) (he' : e' ∈ later) :
    ∃ between, Q e' (between ++ e :: earlier) := by
  obtain ⟨after, between, rfl⟩ := List.append_of_mem he'
  refine ⟨between, h.split (?_ : log = after ++ _)⟩
  rw [hs, List.append_assoc, List.cons_append]

namespace System

variable {σ α τ : Type*}

/-- The system beside a variable that starts at `h₀` and is updated by `note`. -/
def withHistory (S : System σ α) (h₀ : τ) (note : σ → α → τ → τ) : System (σ × τ) α where
  init p := S.init p.1 ∧ p.2 = h₀
  step p a := (S.step p.1 a).map fun s' => (s', note p.1 a p.2)

variable {S : System σ α} {h₀ : τ} {note : σ → α → τ → τ} {p p' : σ × τ} {a : α}

theorem withHistory_step (h : (S.withHistory h₀ note).step p a = some p') :
    S.step p.1 a = some p'.1 ∧ p'.2 = note p.1 a p.2 := by
  obtain ⟨s', hs, rfl⟩ := Option.map_eq_some_iff.mp h
  exact ⟨hs, rfl⟩

theorem ReachableBy.fst {C : σ → α → Prop}
    (h : (S.withHistory h₀ note).ReachableBy (fun p a => C p.1 a) p) : S.ReachableBy C p.1 := by
  refine h.invariant (I := fun p => S.ReachableBy C p.1) ?_ ?_
  · intro p h0
    exact .start h0.1
  · intro p a p' _ hi hc hs
    exact .step hi hc (withHistory_step hs).1

end System

end Lts
