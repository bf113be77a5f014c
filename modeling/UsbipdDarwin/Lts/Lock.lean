import Mathlib.Logic.Function.Basic

/-! Mutexes that a panicking holder poisons. `Guarded` ties a table of locks to
the owners that believe they hold them; mutual exclusion follows, and acquiring
and releasing keep the tie. `Owned` is the tie the other way round: a lock that is
held has a holder, so whoever waits for it waits for somebody. `Claimed` is the
first for a table that tells only which of its keys are taken, not by whom. -/

namespace Lts

variable {ι ω : Type*}

inductive Lock (ω : Type*)
  | free
  | held (o : ω)
  | poisoned
  deriving DecidableEq, Repr

def Guarded (locks : ι → Lock ω) (holds : ω → ι → Prop) : Prop :=
  ∀ o i, holds o i → locks i = .held o

variable {locks : ι → Lock ω} {holds holds' : ω → ι → Prop}

def Owned (locks : ι → Lock ω) (holds : ω → ι → Prop) : Prop :=
  ∀ o i, locks i = .held o → holds o i

theorem Owned.mono (h : Owned locks holds) (hsup : ∀ o i, holds o i → holds' o i) :
    Owned locks holds' := fun o i ho => hsup o i (h o i ho)

theorem Guarded.unique (h : Guarded locks holds) {o o' : ω} {i : ι} (ho : holds o i)
    (ho' : holds o' i) : o = o' := by
  have he := (h o i ho).symm.trans (h o' i ho')
  exact Lock.held.inj he

theorem Guarded.not_holds_of_free (h : Guarded locks holds) {i : ι} (hf : locks i = .free)
    (o : ω) : ¬ holds o i := by
  intro ho
  rw [h o i ho] at hf
  cases hf

theorem Guarded.mono (h : Guarded locks holds) (hsub : ∀ o i, holds' o i → holds o i) :
    Guarded locks holds' := fun o i ho => h o i (hsub o i ho)

section Update

variable [DecidableEq ι]

theorem Guarded.acquire (h : Guarded locks holds) {o : ω} {i : ι} (hf : locks i = .free)
    (hsub : ∀ o' j, holds' o' j → holds o' j ∨ (o' = o ∧ j = i)) :
    Guarded (Function.update locks i (.held o)) holds' := by
  intro o' j ho'
  rcases hsub o' j ho' with hold | ⟨rfl, rfl⟩
  · have hne : j ≠ i := by
      rintro rfl
      exact h.not_holds_of_free hf o' hold
    rw [Function.update_of_ne hne]
    exact h o' j hold
  · exact Function.update_self ..

theorem Guarded.release (h : Guarded locks holds) {o : ω} {i : ι} {l : Lock ω}
    (ho : holds o i) (hsub : ∀ o' j, holds' o' j → holds o' j)
    (hgone : ¬ holds' o i) : Guarded (Function.update locks i l) holds' := by
  intro o' j ho'
  have hne : j ≠ i := by
    rintro rfl
    exact hgone (h.unique (hsub o' j ho') ho ▸ ho')
  rw [Function.update_of_ne hne]
  exact h o' j (hsub o' j ho')

theorem Owned.update (h : Owned locks holds) {i : ι} {l : Lock ω}
    (hl : ∀ o, l = .held o → holds' o i) (hsup : ∀ o j, j ≠ i → holds o j → holds' o j) :
    Owned (Function.update locks i l) holds' := by
  intro o j ho
  by_cases hj : j = i
  · subst hj
    rw [Function.update_self] at ho
    exact hl o ho
  · rw [Function.update_of_ne hj] at ho
    exact hsup o j hj (h o j ho)

end Update

structure Claimed (taken : ι → Prop) (holds : ω → ι → Prop) : Prop where
  listed : ∀ o i, holds o i → taken i
  unique : ∀ o o' i, holds o i → holds o' i → o = o'

variable {taken taken' : ι → Prop}

theorem Claimed.mono (h : Claimed taken holds) (ht : ∀ i, taken i → taken' i)
    (hsub : ∀ o i, holds' o i → holds o i) : Claimed taken' holds' where
  listed o i ho := ht i (h.listed o i (hsub o i ho))
  unique o o' i ho ho' := h.unique o o' i (hsub o i ho) (hsub o' i ho')

theorem Claimed.claim (h : Claimed taken holds) {o : ω} {i : ι} (hi : ¬ taken i)
    (ht : ∀ j, taken' j ↔ j = i ∨ taken j)
    (hsub : ∀ o' j, holds' o' j → holds o' j ∨ (o' = o ∧ j = i)) : Claimed taken' holds' := by
  constructor
  · intro o' j ho'
    rw [ht]
    rcases hsub o' j ho' with hold | ⟨_, rfl⟩
    · exact .inr (h.listed o' j hold)
    · exact .inl rfl
  · intro o₁ o₂ j h₁ h₂
    rcases hsub o₁ j h₁ with h₁ | ⟨rfl, rfl⟩
    · rcases hsub o₂ j h₂ with h₂ | ⟨_, rfl⟩
      · exact h.unique o₁ o₂ j h₁ h₂
      · exact absurd (h.listed o₁ j h₁) hi
    · rcases hsub o₂ j h₂ with h₂ | ⟨rfl, _⟩
      · exact absurd (h.listed o₂ j h₂) hi
      · rfl

theorem Claimed.release (h : Claimed taken holds) {o : ω} {i : ι} (ho : holds o i)
    (ht : ∀ j, taken' j ↔ j ≠ i ∧ taken j)
    (hsub : ∀ o' j, holds' o' j → holds o' j ∧ o' ≠ o) : Claimed taken' holds' := by
  constructor
  · intro o' j ho'
    obtain ⟨hold, hne⟩ := hsub o' j ho'
    refine (ht j).mpr ⟨?_, h.listed o' j hold⟩
    rintro rfl
    exact hne (h.unique o' o j hold ho)
  · intro o₁ o₂ j h₁ h₂
    exact h.unique o₁ o₂ j (hsub o₁ j h₁).1 (hsub o₂ j h₂).1

end Lts
