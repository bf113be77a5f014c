import UsbipdDarwin.Lts.Reachable

/-! Programs that call out. A run is the calls it has made and how it ended. Which call is
allowed in which state, and what it does there, is a `System`; a triple says that every call
of a run is allowed, and in what state the run ends, early or not. -/

namespace Lts

variable {σ κ ε α β : Type}

structure Traced (κ ε α : Type) where
  calls : List κ
  result : Except ε α

namespace Traced

def call (c : κ) : Traced κ ε Unit := ⟨[c], .ok ()⟩

def stop (e : ε) : Traced κ ε α := ⟨[], .error e⟩

def andThen (t : Traced κ ε α) (f : α → Traced κ ε β) : Traced κ ε β :=
  match t.result with
  | .ok a => ⟨t.calls ++ (f a).calls, (f a).result⟩
  | .error e => ⟨t.calls, .error e⟩

instance : Monad (Traced κ ε) where
  pure a := ⟨[], .ok a⟩
  bind := andThen

def guarded (last : List κ) (body : Traced κ ε α) : Traced κ ε α :=
  ⟨body.calls ++ last, body.result⟩

/-- What holds at the end: `Q` of a run that returns, `E` of one that stops. -/
def Ends (Q : α → σ → Prop) (E : ε → σ → Prop) : Except ε α → σ → Prop
  | .ok a => Q a
  | .error e => E e

def Triple (S : System σ κ) (P : σ → Prop) (t : Traced κ ε α) (Q : α → σ → Prop)
    (E : ε → σ → Prop) : Prop :=
  ∀ s, P s → ∃ s', S.run s t.calls = some s' ∧ Ends Q E t.result s'

variable {S : System σ κ} {P : σ → Prop} {Q Q' : α → σ → Prop} {R : β → σ → Prop}
  {E E' : ε → σ → Prop} {t : Traced κ ε α} {f : α → Traced κ ε β}

theorem Triple.pure {a : α} (h : ∀ s, P s → Q a s) :
    Triple S P (Pure.pure a : Traced κ ε α) Q E :=
  fun s hs => ⟨s, rfl, h s hs⟩

theorem Triple.stop {e : ε} (h : ∀ s, P s → E e s) : Triple S P (stop e : Traced κ ε α) Q E :=
  fun s hs => ⟨s, rfl, h s hs⟩

theorem Triple.call {c : κ} {Q : Unit → σ → Prop}
    (h : ∀ s, P s → ∃ s', S.step s c = some s' ∧ Q () s') : Triple S P (call c) Q E := by
  intro s hs
  obtain ⟨s', hstep, hq⟩ := h s hs
  refine ⟨s', ?_, hq⟩
  simp [Traced.call, System.run, System.replay, hstep]

theorem Triple.bind (h : Triple S P t Q E) (hf : ∀ a, Triple S (Q a) (f a) R E) :
    Triple S P (t >>= f) R E := by
  intro s hs
  obtain ⟨s₁, hrun, hends⟩ := h s hs
  show ∃ s', S.run s (andThen t f).calls = some s' ∧ Ends R E (andThen t f).result s'
  unfold andThen
  cases hres : t.result with
  | error e =>
    rw [hres] at hends
    exact ⟨s₁, hrun, hends⟩
  | ok a =>
    rw [hres] at hends
    obtain ⟨s₂, hrest, hends'⟩ := hf a s₁ hends
    exact ⟨s₂, System.run_append hrun hrest, hends'⟩

theorem Triple.guarded {last : List κ} (h : Triple S P t Q' E')
    (hok : ∀ a s, Q' a s → ∃ s', S.run s last = some s' ∧ Q a s')
    (herr : ∀ e s, E' e s → ∃ s', S.run s last = some s' ∧ E e s') :
    Triple S P (t.guarded last) Q E := by
  intro s hs
  obtain ⟨s₁, hrun, hends⟩ := h s hs
  show ∃ s', S.run s (t.calls ++ last) = some s' ∧ Ends Q E t.result s'
  cases hres : t.result with
  | ok a =>
    rw [hres] at hends
    obtain ⟨s₂, hlast, hq⟩ := hok a s₁ hends
    exact ⟨s₂, System.run_append hrun hlast, hq⟩
  | error e =>
    rw [hres] at hends
    obtain ⟨s₂, hlast, he⟩ := herr e s₁ hends
    exact ⟨s₂, System.run_append hrun hlast, he⟩

end Traced

end Lts
