import Mathlib.Data.List.Basic

/-! Pools of threads. A pool is a list indexed by the order of spawning; a step
of one thread replaces its own entry and leaves the others in place. -/

namespace Lts

variable {υ : Type*}

/-- Every thread of the pool satisfies `P`, which may depend on its index. -/
def Each (P : Nat → υ → Prop) (pool : List υ) : Prop := ∀ t u, pool[t]? = some u → P t u

variable {P Q : Nat → υ → Prop} {pool : List υ} {t : Nat} {u u' : υ}

theorem getElem?_set_some {i : Nat} {v : υ} (h : (pool.set t u)[i]? = some v) :
    (i = t ∧ v = u) ∨ (i ≠ t ∧ pool[i]? = some v) := by
  rw [List.getElem?_set] at h
  split_ifs at h with hi hl
  · exact .inl ⟨hi.symm, (Option.some.inj h).symm⟩
  · exact .inr ⟨Ne.symm hi, h⟩

theorem getElem?_append_some {i : Nat} {v : υ} (h : (pool ++ [u])[i]? = some v) :
    pool[i]? = some v ∨ (i = pool.length ∧ v = u) := by
  rw [List.getElem?_append] at h
  split_ifs at h with hi
  · exact .inl h
  · obtain ⟨hlt, hv⟩ := List.getElem?_eq_some_iff.mp h
    simp only [List.length_singleton, Nat.lt_one_iff] at hlt
    simp only [List.getElem_singleton] at hv
    exact .inr ⟨by omega, hv.symm⟩

theorem lt_length_of_getElem? (h : pool[t]? = some u) : t < pool.length :=
  (List.getElem?_eq_some_iff.mp h).1

theorem getElem?_of_prefix {pool' : List υ} (h : pool[t]? = some u) (hgrows : pool <+: pool') :
    pool'[t]? = some u := by
  obtain ⟨rest, rfl⟩ := hgrows
  rw [List.getElem?_append_left (lt_length_of_getElem? h), h]

theorem eq_of_map_eq_singleton {β : Type} {f : υ → β} {b : β} (h : pool.map f = [b])
    (hu : pool[t]? = some u) : f u = b := by
  have hmem : f u ∈ pool.map f := List.mem_map_of_mem (List.mem_of_getElem? hu)
  rw [h] at hmem
  exact List.mem_singleton.mp hmem

theorem set_of_getElem? (hu : pool[t]? = some u) : pool.set t u = pool := by
  obtain ⟨hlt, rfl⟩ := List.getElem?_eq_some_iff.mp hu
  exact List.set_getElem_self hlt

theorem set_inj (hu : pool[t]? = some u) {v v' : υ} (h : pool.set t v = pool.set t v') :
    v = v' := by
  have hget := congrArg (fun us => us[t]?) h
  simpa [lt_length_of_getElem? hu] using hget

theorem modify_length {f : υ → υ} : (pool ++ [u]).modify pool.length f = pool ++ [f u] := by
  induction pool with
  | nil => rfl
  | cons v pool ih => simp [ih]

theorem Each.nil : Each P ([] : List υ) := fun _ _ h => by simp at h

theorem Each.set (h : Each P pool) (hu : Q t u')
    (hother : ∀ i v, i ≠ t → pool[i]? = some v → P i v → Q i v) : Each Q (pool.set t u') := by
  intro i v hv
  rcases getElem?_set_some hv with ⟨rfl, rfl⟩ | ⟨hne, hold⟩
  · exact hu
  · exact hother i v hne hold (h i v hold)

theorem Each.append (h : Each P pool) (hu : P pool.length u) : Each P (pool ++ [u]) := by
  intro i v hv
  rcases getElem?_append_some hv with hold | ⟨rfl, rfl⟩
  · exact h i v hold
  · exact hu

def AtMostOne (p : υ → Prop) (pool : List υ) : Prop :=
  ∀ (i j : Nat) (u v : υ), pool[i]? = some u → pool[j]? = some v → p u → p v → i = j

theorem AtMostOne.set {p : υ → Prop} (h : AtMostOne p pool) (ht : pool[t]? = some u)
    (hu : p u' → p u ∨ ∀ v ∈ pool, ¬ p v) : AtMostOne p (pool.set t u') := by
  have hnew : ∀ j v, pool[j]? = some v → p u' → p v → t = j := by
    intro j v hv hpu hpv
    rcases hu hpu with hold | hnone
    · exact h t j u v ht hv hold hpv
    · exact absurd hpv (hnone v (List.mem_of_getElem? hv))
  intro i j a b hi hj ha hb
  rcases getElem?_set_some hi with ⟨rfl, rfl⟩ | ⟨-, hi'⟩
  · rcases getElem?_set_some hj with ⟨rfl, -⟩ | ⟨-, hj'⟩
    · rfl
    · exact hnew j b hj' ha hb
  · rcases getElem?_set_some hj with ⟨rfl, rfl⟩ | ⟨-, hj'⟩
    · exact (hnew i a hi' hb ha).symm
    · exact h i j a b hi' hj' ha hb

theorem countP_set_add {p : υ → Bool} (h : pool[t]? = some u) :
    (pool.set t u').countP p + (if p u then 1 else 0) =
      pool.countP p + (if p u' then 1 else 0) := by
  obtain ⟨hlt, rfl⟩ := List.getElem?_eq_some_iff.mp h
  rw [List.countP_set hlt]
  have hpos : p pool[t] = true → 0 < pool.countP p := fun hp =>
    List.countP_pos_iff.mpr ⟨_, List.getElem_mem hlt, hp⟩
  split_ifs at * <;> simp_all

theorem countP_set_eq {p : υ → Bool} (h : pool[t]? = some u) (hp : p u' = p u) :
    (pool.set t u').countP p = pool.countP p := by
  have hc : (pool.set t u').countP p + _ = _ := countP_set_add h
  rw [hp] at hc
  exact Nat.add_right_cancel hc

theorem countP_modify_eq {p : υ → Bool} {f : υ → υ} (h : ∀ u, p (f u) = p u) :
    (pool.modify t f).countP p = pool.countP p := by
  induction pool generalizing t with
  | nil => simp
  | cons v pool ih =>
    cases t with
    | zero => simp [List.countP_cons, h]
    | succ t => simp [List.countP_cons, ih]

theorem countP_map_eq {p : υ → Bool} {f : υ → υ} (h : ∀ u, p (f u) = p u) :
    (pool.map f).countP p = pool.countP p := by
  rw [List.countP_map]
  exact List.countP_congr fun u _ => by rw [Function.comp_apply, h]

theorem countP_mapIdx {β : Type*} {f : Nat → υ → β} {p : β → Bool} {q : υ → Bool}
    (h : ∀ i u, p (f i u) = q u) : (pool.mapIdx f).countP p = pool.countP q := by
  induction pool generalizing f with
  | nil => rfl
  | cons v pool ih =>
    rw [List.mapIdx_cons, List.countP_cons, List.countP_cons, ih fun i => h (i + 1), h]

theorem eq_of_countP_le_one {p : υ → Bool} (h : pool.countP p ≤ 1) {i : Nat}
    (ht : pool[t]? = some u) (hu : p u = true) (hi : pool[i]? = some u') (hu' : p u' = true) :
    t = i := by
  induction pool generalizing t i with
  | nil => simp at ht
  | cons v pool ih =>
    rw [List.countP_cons] at h
    have hpos : ∀ {j : Nat} {w : υ}, pool[j]? = some w → p w = true → 0 < pool.countP p :=
      fun hj hw => List.countP_pos_iff.mpr ⟨_, List.mem_of_getElem? hj, hw⟩
    cases t with
    | zero =>
      obtain rfl : v = u := by simpa using ht
      cases i with
      | zero => rfl
      | succ i =>
        have := hpos (by simpa using hi) hu'
        rw [if_pos hu] at h
        omega
    | succ t =>
      have htail := hpos (by simpa using ht) hu
      cases i with
      | zero =>
        obtain rfl : v = u' := by simpa using hi
        rw [if_pos hu'] at h
        omega
      | succ i => exact congrArg (· + 1) (ih (by omega) (by simpa using ht) (by simpa using hi))

end Lts
