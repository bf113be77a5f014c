import UsbipdDarwin.Lts.Maps

/-! Maps kept by a log of updates, the last one for a key winning. A reader that has
missed some updates agrees with the log wherever it has not missed the last one. -/

namespace Lts

variable {κ β α : Type*} [DecidableEq κ]

structure Update (κ β : Type*) where
  key : κ
  value : Option β

def Update.apply (m : AList fun _ : κ => β) (u : Update κ β) : AList fun _ : κ => β :=
  match u.value with
  | some v => m.insert u.key v
  | none => m.erase u.key

def lastFor (k : κ) (us : List (Update κ β)) : Option (Option β) :=
  (us.reverse.find? (·.key == k)).map (·.value)

variable {m : AList fun _ : κ => β} {k : κ} {u : Update κ β} {us vs : List (Update κ β)}

theorem lookup_apply (m : AList fun _ : κ => β) (u : Update κ β) (k : κ) :
    (u.apply m).lookup k = if u.key = k then u.value else m.lookup k := by
  obtain ⟨key, value⟩ := u
  cases value with
  | none =>
    change (m.erase key).lookup k = _
    split_ifs with hk
    · subst hk
      exact AList.lookup_erase ..
    · exact AList.lookup_erase_ne (Ne.symm hk)
  | some v =>
    change (m.insert key v).lookup k = _
    split_ifs with hk
    · subst hk
      exact AList.lookup_insert m
    · exact AList.lookup_insert_ne (Ne.symm hk)

theorem lastFor_append (us vs : List (Update κ β)) (k : κ) :
    lastFor k (us ++ vs) = (lastFor k vs).or (lastFor k us) := by
  rw [lastFor, List.reverse_append, List.find?_append]
  cases hv : vs.reverse.find? (·.key == k) with
  | none => simp [lastFor, hv]
  | some u => simp [lastFor, hv]

theorem lastFor_singleton (u : Update κ β) (k : κ) :
    lastFor k [u] = if u.key = k then some u.value else none := by
  by_cases hk : u.key = k
  · simp [lastFor, hk]
  · simp [lastFor, hk]

theorem lookup_foldl_apply (us : List (Update κ β)) (m : AList fun _ : κ => β) (k : κ) :
    (us.foldl Update.apply m).lookup k = (lastFor k us).getD (m.lookup k) := by
  induction us generalizing m with
  | nil => rfl
  | cons u us ih =>
    rw [List.foldl_cons, ih, lookup_apply, ← List.singleton_append, lastFor_append,
      lastFor_singleton]
    cases lastFor k us with
    | some v => rfl
    | none =>
      split_ifs with hk
      · rfl
      · rfl

theorem lastFor_map (us : List α) (update : α → Update κ β) (k : κ) :
    lastFor k (us.map update) =
      (us.reverse.find? fun a => (update a).key == k).map fun a => (update a).value := by
  rw [lastFor, ← List.map_reverse, List.find?_map, Option.map_map]
  rfl

theorem lastFor_filter {us : List α} {update : α → Update κ β} {q : α → Bool}
    (h : ∀ a, us.reverse.find? (fun a => (update a).key == k) = some a → q a = true) :
    lastFor k ((us.filter q).map update) = lastFor k (us.map update) := by
  rw [lastFor_map, lastFor_map, ← List.filter_reverse, List.find?_filter]
  congr 1
  cases hlast : us.reverse.find? (fun a => (update a).key == k) with
  | none =>
    rw [List.find?_eq_none] at hlast ⊢
    intro x hx
    simp [hlast x hx]
  | some a =>
    obtain ⟨hkey, before, after, hsplit, hbefore⟩ := List.find?_eq_some_iff_append.mp hlast
    refine List.find?_eq_some_iff_append.mpr ⟨?_, before, after, hsplit, fun x hx => ?_⟩
    · simp [h a hlast, hkey]
    · have hmissed := hbefore x hx
      simp only [Bool.not_eq_true'] at hmissed
      simp [hmissed]

theorem lookup_values (key : β → κ) (hkey : ∀ k v, m.lookup k = some v → key v = k)
    {values : List β} (hperm : values.Perm (m.entries.map (·.2))) (k : κ) :
    (lastFor k (values.map fun v => ⟨key v, some v⟩)).getD none = m.lookup k := by
  have hmem (v : β) : v ∈ values ↔ m.lookup (key v) = some v := by
    rw [hperm.mem_iff, List.mem_map]
    constructor
    · rintro ⟨⟨k', v'⟩, hentry, rfl⟩
      have hl := AList.mem_lookup_iff.mpr hentry
      rw [hkey k' v' hl]
      exact hl
    · intro hl
      exact ⟨⟨key v, v⟩, AList.mem_lookup_iff.mp hl, rfl⟩
  rw [lastFor_map]
  cases hfind : values.reverse.find? (key · == k) with
  | none =>
    cases hl : m.lookup k with
    | none => rfl
    | some v =>
      have hv := (hmem v).mpr (by rw [hkey k v hl, hl])
      have hne := List.find?_eq_none.mp hfind v (List.mem_reverse.mpr hv)
      simp [hkey k v hl] at hne
  | some v =>
    have hv := (hmem v).mp (List.mem_reverse.mp (List.mem_of_find?_eq_some hfind))
    have hk : key v = k := by simpa using List.find?_some hfind
    rw [hk] at hv
    exact hv.symm

end Lts
