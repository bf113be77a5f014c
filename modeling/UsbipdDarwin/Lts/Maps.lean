import Mathlib.Data.List.AList

/-! Reading an entry of a map back through the update that was made to it, and maps
that list who holds what. -/

namespace Lts

variable {κ β : Type*} [DecidableEq κ] {m : AList (fun _ : κ => β)} {k k' : κ} {v v' : β}

theorem lookup_of_erase (h : (m.erase k').lookup k = some v) :
    k ≠ k' ∧ m.lookup k = some v := by
  by_cases hk : k = k'
  · subst hk
    rw [AList.lookup_erase] at h
    cases h
  · rw [AList.lookup_erase_ne hk] at h
    exact ⟨hk, h⟩

theorem lookup_of_eraseAll {ks : List κ}
    (h : (ks.foldl (fun m k' => m.erase k') m).lookup k = some v) :
    k ∉ ks ∧ m.lookup k = some v := by
  induction ks generalizing m with
  | nil => exact ⟨List.not_mem_nil, h⟩
  | cons k' ks ih =>
    obtain ⟨hks, herase⟩ := ih h
    obtain ⟨hne, hold⟩ := lookup_of_erase herase
    exact ⟨List.not_mem_cons_of_ne_of_not_mem hne hks, hold⟩

theorem lookup_of_insert (h : (m.insert k' v').lookup k = some v) :
    (k = k' ∧ v = v') ∨ (k ≠ k' ∧ m.lookup k = some v) := by
  by_cases hk : k = k'
  · subst hk
    rw [AList.lookup_insert] at h
    exact .inl ⟨rfl, (Option.some.inj h).symm⟩
  · rw [AList.lookup_insert_ne hk] at h
    exact .inr ⟨hk, h⟩

theorem erase_of_lookup (h : m.lookup k = none) : m.erase k = m := by
  apply AList.ext
  exact List.kerase_of_notMem_keys (AList.lookup_eq_none.mp h)

theorem eq_empty_of_lookup (h : ∀ k, m.lookup k = none) : m = ∅ := by
  apply AList.ext
  apply List.eq_nil_iff_forall_not_mem.mpr
  rintro ⟨k, v⟩ hkv
  have hl : v ∈ m.lookup k := AList.mem_lookup_iff.mpr hkv
  rw [h k] at hl
  cases hl

theorem mem_entries_map {γ : Type*} {f : β → γ} {c : γ} :
    c ∈ m.entries.map (fun x => f x.2) ↔ ∃ k v, m.lookup k = some v ∧ f v = c := by
  rw [List.mem_map]
  constructor
  · rintro ⟨⟨k, v⟩, hkv, rfl⟩
    exact ⟨k, v, AList.mem_lookup_iff.mpr hkv, rfl⟩
  · rintro ⟨k, v, hl, rfl⟩
    exact ⟨⟨k, v⟩, AList.mem_lookup_iff.mp hl, rfl⟩

def Lists {ω : Type*} (m : AList (fun _ : κ => β)) (holds : ω → κ → β → Prop) : Prop :=
  ∀ k v, m.lookup k = some v ↔ ∃ o, holds o k v

section Lists

variable {ω : Type*} {holds holds' : ω → κ → β → Prop} {o : ω}

theorem Lists.congr (h : Lists m holds) (hh : ∀ o k v, holds' o k v ↔ holds o k v) :
    Lists m holds' := by
  intro k v
  rw [h k v]
  exact exists_congr fun o => (hh o k v).symm

theorem Lists.insert (h : Lists m holds) (hk : k ∉ m)
    (hh : ∀ o' k' v', holds' o' k' v' ↔ holds o' k' v' ∨ (o' = o ∧ k' = k ∧ v' = v)) :
    Lists (m.insert k v) holds' := by
  have hfree : ∀ o' v', ¬ holds o' k v' := by
    intro o' v' ho
    have hl := (h k v').mpr ⟨o', ho⟩
    exact hk (AList.lookup_isSome.mp (Option.isSome_of_eq_some hl))
  intro k' v'
  by_cases hkk : k' = k
  · subst hkk
    rw [AList.lookup_insert, Option.some_inj]
    constructor
    · rintro rfl
      exact ⟨o, (hh _ _ _).mpr (.inr ⟨rfl, rfl, rfl⟩)⟩
    · rintro ⟨o', ho⟩
      rcases (hh _ _ _).mp ho with hold | ⟨-, -, hv⟩
      · exact absurd hold (hfree o' v')
      · exact hv.symm
  · rw [AList.lookup_insert_ne hkk, h k' v']
    refine exists_congr fun o' => ?_
    rw [hh]
    simp [hkk]

theorem Lists.erase (h : Lists m holds) (hkey : ∀ k' v', holds o k' v' → k' = k)
    (hunique : ∀ o' v', holds o' k v' → o' = o)
    (hh : ∀ o' k' v', holds' o' k' v' ↔ holds o' k' v' ∧ o' ≠ o) : Lists (m.erase k) holds' := by
  intro k' v'
  by_cases hkk : k' = k
  · subst hkk
    rw [AList.lookup_erase]
    constructor
    · rintro ⟨⟩
    · rintro ⟨o', ho⟩
      obtain ⟨hold, hne⟩ := (hh _ _ _).mp ho
      exact absurd (hunique o' v' hold) hne
  · rw [AList.lookup_erase_ne hkk, h k' v']
    refine exists_congr fun o' => ?_
    rw [hh]
    refine ⟨fun ho => ⟨ho, ?_⟩, And.left⟩
    rintro rfl
    exact hkk (hkey k' v' ho)

end Lists

/-- In a list without a key twice, looking a key up among the elements that pass a test
is looking it up and testing what is found. -/
theorem find?_filter_of_nodup {α : Type*} {key : α → κ} {l : List α} (h : (l.map key).Nodup)
    (k : κ) (q : α → Bool) :
    (l.filter q).find? (key · == k) = (l.find? (key · == k)).filter q := by
  induction l with
  | nil => rfl
  | cons a l ih =>
    obtain ⟨hnew, hl⟩ := List.nodup_cons.mp h
    by_cases hk : key a = k
    · subst hk
      rw [List.find?_cons_of_pos (by simp)]
      by_cases hq : q a = true
      · rw [List.filter_cons_of_pos hq, List.find?_cons_of_pos (by simp), Option.filter_some_pos hq]
      · rw [List.filter_cons_of_neg hq, Option.filter_some_neg (by simpa using hq),
          List.find?_eq_none]
        intro b hb hkey
        exact hnew (List.mem_map.mpr ⟨b, (List.mem_filter.mp hb).1, by simpa using hkey⟩)
    · rw [List.find?_cons_of_neg (by simpa using hk), ← ih hl]
      by_cases hq : q a = true
      · rw [List.filter_cons_of_pos hq, List.find?_cons_of_neg (by simpa using hk)]
      · rw [List.filter_cons_of_neg hq]

theorem find?_eq_some_iff_of_nodup {α : Type*} {key : α → κ} {l : List α}
    (h : (l.map key).Nodup) {k : κ} {a : α} :
    l.find? (key · == k) = some a ↔ a ∈ l ∧ key a = k := by
  constructor
  · intro hfind
    exact ⟨List.mem_of_find?_eq_some hfind, by simpa using List.find?_some hfind⟩
  · rintro ⟨ha, rfl⟩
    have hsome : (l.find? (key · == key a)).isSome :=
      List.find?_isSome.mpr ⟨a, ha, beq_self_eq_true (key a)⟩
    obtain ⟨b, hb⟩ := Option.isSome_iff_exists.mp hsome
    have hkey : key b = key a := by simpa using List.find?_some hb
    rw [hb, List.inj_on_of_nodup_map h (List.mem_of_find?_eq_some hb) ha hkey]

end Lts
