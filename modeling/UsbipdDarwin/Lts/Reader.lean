import Mathlib.Data.List.Basic

/-! A loop that reads one self-delimiting item a turn from a byte stream, and
what it makes of a stream of encodings, whole or cut off anywhere. -/

namespace Lts

variable {α β ε : Type*}

/-- One turn on the input that is left; `none` is the end of the input. -/
structure Reader (α β ε : Type*) where
  turn : List β → Option (Except ε (α × List β))
  progress : ∀ {input a rest}, turn input = some (.ok (a, rest)) → rest.length < input.length

structure Transcript (α β ε : Type*) where
  items : List α
  left : List β
  result : Except ε Unit

namespace Reader

def run (R : Reader α β ε) (input : List β) : Transcript α β ε :=
  match _hturn : R.turn input with
  | none => ⟨[], input, .ok ()⟩
  | some (.error e) => ⟨[], input, .error e⟩
  | some (.ok (a, rest)) => { R.run rest with items := a :: (R.run rest).items }
termination_by input.length
decreasing_by all_goals exact R.progress _hturn

variable {R : Reader α β ε} {input rest : List β} {a : α}

theorem run_of_end (h : R.turn input = none) : R.run input = ⟨[], input, .ok ()⟩ := by
  rw [run]
  split <;> simp_all

theorem run_of_error {e : ε} (h : R.turn input = some (.error e)) :
    R.run input = ⟨[], input, .error e⟩ := by
  rw [run]
  split <;> simp_all

theorem run_of_item (h : R.turn input = some (.ok (a, rest))) :
    R.run input = { R.run rest with items := a :: (R.run rest).items } := by
  rw [run]
  split <;> simp_all

/-- `R` takes exactly the encoding of an item off the front of any input. -/
structure Reads (R : Reader α β ε) (enc : α → List β) (P : α → Prop) : Prop where
  empty : R.turn [] = none
  item : ∀ {a}, P a → ∀ rest, R.turn (enc a ++ rest) = some (.ok (a, rest))

variable {enc : α → List β} {P : α → Prop} {as : List α}

theorem Reads.append (h : R.Reads enc P) (hP : ∀ a ∈ as, P a) (tail : List β) :
    R.run (as.flatMap enc ++ tail) =
      { R.run tail with items := as ++ (R.run tail).items } := by
  induction as with
  | nil => rfl
  | cons a as ih =>
    rw [List.forall_mem_cons] at hP
    rw [List.flatMap_cons, List.append_assoc, run_of_item (h.item hP.1 _), ih hP.2]
    rfl

theorem Reads.whole (h : R.Reads enc P) (hP : ∀ a ∈ as, P a) :
    R.run (as.flatMap enc) = ⟨as, [], .ok ()⟩ := by
  have happ := h.append hP []
  rw [List.append_nil, run_of_end h.empty] at happ
  rw [happ, List.append_nil]

theorem exists_cut {p : List β} (hp : p <+: as.flatMap enc) :
    ∃ n ≤ as.length, ∃ t, p = (as.take n).flatMap enc ++ t ∧
      (t = [] ∧ n = as.length ∨
        ∃ a, as[n]? = some a ∧ t <+: enc a ∧ t.length < (enc a).length) := by
  induction as generalizing p with
  | nil => exact ⟨0, Nat.le_refl _, [], by simpa using hp, .inl ⟨rfl, rfl⟩⟩
  | cons a as ih =>
    rw [List.flatMap_cons] at hp
    rcases Nat.lt_or_ge p.length (enc a).length with hlt | hge
    · have hpre : p <+: enc a := List.prefix_of_prefix_length_le hp (List.prefix_append ..)
        (Nat.le_of_lt hlt)
      exact ⟨0, Nat.zero_le _, p, rfl, .inr ⟨a, rfl, hpre, hlt⟩⟩
    · obtain ⟨q, rfl⟩ := List.prefix_of_prefix_length_le (List.prefix_append ..) hp hge
      obtain ⟨n, hn, t, rfl, ht⟩ := ih ((List.prefix_append_right_inj _).mp hp)
      refine ⟨n + 1, Nat.succ_le_succ hn, t, ?_, ?_⟩
      · rw [List.take_succ_cons, List.flatMap_cons, List.append_assoc]
      · simpa using ht

theorem le_of_encodings_prefix {n m : Nat} {t : List β} (hm : m ≤ as.length)
    (ht : t = [] ∧ n = as.length ∨ ∃ a, as[n]? = some a ∧ t <+: enc a ∧ t.length < (enc a).length)
    (hpre : (as.take m).flatMap enc <+: (as.take n).flatMap enc ++ t) : m ≤ n := by
  rcases ht with ⟨-, rfl⟩ | ⟨a, ha, -, hlt⟩
  · exact hm
  · by_contra hnm
    have hsplit : as.take (n + 1) = as.take n ++ [a] := by
      rw [List.take_add_one, ha, Option.toList_some]
    obtain ⟨k, rfl⟩ := Nat.exists_eq_add_of_lt (Nat.lt_of_not_le hnm)
    have hlen := hpre.length_le
    rw [Nat.add_right_comm, List.take_add, hsplit] at hlen
    simp only [List.flatMap_append, List.flatMap_singleton, List.length_append] at hlen
    omega

theorem Reads.run_cut (h : R.Reads enc P)
    (hcut : ∀ {a t}, P a → t <+: enc a → t.length < (enc a).length →
      ∀ b rest, R.turn t ≠ some (.ok (b, rest)))
    (hP : ∀ a ∈ as, P a) {n : Nat} {t : List β}
    (ht : t = [] ∧ n = as.length ∨
      ∃ a, as[n]? = some a ∧ t <+: enc a ∧ t.length < (enc a).length) :
    R.run ((as.take n).flatMap enc ++ t) = ⟨as.take n, t, (R.run t).result⟩ := by
  have hend : R.run t = ⟨[], t, (R.run t).result⟩ := by
    rcases ht with ⟨rfl, -⟩ | ⟨a, ha, hpre, hlt⟩
    · rw [run_of_end h.empty]
    · have hnot := hcut (hP a (List.mem_of_getElem? ha)) hpre hlt
      rcases hturn : R.turn t with _ | _ | ⟨b, rest⟩
      · rw [run_of_end hturn]
      · rw [run_of_error hturn]
      · exact absurd hturn (hnot b rest)
  rw [h.append fun a ha => hP a (List.mem_of_mem_take ha), hend, List.append_nil]

end Reader

end Lts
