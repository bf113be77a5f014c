import Mathlib.Data.Nat.Digits.Defs

/-! Numbers in hexadecimal: printed with zeros in front up to a width, and read with a
check for every digit and for a bound that the number has to stay below. -/

namespace Lts.Radix

def hexVal (c : Char) : Option Nat :=
  if '0' ≤ c ∧ c ≤ '9' then some (c.toNat - 48)
  else if 'a' ≤ c ∧ c ≤ 'f' then some (c.toNat - 87)
  else if 'A' ≤ c ∧ c ≤ 'F' then some (c.toNat - 55)
  else none

def hexNum (cs : List Char) : Nat := cs.foldl (fun n c => n * 16 + (hexVal c).getD 0) 0

def hexPad (width n : Nat) : List Char :=
  List.replicate (width - (Nat.toDigits 16 n).length) '0' ++ Nat.toDigits 16 n

inductive DigitsError
  | invalidDigit
  | overflow
  deriving DecidableEq, Repr

def pushDigit (bound n : Nat) (c : Char) : Except DigitsError Nat :=
  match hexVal c with
  | none => .error .invalidDigit
  | some v => if n * 16 + v < bound then .ok (n * 16 + v) else .error .overflow

def readHex (bound : Nat) (cs : List Char) : Except DigitsError Nat :=
  cs.foldlM (pushDigit bound) 0

variable {bound n m : Nat} {c : Char} {cs : List Char}

theorem hexVal_digitChar (h : n < 16) : hexVal (Nat.digitChar n) = some n := by
  have hall : ∀ m : Fin 16, hexVal (Nat.digitChar m) = some m.val := by decide
  exact hall ⟨n, h⟩

theorem pushDigit_eq_ok :
    pushDigit bound n c = .ok m ↔ ∃ v, hexVal c = some v ∧ m = n * 16 + v ∧ m < bound := by
  unfold pushDigit
  cases hexVal c with
  | none => simp
  | some v =>
    simp only [Option.some.injEq, exists_eq_left']
    split_ifs with hlt
    · constructor
      · intro h
        cases h
        exact ⟨rfl, hlt⟩
      · rintro ⟨rfl, -⟩
        rfl
    · constructor
      · intro h
        cases h
      · rintro ⟨rfl, hm⟩
        exact absurd hm hlt

theorem le_foldl_digits (cs : List Char) (n : Nat) :
    n ≤ cs.foldl (fun n c => n * 16 + (hexVal c).getD 0) n := by
  induction cs generalizing n with
  | nil => exact Nat.le_refl n
  | cons c cs ih =>
    have hstep : n ≤ n * 16 + (hexVal c).getD 0 := by omega
    exact hstep.trans (ih _)

theorem foldlM_pushDigit (hn : n < bound) :
    cs.foldlM (pushDigit bound) n = .ok m ↔
      (∀ c ∈ cs, (hexVal c).isSome = true) ∧
        m = cs.foldl (fun n c => n * 16 + (hexVal c).getD 0) n ∧ m < bound := by
  induction cs generalizing n with
  | nil =>
    show Except.ok n = Except.ok m ↔ _
    constructor
    · intro h
      cases h
      refine ⟨fun c hc => ?_, rfl, hn⟩
      cases hc
    · rintro ⟨-, rfl, -⟩
      rfl
  | cons c cs ih =>
    rw [List.foldlM_cons, List.forall_mem_cons, List.foldl_cons]
    cases hpush : pushDigit bound n c with
    | ok k =>
      obtain ⟨v, hv, rfl, hlt⟩ := pushDigit_eq_ok.mp hpush
      simp only [hv, Option.isSome_some, true_and, Option.getD_some]
      exact ih hlt
    | error e =>
      constructor
      · intro h
        cases h
      · rintro ⟨⟨hsome, -⟩, rfl, hlt⟩
        obtain ⟨v, hv⟩ := Option.isSome_iff_exists.mp hsome
        rw [hv, Option.getD_some] at hlt
        have hok := pushDigit_eq_ok.mpr ⟨v, hv, rfl, (le_foldl_digits cs _).trans_lt hlt⟩
        rw [hpush] at hok
        cases hok

theorem readHex_eq_ok (hbound : 0 < bound) :
    readHex bound cs = .ok m ↔
      (∀ c ∈ cs, (hexVal c).isSome = true) ∧ m = hexNum cs ∧ m < bound :=
  foldlM_pushDigit hbound

section Pad

theorem hexNum_append_singleton (cs : List Char) (c : Char) :
    hexNum (cs ++ [c]) = hexNum cs * 16 + (hexVal c).getD 0 := by
  rw [hexNum, List.foldl_append]
  rfl

theorem hexNum_toDigits (n : Nat) : hexNum (Nat.toDigits 16 n) = n := by
  induction n using Nat.strong_induction_on with
  | _ n ih =>
    by_cases hlt : n < 16
    · rw [Nat.toDigits_of_lt_base hlt, hexNum, List.foldl_cons, hexVal_digitChar hlt]
      simp
    · have hdiv : n / 16 < n := Nat.div_lt_self (by omega) (by decide)
      rw [Nat.toDigits_of_base_le (by decide) (Nat.le_of_not_lt hlt), hexNum_append_singleton,
        ih _ hdiv, hexVal_digitChar (Nat.mod_lt n (by decide)), Option.getD_some]
      omega

theorem hexNum_replicate (k : Nat) (cs : List Char) :
    hexNum (List.replicate k '0' ++ cs) = hexNum cs := by
  induction k with
  | zero => rfl
  | succ k ih => exact ih

theorem hexNum_hexPad (width n : Nat) : hexNum (hexPad width n) = n := by
  rw [hexPad, hexNum_replicate, hexNum_toDigits]

theorem isSome_hexVal_toDigits (n : Nat) :
    ∀ c ∈ Nat.toDigits 16 n, (hexVal c).isSome = true := by
  induction n using Nat.strong_induction_on with
  | _ n ih =>
    have hdigit (m : Nat) (hm : m < 16) : (hexVal (Nat.digitChar m)).isSome = true := by
      rw [hexVal_digitChar hm]
      rfl
    intro c hc
    by_cases hlt : n < 16
    · rw [Nat.toDigits_of_lt_base hlt, List.mem_singleton] at hc
      rw [hc]
      exact hdigit n hlt
    · rw [Nat.toDigits_of_base_le (by decide) (Nat.le_of_not_lt hlt), List.mem_append,
        List.mem_singleton] at hc
      rcases hc with hc | rfl
      · exact ih _ (Nat.div_lt_self (by omega) (by decide)) c hc
      · exact hdigit _ (Nat.mod_lt n (by decide))

theorem isSome_hexVal_hexPad (width n : Nat) :
    ∀ c ∈ hexPad width n, (hexVal c).isSome = true := by
  intro c hc
  rcases List.mem_append.mp hc with hc | hc
  · rw [List.eq_of_mem_replicate hc]
    rfl
  · exact isSome_hexVal_toDigits n c hc

theorem hexPad_ne_nil (width n : Nat) : hexPad width n ≠ [] := by
  intro hnil
  have hlen := Nat.length_toDigits_pos (b := 16) (n := n)
  rw [(List.append_eq_nil_iff.mp hnil).2] at hlen
  exact Nat.lt_irrefl 0 hlen

end Pad

end Lts.Radix
