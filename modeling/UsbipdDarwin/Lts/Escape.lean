import Mathlib.Data.List.Basic

/-! Escaped words: a mark before every special character, which a reader takes off again,
and a separator between the words that occurs in none of them. -/

namespace Lts.Escape

section Write

variable {α : Type*}

def escape (esc : α) (special : α → Bool) : List α → List α
  | [] => []
  | c :: cs => if special c then esc :: c :: escape esc special cs else c :: escape esc special cs

variable {esc c : α} {special : α → Bool} {l : List α}

theorem mem_escape (h : c ∈ escape esc special l) : c = esc ∨ c ∈ l := by
  induction l with
  | nil => cases h
  | cons d l ih =>
    rw [escape] at h
    split_ifs at h <;> grind

theorem escape_append (l m : List α) :
    escape esc special (l ++ m) = escape esc special l ++ escape esc special m := by
  induction l with
  | nil => rfl
  | cons c l ih =>
    rw [List.cons_append, escape, escape, ih]
    split_ifs <;> rfl

theorem escape_words {sep : α} (hsep : special sep = false) (ws : List (List α)) :
    escape esc special (ws.flatMap (sep :: ·)) =
      (ws.map (escape esc special)).flatMap (sep :: ·) := by
  induction ws with
  | nil => rfl
  | cons w ws ih =>
    rw [List.flatMap_cons, escape_append, ih, escape, hsep, if_neg Bool.false_ne_true]
    rfl

theorem escape_head (h : (escape esc special l)[0]? = some c) (hc : c ≠ esc) :
    special c = false := by
  cases l with
  | nil => cases h
  | cons d l =>
    rw [escape] at h
    split_ifs at h with hd
    · exact absurd (Option.some.inj h).symm hc
    · rw [← Option.some.inj h]
      exact Bool.eq_false_iff.mpr hd

theorem intercalate_cons (sep : α) (w : List α) (ws : List (List α)) :
    [sep].intercalate (w :: ws) = w ++ ws.flatMap (sep :: ·) := by
  induction ws generalizing w with
  | nil => rw [List.intercalate_singleton, List.flatMap_nil, List.append_nil]
  | cons v ws ih =>
    rw [List.intercalate_cons_cons, ih, List.flatMap_cons, List.append_assoc, List.singleton_append,
      List.cons_append]

theorem intercalate_append (sep : α) (ls : List (List α)) (w : List α) (ws : List (List α)) :
    [sep].intercalate (ls ++ w :: ws) = ls.flatMap (· ++ [sep]) ++ [sep].intercalate (w :: ws) := by
  induction ls with
  | nil => rfl
  | cons l ls ih =>
    rw [List.cons_append, List.intercalate_cons_of_ne_nil (by simp), ih, List.flatMap_cons,
      List.append_assoc (l ++ [sep])]

theorem append_sep_inj {sep : α} {k m k' m' : List α} (hm : sep ∉ m) (hm' : sep ∉ m')
    (h : k ++ sep :: m = k' ++ sep :: m') : k = k' ∧ m = m' := by
  have hlast : ∀ {d m m' : List α}, sep ∉ m → sep :: m = d ++ sep :: m' → d = [] ∧ m = m' := by
    intro d m m' hm hd
    cases d with
    | nil => exact ⟨rfl, (List.cons.inj hd).2⟩
    | cons b d =>
      rw [(List.cons.inj hd).2] at hm
      exact absurd (List.mem_append_right d List.mem_cons_self) hm
  obtain ⟨d, hk, hd⟩ | ⟨d, hk, hd⟩ := List.append_eq_append_iff.mp h
  · obtain ⟨rfl, rfl⟩ := hlast hm hd
    exact ⟨by rw [hk, List.append_nil], rfl⟩
  · obtain ⟨rfl, rfl⟩ := hlast hm' hd
    exact ⟨by rw [hk, List.append_nil], rfl⟩

theorem escape_marks (h : esc ∉ l) (i : Nat) :
    (escape esc special l)[i]? = some esc ↔
      ∃ c, (escape esc special l)[i + 1]? = some c ∧ c ≠ esc ∧ special c = true := by
  -- what follows a whole character is escaped too, so it begins with a mark or without need of one
  have hhead : ∀ m, ¬ ∃ c, (escape esc special m)[0]? = some c ∧ c ≠ esc ∧ special c = true := by
    rintro m ⟨c, hget, hc, hspecial⟩
    rw [escape_head hget hc] at hspecial
    cases hspecial
  induction l generalizing i with
  | nil => simp [escape]
  | cons c l ih =>
    rw [List.mem_cons, not_or] at h
    have hc : c ≠ esc := Ne.symm h.1
    rw [escape]
    split_ifs with hspecial
    · rcases i with _ | _ | i
      · simpa using ⟨hc, hspecial⟩
      · simpa [hc] using hhead l
      · simpa using ih h.2 i
    · cases i with
      | zero => simpa [hc] using hhead l
      | succ i => simpa using ih h.2 i

end Write

section Read

variable {α : Type*} [DecidableEq α]

def unescape (esc : α) : List α → List α
  | [] => []
  | [c] => [c]
  | c :: d :: cs => if c = esc then d :: unescape esc cs else c :: unescape esc (d :: cs)

/-- The words of a text, after what is read of the first of them: a character that `ends` and
has no mark before it ends a word. -/
def wordsFrom (esc : α) (ends : α → Bool) (word : List α) : List α → List (List α)
  | [] => [word]
  | [c] => if ends c then [word, []] else [word ++ [c]]
  | c :: d :: cs =>
    if c = esc then wordsFrom esc ends (word ++ [d]) cs
    else if ends c then word :: wordsFrom esc ends [] (d :: cs)
    else wordsFrom esc ends (word ++ [c]) (d :: cs)

variable {esc c : α} {special ends : α → Bool} {l : List α}

theorem unescape_cons (hc : c ≠ esc) (l : List α) :
    unescape esc (c :: l) = c :: unescape esc l := by
  cases l with
  | nil => rfl
  | cons d l => rw [unescape, if_neg hc]

theorem unescape_escape (hesc : special esc = true) (l : List α) :
    unescape esc (escape esc special l) = l := by
  induction l with
  | nil => rfl
  | cons c l ih =>
    rw [escape]
    split_ifs with hc
    · rw [unescape, if_pos rfl, ih]
    · have hne : c ≠ esc := by
        rintro rfl
        exact hc hesc
      rw [unescape_cons hne, ih]

theorem wordsFrom_cons (hc : c ≠ esc) (w l : List α) :
    wordsFrom esc ends w (c :: l) =
      if ends c then w :: wordsFrom esc ends [] l else wordsFrom esc ends (w ++ [c]) l := by
  cases l with
  | nil => rfl
  | cons d l => rw [wordsFrom, if_neg hc]

theorem length_wordsFrom (ends : α → Bool) (h : esc ∉ l) (w : List α) :
    (wordsFrom esc ends w l).length = l.countP ends + 1 := by
  induction l generalizing w with
  | nil => rfl
  | cons c l ih =>
    rw [List.mem_cons, not_or] at h
    rw [wordsFrom_cons (Ne.symm h.1)]
    split_ifs with hc
    · rw [List.length_cons, ih h.2, List.countP_cons_of_pos hc]
    · rw [ih h.2, List.countP_cons_of_neg hc]

theorem wordsFrom_of_plain (h : esc ∉ l) (hends : ∀ c ∈ l, ends c = false) (w : List α) :
    wordsFrom esc ends w l = [w ++ l] := by
  induction l generalizing w with
  | nil => rw [wordsFrom, List.append_nil]
  | cons c l ih =>
    rw [List.mem_cons, not_or] at h
    rw [List.forall_mem_cons] at hends
    rw [wordsFrom_cons (Ne.symm h.1), hends.1, if_neg Bool.false_ne_true, ih h.2 hends.2,
      List.append_assoc, List.singleton_append]

end Read

end Lts.Escape
