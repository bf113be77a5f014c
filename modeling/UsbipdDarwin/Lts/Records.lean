import Mathlib.Data.List.Basic

/-! A counted sequence of records that only their own contents delimit: each is
decoded at the offset where the one before it ended. -/

namespace Lts.Records

variable {α β ε : Type*}

/-- `count` records from offset `off` on, and the offset after the last of them. -/
def decodeMany (decode : List β → Except ε (α × Nat)) (buf : List β) :
    Nat → Nat → Except ε (List α × Nat)
  | 0, off => .ok ([], off)
  | count + 1, off => do
    let (a, used) ← decode (buf.drop off)
    let (as, last) ← decodeMany decode buf count (off + used)
    .ok (a :: as, last)

/-- `decode` takes exactly the encoding of a record off the front of any input. -/
def Decodes (decode : List β → Except ε (α × Nat)) (encode : α → List β) (P : α → Prop) : Prop :=
  ∀ a, P a → ∀ rest, decode (encode a ++ rest) = .ok (a, (encode a).length)

variable {decode : List β → Except ε (α × Nat)} {encode : α → List β} {P : α → Prop}
  {buf head rest : List β} {as : List α}

theorem decodeMany_flatMap (h : Decodes decode encode P) (hP : ∀ a ∈ as, P a)
    (hbuf : buf = head ++ (as.flatMap encode ++ rest)) :
    decodeMany decode buf as.length head.length =
      .ok (as, head.length + (as.flatMap encode).length) := by
  induction as generalizing head with
  | nil => rfl
  | cons a as ih =>
    rw [List.forall_mem_cons] at hP
    rw [List.flatMap_cons, List.append_assoc] at hbuf
    have hdrop : buf.drop head.length = encode a ++ (as.flatMap encode ++ rest) := by
      rw [hbuf, List.drop_left]
    have htail := ih hP.2 (hbuf.trans (List.append_assoc ..).symm)
    rw [List.length_append] at htail
    rw [List.length_cons, decodeMany, hdrop, h a hP.1]
    simp only [bind, Except.bind]
    rw [htail, List.flatMap_cons, List.length_append, Nat.add_assoc]

theorem decodeMany_take (h : Decodes decode encode P) (hP : ∀ a ∈ as, P a)
    (hbuf : buf = head ++ (as.flatMap encode ++ rest)) {i : Nat} {a : α} (ha : as[i]? = some a) :
    ∃ off tail, decodeMany decode buf i head.length = .ok (as.take i, off) ∧
      buf.drop off = encode a ++ tail := by
  have hi : i < as.length := (List.getElem?_eq_some_iff.mp ha).1
  have hsplit : as = as.take i ++ a :: as.drop (i + 1) := by
    conv_lhs => rw [← List.take_append_drop i as]
    rw [List.drop_eq_getElem_cons hi, (List.getElem?_eq_some_iff.mp ha).2]
  have hlen : (as.take i).length = i := List.length_take_of_le (Nat.le_of_lt hi)
  have hbuf' : buf = head ++ ((as.take i).flatMap encode ++
      (encode a ++ ((as.drop (i + 1)).flatMap encode ++ rest))) := by
    rw [hbuf]
    conv_lhs => rw [hsplit]
    rw [List.flatMap_append, List.flatMap_cons, List.append_assoc, List.append_assoc]
  have hmany := decodeMany_flatMap h (fun b hb => hP b (List.mem_of_mem_take hb)) hbuf'
  rw [hlen] at hmany
  refine ⟨_, (as.drop (i + 1)).flatMap encode ++ rest, hmany, ?_⟩
  rw [hbuf', ← List.append_assoc, ← List.length_append, List.drop_left]

end Lts.Records
