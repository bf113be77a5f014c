import UsbipdDarwin.Lts.Reader

/-! Items that a separator ends, read from a stream that may stop anywhere: what has come
in full is read, and the rest waits for its separator. -/

namespace Lts.Lines

variable {α β : Type*} [DecidableEq β]

def turn (sep : β) (decode : List β → Option α) (input : List β) :
    Option (Except Unit (α × List β)) :=
  match input.dropWhile (· != sep) with
  | [] => none
  | _ :: rest =>
    some ((decode (input.takeWhile (· != sep))).elim (.error ()) fun a => .ok (a, rest))

def reader (sep : β) (decode : List β → Option α) : Reader α β Unit where
  turn := turn sep decode
  progress {input a rest} h := by
    unfold turn at h
    split at h
    · cases h
    · rename_i hdrop
      have hle := (List.dropWhile_suffix (p := (· != sep)) (l := input)).length_le
      rw [hdrop, List.length_cons] at hle
      cases hdecode : decode (input.takeWhile (· != sep)) with
      | none => simp [hdecode] at h
      | some b =>
        rw [hdecode] at h
        cases h
        exact hle

variable {sep : β} {decode : List β → Option α} {body : α → List β} {t : List β} {as : List α}

theorem all_ne (h : sep ∉ t) : ∀ b ∈ t, (b != sep) = true := by
  intro b hb
  rw [bne_iff_ne]
  rintro rfl
  exact h hb

theorem turn_of_not_mem (h : sep ∉ t) : turn sep decode t = none := by
  have hall := all_ne h
  have hdrop : t.dropWhile (· != sep) = [] := by
    rw [← List.append_nil t, List.dropWhile_append_of_pos hall, List.dropWhile_nil]
  unfold turn
  rw [hdrop]

theorem turn_of_line (h : sep ∉ t) (rest : List β) : turn sep decode (t ++ [sep] ++ rest) =
    some ((decode t).elim (.error ()) fun a => .ok (a, rest)) := by
  have hall := all_ne h
  have hdrop : (t ++ [sep] ++ rest).dropWhile (· != sep) = sep :: rest := by
    rw [List.append_assoc, List.dropWhile_append_of_pos hall]
    simp
  have htake : (t ++ [sep] ++ rest).takeWhile (· != sep) = t := by
    rw [List.append_assoc, List.takeWhile_append_of_pos hall]
    simp
  unfold turn
  rw [hdrop, htake]

theorem reads (hbody : ∀ a, sep ∉ body a) (hdecode : ∀ a, decode (body a) = some a) :
    (reader sep decode).Reads (fun a => body a ++ [sep]) fun _ => True := by
  refine ⟨rfl, fun {a} _ rest => ?_⟩
  show turn sep decode _ = _
  rw [turn_of_line (hbody a), hdecode a]
  rfl

/-- A stream of lines that is cut anywhere holds the lines that are whole, and a part of
the next one without its separator. -/
theorem run_cut (hbody : ∀ a, sep ∉ body a) (hdecode : ∀ a, decode (body a) = some a)
    {p : List β} (hp : p <+: as.flatMap fun a => body a ++ [sep]) :
    ∃ n t, (reader sep decode).run p = ⟨as.take n, t, .ok ()⟩ ∧
      p = ((as.take n).flatMap fun a => body a ++ [sep]) ++ t ∧ sep ∉ t := by
  have hproper {a : α} {t : List β} (ht : t <+: body a ++ [sep])
      (hlt : t.length < (body a ++ [sep]).length) : sep ∉ t := by
    intro hmem
    rw [List.length_append, List.length_singleton] at hlt
    have hpre : t <+: body a := List.prefix_of_prefix_length_le ht (List.prefix_append ..)
      (Nat.le_of_lt_succ hlt)
    exact hbody a (hpre.subset hmem)
  obtain ⟨n, -, t, rfl, ht⟩ := Reader.exists_cut hp
  have hsep : sep ∉ t := by
    rcases ht with ⟨rfl, -⟩ | ⟨a, -, hpre, hlt⟩
    · exact List.not_mem_nil
    · exact hproper hpre hlt
  have hend : (reader sep decode).turn t = none := turn_of_not_mem hsep
  refine ⟨n, t, ?_, rfl, hsep⟩
  have hcut : ∀ {a : α} {t : List β}, True → t <+: body a ++ [sep] →
      t.length < (body a ++ [sep]).length →
      ∀ b rest, (reader sep decode).turn t ≠ some (.ok (b, rest)) := by
    intro a t _ hpre hlt b rest hturn
    have hnone : (reader sep decode).turn t = none := turn_of_not_mem (hproper hpre hlt)
    rw [hnone] at hturn
    cases hturn
  rw [(reads hbody hdecode).run_cut hcut (fun _ _ => trivial) ht, Reader.run_of_end hend]

end Lts.Lines
