import Mathlib.Data.List.Basic
import UsbipdDarwin.Lts.Lock

/-! A stream shared by writers that take a mutex for each frame and may be
suspended inside it. The stream is whole frames and what the holder has sent of
its own, unless a writer gives up in the middle. -/

namespace Lts

variable {ω β : Type*}

/-- `writing o` is the frame writer `o` is sending and how much of it is out. -/
@[ext] structure Channel (ω β : Type*) where
  writer : Lock ω
  wire : List β
  writing : ω → Option (List β × Nat)

namespace Channel

inductive Move (c c' : Channel ω β) (o : ω) : Prop
  | keep (hw : c'.writer = c.writer) (hb : c'.wire = c.wire) (ho : c'.writing o = c.writing o)
  | lock (f : List β) (hf : c.writer = .free) (hw : c'.writer = .held o) (hb : c'.wire = c.wire)
      (ho : c'.writing o = some (f, 0))
  | send (f : List β) (n k : Nat) (hw : c'.writer = c.writer) (ho : c.writing o = some (f, n))
      (hb : c'.wire = c.wire ++ (f.drop n).take k) (ho' : c'.writing o = some (f, n + k))
  | finish (f : List β) (hw : c'.writer = .free) (ho : c.writing o = some (f, f.length))
      (hb : c'.wire = c.wire) (ho' : c'.writing o = none)
  | tear (f : List β) (n : Nat) (hw : c'.writer = .free) (ho : c.writing o = some (f, n))
      (hn : n < f.length) (hb : c'.wire = c.wire) (ho' : c'.writing o = none)

def Exclusive (c : Channel ω β) : Prop :=
  ∀ o, (∃ f n, c.writing o = some (f, n)) ↔ c.writer = .held o

def partialFrame (c : Channel ω β) : List β :=
  match c.writer with
  | .held o => ((c.writing o).map fun p => p.1.take p.2).getD []
  | _ => []

variable {c c' : Channel ω β} {o : ω}

theorem Exclusive.held (h : c.Exclusive) {f : List β} {n : Nat} (ho : c.writing o = some (f, n)) :
    c.writer = .held o := (h o).mp ⟨f, n, ho⟩

theorem partialFrame_held (hw : c.writer = .held o) {f : List β} {n : Nat}
    (ho : c.writing o = some (f, n)) : c.partialFrame = f.take n := by
  simp only [partialFrame, hw, ho, Option.map_some, Option.getD_some]

theorem partialFrame_free (hw : c.writer = .free) : c.partialFrame = [] := by
  simp only [partialFrame, hw]

theorem Move.exclusive (h : Move c c' o) (hother : ∀ o', o' ≠ o → c'.writing o' = c.writing o')
    (he : c.Exclusive) : c'.Exclusive := by
  intro o'
  by_cases heq : o' = o
  · subst heq
    cases h with
    | keep hw _ ho => rw [hw, ho]; exact he o'
    | lock f _ hw _ ho => exact ⟨fun _ => hw, fun _ => ⟨f, 0, ho⟩⟩
    | send f n k hw ho _ ho' => rw [hw]; exact ⟨fun _ => he.held ho, fun _ => ⟨f, n + k, ho'⟩⟩
    | finish f hw _ _ ho' => simp [hw, ho']
    | tear f n hw _ _ _ ho' => simp [hw, ho']
  · rw [hother o' heq]
    cases h with
    | keep hw => rw [hw]; exact he o'
    | send _ _ _ hw => rw [hw]; exact he o'
    | lock f hf hw =>
      rw [hw, he o', hf]
      simpa using Ne.symm heq
    | finish f hw ho =>
      rw [hw, he o', he.held ho]
      simpa using Ne.symm heq
    | tear f n hw ho =>
      rw [hw, he o', he.held ho]
      simpa using Ne.symm heq

def Holds (frames : List (List β)) (c : Channel ω β) : Prop :=
  c.wire = frames.flatten ++ c.partialFrame

def Completes (c c' : Channel ω β) (o : ω) (new : List (List β)) : Prop :=
  (new = [] ∧ ∀ f, c.writing o = some (f, f.length) → c'.writing o ≠ none) ∨
    ∃ f, new = [f] ∧ c.writing o = some (f, f.length) ∧ c'.writing o = none

theorem Move.holds {frames new : List (List β)} (h : Move c c' o)
    (hother : ∀ o', o' ≠ o → c'.writing o' = c.writing o') (he : c.Exclusive)
    (ht : ∀ f n, c.writing o = some (f, n) → n < f.length → c'.writing o = none → n = 0)
    (hnew : c.Completes c' o new) (hf : c.Holds frames) : c'.Holds (frames ++ new) := by
  have hwire : c.wire = frames.flatten ++ c.partialFrame := hf
  show c'.wire = (frames ++ new).flatten ++ c'.partialFrame
  rcases hnew with ⟨rfl, hnot⟩ | ⟨f, rfl, hwhole, hnone⟩
  · rw [List.append_nil]
    cases h with
    | keep hw hb ho =>
      have hsame : c'.writing = c.writing := by
        funext o'
        by_cases heq : o' = o
        · rw [heq, ho]
        · exact hother o' heq
      rw [hb, hwire, partialFrame, partialFrame, hw, hsame]
    | lock f hfree hw hb ho =>
      rw [hb, hwire, partialFrame_free hfree, partialFrame_held hw ho, List.take_zero]
    | send f n k hw ho hb ho' =>
      have hheld := he.held ho
      rw [hb, hwire, partialFrame_held hheld ho, partialFrame_held (hw.trans hheld) ho',
        List.append_assoc, ← List.take_add]
    | finish f _ ho _ ho' => exact absurd ho' (hnot f ho)
    | tear f n hw ho hn hb ho' =>
      rw [hb, hwire, partialFrame_held (he.held ho) ho, partialFrame_free hw,
        ht f n ho hn ho', List.take_zero]
  · cases h with
    | finish g hw ho hb =>
      rw [hwhole] at ho
      cases ho
      rw [hb, hwire, partialFrame_held (he.held hwhole) hwhole, partialFrame_free hw,
        List.take_length]
      simp
    | tear g n _ ho hn =>
      rw [hwhole] at ho
      cases ho
      exact absurd hn (Nat.lt_irrefl _)
    | keep _ _ ho =>
      rw [ho, hwhole] at hnone
      cases hnone
    | lock _ _ _ _ ho | send _ _ _ _ _ _ ho =>
      rw [ho] at hnone
      cases hnone

end Channel
end Lts
