import Mathlib.Data.List.TakeWhile
import UsbipdDarwin.Lts.Radix

/-! JSON texts. A printer with a layout, which says what blanks it puts where, and a reader
that skips blanks; whatever the layout, the reader gives back the value that was printed
and what came after it. Numbers are natural numbers. -/

namespace Lts

inductive Json
  | null
  | num (n : Nat)
  | str (s : String)
  | arr (items : List Json)
  | obj (fields : List (String × Json))
  deriving Repr

namespace Json
open Radix

def isBlank (c : Char) : Bool := c == ' ' || c == '\n' || c == '\r' || c == '\t'

structure Layout where
  newline : Nat → List Char
  space : List Char
  newline_blank : ∀ d, (newline d).all isBlank = true
  space_blank : space.all isBlank = true

def compact : Layout where
  newline _ := []
  space := []
  newline_blank _ := rfl
  space_blank := rfl

def pretty : Layout where
  newline d := '\n' :: List.replicate (2 * d) ' '
  space := [' ']
  newline_blank d := by simp [isBlank]
  space_blank := rfl

section Print

/-- The short escapes, four hexadecimal digits for the other control characters, and
every other character as it is. -/
def escChar (c : Char) : List Char :=
  if c = '"' then ['\\', '"']
  else if c = '\\' then ['\\', '\\']
  else if c = '\x08' then ['\\', 'b']
  else if c = '\t' then ['\\', 't']
  else if c = '\n' then ['\\', 'n']
  else if c = '\x0c' then ['\\', 'f']
  else if c = '\r' then ['\\', 'r']
  else if c.toNat < 0x20 then
    ['\\', 'u', '0', '0', Nat.digitChar (c.toNat / 16), Nat.digitChar (c.toNat % 16)]
  else [c]

def printStr (s : String) : List Char := '"' :: (s.toList.flatMap escChar ++ ['"'])

variable (L : Layout)

def printTail (d : Nat) (closing : Char) : List (List Char) → List Char
  | [] => L.newline d ++ [closing]
  | t :: ts => ',' :: (L.newline (d + 1) ++ (t ++ printTail d closing ts))

def printBody (d : Nat) (closing : Char) : List (List Char) → List Char
  | [] => [closing]
  | t :: ts => L.newline (d + 1) ++ (t ++ printTail L d closing ts)

mutual

def print (d : Nat) : Json → List Char
  | .null => ['n', 'u', 'l', 'l']
  | .num n => Nat.toDigits 10 n
  | .str s => printStr s
  | .arr items => '[' :: printBody L d ']' (printItems (d + 1) items)
  | .obj fields => '\x7b' :: printBody L d '\x7d' (printFields (d + 1) fields)

def printItems (d : Nat) : List Json → List (List Char)
  | [] => []
  | v :: vs => print d v :: printItems d vs

def printFields (d : Nat) : List (String × Json) → List (List Char)
  | [] => []
  | (k, v) :: fields => (printStr k ++ ':' :: (L.space ++ print d v)) :: printFields d fields

end

end Print

section Read

def skipBlanks (cs : List Char) : List Char := cs.dropWhile isBlank

def shortEscape (c : Char) : Option Char :=
  match c with
  | '"' => some '"'
  | '\\' => some '\\'
  | '/' => some '/'
  | 'b' => some '\x08'
  | 'f' => some '\x0c'
  | 'n' => some '\n'
  | 'r' => some '\r'
  | 't' => some '\t'
  | _ => none

/-- Inside a string: as it stands, after a backslash, or in a hexadecimal escape of which
some digits have been read. -/
inductive Mode
  | plain
  | escape
  | hex (digits value : Nat)

def hexChar (n : Nat) : Option Char := if n.isValidChar then some (Char.ofNat n) else none

def readChars : Mode → List Char → Option (List Char × List Char)
  | _, [] => none
  | .plain, c :: rest =>
    if c = '"' then some ([], rest)
    else if c = '\\' then readChars .escape rest
    else if c.toNat < 0x20 then none
    else (readChars .plain rest).map fun r => (c :: r.1, r.2)
  | .escape, c :: rest =>
    if c = 'u' then readChars (.hex 0 0) rest
    else (shortEscape c).bind fun e => (readChars .plain rest).map fun r => (e :: r.1, r.2)
  | .hex digits value, c :: rest => (hexVal c).bind fun v =>
    if digits < 3 then readChars (.hex (digits + 1) (value * 16 + v)) rest
    else (hexChar (value * 16 + v)).bind fun e =>
      (readChars .plain rest).map fun r => (e :: r.1, r.2)

def readStr (cs : List Char) : Option (String × List Char) :=
  match skipBlanks cs with
  | [] => none
  | c :: rest =>
    if c = '"' then (readChars .plain rest).map fun r => (String.ofList r.1, r.2) else none

def readItems {α : Type} (closing : Char) (item : List Char → Option (α × List Char)) :
    Nat → List Char → Option (List α × List Char)
  | 0, _ => none
  | n + 1, cs => do
    let (v, cs) ← item cs
    match skipBlanks cs with
    | [] => none
    | c :: rest =>
      if c = closing then some ([v], rest)
      else if c = ',' then (readItems closing item n rest).map fun r => (v :: r.1, r.2)
      else none

def readBody {α : Type} (closing : Char) (item : List Char → Option (α × List Char)) (n : Nat)
    (cs : List Char) : Option (List α × List Char) :=
  match skipBlanks cs with
  | [] => none
  | c :: rest => if c = closing then some ([], rest) else readItems closing item n cs

def readField {α : Type} (value : List Char → Option (α × List Char)) (cs : List Char) :
    Option ((String × α) × List Char) := do
  let (k, cs) ← readStr cs
  match skipBlanks cs with
  | [] => none
  | c :: rest =>
    if c = ':' then (value rest).map fun r => ((k, r.1), r.2) else none

def readValue : Nat → List Char → Option (Json × List Char)
  | 0, _ => none
  | n + 1, cs =>
    match skipBlanks cs with
    | [] => none
    | c :: rest =>
      if c = '"' then (readChars .plain rest).map fun r => (.str (String.ofList r.1), r.2)
      else if c = '[' then (readBody ']' (readValue n) n rest).map fun r => (.arr r.1, r.2)
      else if c = '\x7b' then
        (readBody '\x7d' (readField (readValue n)) n rest).map fun r => (.obj r.1, r.2)
      else if c.isDigit then
        some (.num (Nat.ofDigitChars 10 ((c :: rest).takeWhile Char.isDigit) 0),
          (c :: rest).dropWhile Char.isDigit)
      else if (c :: rest).take 4 = ['n', 'u', 'l', 'l'] then some (.null, (c :: rest).drop 4)
      else none

def parse (cs : List Char) : Option Json :=
  match readValue cs.length cs with
  | some (v, rest) => if skipBlanks rest = [] then some v else none
  | none => none

end Read

variable {L : Layout} {ws rest : List Char}

theorem skipBlanks_append (h : ws.all isBlank = true) (rest : List Char) :
    skipBlanks (ws ++ rest) = skipBlanks rest := by
  unfold skipBlanks
  exact List.dropWhile_append_of_pos (List.all_eq_true.mp h)

theorem skipBlanks_cons {c : Char} (h : isBlank c = false) (rest : List Char) :
    skipBlanks (c :: rest) = c :: rest := by
  unfold skipBlanks
  rw [List.dropWhile_cons_of_neg]
  rw [h]
  exact Bool.false_ne_true

section Strings

theorem hexChar_toNat (c : Char) : hexChar c.toNat = some c := by
  have hvalid : c.toNat.isValidChar := c.valid
  rw [hexChar, if_pos hvalid, Char.ofNat_toNat]

theorem readChars_hex {c : Char} (h : c.toNat < 0x20) (rest : List Char) :
    readChars (.hex 0 0) ('0' :: '0' :: Nat.digitChar (c.toNat / 16) ::
      Nat.digitChar (c.toNat % 16) :: rest) =
        (readChars .plain rest).map fun r => (c :: r.1, r.2) := by
  have hzero : hexVal '0' = some 0 := rfl
  have hhigh : hexVal (Nat.digitChar (c.toNat / 16)) = some (c.toNat / 16) :=
    hexVal_digitChar (by omega)
  have hlow : hexVal (Nat.digitChar (c.toNat % 16)) = some (c.toNat % 16) :=
    hexVal_digitChar (by omega)
  have hsum : c.toNat / 16 * 16 + c.toNat % 16 = c.toNat := by omega
  simp [readChars, hzero, hhigh, hlow, hsum, hexChar_toNat]

theorem readChars_escChar (c : Char) (rest : List Char) :
    readChars .plain (escChar c ++ rest) =
      (readChars .plain rest).map fun r => (c :: r.1, r.2) := by
  unfold escChar
  split_ifs with hquote hback hb ht hn hf hr hlow
  -- the short escapes
  iterate 7
    · subst c
      rfl
  · exact readChars_hex hlow rest
  · rw [List.singleton_append, readChars, if_neg hquote, if_neg hback, if_neg hlow]

theorem readChars_flatMap (cs rest : List Char) :
    readChars .plain (cs.flatMap escChar ++ '"' :: rest) = some (cs, rest) := by
  induction cs with
  | nil => rfl
  | cons c cs ih =>
    rw [List.flatMap_cons, List.append_assoc, readChars_escChar, ih]
    rfl

end Strings

def Stops (rest : List Char) : Prop := ∀ c ∈ rest.head?, c.isDigit = false

theorem isDigit_of_isBlank {c : Char} (h : isBlank c = true) : c.isDigit = false := by
  simp only [isBlank, Bool.or_eq_true, beq_iff_eq] at h
  rcases h with ((rfl | rfl) | rfl) | rfl <;> rfl

theorem stops_cons {c : Char} (h : c.isDigit = false) (rest : List Char) : Stops (c :: rest) := by
  intro c' hc'
  cases hc'
  exact h

theorem Stops.takeWhile (h : Stops rest) : rest.takeWhile Char.isDigit = [] := by
  cases rest with
  | nil => rfl
  | cons c rest => simp [h c rfl]

theorem Stops.dropWhile (h : Stops rest) : rest.dropWhile Char.isDigit = rest := by
  cases rest with
  | nil => rfl
  | cons c rest => simp [h c rfl]

theorem stops_blank (hws : ws.all isBlank = true) (h : Stops rest) : Stops (ws ++ rest) := by
  cases ws with
  | nil => exact h
  | cons c ws =>
    rw [List.all_cons, Bool.and_eq_true] at hws
    exact stops_cons (isDigit_of_isBlank hws.1) _

section Brackets

variable {α : Type} {closing : Char} {item : List Char → Option (α × List Char)}

/-- `t` shows `v` to an item reader, and does not look like a closing bracket. -/
structure Shows (closing : Char) (item : List Char → Option (α × List Char)) (t : List Char)
    (v : α) : Prop where
  head : ∃ c cs, t = c :: cs ∧ isBlank c = false ∧ c ≠ closing
  reads : ∀ ws rest, ws.all isBlank = true → Stops rest → item (ws ++ (t ++ rest)) = some (v, rest)

structure Closes (closing : Char) : Prop where
  blank : isBlank closing = false
  digit : closing.isDigit = false
  comma : closing ≠ ','

theorem stops_printTail (hc : Closes closing) (L : Layout) (d : Nat) (ts : List (List Char)) :
    Stops (printTail L d closing ts ++ rest) := by
  cases ts with
  | nil =>
    rw [printTail, List.append_assoc]
    exact stops_blank (L.newline_blank d) (stops_cons hc.digit _)
  | cons t ts => exact stops_cons rfl _

theorem readItems_print (hc : Closes closing) {d n : Nat} {t : List Char} {v : α}
    {ts : List (List Char)} {vs : List α} (ht : Shows closing item t v)
    (hts : List.Forall₂ (Shows closing item) ts vs) (hn : ts.length < n) (rest : List Char) :
    readItems closing item n (L.newline (d + 1) ++ (t ++ (printTail L d closing ts ++ rest))) =
      some (v :: vs, rest) := by
  induction hts generalizing t v n with
  | nil =>
    obtain ⟨n, rfl⟩ := Nat.exists_eq_succ_of_ne_zero (Nat.ne_of_gt hn)
    have hstops : Stops (printTail L d closing [] ++ rest) := stops_printTail hc L d []
    have hskip : skipBlanks (printTail L d closing [] ++ rest) = closing :: rest := by
      rw [printTail, List.append_assoc, skipBlanks_append (L.newline_blank d)]
      exact skipBlanks_cons hc.blank rest
    rw [readItems, ht.reads _ _ (L.newline_blank _) hstops]
    simp [hskip]
  | @cons t' v' ts vs ht' hts ih =>
    obtain ⟨n, rfl⟩ := Nat.exists_eq_succ_of_ne_zero (Nat.ne_zero_of_lt hn)
    have hstops : Stops (printTail L d closing (t' :: ts) ++ rest) :=
      stops_printTail hc L d (t' :: ts)
    have hskip : skipBlanks (printTail L d closing (t' :: ts) ++ rest) =
        ',' :: (L.newline (d + 1) ++ (t' ++ (printTail L d closing ts ++ rest))) := by
      rw [printTail, List.cons_append, skipBlanks_cons rfl, List.append_assoc, List.append_assoc]
    have hrest := ih ht' (Nat.lt_of_succ_lt_succ hn)
    rw [readItems, ht.reads _ _ (L.newline_blank _) hstops]
    simp [hskip, hrest, hc.comma.symm]

theorem readBody_print (hc : Closes closing) {d n : Nat} {ts : List (List Char)} {vs : List α}
    (hts : List.Forall₂ (Shows closing item) ts vs) (hn : ts.length ≤ n) (rest : List Char) :
    readBody closing item n (printBody L d closing ts ++ rest) = some (vs, rest) := by
  cases hts with
  | nil =>
    have hskip : skipBlanks (printBody L d closing [] ++ rest) = closing :: rest :=
      skipBlanks_cons hc.blank rest
    simp [readBody, hskip]
  | @cons t v ts vs ht hts =>
    obtain ⟨c, cs, hcs, hblank, hne⟩ := ht.head
    have htext : printBody L d closing (t :: ts) ++ rest =
        L.newline (d + 1) ++ (t ++ (printTail L d closing ts ++ rest)) := by
      rw [printBody, List.append_assoc, List.append_assoc]
    have hskip : skipBlanks (printBody L d closing (t :: ts) ++ rest) =
        c :: (cs ++ (printTail L d closing ts ++ rest)) := by
      rw [htext, skipBlanks_append (L.newline_blank _), hcs, List.cons_append]
      exact skipBlanks_cons hblank _
    have hitems := readItems_print hc ht hts (L := L) (d := d) hn rest
    rw [← htext] at hitems
    simp [readBody, hskip, hne, hitems]

end Brackets

section Values

theorem toDigits_ne_nil (n : Nat) : Nat.toDigits 10 n ≠ [] := by
  intro hnil
  have hlen := Nat.length_toDigits_pos (b := 10) (n := n)
  rw [hnil] at hlen
  exact Nat.lt_irrefl 0 hlen

theorem all_isDigit_toDigits (n : Nat) : ∀ c ∈ Nat.toDigits 10 n, c.isDigit = true :=
  fun _ hc => Nat.isDigit_of_mem_toDigits (by decide) (Nat.le_refl 10) hc

theorem isBlank_of_isDigit {c : Char} (h : c.isDigit = true) : isBlank c = false := by
  rw [Bool.eq_false_iff]
  intro hblank
  rw [isDigit_of_isBlank hblank] at h
  cases h

theorem print_head (L : Layout) (d : Nat) (v : Json) :
    ∃ c cs, print L d v = c :: cs ∧ isBlank c = false ∧ c ≠ ']' := by
  cases v with
  | num n =>
    obtain ⟨c, cs, hcs⟩ := List.exists_cons_of_ne_nil (toDigits_ne_nil n)
    have hdigit : c.isDigit = true := all_isDigit_toDigits n c (by simp [hcs])
    refine ⟨c, cs, hcs, isBlank_of_isDigit hdigit, ?_⟩
    rintro rfl
    cases hdigit
  | null | str s | arr items | obj fields => exact ⟨_, _, rfl, rfl, by decide⟩

theorem length_le_printTail (L : Layout) (d : Nat) (closing : Char) (ts : List (List Char)) :
    ts.length < (printTail L d closing ts).length ∧
      ∀ t ∈ ts, t.length ≤ (printTail L d closing ts).length := by
  induction ts with
  | nil => simp [printTail]
  | cons t ts ih =>
    simp only [printTail, List.length_cons, List.length_append, List.forall_mem_cons]
    refine ⟨by omega, by omega, fun t' ht' => ?_⟩
    have hlen := ih.2 t' ht'
    omega

theorem length_le_printBody (L : Layout) (d : Nat) (closing : Char) (ts : List (List Char)) :
    ts.length ≤ (printBody L d closing ts).length ∧
      ∀ t ∈ ts, t.length ≤ (printBody L d closing ts).length := by
  cases ts with
  | nil => simp
  | cons t ts =>
    have htail := length_le_printTail L d closing ts
    simp only [printBody, List.length_cons, List.length_append, List.forall_mem_cons]
    refine ⟨by omega, by omega, fun t' ht' => ?_⟩
    have hlen := htail.2 t' ht'
    omega

theorem closes_arr : Closes ']' := ⟨rfl, rfl, by decide⟩

theorem closes_obj : Closes '\x7d' := ⟨rfl, rfl, by decide⟩

theorem readStr_print (s : String) (hws : ws.all isBlank = true) (rest : List Char) :
    readStr (ws ++ (printStr s ++ rest)) = some (s, rest) := by
  have hskip : skipBlanks (ws ++ (printStr s ++ rest)) =
      '"' :: (s.toList.flatMap escChar ++ '"' :: rest) := by
    rw [skipBlanks_append hws, printStr, List.cons_append, List.append_assoc]
    exact skipBlanks_cons rfl _
  simp [readStr, hskip, readChars_flatMap]

theorem readField_print {n : Nat} {v : Json} {t : List Char} (k : String) (L : Layout)
    (hv : ∀ ws rest, ws.all isBlank = true → Stops rest →
      readValue n (ws ++ (t ++ rest)) = some (v, rest)) (hws : ws.all isBlank = true)
    (hrest : Stops rest) :
    readField (readValue n) (ws ++ (printStr k ++ ':' :: (L.space ++ t) ++ rest)) =
      some ((k, v), rest) := by
  have hkey : readStr (ws ++ (printStr k ++ ':' :: (L.space ++ t) ++ rest)) =
      some (k, ':' :: (L.space ++ (t ++ rest))) := by
    rw [List.append_assoc, readStr_print k hws, List.cons_append, List.append_assoc]
  have hskip : skipBlanks (':' :: (L.space ++ (t ++ rest))) = ':' :: (L.space ++ (t ++ rest)) :=
    skipBlanks_cons rfl _
  rw [readField, hkey]
  simp [hskip, hv L.space rest L.space_blank hrest]

theorem readValue_blank (n : Nat) (hws : ws.all isBlank = true) (cs : List Char) :
    readValue n (ws ++ cs) = readValue n cs := by
  cases n with
  | zero => rfl
  | succ n => rw [readValue, readValue, skipBlanks_append hws]

theorem readValue_num (n m : Nat) (hrest : Stops rest) :
    readValue (m + 1) (Nat.toDigits 10 n ++ rest) = some (.num n, rest) := by
  obtain ⟨c, cs, hcs⟩ := List.exists_cons_of_ne_nil (toDigits_ne_nil n)
  have hdigit : c.isDigit = true := all_isDigit_toDigits n c (by simp [hcs])
  have hne (c' : Char) (hc' : c'.isDigit = false) : c ≠ c' := by
    rintro rfl
    rw [hdigit] at hc'
    cases hc'
  have hskip : skipBlanks (Nat.toDigits 10 n ++ rest) = c :: (cs ++ rest) := by
    rw [hcs, List.cons_append]
    exact skipBlanks_cons (isBlank_of_isDigit hdigit) _
  have htake : (c :: (cs ++ rest)).takeWhile Char.isDigit = Nat.toDigits 10 n := by
    rw [← List.cons_append, ← hcs, List.takeWhile_append_of_pos (all_isDigit_toDigits n),
      hrest.takeWhile, List.append_nil]
  have hdrop : (c :: (cs ++ rest)).dropWhile Char.isDigit = rest := by
    rw [← List.cons_append, ← hcs, List.dropWhile_append_of_pos (all_isDigit_toDigits n),
      hrest.dropWhile]
  rw [readValue, hskip]
  simp only
  rw [if_neg (hne _ rfl), if_neg (hne _ rfl), if_neg (hne _ rfl), if_pos hdigit, htake, hdrop,
    Nat.ofDigitChars_ten_toDigits]

end Values

mutual

theorem readValue_print (L : Layout) (d n : Nat) (v : Json) (hn : (print L d v).length ≤ n)
    (ws rest : List Char) (hws : ws.all isBlank = true) (hrest : Stops rest) :
    readValue n (ws ++ (print L d v ++ rest)) = some (v, rest) := by
  rw [readValue_blank n hws]
  -- a text is never empty, so there is a turn for it
  obtain ⟨m, rfl⟩ : ∃ m, n = m + 1 := by
    obtain ⟨c, cs, hcs, -⟩ := print_head L d v
    rw [hcs, List.length_cons] at hn
    exact Nat.exists_eq_succ_of_ne_zero (Nat.ne_zero_of_lt hn)
  cases v with
  | null => rfl
  | num k => exact readValue_num k m hrest
  | str s =>
    have hskip : skipBlanks (print L d (.str s) ++ rest) =
        '"' :: (s.toList.flatMap escChar ++ '"' :: rest) := by
      rw [print, printStr, List.cons_append, List.append_assoc]
      exact skipBlanks_cons rfl _
    rw [readValue, hskip]
    simp [readChars_flatMap]
  | arr items =>
    rw [print, List.length_cons] at hn
    obtain ⟨hwidth, hitems⟩ := length_le_printBody L d ']' (printItems L (d + 1) items)
    have hbody := readBody_print (L := L) (d := d) closes_arr
      (shows_items L (d + 1) m items fun t ht => (hitems t ht).trans (Nat.le_of_succ_le_succ hn))
      (hwidth.trans (Nat.le_of_succ_le_succ hn)) rest
    have hskip : skipBlanks (print L d (.arr items) ++ rest) =
        '[' :: (printBody L d ']' (printItems L (d + 1) items) ++ rest) := by
      rw [print]
      exact skipBlanks_cons rfl _
    rw [readValue, hskip]
    simp [hbody]
  | obj fields =>
    rw [print, List.length_cons] at hn
    obtain ⟨hwidth, hfields⟩ := length_le_printBody L d '\x7d' (printFields L (d + 1) fields)
    have hbody := readBody_print (L := L) (d := d) closes_obj
      (shows_fields L (d + 1) m fields fun t ht => (hfields t ht).trans (Nat.le_of_succ_le_succ hn))
      (hwidth.trans (Nat.le_of_succ_le_succ hn)) rest
    have hskip : skipBlanks (print L d (.obj fields) ++ rest) =
        '\x7b' :: (printBody L d '\x7d' (printFields L (d + 1) fields) ++ rest) := by
      rw [print]
      exact skipBlanks_cons rfl _
    rw [readValue, hskip]
    simp [hbody]

theorem shows_items (L : Layout) (d n : Nat) (vs : List Json)
    (hn : ∀ t ∈ printItems L d vs, t.length ≤ n) :
    List.Forall₂ (Shows ']' (readValue n)) (printItems L d vs) vs := by
  cases vs with
  | nil => exact .nil
  | cons v vs =>
    rw [printItems, List.forall_mem_cons] at hn
    exact .cons ⟨print_head L d v, readValue_print L d n v hn.1⟩ (shows_items L d n vs hn.2)

theorem shows_fields (L : Layout) (d n : Nat) (fields : List (String × Json))
    (hn : ∀ t ∈ printFields L d fields, t.length ≤ n) :
    List.Forall₂ (Shows '\x7d' (readField (readValue n))) (printFields L d fields) fields := by
  cases fields with
  | nil => exact .nil
  | cons field fields =>
    obtain ⟨k, v⟩ := field
    rw [printFields, List.forall_mem_cons] at hn
    have hlen : (print L d v).length ≤ n := by
      have htext := hn.1
      simp only [List.length_append, List.length_cons] at htext
      omega
    refine .cons ⟨⟨'"', _, rfl, rfl, by decide⟩, fun ws rest hws hrest => ?_⟩
      (shows_fields L d n fields hn.2)
    exact readField_print k L (readValue_print L d n v hlen) hws hrest

end

theorem stops_of_blank (hws : ws.all isBlank = true) : Stops ws := by
  have hstops : Stops [] := fun c hc => by cases hc
  simpa using stops_blank hws hstops

theorem parse_print (L : Layout) (d : Nat) (v : Json) (hws : ws.all isBlank = true) :
    parse (print L d v ++ ws) = some v := by
  have hlen : (print L d v).length ≤ (print L d v ++ ws).length := by
    rw [List.length_append]
    exact Nat.le_add_right _ _
  have hread := readValue_print L d _ v hlen [] ws rfl (stops_of_blank hws)
  have hend : skipBlanks ws = [] := by
    have happ := skipBlanks_append hws []
    rwa [List.append_nil] at happ
  rw [List.nil_append] at hread
  rw [parse, hread]
  exact if_pos hend

example : (parse (print pretty 0 (.arr [.obj [("a", .num 30), ("b", .null)], .obj []]))).map
    (print compact 0) = some "[\x7b\"a\":30,\"b\":null\x7d,\x7b\x7d]".toList := by decide

section Printable

def Printable (cs : List Char) : Prop := ∀ c ∈ cs, 0x20 ≤ c.toNat

theorem printable_append {cs cs' : List Char} :
    Printable (cs ++ cs') ↔ Printable cs ∧ Printable cs' := List.forall_mem_append

theorem printable_cons {c : Char} {cs : List Char} :
    Printable (c :: cs) ↔ 0x20 ≤ c.toNat ∧ Printable cs := List.forall_mem_cons

theorem printable_escChar (c : Char) : Printable (escChar c) := by
  have hdigit (n : Nat) (h : n < 16) : 0x20 ≤ (Nat.digitChar n).toNat := by
    have hall : ∀ m : Fin 16, 0x20 ≤ (Nat.digitChar m).toNat := by decide
    exact hall ⟨n, h⟩
  unfold escChar
  split_ifs with hquote hback hb ht hn hf hr hlow
  iterate 7
    · simp [Printable]
  · have hhigh := hdigit (c.toNat / 16) (by omega)
    have hrest := hdigit (c.toNat % 16) (by omega)
    simpa [Printable] using ⟨hhigh, hrest⟩
  · simpa [Printable] using hlow

theorem printable_printStr (s : String) : Printable (printStr s) := by
  refine printable_cons.mpr ⟨by decide, printable_append.mpr ⟨fun c hc => ?_, by simp [Printable]⟩⟩
  obtain ⟨c', -, hc⟩ := List.mem_flatMap.mp hc
  exact printable_escChar c' c hc

theorem printable_printTail {closing : Char} (hclosing : 0x20 ≤ closing.toNat) (d : Nat)
    {ts : List (List Char)} (hts : ∀ t ∈ ts, Printable t) :
    Printable (printTail compact d closing ts) := by
  induction ts with
  | nil => simpa [printTail, compact, Printable] using hclosing
  | cons t ts ih =>
    rw [List.forall_mem_cons] at hts
    show Printable (',' :: (t ++ printTail compact d closing ts))
    exact printable_cons.mpr ⟨by decide, printable_append.mpr ⟨hts.1, ih hts.2⟩⟩

theorem printable_printBody {closing : Char} (hclosing : 0x20 ≤ closing.toNat) (d : Nat)
    {ts : List (List Char)} (hts : ∀ t ∈ ts, Printable t) :
    Printable (printBody compact d closing ts) := by
  cases ts with
  | nil => simpa [printBody, Printable] using hclosing
  | cons t ts =>
    rw [List.forall_mem_cons] at hts
    show Printable (t ++ printTail compact d closing ts)
    exact printable_append.mpr ⟨hts.1, printable_printTail hclosing d hts.2⟩

mutual

theorem printable_print (d : Nat) (v : Json) : Printable (print compact d v) := by
  cases v with
  | null => simp [print, Printable]
  | num n =>
    intro c hc
    have hdigit := all_isDigit_toDigits n c hc
    simp only [Char.isDigit, Bool.and_eq_true, decide_eq_true_eq] at hdigit
    exact Nat.le_trans (by decide) (UInt32.le_iff_toNat_le.mp hdigit.1)
  | str s => exact printable_printStr s
  | arr items =>
    exact printable_cons.mpr
      ⟨by decide, printable_printBody (by decide) d (printable_items (d + 1) items)⟩
  | obj fields =>
    exact printable_cons.mpr
      ⟨by decide, printable_printBody (by decide) d (printable_fields (d + 1) fields)⟩

theorem printable_items (d : Nat) (vs : List Json) :
    ∀ t ∈ printItems compact d vs, Printable t := by
  cases vs with
  | nil => exact fun t ht => by cases ht
  | cons v vs =>
    rw [printItems, List.forall_mem_cons]
    exact ⟨printable_print d v, printable_items d vs⟩

theorem printable_fields (d : Nat) (fields : List (String × Json)) :
    ∀ t ∈ printFields compact d fields, Printable t := by
  cases fields with
  | nil => exact fun t ht => by cases ht
  | cons field fields =>
    obtain ⟨k, v⟩ := field
    rw [printFields, List.forall_mem_cons]
    refine ⟨printable_append.mpr ⟨printable_printStr k, ?_⟩, printable_fields d fields⟩
    exact printable_cons.mpr ⟨by decide, printable_print d v⟩

end

end Printable

section Codec

/-- What a JSON library offers: a value as a line of text or laid out over several, and back. -/
structure Codec where
  line : Json → String
  pretty : Json → String
  parse : String → Option Json

/-- Texts are read as what they were made of, also before a newline, and there is none in a
line. -/
structure Codec.Lawful (c : Codec) : Prop where
  parse_line : ∀ v, c.parse (c.line v) = some v
  parse_push_line : ∀ v, c.parse ((c.line v).push '\n') = some v
  parse_push_pretty : ∀ v, c.parse ((c.pretty v).push '\n') = some v
  newline_not_mem_line : ∀ v, '\n' ∉ (c.line v).toList

def codec : Codec where
  line v := String.ofList (print compact 0 v)
  pretty v := String.ofList (print pretty 0 v)
  parse s := parse s.toList

theorem parse_push (L : Layout) (v : Json) :
    parse ((String.ofList (print L 0 v)).push '\n').toList = some v := by
  rw [String.toList_push, String.toList_ofList]
  exact parse_print L 0 v rfl

theorem codec_lawful : codec.Lawful where
  parse_line v := by
    have hprint : parse (print compact 0 v ++ []) = some v := parse_print compact 0 v rfl
    rw [List.append_nil] at hprint
    simpa only [codec, String.toList_ofList] using hprint
  parse_push_line := parse_push compact
  parse_push_pretty := parse_push pretty
  newline_not_mem_line v := by
    intro hmem
    simp only [codec, String.toList_ofList] at hmem
    have hprintable : 0x20 ≤ '\n'.toNat := printable_print 0 v '\n' hmem
    exact absurd hprintable (by decide)

end Codec

end Json

end Lts
