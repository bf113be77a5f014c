import UsbipdDarwin.Sudoers.Command

/-! Whom a sudoers rule is for. The group goes into the rule as it was given, while a safe
character may still end a word there. -/

namespace Usbip.Sudoers
open Proto Lts.Escape

def endsWord (c : Char) : Bool :=
  c == ':' || c == ',' || c == '=' || c == '!' || c == '(' || c == ')'

inductive Principal
  | user (name : String)
  | unixGroup (name : String)
  deriving DecidableEq

def principal (word : List Char) : Principal :=
  if word.head? = some '%' then .unixGroup (String.ofList word.tail)
  else .user (String.ofList word)

def ruleLine (out : String) : List Char := (out.toList.splitOn '\n').getD 4 []

def userWords (out : String) : List (List Char) :=
  wordsFrom '\\' endsWord [] ((ruleLine out).takeWhile (· != ' '))

def principals (out : String) : List Principal := (userWords out).map principal

theorem endsWord_iff {c : Char} (hsafe : isSafeChar c = true) :
    endsWord c = true ↔ c = ':' ∨ c = '=' := by
  rw [← needsEscape_iff (.inr hsafe)]
  have hne : c ≠ '\\' := by
    rintro rfl
    exact absurd hsafe (by decide)
  simp [endsWord, needsEscape, hne]

section Field

variable {spec : Spec} {binary : String}

theorem userWords_fragment (h : Accepted spec binary) :
    userWords (fragment spec.group binary spec.args) =
      wordsFrom '\\' endsWord [] ('%' :: spec.group.toList) := by
  have hline : ruleLine (fragment spec.group binary spec.args) = '%' :: spec.group.toList ++
      (" ALL=(root:wheel) NOPASSWD:NOSETENV: ".toList ++ commandText binary spec.args) := by
    rw [ruleLine, h.spells.lines, ← List.append_assoc]
    rfl
  have hfield : ∀ c ∈ '%' :: spec.group.toList, (c != ' ') = true := by
    intro c hc
    rw [bne_iff_ne]
    rintro rfl
    obtain hc | hc := List.mem_cons.mp hc
    · cases hc
    · exact absurd (h.group_safe _ hc) (by decide)
  have hblank : (" ALL=(root:wheel) NOPASSWD:NOSETENV: ".toList ++
      commandText binary spec.args).takeWhile (· != ' ') = [] := rfl
  rw [userWords, hline, List.takeWhile_append_of_pos hfield, hblank, List.append_nil]

theorem backslash_not_mem_group (h : Accepted spec binary) : '\\' ∉ '%' :: spec.group.toList := by
  rw [List.mem_cons, not_or]
  exact ⟨by decide, fun hmem => absurd (h.group_safe _ hmem) (by decide)⟩

theorem userWords_eq_singleton_iff (h : Accepted spec binary) :
    userWords (fragment spec.group binary spec.args) = ['%' :: spec.group.toList] ↔
      ':' ∉ spec.group.toList ∧ '=' ∉ spec.group.toList := by
  rw [userWords_fragment h]
  constructor
  · intro hone
    have hlen := length_wordsFrom endsWord (backslash_not_mem_group h) []
    rw [hone, List.length_singleton, Nat.right_eq_add, List.countP_eq_zero] at hlen
    exact ⟨fun hmem => hlen ':' (List.mem_cons_of_mem _ hmem) rfl,
      fun hmem => hlen '=' (List.mem_cons_of_mem _ hmem) rfl⟩
  · rintro ⟨hcolon, hequals⟩
    rw [wordsFrom_of_plain (backslash_not_mem_group h), List.nil_append]
    intro c hc
    obtain rfl | hc := List.mem_cons.mp hc
    · rfl
    · rw [← Bool.not_eq_true, endsWord_iff (h.group_safe c hc)]
      rintro (rfl | rfl)
      · exact hcolon hc
      · exact hequals hc

end Field

theorem eq_of_principal {word : List Char} {name : String}
    (h : principal word = .unixGroup name) : word = '%' :: name.toList := by
  rw [principal] at h
  split_ifs at h with hhead
  cases h
  obtain ⟨rest, rfl⟩ := List.head?_eq_some_iff.mp hhead
  rw [List.tail_cons, String.toList_ofList]

/-- The rule is for the group that was given, and nobody else, exactly if the group has
neither of the two characters. -/
theorem rule_applies_to_group (spec : Spec) (out : String) (h : render spec = .ok out) :
    (userWords out = ['%' :: spec.group.toList] ↔
      ':' ∉ spec.group.toList ∧ '=' ∉ spec.group.toList) ∧
    (principals out = [.unixGroup spec.group] ↔
      ':' ∉ spec.group.toList ∧ '=' ∉ spec.group.toList) := by
  obtain ⟨binary, haccepted, rfl⟩ := render_eq_ok.mp h
  have hwords := userWords_eq_singleton_iff haccepted
  refine ⟨hwords, ?_⟩
  rw [← hwords, principals]
  constructor
  · intro hone
    obtain ⟨word, hword, hgroup⟩ := List.map_eq_singleton_iff.mp hone
    rw [hword, eq_of_principal hgroup]
  · intro hone
    rw [hone, List.map_singleton, principal, if_pos List.head?_cons, List.tail_cons,
      String.ofList_toList]

theorem rule_applies_to_group_homebrew :
    ∃ out, render homebrewSpec = .ok out ∧ principals out = [.unixGroup "admin"] := by
  have hrender := render_eq_ok.mpr ⟨_, accepted_homebrew, rfl⟩
  exact ⟨_, hrender, (rule_applies_to_group _ _ hrender).2.mpr ⟨by decide, by decide⟩⟩

def twoWordSpec : Spec := { homebrewSpec with group := "staff:wheel" }

/-- The rule is accepted, and is for a group and a user that nobody has named. -/
theorem rule_applies_to_others :
    ∃ out, render twoWordSpec = .ok out ∧
      principals out = [.unixGroup "staff", .user "wheel"] ∧
      principals out ≠ [.unixGroup twoWordSpec.group] := by
  have haccepted : Accepted twoWordSpec "/opt/homebrew/bin/usbipd" :=
    { accepted_homebrew with
      group_nonempty := by decide
      group_safe := by decide }
  have hprincipals : principals (fragment twoWordSpec.group "/opt/homebrew/bin/usbipd"
      twoWordSpec.args) = [.unixGroup "staff", .user "wheel"] := by
    rw [principals, userWords_fragment haccepted]
    decide
  refine ⟨_, render_eq_ok.mpr ⟨_, haccepted, rfl⟩, hprincipals, ?_⟩
  rw [hprincipals]
  decide

end Usbip.Sudoers
