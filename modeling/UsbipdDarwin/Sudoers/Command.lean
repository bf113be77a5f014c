import UsbipdDarwin.Sudoers.Render

/-! The command of a sudoers rule: a reader of the rule finds the words that were given, and
nothing that could end a word, the line or the rule. -/

namespace Usbip.Sudoers
open Proto Lts.Escape

/-- The arguments of the daemon without the subcommand, if it was given. -/
def lessDaemon (daemonArgs : List String) : List String :=
  if daemonArgs.head? = some "daemon" then daemonArgs.tail else daemonArgs

theorem ownedArgs_eq (daemonArgs : List String) :
    ownedArgs daemonArgs = "daemon" :: lessDaemon daemonArgs := by
  cases daemonArgs with
  | nil => rfl
  | cons a args =>
    by_cases ha : a = "daemon"
    · simp [ownedArgs, lessDaemon, ha]
    · simp [ownedArgs, lessDaemon, ha]

def ruleHead (group : String) : List Char :=
  '%' :: group.toList ++ " ALL=(root:wheel) NOPASSWD:NOSETENV: ".toList

def whitespace : List Char :=
  ['\t', '\n', '\x0B', '\x0C', '\r', ' ', '\u0085', '\u00A0', '\u1680', '\u2000', '\u2001',
    '\u2002', '\u2003', '\u2004', '\u2005', '\u2006', '\u2007', '\u2008', '\u2009', '\u200A',
    '\u2028', '\u2029', '\u202F', '\u205F', '\u3000']

/-- `cmd` is the command of the only rule of the fragment, and spells exactly these words. -/
structure Spells (out group : String) (words : List String) (cmd : List Char) : Prop where
  lines : out.toList.splitOn '\n' =
    comments.map String.toList ++ [[], ruleHead group ++ cmd, []]
  comment : comments.length = 3 ∧ ∀ c ∈ comments, c.toList.head? = some '#'
  words : (cmd.splitOn ' ').map (unescape '\\') = words.map String.toList
  first : cmd.head? = some '/'
  escapes : ∀ i, cmd[i]? = some '\\' ↔ cmd[i + 1]? = some ':' ∨ cmd[i + 1]? = some '='
  blanks : ∀ c ∈ cmd, c ∈ whitespace → c = ' '
  plain : ∀ c ∈ cmd, c ∉ ",;!()#*?[]'\"`".toList
  tag : ¬ "NOSETENV: ".toList <:+: cmd

section Text

def plainText (binary : String) (args : List String) : List Char :=
  binary.toList ++ (args.map String.toList).flatMap (' ' :: ·)

def commandText (binary : String) (args : List String) : List Char :=
  escape '\\' needsEscape (plainText binary args)

variable {binary : String} {args : List String}

theorem commandText_eq (binary : String) (args : List String) :
    commandText binary args = escape '\\' needsEscape binary.toList ++
      ((args.map String.toList).map (escape '\\' needsEscape)).flatMap (' ' :: ·) := by
  rw [commandText, plainText, escape_append, escape_words rfl]

theorem commandText_words (binary : String) (args : List String) :
    commandText binary args = [' '].intercalate
      (((binary :: args).map String.toList).map (escape '\\' needsEscape)) := by
  rw [commandText_eq, List.map_cons, List.map_cons, intercalate_cons]

theorem toList_fragment (group binary : String) (args : List String) :
    (fragment group binary args).toList = ['\n'].intercalate
      (comments.map String.toList ++ [[], ruleHead group ++ commandText binary args, []]) := by
  rw [fragment, commandText_eq, intercalate_append, intercalate_cons]
  simp [String.toList_join, ruleHead, escapeSudoers, List.flatMap_map]

theorem mem_plainText (hbinary : Safe binary) (hargs : ∀ a ∈ args, Safe a) {c : Char}
    (hc : c ∈ plainText binary args) : c = ' ' ∨ isSafeChar c = true := by
  rw [plainText, List.mem_append, List.mem_flatMap] at hc
  obtain hc | ⟨w, hw, hc⟩ := hc
  · exact .inr (hbinary c hc)
  · obtain ⟨a, ha, rfl⟩ := List.mem_map.mp hw
    obtain rfl | hc := List.mem_cons.mp hc
    · exact .inl rfl
    · exact .inr (hargs a ha c hc)

theorem mem_commandText (hbinary : Safe binary) (hargs : ∀ a ∈ args, Safe a) {c : Char}
    (hc : c ∈ commandText binary args) : c = '\\' ∨ c = ' ' ∨ isSafeChar c = true :=
  (mem_escape hc).imp_right (mem_plainText hbinary hargs)

theorem needsEscape_iff {c : Char} (hsafe : c = ' ' ∨ isSafeChar c = true) :
    needsEscape c = true ↔ c = ':' ∨ c = '=' := by
  constructor
  · intro h
    simp only [needsEscape, Bool.or_eq_true, beq_iff_eq] at h
    rcases h with (((((rfl | rfl) | rfl) | rfl) | rfl) | rfl) | rfl
    all_goals revert hsafe; decide
  · rintro (rfl | rfl) <;> rfl

theorem blank_not_mem_escape {s : String} (hs : Safe s) :
    ' ' ∉ escape '\\' needsEscape s.toList := by
  intro hmem
  obtain h | h := mem_escape hmem
  · cases h
  · exact absurd (hs _ h) (by decide)

theorem splitOn_commandText (hbinary : Safe binary) (hargs : ∀ a ∈ args, Safe a) :
    ((commandText binary args).splitOn ' ').map (unescape '\\') =
      (binary :: args).map String.toList := by
  rw [commandText_words, List.splitOn_intercalate, List.map_map]
  · exact List.map_congr_left (fun l _ => unescape_escape rfl l) |>.trans (List.map_id _)
  · intro l hl
    rw [List.map_map, List.mem_map] at hl
    obtain ⟨s, hs, rfl⟩ := hl
    obtain rfl | hs := List.mem_cons.mp hs
    · exact blank_not_mem_escape hbinary
    · exact blank_not_mem_escape (hargs s hs)
  · exact List.cons_ne_nil _ _

theorem commandText_escapes (hbinary : Safe binary) (hargs : ∀ a ∈ args, Safe a) (i : Nat) :
    (commandText binary args)[i]? = some '\\' ↔
      (commandText binary args)[i + 1]? = some ':' ∨
        (commandText binary args)[i + 1]? = some '=' := by
  have hplain : '\\' ∉ plainText binary args := by
    intro hmem
    exact absurd (mem_plainText hbinary hargs hmem) (by decide)
  rw [commandText, escape_marks hplain, ← commandText]
  constructor
  · rintro ⟨c, hget, hne, hspecial⟩
    have hc := (mem_commandText hbinary hargs (List.mem_of_getElem? hget)).resolve_left hne
    obtain rfl | rfl := (needsEscape_iff hc).mp hspecial
    · exact .inl hget
    · exact .inr hget
  · rintro (hget | hget)
    · exact ⟨':', hget, by decide, rfl⟩
    · exact ⟨'=', hget, by decide, rfl⟩

theorem tag_not_infix (hbinary : Safe binary) (hargs : ∀ a ∈ args, Safe a) :
    ¬ "NOSETENV: ".toList <:+: commandText binary args := by
  rintro ⟨s, t, h⟩
  have hget : ∀ k < 10, (commandText binary args)[s.length + k]? = "NOSETENV: ".toList[k]? := by
    intro k hk
    rw [← h, List.append_assoc, List.getElem?_append_right (Nat.le_add_right ..),
      Nat.add_sub_cancel_left, List.getElem?_append_left (by simpa using hk)]
  have hcolon := hget 8 (by decide)
  have hmark := (commandText_escapes hbinary hargs (s.length + 7)).mpr (.inl hcolon)
  rw [hget 7 (by decide)] at hmark
  exact absurd hmark (by decide)

end Text

theorem head_of_absolute {path : Bytes} {s : String} (habs : isAbsolute path = true)
    (hs : utf8 s = path) : s.toList.head? = some '/' := by
  rw [isAbsolute, beq_iff_eq, ← hs, utf8_eq] at habs
  cases hchars : s.toList with
  | nil =>
    rw [hchars] at habs
    cases habs
  | cons c cs =>
    obtain ⟨b₀, tail, henc, hhead⟩ := decodeHead_encode c []
    rw [hchars, List.flatMap_cons, henc, List.cons_append, List.head?_cons,
      Option.some.injEq] at habs
    rw [habs, decodeHead_one (a := 47) rfl (by omega)] at hhead
    rw [List.head?_cons, ← (Prod.mk.inj hhead).1]

theorem not_safe_of_mem_whitespace {c : Char} (hc : c ∈ whitespace) (hne : c ≠ ' ') :
    isSafeChar c = false := by
  have hall : (whitespace.all fun c => c == ' ' || !isSafeChar c) = true := by decide
  simpa [hne] using List.all_eq_true.mp hall c hc

theorem comments_are_lines :
    ∀ c ∈ comments, c.toList.head? = some '#' ∧ '\n' ∉ c.toList := by
  decide +kernel

namespace Accepted

variable {spec : Spec} {binary : String}

theorem arg_safe (h : Accepted spec binary) : ∀ a ∈ spec.args, Safe a :=
  fun a ha => (h.args_safe a ha).2

theorem mem_command (h : Accepted spec binary) {c : Char}
    (hc : c ∈ commandText binary spec.args) : c = '\\' ∨ c = ' ' ∨ isSafeChar c = true :=
  mem_commandText h.binary_safe h.arg_safe hc

theorem newline_not_mem_rule (h : Accepted spec binary) :
    '\n' ∉ ruleHead spec.group ++ commandText binary spec.args := by
  rw [ruleHead, List.mem_append, List.mem_append, List.mem_cons]
  rintro (((hc | hc) | hc) | hc)
  · cases hc
  · exact absurd (h.group_safe _ hc) (by decide)
  · exact absurd hc (by decide)
  · exact absurd (h.mem_command hc) (by decide)

theorem spells (h : Accepted spec binary) :
    Spells (fragment spec.group binary spec.args) spec.group (binary :: spec.args)
      (commandText binary spec.args) where
  lines := by
    rw [toList_fragment, List.splitOn_intercalate]
    · intro l hl
      rw [List.mem_append, List.mem_cons, List.mem_cons, List.mem_singleton] at hl
      rcases hl with hl | rfl | rfl | rfl
      · obtain ⟨c, hc, rfl⟩ := List.mem_map.mp hl
        exact (comments_are_lines c hc).2
      · exact List.not_mem_nil
      · exact h.newline_not_mem_rule
      · exact List.not_mem_nil
    · simp
  comment := ⟨rfl, fun c hc => (comments_are_lines c hc).1⟩
  words := splitOn_commandText h.binary_safe h.arg_safe
  first := by
    have hhead := head_of_absolute h.absolute (utf8_of_toStr h.path)
    cases hchars : binary.toList with
    | nil =>
      rw [hchars] at hhead
      cases hhead
    | cons c cs =>
      rw [hchars, List.head?_cons, Option.some.injEq] at hhead
      rw [commandText_eq, hchars, hhead]
      rfl
  escapes := commandText_escapes h.binary_safe h.arg_safe
  blanks := by
    intro c hc hblank
    by_contra hne
    have hbad := not_safe_of_mem_whitespace hblank hne
    obtain rfl | hc := (h.mem_command hc).imp_right (Or.resolve_left · hne)
    · exact absurd hblank (by decide)
    · rw [hbad] at hc
      cases hc
  plain := by
    intro c hc hmem
    have hall : (",;!()#*?[]'\"`".toList.all fun c => !(c == '\\' || c == ' ' || isSafeChar c)) =
        true := by decide
    have hbad := List.all_eq_true.mp hall c hmem
    obtain rfl | rfl | hsafe := h.mem_command hc
    · cases hbad
    · cases hbad
    · simp [hsafe] at hbad
  tag := tag_not_infix h.binary_safe h.arg_safe

end Accepted

theorem Spells.unique {out group : String} {ws vs : List String} {cmd cmd' : List Char}
    (h : Spells out group ws cmd) (h' : Spells out group vs cmd') : ws = vs := by
  have hlines := h.lines.symm.trans h'.lines
  have hcmd : cmd = cmd' := by
    simpa using hlines
  have hwords := h.words.symm.trans (hcmd ▸ h'.words)
  exact List.map_injective_iff.mpr (fun _ _ => String.toList_injective) hwords

/-- The command line that an accepted input whitelists, word for word. -/
theorem sudoers_command_exact (debug : Debug) (process : Process) (group : String)
    (binary : Option Bytes) (daemonArgs : List String) (out : String)
    (h : emitSudoers debug process group binary daemonArgs = .ok out) :
    (∃ path cmd, utf8 path = binary.getD (selfPath process) ∧
      Spells out group (path :: "daemon" :: lessDaemon daemonArgs) cmd) ∧
    ∀ debug' process' binary' daemonArgs',
      emitSudoers debug' process' group binary' daemonArgs' = .ok out →
        binary'.getD (selfPath process') = binary.getD (selfPath process) ∧
          lessDaemon daemonArgs' = lessDaemon daemonArgs := by
  have hspells : ∀ debug process binary daemonArgs,
      emitSudoers debug process group binary daemonArgs = .ok out →
        ∃ path cmd, utf8 path = binary.getD (selfPath process) ∧
          Spells out group (path :: "daemon" :: lessDaemon daemonArgs) cmd := by
    intro debug process binary daemonArgs h
    obtain ⟨path, haccepted, rfl⟩ := render_eq_ok.mp (emitSudoers_eq_ok.mp h)
    have hrule := haccepted.spells
    simp only [ownedArgs_eq] at hrule ⊢
    exact ⟨path, _, utf8_of_toStr haccepted.path, hrule⟩
  refine ⟨hspells debug process binary daemonArgs h, ?_⟩
  intro debug' process' binary' daemonArgs' h'
  obtain ⟨path, cmd, hpath, hcmd⟩ := hspells debug process binary daemonArgs h
  obtain ⟨path', cmd', hpath', hcmd'⟩ := hspells debug' process' binary' daemonArgs' h'
  have hwords := hcmd'.unique hcmd
  rw [List.cons.injEq, List.cons.injEq] at hwords
  exact ⟨by rw [← hpath', ← hpath, hwords.1], hwords.2.2⟩

def homebrewSpec : Spec :=
  ⟨"admin", utf8 "/opt/homebrew/bin/usbipd",
    ["daemon", "--listen", "127.0.0.1:3240", "--allow", "0781:5530"]⟩

theorem accepted_homebrew : Accepted homebrewSpec "/opt/homebrew/bin/usbipd" where
  group_nonempty := by decide
  group_safe := by decide
  absolute := by decide
  path := by decide
  binary_safe := by decide
  args_nonempty := by decide
  args_safe := by decide

def bareProcess : Process := ⟨none, fun _ => none, none⟩

def bareDebug : Debug := ⟨id, Char.toString, fun _ => ""⟩

theorem sudoers_command_exact_homebrew :
    ∃ out, emitSudoers bareDebug bareProcess "admin" (some homebrewSpec.binary) homebrewSpec.args =
        .ok out ∧
      ∃ path cmd, utf8 path = homebrewSpec.binary ∧
        Spells out "admin" [path, "daemon", "--listen", "127.0.0.1:3240", "--allow", "0781:5530"]
          cmd := by
  have hrender : emitSudoers bareDebug bareProcess "admin" (some homebrewSpec.binary)
      homebrewSpec.args = .ok (fragment "admin" "/opt/homebrew/bin/usbipd" homebrewSpec.args) :=
    emitSudoers_eq_ok.mpr (render_eq_ok.mpr ⟨_, accepted_homebrew, rfl⟩)
  exact ⟨_, hrender, (sudoers_command_exact _ _ _ _ _ _ hrender).1⟩

end Usbip.Sudoers
