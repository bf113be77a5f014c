import Mathlib.Data.Finset.Dedup
import UsbipdDarwin.Cli.List
import UsbipdDarwin.Daemon.Step

/-! `--allow VID:PID`: what the flag accepts, and which devices a daemon started with the
flags that `usbipd list` suggests will export. -/

namespace Usbip.Cli
open Host Daemon Lts.Radix

inductive ParseIntError
  | empty
  | digits (e : DigitsError)
  deriving DecidableEq, Repr

def ParseIntError.toString : ParseIntError → String
  | .empty => "cannot parse integer from empty string"
  | .digits .invalidDigit => "invalid digit found in string"
  | .digits .overflow => "number too large to fit in target type"

def dropSign : List Char → List Char
  | '+' :: c :: cs => c :: cs
  | cs => cs

def u16FromHex (cs : List Char) : Except ParseIntError UInt16 :=
  if cs = [] then .error .empty
  else
    match readHex (2 ^ 16) (dropSign cs) with
    | .ok n => .ok (UInt16.ofNat n)
    | .error e => .error (.digits e)

def splitOnce (sep : Char) (cs : List Char) : Option (List Char × List Char) :=
  match cs.span (· != sep) with
  | (_, []) => none
  | (before, _ :: after) => some (before, after)

section Parse

-- how `{:?}` shows a string
variable (debug : String → String)

def badId (name : String) (cs : List Char) (e : ParseIntError) : String :=
  "bad " ++ name ++ " " ++ debug (String.ofList cs) ++ ": " ++ e.toString

def parseVidPid (s : String) : Except String (UInt16 × UInt16) := do
  let (v, p) ← (splitOnce ':' s.toList).elim (.error ("expected VID:PID, got " ++ debug s)) .ok
  let vid ← (u16FromHex v).mapError (badId debug "vid" v)
  let pid ← (u16FromHex p).mapError (badId debug "pid" p)
  .ok (vid, pid)

end Parse

def policyOf (allowAll : Bool) (allow : List (UInt16 × UInt16)) : AccessPolicy :=
  if allowAll then .allowAll
  else if allow.isEmpty then .denyAll
  else .allowList allow.toFinset

/-- One or more hexadecimal digits, after a plus sign or without it, that stand for `x`. -/
def Denotes (cs : List Char) (x : UInt16) : Prop :=
  ∃ digits, (cs = digits ∨ cs = '+' :: digits) ∧ digits ≠ [] ∧
    (∀ c ∈ digits, (hexVal c).isSome = true) ∧ hexNum digits = x.toNat

def Names (s : String) (vid pid : UInt16) : Prop :=
  ∃ v p, s.toList = v ++ ':' :: p ∧ Denotes v vid ∧ Denotes p pid

variable {debug : String → String} {cs : List Char} {x : UInt16}

theorem dropSign_plus {digits : List Char} (h : digits ≠ []) :
    dropSign ('+' :: digits) = digits := by
  obtain ⟨c, cs, rfl⟩ := List.exists_cons_of_ne_nil h
  rfl

theorem dropSign_cases (cs : List Char) :
    dropSign cs = cs ∨ ∃ digits, cs = '+' :: digits ∧ digits ≠ [] ∧ dropSign cs = digits := by
  unfold dropSign
  split
  · exact .inr ⟨_, rfl, List.cons_ne_nil _ _, rfl⟩
  · exact .inl rfl

theorem dropSign_digits {digits : List Char} (h : ∀ c ∈ digits, (hexVal c).isSome = true) :
    dropSign digits = digits := by
  rcases dropSign_cases digits with heq | ⟨rest, rfl, -, -⟩
  · exact heq
  · have hplus := h '+' List.mem_cons_self
    cases hplus

theorem u16FromHex_eq_ok : u16FromHex cs = .ok x ↔ Denotes cs x := by
  have hok (n : Nat) (hn : readHex (2 ^ 16) (dropSign cs) = .ok n) (hcs : cs ≠ []) :
      u16FromHex cs = .ok (UInt16.ofNat n) := by
    rw [u16FromHex, if_neg hcs, hn]
  constructor
  · intro h
    have hcs : cs ≠ [] := by
      rintro rfl
      cases h
    cases hread : readHex (2 ^ 16) (dropSign cs) with
    | error e =>
      rw [u16FromHex, if_neg hcs, hread] at h
      cases h
    | ok n =>
      obtain ⟨hdigits, hn, hlt⟩ := (readHex_eq_ok (by decide)).mp hread
      rw [hok n hread hcs] at h
      cases h
      have hnum : hexNum (dropSign cs) = (UInt16.ofNat n).toNat := by
        rw [← hn]
        exact (Nat.mod_eq_of_lt hlt).symm
      rcases dropSign_cases cs with heq | ⟨digits, rfl, hne, heq⟩
      · rw [heq] at hdigits hnum
        exact ⟨cs, .inl rfl, hcs, hdigits, hnum⟩
      · rw [heq] at hdigits hnum
        exact ⟨digits, .inr rfl, hne, hdigits, hnum⟩
  · rintro ⟨digits, hcs, hne, hdigits, hnum⟩
    have hdrop : dropSign cs = digits := by
      rcases hcs with rfl | rfl
      · exact dropSign_digits hdigits
      · exact dropSign_plus hne
    have hread : readHex (2 ^ 16) (dropSign cs) = .ok x.toNat := by
      rw [hdrop]
      exact (readHex_eq_ok (by decide)).mpr ⟨hdigits, hnum.symm, x.toNat_lt⟩
    have hcs' : cs ≠ [] := by
      rcases hcs with rfl | rfl
      · exact hne
      · exact List.cons_ne_nil _ _
    rw [hok _ hread hcs', UInt16.ofNat_toNat]

theorem splitOnce_eq_some {sep : Char} {a b : List Char} :
    splitOnce sep cs = some (a, b) ↔ cs = a ++ sep :: b ∧ sep ∉ a := by
  have hall {a : List Char} (h : sep ∉ a) : ∀ c ∈ a, (c != sep) = true := by
    intro c hc
    rw [bne_iff_ne]
    rintro rfl
    exact h hc
  unfold splitOnce
  rw [List.span_eq_takeWhile_dropWhile]
  constructor
  · intro h
    cases hdrop : cs.dropWhile (· != sep) with
    | nil => simp [hdrop] at h
    | cons c after =>
      rw [hdrop] at h
      obtain ⟨rfl, rfl⟩ := Prod.mk.inj (Option.some.inj h)
      have hc : c = sep := by
        have hhead := List.head?_dropWhile_not (· != sep) cs
        simpa [hdrop] using hhead
      refine ⟨?_, fun hmem => ?_⟩
      · have hjoin := List.takeWhile_append_dropWhile (p := (· != sep)) (l := cs)
        rw [hdrop, hc] at hjoin
        exact hjoin.symm
      · simpa using List.mem_takeWhile_imp hmem
  · rintro ⟨rfl, hmem⟩
    rw [List.takeWhile_append_of_pos (hall hmem), List.dropWhile_append_of_pos (hall hmem)]
    simp

theorem mapError_eq_ok {α ε ε' : Type} {r : Except ε α} {f : ε → ε'} {a : α} :
    r.mapError f = .ok a ↔ r = .ok a := by
  cases r with
  | ok b => simp [Except.mapError]
  | error e => simp [Except.mapError]

theorem colon_not_mem (h : Denotes cs x) : ':' ∉ cs := by
  obtain ⟨digits, hcs, -, hdigits, -⟩ := h
  have hmem : ':' ∉ digits := by
    intro hmem
    have hcolon := hdigits ':' hmem
    cases hcolon
  rcases hcs with rfl | rfl
  · exact hmem
  · rw [List.mem_cons, not_or]
    exact ⟨by decide, hmem⟩

theorem parseVidPid_eq_ok {s : String} {vid pid : UInt16} :
    parseVidPid debug s = .ok (vid, pid) ↔ Names s vid pid := by
  unfold parseVidPid
  constructor
  · intro h
    cases hsplit : splitOnce ':' s.toList with
    | none =>
      rw [hsplit] at h
      cases h
    | some vp =>
      obtain ⟨v, p⟩ := vp
      rw [hsplit] at h
      cases hv : (u16FromHex v).mapError (badId debug "vid" v) with
      | error e => simp [hv, bind, Except.bind] at h
      | ok vid' =>
        cases hp : (u16FromHex p).mapError (badId debug "pid" p) with
        | error e => simp [hv, hp, bind, Except.bind] at h
        | ok pid' =>
          simp only [hv, hp, bind, Except.bind, Option.elim] at h
          cases h
          refine ⟨v, p, (splitOnce_eq_some.mp hsplit).1, ?_, ?_⟩
          · exact u16FromHex_eq_ok.mp (mapError_eq_ok.mp hv)
          · exact u16FromHex_eq_ok.mp (mapError_eq_ok.mp hp)
  · rintro ⟨v, p, hs, hv, hp⟩
    have hsplit : splitOnce ':' s.toList = some (v, p) :=
      splitOnce_eq_some.mpr ⟨hs, colon_not_mem hv⟩
    have hvid := mapError_eq_ok (f := badId debug "vid" v).mpr (u16FromHex_eq_ok.mpr hv)
    have hpid := mapError_eq_ok (f := badId debug "pid" p).mpr (u16FromHex_eq_ok.mpr hp)
    rw [hsplit]
    simp only [Option.elim, bind, Except.bind, hvid, hpid]

theorem permits_policyOf (allow : List (UInt16 × UInt16)) (vid pid : UInt16) :
    (policyOf false allow).permits vid pid = true ↔ (vid, pid) ∈ allow := by
  cases allow with
  | nil => simp [policyOf, AccessPolicy.permits]
  | cons pair allow => simp [policyOf, AccessPolicy.permits]

section Flags

variable {flags : List String} {allow : List (UInt16 × UInt16)}

theorem mapM_parse_eq_ok : flags.mapM (parseVidPid debug) = .ok allow ↔
    List.Forall₂ (fun s pair => Names s pair.1 pair.2) flags allow := by
  induction flags generalizing allow with
  | nil =>
    rw [List.forall₂_nil_left_iff]
    constructor
    · intro h
      cases h
      rfl
    · rintro rfl
      rfl
  | cons s flags ih =>
    rw [List.mapM_cons, List.forall₂_cons_left_iff]
    constructor
    · intro h
      cases hs : parseVidPid debug s with
      | error e =>
        rw [hs] at h
        cases h
      | ok pair =>
        cases hrest : flags.mapM (parseVidPid debug) with
        | error e =>
          rw [hs, hrest] at h
          cases h
        | ok rest =>
          rw [hs, hrest] at h
          cases h
          exact ⟨pair, rest, parseVidPid_eq_ok.mp hs, ih.mp hrest, rfl⟩
    · rintro ⟨pair, rest, hs, hrest, rfl⟩
      rw [parseVidPid_eq_ok.mpr hs, ih.mpr hrest]
      rfl

theorem Names.unique {s : String} {vid pid : UInt16} {pair : UInt16 × UInt16}
    (h : Names s vid pid) (h' : Names s pair.1 pair.2) : (vid, pid) = pair := by
  have hparse : parseVidPid id s = .ok (vid, pid) := parseVidPid_eq_ok.mpr h
  have hparse' : parseVidPid id s = .ok pair := parseVidPid_eq_ok.mpr h'
  rw [hparse] at hparse'
  exact Except.ok.inj hparse'

theorem mem_allow_iff (h : List.Forall₂ (fun s pair => Names s pair.1 pair.2) flags allow)
    (vid pid : UInt16) : (vid, pid) ∈ allow ↔ ∃ s ∈ flags, Names s vid pid := by
  induction h with
  | nil => simp
  | @cons s pair flags allow hs _ ih =>
    have hhead : (vid, pid) = pair ↔ Names s vid pid := by
      constructor
      · rintro rfl
        exact hs
      · intro h
        exact h.unique hs
    rw [List.mem_cons, ih, hhead, List.exists_mem_cons_iff]

theorem exists_allow (h : ∀ s ∈ flags, ∃ vid pid, Names s vid pid) :
    ∃ allow : List (UInt16 × UInt16),
      List.Forall₂ (fun s pair => Names s pair.1 pair.2) flags allow := by
  induction flags with
  | nil => exact ⟨[], .nil⟩
  | cons s flags ih =>
    rw [List.forall_mem_cons] at h
    obtain ⟨vid, pid, hs⟩ := h.1
    obtain ⟨allow, hallow⟩ := ih h.2
    exact ⟨(vid, pid) :: allow, .cons hs hallow⟩

theorem names_of_mem (h : List.Forall₂ (fun s pair => Names s pair.1 pair.2) flags allow) :
    ∀ s ∈ flags, ∃ vid pid, Names s vid pid := by
  induction h with
  | nil =>
    intro s hs
    cases hs
  | @cons s pair flags allow hs _ ih => exact List.forall_mem_cons.mpr ⟨⟨_, _, hs⟩, ih⟩

end Flags

/-- Flags are accepted if each is two numbers of 16 bits in hexadecimal with a colon between
them, however many digits they have, and then the daemon exports the products they name
and no others. -/
theorem flags_permit_named (debug : String → String) (flags : List String) :
    ((∃ allow, flags.mapM (parseVidPid debug) = .ok allow) ↔
      ∀ s ∈ flags, ∃ vid pid, Names s vid pid) ∧
    ∀ allow, flags.mapM (parseVidPid debug) = .ok allow → ∀ vid pid,
      ((policyOf false allow).permits vid pid = true ↔ ∃ s ∈ flags, Names s vid pid) := by
  simp only [mapM_parse_eq_ok]
  refine ⟨⟨fun ⟨allow, h⟩ => names_of_mem h, exists_allow⟩, fun allow h vid pid => ?_⟩
  rw [permits_policyOf]
  exact mem_allow_iff h vid pid

theorem flags_permit_named_short :
    ["1050:407", "+781:55AF"].mapM (parseVidPid id) =
      .ok [(0x1050, 0x0407), (0x0781, 0x55AF)] ∧
    ∃ s ∈ ["1050:407", "+781:55AF"], Names s 0x0781 0x55AF := by
  have hparse : ["1050:407", "+781:55AF"].mapM (parseVidPid id) =
      .ok [(0x1050, 0x0407), (0x0781, 0x55AF)] := by
    rfl
  exact ⟨hparse, ((flags_permit_named id _).2 _ hparse 0x0781 0x55AF).mp (by decide)⟩

section Hints

theorem denotes_hex4 (x : UInt16) : Denotes (hex4 x).toList x := by
  rw [hex4, String.toList_ofList]
  exact ⟨_, .inl rfl, hexPad_ne_nil 4 _, isSome_hexVal_hexPad 4 _, hexNum_hexPad 4 _⟩

theorem parseVidPid_vidPid (d : HostDevice) :
    parseVidPid debug (vidPid d) = .ok (d.vendorId, d.productId) := by
  refine parseVidPid_eq_ok.mpr ⟨_, _, ?_, denotes_hex4 _, denotes_hex4 _⟩
  rw [vidPid, String.toList_append, String.toList_append, List.append_assoc]
  rfl

theorem mapM_parse_vidPid (chosen : List HostDevice) :
    (chosen.map vidPid).mapM (parseVidPid debug) =
      .ok (chosen.map fun d => (d.vendorId, d.productId)) := by
  induction chosen with
  | nil => rfl
  | cons d chosen ih =>
    rw [List.map_cons, List.mapM_cons, parseVidPid_vidPid, ih]
    rfl

end Hints

/-- The table has a line with the flag for each device. A daemon that is started with the
flags of some devices accepts them, and exports the devices of those products and no others. -/
theorem printed_flags_permit (debug : String → String) (c : Lts.Json.Codec)
    (devices chosen : List HostDevice) :
    (∀ d ∈ devices, IsLine ("     allow with: --allow " ++ vidPid d) (list c false devices)) ∧
    ∃ allow, (chosen.map vidPid).mapM (parseVidPid debug) = .ok allow ∧
      ∀ d : HostDevice, (policyOf false allow).permits d.vendorId d.productId = true ↔
        ∃ c ∈ chosen, c.vendorId = d.vendorId ∧ c.productId = d.productId := by
  refine ⟨fun d hd => isLine_hint hd, _, mapM_parse_vidPid chosen, fun d => ?_⟩
  rw [permits_policyOf, List.mem_map]
  simp only [Prod.mk.injEq]

end Usbip.Cli
