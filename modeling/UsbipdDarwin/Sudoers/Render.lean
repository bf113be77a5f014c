import UsbipdDarwin.Lts.Escape
import UsbipdDarwin.Proto.Utf8

/-! `usbipd sudoers`: a sudoers fragment that lets the members of a group run one daemon
command line as root without a password. -/

namespace Usbip.Sudoers
open Proto Lts.Escape

structure Spec where
  group : String
  /-- The bytes of the path, which need not be UTF-8. -/
  binary : Bytes
  args : List String

inductive RenderError
  | emptyGroup
  | groupChar (group : String) (c : Char)
  | relativeBinary (binary : Bytes)
  | binaryNotUtf8 (binary : Bytes)
  | binaryChar (binary : String) (c : Char)
  | noArgs
  | emptyArg
  | argChar (arg : String) (c : Char)
  deriving DecidableEq

structure Debug where
  str : String → String
  char : Char → String
  path : Bytes → String

def RenderError.message (debug : Debug) : RenderError → String
  | .emptyGroup => "group must not be empty"
  | .groupChar group c =>
    "group " ++ debug.str group ++ " contains invalid character " ++ debug.char c
  | .relativeBinary binary =>
    "binary path " ++ debug.path binary ++ " must be absolute (sudoers ignores PATH lookup)"
  | .binaryNotUtf8 binary => "binary path " ++ debug.path binary ++ " is not valid UTF-8"
  | .binaryChar binary c =>
    "binary path " ++ debug.str binary ++ " contains character " ++ debug.char c ++
      " that cannot appear in a sudoers Cmnd"
  | .noArgs => "args must not be empty (need at least a subcommand)"
  | .emptyArg => "empty argument is not representable in sudoers"
  | .argChar arg c =>
    "argument " ++ debug.str arg ++ " contains character " ++ debug.char c ++
      " that cannot appear in a sudoers Cmnd"

def isSafeChar (c : Char) : Bool :=
  c.isAlphanum || c == '.' || c == '/' || c == ':' || c == '=' || c == '-' || c == '_' ||
    c == '+' || c == '@' || c == '%'

def invalidChars (s : String) : Option Char := s.toList.find? fun c => !isSafeChar c

def needsEscape (c : Char) : Bool :=
  c == ':' || c == ',' || c == '=' || c == '!' || c == '(' || c == ')' || c == '\\'

def escapeSudoers (s : String) : String := String.ofList (escape '\\' needsEscape s.toList)

def isAbsolute (path : Bytes) : Bool := path.head? == some 0x2F

def toStr (path : Bytes) : Option String := String.fromUTF8? ⟨path.toArray⟩

def reject {ε : Type} (bad : Bool) (e : ε) : Except ε Unit := if bad then .error e else .ok ()

def rejectSome {ε α : Type} (bad : Option α) (e : α → ε) : Except ε Unit :=
  bad.elim (.ok ()) fun a => .error (e a)

def orReject {ε α : Type} (value : Option α) (e : ε) : Except ε α := value.elim (.error e) .ok

def checkArgs : List String → Except RenderError Unit
  | [] => .ok ()
  | a :: args => do
    reject a.isEmpty .emptyArg
    rejectSome (invalidChars a) (.argChar a)
    checkArgs args

def comments : List String :=
  ["# Generated by `usbipd sudoers` — do not edit by hand.",
    "# Install with:  usbipd sudoers ... | sudo tee /etc/sudoers.d/usbipd",
    "# Re-run whenever the binary path or daemon arguments change."]

def fragment (group binary : String) (args : List String) : String :=
  String.join (comments.map (· ++ "\n")) ++ "\n" ++
    "%" ++ group ++ " ALL=(root:wheel) NOPASSWD:NOSETENV: " ++ escapeSudoers binary ++
    String.join (args.map fun a => " " ++ escapeSudoers a) ++ "\n"

def render (spec : Spec) : Except RenderError String := do
  reject spec.group.isEmpty .emptyGroup
  rejectSome (invalidChars spec.group) (.groupChar spec.group)
  reject (!isAbsolute spec.binary) (.relativeBinary spec.binary)
  let binary ← orReject (toStr spec.binary) (.binaryNotUtf8 spec.binary)
  rejectSome (invalidChars binary) (.binaryChar binary)
  reject spec.args.isEmpty .noArgs
  checkArgs spec.args
  .ok (fragment spec.group binary spec.args)

structure Process where
  currentExe : Option Bytes
  canonicalize : Bytes → Option Bytes
  argv0 : Option Bytes

def selfPath (process : Process) : Bytes :=
  (process.currentExe.bind process.canonicalize).getD (process.argv0.getD (utf8 "usbipd"))

def ownedArgs (daemonArgs : List String) : List String :=
  if daemonArgs.isEmpty then ["daemon"]
  else if daemonArgs.head? != some "daemon" then "daemon" :: daemonArgs
  else daemonArgs

/-- `emit_sudoers`: the text that is printed, or the error that is reported. -/
def emitSudoers (debug : Debug) (process : Process) (group : String) (binary : Option Bytes)
    (daemonArgs : List String) : Except String String :=
  (render ⟨group, binary.getD (selfPath process), ownedArgs daemonArgs⟩).mapError
    fun e => "render sudoers fragment: " ++ e.message debug

section Checks

variable {ε α β : Type} {e : ε}

theorem bind_eq_ok {x : Except ε α} {f : α → Except ε β} {b : β} :
    (x >>= f) = .ok b ↔ ∃ a, x = .ok a ∧ f a = .ok b := by
  cases x with
  | error e => simp [bind, Except.bind]
  | ok a => simp [bind, Except.bind]

theorem reject_eq_ok {bad : Bool} {u : Unit} : reject bad e = .ok u ↔ bad = false := by
  cases bad with
  | false => simp [reject]
  | true => simp [reject]

theorem rejectSome_eq_ok {bad : Option α} {e : α → ε} {u : Unit} :
    rejectSome bad e = .ok u ↔ bad = none := by
  cases bad with
  | none => simp [rejectSome]
  | some a => simp [rejectSome]

theorem orReject_eq_ok {value : Option α} {a : α} : orReject value e = .ok a ↔ value = some a := by
  cases value with
  | none => simp [orReject]
  | some b => simp [orReject]

end Checks

def Safe (s : String) : Prop := ∀ c ∈ s.toList, isSafeChar c = true

instance (s : String) : Decidable (Safe s) := List.decidableBAll _ s.toList

theorem invalidChars_eq_none {s : String} : invalidChars s = none ↔ Safe s := by
  simp [invalidChars, Safe, List.find?_eq_none]

theorem checkArgs_eq_ok {args : List String} {u : Unit} :
    checkArgs args = .ok u ↔ ∀ a ∈ args, a.isEmpty = false ∧ Safe a := by
  induction args with
  | nil => simp [checkArgs]
  | cons a args ih =>
    simp only [checkArgs, bind_eq_ok, reject_eq_ok, rejectSome_eq_ok, invalidChars_eq_none, ih,
      exists_const, List.forall_mem_cons, and_assoc]

structure Accepted (spec : Spec) (binary : String) : Prop where
  group_nonempty : spec.group.isEmpty = false
  group_safe : Safe spec.group
  absolute : isAbsolute spec.binary = true
  path : toStr spec.binary = some binary
  binary_safe : Safe binary
  args_nonempty : spec.args.isEmpty = false
  args_safe : ∀ a ∈ spec.args, a.isEmpty = false ∧ Safe a

theorem render_eq_ok {spec : Spec} {out : String} :
    render spec = .ok out ↔
      ∃ binary, Accepted spec binary ∧ fragment spec.group binary spec.args = out := by
  simp only [render, bind_eq_ok, reject_eq_ok, rejectSome_eq_ok, orReject_eq_ok,
    invalidChars_eq_none, checkArgs_eq_ok, exists_const, Except.ok.injEq, Bool.not_eq_false']
  constructor
  · rintro ⟨hgroup, hsafe, habs, binary, hpath, hbinary, hargs, hall, hout⟩
    exact ⟨binary, ⟨hgroup, hsafe, habs, hpath, hbinary, hargs, hall⟩, hout⟩
  · rintro ⟨binary, h, hout⟩
    exact ⟨h.group_nonempty, h.group_safe, h.absolute, binary, h.path, h.binary_safe,
      h.args_nonempty, h.args_safe, hout⟩

theorem utf8_of_toStr {path : Bytes} {s : String} (h : toStr path = some s) : utf8 s = path := by
  rw [toStr, String.fromUTF8?] at h
  split_ifs at h with hvalid
  rw [← Option.some.inj h]
  rfl

theorem emitSudoers_eq_ok {debug : Debug} {process : Process} {group out : String}
    {binary : Option Bytes} {daemonArgs : List String} :
    emitSudoers debug process group binary daemonArgs = .ok out ↔
      render ⟨group, binary.getD (selfPath process), ownedArgs daemonArgs⟩ = .ok out := by
  rw [emitSudoers]
  cases render ⟨group, binary.getD (selfPath process), ownedArgs daemonArgs⟩ with
  | error e => simp [Except.mapError]
  | ok text => simp [Except.mapError]

end Usbip.Sudoers
