import UsbipdDarwin.Lts.Maps
import UsbipdDarwin.Lts.Reachable
import UsbipdDarwin.Lts.Threads

/-! Where `usbipd daemon` and `usbipd events` listen. Any number of instances share the
file system with each other and with other programs; each looks at its path, removes,
binds and removes again in calls of their own, so anything can happen in between. -/

namespace Usbip.Cli
open Lts

inductive IpAddr
  | v4 (a b c d : UInt8)
  | v6 (bits : BitVec 128)
  deriving DecidableEq, Repr

def IpAddr.isLoopback : IpAddr → Bool
  | .v4 a _ _ _ => a == 127
  | .v6 bits => bits == 1

structure SocketAddr where
  ip : IpAddr
  port : UInt16
  deriving DecidableEq, Repr

def isLoopback (addr : SocketAddr) : Bool := addr.ip.isLoopback

inductive Endpoint
  | tcp (addr : SocketAddr)
  | unix (path : String)
  deriving DecidableEq, Repr

inductive Command
  | daemon (endpoint : Endpoint) (allowPublicBind : Bool)
  | events (socket : String)
  deriving DecidableEq, Repr

def endpointOf (listen : SocketAddr) : Option String → Endpoint
  | some path => .unix path
  | none => .tcp listen

namespace Command

def endpoint : Command → Endpoint
  | .daemon endpoint _ => endpoint
  | .events socket => .unix socket

def allowPublicBind : Command → Bool
  | .daemon _ allow => allow
  | .events _ => false

end Command

/-- A directory entry. `maker` is the instance that bound the socket, if one of this run
did; what else may stand there is told apart by `id`. -/
inductive Entry
  | socket (maker : Option Nat) (mode : Nat)
  | other (id : Nat) (mode : Nat)
  deriving DecidableEq, Repr

namespace Entry

def chmod (mode : Nat) : Entry → Entry
  | .socket maker _ => .socket maker mode
  | .other id _ => .other id mode

def foreign : Entry → Bool
  | .socket (some _) _ => false
  | _ => true

end Entry

abbrev FileSystem := AList fun _ : String => Entry

inductive ListenError
  | publicBind (addr : SocketAddr)
  | notSocket (path : String)
  | bind (endpoint : Endpoint)
  | watchDevices
  | listDevices
  deriving DecidableEq, Repr

/-- Where an instance is. `removing` has found a socket of an earlier run, `bound` has
bound its own and is to set its mode; `watching` and `listing` are what `usbipd events`
does before it accepts. -/
inductive ListenPc
  | start
  | removing
  | binding
  | bound
  | watching
  | listing
  | listening
  | closing
  | stopped
  | failed (e : ListenError)
  | killed
  deriving DecidableEq, Repr

namespace ListenPc

def owes : ListenPc → Bool
  | .removing | .bound | .watching | .listing | .listening | .closing => true
  | _ => false

def ended : ListenPc → Bool
  | .stopped | .failed _ | .killed => true
  | _ => false

end ListenPc

/-- `chmod` and `removed` are how the two calls with a result that does not stop the
instance went. -/
structure Instance where
  command : Command
  pc : ListenPc := .start
  chmod : Option Bool := none
  removed : Option Bool := none
  deriving DecidableEq, Repr

inductive ListenAction
  | check (seen : Bool)
  | remove (ok : Bool)
  | bind (ok : Bool) (mode : Nat)
  | chmod (ok : Bool)
  | watch (ok : Bool)
  | list (ok : Bool)
  | shutdown
  | kill
  deriving DecidableEq, Repr

namespace Instance

def endpoint (inst : Instance) : Endpoint := inst.command.endpoint

def afterBind (inst : Instance) : ListenPc :=
  match inst.command with
  | .daemon .. => .listening
  | .events _ => .watching

def owes (inst : Instance) (path : String) : Bool :=
  inst.pc.owes && inst.endpoint == .unix path

/-- `serve` and its accept loops, or `run_async` with `bind_listener`, as far as they
concern the endpoint. A path whose metadata cannot be read counts as free. -/
def step (fs : FileSystem) (i : Nat) (inst : Instance) :
    ListenAction → Option (FileSystem × Instance)
  | .check seen =>
    match inst.pc, inst.endpoint with
    | .start, .tcp addr =>
      if !isLoopback addr && !inst.command.allowPublicBind then
        some (fs, { inst with pc := .failed (.publicBind addr) })
      else some (fs, { inst with pc := .binding })
    | .start, .unix path =>
      match if seen then fs.lookup path else none with
      | none => some (fs, { inst with pc := .binding })
      | some (.socket ..) => some (fs, { inst with pc := .removing })
      | some (.other ..) => some (fs, { inst with pc := .failed (.notSocket path) })
    | _, _ => none
  | .remove ok =>
    match inst.pc, inst.endpoint with
    | .removing, .unix path =>
      some (if ok then fs.erase path else fs, { inst with pc := .binding })
    | .closing, .unix path =>
      some (if ok then fs.erase path else fs, { inst with pc := .stopped, removed := some ok })
    | _, _ => none
  | .bind ok mode =>
    match inst.pc, inst.endpoint with
    | .binding, .tcp addr =>
      some (fs, { inst with pc := if ok then .listening else .failed (.bind (.tcp addr)) })
    | .binding, .unix path =>
      -- `bind` creates the entry itself and takes no path that is there
      if ok = true ∧ fs.lookup path = none then
        some (fs.insert path (.socket (some i) mode), { inst with pc := .bound })
      else some (fs, { inst with pc := .failed (.bind (.unix path)) })
    | _, _ => none
  | .chmod ok =>
    match inst.pc, inst.endpoint with
    | .bound, .unix path =>
      match if ok then fs.lookup path else none with
      | some entry => some (fs.insert path (entry.chmod 0o600),
          { inst with pc := inst.afterBind, chmod := some true })
      | none => some (fs, { inst with pc := inst.afterBind, chmod := some false })
    | _, _ => none
  | .watch ok =>
    match inst.pc with
    | .watching => some (fs, { inst with pc := if ok then .listing else .failed .watchDevices })
    | _ => none
  | .list ok =>
    match inst.pc with
    | .listing => some (fs, { inst with pc := if ok then .listening else .failed .listDevices })
    | _ => none
  | .shutdown =>
    match inst.pc, inst.endpoint with
    | .listening, .tcp _ => some (fs, { inst with pc := .stopped })
    | .listening, .unix _ => some (fs, { inst with pc := .closing })
    | _, _ => none
  | .kill => if inst.pc.ended then none else some (fs, { inst with pc := .killed })

end Instance

structure World where
  fs : FileSystem
  instances : List Instance

inductive Action
  | start (command : Command)
  | own (i : Nat) (a : ListenAction)
  | create (path : String) (entry : Entry)
  | delete (path : String)
  deriving DecidableEq, Repr

def step (s : World) : Action → Option World
  | .start command => some { s with instances := s.instances ++ [{ command := command }] }
  | .own i a =>
    s.instances[i]?.bind fun inst =>
      (inst.step s.fs i a).map fun (fs, inst') => ⟨fs, s.instances.set i inst'⟩
  | .create path entry =>
    if s.fs.lookup path = none ∧ entry.foreign = true then
      some { s with fs := s.fs.insert path entry }
    else none
  | .delete path => some { s with fs := s.fs.erase path }

/-- The run begins with any files, none of them made by an instance of the run. -/
def world : System World Action where
  init s := s.instances = [] ∧ ∀ path entry, s.fs.lookup path = some entry → entry.foreign = true
  step := step

section Rules

variable {fs fs' : FileSystem} {i : Nat} {inst inst' : Instance}

inductive Instance.Rule (fs : FileSystem) (i : Nat) (inst : Instance) :
    FileSystem → Instance → Prop
  | refuse {addr : SocketAddr} (hpc : inst.pc = .start) :
      Rule fs i inst fs { inst with pc := .failed (.publicBind addr) }
  | accept {addr : SocketAddr} (hpc : inst.pc = .start) (hep : inst.endpoint = .tcp addr)
      (hok : isLoopback addr = true ∨ inst.command.allowPublicBind = true) :
      Rule fs i inst fs { inst with pc := .binding }
  | free {path : String} (hpc : inst.pc = .start) (hep : inst.endpoint = .unix path) :
      Rule fs i inst fs { inst with pc := .binding }
  | found {path : String} (hpc : inst.pc = .start) (hep : inst.endpoint = .unix path)
      (hl : ∃ maker mode, fs.lookup path = some (.socket maker mode)) :
      Rule fs i inst fs { inst with pc := .removing }
  | blocked {path : String} (hpc : inst.pc = .start) :
      Rule fs i inst fs { inst with pc := .failed (.notSocket path) }
  | clear {path : String} (ok : Bool) (hpc : inst.pc = .removing)
      (hep : inst.endpoint = .unix path) :
      Rule fs i inst (if ok then fs.erase path else fs) { inst with pc := .binding }
  | close {path : String} (ok : Bool) (hpc : inst.pc = .closing)
      (hep : inst.endpoint = .unix path) :
      Rule fs i inst (if ok then fs.erase path else fs)
        { inst with pc := .stopped, removed := some ok }
  | bindTcp {addr : SocketAddr} (hpc : inst.pc = .binding) (hep : inst.endpoint = .tcp addr) :
      Rule fs i inst fs { inst with pc := .listening }
  | bind {path : String} (mode : Nat) (hpc : inst.pc = .binding)
      (hep : inst.endpoint = .unix path) (hl : fs.lookup path = none) :
      Rule fs i inst (fs.insert path (.socket (some i) mode)) { inst with pc := .bound }
  | bindFailed (hpc : inst.pc = .binding) :
      Rule fs i inst fs { inst with pc := .failed (.bind inst.endpoint) }
  | chmod {path : String} {entry : Entry} (hpc : inst.pc = .bound)
      (hep : inst.endpoint = .unix path) (hl : fs.lookup path = some entry) :
      Rule fs i inst (fs.insert path (entry.chmod 0o600))
        { inst with pc := inst.afterBind, chmod := some true }
  | chmodFailed (hpc : inst.pc = .bound) :
      Rule fs i inst fs { inst with pc := inst.afterBind, chmod := some false }
  | watched (hpc : inst.pc = .watching) : Rule fs i inst fs { inst with pc := .listing }
  | listed (hpc : inst.pc = .listing) : Rule fs i inst fs { inst with pc := .listening }
  | giveUp (e : ListenError) (hpc : inst.pc = .watching ∨ inst.pc = .listing) :
      Rule fs i inst fs { inst with pc := .failed e }
  | stopTcp {addr : SocketAddr} (hpc : inst.pc = .listening) (hep : inst.endpoint = .tcp addr) :
      Rule fs i inst fs { inst with pc := .stopped }
  | stop (hpc : inst.pc = .listening) : Rule fs i inst fs { inst with pc := .closing }
  | kill (hpc : inst.pc.ended = false) : Rule fs i inst fs { inst with pc := .killed }

theorem Instance.step_rule {a : ListenAction} (h : inst.step fs i a = some (fs', inst')) :
    inst.Rule fs i fs' inst' := by
  cases a with
  | check seen =>
    simp only [Instance.step] at h
    split at h
    · split_ifs at h with hpublic <;> cases h
      · exact .refuse ‹_›
      · refine .accept ‹_› ‹_› ?_
        simp only [Bool.and_eq_true, Bool.not_eq_true', not_and, Bool.not_eq_false] at hpublic
        rw [← Bool.not_eq_false, or_iff_not_imp_left, not_not]
        exact hpublic
    · split at h <;> cases h
      · exact .free ‹_› ‹_›
      · rename_i maker mode hl
        refine .found ‹_› ‹_› ⟨maker, mode, ?_⟩
        split_ifs at hl
        exact hl
      · exact .blocked ‹_›
    · cases h
  | remove ok =>
    simp only [Instance.step] at h
    split at h <;> cases h
    · exact .clear ok ‹_› ‹_›
    · exact .close ok ‹_› ‹_›
  | bind ok mode =>
    simp only [Instance.step] at h
    split at h
    · rename_i hpc hep
      cases ok <;> cases h
      · rw [if_neg Bool.false_ne_true, ← hep]
        exact .bindFailed hpc
      · exact .bindTcp hpc hep
    · rename_i hpc hep
      split_ifs at h with hl <;> cases h
      · exact .bind mode hpc hep hl.2
      · rw [← hep]
        exact .bindFailed hpc
    · cases h
  | chmod ok =>
    simp only [Instance.step] at h
    split at h
    · split at h <;> cases h
      · rename_i hl
        refine .chmod ‹_› ‹_› ?_
        split_ifs at hl
        exact hl
      · exact .chmodFailed ‹_›
    · cases h
  | watch ok =>
    simp only [Instance.step] at h
    split at h
    · rename_i hpc
      cases ok <;> cases h
      · exact .giveUp _ (.inl hpc)
      · exact .watched hpc
    · cases h
  | list ok =>
    simp only [Instance.step] at h
    split at h
    · rename_i hpc
      cases ok <;> cases h
      · exact .giveUp _ (.inr hpc)
      · exact .listed hpc
    · cases h
  | shutdown =>
    simp only [Instance.step] at h
    split at h <;> cases h
    · exact .stopTcp ‹_› ‹_›
    · exact .stop ‹_›
  | kill =>
    simp only [Instance.step] at h
    split_ifs at h with hended
    cases h
    exact .kill (Bool.eq_false_iff.mpr hended)

end Rules

section Kept

variable {fs fs' : FileSystem} {i : Nat} {inst inst' : Instance} {s s' : World} {path : String}

def Instance.Spares (fs : FileSystem) (inst : Instance) : Prop :=
  ∀ path, inst.owes path = true → ∀ id mode, fs.lookup path ≠ some (.other id mode)

theorem Instance.owes_iff : inst.owes path = true ↔
    inst.pc.owes = true ∧ inst.endpoint = .unix path := by
  rw [Instance.owes, Bool.and_eq_true, beq_iff_eq]

theorem Instance.Rule.keeps (hr : inst.Rule fs i fs' inst') (hs : inst.Spares fs) {id mode : Nat}
    (hp : fs.lookup path = some (.other id mode)) :
    fs'.lookup path = some (.other id mode) := by
  have hne : ∀ {q : String}, inst.pc.owes = true → inst.endpoint = .unix q → path ≠ q := by
    rintro q howes hep rfl
    exact hs path (Instance.owes_iff.mpr ⟨howes, hep⟩) id mode hp
  cases hr with
  | clear ok hpc hep | close ok hpc hep =>
    cases ok with
    | false => exact hp
    | true =>
      rw [if_pos rfl, AList.lookup_erase_ne (hne (by rw [hpc]; rfl) hep)]
      exact hp
  | @bind q mode hpc hep hl =>
    have hpath : path ≠ q := by
      rintro rfl
      rw [hl] at hp
      cases hp
    rw [AList.lookup_insert_ne hpath]
    exact hp
  | chmod hpc hep hl =>
    rw [AList.lookup_insert_ne (hne (by rw [hpc]; rfl) hep)]
    exact hp
  | _ => exact hp

theorem Instance.Rule.other (hr : inst.Rule fs i fs' inst') {id mode : Nat}
    (hp : fs'.lookup path = some (.other id mode)) :
    ∃ mode', fs.lookup path = some (.other id mode') := by
  cases hr with
  | clear ok | close ok =>
    cases ok with
    | false => exact ⟨mode, hp⟩
    | true =>
      rw [if_pos rfl] at hp
      exact ⟨mode, (lookup_of_erase hp).2⟩
  | bind =>
    rcases lookup_of_insert hp with ⟨-, hentry⟩ | ⟨-, hp⟩
    · cases hentry
    · exact ⟨mode, hp⟩
  | @chmod q entry hpc hep hl =>
    rcases lookup_of_insert hp with ⟨rfl, hentry⟩ | ⟨-, hp⟩
    · cases entry with
      | socket maker m => cases hentry
      | other id' m =>
        cases hentry
        exact ⟨m, hl⟩
    · exact ⟨mode, hp⟩
  | _ => exact ⟨mode, hp⟩

theorem Instance.Spares.rule (hs : inst.Spares fs) {other other' : Instance}
    (hr : other.Rule fs i fs' other') : inst.Spares fs' := by
  intro path howes id mode hp
  obtain ⟨mode', hold⟩ := hr.other hp
  exact hs path howes id mode' hold

theorem Instance.Rule.spares (hr : inst.Rule fs i fs' inst') (hs : inst.Spares fs) :
    inst'.Spares fs' := by
  have hsame := hs.rule hr
  have hstill : inst.pc.owes = true → inst'.command = inst.command → inst'.Spares fs' := by
    intro howes hcommand path hp
    obtain ⟨-, hep⟩ := Instance.owes_iff.mp hp
    rw [Instance.endpoint, hcommand] at hep
    exact hsame path (Instance.owes_iff.mpr ⟨howes, hep⟩)
  have hnone : inst'.pc.owes = false → inst'.Spares fs' := by
    intro howes path hp
    rw [(Instance.owes_iff.mp hp).1] at howes
    cases howes
  cases hr with
  | found hpc hep hl =>
    intro path hp id mode hother
    obtain ⟨-, hep'⟩ := Instance.owes_iff.mp hp
    obtain ⟨maker, m, hl⟩ := hl
    rw [show inst.endpoint = .unix path from hep'] at hep
    cases hep
    rw [hl] at hother
    cases hother
  | @bind q m hpc hep hl =>
    intro path hp id mode hother
    obtain ⟨-, hep'⟩ := Instance.owes_iff.mp hp
    rw [show inst.endpoint = .unix path from hep'] at hep
    cases hep
    rw [AList.lookup_insert] at hother
    cases hother
  | bindTcp hpc hep =>
    intro path hp
    obtain ⟨-, hep'⟩ := Instance.owes_iff.mp hp
    rw [show inst.endpoint = .unix path from hep'] at hep
    cases hep
  | chmod hpc | chmodFailed hpc | watched hpc | listed hpc | stop hpc =>
    exact hstill (by rw [hpc]; rfl) rfl
  | _ => exact hnone rfl

/-- Other programs put no file of another kind where an instance still has a call to make
on its socket. -/
def Careful (s : World) : Action → Prop
  | .create path (.other ..) => ∀ inst ∈ s.instances, inst.owes path = false
  | _ => True

theorem step_own {a : ListenAction} (h : step s (.own i a) = some s') :
    ∃ inst fs inst', s.instances[i]? = some inst ∧ inst.Rule s.fs i fs inst' ∧
      s' = ⟨fs, s.instances.set i inst'⟩ := by
  obtain ⟨inst, hi, h⟩ := Option.bind_eq_some_iff.mp h
  obtain ⟨⟨fs, inst'⟩, hstep, rfl⟩ := Option.map_eq_some_iff.mp h
  exact ⟨inst, fs, inst', hi, Instance.step_rule hstep, rfl⟩

theorem spares (h : world.ReachableBy Careful s) :
    Each (fun _ inst => inst.Spares s.fs) s.instances := by
  refine h.invariant (I := fun s => Each (fun _ inst => inst.Spares s.fs) s.instances) ?_ ?_
  · rintro s ⟨hnil, -⟩
    rw [hnil]
    exact .nil
  · intro s a s' _ hi hcareful hs
    cases a with
    | start command =>
      cases hs
      refine hi.append fun path hp => ?_
      cases hp
    | own i a =>
      obtain ⟨inst, fs, inst', hinst, hr, rfl⟩ := step_own hs
      exact hi.set (hr.spares (hi i inst hinst)) fun _ _ _ _ hother => hother.rule hr
    | create q entry =>
      simp only [world, step] at hs
      split_ifs at hs
      cases hs
      intro j inst hj path howes id mode hother
      rcases lookup_of_insert hother with ⟨rfl, rfl⟩ | ⟨-, hold⟩
      · rw [hcareful inst (List.mem_of_getElem? hj)] at howes
        cases howes
      · exact hi j inst hj path howes id mode hold
    | delete q =>
      cases hs
      intro j inst hj path howes id mode hother
      exact hi j inst hj path howes id mode (lookup_of_erase hother).2

instance (s : World) : (a : Action) → Decidable (Careful s a)
  | .create path (.other ..) =>
    inferInstanceAs (Decidable (∀ inst ∈ s.instances, inst.owes path = false))
  | .create _ (.socket ..) | .start _ | .own .. | .delete _ => isTrue trivial

theorem keeps_of_step {a : Action} (h : world.ReachableBy Careful s)
    (hs : world.step s a = some s') (ha : a ≠ .delete path) {id mode : Nat}
    (hp : s.fs.lookup path = some (.other id mode)) :
    s'.fs.lookup path = some (.other id mode) := by
  cases a with
  | start command =>
    cases hs
    exact hp
  | own i a =>
    obtain ⟨inst, fs, inst', hinst, hr, rfl⟩ := step_own hs
    exact hr.keeps (spares h i inst hinst) hp
  | create q entry =>
    simp only [world, step] at hs
    split_ifs at hs with hfree
    cases hs
    have hne : path ≠ q := by
      rintro rfl
      rw [hfree.1] at hp
      cases hp
    rw [AList.lookup_insert_ne hne]
    exact hp
  | delete q =>
    cases hs
    have hne : path ≠ q := by
      rintro rfl
      exact ha rfl
    rw [AList.lookup_erase_ne hne]
    exact hp

/-- However many instances start, stop, fail and are killed, a file that is no socket
stays as it is until another program deletes it. -/
theorem files_kept (h : world.ReachableBy Careful s) {as : List Action}
    (hrun : world.replay Careful s as = some s') (hdelete : .delete path ∉ as) {id mode : Nat}
    (hp : s.fs.lookup path = some (.other id mode)) :
    s'.fs.lookup path = some (.other id mode) := by
  induction as generalizing s with
  | nil =>
    cases hrun
    exact hp
  | cons a as ih =>
    rw [List.mem_cons, not_or] at hdelete
    simp only [System.replay] at hrun
    split_ifs at hrun with hcareful
    obtain ⟨s₁, hstep, hrest⟩ := Option.bind_eq_some_iff.mp hrun
    exact ih (.step h hcareful hstep) hrest hdelete.2
      (keeps_of_step h hstep (Ne.symm hdelete.1) hp)

namespace Sample

def files : World :=
  ⟨((∅ : FileSystem).insert "notes" (.other 1 0o644)).insert "usb.sock" (.socket none 0o600), []⟩

theorem init_files : world.init files := by
  refine ⟨rfl, fun path entry hp => ?_⟩
  rcases lookup_of_insert hp with ⟨-, rfl⟩ | ⟨-, hp⟩
  · rfl
  · rcases lookup_of_insert hp with ⟨-, rfl⟩ | ⟨-, hp⟩
    · rfl
    · cases hp

def listen (i : Nat) : List Action :=
  [.check true, .remove true, .bind true 0o755, .chmod true].map (.own i)

def loopback : SocketAddr := ⟨.v4 127 0 0 1, 3240⟩

/-- A daemon is refused the file; another takes the place of `usbipd events` on the old
socket. -/
def threeStarts : List Action :=
  [.start (.daemon (endpointOf loopback (some "notes")) false), .own 0 (.check true),
    .start (.events "usb.sock")] ++ listen 1 ++ [.own 1 (.watch true), .own 1 (.list true),
    .start (.daemon (endpointOf loopback (some "usb.sock")) false)] ++ listen 2

def oneLeaves : List Action := threeStarts ++ [.own 1 .shutdown, .own 1 (.remove true)]

end Sample

theorem files_kept_refused : ∃ s, world.replay Careful Sample.files Sample.oneLeaves = some s ∧
    s.instances.map Instance.pc = [.failed (.notSocket "notes"), .stopped, .listening] ∧
    s.fs.lookup "notes" = some (.other 1 0o644) := by
  have hrun : ((world.replay Careful Sample.files Sample.oneLeaves).map fun s =>
      s.instances.map Instance.pc) =
      some [.failed (.notSocket "notes"), .stopped, .listening] := by
    decide
  obtain ⟨s, hs, hpcs⟩ := Option.map_eq_some_iff.mp hrun
  exact ⟨s, hs, hpcs, files_kept (.start Sample.init_files) hs (by decide) (by decide)⟩

end Kept

section Accounted

variable {fs fs' : FileSystem} {i : Nat} {inst inst' : Instance} {s s' : World} {path : String}

namespace ListenPc

def early : ListenPc → Bool
  | .start | .removing | .binding => true
  | _ => false

def ready : ListenPc → Bool
  | .watching | .listing | .listening | .closing | .stopped => true
  | _ => false

def admitted : ListenPc → Bool
  | .start | .failed _ | .killed => false
  | _ => true

end ListenPc

structure Instance.Known (fs : FileSystem) (i : Nat) (inst : Instance) : Prop where
  early : inst.pc.early = true → ∀ path mode, fs.lookup path ≠ some (.socket (some i) mode)
  unset : inst.pc.early = true ∨ inst.pc = .bound → inst.chmod = none
  path : ∀ path mode, fs.lookup path = some (.socket (some i) mode) → inst.endpoint = .unix path
  mode : ∀ path mode, fs.lookup path = some (.socket (some i) mode) → inst.chmod = some true →
    mode = 0o600
  ready : inst.pc.ready = true → (∃ path, inst.endpoint = .unix path) → inst.chmod.isSome = true
  stopped : inst.pc = .stopped → ∀ path mode, fs.lookup path = some (.socket (some i) mode) →
    inst.removed = some false
  tcp : ∀ addr, inst.endpoint = .tcp addr → inst.pc.admitted = true →
    isLoopback addr = true ∨ inst.command.allowPublicBind = true

theorem Instance.Rule.socket {k : Nat} (hr : inst.Rule fs k fs' inst') (hk : k ≠ i) {mode : Nat}
    (hp : fs'.lookup path = some (.socket (some i) mode)) :
    ∃ mode', fs.lookup path = some (.socket (some i) mode') ∧ (mode = mode' ∨ mode = 0o600) := by
  cases hr with
  | clear ok | close ok =>
    cases ok with
    | false => exact ⟨mode, hp, .inl rfl⟩
    | true =>
      rw [if_pos rfl] at hp
      exact ⟨mode, (lookup_of_erase hp).2, .inl rfl⟩
  | bind =>
    rcases lookup_of_insert hp with ⟨-, hentry⟩ | ⟨-, hp⟩
    · cases hentry
      exact absurd rfl hk
    · exact ⟨mode, hp, .inl rfl⟩
  | @chmod q entry hpc hep hl =>
    rcases lookup_of_insert hp with ⟨rfl, hentry⟩ | ⟨-, hp⟩
    · cases entry with
      | socket maker m =>
        cases hentry
        exact ⟨m, hl, .inr rfl⟩
      | other id m => cases hentry
    · exact ⟨mode, hp, .inl rfl⟩
  | _ => exact ⟨mode, hp, .inl rfl⟩

theorem Instance.Known.other (h : inst.Known fs i)
    (hfs : ∀ path mode, fs'.lookup path = some (.socket (some i) mode) →
      ∃ mode', fs.lookup path = some (.socket (some i) mode') ∧ (mode = mode' ∨ mode = 0o600)) :
    inst.Known fs' i where
  early he path mode hp := by
    obtain ⟨mode', hold, -⟩ := hfs path mode hp
    exact h.early he path mode' hold
  unset := h.unset
  path path mode hp := by
    obtain ⟨mode', hold, -⟩ := hfs path mode hp
    exact h.path path mode' hold
  mode path mode hp hc := by
    obtain ⟨mode', hold, hmode | hmode⟩ := hfs path mode hp
    · rw [hmode]
      exact h.mode path mode' hold hc
    · exact hmode
  ready := h.ready
  stopped hs path mode hp := by
    obtain ⟨mode', hold, -⟩ := hfs path mode hp
    exact h.stopped hs path mode' hold
  tcp := h.tcp

theorem Instance.Known.with_pc (h : inst.Known fs i) {pc : ListenPc}
    (hearly : pc.early = true → inst.pc.early = true)
    (hbound : pc = .bound → inst.pc.early = true)
    (hready : pc.ready = true → (∃ path, inst.endpoint = .unix path) → inst.pc.ready = true)
    (hstopped : pc = .stopped → ∀ path, inst.endpoint ≠ .unix path)
    (htcp : ∀ addr, inst.endpoint = .tcp addr → pc.admitted = true →
      isLoopback addr = true ∨ inst.command.allowPublicBind = true) :
    ({ inst with pc := pc } : Instance).Known fs i where
  early he := h.early (hearly he)
  unset hp := by
    rcases hp with he | hb
    · exact h.unset (.inl (hearly he))
    · exact h.unset (.inl (hbound hb))
  path := h.path
  mode := h.mode
  ready hr hep := h.ready (hready hr hep) hep
  stopped hs path mode hp := absurd (h.path path mode hp) (hstopped hs path)
  tcp := htcp

theorem Instance.afterBind_between (inst : Instance) : inst.afterBind.early = false ∧
    inst.afterBind ≠ .bound ∧ inst.afterBind ≠ .stopped := by
  unfold Instance.afterBind
  split
  · exact ⟨rfl, ListenPc.noConfusion, ListenPc.noConfusion⟩
  · exact ⟨rfl, ListenPc.noConfusion, ListenPc.noConfusion⟩

theorem Instance.ne_tcp_of_unix {q : String} (hep : inst.endpoint = .unix q) (addr : SocketAddr) :
    inst.endpoint ≠ .tcp addr := by
  intro htcp
  rw [hep] at htcp
  cases htcp

theorem Instance.Known.ended (h : inst.Known fs i) {pc : ListenPc}
    (hpc : (∃ e, pc = .failed e) ∨ pc = .killed) :
    ({ inst with pc := pc } : Instance).Known fs i := by
  apply h.with_pc
  all_goals
    rcases hpc with ⟨e, rfl⟩ | rfl
    · intros
      contradiction
    · intros
      contradiction

theorem Instance.Known.unbound (h : inst.Known fs i) {pc : ListenPc}
    (hpc : inst.pc.early = true) (he : pc.early = true)
    (htcp : ∀ addr, inst.endpoint = .tcp addr →
      isLoopback addr = true ∨ inst.command.allowPublicBind = true) :
    ({ inst with pc := pc } : Instance).Known fs i := by
  refine h.with_pc (fun _ => hpc) (fun _ => hpc) (fun hr => ?_) (fun hs => ?_)
    fun addr hep _ => htcp addr hep
  · cases pc with
    | start | removing | binding => cases hr
    | _ => cases he
  · rw [hs] at he
    cases he

theorem Instance.Known.erase (h : inst.Known fs i) (q : String) : inst.Known (fs.erase q) i := by
  apply h.other
  intro path mode hp
  exact ⟨mode, (lookup_of_erase hp).2, .inl rfl⟩

theorem Instance.Known.remove (h : inst.Known fs i) (q : String) (ok : Bool) :
    inst.Known (if ok then fs.erase q else fs) i := by
  cases ok with
  | false => exact h
  | true => exact h.erase q

theorem Instance.Known.close {q : String} (h : inst.Known fs i) (hpc : inst.pc = .closing)
    (hep : inst.endpoint = .unix q) (ok : Bool) :
    ({ inst with pc := .stopped, removed := some ok } : Instance).Known
      (if ok then fs.erase q else fs) i := by
  have hfs := h.remove q ok
  refine ⟨fun he => ?_, fun hp => ?_, hfs.path, hfs.mode, fun _ => ?_, fun _ path mode hp => ?_,
    fun addr htcp => absurd htcp (Instance.ne_tcp_of_unix hep addr)⟩
  · cases he
  · rcases hp with hp | hp <;> cases hp
  · exact h.ready (by rw [hpc]; rfl)
  · cases ok with
    | false => rfl
    | true =>
      have hpath := hfs.path path mode hp
      rw [hep] at hpath
      cases hpath
      rw [if_pos rfl, AList.lookup_erase] at hp
      cases hp

theorem Instance.Known.bind {q : String} (h : inst.Known fs i) (hpc : inst.pc = .binding)
    (hep : inst.endpoint = .unix q) (mode : Nat) :
    ({ inst with pc := .bound } : Instance).Known (fs.insert q (.socket (some i) mode)) i := by
  have hunset : inst.chmod = none := h.unset (.inl (by rw [hpc]; rfl))
  refine ⟨fun he => ?_, fun _ => hunset, fun path m hp => ?_, fun path m hp hc => ?_, fun hr => ?_,
    fun hs => ?_, fun addr htcp => absurd htcp (Instance.ne_tcp_of_unix hep addr)⟩
  · cases he
  · rcases lookup_of_insert hp with ⟨rfl, -⟩ | ⟨-, hold⟩
    · exact hep
    · exact h.path path m hold
  · rw [show inst.chmod = some true from hc] at hunset
    cases hunset
  · cases hr
  · cases hs

theorem Instance.Known.afterChmod {q : String} {entry : Entry} (h : inst.Known fs i)
    (hep : inst.endpoint = .unix q) (hl : fs.lookup q = some entry) :
    ({ inst with pc := inst.afterBind, chmod := some true } : Instance).Known
      (fs.insert q (entry.chmod 0o600)) i := by
  have hsocket : ∀ path mode, (fs.insert q (entry.chmod 0o600)).lookup path =
      some (.socket (some i) mode) → inst.endpoint = .unix path ∧ mode = 0o600 := by
    intro path mode hp
    rcases lookup_of_insert hp with ⟨rfl, hentry⟩ | ⟨hne, hold⟩
    · cases entry with
      | socket maker m =>
        cases hentry
        exact ⟨hep, rfl⟩
      | other id m => cases hentry
    · have hpath := h.path path mode hold
      rw [hep] at hpath
      cases hpath
      exact absurd rfl hne
  obtain ⟨hlate, hbound, hstopped⟩ := inst.afterBind_between
  refine ⟨fun he => ?_, fun hp => ?_, fun path mode hp => (hsocket path mode hp).1,
    fun path mode hp _ => (hsocket path mode hp).2, fun _ _ => rfl, fun hs => absurd hs hstopped,
    fun addr htcp => absurd htcp (Instance.ne_tcp_of_unix hep addr)⟩
  · rw [hlate] at he
    cases he
  · rw [hlate] at hp
    exact absurd (hp.resolve_left Bool.false_ne_true) hbound

theorem Instance.Known.chmodFailed (h : inst.Known fs i) (hpc : inst.pc = .bound) :
    ({ inst with pc := inst.afterBind, chmod := some false } : Instance).Known fs i := by
  obtain ⟨hlate, hbound, hstopped⟩ := inst.afterBind_between
  refine ⟨fun he => ?_, fun hp => ?_, h.path, fun path mode hp hc => ?_, fun _ _ => rfl,
    fun hs => absurd hs hstopped, fun addr htcp _ => h.tcp addr htcp (by rw [hpc]; rfl)⟩
  · rw [hlate] at he
    cases he
  · rw [hlate] at hp
    exact absurd (hp.resolve_left Bool.false_ne_true) hbound
  · cases hc

theorem Instance.Rule.known (hr : inst.Rule fs i fs' inst') (h : inst.Known fs i) :
    inst'.Known fs' i := by
  cases hr with
  | refuse | blocked | bindFailed | giveUp => exact h.ended (.inl ⟨_, rfl⟩)
  | kill => exact h.ended (.inr rfl)
  | @accept addr hpc hep hok =>
    refine h.unbound (by rw [hpc]; rfl) rfl fun addr' htcp => ?_
    rw [hep] at htcp
    cases htcp
    exact hok
  | free hpc hep | found hpc hep =>
    refine h.unbound (by rw [hpc]; rfl) rfl fun addr htcp => ?_
    exact absurd htcp (Instance.ne_tcp_of_unix hep addr)
  | @clear q ok hpc hep =>
    refine (h.remove q ok).unbound (by rw [hpc]; rfl) rfl fun addr htcp => ?_
    exact absurd htcp (Instance.ne_tcp_of_unix hep addr)
  | close ok hpc hep => exact h.close hpc hep ok
  | bind mode hpc hep => exact h.bind hpc hep mode
  | chmod hpc hep hl => exact h.afterChmod hep hl
  | chmodFailed hpc => exact h.chmodFailed hpc
  | bindTcp hpc hep | stopTcp hpc hep =>
    refine h.with_pc ?_ ?_ ?_ ?_ fun addr htcp _ => h.tcp addr htcp (by rw [hpc]; rfl)
    · intro he
      cases he
    · intro hb
      cases hb
    · rintro - ⟨path, hpath⟩
      rw [hep] at hpath
      cases hpath
    · intro _ path hpath
      rw [hep] at hpath
      cases hpath
  | watched hpc | listed hpc | stop hpc =>
    refine h.with_pc ?_ ?_ (fun _ _ => by rw [hpc]; rfl) ?_
      fun addr htcp _ => h.tcp addr htcp (by rw [hpc]; rfl)
    · intro he
      cases he
    · intro hb
      cases hb
    · intro hs
      cases hs

/-- What a maintainer may rely on whatever else goes on. The mode is that of the maker's
`set_permissions`, also once the maker has failed or was killed. -/
structure Accounted (s : World) : Prop where
  socket : ∀ path i mode, s.fs.lookup path = some (.socket (some i) mode) →
    ∃ inst, s.instances[i]? = some inst ∧ inst.endpoint = .unix path ∧
      (inst.chmod = some true → mode = 0o600) ∧
      (inst.pc.ready = true → inst.chmod.isSome = true) ∧
      (inst.pc = .stopped → inst.removed = some false)
  listening : ∀ (i : Nat) inst addr, s.instances[i]? = some inst → inst.endpoint = .tcp addr →
    inst.pc = .listening → isLoopback addr = true ∨ inst.command.allowPublicBind = true

theorem Instance.Known.foreign (h : inst.Known fs i) {q : String} {entry : Entry}
    (hentry : entry.foreign = true) : inst.Known (fs.insert q entry) i := by
  apply h.other
  intro path mode hp
  rcases lookup_of_insert hp with ⟨-, rfl⟩ | ⟨-, hold⟩
  · cases hentry
  · exact ⟨mode, hold, .inl rfl⟩

theorem known {C : World → Action → Prop} (h : world.ReachableBy C s) :
    Each (fun i inst => inst.Known s.fs i) s.instances ∧
      ∀ path i mode, s.fs.lookup path = some (.socket (some i) mode) → i < s.instances.length := by
  refine h.invariant (I := fun s => Each (fun i inst => inst.Known s.fs i) s.instances ∧
    ∀ path i mode, s.fs.lookup path = some (.socket (some i) mode) →
      i < s.instances.length) ?_ ?_
  · rintro s ⟨hnil, hforeign⟩
    rw [hnil]
    refine ⟨.nil, fun path i mode hp => ?_⟩
    cases hforeign path _ hp
  · intro s a s' _ hi _ hs
    obtain ⟨heach, hmakers⟩ := hi
    cases a with
    | start command =>
      cases hs
      refine ⟨heach.append ?_, fun path i mode hp => ?_⟩
      · have hnone : ∀ path mode, s.fs.lookup path ≠
            some (.socket (some s.instances.length) mode) := by
          intro path mode hp
          exact absurd (hmakers path _ mode hp) (Nat.lt_irrefl _)
        refine ⟨fun _ => hnone, fun _ => rfl, fun path mode hp => ?_, fun path mode hp => ?_,
          fun hr => ?_, fun hs => ?_, fun addr _ ha => ?_⟩
        · exact absurd hp (hnone path mode)
        · exact absurd hp (hnone path mode)
        · cases hr
        · cases hs
        · cases ha
      · rw [List.length_append]
        exact Nat.lt_add_right _ (hmakers path i mode hp)
    | own k a =>
      obtain ⟨inst, fs, inst', hinst, hr, rfl⟩ := step_own hs
      refine ⟨heach.set (hr.known (heach k inst hinst)) fun j other hj _ hother => ?_,
        fun path i mode hp => ?_⟩
      · exact hother.other fun path mode hp => hr.socket (Ne.symm hj) hp
      · rw [List.length_set]
        by_cases hik : k = i
        · rw [← hik]
          exact lt_length_of_getElem? hinst
        · obtain ⟨mode', hold, -⟩ := hr.socket hik hp
          exact hmakers path i mode' hold
    | create q entry =>
      simp only [world, step] at hs
      split_ifs at hs with hfree
      cases hs
      refine ⟨fun j inst hj => (heach j inst hj).foreign hfree.2, fun path i mode hp => ?_⟩
      rcases lookup_of_insert hp with ⟨-, rfl⟩ | ⟨-, hold⟩
      · cases hfree.2
      · exact hmakers path i mode hold
    | delete q =>
      cases hs
      refine ⟨fun j inst hj => (heach j inst hj).erase q, fun path i mode hp => ?_⟩
      exact hmakers path i mode (lookup_of_erase hp).2

theorem sockets_accounted (h : world.Reachable s) : Accounted s := by
  obtain ⟨heach, hmakers⟩ := known h
  constructor
  · intro path i mode hp
    have hi := List.getElem?_eq_getElem (hmakers path i mode hp)
    have hknown := heach i _ hi
    refine ⟨_, hi, hknown.path path mode hp, hknown.mode path mode hp, fun hready => ?_,
      fun hs => hknown.stopped hs path mode hp⟩
    exact hknown.ready hready ⟨path, hknown.path path mode hp⟩
  · intro i inst addr hi hep hpc
    exact (heach i inst hi).tcp addr hep (by rw [hpc]; rfl)

theorem sockets_accounted_replaced : ∃ s, world.Reachable s ∧
    s.fs.lookup "usb.sock" = some (.socket (some 2) 0o600) ∧ Accounted s := by
  have hrun : ((world.run Sample.files Sample.threeStarts).map fun s =>
      s.fs.lookup "usb.sock") = some (some (.socket (some 2) 0o600)) := by
    decide
  obtain ⟨s, hs, hp⟩ := System.exists_reachable_of_run Sample.init_files hrun
  exact ⟨s, hs, hp, sockets_accounted hs⟩

end Accounted

end Usbip.Cli
