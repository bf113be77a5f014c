import UsbipdDarwin.Daemon.Serve

/-! Devices taken from the kernel's drivers and given back. `open` re-enumerates a
device in capture mode before it can fail in three more places, and the device is
given back in two places only: by the `Drop` of the opened device, and by the sweep
at the end of `serve`, which goes by the busid alone. -/

namespace Usbip.Host

variable {busid : String} {answers : OpenAnswers} {old : DeviceInfo}

/-- A list that is read before the first unreadable one and before the deadline has
the re-enumerated device. -/
def reappears (old : DeviceInfo) (polls : List (Option (List DeviceInfo))) : Bool :=
  (polls.takeWhile Option.isSome).any fun poll => poll.any (·.any old.comesBackAs)

theorem isOk_awaitReenumerated (old : DeviceInfo) (polls : List (Option (List DeviceInfo))) :
    (awaitReenumerated old polls).isOk = reappears old polls := by
  induction polls with
  | nil => rfl
  | cons poll polls ih =>
    cases poll with
    | none => rfl
    | some devices =>
      have hhere : reappears old (some devices :: polls) =
          (devices.any old.comesBackAs || reappears old polls) := rfl
      rw [awaitReenumerated, hhere]
      split
      · rename_i info hfound
        have hany : devices.any old.comesBackAs = true :=
          List.any_eq_true.mpr ⟨info, List.mem_of_find?_eq_some hfound, List.find?_some hfound⟩
        rw [hany]
        rfl
      · rename_i hnone
        rw [ih, List.any_eq_false.mpr (List.find?_eq_none.mp hnone), Bool.false_or]

theorem isOk_openDevice (hold : reenumerated busid answers = some old) :
    (openDevice busid answers).isOk = (reappears old answers.polls && answers.opens.isSome) := by
  obtain ⟨hfound, hcaptured⟩ := Option.filter_eq_some_iff.mp hold
  obtain ⟨devices, hlisted, hfind⟩ := Option.bind_eq_some_iff.mp hfound
  simp only [Bool.and_eq_true] at hcaptured
  have hcapture : maybeCapture answers old = awaitReenumerated old answers.polls := by
    rw [maybeCapture, hcaptured.1, hcaptured.2]
    rfl
  rw [← isOk_awaitReenumerated]
  simp only [openDevice, hlisted, hfind, hcapture]
  cases awaitReenumerated old answers.polls with
  | error e => rfl
  | ok r => cases answers.opens <;> rfl

end Usbip.Host

namespace Usbip.Serve
open Proto Host Daemon Lts

variable {s s' : State} {a : Action} {i : Nat}

/-- Every `open` that has failed after a capture is made up for by a release. -/
def FailedOpensUndone (s : State) : Prop :=
  ∀ later earlier i info, s.log = later ++ .open i (some info) false :: earlier →
    ∃ origin info', .released origin info' ∈ later ∧ info'.Same info

/-- A device that `open` has re-enumerated in capture mode comes back before the
deadline, and can be opened then. -/
def CaptureCompletes (s : State) : Action → Prop
  | .openDevice i o => ∀ old ∈ reenumerated (s.busidOf i) o.answers,
      reappears old o.answers.polls = true ∧ o.answers.opens.isSome = true
  | _ => True

instance (s : State) : (a : Action) → Decidable (CaptureCompletes s a)
  | .openDevice i o => inferInstanceAs (Decidable (∀ old ∈ reenumerated (s.busidOf i) o.answers,
      reappears old o.answers.polls = true ∧ o.answers.opens.isSome = true))
  | .connect _ | .request .. | .devlist .. | .lookup .. | .tryAttach _ | .openPanic _ | .refuse _
  | .reply .. | .session .. | .leave _ | .dropGuard _ | .dropDevice .. | .shutdown _ | .sweep _ =>
    isTrue trivial

/-- One call of `open`: if it fails after a capture, it has released the device itself. -/
def OpenUndone (s : State) (i : Nat) (o : Opening) : Prop :=
  (openDevice (s.busidOf i) o.answers).isOk = false →
    ∀ info ∈ reenumerated (s.busidOf i) o.answers, ∃ origin info',
      .released origin info' ∈ events s (.openDevice i o) ∧ info'.Same info

theorem openUndone_iff (s : State) (i : Nat) (o : Opening) :
    OpenUndone s i o ↔ CaptureCompletes s (.openDevice i o) := by
  constructor
  · intro hundone old hold
    have hok := isOk_openDevice hold
    rw [← Bool.and_eq_true, ← hok, ← Bool.not_eq_false]
    intro hfailed
    obtain ⟨origin, info', hreleased, -⟩ := hundone hfailed old hold
    cases List.mem_singleton.mp hreleased
  · intro hcompletes hfailed old hold
    have hok := isOk_openDevice hold
    rw [hfailed, Bool.and_eq_true_iff.mpr (hcompletes old hold)] at hok
    cases hok

theorem open_ok_of_captured (h : serve.ReachableBy CaptureCompletes s) {info : DeviceInfo}
    {ok : Bool} (he : .open i (some info) ok ∈ s.log) : ok = true := by
  refine h.invariant (I := fun s => ∀ i info ok, .open i (some info) ok ∈ s.log → ok = true)
    ?_ ?_ i info ok he
  · rintro s ⟨policy, root, rfl⟩ i info ok he
    cases he
  · intro s a s' _ hi hcond hs i info ok he
    rw [(stepped hs).log] at he
    rcases List.mem_append.mp he with hnew | hold
    · cases a with
      | openDevice j o =>
        obtain ⟨hcaptured, rfl⟩ : reenumerated (s.busidOf j) o.answers = some info ∧
            ok = (openDevice (s.busidOf j) o.answers).isOk := by
          have heq := List.mem_singleton.mp hnew
          simp only [Event.open.injEq] at heq
          exact ⟨heq.2.1.symm, heq.2.2⟩
        rw [isOk_openDevice hcaptured, Bool.and_eq_true]
        exact hcond info hcaptured
      | dropDevice j listed | sweep listed => simp [events] at hnew
      | _ => cases hnew
    · exact hi i info ok hold

/-- A call of `open` undoes its own failure exactly under the condition, and in a run of such
calls no device is left behind. -/
theorem failed_opens_undone (s : State) :
    (∀ i o, OpenUndone s i o ↔ CaptureCompletes s (.openDevice i o)) ∧
      (serve.ReachableBy CaptureCompletes s → FailedOpensUndone s) := by
  refine ⟨openUndone_iff s, ?_⟩
  intro h later earlier i info hlog
  have hmem : .open i (some info) false ∈ s.log := by
    rw [hlog]
    exact List.mem_append_right _ List.mem_cons_self
  cases open_ok_of_captured h hmem

namespace Sample

def fullRun : List Action :=
  attach 0 Daemon.Sample.info ++ openAndReply 0 Daemon.Sample.answers ++
    [.session 0 (.loop .hangUp), .session 0 (.loop (.drain [])), .leave 0,
      .dropDevice 0 (some [Daemon.Sample.info]), .dropGuard 0]

/-- The device is captured and comes back, the last call of `open` fails, and the
daemon runs to its end. -/
def failedRun : List Action :=
  attach 0 Daemon.Sample.info ++
    [.openDevice 0 (opening { Daemon.Sample.answers with opens := none }), .refuse 0, .dropGuard 0,
      .shutdown []]

end Sample

theorem failed_opens_undone_sample : ∃ s, serve.ReachableBy CaptureCompletes s ∧
    s.log = [.released (some 0) Daemon.Sample.info, .open 0 (some Daemon.Sample.info) true] ∧
    FailedOpensUndone s := by
  have hrun : (serve.replay CaptureCompletes (.new .allowAll true) Sample.fullRun).map
      (fun s => decide (s.log = [.released (some 0) Daemon.Sample.info,
        .open 0 (some Daemon.Sample.info) true])) = some true := by
    decide
  obtain ⟨s, hs, ho⟩ := System.exists_reachableBy_of_replay (init_serve _ _) hrun
  exact ⟨s, hs, of_decide_eq_true ho, (failed_opens_undone s).2 hs⟩

/-- At the end of the run, shutdown sweep included, the device is still captured. -/
theorem capture_left_behind : ∃ s, serve.Reachable s ∧ s.phase = .sweeping [] ∧
    ¬ FailedOpensUndone s := by
  have hrun : (serve.run (.new .allowAll true) Sample.failedRun).map
      (fun s => decide (s.phase = .sweeping []) &&
        decide (s.log = [.open 0 (some Daemon.Sample.info) false])) = some true := by
    decide
  obtain ⟨s, hs, ho⟩ := System.exists_reachable_of_run (init_serve _ _) hrun
  simp only [Bool.and_eq_true, decide_eq_true_eq] at ho
  refine ⟨s, hs, ho.1, fun hundone => ?_⟩
  obtain ⟨origin, info', hmem, -⟩ := hundone [] [] 0 Daemon.Sample.info ho.2
  cases hmem

end Usbip.Serve
