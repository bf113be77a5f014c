import UsbipdDarwin.Lts.Lockstep
import UsbipdDarwin.Daemon.Registry
import UsbipdDarwin.Daemon.Policy
import UsbipdDarwin.Daemon.OwnCaptures

/-! Denied devices are as good as absent. Two daemons with the same permitted devices
plugged in, fed with the same inputs, take the same steps: a device that the policy
denies is never reached by a listing, a reply, an `open` or a release. -/

namespace Usbip.Daemon

def ImportPc.admitted (pc : ImportPc) : Bool := pc.checked || pc.guarded

variable {policy : AccessPolicy} {c c' : Client}

theorem Client.step_busid {a : ClientAction} (h : c.step policy a = some c') :
    c'.busid = c.busid ∨ c.pc = .connected := by
  cases step_rule h with
  | request hp busid => exact .inr hp
  | unsent | session | leave => exact .inl (settle_frame _ _).2.1
  | _ => exact .inl rfl

theorem Client.MovedBy.busid {a : Action} (h : c.MovedBy policy a c') :
    c'.busid = c.busid ∨ c.pc = .connected := by
  cases h with
  | own hs => exact Client.step_busid hs
  | attach | dropGuard | dropDevice => exact .inl rfl

theorem Client.MovedBy.guarded {a : Action} (h : c.MovedBy policy a c')
    (hg : c'.pc.guarded = true) : c.pc.admitted = true := by
  cases h with
  | own hs =>
    have hguarded := (Client.step_moved hs).guarded ▸ hg
    rw [ImportPc.admitted, hguarded, Bool.or_true]
  | attach hp =>
    rw [hp]
    rfl
  | dropGuard => cases hg
  | dropDevice =>
    have hguarded : c.pc.guarded = true := hg
    rw [ImportPc.admitted, hguarded, Bool.or_true]

end Usbip.Daemon

namespace Usbip.Serve
open Proto Host Daemon Lts

variable {s s' : State} {a : Action} {i : Nat} {c c' : Client} {m m' : Import}
  {policy : AccessPolicy} {D D₁ D₂ : List Listed}

/-- What comes from outside while the same devices stay plugged in. What happens when
a device is opened depends on that device alone. -/
inductive Input
  | connect (peer : String)
  | request (i : Nat) (bytes : Bytes)
  | devlist (i : Nat)
  | lookup (i : Nat)
  | tryAttach (i : Nat)
  | openDevice (i : Nat) (opening : Option DeviceInfo → Opening)
  | openPanic (i : Nat)
  | refuse (i : Nat)
  | reply (i : Nat) (ok : Bool)
  | session (i : Nat) (a : Session.Action)
  | leave (i : Nat)
  | dropGuard (i : Nat)
  | dropDevice (i : Nat)
  | shutdown (busids : List String)
  | sweep

def infos (D : List Listed) : List DeviceInfo := D.map (·.info)

def find (D : List Listed) (busid : String) : Option Listed := D.find? (·.info.busid == busid)

def Opening.over (o : Opening) (D : List Listed) (root : Bool) : Opening :=
  { o with answers := { o.answers with listed := some (infos D), isRoot := root } }

def Input.action (D : List Listed) (s : State) : Input → Action
  | .connect peer => .connect peer
  | .request i bytes => .request i bytes
  | .devlist i => .devlist i (some D)
  | .lookup i => .lookup i (some D)
  | .tryAttach i => .tryAttach i
  | .openDevice i opening =>
    .openDevice i ((opening ((find D (s.busidOf i)).map (·.info))).over D s.root)
  | .openPanic i => .openPanic i
  | .refuse i => .refuse i
  | .reply i ok => .reply i ok
  | .session i a => .session i a
  | .leave i => .leave i
  | .dropGuard i => .dropGuard i
  | .dropDevice i => .dropDevice i (some (infos D))
  | .shutdown busids => .shutdown busids
  | .sweep => .sweep (some (infos D))

def stepOn (D : List Listed) (s : State) (input : Input) : Option State :=
  step s (input.action D s)

def Over (D : List Listed) (s : State) (a : Action) : Prop := ∃ input, a = Input.action D s input

def permitsListed (policy : AccessPolicy) (d : Listed) : Bool := permitsDevice policy d.desc

def Visible (policy : AccessPolicy) (D : List Listed) (busid : String) : Prop :=
  ∃ d, find D busid = some d ∧ permitsListed policy d = true

theorem find_infos (D : List Listed) (busid : String) :
    (infos D).find? (·.busid == busid) = (find D busid).map (·.info) := by
  rw [infos, List.find?_map]
  rfl

theorem decision_infos (policy : AccessPolicy) (busid : String) (D : List Listed) :
    Client.decision policy busid (infos D) =
      if ((find D busid).filter (permitsListed policy)).isSome then .permitted else .refused := by
  rw [Client.decision, find_infos]
  cases find D busid with
  | none => rfl
  | some d =>
    have hp : permitsListed policy d = policy.permits d.info.vendorId d.info.productId := by
      rw [permitsListed, permitsDevice, d.vendorId_eq, d.productId_eq]
    by_cases hq : permitsListed policy d = true
    · rw [Option.filter_some_pos hq, Option.map_some]
      simp [← hp, hq]
    · have hq : permitsListed policy d = false := by simpa using hq
      rw [Option.filter_some_neg hq, Option.map_some]
      simp [← hp, hq]

/-- Two sets of plugged-in devices that differ in denied ones only. -/
structure SamePermitted (policy : AccessPolicy) (D₁ D₂ : List Listed) : Prop where
  nodup₁ : (D₁.map (·.info.busid)).Nodup
  nodup₂ : (D₂.map (·.info.busid)).Nodup
  permitted : D₁.filter (permitsListed policy) = D₂.filter (permitsListed policy)

theorem SamePermitted.find (h : SamePermitted policy D₁ D₂) (busid : String) :
    (find D₁ busid).filter (permitsListed policy) =
      (find D₂ busid).filter (permitsListed policy) := by
  unfold Serve.find
  rw [← find?_filter_of_nodup h.nodup₁, ← find?_filter_of_nodup h.nodup₂, h.permitted]

theorem SamePermitted.visible (h : SamePermitted policy D₁ D₂) {busid : String}
    (hv : Visible policy D₁ busid) : Serve.find D₂ busid = Serve.find D₁ busid := by
  obtain ⟨d, hd, hp⟩ := hv
  have hfilter := h.find busid
  rw [hd, Option.filter_some_pos hp] at hfilter
  rw [hd]
  exact (Option.filter_eq_some_iff.mp hfilter.symm).1

theorem SamePermitted.devlist (h : SamePermitted policy D₁ D₂) :
    devlistReply policy (some D₁) = devlistReply policy (some D₂) := by
  have hmap : ∀ D : List Listed, filterDevices policy (D.map (·.desc)) =
      (D.filter (permitsListed policy)).map (·.desc) := fun D => by
    rw [filterDevices, List.filter_map]
    rfl
  simp only [devlistReply, Option.map_some, hmap, h.permitted]

theorem SamePermitted.step_lookup (h : SamePermitted policy D₁ D₂) (c : Client) :
    c.step policy (.lookup (some (infos D₁))) = c.step policy (.lookup (some (infos D₂))) := by
  have hdecision : Client.decision policy c.busid (infos D₁) =
      Client.decision policy c.busid (infos D₂) := by
    rw [decision_infos, decision_infos, h.find]
  cases hp : c.pc with
  | requested => simp only [Client.step, hp, hdecision]
  | _ => simp only [Client.step, hp]

section SameFind

variable {busid : String} (h : find D₁ busid = find D₂ busid)
include h

theorem openDevice_over (o : Opening) (root : Bool) :
    openDevice busid (o.over D₁ root).answers = openDevice busid (o.over D₂ root).answers := by
  simp only [openDevice, Opening.over, find_infos, h]
  rfl

theorem openTarget_over (o : Opening) (root : Bool) :
    openTarget busid (o.over D₁ root).answers = openTarget busid (o.over D₂ root).answers := by
  simp only [openTarget, Opening.over, find_infos, h]
  rfl

theorem reenumerated_over (o : Opening) (root : Bool) :
    reenumerated busid (o.over D₁ root).answers = reenumerated busid (o.over D₂ root).answers := by
  simp only [reenumerated, Opening.over, Option.bind_some, find_infos, h]

theorem releaseCapture_infos (root : Bool) :
    releaseCapture busid root (some (infos D₁)) = releaseCapture busid root (some (infos D₂)) := by
  simp only [releaseCapture, Option.bind_some, find_infos, h]

end SameFind

theorem releaseInfo_infos {capture : Capture} (h : find D₁ capture.busid = find D₂ capture.busid) :
    capture.releaseInfo (some (infos D₁)) = capture.releaseInfo (some (infos D₂)) := by
  simp only [Capture.releaseInfo, Option.bind_some, find_infos, h]

structure ConnVisible (D : List Listed) (policy : AccessPolicy) (c : Client) : Prop where
  admitted : c.pc.admitted = true → Visible policy D c.busid
  before : c.pc.beforeOpen = true → c.device.capture = none
  capture : ∀ capture, c.device.capture = some capture →
    capture.busid = c.busid ∧ Visible policy D c.busid

theorem Action.Moves.busid (h : a.Moves policy c c') : c'.busid = c.busid ∨ c.pc = .connected := by
  rcases h with ⟨-, rfl⟩ | ⟨b, -, hmoved⟩
  · exact .inl rfl
  · exact hmoved.busid

theorem Action.Moves.admitted (h : a.Moves policy c c')
    (hlookup : ∀ i listed, a ≠ .lookup i listed) (hadmitted : c'.pc.admitted = true) :
    c.pc.admitted = true := by
  rcases Bool.or_eq_true_iff.mp hadmitted with hchecked | hguarded
  · have hc := (onward_of_moved hlookup h).checked hchecked
    rw [ImportPc.admitted, hc, Bool.true_or]
  · rcases h with ⟨-, rfl⟩ | ⟨b, -, hmoved⟩
    · exact hadmitted
    · exact hmoved.guarded hguarded

theorem ConnVisible.step (h : ConnVisible D policy c) (hmoved : a.Moves policy c c')
    (hlookup : ∀ i listed, a ≠ .lookup i listed) : ConnVisible D policy c' := by
  have honward := onward_of_moved hlookup hmoved
  have hbusid (hne : c.pc ≠ .connected) : c'.busid = c.busid :=
    (Action.Moves.busid hmoved).resolve_right hne
  refine ⟨fun hadmitted => ?_, fun hbefore => ?_, fun capture hcapture => ?_⟩
  · have hc := Action.Moves.admitted hmoved hlookup hadmitted
    have hne : c.pc ≠ .connected := by
      intro hp
      rw [hp] at hc
      cases hc
    rw [hbusid hne]
    exact h.admitted hc
  · rcases Action.Moves.capture hmoved with hnone | ⟨hsame, -⟩ | ⟨_, _, _, _, -, -, -, rfl⟩
    · exact hnone
    · exact hsame.trans (h.before (honward.beforeOpen hbefore))
    · cases hbefore
  · rcases Action.Moves.capture hmoved with hnone | ⟨hsame, -⟩ |
      ⟨_, _, _, _, -, hopen, hp, rfl⟩
    · rw [hnone] at hcapture
      cases hcapture
    · rw [hsame] at hcapture
      have hne : c.pc ≠ .connected := by
        intro hp
        rw [h.before (by rw [hp]; rfl)] at hcapture
        cases hcapture
      rw [hbusid hne]
      exact h.capture capture hcapture
    · cases hcapture
      obtain ⟨info, captured, -, rfl⟩ := openDevice_ok hopen
      exact ⟨rfl, h.admitted (by rw [hp]; rfl)⟩

theorem ConnVisible.lookup (h : ConnVisible D policy c)
    (hs : c.step policy (.lookup (some (infos D))) = some c') :
    ConnVisible D policy c' ∧ c'.busid = c.busid := by
  cases Client.step_rule hs with
  | lookup hp =>
    have hnone : c.device.capture = none := h.before (by rw [hp]; rfl)
    refine ⟨⟨fun hadmitted => ?_, fun _ => hnone, fun capture hcapture => ?_⟩, rfl⟩
    · simp only [decision_infos] at hadmitted
      split_ifs at hadmitted with hfound
      · obtain ⟨d, hd⟩ := Option.isSome_iff_exists.mp hfound
        obtain ⟨hfind, hpermits⟩ := Option.filter_eq_some_iff.mp hd
        exact ⟨d, hfind, hpermits⟩
      · cases hadmitted
    · change c.device.capture = some capture at hcapture
      rw [hnone] at hcapture
      cases hcapture

theorem connVisible (h : serve.ReachableBy (Over D) s) (hc : s.client i = some c) :
    ConnVisible D s.daemon.policy c := by
  obtain ⟨m, hm⟩ : ∃ m, s.imports[i]? = some m := by
    have hlt := lt_length_of_getElem? (show s.daemon.clients[i]? = some c from hc)
    rw [← lengths h] at hlt
    exact ⟨_, List.getElem?_eq_getElem hlt⟩
  refine conns_invariant (P := fun policy _ c => ConnVisible D policy c) h
    (fun _ _ => ⟨nofun, fun _ => rfl, nofun⟩) ?_ hm hc
  rintro s a s' i m c c' _ ⟨input, rfl⟩ _ htarget _ _ hmoved hok
  cases input with
  | lookup j => exact (hok.lookup (step_of_moved rfl hmoved)).1
  | _ => exact hok.step hmoved (by simp [Input.action])

theorem visible_of_attached (h : serve.ReachableBy (Over D) s) {busid : String}
    (hb : busid ∈ s.daemon.attached) : Visible s.daemon.policy D busid := by
  have hdaemon : daemon.Reachable s.daemon := daemon_reachable (fun _ _ _ _ _ => trivial) h
  obtain ⟨peer, hpeer⟩ := Option.isSome_iff_exists.mp (AList.lookup_isSome.mpr hb)
  obtain ⟨i, c, hc, hguarded, rfl, -⟩ := (lists_attached hdaemon busid peer).mp hpeer
  exact (connVisible h hc).admitted (by rw [ImportPc.admitted, hguarded, Bool.or_true])

theorem visible_of_sweeping (h : serve.ReachableBy (Over D) s) {busids : List String}
    (hphase : s.phase = .sweeping busids) {busid : String} (hb : busid ∈ busids) :
    Visible s.daemon.policy D busid := by
  refine h.invariant (I := fun s => ∀ busids, s.phase = .sweeping busids → ∀ busid ∈ busids,
    Visible s.daemon.policy D busid) ?_ ?_ busids hphase busid hb
  · rintro s ⟨policy, root, rfl⟩ busids hphase
    cases hphase
  · intro s a s' hr hi _ hs busids hphase busid hb
    have hst := stepped hs
    rw [hst.policy]
    rw [hst.phase] at hphase
    cases a with
    | shutdown order =>
      have hen := hst.enabled
      simp only [State.enabled, Bool.and_eq_true, decide_eq_true_eq] at hen
      cases hphase
      exact visible_of_attached hr (AList.mem_keys.mpr (hen.2.mem_iff.mp hb))
    | sweep listed =>
      rw [phaseAfter] at hphase
      split at hphase
      · rename_i first rest hbefore
        cases hphase
        exact hi _ hbefore busid (List.mem_cons_of_mem _ hb)
      · exact hi busids hphase busid hb
    | _ => exact hi busids hphase busid hb

/-- The records of a connection in two runs: a connection that is refused does not
learn what the look-up has found. -/
structure AlikeImport (c : Client) (m₁ m₂ : Import) : Prop where
  same : m₂ = { m₁ with desc := m₂.desc }
  desc : c.pc.admitted = true → m₂.desc = m₁.desc

structure Alike (s₁ s₂ : State) : Prop where
  daemon : s₁.daemon = s₂.daemon
  root : s₁.root = s₂.root
  phase : s₁.phase = s₂.phase
  log : s₁.log = s₂.log
  imports : ∀ (i : Nat) (m₁ m₂ : Import) (c : Client), s₁.imports[i]? = some m₁ →
    s₂.imports[i]? = some m₂ → s₁.client i = some c → AlikeImport c m₁ m₂

structure Matching (s₁ s₂ : State) (a₁ a₂ : Action) : Prop where
  target : a₁.target = a₂.target
  connect : ∀ peer, a₁ = .connect peer ↔ a₂ = .connect peer
  enabled : s₁.enabled a₁ = s₂.enabled a₂
  daemon : daemonAfter s₁ a₁ = daemonAfter s₂ a₂
  phase : phaseAfter s₁ a₁ = phaseAfter s₂ a₂
  events : (daemonAfter s₁ a₁).isSome = true → events s₁ a₁ = events s₂ a₂
  imports : ∀ (i : Nat) (m₁ m₂ : Import) (c c' : Client), a₁.target = some i →
    s₁.imports[i]? = some m₁ → s₂.imports[i]? = some m₂ → s₁.client i = some c →
    AlikeImport c m₁ m₂ → a₁.Moves s₁.daemon.policy c c' →
    AlikeImport c' (importAfter s₁ i m₁ a₁) (importAfter s₂ i m₂ a₂)

variable {s₁ s₂ s₁' s₂' : State} {a₁ a₂ : Action}

theorem Alike.step_imports (h : Alike s₁ s₂) (hmatch : Matching s₁ s₂ a₁ a₂)
    (hlen₁ : s₁.imports.length = s₁.daemon.clients.length)
    (hlen₂ : s₂.imports.length = s₂.daemon.clients.length)
    (hst₁ : Stepped s₁ a₁ s₁') (hst₂ : Stepped s₂ a₂ s₂') (i : Nat) (m₁ m₂ : Import) (c : Client)
    (hm₁ : s₁'.imports[i]? = some m₁) (hm₂ : s₂'.imports[i]? = some m₂)
    (hc : s₁'.client i = some c) : AlikeImport c m₁ m₂ := by
  by_cases hconnect : ∃ peer, a₁ = .connect peer
  · obtain ⟨peer, rfl⟩ := hconnect
    obtain rfl : a₂ = .connect peer := (hmatch.connect peer).mp rfl
    have hnew₁ : (s₁.imports ++ [({} : Import)])[i]? = some m₁ := by rwa [hst₁.imports] at hm₁
    have hnew₂ : (s₂.imports ++ [({} : Import)])[i]? = some m₂ := by rwa [hst₂.imports] at hm₂
    rw [State.client, hst₁.connect] at hc
    have hlen : s₁.imports.length = s₂.imports.length := by rw [hlen₁, hlen₂, h.daemon]
    rcases getElem?_append_some hnew₁ with hold₁ | ⟨hi, rfl⟩
    · have hlt := lt_length_of_getElem? hold₁
      have hold₂ := (getElem?_append_some hnew₂).resolve_right (by omega)
      have hcold := (getElem?_append_some hc).resolve_right (by omega)
      exact h.imports i m₁ m₂ c hold₁ hold₂ hcold
    · rw [hi, hlen, List.getElem?_concat_length] at hnew₂
      cases hnew₂
      exact ⟨rfl, fun _ => rfl⟩
  · have ha₁ : ∀ peer, a₁ ≠ .connect peer := fun peer he => hconnect ⟨peer, he⟩
    have ha₂ : ∀ peer, a₂ ≠ .connect peer := fun peer he => ha₁ peer ((hmatch.connect peer).mpr he)
    obtain ⟨m₁₀, hm₁₀, rfl⟩ := hst₁.import ha₁ hm₁
    obtain ⟨m₂₀, hm₂₀, rfl⟩ := hst₂.import ha₂ hm₂
    obtain ⟨c₀, hc₀, hmoved⟩ := hst₁.client ha₁ hc
    have hbefore := h.imports i m₁₀ m₂₀ c₀ hm₁₀ hm₂₀ hc₀
    rw [← hmatch.target]
    split_ifs at hmoved ⊢ with htarget
    · exact hmatch.imports i m₁₀ m₂₀ c₀ c htarget hm₁₀ hm₂₀ hc₀ hbefore hmoved
    · rw [hmoved]
      exact hbefore

theorem Alike.rel_step (h : Alike s₁ s₂) (hmatch : Matching s₁ s₂ a₁ a₂)
    (hlen₁ : s₁.imports.length = s₁.daemon.clients.length)
    (hlen₂ : s₂.imports.length = s₂.daemon.clients.length) :
    Option.Rel Alike (step s₁ a₁) (step s₂ a₂) := by
  have hsome : (step s₁ a₁).isSome = (step s₂ a₂).isSome := by
    simp only [step, hmatch.enabled, hmatch.daemon]
    split_ifs
    · simp
    · rfl
  cases hs₁ : step s₁ a₁ with
  | none =>
    rw [hs₁] at hsome
    rw [Option.isSome_eq_false_iff.mp hsome.symm |> Option.isNone_iff_eq_none.mp]
    exact .none
  | some s₁' =>
    rw [hs₁] at hsome
    obtain ⟨s₂', hs₂⟩ := Option.isSome_iff_exists.mp hsome.symm
    rw [hs₂]
    have hst₁ := stepped hs₁
    have hst₂ := stepped hs₂
    refine .some ⟨?_, ?_, ?_, ?_, h.step_imports hmatch hlen₁ hlen₂ hst₁ hst₂⟩
    · have hd := hmatch.daemon
      rw [hst₁.daemon, hst₂.daemon] at hd
      exact Option.some.inj hd
    · rw [hst₁.root, hst₂.root, h.root]
    · rw [hst₁.phase, hst₂.phase, hmatch.phase]
    · rw [hst₁.log, hst₂.log, hmatch.events (by rw [hst₁.daemon]; rfl), h.log]

theorem AlikeImport.keep {m₁ m₂ m₁' m₂' : Import} (h : AlikeImport c m₁ m₂)
    (hmoved : a.Moves policy c c') (hlookup : ∀ i listed, a ≠ .lookup i listed)
    (hsame : m₂' = { m₁' with desc := m₂'.desc }) (hdesc₁ : m₁'.desc = m₁.desc)
    (hdesc₂ : m₂'.desc = m₂.desc) : AlikeImport c' m₁' m₂' := by
  refine ⟨hsame, fun hadmitted => ?_⟩
  rw [hdesc₁, hdesc₂]
  exact h.desc (Action.Moves.admitted hmoved hlookup hadmitted)

theorem Alike.client (h : Alike s₁ s₂) (i : Nat) : s₁.client i = s₂.client i := by
  rw [State.client, State.client, h.daemon]

theorem Alike.busidOf (h : Alike s₁ s₂) (i : Nat) : s₁.busidOf i = s₂.busidOf i := by
  rw [State.busidOf, State.busidOf, h.client]

theorem Alike.field (h : Alike s₁ s₂) (hlen₁ : s₁.imports.length = s₁.daemon.clients.length)
    (hlen₂ : s₂.imports.length = s₂.daemon.clients.length) {γ : Type} {p : Import → γ}
    (hp : ∀ m desc, p { m with desc := desc } = p m) :
    s₁.imports.map p = s₂.imports.map p := by
  have hlen : s₁.imports.length = s₂.imports.length := by rw [hlen₁, hlen₂, h.daemon]
  refine List.ext_getElem (by simp [hlen]) fun i hi₁ hi₂ => ?_
  rw [List.length_map] at hi₁ hi₂
  have hm₁ := List.getElem?_eq_getElem hi₁
  have hm₂ := List.getElem?_eq_getElem hi₂
  have hc := List.getElem?_eq_getElem (hlen₁ ▸ hi₁)
  have hsame := (h.imports i _ _ _ hm₁ hm₂ hc).same
  rw [List.getElem_map, List.getElem_map, hsame]
  exact (hp _ _).symm

theorem opening_of_step {answers : OpenAnswers}
    (h : c.step policy (.openDevice answers) = some c') : c.pc = .opening := by
  cases Client.step_rule h with
  | opened hp | openFailed hp => exact hp

theorem daemonAfter_openDevice_of_not (h : ¬ ∃ c, s.client i = some c ∧ c.pc = .opening)
    (o : Opening) : daemonAfter s (.openDevice i o) = none := by
  by_contra hsome
  obtain ⟨d, hd⟩ := Option.ne_none_iff_exists'.mp hsome
  obtain ⟨c, hc, hstep⟩ := Option.bind_eq_some_iff.mp hd
  obtain ⟨c', hc', -⟩ := Option.map_eq_some_iff.mp hstep
  exact h ⟨c, hc, opening_of_step hc'⟩

section Inputs

variable (h : Alike s₁ s₂) (hlen₁ : s₁.imports.length = s₁.daemon.clients.length)
  (hlen₂ : s₂.imports.length = s₂.daemon.clients.length)
include h hlen₁ hlen₂

theorem Alike.enabled (a : Action) : s₁.enabled a = s₂.enabled a := by
  have hdevlist (i : Nat) (p : Bool → Bool) :
      s₁.imports[i]?.any (fun m => p m.devlist) = s₂.imports[i]?.any fun m => p m.devlist := by
    have hfield := h.field hlen₁ hlen₂ (p := Import.devlist) fun _ _ => rfl
    have hmap := congrArg (fun flags => flags[i]?.any p) hfield
    simpa only [List.getElem?_map, Option.any_map] using hmap
  cases a with
  | connect | shutdown | sweep => simp only [State.enabled, h.phase, h.daemon]
  | request i bytes =>
    simp only [State.enabled, State.awaitsRequest, h.client i]
    exact congrArg _ (hdevlist i (!·))
  | devlist i listed => exact hdevlist i id
  | openDevice i o => simp only [State.enabled, h.root]
  | _ => rfl

theorem Alike.matching (hevents : events s₁ a = events s₂ a)
    (hlookup : ∀ i listed, a ≠ .lookup i listed)
    (himport : ∀ (i : Nat) (m₁ m₂ : Import) (c c' : Client), AlikeImport c m₁ m₂ →
      a.target = some i → a.Moves s₁.daemon.policy c c' →
      importAfter s₂ i m₂ a = { importAfter s₁ i m₁ a with desc := m₂.desc } ∧
        (importAfter s₁ i m₁ a).desc = m₁.desc) : Matching s₁ s₂ a a where
  target := rfl
  connect _ := .rfl
  enabled := h.enabled hlen₁ hlen₂ a
  daemon := by simp only [daemonAfter, h.daemon]
  phase := by
    cases a with
    | shutdown => rfl
    | sweep => simp only [phaseAfter, h.phase]
    | _ => exact h.phase
  events _ := hevents
  imports i m₁ m₂ c c' ha _ _ _ halike hmoved := by
    obtain ⟨hsame, hdesc⟩ := himport i m₁ m₂ c c' halike ha hmoved
    refine halike.keep hmoved hlookup ?_ hdesc ?_ <;> rw [hsame]

theorem Alike.matching_request (i : Nat) (bytes : Bytes) :
    Matching s₁ s₂ (.request i bytes) (.request i bytes) := by
  refine h.matching hlen₁ hlen₂ rfl (by simp) fun j m₁ m₂ c c' halike _ _ => ?_
  rw [halike.same, importAfter, importAfter]
  split_ifs
  · exact ⟨rfl, rfl⟩
  · exact ⟨rfl, rfl⟩

theorem Alike.matching_refuse (i : Nat) : Matching s₁ s₂ (.refuse i) (.refuse i) := by
  refine h.matching hlen₁ hlen₂ rfl (by simp) fun j m₁ m₂ c c' halike _ _ => ?_
  rw [halike.same]
  exact ⟨rfl, rfl⟩

theorem Alike.matching_reply (i : Nat) (ok : Bool) :
    Matching s₁ s₂ (.reply i ok) (.reply i ok) := by
  refine h.matching hlen₁ hlen₂ rfl (by simp) fun j m₁ m₂ c c' halike htarget hmoved => ?_
  cases htarget
  have hstep := step_of_moved rfl hmoved
  have hp : c.pc = .replying := by
    cases Client.step_rule hstep with
    | replied hp | unsent hp => exact hp
  have heq : m₂ = m₁ := by
    rw [halike.same, halike.desc (by rw [hp]; rfl)]
  subst heq
  cases ok with
  | false => exact ⟨rfl, rfl⟩
  | true => exact ⟨rfl, rfl⟩

theorem Alike.matching_devlist (hd : SamePermitted s₁.daemon.policy D₁ D₂) (i : Nat) :
    Matching s₁ s₂ (.devlist i (some D₁)) (.devlist i (some D₂)) where
  target := rfl
  connect _ := by simp
  enabled := h.enabled hlen₁ hlen₂ (.devlist i none)
  daemon := by simp only [daemonAfter, Action.daemon, h.daemon]
  phase := h.phase
  events _ := rfl
  imports j m₁ m₂ c c' ha _ _ _ halike hmoved := by
    refine halike.keep hmoved (by simp) ?_ rfl rfl
    rw [halike.same, importAfter, importAfter, ← h.daemon, hd.devlist]

end Inputs

theorem Alike.matching_lookup (h : Alike s₁ s₂) (hd : SamePermitted s₁.daemon.policy D₁ D₂)
    (hr : serve.ReachableBy (Over D₁) s₁) (i : Nat) :
    Matching s₁ s₂ (.lookup i (some D₁)) (.lookup i (some D₂)) where
  target := rfl
  connect _ := by simp
  enabled := rfl
  daemon := by
    simp only [daemonAfter, Action.daemon, Option.map_some, ← h.daemon]
    change (s₁.daemon.clients[i]?.bind fun c => (c.step _ (.lookup (some (infos D₁)))).map _) =
      s₁.daemon.clients[i]?.bind fun c => (c.step _ (.lookup (some (infos D₂)))).map _
    simp only [hd.step_lookup]
  phase := h.phase
  events _ := rfl
  imports j m₁ m₂ c c' ha _ _ hc halike hmoved := by
    cases ha
    obtain ⟨hvisible, hbusid⟩ := (connVisible hr hc).lookup (step_of_moved rfl hmoved)
    refine ⟨?_, fun hadmitted => ?_⟩
    · rw [halike.same]
      rfl
    · have hfind := hd.visible (hvisible.admitted hadmitted)
      rw [hbusid, ← busidOf_eq hc] at hfind
      change (find D₂ (s₂.busidOf i)).map _ = (find D₁ (s₁.busidOf i)).map _
      rw [← h.busidOf, hfind]

theorem Alike.matching_openDevice (h : Alike s₁ s₂) (hd : SamePermitted s₁.daemon.policy D₁ D₂)
    (hr : serve.ReachableBy (Over D₁) s₁) (i : Nat) (opening : Option DeviceInfo → Opening) :
    Matching s₁ s₂ (Input.action D₁ s₁ (.openDevice i opening))
      (Input.action D₂ s₂ (.openDevice i opening)) := by
  by_cases hopening : ∃ c, s₁.client i = some c ∧ c.pc = .opening
  · obtain ⟨c, hc, hp⟩ := hopening
    have hvisible := (connVisible hr hc).admitted (by rw [hp]; rfl)
    rw [← busidOf_eq hc] at hvisible
    have hfind : find D₁ (s₁.busidOf i) = find D₂ (s₁.busidOf i) := (hd.visible hvisible).symm
    have haction : Input.action D₂ s₂ (.openDevice i opening) = .openDevice i
        ((opening ((find D₁ (s₁.busidOf i)).map (·.info))).over D₂ s₁.root) := by
      rw [Input.action, ← h.busidOf, ← h.root, hfind]
    rw [haction, Input.action]
    generalize opening ((find D₁ (s₁.busidOf i)).map (·.info)) = o
    refine ⟨rfl, by simp, ?_, ?_, h.phase, fun _ => ?_, ?_⟩
    · simp only [State.enabled, Opening.over, h.root]
    · simp only [daemonAfter, Action.daemon, ← h.daemon]
      change (s₁.client i).bind _ = (s₁.client i).bind _
      simp only [hc, Option.bind_some, Client.step, ← busidOf_eq hc, openDevice_over hfind]
    · rw [events, events, ← h.busidOf, reenumerated_over hfind, openDevice_over hfind]
    · intro j m₁ m₂ c c' ha _ _ _ halike hmoved
      cases ha
      have hopened : s₂.opened i (o.over D₂ s₁.root) = s₁.opened i (o.over D₁ s₁.root) := by
        rw [State.opened, State.opened, ← h.busidOf, openDevice_over hfind, openTarget_over hfind]
      have hsnap : s₂.snapshot i (o.over D₂ s₁.root) = s₁.snapshot i (o.over D₁ s₁.root) := by
        rw [State.snapshot, State.snapshot, hopened, ← h.busidOf, openDevice_over hfind]
        rfl
      refine halike.keep hmoved (by simp) ?_ rfl rfl
      rw [importAfter, importAfter, hopened, hsnap, halike.same]
  · have hnone₁ := daemonAfter_openDevice_of_not hopening
      ((opening ((find D₁ (s₁.busidOf i)).map (·.info))).over D₁ s₁.root)
    have hopening₂ : ¬ ∃ c, s₂.client i = some c ∧ c.pc = .opening := by rwa [← h.client]
    have hnone₂ := daemonAfter_openDevice_of_not hopening₂
      ((opening ((find D₂ (s₂.busidOf i)).map (·.info))).over D₂ s₂.root)
    rw [Input.action, Input.action]
    refine ⟨rfl, by simp, ?_, hnone₁.trans hnone₂.symm, h.phase, fun hsome => ?_, ?_⟩
    · simp [State.enabled, Opening.over]
    · rw [hnone₁] at hsome
      cases hsome
    · intro j m₁ m₂ c c' ha _ _ hc _ hmoved
      cases ha
      exact absurd ⟨c, hc, opening_of_step (step_of_moved rfl hmoved)⟩ hopening

theorem releaseInfo_same (hd : SamePermitted s.daemon.policy D₁ D₂)
    (hr : serve.ReachableBy (Over D₁) s) (hc : s.client i = some c) {capture : Capture}
    (hcapture : c.device.capture = some capture) :
    capture.releaseInfo (some (infos D₁)) = capture.releaseInfo (some (infos D₂)) := by
  obtain ⟨hbusid, hvisible⟩ := (connVisible hr hc).capture capture hcapture
  exact releaseInfo_infos (hbusid ▸ (hd.visible hvisible).symm)

theorem Alike.matching_dropDevice (h : Alike s₁ s₂) (hd : SamePermitted s₁.daemon.policy D₁ D₂)
    (hr : serve.ReachableBy (Over D₁) s₁) (i : Nat) :
    Matching s₁ s₂ (.dropDevice i (some (infos D₁))) (.dropDevice i (some (infos D₂))) where
  target := rfl
  connect _ := by simp
  enabled := rfl
  daemon := by
    simp only [daemonAfter, Action.daemon, ← h.daemon]
    change (s₁.client i).bind _ = (s₁.client i).bind _
    cases hc : s₁.client i with
    | none => rfl
    | some c =>
      simp only [Option.bind_some, Daemon.State.dropDevice]
      split
      · rename_i capture byImport hdevice
        have hinfo := releaseInfo_same hd hr hc (by rw [hdevice]; rfl)
        rw [Capture.releaseTarget_eq, Capture.releaseTarget_eq, hinfo]
      · rfl
  phase := h.phase
  events _ := by
    rw [events, events, dropReleases, dropReleases, ← h.client]
    cases hc : s₁.client i with
    | none => rfl
    | some c =>
      cases hdevice : c.device with
      | dropping capture byImport =>
        simp only [Option.map_some, hdevice]
        rw [releaseInfo_same hd hr hc (by rw [hdevice]; rfl)]
      | _ => simp only [Option.map_some, hdevice]
  imports j m₁ m₂ c c' _ _ _ _ halike hmoved := by
    refine halike.keep hmoved (by simp) ?_ rfl rfl
    exact halike.same

theorem Alike.matching_sweep (h : Alike s₁ s₂) (hd : SamePermitted s₁.daemon.policy D₁ D₂)
    (hr : serve.ReachableBy (Over D₁) s₁) :
    Matching s₁ s₂ (.sweep (some (infos D₁))) (.sweep (some (infos D₂))) where
  target := rfl
  connect _ := by simp
  enabled := by simp only [State.enabled, h.phase]
  daemon := congrArg some h.daemon
  phase := by simp only [phaseAfter, h.phase]
  events _ := by
    rw [events, events, sweepReleases, sweepReleases, ← h.phase, ← h.root]
    split
    · rename_i busid busids hphase
      have hvisible := visible_of_sweeping hr hphase List.mem_cons_self
      rw [releaseCapture_infos (hd.visible hvisible).symm]
    · rfl
  imports _ _ _ _ _ ha := by cases ha

theorem Alike.matching_input (h : Alike s₁ s₂) (hd : SamePermitted s₁.daemon.policy D₁ D₂)
    (hr₁ : serve.ReachableBy (Over D₁) s₁) (hr₂ : serve.ReachableBy (Over D₂) s₂)
    (input : Input) : Matching s₁ s₂ (input.action D₁ s₁) (input.action D₂ s₂) := by
  have hlen₁ := lengths hr₁
  have hlen₂ := lengths hr₂
  cases input with
  | request i bytes => exact h.matching_request hlen₁ hlen₂ i bytes
  | devlist i => exact h.matching_devlist hlen₁ hlen₂ hd i
  | lookup i => exact h.matching_lookup hd hr₁ i
  | openDevice i opening => exact h.matching_openDevice hd hr₁ i opening
  | refuse i => exact h.matching_refuse hlen₁ hlen₂ i
  | reply i ok => exact h.matching_reply hlen₁ hlen₂ i ok
  | dropDevice i => exact h.matching_dropDevice hd hr₁ i
  | sweep => exact h.matching_sweep hd hr₁
  | _ =>
    refine h.matching hlen₁ hlen₂ rfl (by simp [Input.action]) fun _ _ _ _ _ halike _ _ => ?_
    exact ⟨halike.same, rfl⟩

structure Seen where
  sent : List Bytes
  attached : HashMap String String
  opened : List (Option DeviceInfo)

def State.seen (s : State) : Seen :=
  ⟨s.imports.map (·.sent), s.daemon.attached, s.imports.map (·.opened)⟩

theorem Alike.seen (h : Alike s₁ s₂) (hlen₁ : s₁.imports.length = s₁.daemon.clients.length)
    (hlen₂ : s₂.imports.length = s₂.daemon.clients.length) : s₁.seen = s₂.seen := by
  have hsent := h.field hlen₁ hlen₂ (p := Import.sent) fun _ _ => rfl
  have hopened := h.field hlen₁ hlen₂ (p := Import.opened) fun _ _ => rfl
  rw [State.seen, State.seen, hsent, hopened, h.daemon]

structure InStep (policy : AccessPolicy) (D₁ D₂ : List Listed) (s₁ s₂ : State) : Prop where
  alike : Alike s₁ s₂
  policy_eq : s₁.daemon.policy = policy
  reach₁ : serve.ReachableBy (Over D₁) s₁
  reach₂ : serve.ReachableBy (Over D₂) s₂

theorem InStep.start (policy : AccessPolicy) (root : Bool) (D₁ D₂ : List Listed) :
    InStep policy D₁ D₂ (.new policy root) (.new policy root) := by
  refine ⟨⟨rfl, rfl, rfl, rfl, fun i m₁ m₂ c hm₁ => ?_⟩, rfl, ?_, ?_⟩
  · cases hm₁
  · exact .start (init_serve policy root)
  · exact .start (init_serve policy root)

theorem InStep.step (hd : SamePermitted policy D₁ D₂) (h : InStep policy D₁ D₂ s₁ s₂)
    (input : Input) :
    Option.Rel (InStep policy D₁ D₂) (stepOn D₁ s₁ input) (stepOn D₂ s₂ input) := by
  obtain ⟨halike, rfl, hr₁, hr₂⟩ := h
  have hrel := halike.rel_step (halike.matching_input hd hr₁ hr₂ input) (lengths hr₁) (lengths hr₂)
  refine rel_of_mem hrel fun s₁' s₂' hs₁ hs₂ halike' => ?_
  refine ⟨halike', (stepped hs₁).policy, ?_, ?_⟩
  · exact .step hr₁ ⟨input, rfl⟩ hs₁
  · exact .step hr₂ ⟨input, rfl⟩ hs₂

/-- Whatever clients do, they cannot tell a denied device from an absent one. -/
theorem denied_as_absent (policy : AccessPolicy) (root : Bool) (D₁ D₂ : List Listed)
    (hd : SamePermitted policy D₁ D₂) (inputs : List Input) :
    (feed (stepOn D₁) (.new policy root) inputs).map State.seen =
      (feed (stepOn D₂) (.new policy root) inputs).map State.seen := by
  have hrel := rel_feed (fun s₁ s₂ input h => InStep.step hd h input)
    (InStep.start policy root D₁ D₂) inputs
  refine map_eq_of_rel (fun s₁ s₂ h => ?_) hrel
  exact h.alike.seen (lengths h.reach₁) (lengths h.reach₂)

namespace Sample

def hidden : DeviceInfo := ⟨"1-3", 0x1050, 0x0407, 0x01300000, 57, ⟨"1", [3], 7⟩, rfl⟩

def probe : List Input :=
  [.connect "tcp:127.0.0.1:50000", .request 0 (OpHeader.new opReqDevlist).encode, .devlist 0,
    .connect "tcp:127.0.0.1:50001", .request 1 (importBytes "1-3"), .lookup 1, .refuse 1,
    .connect "tcp:127.0.0.1:50002", .request 2 (importBytes "1-1"), .lookup 2, .tryAttach 2,
    .openDevice 2 fun _ => opening Daemon.Sample.answers, .reply 2 true]

end Sample

theorem denied_as_absent_probe :
    (feed (stepOn [Sample.listed Sample.hidden, Sample.listed Daemon.Sample.info])
      (.new Sample.allowStick true) Sample.probe).map (fun s => s.seen.opened) =
        some [none, none, some Daemon.Sample.info] ∧
    (feed (stepOn [Sample.listed Sample.hidden, Sample.listed Daemon.Sample.info])
      (.new Sample.allowStick true) Sample.probe).map State.seen =
    (feed (stepOn [Sample.listed Daemon.Sample.info])
      (.new Sample.allowStick true) Sample.probe).map State.seen := by
  refine ⟨by decide, denied_as_absent _ _ _ _ ⟨?_, ?_, ?_⟩ _⟩
  · decide
  · decide
  · decide

end Usbip.Serve
