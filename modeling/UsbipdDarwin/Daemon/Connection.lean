import UsbipdDarwin.Daemon.Devid
import UsbipdDarwin.Session.Client
import UsbipdDarwin.Session.Input

/-! A connection from the first byte to the last. What `handle_import` writes and what its
session writes after it are one stream to the client, which attaches the device exactly
if the daemon has announced it. -/

namespace Usbip.Daemon
open Host Lts

def ImportPc.unreplied : ImportPc → Bool
  | .connected | .requested | .permitted | .refused | .opening | .openFailed | .replying => true
  | .serving | .unwinding | .ended => false

def ImportPc.described : ImportPc → Bool
  | .permitted | .opening | .replying => true
  | _ => false

structure ImportPc.Along (pc pc' : ImportPc) : Prop where
  unreplied : pc'.unreplied = true → pc.unreplied = true
  described : pc'.described = true → pc.described = true
  replying : pc' = .replying → pc = .replying
  serving : pc' = .serving → pc = .serving

theorem ImportPc.Along.refl (pc : ImportPc) : pc.Along pc := ⟨id, id, id, id⟩

theorem ImportPc.Along.last {pc pc' : ImportPc} (h : pc' = .unwinding ∨ pc' = .ended) :
    pc.Along pc' := by
  constructor <;> intro h' <;> rcases h with rfl | rfl <;> cases h'

def ClientAction.advances : ClientAction → Bool
  | .lookup _ | .openDevice _ | .reply true => true
  | _ => false

variable {policy : AccessPolicy} {c c' : Client}

theorem Client.step_along {a : ClientAction} (h : c.step policy a = some c')
    (ha : a.advances = false) : c.pc.Along c'.pc := by
  cases step_rule h with
  | close | openPanic | refused | failed => exact .last (by simp)
  | unlisted | lookup | opened | openFailed | replied => cases ha
  | unsent | leave =>
    rw [(settle_frame _ _).1]
    exact .last (.inl rfl)
  | session =>
    rw [(settle_frame _ _).1]
    exact .refl _
  | request hp busid =>
    rw [hp]
    constructor <;> intro h'
    · rfl
    · cases h'
    · cases h'
    · cases h'

theorem Client.MovedBy.along {a : Action} (h : c.MovedBy policy a c')
    (ha : ∀ i b, a = .client i b → b.advances = false) : c.pc.Along c'.pc := by
  cases h with
  | own hs => exact Client.step_along hs (ha _ _ rfl)
  | attach hp hpc =>
    rw [hp]
    rcases hpc with rfl | rfl
    · constructor <;> intro h' <;> first | rfl | cases h'
    · constructor <;> intro h' <;> first | rfl | cases h'
  | dropGuard => exact .last (.inr rfl)
  | dropDevice => exact .refl _

theorem Client.serving_of_loop {a : Session.Action} (h : c.step policy (.session a) = some c')
    (ha : a.isLoop = true) : c.pc = .serving := by
  simp only [Client.step, ha, Bool.true_and] at h
  split_ifs at h with hne
  simpa using hne

theorem Client.session_of_step {a : ClientAction} (h : c.step policy a = some c')
    (ha : ∀ b, a ≠ .session b) {st : Session.State} (hst : c'.session = some st) :
    c.session = some st ∨ ∃ device, st = .initial device ∧ Session.session.init st := by
  cases step_rule h with
  | opened hp ho =>
    cases hst
    exact .inr ⟨_, rfl, init_of_openDevice ho⟩
  | @session b => exact absurd rfl (ha b)
  | unsent | leave =>
    rw [(settle_frame _ _).2.2.1] at hst
    exact .inl hst
  | _ => exact .inl hst

theorem Client.MovedBy.session_isSome {a : Action} (h : c.MovedBy policy a c')
    (hst : c.session.isSome = true) : c'.session.isSome = true := by
  cases h with
  | attach | dropGuard | dropDevice => exact hst
  | own hs =>
    cases Client.step_rule hs with
    | opened => rfl
    | unsent | leave =>
      rw [(settle_frame _ _).2.2.1]
      exact hst
    | session =>
      rw [(settle_frame _ _).2.2.1]
      rfl
    | _ => exact hst

def Client.wire (c : Client) : Proto.Bytes := (c.session.map fun st => st.wire).getD []

end Usbip.Daemon

namespace Usbip.Serve
open Proto Host Daemon Lts

variable {s s' : State} {policy : AccessPolicy} {m m' : Import} {c c' : Client} {i : Nat}

section Sent

inductive Sent (policy : AccessPolicy) (m : Import) : Prop
  | nothing (hs : m.sent = []) (ha : m.announced = none)
  | listing (listed : Option (List Listed)) (hd : m.devlist = true)
      (hs : m.sent = devlistReply policy listed) (ha : m.announced = none)
  | refusal (hs : m.sent = encodeRepImportErr) (ha : m.announced = none)
  | device (e : ExportedDevice) (hs : m.sent = encodeRepImportOk e) (ha : m.announced = some e)

structure Replied (policy : AccessPolicy) (m : Import) (c : Client) : Prop where
  unreplied : c.pc.unreplied = true → m.sent = [] ∧ m.announced = none
  described : c.pc.described = true → ∃ desc, m.desc = some desc
  replying : c.pc = .replying → ∃ snap, m.snap = some snap
  serving : c.pc = .serving → ∃ e, m.announced = some e
  sent : Sent policy m

theorem Replied.keep (h : Replied policy m c) (hpc : c.pc.Along c'.pc) (hdesc : m'.desc = m.desc)
    (hsnap : m'.snap = m.snap) (hannounced : m'.announced = m.announced)
    (hsent : m'.sent = m.sent) (hdevlist : m.devlist = true → m'.devlist = true) :
    Replied policy m' c' := by
  refine ⟨fun hp => ?_, fun hp => ?_, fun hp => ?_, fun hp => ?_, ?_⟩
  · rw [hsent, hannounced]
    exact h.unreplied (hpc.unreplied hp)
  · rw [hdesc]
    exact h.described (hpc.described hp)
  · rw [hsnap]
    exact h.replying (hpc.replying hp)
  · rw [hannounced]
    exact h.serving (hpc.serving hp)
  · cases h.sent with
    | nothing hs ha => exact .nothing (hsent.trans hs) (hannounced.trans ha)
    | listing listed hd hs ha =>
      exact .listing listed (hdevlist hd) (hsent.trans hs) (hannounced.trans ha)
    | refusal hs ha => exact .refusal (hsent.trans hs) (hannounced.trans ha)
    | device e hs ha => exact .device e (hsent.trans hs) (hannounced.trans ha)

theorem along_of_moved {a : Action} (hmoved : a.Moves policy c c')
    (ha : ∀ j b, a.daemon = some (.client j b) → b.advances = false) : c.pc.Along c'.pc := by
  rcases hmoved with ⟨-, rfl⟩ | ⟨b, hb, hmoved⟩
  · exact .refl _
  · apply hmoved.along
    rintro j b' rfl
    exact ha j b' hb

theorem advances_of_request {j k : Nat} {bytes : Bytes} {b : ClientAction}
    (h : (Action.request j bytes).daemon = some (.client k b)) : b.advances = false := by
  simp only [Action.daemon] at h
  split at h <;> cases h <;> rfl

theorem replied_lookup {listed : Option (List Listed)} (h : Replied policy m c)
    (hc : s.client i = some c)
    (hstep : c.step policy (.lookup (listed.map (·.map (·.info)))) = some c') :
    Replied policy { m with desc := (s.found i listed).map (·.desc) } c' := by
  have hp := Client.requested_of_lookup hstep
  obtain ⟨hsent, hannounced⟩ := h.unreplied (by rw [hp]; rfl)
  have hpc : c'.pc = .ended ∨ c'.pc = .refused ∨ c'.pc = .permitted := by
    generalize listed.map (·.map (·.info)) = devices at hstep
    cases Client.step_rule hstep with
    | unlisted => exact .inl rfl
    | lookup _ devices => exact .inr (Client.decision_eq policy c.busid devices)
  refine ⟨fun _ => ⟨hsent, hannounced⟩, fun hd => ?_, fun hr => ?_, fun hs => ?_,
    .nothing hsent hannounced⟩
  · have hchecked : c'.pc.checked = true := by
      rcases hpc with hpc | hpc | hpc <;> rw [hpc] at hd ⊢ <;> first | rfl | cases hd
    obtain ⟨desc, hdesc, -⟩ := permits_of_lookup hc hstep hchecked
    exact ⟨desc, hdesc⟩
  · rcases hpc with hpc | hpc | hpc <;> rw [hpc] at hr <;> cases hr
  · rcases hpc with hpc | hpc | hpc <;> rw [hpc] at hs <;> cases hs

theorem replied_openDevice {o : Opening} (h : Replied policy m c) (hc : s.client i = some c)
    (hstep : c.step policy (.openDevice o.answers) = some c') :
    Replied policy { m with opened := s.opened i o, snap := s.snapshot i o } c' := by
  generalize hanswers : o.answers = answers at hstep
  cases Client.step_rule hstep with
  | opened hp ho =>
    obtain ⟨hsent, hannounced⟩ := h.unreplied (by rw [hp]; rfl)
    obtain ⟨desc, hdesc⟩ := h.described (by rw [hp]; rfl)
    have hsnap : ∃ snap, s.snapshot i o = some snap := by
      obtain ⟨info, captured, htarget, -⟩ := openDevice_ok ho
      rw [State.snapshot, State.opened, busidOf_eq hc, hanswers, ho, htarget]
      exact ⟨_, rfl⟩
    refine ⟨fun _ => ⟨hsent, hannounced⟩, fun _ => ⟨desc, hdesc⟩, fun _ => hsnap, fun hs => ?_,
      .nothing hsent hannounced⟩
    cases hs
  | openFailed hp =>
    obtain ⟨hsent, hannounced⟩ := h.unreplied (by rw [hp]; rfl)
    refine ⟨fun _ => ⟨hsent, hannounced⟩, fun hd => ?_, fun hr => ?_, fun hs => ?_,
      .nothing hsent hannounced⟩
    · cases hd
    · cases hr
    · cases hs

theorem replied_last {bytes : Bytes} (h : Replied policy m c) (hp : c.pc.unreplied = true)
    (hlast : c'.pc = .unwinding ∨ c'.pc = .ended) (hbytes : m'.sent = m.sent ++ bytes)
    (hannounced : m'.announced = m.announced)
    (hsent : m'.sent = bytes → m'.announced = none → Sent policy m') : Replied policy m' c' := by
  obtain ⟨hnil, hnone⟩ := h.unreplied hp
  refine ⟨fun hu => ?_, fun hd => ?_, fun hr => ?_, fun hs => ?_, hsent ?_ ?_⟩
  · rcases hlast with hpc | hpc <;> rw [hpc] at hu <;> cases hu
  · rcases hlast with hpc | hpc <;> rw [hpc] at hd <;> cases hd
  · rcases hlast with hpc | hpc <;> rw [hpc] at hr <;> cases hr
  · rcases hlast with hpc | hpc <;> rw [hpc] at hs <;> cases hs
  · rw [hbytes, hnil, List.nil_append]
  · rw [hannounced, hnone]

theorem replied_announce (h : Replied policy m c)
    (hstep : c.step policy (.reply true) = some c') :
    Replied policy { m with
      announced := m.record, sent := m.sent ++ (m.record.map encodeRepImportOk).getD [] } c' := by
  cases Client.step_rule hstep with
  | replied hp =>
    obtain ⟨hsent, -⟩ := h.unreplied (by rw [hp]; rfl)
    obtain ⟨desc, hdesc⟩ := h.described (by rw [hp]; rfl)
    obtain ⟨snap, hsnap⟩ := h.replying hp
    have hrecord : m.record = some (toExported (importRecord desc snap)) := by
      rw [Import.record, hdesc, hsnap]
      rfl
    rw [hrecord, hsent]
    refine ⟨fun hu => ?_, fun hd => ?_, fun hr => ?_, fun _ => ⟨_, rfl⟩, .device _ rfl rfl⟩
    · cases hu
    · cases hd
    · cases hr

theorem replied {C : State → Action → Prop} (h : serve.ReachableBy C s)
    (hm : s.imports[i]? = some m) (hc : s.client i = some c) : Replied s.daemon.policy m c := by
  refine conns_invariant (P := Replied) h ?_ ?_ hm hc
  · intro policy peer
    refine ⟨fun _ => ⟨rfl, rfl⟩, fun hd => ?_, fun hr => ?_, fun hs => ?_, .nothing rfl rfl⟩
    · cases hd
    · cases hr
    · cases hs
  intro s a s' i m c c' _ _ hst htarget hm hc hmoved hok
  cases a with
  | lookup j listed =>
    cases htarget
    exact replied_lookup hok hc (step_of_moved rfl hmoved)
  | openDevice j o =>
    cases htarget
    exact replied_openDevice hok hc (step_of_moved rfl hmoved)
  | reply j ok =>
    cases htarget
    have hstep := step_of_moved rfl hmoved
    cases ok with
    | false => exact hok.keep (Client.step_along hstep rfl) rfl rfl rfl rfl id
    | true => exact replied_announce hok hstep
  | devlist j listed =>
    cases htarget
    have hdevlist : m.devlist = true := by
      have hen := hst.enabled
      simpa [State.enabled, hm] using hen
    cases Client.step_rule (step_of_moved rfl hmoved) with
    | close hp =>
      exact replied_last hok (by rw [hp]; rfl) (.inr rfl) rfl rfl
        fun hs ha => .listing listed hdevlist hs ha
  | refuse j =>
    cases htarget
    cases Client.step_rule (step_of_moved rfl hmoved) with
    | refused hp => exact replied_last hok (by rw [hp]; rfl) (.inr rfl) rfl rfl .refusal
    | failed hp => exact replied_last hok (by rw [hp]; rfl) (.inl rfl) rfl rfl .refusal
  | request j bytes =>
    have halong := along_of_moved hmoved fun _ _ => advances_of_request
    rw [importAfter]
    split_ifs
    · exact hok.keep halong rfl rfl rfl rfl fun _ => rfl
    · exact hok.keep halong rfl rfl rfl rfl id
  | connect peer | shutdown | sweep listed => cases htarget
  | _ =>
    refine hok.keep (along_of_moved hmoved ?_) rfl rfl rfl rfl id
    intro j b hb
    cases hb <;> rfl

end Sent

section Sessions

/-- A condition on the steps of each connection's session, read as one on those of
`serve`. -/
def OnSession (D : Nat → Session.State → Session.Action → Prop) (s : State) : Action → Prop
  | .session i a => ∀ c ∈ s.client i, ∀ st ∈ c.session, D i st a
  | _ => True

theorem session_of_moved {a : Action} {st' : Session.State} (hmoved : a.Moves policy c c')
    (hst' : c'.session = some st') :
    c.session = some st' ∨ (∃ device, st' = .initial device ∧ Session.session.init st') ∨
      ∃ j b st, a = .session j b ∧ c.session = some st ∧ Session.step st b = some st' ∧
        (b.isLoop = true → c.pc = .serving) := by
  rcases hmoved with ⟨-, rfl⟩ | ⟨b, hb, hmoved⟩
  · exact .inl hst'
  · cases hmoved with
    | attach | dropGuard | dropDevice => exact .inl hst'
    | @own j b _ hs =>
      by_cases hsession : ∃ x, b = .session x
      · obtain ⟨x, rfl⟩ := hsession
        have ha : a = .session j x := by
          cases a with
          | request k bytes =>
            simp only [Action.daemon] at hb
            split at hb <;> cases hb
          | _ => cases hb <;> rfl
        have hserving := Client.serving_of_loop hs
        cases Client.step_rule hs with
        | @session _ st _ hst hstep =>
          rw [(settle_frame _ _).2.2.1] at hst'
          cases hst'
          exact .inr (.inr ⟨j, x, st, ha, hst, hstep, hserving⟩)
      · rcases Client.session_of_step hs (fun x hx => hsession ⟨x, hx⟩) hst' with hsame | hinit
        · exact .inl hsame
        · exact .inr (.inl hinit)

theorem session_reachableBy {C : State → Action → Prop}
    {D : Nat → Session.State → Session.Action → Prop} (hC : ∀ s a, C s a → OnSession D s a)
    (h : serve.ReachableBy C s) : ∀ i c st, s.client i = some c → c.session = some st →
      Session.session.ReachableBy (D i) st := by
  refine h.invariant (I := fun s => ∀ i c st, s.client i = some c → c.session = some st →
    Session.session.ReachableBy (D i) st) ?_ ?_
  · rintro s ⟨policy, root, rfl⟩ i c st hc
    cases hc
  · intro s a s' hr hi hcond hs i c' st' hc' hst'
    have hst := stepped hs
    obtain ⟨m', hm'⟩ : ∃ m', s'.imports[i]? = some m' := by
      have hlt := lt_length_of_getElem? hc'
      rw [← lengths (.step hr hcond hs)] at hlt
      exact ⟨_, List.getElem?_eq_getElem hlt⟩
    cases hst.conn (lengths hr) hm' hc' with
    | same _ hc => exact hi i c' st' hc hst'
    | fresh _ _ hc =>
      rw [hc] at hst'
      cases hst'
    | moved htarget _ hc _ hmoved =>
      rcases session_of_moved hmoved hst' with hsame | ⟨device, -, hinit⟩ |
        ⟨j, b, st, rfl, hold, hstep, -⟩
      · exact hi i _ st' hc hsame
      · exact .start hinit
      · cases htarget
        exact .step (hi i _ st hc hold) (hC _ _ hcond _ hc st hold) hstep

theorem loop_of_step {st st' : Session.State} {b : Session.Action} (hurbs : st.urbs = [])
    (h : Session.step st b = some st') : b.isLoop = true := by
  cases Session.step_move h with
  | task hu =>
    rw [hurbs] at hu
    cases hu
  | closure hu =>
    rw [hurbs] at hu
    cases hu
  | loop => rfl

theorem announced_of_importAfter {a : Action} (h : Replied policy m c)
    (hmoved : a.Moves policy c c') (hnone : (importAfter s i m a).announced = none) :
    m.announced = none := by
  cases a with
  | request j bytes =>
    rw [importAfter] at hnone
    split_ifs at hnone
    · exact hnone
    · exact hnone
  | reply j ok =>
    cases ok with
    | false => exact hnone
    | true =>
      cases Client.step_rule (step_of_moved rfl hmoved) with
      | replied hp => exact (h.unreplied (by rw [hp]; rfl)).2
  | _ => exact hnone

theorem untouched {C : State → Action → Prop} (h : serve.ReachableBy C s)
    (hm : s.imports[i]? = some m) (hc : s.client i = some c) : m.announced = none →
      ∀ st, c.session = some st → st.urbs = [] ∧ st.wire = [] := by
  refine conns_invariant (P := fun _ m c => m.announced = none →
    ∀ st, c.session = some st → st.urbs = [] ∧ st.wire = []) h ?_ ?_ hm hc
  · intro policy peer _ st hst
    cases hst
  intro s a s' i m c c' hr _ _ _ hm hc hmoved hok hnone st' hst'
  have hreplied := replied hr hm hc
  have hbefore := announced_of_importAfter hreplied hmoved hnone
  rcases session_of_moved hmoved hst' with hsame | ⟨device, rfl, -⟩ |
    ⟨j, b, st, rfl, hst, hstep, hserving⟩
  · exact hok hbefore st' hsame
  · exact ⟨rfl, rfl⟩
  · obtain ⟨e, he⟩ := hreplied.serving (hserving (loop_of_step (hok hbefore st hst).1 hstep))
    rw [hbefore] at he
    cases he

theorem announced_of_reply {a : Action} (hmoved : a.Moves policy c c')
    (hsome : (importAfter s i m a).announced.isSome = true) :
    m.announced.isSome = true ∨ c.pc = .replying := by
  cases a with
  | request j bytes =>
    rw [importAfter] at hsome
    split_ifs at hsome
    · exact .inl hsome
    · exact .inl hsome
  | reply j ok =>
    cases ok with
    | false => exact .inl hsome
    | true =>
      cases Client.step_rule (step_of_moved rfl hmoved) with
      | replied hp => exact .inr hp
  | _ => exact .inl hsome

theorem Moves.replying {a : Action} (hmoved : a.Moves policy c c') (hp : c'.pc = .replying) :
    c.pc = .replying ∨ c'.session.isSome = true := by
  rcases hmoved with ⟨-, rfl⟩ | ⟨b, hb, hmoved⟩
  · exact .inl hp
  · cases hmoved with
    | attach _ hpc => rcases hpc with rfl | rfl <;> cases hp
    | dropGuard => cases hp
    | dropDevice => exact .inl hp
    | own hs =>
      cases Client.step_rule hs with
      | opened => exact .inr rfl
      | session =>
        rw [(settle_frame _ _).1] at hp
        exact .inl hp
      | unsent | leave =>
        rw [(settle_frame _ _).1] at hp
        cases hp
      | lookup _ devices =>
        have hpc : Client.decision policy c.busid devices = .replying := hp
        rcases Client.decision_eq policy c.busid devices with h | h <;> rw [h] at hpc <;> cases hpc
      | _ => cases hp

theorem session_of_announced {C : State → Action → Prop} (h : serve.ReachableBy C s)
    (hm : s.imports[i]? = some m) (hc : s.client i = some c) :
    m.announced.isSome = true ∨ c.pc = .replying → c.session.isSome = true := by
  refine conns_invariant (P := fun _ m c =>
    m.announced.isSome = true ∨ c.pc = .replying → c.session.isSome = true) h ?_ ?_ hm hc
  · intro policy peer hor
    rcases hor with hsome | hp
    · cases hsome
    · cases hp
  intro s a s' i m c c' _ _ _ _ _ _ hmoved hok hor
  have hpersists : c.session.isSome = true → c'.session.isSome = true := by
    intro hst
    rcases hmoved with ⟨-, rfl⟩ | ⟨b, -, hmoved⟩
    · exact hst
    · exact hmoved.session_isSome hst
  rcases hor with hsome | hp
  · exact hpersists (hok (announced_of_reply hmoved hsome))
  · rcases Moves.replying hmoved hp with hp | hst
    · exact hpersists (hok (.inr hp))
    · exact hst

end Sessions

section Attach

/-- What a client that has asked for a device has when it has read its socket: the devid
it is to use and the replies to its URBs. -/
structure Attached where
  devid : UInt32
  replies : Transcript Session.Reply UInt8 Session.ClientError

/-- A client that has asked for a device reads a header and, unless it tells of an error,
a device record; replies follow. -/
def clientAttach (sent : List Session.Submit) (input : Bytes) : Option Attached :=
  match Session.readExact OpHeader.size input with
  | none => none
  | some (headerBuf, rest) =>
    match OpHeader.decode headerBuf with
    | .error _ => none
    | .ok header =>
      if header.status ≠ 0 then none
      else
        (Session.readExact 312 rest).map fun (record, rest) =>
          ⟨clientDevid (headerBuf ++ record), (Session.client (Session.dirInOf sent)).run rest⟩

variable {sent : List Session.Submit}

theorem clientAttach_nil : clientAttach sent [] = none := rfl

theorem clientAttach_refusal : clientAttach sent encodeRepImportErr = none := rfl

theorem clientAttach_device (e : ExportedDevice) (wire : Bytes) :
    clientAttach sent (encodeRepImportOk e ++ wire) = some ⟨clientDevid (encodeRepImportOk e),
      (Session.client (Session.dirInOf sent)).run wire⟩ := by
  have hlen : (OpHeader.new opRepImport).encode.length = OpHeader.size := rfl
  have hdecode : OpHeader.decode (OpHeader.new opRepImport).encode = .ok (.new opRepImport) := by
    have happend := OpHeader.decode_encode (.new opRepImport) []
    rwa [List.append_nil] at happend
  have hrecord := Session.readExact_append e.length_encodeHeaderOnly wire
  rw [clientAttach, encodeRepImportOk, List.append_assoc, Session.readExact_append hlen]
  simp only [hdecode, hrecord]
  rfl

theorem devidAgrees_of_numbers {port : Port} {snap : UsbDevice} (desc : UsbDevice)
    (h : (snap.busnum, snap.devnum) = deriveBusDev port) :
    DevidAgrees (encodeRepImportOk (toExported (importRecord desc snap)))
      (importRecord desc snap) := by
  obtain ⟨hbusnum, hdevnum⟩ := slot_deriveBusDev port
  rw [← h] at hbusnum hdevnum
  exact devidAgrees_of_slot hbusnum hdevnum

/-- What is asked of the session of a client that writes the requests `rs`. -/
structure Served (rs : List Session.Request) (st : Session.State) (a : Session.Action) : Prop where
  orderly : Session.Orderly st a
  fed : Session.Fed rs st a

/-- Where a client that writes the requests `rs` and the daemon agree. Either nothing is
attached and the session was not touched; or the client has the devid of the port that the
device is plugged into, `urb_loop` reads the client's requests under it, and the client
has exactly the replies of the session. -/
inductive Agreed (rs : List Session.Request) (m : Import) (c : Client) :
    Option Attached → Prop
  | unattached (ha : m.announced = none)
      (hurbs : ∀ st, c.session = some st → st.urbs = [] ∧ st.wire = []) : Agreed rs m c none
  | attached {desc : UsbDevice} {info : DeviceInfo} {devid : UInt32} {st : Session.State}
      {replies : Transcript Session.Reply UInt8 Session.ClientError}
      (ha : m.announced = some (toExported desc)) (ho : m.opened = some info)
      (hdevid : devid = devidOf (deriveBusDev info.port))
      (hread : (∀ r ∈ rs, r.Valid devid) →
        (Session.urbLoop (loopDevid desc)).run (rs.flatMap Session.Request.wire) = ⟨rs, [], .ok ()⟩)
      (hst : c.session = some st) (hreplies : Session.Received st replies) :
      Agreed rs m c (some ⟨devid, replies⟩)

/-- Over any number of connections and any order of their steps, a client that has asked
for a device and the daemon agree on whether it is attached, under which devid, and which
of the client's URBs are answered. -/
theorem client_attaches (rs : Nat → List Session.Request)
    (h : serve.ReachableBy (OnSession fun i => Served (rs i)) s)
    (hm : s.imports[i]? = some m) (hc : s.client i = some c) (hreq : m.devlist = false)
    (hnodup : ((Session.submitsOf (rs i)).map Session.Submit.seqnum).Nodup) :
    Agreed (rs i) m c (clientAttach (Session.submitsOf (rs i)) (m.sent ++ c.wire)) := by
  have hquiet : m.announced = none → c.wire = [] := by
    intro hnone
    rw [Client.wire]
    cases hst : c.session with
    | none => rfl
    | some st => exact (untouched h hm hc hnone st hst).2
  cases (replied h hm hc).sent with
  | nothing hs ha =>
    rw [hs, hquiet ha, List.append_nil, clientAttach_nil]
    exact .unattached ha (untouched h hm hc ha)
  | refusal hs ha =>
    rw [hs, hquiet ha, List.append_nil, clientAttach_refusal]
    exact .unattached ha (untouched h hm hc ha)
  | listing listed hd =>
    rw [hreq] at hd
    cases hd
  | device e hs ha =>
    obtain ⟨-, desc, snap, rfl, info, hinfo, hnumbers⟩ :=
      (numbered h hm hc).announced e ha
    obtain ⟨st, hst⟩ := Option.isSome_iff_exists.mp
      (session_of_announced h hm hc (.inl (by rw [ha]; rfl)))
    have hreach : Session.session.ReachableBy (Served (rs i)) st :=
      session_reachableBy (fun _ _ hcond => hcond) h i c st hc hst
    have hurbs := Session.urbs_prefix (hreach.mono fun _ _ hserved => hserved.fed)
    have hreceived := Session.received (hreach.mono fun _ _ hserved => hserved.orderly) hurbs hnodup
    have hwire : c.wire = st.wire := by
      rw [Client.wire, hst]
      rfl
    have hagrees := devidAgrees_of_numbers desc hnumbers
    rw [hs, hwire, clientAttach_device]
    refine .attached ha hinfo ?_ (hagrees.read (rs i)) hst hreceived
    rw [hagrees.devid, ← hnumbers]
    rfl

instance (D : Nat → Session.State → Session.Action → Prop) [∀ i st a, Decidable (D i st a)]
    (s : State) : (a : Action) → Decidable (OnSession D s a)
  | .session i a => inferInstanceAs (Decidable (∀ c ∈ s.client i, ∀ st ∈ c.session, D i st a))
  | .connect _ | .request .. | .devlist .. | .lookup .. | .tryAttach _ | .openDevice ..
  | .openPanic _ | .refuse _ | .reply .. | .leave _ | .dropGuard _ | .dropDevice .. | .shutdown _
  | .sweep _ => isTrue trivial

namespace Sample

def getDescriptor (seqnum : UInt32) : Session.Submit :=
  { Session.Sample.submit seqnum 0 with
    cmd := ⟨0, 8, 0, -1, 0, ⟨[0x80, 6, 0, 1, 0, 0, 8, 0], rfl⟩⟩ }

def twoRequests (_ : Nat) : List Session.Request :=
  [.submit (getDescriptor 7), .submit (getDescriptor 9)]

def twoReplies : List Session.Action :=
  Session.Sample.accept (getDescriptor 7) ++ Session.Sample.accept (getDescriptor 9) ++
    Session.Sample.handOff 0 ++ [.start, .call .go, .call (.answered (.ok [0xAA, 0xBB])),
      .finish].map (.closure 0) ++ Session.Sample.buildReply 0 ++
    [.task 0 .lockWriter, .task 0 (.write 50), .task 0 .finishWrite] ++
    Session.Sample.handOff 1 ++ Session.Sample.controlTransfer 1 ++
    Session.Sample.buildReply 1 ++ [.task 1 .lockWriter, .task 1 (.write 1)]

def controlOnly : Session.Action → Bool
  | .closure _ (.call (.completed _)) => false
  | _ => true

theorem soundTransfers_of_controlOnly {st : Session.State} {a : Session.Action}
    (h : controlOnly a = true) : Session.SoundTransfers st a := by
  cases a with
  | closure t a =>
    cases a with
    | call a =>
      intro u _
      cases a with
      | completed comp => cases h
      | _ => trivial
    | _ => trivial
  | _ => trivial

def Tidy (i : Nat) (st : Session.State) (a : Session.Action) : Prop :=
  Session.SocketOk st a ∧ Session.DropsWhole st a ∧ controlOnly a = true ∧
    Session.Fed (twoRequests i) st a

instance (i : Nat) (st : Session.State) (a : Session.Action) : Decidable (Tidy i st a) :=
  inferInstanceAs (Decidable (_ ∧ _ ∧ _ ∧ _))

theorem served_of_tidy {a : Action} (h : OnSession Tidy s a) :
    OnSession (fun i => Served (twoRequests i)) s a := by
  cases a with
  | session i a =>
    intro c hc st hst
    obtain ⟨hsocket, hdrops, hcontrol, hfed⟩ := h c hc st hst
    exact ⟨⟨hsocket, hdrops, soundTransfers_of_controlOnly hcontrol⟩, hfed⟩
  | _ => trivial

end Sample

theorem client_attaches_midReply : ∃ s m c,
    serve.ReachableBy (OnSession fun i => Served (Sample.twoRequests i)) s ∧
    s.imports[0]? = some m ∧ s.client 0 = some c ∧ m.announced.isSome = true ∧
    c.wire.length = 51 ∧ Agreed (Sample.twoRequests 0) m c
      (clientAttach (Session.submitsOf (Sample.twoRequests 0)) (m.sent ++ c.wire)) := by
  have hrun : ((serve.replay (OnSession Sample.Tidy) (.new .allowAll true)
      (Sample.importRun ++ Sample.twoReplies.map (.session 0))).map fun s =>
        (s.imports[0]?.map fun m => (m.devlist, m.announced.isSome),
          (s.client 0).map fun c => c.wire.length)) =
      some (some (false, true), some 51) := by
    decide
  obtain ⟨s, hr, hp⟩ := System.exists_reachableBy_of_replay (init_serve _ _) hrun
  obtain ⟨m, hm, hrecord⟩ := Option.map_eq_some_iff.mp (congrArg Prod.fst hp)
  obtain ⟨c, hc, hwire⟩ := Option.map_eq_some_iff.mp (congrArg Prod.snd hp)
  have hs := hr.mono fun s a hcond => Sample.served_of_tidy hcond
  exact ⟨s, m, c, hs, hm, hc, congrArg Prod.snd hrecord, hwire,
    client_attaches _ hs hm hc (congrArg Prod.fst hrecord) (by decide)⟩

end Attach

end Usbip.Serve
