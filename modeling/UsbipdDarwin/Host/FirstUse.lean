import UsbipdDarwin.Host.Usable

/-! Data transfers that meet on first use, against the same transfers one after another. -/

namespace Usbip.Host
open Proto Lts

def CallPc.ensuring : CallPc → Bool
  | .activeConfiguration | .altMap _ | .epLookup _ _ => true
  | pc => pc.opening

/-- How many steps of its own a call has left in `ensure_endpoint`, at the most. -/
def CallPc.stepsLeft : CallPc → Nat
  | .activeConfiguration => 10
  | .altMap _ => 9
  | .epLookup _ _ => 8
  | .ifaceLookup _ _ => 7
  | .claim _ _ => 6
  | .selectAlt _ _ _ => 5
  | .ifaceInsert _ _ _ => 4
  | .openEp _ _ _ => 3
  | .clearHalt _ _ => 2
  | .epInsert _ _ => 1
  | _ => 0

def CallPc.ensured : CallPc → Bool
  | .epWait _ | .epLocked _ | .transferring _ _ | .transferred _ _ => true
  | .done (.ok _) | .done (.error (.transfer _)) | .panicked => true
  | _ => false

section Runs

variable {env : Surroundings} {d : OpenedDevice} {calls : List DataCall} {s : Pool} {t : Nat}

structure FirstUseOk (env : Surroundings) (d : OpenedDevice) (calls : List DataCall) (s : Pool) :
    Prop where
  called : Each (fun t c => ∃ x, calls[t]? = some x ∧ c.1 = .data x.epAddr x.length x.outData)
    s.calls
  accounted : d.Accounted env s.device
  windows : s.Windows
  told : s.Told env d

theorem FirstUseOk.init : FirstUseOk env d calls
    ⟨d, calls.map fun c => (.data c.epAddr c.length c.outData, .activeConfiguration)⟩ := by
  have hcall : ∀ {t : Nat} {c : Call × CallPc}, (calls.map fun c =>
      (Call.data c.epAddr c.length c.outData, CallPc.activeConfiguration))[t]? = some c →
      ∃ x, calls[t]? = some x ∧
        (Call.data x.epAddr x.length x.outData, CallPc.activeConfiguration) = c := by
    intro t c hc
    rw [List.getElem?_map] at hc
    exact Option.map_eq_some_iff.mp hc
  refine ⟨?_, ⟨.refl, fun _ _ hl => .inl hl, fun _ _ hl => .inl hl⟩, ⟨?_, ?_, ?_, ?_⟩, ?_⟩
  · intro t c hc
    obtain ⟨x, hx, rfl⟩ := hcall hc
    exact ⟨x, hx, rfl⟩
  · rintro epAddr i j c c' hi - ⟨-, ho⟩ -
    obtain ⟨x, -, rfl⟩ := hcall hi
    cases ho
  · rintro num i j c c' hi - hclaim -
    obtain ⟨x, -, rfl⟩ := hcall hi
    cases hclaim
  · intro t c hc ho
    obtain ⟨x, -, rfl⟩ := hcall hc
    cases ho
  · intro t c hc num hclaim
    obtain ⟨x, -, rfl⟩ := hcall hc
    cases hclaim
  · intro t c hc
    obtain ⟨x, -, rfl⟩ := hcall hc
    exact ⟨_, _, _, rfl, trivial⟩

theorem firstUseOk (hd : d.NoDangling) (hwalks : env.Walks d)
    (h : (env.firstUse d calls).ReachableBy (fun s a => s.apart a = true) s) :
    FirstUseOk env d calls s := by
  refine h.invariant (I := FirstUseOk env d calls) ?_ ?_
  · rintro s rfl
    exact .init
  · intro s a s' _ hok hapart hstep
    simp only [Surroundings.firstUse] at hstep
    split_ifs at hstep with hans
    cases Pool.step_move hstep with
    | start call => cases hans
    | @advance t call pc a r hc hm =>
      obtain ⟨epAddr, length, outData, rfl, htells⟩ := hok.told t _ hc
      cases hm with
      | data hm =>
        have hgrown := extends_data hm
        have hcalled := hok.called t _ hc
        refine ⟨?_, ?_, ?_, ?_⟩
        · exact hok.called.set hcalled fun _ _ _ _ hold => hold
        · exact accounted_data hok.accounted hm htells
        · exact hok.windows.step hapart hc hm
        · refine hok.told.set ⟨_, _, _, rfl, ?_⟩ ?_
          · exact tells_data hd hwalks hok.accounted hok.windows hok.told hc hans hm htells
          · rintro i c - - ⟨epAddr', length', outData', hcall, hold⟩
            exact ⟨_, _, _, hcall, hold.mono hgrown⟩

theorem usable_of_ensured {dev : OpenedDevice} {pc : CallPc} {epAddr : UInt8}
    (h : pc.Tells env d dev epAddr) (he : pc.ensured = true) : Usable env d epAddr := by
  cases pc with
  | epWait | epLocked | transferring | transferred => exact h.1
  | panicked => exact h
  | done r =>
    cases r with
    | ok => exact h
    | error e =>
      cases e with
      | transfer => exact h
      | _ => cases he
  | _ => cases he

theorem ensured_of_usable {dev : OpenedDevice} {pc : CallPc} {epAddr : UInt8}
    (h : pc.Tells env d dev epAddr) (hu : Usable env d epAddr) :
    pc.ensuring = true ∨ pc.ensured = true := by
  cases pc with
  | epWait | epLocked | transferring | transferred | panicked => exact .inr rfl
  | done r =>
    cases r with
    | ok => exact .inr rfl
    | error e =>
      cases e with
      | transfer => exact .inr rfl
      | _ => exact absurd hu h
  | activeConfiguration | altMap | epLookup => exact .inl rfl
  | ifaceLookup | claim | selectAlt | ifaceInsert | openEp | clearHalt | epInsert =>
    exact .inl rfl
  | _ => exact h.elim

theorem ensuring_step {length : Nat} {outData : Bytes} {pc : CallPc} {epAddr : UInt8}
    (hwalks : env.Walks d) (hc : s.calls[t]? = some (.data epAddr length outData, pc))
    (h : pc.Tells env d s.device epAddr) (he : pc.ensuring = true) :
    ∃ a r, env.answers s (.advance t a) = true ∧
      s.device.callStep t (.data epAddr length outData) pc a = some r ∧
      r.pc.stepsLeft < pc.stepsLeft := by
  have hback : ∀ {h : Nat} {num : UInt8} {use : IfaceUse},
      (∃ kind, use = .ensureEndpoint kind ∧ ResolvesTo env d epAddr num kind) →
      (afterInterface h num use).stepsLeft = 3 := by
    rintro h num use ⟨kind, rfl, -⟩
    rfl
  simp only [OpenedDevice.callStep, OpenedDevice.dataTransferStep]
  cases pc with
  | activeConfiguration =>
    refine ⟨.go, ?_⟩
    simp only [Surroundings.answers, hc]
    cases s.device.activeConfiguration with
    | none => exact ⟨_, trivial, rfl, Nat.le_of_ble_eq_true rfl⟩
    | some cfg => exact ⟨_, trivial, rfl, Nat.le_of_ble_eq_true rfl⟩
  | altMap cfg =>
    refine ⟨.walk (env.order t), ?_⟩
    simp only [Surroundings.answers, hc, beq_self_eq_true, if_pos (hwalks.perm t cfg h)]
    cases endpointKind cfg s.device.altSettings epAddr (env.order t) with
    | ok x => exact ⟨_, trivial, rfl, Nat.le_of_ble_eq_true rfl⟩
    | error e => exact ⟨_, trivial, rfl, Nat.le_of_ble_eq_true rfl⟩
  | epLookup num kind =>
    refine ⟨.go, ?_⟩
    simp only [Surroundings.answers, hc]
    cases s.device.endpoints.lookup epAddr with
    | none => exact ⟨_, trivial, rfl, Nat.le_of_ble_eq_true rfl⟩
    | some entry => exact ⟨_, trivial, rfl, Nat.le_of_ble_eq_true rfl⟩
  | ifaceLookup num use =>
    refine ⟨.go, ?_⟩
    simp only [Surroundings.answers, hc, OpenedDevice.ensureInterfaceStep]
    cases s.device.interfaces.lookup num with
    | none => exact ⟨_, trivial, rfl, Nat.le_of_ble_eq_true rfl⟩
    | some i => exact ⟨_, trivial, rfl, (hback h).trans_lt (Nat.le_of_ble_eq_true rfl)⟩
  | claim num use =>
    cases hclaims : env.claims s num with
    | true =>
      refine ⟨.ok, _, ?_, rfl, Nat.le_of_ble_eq_true rfl⟩
      simp only [Surroundings.answers, hc, hclaims]
    | false =>
      refine ⟨.err, _, ?_, rfl, Nat.le_of_ble_eq_true rfl⟩
      simp only [Surroundings.answers, hc, hclaims, Bool.not_false]
  | selectAlt i num use =>
    refine ⟨.ok, _, ?_, rfl, Nat.le_of_ble_eq_true rfl⟩
    simp only [Surroundings.answers, hc]
  | ifaceInsert i num use =>
    refine ⟨.go, ?_⟩
    simp only [Surroundings.answers, hc, OpenedDevice.ensureInterfaceStep]
    cases s.device.interfaces.lookup num with
    | none => exact ⟨_, trivial, rfl, (hback h.1).trans_lt (Nat.le_of_ble_eq_true rfl)⟩
    | some i' => exact ⟨_, trivial, rfl, (hback h.1).trans_lt (Nat.le_of_ble_eq_true rfl)⟩
  | openEp i num kind =>
    cases hopens : env.opens s epAddr kind with
    | true =>
      refine ⟨.opened 0, _, ?_, rfl, Nat.le_of_ble_eq_true rfl⟩
      simp only [Surroundings.answers, hc, hopens]
    | false =>
      refine ⟨.err, _, ?_, rfl, Nat.le_of_ble_eq_true rfl⟩
      simp only [Surroundings.answers, hc, hopens, Bool.not_false]
  | clearHalt e num =>
    refine ⟨.ok, _, ?_, rfl, Nat.le_of_ble_eq_true rfl⟩
    simp only [Surroundings.answers, hc]
  | epInsert e num =>
    refine ⟨.go, ?_⟩
    simp only [Surroundings.answers, hc]
    cases s.device.endpoints.lookup epAddr with
    | none => exact ⟨_, trivial, rfl, Nat.le_of_ble_eq_true rfl⟩
    | some entry => exact ⟨_, trivial, rfl, Nat.le_of_ble_eq_true rfl⟩
  | _ => cases he

theorem stepsLeft_le (pc : CallPc) : pc.stepsLeft ≤ 10 := by
  cases pc <;> exact Nat.le_of_ble_eq_true rfl

end Runs

namespace Pool

variable {configurations : List Configuration} {active : UInt8} {s₀ s s' : Pool}

/-- While no call goes past a miss that another has passed before it, each `ensure_endpoint`
gets the endpoint that it gets in any serial order of the calls: it has it, or it has a step
to take, of ten at the most, that brings it nearer. -/
theorem first_use_as_serial (h₀ : (system (opened configurations active)).Reachable s₀)
    {env : Surroundings} (hwalks : env.Walks s₀.device) {calls : List DataCall}
    (hs : (env.firstUse s₀.device calls).ReachableBy (fun s a => s.apart a = true) s)
    (hs' : (env.firstUse s₀.device calls).ReachableBy (fun s a => s.serial a = true) s')
    {t : Nat} {c c' : Call × CallPc} (hc : s.calls[t]? = some c) (hc' : s'.calls[t]? = some c')
    (hserial : c'.2.ensured = true) :
    c.2.ensured = true ∨ c.2.stepsLeft ≤ 10 ∧
      ∃ a s₁ c₁, (env.firstUse s₀.device calls).step s (.advance t a) = some s₁ ∧
        s₁.calls[t]? = some c₁ ∧ c₁.2.stepsLeft < c.2.stepsLeft := by
  have hd := (noDangling h₀).1
  have hok := firstUseOk hd hwalks hs
  have hok' := firstUseOk hd hwalks (hs'.mono fun _ _ => apart_of_serial)
  obtain ⟨x, hx, hcall⟩ := hok.called t c hc
  obtain ⟨x', hx', hcall'⟩ := hok'.called t c' hc'
  obtain rfl : x = x' := Option.some.inj (hx.symm.trans hx')
  obtain ⟨epAddr, length, outData, heq, htells⟩ := hok.told t c hc
  obtain ⟨epAddr', length', outData', heq', htells'⟩ := hok'.told t c' hc'
  cases hcall.symm.trans heq
  cases hcall'.symm.trans heq'
  -- the serial run says that a lone call gets the endpoint, which this run cannot deny
  rcases ensured_of_usable htells (usable_of_ensured htells' hserial) with hing | hed
  · right
    obtain ⟨call, pc⟩ := c
    cases heq
    obtain ⟨a, r, hans, hr, hlt⟩ := ensuring_step hwalks hc htells hing
    let c₁ : Call × CallPc := (.data x.epAddr x.length x.outData, r.pc)
    refine ⟨stepsLeft_le pc, a, ⟨r.device, s.calls.set t c₁⟩, c₁, ?_,
      List.getElem?_set_self (lt_length_of_getElem? hc), hlt⟩
    simp only [Surroundings.firstUse, if_pos hans, step, hc, hr, Option.map_some]
    rfl
  · exact .inl hed

namespace Sample

/-- `nusb` gives out whatever is free, and there is one interface to walk over. -/
def willing : Surroundings where
  canClaim := fun _ => true
  canOpen := fun _ _ => true
  order := fun _ => [0]

def twoReads : List DataCall := [⟨0x81, 8, []⟩, ⟨0x81, 8, []⟩]

def firstRead : System Pool Action := willing.firstUse (.opened [single] 1) twoReads

def called : Pool where
  device := .opened [single] 1
  calls := twoReads.map fun c => (.data c.epAddr c.length c.outData, .activeConfiguration)

def resolving (t : Nat) : List Action := [.go, .walk [0]].map (.advance t)

def waiting : List Action := resolving 1 ++ opening 0 ++ caching 0 ++ [.advance 1 .go]

def inTurn : List Action :=
  opening 0 ++ caching 0 ++ finishing 0 ++ resolving 1 ++ [.advance 1 .go]

def together : List Action :=
  resolving 0 ++ resolving 1 ++ [.advance 0 .go, .advance 1 .go, .advance 0 .go, .advance 1 .go,
    .advance 0 .ok, .advance 1 .err]

theorem walks : willing.Walks (.opened [single] 1) where
  perm := by
    rintro t cfg ⟨⟩
    exact List.Perm.refl _
  same := fun _ _ _ => rfl

theorem inTurn_ensured : ∃ s' c', firstRead.ReachableBy (fun s a => s.serial a = true) s' ∧
    s'.calls[1]? = some c' ∧ c'.2.ensured = true := by
  have hrun : (firstRead.replay (fun s a => s.serial a = true) called inTurn).map
      (fun s => s.calls[1]?.map (·.2.ensured)) = some (some true) := by
    decide
  obtain ⟨s', hs', hout⟩ := System.exists_reachableBy_of_replay rfl hrun
  obtain ⟨c', hc', hensured⟩ := Option.map_eq_some_iff.mp hout
  exact ⟨s', c', hs', hc', hensured⟩

end Sample

theorem first_use_as_serial_waiting : ∃ s c,
    Sample.firstRead.ReachableBy (fun s a => s.apart a = true) s ∧ s.calls[1]? = some c ∧
    c.2.ensured = true := by
  have hrun : (Sample.firstRead.replay (fun s a => s.apart a = true) Sample.called
      Sample.waiting).map (fun s => s.calls[1]?.map (·.2.stepsLeft)) = some (some 0) := by
    decide
  obtain ⟨s, hs, hout⟩ := System.exists_reachableBy_of_replay rfl hrun
  obtain ⟨c, hc, hleft⟩ := Option.map_eq_some_iff.mp hout
  obtain ⟨s', c', hs', hc', hserial⟩ := Sample.inTurn_ensured
  have h₀ : (system (opened [Sample.single] 1)).Reachable (opened [Sample.single] 1) := .start rfl
  rcases first_use_as_serial h₀ Sample.walks hs hs' hc hc' hserial with
    hens | ⟨-, a, s₁, c₁, -, -, hlt⟩
  · exact ⟨s, c, hs, hc, hens⟩
  · rw [hleft] at hlt
    exact absurd hlt (Nat.not_lt_zero _)

theorem simultaneous_first_use_refused :
    (∃ s call, Sample.firstRead.Reachable s ∧
      s.calls[1]? = some (call, .done (.error .nusb))) ∧
    ∃ s' c', Sample.firstRead.ReachableBy (fun s a => s.serial a = true) s' ∧
      s'.calls[1]? = some c' ∧ c'.2.ensured = true := by
  have hrun : (Sample.firstRead.run Sample.called Sample.together).map (fun s => s.calls[1]?) =
      some (some (.data 0x81 8 [], .done (.error .nusb))) := rfl
  obtain ⟨s, hs, hout⟩ := System.exists_reachable_of_run rfl hrun
  exact ⟨⟨s, _, hs, hout⟩, Sample.inTurn_ensured⟩

end Pool

end Usbip.Host
