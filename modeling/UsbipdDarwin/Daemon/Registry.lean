import UsbipdDarwin.Daemon.Ownership
import UsbipdDarwin.Lts.Maps

/-! The `attached` map against the live guards: an entry for every guard, with the
label of the peer that has it, and no entry without one. -/

namespace Usbip.Daemon
open Host Lts

variable {s s' : State} {i : Nat} {c c' : Client}

theorem settle_peer (b : Bool) (c : Client) : (c.settle b).peer = c.peer := by
  unfold Client.settle
  split
  · split_ifs <;> rfl
  · rfl

theorem Client.step_peer {policy : AccessPolicy} {a : ClientAction}
    (h : c.step policy a = some c') : c'.peer = c.peer := by
  cases step_rule h with
  | unsent | session | leave => exact settle_peer _ _
  | _ => rfl

/-- Connection `i` has the guard of `b` and goes by the label `peer`. -/
def HoldsAs (s : State) (i : Nat) (b peer : String) : Prop :=
  ∃ c, s.clients[i]? = some c ∧ c.pc.guarded = true ∧ c.busid = b ∧ c.peer = peer

theorem holdsAs_set (hc : s.clients[i]? = some c) (hs : s'.clients = s.clients.set i c')
    {j : Nat} {b peer : String} : HoldsAs s' j b peer ↔
      if j = i then c'.pc.guarded = true ∧ c'.busid = b ∧ c'.peer = peer
      else HoldsAs s j b peer := by
  unfold HoldsAs
  rw [hs]
  split_ifs with hj
  · subst hj
    rw [List.getElem?_set_self (lt_length_of_getElem? hc)]
    simp
  · rw [List.getElem?_set_ne (Ne.symm hj)]

theorem holdsAs_of_get (hc : s.clients[i]? = some c) {b peer : String} :
    HoldsAs s i b peer ↔ c.pc.guarded = true ∧ c.busid = b ∧ c.peer = peer := by
  unfold HoldsAs
  rw [hc]
  simp

theorem holdsAs_keep (hc : s.clients[i]? = some c) (hs : s'.clients = s.clients.set i c')
    (hg : c'.pc.guarded = c.pc.guarded) (hb : c.pc.guarded = true → c'.busid = c.busid)
    (hp : c'.peer = c.peer) (j : Nat) (b peer : String) :
    HoldsAs s' j b peer ↔ HoldsAs s j b peer := by
  rw [holdsAs_set hc hs]
  split_ifs with hj
  · subst hj
    rw [holdsAs_of_get hc, hg, hp]
    exact and_congr_right fun h => by rw [hb h]
  · rfl

theorem HoldsAs.holdsGuard {b peer : String} (h : HoldsAs s i b peer) : HoldsGuard s i b := by
  obtain ⟨c, hc, hg, hb, -⟩ := h
  exact ⟨c, hc, hg, hb⟩

theorem lists_step {a : Action} (hr : daemon.Reachable s) (hm : Move s a s')
    (h : Lists s.attached (HoldsAs s)) : Lists s'.attached (HoldsAs s') := by
  cases hm with
  | connect peer =>
    refine h.congr fun j b p => ?_
    constructor
    · rintro ⟨c, hc, hg, hb, hp⟩
      rcases getElem?_append_some hc with hc | ⟨-, rfl⟩
      · exact ⟨c, hc, hg, hb, hp⟩
      · cases hg
    · rintro ⟨c, hc, hrest⟩
      exact ⟨c, by rw [List.getElem?_append_left (lt_length_of_getElem? hc), hc], hrest⟩
  | client hc hs =>
    have hmoved := Client.step_moved hs
    exact h.congr (holdsAs_keep hc rfl hmoved.guarded hmoved.busid (Client.step_peer hs))
  | busy hc hp => exact h.congr (holdsAs_keep hc rfl (by rw [hp]; rfl) (fun _ => rfl) rfl)
  | dropDevice hc => exact h.congr (holdsAs_keep hc rfl rfl (fun _ => rfl) rfl)
  | @grant i c hc hp hb =>
    refine h.insert (o := i) hb fun j b peer => ?_
    rw [holdsAs_set hc rfl]
    split_ifs with hj
    · subst hj
      simp [holdsAs_of_get hc, hp, ImportPc.guarded, eq_comm]
    · simp [hj]
  | @dropGuard i c hc hp =>
    have hheld : HoldsGuard s i c.busid := ⟨c, hc, by rw [hp]; rfl, rfl⟩
    refine h.erase (o := i) ?_ ?_ fun j b peer => ?_
    · intro b peer ho
      exact ho.holdsGuard.busid_unique hheld
    · intro j peer ho
      exact (guardsOk hr).claimed.unique j i c.busid ho.holdsGuard hheld
    · rw [holdsAs_set hc rfl]
      split_ifs with hj
      · simp [hj, ImportPc.guarded]
      · simp [hj]

theorem lists_attached (h : daemon.Reachable s) : Lists s.attached (HoldsAs s) := by
  refine System.ReachableBy.invariant (I := fun s => Lists s.attached (HoldsAs s)) h ?_ ?_
  · rintro s ⟨policy, rfl⟩ b peer
    simp [State.new, HoldsAs]
  · intro s a s' hr hi _ hs
    exact lists_step hr (step_move hs) hi

def RefusesCleanly (s s' : State) : Prop :=
  ∀ (i : Nat) (c c' : Client), s.clients[i]? = some c → s'.clients[i]? = some c' →
    c.pc ≠ .refused → c'.pc = .refused → s'.attached = s.attached

/-- A connection that ends takes its own entry with it, if it had the guard, and
nothing else. -/
def EndsCleanly (s s' : State) : Prop :=
  ∀ (i : Nat) (c c' : Client), s.clients[i]? = some c → s'.clients[i]? = some c' →
    c.pc ≠ .ended → c'.pc = .ended →
    (∀ b, b ≠ c.busid → s'.attached.lookup b = s.attached.lookup b) ∧
    (c.pc.guarded = true → s'.attached.lookup c.busid = none) ∧
    (c.pc.guarded = false → s'.attached = s.attached)

theorem moved_or_same {j : Nat} {d d' : Client} (hd : s.clients[j]? = some d)
    (hc : s.clients[i]? = some c) (hc' : (s.clients.set j d')[i]? = some c') :
    (c = d ∧ c' = d') ∨ c' = c := by
  rcases getElem?_set_some hc' with ⟨rfl, rfl⟩ | ⟨-, hc'⟩
  · exact .inl ⟨Option.some.inj (hc.symm.trans hd), rfl⟩
  · exact .inr (Option.some.inj (hc'.symm.trans hc))

theorem same_of_append {d : Client} (hc : s.clients[i]? = some c)
    (hc' : (s.clients ++ [d])[i]? = some c') : c' = c := by
  rw [List.getElem?_append_left (lt_length_of_getElem? hc)] at hc'
  exact Option.some.inj (hc'.symm.trans hc)

theorem refusesCleanly {a : Action} (hm : Move s a s') : RefusesCleanly s s' := by
  intro i c c' hc hc' hne href
  cases hm with
  | connect | client | busy | dropDevice => rfl
  | grant hd =>
    rcases moved_or_same hd hc hc' with ⟨-, rfl⟩ | rfl
    · cases href
    · exact absurd href hne
  | dropGuard hd =>
    rcases moved_or_same hd hc hc' with ⟨-, rfl⟩ | rfl
    · cases href
    · exact absurd href hne

theorem endsCleanly {a : Action} (hm : Move s a s') : EndsCleanly s s' := by
  intro i c c' hc hc' hne hend
  -- only `AttachGuard::drop` ends a connection that has a guard
  have hkeep : s'.attached = s.attached → c.pc.guarded = false →
      (∀ b, b ≠ c.busid → s'.attached.lookup b = s.attached.lookup b) ∧
      (c.pc.guarded = true → s'.attached.lookup c.busid = none) ∧
      (c.pc.guarded = false → s'.attached = s.attached) := by
    intro ha hg
    refine ⟨fun _ _ => by rw [ha], fun hg' => ?_, fun _ => ha⟩
    rw [hg] at hg'
    cases hg'
  cases hm with
  | connect =>
    obtain rfl := same_of_append hc hc'
    exact absurd hend hne
  | client hd hs =>
    rcases moved_or_same hd hc hc' with ⟨rfl, rfl⟩ | rfl
    · refine hkeep rfl ?_
      rw [← (Client.step_moved hs).guarded, hend]
      rfl
    · exact absurd hend hne
  | busy hd | grant hd =>
    rcases moved_or_same hd hc hc' with ⟨-, rfl⟩ | rfl
    · cases hend
    · exact absurd hend hne
  | dropDevice hd =>
    rcases moved_or_same hd hc hc' with ⟨rfl, rfl⟩ | rfl
    · exact absurd hend hne
    · exact absurd hend hne
  | dropGuard hd hp =>
    rcases moved_or_same hd hc hc' with ⟨rfl, rfl⟩ | rfl
    · refine ⟨fun b hb => AList.lookup_erase_ne hb, fun _ => AList.lookup_erase .., fun hg => ?_⟩
      rw [hp] at hg
      cases hg
    · exact absurd hend hne

/-- One entry for every busid with a guard, with the label of the one connection
that has it. -/
structure RegistryExact (s : State) : Prop where
  entry_iff : ∀ b, b ∈ s.attached ↔ ∃! i, HoldsGuard s i b
  peer : ∀ (i : Nat) (c : Client), s.clients[i]? = some c → c.pc.guarded = true →
    s.attached.lookup c.busid = some c.peer
  unique : ∀ i j b, HoldsGuard s i b → HoldsGuard s j b → i = j

theorem registryExact (h : daemon.Reachable s) : RegistryExact s := by
  have hlists := lists_attached h
  have hunique := (guardsOk h).claimed.unique
  refine ⟨?_, ?_, hunique⟩
  · intro b
    constructor
    · intro hb
      obtain ⟨peer, hl⟩ := Option.isSome_iff_exists.mp (AList.lookup_isSome.mpr hb)
      obtain ⟨i, hi⟩ := (hlists b peer).mp hl
      exact ⟨i, hi.holdsGuard, fun j hj => hunique j i b hj hi.holdsGuard⟩
    · rintro ⟨i, hi, -⟩
      exact (guardsOk h).claimed.listed i b hi
  · intro i c hc hg
    exact (hlists c.busid c.peer).mpr ⟨i, c, hc, hg, rfl, rfl⟩

theorem registry_exact (h : daemon.Reachable s) : RegistryExact s ∧
    ∀ a s', daemon.step s a = some s' → RefusesCleanly s s' ∧ EndsCleanly s s' := by
  refine ⟨registryExact h, ?_⟩
  intro a s' hs
  exact ⟨refusesCleanly (step_move hs), endsCleanly (step_move hs)⟩

/-- A device that one client has while a second import of it is refused, until the first has
hung up and its guard goes. -/
theorem registry_exact_busy : ∃ s s', daemon.Reachable s ∧
    s.attached.lookup "1-1" = some "tcp:a" ∧ s.clients.map (·.pc) = [.unwinding, .refused] ∧
    RegistryExact s ∧ daemon.step s (.dropGuard 0) = some s' ∧
    s'.attached.lookup "1-1" = none := by
  let actions : List Action :=
    [.connect "tcp:a", .connect "tcp:b"] ++ Sample.attach 0 ++ Sample.attach 1 ++
      Sample.serve 0 ++ Sample.hangUp 0 [] ++ [.dropDevice 0 (some [Sample.info])]
  have hrun : (daemon.run (.new .allowAll) actions).map (fun s =>
      (s.attached.lookup "1-1", s.clients.map (·.pc), s.clients.map (·.busid),
        (daemon.step s (.dropGuard 0)).map fun s' => s'.clients.map (·.pc))) =
      some (some "tcp:a", [.unwinding, .refused], ["1-1", "1-1"], some [.ended, .refused]) := by
    decide
  obtain ⟨s, hr, hp⟩ := System.exists_reachable_of_run (init_new _) hrun
  simp only [Prod.mk.injEq, Option.map_eq_some_iff] at hp
  obtain ⟨hlookup, hpcs, hbusids, s', hstep, hpcs'⟩ := hp
  obtain ⟨hexact, hsteps⟩ := registry_exact hr
  refine ⟨s, s', hr, hlookup, hpcs, hexact, hstep, ?_⟩
  have hfirst {γ : Type} {f : Client → γ} {x y : γ} {cs : List Client}
      (h : cs.map f = [x, y]) : ∃ c, cs[0]? = some c ∧ f c = x := by
    have hget := congrArg (·[0]?) h
    simpa only [List.getElem?_map, List.getElem?_cons_zero, Option.map_eq_some_iff] using hget
  obtain ⟨c, hc, hpc⟩ := hfirst hpcs
  obtain ⟨c₁, hc₁, hbusid⟩ := hfirst hbusids
  obtain rfl : c = c₁ := Option.some.inj (hc.symm.trans hc₁)
  obtain ⟨c', hc', hpc'⟩ := hfirst hpcs'
  have hends := (hsteps _ s' hstep).2 0 c c' hc hc' (by rw [hpc]; decide) hpc'
  rw [← hbusid]
  exact hends.2.1 (by rw [hpc]; rfl)

end Usbip.Daemon
