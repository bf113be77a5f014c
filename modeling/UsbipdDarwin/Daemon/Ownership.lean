import UsbipdDarwin.Daemon.Move
import UsbipdDarwin.Lts.History

/-! Who owns a device. The `AttachGuard` is exclusive per busid, but it goes with
`handle_import`'s scope, and the `OpenedDevice` with the last clone of its `Arc`. -/

namespace Usbip.Daemon
open Host Lts

variable {s : State} {c : Client}

structure GuardsOk (s : State) : Prop where
  claimed : Claimed (· ∈ s.attached) (HoldsGuard s)
  granted : ∀ i b, .granted i b ∈ s.log → .detached i b ∈ s.log ∨ HoldsGuard s i b

theorem guardsOk {C : State → Action → Prop} (h : daemon.ReachableBy C s) : GuardsOk s := by
  refine h.invariant ?_ ?_
  · rintro s ⟨policy, rfl⟩
    have hnone : ∀ i b, ¬ HoldsGuard (.new policy) i b := by
      rintro i b ⟨c, hc, _⟩
      simp [State.new] at hc
    refine ⟨⟨fun i b hi => absurd hi (hnone i b), fun i j b hi => absurd hi (hnone i b)⟩, ?_⟩
    intro i b hg
    simp [State.new] at hg
  · intro s a s' _ hi _ hs
    cases (step_move hs).guards with
    | keep hh ha hl =>
      refine ⟨hi.claimed.mono (fun b hb => ha ▸ hb) fun i b => (hh i b).mp, fun i b hg => ?_⟩
      rw [(hl i b).2, hh]
      exact hi.granted i b ((hl i b).1.mp hg)
    | grant i b peer hb hh ha hl =>
      refine ⟨hi.claimed.claim hb (fun b' => ?_) fun j b' => (hh j b').mp, fun j b' hg => ?_⟩
      · rw [ha, AList.mem_insert]
      · rw [hl] at hg ⊢
        rw [hh]
        rcases List.mem_cons.mp hg with heq | hg
        · cases heq
          exact .inr (.inr ⟨rfl, rfl⟩)
        · exact (hi.granted j b' hg).imp (List.mem_cons_of_mem _) .inl
    | detach i b hheld hh ha hl =>
      refine ⟨hi.claimed.release hheld (fun b' => ?_) fun j b' => (hh j b').mp, fun j b' hg => ?_⟩
      · rw [ha, AList.mem_erase]
      · rw [hl] at hg ⊢
        rw [hh]
        have hg : .granted j b' ∈ s.log := by simpa using hg
        rcases hi.granted j b' hg with hd | hholds
        · exact .inl (List.mem_cons_of_mem _ hd)
        · by_cases hj : j = i
          · subst hj
            obtain rfl := hholds.busid_unique hheld
            exact .inl (List.mem_cons_self ..)
          · exact .inr ⟨hholds, hj⟩

theorem settled {C : State → Action → Prop} (h : daemon.ReachableBy C s) :
    Each (fun _ c => c.Settled) s.clients := by
  refine h.invariant (I := fun s => Each (fun _ c => c.Settled) s.clients) ?_ ?_
  · rintro s ⟨policy, rfl⟩
    exact .nil
  · intro s a s' _ hi _ hs
    have hset : ∀ {i : Nat} {c' : Client}, c'.Settled →
        Each (fun _ c => c.Settled) (s.clients.set i c') := fun hc' => hi.set hc' fun _ _ _ _ => id
    cases step_move hs with
    | connect peer =>
      refine hi.append ?_
      rintro capture ⟨⟩
    | client hc hstep => exact hset ((Client.step_moved hstep).settled (hi _ _ hc))
    | busy hc hp => exact hset ((hi _ _ hc).with_pc (by rw [hp]; rfl) _)
    | grant hc hp => exact hset ((hi _ _ hc).with_pc (by rw [hp]; rfl) _)
    | dropGuard hc hp => exact hset ((hi _ _ hc).with_pc (by rw [hp]; rfl) _)
    | dropDevice =>
      refine hset ?_
      rintro capture ⟨⟩

/-- No guard is dropped while a URB has a clone of the device's `Arc` or runs its `Drop`. -/
def GuardOutlives (s : State) : Action → Prop
  | .dropGuard i => ∀ c ∈ s.clients[i]?, c.urbsOwnDevice = false ∧ c.device.isDropping = false
  | _ => True

instance (s : State) : ∀ a, Decidable (GuardOutlives s a)
  | .dropGuard i => inferInstanceAs (Decidable (∀ c ∈ s.clients[i]?,
      c.urbsOwnDevice = false ∧ c.device.isDropping = false))
  | .connect _ | .client _ _ | .tryAttach _ | .dropDevice _ _ => .isTrue trivial

theorem not_alive_of_settled (h : c.Settled) (ho : c.pc.ownsDevice = false)
    (hu : c.urbsOwnDevice = false) (hd : c.device.isDropping = false) :
    c.device.alive = false := by
  cases hdev : c.device with
  | live capture =>
    have hown := h capture hdev
    rw [ho, hu] at hown
    simp at hown
  | dropping =>
    rw [hdev] at hd
    cases hd
  | _ => rfl

theorem guarded_of_alive (h : daemon.ReachableBy GuardOutlives s) :
    Each (fun _ c => c.device.alive = true → c.pc.guarded = true) s.clients := by
  refine h.invariant
    (I := fun s => Each (fun _ c => c.device.alive = true → c.pc.guarded = true) s.clients) ?_ ?_
  · rintro s ⟨policy, rfl⟩
    exact .nil
  · intro s a s' hr hi hcond hs
    have hset : ∀ {i : Nat} {c' : Client}, (c'.device.alive = true → c'.pc.guarded = true) →
        Each (fun _ c => c.device.alive = true → c.pc.guarded = true) (s.clients.set i c') :=
      fun hc' => hi.set hc' fun _ _ _ _ => id
    cases step_move hs with
    | connect peer =>
      refine hi.append ?_
      rintro ⟨⟩
    | client hc hstep =>
      have hmoved := Client.step_moved hstep
      refine hset fun ha => ?_
      rw [hmoved.guarded]
      exact (hmoved.alive ha).elim (hi _ _ hc) id
    | busy hc hp =>
      refine hset fun ha => ?_
      have hg := hi _ _ hc ha
      rw [hp] at hg
      cases hg
    | grant => exact hset fun _ => rfl
    | dropGuard hc hp =>
      obtain ⟨hu, hd⟩ := hcond _ hc
      have hdead := not_alive_of_settled (settled hr _ _ hc) (by rw [hp]; rfl) hu hd
      refine hset fun ha => ?_
      change _ = true at ha
      rw [hdead] at ha
      cases ha
    | dropDevice =>
      refine hset ?_
      rintro ⟨⟩

/-- While one connection has the guard of a busid, no other one's device of that
busid is alive. -/
def OwnedAlone (s : State) : Prop :=
  ∀ (i j : Nat) (ci cj : Client), s.clients[i]? = some ci → s.clients[j]? = some cj → i ≠ j →
    ci.pc.guarded = true → ci.busid = cj.busid → cj.device.alive = false

/-- A release by `Drop` comes when every other guard of that busid is gone. -/
def ReleasesAlone : Event → List Event → Prop
  | .released j b _, log => ∀ i, i ≠ j → .granted i b ∈ log → .detached i b ∈ log
  | _, _ => True

theorem releasesAlone (h : daemon.ReachableBy GuardOutlives s) :
    Justified ReleasesAlone s.log := by
  refine h.invariant (I := fun s => Justified ReleasesAlone s.log) ?_ ?_
  · rintro s ⟨policy, rfl⟩
    trivial
  · intro s a s' hr hi _ hs
    cases step_move hs with
    | connect | client | busy => exact hi
    | grant => exact hi.cons trivial
    | dropGuard => exact hi.cons trivial
    | @dropDevice j c capture _ listed hc hd =>
      cases htarget : capture.releaseTarget listed with
      | none => simpa [htarget] using hi
      | some target =>
        simp only [Option.map_some, Option.toList_some, List.singleton_append]
        refine hi.cons fun i hne hgranted => ?_
        have hheld : HoldsGuard s j c.busid :=
          ⟨c, hc, guarded_of_alive hr j c hc (by rw [hd]; rfl), rfl⟩
        have hok := guardsOk hr
        rcases hok.granted i c.busid hgranted with hdet | hholds
        · exact hdet
        · exact absurd (hok.claimed.unique i j c.busid hholds hheld) hne

theorem owned_alone (h : daemon.ReachableBy GuardOutlives s) :
    OwnedAlone s ∧ Justified ReleasesAlone s.log := by
  refine ⟨?_, releasesAlone h⟩
  intro i j ci cj hi hj hne hg hb
  refine Bool.eq_false_iff.mpr fun halive => hne ?_
  have hgj := guarded_of_alive h j cj hj halive
  exact (guardsOk h).claimed.unique i j ci.busid ⟨ci, hi, hg, rfl⟩ ⟨cj, hj, hgj, hb.symm⟩

/-- A session that ends with its URB answered; its device goes before its guard, and
the next client is granted the guard then. -/
theorem owned_alone_handed_over : ∃ s, daemon.ReachableBy GuardOutlives s ∧
    s.log = [.granted 1 "1-1", .detached 0 "1-1", .released 0 "1-1" 42, .granted 0 "1-1"] ∧
    OwnedAlone s ∧ Justified ReleasesAlone s.log := by
  let actions : List Action := [.connect "tcp:a", .connect "tcp:b"] ++ Sample.attach 0 ++
    Sample.serve 0 ++ Sample.submit 0 ++
    Sample.session 0 (Session.Sample.controlTransfer 0 ++ Session.Sample.buildReply 0 ++
      Session.Sample.writeReply 0 ++ [.task 0 .remove]) ++
    Sample.hangUp 0 [] ++ [.dropDevice 0 (some [Sample.info]), .dropGuard 0] ++ Sample.attach 1
  have hrun : ((daemon.replay GuardOutlives (.new .allowAll) actions).map fun s => s.log ==
      [.granted 1 "1-1", .detached 0 "1-1", .released 0 "1-1" 42, .granted 0 "1-1"]) =
      some true := by
    decide
  obtain ⟨s, hr, hp⟩ := System.exists_reachableBy_of_replay (init_new _) hrun
  exact ⟨s, hr, beq_iff_eq.mp hp, owned_alone hr⟩

/-- The first client hangs up with a transfer in the blocking pool and its guard
goes at once; the second is granted the device, and the `Drop` that comes with the
end of the transfer re-enumerates it. -/
theorem owned_by_two : (¬ ∀ s, daemon.Reachable s → OwnedAlone s) ∧
    ¬ ∀ s, daemon.Reachable s → Justified ReleasesAlone s.log := by
  let actions : List Action := [.connect "tcp:a", .connect "tcp:b"] ++ Sample.attach 0 ++
    Sample.serve 0 ++ Sample.submit 0 ++ Sample.hangUp 0 [⟨0, 0⟩] ++ [.dropGuard 0] ++
    Sample.attach 1
  constructor
  · intro hall
    have hrun : ((daemon.run (.new .allowAll) actions).map fun s =>
        (s.clients.map fun c => (c.busid, c.pc.guarded, c.device.alive)) ==
          [("1-1", false, true), ("1-1", true, false)]) = some true := by
      decide
    obtain ⟨s, hr, hp⟩ := System.exists_reachable_of_run (init_new _) hrun
    obtain ⟨c₀, _, hclients, h₀, hrest⟩ := List.map_eq_cons_iff.mp (beq_iff_eq.mp hp)
    obtain ⟨c₁, _, rfl, h₁, _⟩ := List.map_eq_cons_iff.mp hrest
    simp only [Prod.mk.injEq] at h₀ h₁
    have hdead := hall s hr 1 0 c₁ c₀ (by rw [hclients]; rfl) (by rw [hclients]; rfl) (by decide)
      h₁.2.1 (h₁.1.trans h₀.1.symm)
    rw [h₀.2.2] at hdead
    cases hdead
  · intro hall
    let last : List Action := Sample.session 0 (Session.Sample.controlTransfer 0) ++
      [.dropDevice 0 (some [Sample.info])]
    have hrun : ((daemon.run (.new .allowAll) (actions ++ last)).map fun s => s.log ==
        [.released 0 "1-1" 42, .granted 1 "1-1", .detached 0 "1-1", .granted 0 "1-1"]) =
        some true := by
      decide
    obtain ⟨s, hr, hp⟩ := System.exists_reachable_of_run (init_new _) hrun
    have hjust := hall s hr
    rw [beq_iff_eq.mp hp] at hjust
    have hdetached := hjust.1 1 (by decide) (by simp)
    simp at hdetached

end Usbip.Daemon
