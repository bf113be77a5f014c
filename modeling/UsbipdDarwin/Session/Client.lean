import UsbipdDarwin.Session.Balance
import UsbipdDarwin.Session.ReplyStream
import UsbipdDarwin.Session.Wire

/-! A session as its client sees it. The history says which replies are out; the
client has nothing but the bytes on the socket and the submits it has sent itself,
and reads the same replies from them, in the same order. -/

namespace Usbip.Session
open Proto Host Lts

variable {s s' : State} {t : Nat} {u u' : Urb}

section Told

def Urb.outcome (u : Urb) : Option Outcome :=
  match u.closure with
  | .returned r => some r
  | _ => none

def submitReply (m : Submit) (r : Outcome) : Reply :=
  .submit m.seqnum ⟨(replyParts m r).1, (replyParts m r).2.1, 0, 0, 0, List.Vector.replicate 8 0⟩
    (replyParts m r).2.2

def unlinkReply (r : Unlink) : Reply := .unlink r.seqnum ⟨0, List.Vector.replicate 24 0⟩

def State.replyOf (s : State) (t : Nat) : Option Reply :=
  s.urbs[t]?.bind fun u => u.outcome.map (submitReply u.msg)

def State.reply (s : State) : Event → Option Reply
  | .retSubmit t _ _ => s.replyOf t
  | .retUnlink r => some (unlinkReply r)
  | _ => none

def State.told (s : State) : List Reply := (s.log.filterMap s.reply).reverse

def State.telling (s : State) : Option Reply :=
  match s.writer with
  | .held (.urb t) => s.replyOf t
  | .held .loop =>
    match s.loop with
    | .writing r _ => some (unlinkReply r)
    | _ => none
  | _ => none

theorem Urb.Answers.outcome_eq {frame : Bytes} (h : u.Answers frame) :
    ∃ r, u.outcome = some r ∧ frame = (submitReply u.msg r).frame := by
  obtain ⟨r, hr, rfl⟩ := h
  refine ⟨r, ?_, rfl⟩
  rw [Urb.outcome, hr]

theorem frame_unlinkReply (r : Unlink) : (unlinkReply r).frame = retUnlinkFrame r := by
  rw [Reply.frame]
  exact List.append_nil _

theorem frame_replyOf {frame : Bytes} (hu : s.urbs[t]? = some u) (h : u.Answers frame) :
    (s.replyOf t).map Reply.frame = some frame := by
  obtain ⟨r, hr, rfl⟩ := h.outcome_eq
  rw [State.replyOf, hu, Option.bind_some, hr]
  rfl

theorem frames_eq_told (h : RepliesOk s) : s.frames = s.told.map Reply.frame := by
  rw [State.frames, State.told, List.map_reverse, List.map_filterMap]
  congr 1
  apply List.filterMap_congr
  intro e he
  cases e with
  | retSubmit t n frame =>
    obtain ⟨u, hu, -, hanswers, -⟩ := h.attributed t n frame he
    exact (frame_replyOf hu hanswers).symm
  | retUnlink r => exact congrArg some (frame_unlinkReply r).symm
  | _ => rfl

theorem partialFrame_eq {C : State → Action → Prop} (h : session.ReachableBy C s) :
    s.channel.partialFrame <+: (s.telling.toList).flatMap Reply.frame := by
  cases hw : s.writer with
  | free =>
    rw [Channel.partialFrame_free hw]
    exact List.nil_prefix
  | poisoned =>
    have hnil : s.channel.partialFrame = [] := by
      simp only [Channel.partialFrame, State.channel, hw]
    rw [hnil]
    exact List.nil_prefix
  | held o =>
    obtain ⟨f, n, ho⟩ := (exclusive h o).mpr hw
    rw [Channel.partialFrame_held hw ho]
    have hreply : ∃ r, s.telling = some r ∧ r.frame = f := by
      cases o with
      | loop =>
        obtain ⟨r, hl, rfl⟩ := writing_of_writes ho
        refine ⟨unlinkReply r, ?_, frame_unlinkReply r⟩
        simp only [State.telling, hw, hl]
      | urb t =>
        obtain ⟨u, hu, hwriting⟩ := Option.bind_eq_some_iff.mp ho
        have hanswers : u.Answers f := ((repliesOk h).consistent t u hu).answers hwriting
        obtain ⟨r, hr, hframe⟩ := Option.map_eq_some_iff.mp (frame_replyOf hu hanswers)
        refine ⟨r, ?_, hframe⟩
        simp only [State.telling, hw, hr]
    obtain ⟨r, hr, rfl⟩ := hreply
    rw [hr, Option.toList_some, List.flatMap_singleton]
    exact List.take_prefix ..

theorem wire_prefix (h : session.ReachableBy (fun s a => SocketOk s a ∧ DropsWhole s a) s) :
    s.told.flatMap Reply.frame <+: s.wire ∧
      s.wire <+: (s.told ++ s.telling.toList).flatMap Reply.frame := by
  have hwire : s.wire = s.told.flatMap Reply.frame ++ s.channel.partialFrame := by
    have hholds : s.wire = s.frames.flatten ++ s.channel.partialFrame := holds_frames h
    rw [hholds, frames_eq_told (repliesOk h), List.flatMap_def]
  rw [hwire, List.flatMap_append]
  exact ⟨List.prefix_append .., (List.prefix_append_right_inj _).mpr (partialFrame_eq h)⟩

end Told

section Client

variable {dirIn : UInt32 → Bool}

theorem clientDispatch_cut {seqnum : UInt32} {ret : RetSubmit} {q : Bytes}
    (hq : q.length < payloadLength dirIn seqnum ret) (payload : Bytes) :
    clientDispatch dirIn (Reply.submit seqnum ret payload).header q = .error .truncated := by
  rw [clientDispatch, Reply.header, UrbHeader.take_encode, UrbHeader.drop_encode,
    UrbHeader.decode_encode, RetSubmit.decode_encode]
  change ((readExact (payloadLength dirIn seqnum ret) q).elim
    (Except.error ClientError.truncated) .ok >>= _) = _
  rw [readExact_eq_none hq]
  rfl

theorem clientTurn_cut {r : Reply} {p : Bytes} (hr : r.Framed dirIn) (hp : p <+: r.frame)
    (hlt : p.length < r.frame.length) :
    clientTurn dirIn p = none ∨ clientTurn dirIn p = some (.error .truncated) := by
  rcases Nat.lt_or_ge p.length urbHeaderSize with hshort | hlong
  · left
    rw [clientTurn, readExact_eq_none hshort]
    rfl
  · have hheader : r.header <+: p := by
      apply List.prefix_of_prefix_length_le (List.prefix_append ..) hp
      rwa [r.length_header]
    obtain ⟨q, rfl⟩ := hheader
    rw [Reply.frame, List.length_append, List.length_append, Nat.add_lt_add_iff_left] at hlt
    cases r with
    | unlink seqnum ret => exact absurd hlt (Nat.not_lt_zero _)
    | submit seqnum ret payload =>
      right
      have hq : q.length < payloadLength dirIn seqnum ret := by
        have hlen : payload.length = payloadLength dirIn seqnum ret := hr
        rwa [← hlen]
      rw [clientTurn, readExact_append (Reply.length_header _), Option.map_some]
      exact congrArg some (clientDispatch_cut hq payload)

theorem client_run_cut {rs : List Reply} (hrs : ∀ r ∈ rs, r.Framed dirIn) {p : Bytes}
    (hp : p <+: rs.flatMap Reply.frame) : ∃ n ≤ rs.length, ∃ left,
      p = (rs.take n).flatMap Reply.frame ++ left ∧
      (client dirIn).run p = ⟨rs.take n, left, ((client dirIn).run left).result⟩ ∧
      (((client dirIn).run left).result = .ok () ∨
        ((client dirIn).run left).result = .error .truncated) ∧
      (left = [] ∧ n = rs.length ∨ ∃ r, rs[n]? = some r ∧ left <+: r.frame ∧
        left.length < r.frame.length) := by
  obtain ⟨n, hn, left, rfl, hleft⟩ := Reader.exists_cut hp
  have hcut : ∀ {r : Reply} {q : Bytes}, r.Framed dirIn → q <+: r.frame →
      q.length < r.frame.length → ∀ b rest, (client dirIn).turn q ≠ some (.ok (b, rest)) := by
    intro r q hr hq hlt b rest hturn
    rcases clientTurn_cut hr hq hlt with hnone | htruncated
    · rw [show (client dirIn).turn q = none from hnone] at hturn
      cases hturn
    · rw [show (client dirIn).turn q = _ from htruncated] at hturn
      cases hturn
  refine ⟨n, hn, left, rfl, (client_reads dirIn).run_cut hcut hrs hleft, ?_, hleft⟩
  rcases hleft with ⟨rfl, -⟩ | ⟨r, hr, hpre, hlt⟩
  · exact .inl (congrArg Transcript.result (Reader.run_of_end (client_reads dirIn).empty))
  · rcases clientTurn_cut (hrs r (List.mem_of_getElem? hr)) hpre hlt with hnone | htruncated
    · exact .inl (congrArg Transcript.result (Reader.run_of_end hnone))
    · exact .inr (congrArg Transcript.result (Reader.run_of_error htruncated))

end Client

/-- The socket reports no error, `nusb` is sound and no abort tears a frame. -/
structure Orderly (s : State) (a : Action) : Prop where
  socket : SocketOk s a
  drops : DropsWhole s a
  transfers : SoundTransfers s a

section Session

variable {sent : List Submit}

theorem closure_of_outcome {o : Outcome} (h : u.outcome = some o) : u.closure = .returned o := by
  unfold Urb.outcome at h
  split at h
  · rename_i hc
    cases h
    exact hc
  · cases h

theorem framed_replyOf (h : session.ReachableBy SoundTransfers s)
    (hsent : s.urbs.map Urb.msg <+: sent) (hnodup : (sent.map Submit.seqnum).Nodup) {r : Reply}
    (hr : s.replyOf t = some r) : r.Framed (dirInOf sent) := by
  obtain ⟨u, hu, hr⟩ := Option.bind_eq_some_iff.mp hr
  obtain ⟨o, ho, rfl⟩ := Option.map_eq_some_iff.mp hr
  have hdelivers := ((deliveryOk h).urbs t u hu).2
  rw [closure_of_outcome ho] at hdelivers
  obtain ⟨c, hmsg, rfl⟩ := hdelivers
  have hmem : c.msg ∈ sent := by
    rw [hmsg]
    exact hsent.subset (List.mem_map_of_mem (List.mem_of_getElem? hu))
  rw [← hmsg]
  exact c.framed (dirInOf_eq hnodup hmem)

theorem framed_told (h : session.ReachableBy SoundTransfers s)
    (hsent : s.urbs.map Urb.msg <+: sent) (hnodup : (sent.map Submit.seqnum).Nodup) :
    ∀ r ∈ s.told ++ s.telling.toList, r.Framed (dirInOf sent) := by
  intro r hr
  rcases List.mem_append.mp hr with hr | hr
  · obtain ⟨e, -, he⟩ := List.mem_filterMap.mp (List.mem_reverse.mp hr)
    cases e with
    | retSubmit t n frame => exact framed_replyOf h hsent hnodup he
    | retUnlink r =>
      cases he
      trivial
    | _ => cases he
  · have htelling : s.telling = some r := Option.mem_toList.mp hr
    unfold State.telling at htelling
    split at htelling
    · exact framed_replyOf h hsent hnodup htelling
    · split at htelling
      · cases htelling
        trivial
      · cases htelling
    · cases htelling

def Reply.answers : Reply → Option UInt32
  | .submit seqnum _ _ => some seqnum
  | .unlink .. => none

def Event.replied : Event → Option Nat
  | .retSubmit t _ _ => some t
  | _ => none

def State.answered (s : State) : List Nat :=
  (s.log.filterMap Event.replied).reverse ++
    match s.writer with
    | .held (.urb t) => [t]
    | _ => []

def State.answers (s : State) (t : Nat) : Option UInt32 := (s.replyOf t).bind Reply.answers

theorem filterMap_answers : (s.told ++ s.telling.toList).filterMap Reply.answers =
    s.answered.filterMap s.answers := by
  rw [List.filterMap_append, State.answered, List.filterMap_append]
  congr 1
  · rw [State.told, List.filterMap_reverse, List.filterMap_filterMap, List.filterMap_reverse,
      List.filterMap_filterMap]
    congr 2
    funext e
    cases e with
    | _ => rfl
  · unfold State.telling
    split
    · rename_i t hw
      rw [hw]
      show (s.replyOf t).toList.filterMap Reply.answers = [t].filterMap s.answers
      rw [List.filterMap_cons, State.answers]
      cases s.replyOf t with
      | none => rfl
      | some r => rfl
    · rename_i hw
      rw [hw]
      split
      · rfl
      · rfl
    · rename_i hne hne'
      split
      · rename_i t hw
        exact absurd hw (hne t)
      · rfl

theorem mem_answers {n : UInt32} (h : s.answers t = some n) :
    (s.urbs.map fun u => u.msg.seqnum)[t]? = some n := by
  obtain ⟨r, hr, hn⟩ := Option.bind_eq_some_iff.mp h
  obtain ⟨u, hu, hr⟩ := Option.bind_eq_some_iff.mp hr
  obtain ⟨o, -, rfl⟩ := Option.map_eq_some_iff.mp hr
  cases hn
  rw [List.getElem?_map, hu]
  rfl

theorem nodup_answered {C : State → Action → Prop} (h : session.ReachableBy C s) :
    s.answered.Nodup := by
  have hlog : (s.log.filterMap Event.replied).Nodup := by
    rw [List.nodup_iff_count_le_one]
    intro t
    have hreplied : (fun e : Event => e.replied == some t) = Event.isReplyOf t := by
      funext e
      cases e with
      | _ => rfl
    rw [List.count_filterMap, hreplied]
    exact (balanceOk h).once t
  have hreverse := List.nodup_reverse.mpr hlog
  unfold State.answered
  split
  · rename_i t hw
    apply hreverse.append (List.nodup_singleton t)
    rw [List.disjoint_singleton]
    intro hmem
    obtain ⟨e, he, hreply⟩ := List.mem_filterMap.mp (List.mem_reverse.mp hmem)
    cases e with
    | retSubmit i n frame =>
      cases hreply
      obtain ⟨u, hu, -, -, hdecided⟩ := (repliesOk h).attributed _ _ _ he
      obtain ⟨f, k, ho⟩ := (exclusive h (.urb t)).mpr hw
      rw [channel_urb hu, Urb.writing] at ho
      split at ho
      · rename_i ht
        rw [Urb.undecided, ht] at hdecided
        cases hdecided
      · cases ho
    | _ => cases hreply
  · rw [List.append_nil]
    exact hreverse

/-- What a client has that has read everything on its socket: the replies of the
history, in their order, and perhaps the one being sent; no submit is answered twice,
and a reply that is not whole yet is known as such. -/
structure Received (s : State) (T : Transcript Reply UInt8 ClientError) : Prop where
  told : s.told <+: T.items
  telling : T.items <+: s.told ++ s.telling.toList
  once : (T.items.filterMap Reply.answers).Nodup
  waits : T.result = .ok () ∨ T.result = .error .truncated
  free : s.writer = .free → T = ⟨s.told, [], .ok ()⟩

theorem nodup_answers {C : State → Action → Prop} (h : session.ReachableBy C s)
    (hsent : s.urbs.map Urb.msg <+: sent) (hnodup : (sent.map Submit.seqnum).Nodup) :
    ((s.told ++ s.telling.toList).filterMap Reply.answers).Nodup := by
  have hseqnums : (s.urbs.map fun u => u.msg.seqnum).Nodup := by
    have hmap : s.urbs.map (fun u => u.msg.seqnum) = (s.urbs.map Urb.msg).map Submit.seqnum := by
      rw [List.map_map]
      rfl
    rw [hmap]
    exact hnodup.sublist (hsent.sublist.map _)
  rw [filterMap_answers]
  refine (nodup_answered h).filterMap fun t t' n ht ht' => ?_
  have hi := mem_answers ht
  have hi' := mem_answers ht'
  exact (List.getElem?_inj (lt_length_of_getElem? hi) hseqnums).mp (hi.trans hi'.symm)

/-- Whatever order URBs complete in and are unlinked, a client that has sent its submits
under distinct seqnums reads from the socket what the history says it was told. -/
theorem received (h : session.ReachableBy Orderly s)
    (hsent : s.urbs.map Urb.msg <+: sent) (hnodup : (sent.map Submit.seqnum).Nodup) :
    Received s ((client (dirInOf sent)).run s.wire) := by
  have hframed := framed_told (h.mono fun _ _ ho => ho.transfers) hsent hnodup
  obtain ⟨hold, hnew⟩ := wire_prefix (h.mono fun _ _ ho => ⟨ho.socket, ho.drops⟩)
  obtain ⟨n, hn, left, hwire, hrun, hresult, hleft⟩ := client_run_cut hframed hnew
  have hle : s.told.length ≤ n := by
    refine Reader.le_of_encodings_prefix (by simp) hleft ?_
    rwa [List.take_left, ← hwire]
  have hitems : ((s.told ++ s.telling.toList).take n) <+: s.told ++ s.telling.toList :=
    List.take_prefix ..
  rw [hrun]
  refine ⟨?_, hitems, ?_, hresult, fun hfree => ?_⟩
  · apply List.prefix_of_prefix_length_le (List.prefix_append ..) hitems
    rw [List.length_take]
    exact Nat.le_min.mpr ⟨hle, by simp⟩
  · exact (nodup_answers h hsent hnodup).sublist (hitems.sublist.filterMap _)
  · have htelling : s.telling = none := by
      rw [State.telling, hfree]
    rw [htelling, Option.toList_none, List.append_nil] at hn hleft ⊢
    obtain rfl : n = s.told.length := Nat.le_antisymm hn hle
    rcases hleft with ⟨rfl, -⟩ | ⟨r, hr, -⟩
    · rw [List.take_length, Reader.run_of_end (client_reads _).empty]
    · rw [List.getElem?_eq_none (Nat.le_refl _)] at hr
      cases hr

end Session

end Usbip.Session
