/-
# `PlayFrame.System.Clients` — from a client to gamesvr and back

The client of `tcpclient` on a connection of connsvr, where the bytes that arrive at one end
are the first of those that were sent at the other.  gamesvr takes the requests of the client
in the order in which it has made them, and the client dispatches replies to it in the order
in which gamesvr has sent them.
-/
import PlayFrame.System.Traffic
import PlayFrame.TcpClient.Requests

namespace PlayFrame

open Connection (clientFraming payloadOf wire WellFormed wire_stuck LastLong)
open ConnStream (payloadsOf)
open ConnSvr (clientFrame)

namespace System

section
variable {codec : Codec} {s start : System} {t : Traffic} {o : Nat} {before m : TcpClient}
  {talk : Exchange} {received r : Bytes} {fs payloads : List Bytes}
  {ok : System → Input → System → Prop}

/-! ## What connsvr cuts off -/

theorem cut_server (h : clientFraming.Cut received fs r) :
    ConnCache.serverFraming.Cut received fs r := by
  induction h with
  | refl => exact .refl _
  | frame _ hready hlow ih =>
      have hhdr : 2 < _ := Nat.lt_of_le_of_lt (by decide : 2 ≤ 4) hready.1
      exact .frame ih ⟨hhdr, hready.2⟩ hlow

theorem cut_wire (hwf : ∀ p ∈ payloads, WellFormed p) (h : clientFraming.Cut received fs r)
    (hpre : received <+: wire payloads) :
    ∃ left, payloads = fs.map payloadOf ++ left ∧ (received = wire payloads → wire left = r) := by
  obtain ⟨rest, hrest⟩ := hpre
  have hall := MsgMgr.wire_cut hwf []
  have hmine := cut_server (h.append (t := rest))
  rw [hrest] at hmine
  rw [List.append_nil] at hall
  have hwhole : received = wire payloads → rest = [] := by
    rintro rfl
    exact List.self_eq_append_right.mp hrest.symm
  rcases hmine.total hall with ⟨gs, hfs, hgs⟩ | ⟨gs, rfl, hgs⟩
  · obtain ⟨done, left, rfl, rfl, rfl⟩ := List.map_eq_append_iff.mp hfs
    have hdone : (done.map clientFrame).map payloadOf = done := by
      rw [List.map_map]
      exact List.map_id _
    refine ⟨left, by rw [hdone], fun he => ?_⟩
    have hflat := hgs.flatten
    rw [List.append_nil, hwhole he, List.append_nil] at hflat
    exact hflat
  · obtain ⟨rfl, hnil⟩ := hgs.stuck (by decide)
    have hdone : (payloads.map clientFrame).map payloadOf = payloads := by
      rw [List.map_map]
      exact List.map_id _
    refine ⟨[], ?_, fun he => ?_⟩
    · rw [List.append_nil, List.append_nil, hdone]
    · rw [hwhole he, List.append_nil] at hnil
      exact hnil.symm

/-! ## The requests -/

/-- **gamesvr takes the requests of a client in order**, on a connection that the client begins
with nothing left to send, and for requests that take more than two bytes.  What it has taken of
the connection, and what is on its way, are the first requests of the client, none left out and
none twice; they are all of them when all bytes have been received and the connection is still
open. -/
theorem requests_taken (hstart : start.Started) (hrun : Traced codec ok start s t)
    (hclient : TcpClient.Run codec before m talk) (hempty : before.connCache.sendBuf = [])
    (hlong : ∀ p ∈ TcpClient.payloads codec talk, 2 < p.length)
    (hpre : (t.streams o).received <+: talk.sent) :
    t.taken o ++ payloadsOf (s.queue o) <+: TcpClient.payloads codec talk ∧
    (∀ fd, s.IsOpen fd o → (t.streams o).received = wire (TcpClient.payloads codec talk) →
      t.taken o ++ payloadsOf (s.queue o) = TcpClient.payloads codec talk) := by
  obtain ⟨-, hk⟩ := hrun.carried hstart
  obtain ⟨last, hexplains, hlast⟩ := hk.explains o
  obtain ⟨fs, r, hcut, hforwarded, hbuf⟩ := hexplains.up
  have hsends := hclient.sends hempty
  have hwf : ∀ p ∈ TcpClient.payloads codec talk, WellFormed p := fun p hp =>
    ⟨List.length_pos_iff.mp (Nat.zero_lt_of_lt (hlong p hp)), hsends.fits p hp⟩
  have hfront : (t.streams o).received <+: wire (TcpClient.payloads codec talk) := by
    rw [← hsends.stream]
    exact hpre.trans (List.prefix_append _ _)
  obtain ⟨left, hsplit, hleft⟩ := cut_wire hwf hcut hfront
  rw [← hk.queue o, hforwarded]
  refine ⟨⟨left, hsplit.symm⟩, fun fd hopen hall => ?_⟩
  obtain ⟨hsome, hserial⟩ := hopen
  obtain ⟨c, hc⟩ := Option.isSome_iff_exists.mp hsome
  obtain ⟨rfl, hstuck⟩ := hbuf c (hlast fd c hc hserial)
  -- a package that is left over would be ready
  have hrest : ∀ p ∈ left, p ∈ TcpClient.payloads codec talk := by
    intro p hp
    rw [hsplit]
    exact List.mem_append_right _ hp
  have hlastLong : LastLong left := by
    intro p hp
    have hmem := hlong p (hrest p (List.mem_of_getLast? hp))
    omega
  obtain ⟨hnil, -⟩ :=
    (wire_stuck (fun p hp => hwf p (hrest p hp)) (hleft hall) hstuck).mpr hlastLong
  rw [hsplit, hnil, List.append_nil]

/-- A client before its first connection. -/
def firstClient : TcpClient where
  freeSeq := 0
  connCache := .new

def zeroArrays : ConnCache.Arrays where
  sendBuf := fun _ => 0
  recvBuf := fun _ => 0

/-- A registration is sent, received in two chunks and taken. -/
theorem requests_taken_five : ∃ s t m talk, Traced headCodec (fun _ _ _ => True) fresh s t ∧
    TcpClient.Run headCodec firstClient m talk ∧
    TcpClient.payloads headCodec talk = [[10, 2, 8, 15]] ∧
    (t.streams 1).received = wire [[10, 2, 8, 15]] ∧
    t.taken 1 ++ payloadsOf (s.queue 1) = [[10, 2, 8, 15]] := by
  have hasked : TcpClient.Run headCodec firstClient _ _ :=
    .request ProtoCs.normalRegReqFieldNumber (.init zeroArrays) rfl
  have hsent := TcpClient.Run.run zeroArrays (.sent 6) .again hasked nofun rfl rfl
  have h₁ : Traced headCodec (fun _ _ _ => True) fresh _ _ :=
    .step acceptFive .start rfl rfl trivial
  have h₂ := h₁.step (sendFive [0, 6, 10]) rfl rfl trivial
  have h₃ := h₂.step (sendFive [2, 8, 15]) rfl rfl trivial
  have h₄ := h₃.step (.toGame quietGame) trivial rfl trivial
  obtain ⟨m, talk, hclient, hpayloads, hbytes⟩ : ∃ m talk,
      TcpClient.Run headCodec firstClient m talk ∧
      TcpClient.payloads headCodec talk = [[10, 2, 8, 15]] ∧ talk.sent = wire [[10, 2, 8, 15]] :=
    ⟨_, _, hsent, rfl, rfl⟩
  obtain ⟨s, t, hrun, hreceived, hopen⟩ : ∃ s t,
      Traced headCodec (fun _ _ _ => True) fresh s t ∧
        (t.streams 1).received = wire [[10, 2, 8, 15]] ∧ s.IsOpen 5 1 :=
    ⟨_, _, h₄, rfl, rfl, rfl⟩
  have hpre : (t.streams 1).received <+: talk.sent := by
    rw [hbytes, hreceived]
  have hlong : ∀ p ∈ TcpClient.payloads headCodec talk, 2 < p.length := by
    rw [hpayloads]
    decide
  have htaken := (requests_taken fresh_started hrun hclient rfl hlong hpre).2 5 hopen
  rw [hpayloads] at htaken
  exact ⟨s, t, m, talk, hrun, hclient, hpayloads, hreceived, htaken hreceived⟩

/-- **A client dispatches replies to it in order**, on a connection that it begins with nothing
left to complete.  If no fd is accepted again while something refers to its last connection, and
the replies can be received and parsed, then the messages dispatched are some of the replies, in
order. -/
theorem replies_dispatched (hstart : start.Started) (hrun : Traced codec NoRecycling start s t)
    (hclient : TcpClient.Run codec before m talk) (hempty : before.connCache.recvBuf = [])
    (hpre : talk.received <+: (t.streams o).written)
    (hlegible : ∀ p ∈ t.replied o, MsgMgr.Sendable (codec.parseFromArray .cs) p) :
    ∃ replies : List Bytes, replies.Sublist (t.replied o) ∧
      talk.dispatched.map some = replies.map (codec.parseFromArray .cs) := by
  obtain ⟨-, hk⟩ := hrun.carried hstart
  obtain ⟨payloads, hsub, hprefix, -⟩ := (hk.any o).down
  obtain ⟨-, -, hanswers⟩ := hrun.answers hstart
  obtain ⟨done, hreplied, hpassed⟩ := hanswers o
  have hfew : payloads.Sublist (t.replied o) := by
    rw [hreplied]
    exact (hsub.trans hpassed).trans (List.sublist_append_left _ _)
  obtain ⟨heard, left, hstands, hdispatched⟩ := hclient.client.stands hempty
    (fun p hp => hlegible p (hfew.subset hp)) (hpre.trans hprefix)
  refine ⟨heard, ?_, hdispatched⟩
  have hheard : heard.Sublist payloads := by
    rw [hstands.split]
    exact List.sublist_append_left _ _
  exact hheard.trans hfew

/-- The answer to a registration is dispatched. -/
theorem replies_dispatched_five : ∃ s t m talk, Traced headCodec NoRecycling fresh s t ∧
    TcpClient.Run headCodec firstClient m talk ∧ t.replied 1 = [[10, 2, 8, 16]] ∧
    talk.dispatched ≠ [] ∧
    ∃ replies : List Bytes, replies.Sublist [[10, 2, 8, 16]] ∧
      talk.dispatched.map some = replies.map (headCodec.parseFromArray .cs) := by
  have h₁ : Traced headCodec NoRecycling fresh _ _ :=
    .step acceptFive .start rfl rfl (fun _ _ _ => not_trace_start fresh_started)
  have h₂ := h₁.quiet fresh_started (sendFive [0, 6, 10, 2, 8, 15]) rfl rfl
    (by rintro _ _ _ ⟨⟩; decide)
  have h₃ := h₂.quiet fresh_started (.toGame quietGame) trivial rfl nofun
  have h₄ := h₃.quiet fresh_started (.toConn (.sent 6) true) trivial rfl nofun
  have hheard : TcpClient.Run headCodec firstClient _ _ :=
    .run zeroArrays .again (.data [0, 6, 10, 2, 8, 16]) (.init zeroArrays)
      (by rintro buf ⟨⟩; exact ⟨by decide, by decide⟩) rfl rfl
  obtain ⟨m, talk, hclient, hreceived, hsome⟩ : ∃ m talk,
      TcpClient.Run headCodec firstClient m talk ∧
      talk.received = [0, 6, 10, 2, 8, 16] ∧ talk.dispatched ≠ [] :=
    ⟨_, _, hheard, rfl, by decide⟩
  obtain ⟨s, t, hrun, hreplied, hwritten⟩ : ∃ s t, Traced headCodec NoRecycling fresh s t ∧
      t.replied 1 = [[10, 2, 8, 16]] ∧ (t.streams 1).written = [0, 6, 10, 2, 8, 16] :=
    ⟨_, _, h₄, rfl, rfl⟩
  have hpre : talk.received <+: (t.streams 1).written := by
    rw [hreceived, hwritten]
  have hlegible : ∀ p ∈ t.replied 1, MsgMgr.Sendable (headCodec.parseFromArray .cs) p := by
    intro p hp
    rw [hreplied] at hp
    rw [List.mem_singleton.mp hp]
    exact ⟨by decide, by decide, rfl⟩
  have hdispatched := replies_dispatched fresh_started hrun hclient rfl hpre hlegible
  rw [hreplied] at hdispatched
  exact ⟨s, t, m, talk, hrun, hclient, hreplied, hsome, hdispatched⟩

end

end System

end PlayFrame
