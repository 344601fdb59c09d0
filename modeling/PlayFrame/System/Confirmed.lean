/-
# `PlayFrame.System.Confirmed` — what a client reads about its registration

A client that reads a good response to a registration believes that it has an account.  The
frames that it reads are written by connsvr, of payloads that gamesvr has sent; gamesvr sends
such a payload only for a good response of datasvr (`Backend.Moves.tells`), and datasvr sends
one only when the row is in the table (`GameData.inTable_of_answer`).  So in every run of the
three servers the account is there before the client can read of it, and it stays, whatever
fails in MySQL.
-/
import PlayFrame.System.Cluster

namespace PlayFrame

open DataSvr (SgData Request)
open Connection (wire)

namespace System

/-- What is on its way to connsvr, and what it has passed on, has a property. -/
structure Passes (P : Bytes → Prop) (s : System) (t : Traffic) : Prop where
  queued : ∀ p ∈ s.toConn, P p.1.payload
  passed : ∀ o, ∀ payload ∈ (t.streams o).passed, P payload

section
variable {codec : Codec} {P Q : Bytes → Prop} {s s' start : System} {t : Traffic} {i : Input}

theorem Started.passes (h : start.Started) : start.Passes P {} := by
  obtain ⟨_, _, _, _, _, _, _, _, _, -, -, -, htoConn⟩ := h
  refine ⟨?_, fun _ _ h => absurd h List.not_mem_nil⟩
  rw [htoConn]
  exact fun _ h => absurd h List.not_mem_nil

theorem Passes.mono (h : s.Passes P t) (himp : ∀ payload, P payload → Q payload) :
    s.Passes Q t :=
  ⟨fun p hp => himp _ (h.queued p hp), fun o payload hp => himp _ (h.passed o payload hp)⟩

theorem Passes.step (h : s.Passes P t) (hs : s.step codec i = .ok (some s'))
    (hnew : ∀ p ∈ s'.toConn, p ∈ s.toConn ∨ P p.1.payload) : s'.Passes P (s.traffic t i s') := by
  refine ⟨fun p hp => (hnew p hp).elim (h.queued p) id, ?_⟩
  cases i with
  | event fd isRead ret =>
      simp only [traffic]
      split
      · intro o payload hp
        by_cases ho : o = s.serial fd
        · subst ho
          rw [Traffic.put_self] at hp
          exact h.passed _ payload hp
        · rw [Traffic.put_of_ne _ _ ho] at hp
          exact h.passed o payload hp
      · exact h.passed
  | toConn sendRet ctl =>
      simp only [traffic]
      split
      · exact h.passed
      next msg o' rest hqueue =>
        split
        · intro o payload hp
          by_cases ho : o = s.serial msg.connData.connFd
          · subst ho
            rw [Traffic.put_self] at hp
            rcases List.mem_append.mp hp with hp | hp
            · exact h.passed _ payload hp
            · rw [List.mem_singleton.mp hp]
              exact h.queued (msg, o') (hqueue ▸ List.mem_cons_self)
          · rw [Traffic.put_of_ne _ _ ho] at hp
            exact h.passed o payload hp
        · exact h.passed
  | toGame ret =>
      simp only [traffic]
      split
      · exact h.passed
      · exact h.passed
  | datasvr msg ret => exact h.passed
  | update now => exact h.passed

end

end System

namespace Cluster

/-- The account that a payload confirms is in the table: one that gamesvr has made, without a
name and with the hash of the password in the payload, or one that a client has asked for in a
package that gamesvr has taken.  This one has the uid and the hash of what the client has
submitted and the name in the payload, and the payload tells what was submitted, which runs on
if it fills its array. -/
def Backed (codec : Codec) (t : Traffic) (db : SgData) (payload : Bytes) : Prop :=
  (∃ seq uid password row,
    payload = codec.serialize .cs (LogicQuickReg.quickRegRes seq uid password) ∧
    db.lookup uid = some row ∧ row.passwordHash = Utils.fnv64aHash password ∧
    row.account = none) ∨
  (∃ seq account password row n, ∃ req ∈ t.taken n, ∃ msg,
    payload = codec.serialize .cs (Player.normalRegRes seq account password) ∧
    codec.parseFromArray .cs req = some msg ∧ LogicNormalReg.Told msg account password ∧
    db.lookup (Utils.fnv64aHash (LogicNormalReg.submitted msg).account) = some row ∧
    row.passwordHash = Utils.fnv64aHash (LogicNormalReg.submitted msg).password ∧
    row.account = Request.rowAccount account)

section
variable {codec : Codec} {c c' start : Cluster} {t t' : Traffic} {i : ClusterInput}
  {out : GameOut} {size : Nat} {now : Int} {db db' db₀ : SgData} {payload : Bytes}
  {result : Bytes → Int × Int}

theorem Backed.mono (h : Backed codec t db payload) (hext : db.Extends db')
    (htaken : ∀ n, ∀ req ∈ t.taken n, req ∈ t'.taken n) : Backed codec t' db' payload := by
  rcases h with ⟨seq, uid, password, row, hp, hrow, hhash, hname⟩ |
    ⟨seq, account, password, row, n, req, hreq, msg, hp, hparse, htold, hrow, hhash, hname⟩
  · obtain ⟨row', hrow', hhash', hname'⟩ := hext _ row hrow
    exact Or.inl ⟨seq, uid, password, row', hp, hrow', hhash'.trans hhash, hname'.trans hname⟩
  · obtain ⟨row', hrow', hhash', hname'⟩ := hext _ row hrow
    exact Or.inr ⟨seq, account, password, row', n, req, htaken n req hreq, msg, hp, hparse,
      htold, hrow', hhash'.trans hhash, hname'.trans hname⟩

theorem step_toGame {ret : GameRet} {msg : ConnMsg} {o : Nat} {rest : List (ConnMsg × Nat)}
    (hqueue : c.net.toGame = (msg, o) :: rest) (hstep : Step codec c (.toGame ret) c' out) :
    ∃ game, c.net.game.onConnsvr codec msg ret = .ok (game, out) ∧
      c'.net = ({ c.net with toGame := rest } : System).afterGame o game out := by
  obtain ⟨⟨-, hnet⟩, hback⟩ := hstep
  simp only [System.step, hqueue] at hnet
  obtain ⟨⟨game, out₁⟩, hgame, hnet⟩ := bind_eq_ok.mp hnet
  have hinput : c.backInput (.toGame ret) = some (.connsvr msg ret) := by
    unfold backInput
    rw [hqueue]
    rfl
  rw [hinput] at hback
  have hrun : c.back.Step codec (.connsvr msg ret) c'.back out := hback
  generalize c'.back = g' at hrun
  cases hrun with
  | connsvr msg ret front out hrun =>
      obtain ⟨⟨game', out₂⟩, hgame', hrun⟩ := bind_eq_ok.mp hrun
      cases hrun
      rw [← c.same, hgame] at hgame'
      cases hgame'
      rw [Except.ok.injEq, Option.some.injEq] at hnet
      exact ⟨game, hgame, hnet.symm⟩

theorem step_answer {ret : GameRet} (hstep : Step codec c (.answer ret) c' out) :
    ∃ req res rest game, c.back.answers = (req, res) :: rest ∧
      c.net.game.onDatasvr codec (codec.serialize .ss res) ret = .ok (game, out) ∧
      c'.net = { c.net with
        game := game
        toConn := c.net.toConn ++ System.stamp c.net.owner out.toConnsvr } := by
  obtain ⟨hnet, hback⟩ := hstep
  have hrun : c.back.Step codec (.answer ret) c'.back out := hback
  generalize c'.back = g' at hrun
  cases hrun with
  | answer ret req res rest front out hanswers hrun =>
      obtain ⟨⟨game, out₁⟩, hgame, hrun⟩ := bind_eq_ok.mp hrun
      cases hrun
      have hinput : c.netInput codec (.answer ret) =
          some (.datasvr (codec.serialize .ss res) ret) := by
        unfold netInput
        rw [hanswers]
        rfl
      rw [hinput] at hnet
      obtain ⟨-, hnet⟩ := hnet
      simp only [System.step] at hnet
      rw [← c.same] at hgame
      rw [hgame] at hnet
      replace hnet := Option.some.inj (Except.ok.inj hnet)
      exact ⟨req, res, rest, game, hanswers, hgame, hnet.symm⟩

/-- **What gamesvr sends to connsvr** in a step is what is on its way after it. -/
theorem Step.toConn (hstep : Step codec c i c' out) :
    ∀ p ∈ c'.net.toConn, p ∈ c.net.toConn ∨ p.1 ∈ out.toConnsvr := by
  have hsent : ∀ owner, ∀ p ∈ c.net.toConn ++ System.stamp owner out.toConnsvr,
      p ∈ c.net.toConn ∨ p.1 ∈ out.toConnsvr := by
    intro owner p hp
    refine (List.mem_append.mp hp).imp_right (fun hp => ?_)
    obtain ⟨m, hm, rfl⟩ := List.mem_map.mp hp
    exact hm
  cases i with
  | event fd isRead ret =>
      obtain ⟨⟨-, hnet⟩, -⟩ := hstep
      obtain ⟨r, -, hnet⟩ := bind_eq_ok.mp hnet
      cases r with
      | none => cases hnet
      | some r =>
          rw [Except.ok.injEq, Option.some.injEq] at hnet
          rw [← hnet]
          exact fun p hp => Or.inl hp
  | toConn sendRet ctl =>
      obtain ⟨⟨-, hnet⟩, -⟩ := hstep
      cases hqueue : c.net.toConn with
      | nil =>
          simp only [System.step, hqueue] at hnet
          rw [Except.ok.injEq, Option.some.injEq] at hnet
          rw [← hnet, hqueue]
          exact fun p hp => Or.inl hp
      | cons head rest =>
          obtain ⟨msg, o⟩ := head
          simp only [System.step, hqueue] at hnet
          obtain ⟨⟨conn, bytes⟩, -, hnet⟩ := bind_eq_ok.mp hnet
          rw [Except.ok.injEq, Option.some.injEq] at hnet
          rw [← hnet]
          exact fun p hp => Or.inl (List.mem_cons_of_mem _ hp)
  | toGame ret =>
      cases hqueue : c.net.toGame with
      | nil =>
          obtain ⟨⟨-, hnet⟩, -⟩ := hstep
          simp only [System.step, hqueue] at hnet
          rw [Except.ok.injEq, Option.some.injEq] at hnet
          rw [← hnet]
          exact fun p hp => Or.inl hp
      | cons head rest =>
          obtain ⟨msg, o⟩ := head
          obtain ⟨game, -, hnet⟩ := step_toGame hqueue hstep
          rw [hnet]
          exact hsent _
  | answer ret =>
      obtain ⟨req, res, rest, game, -, -, hnet⟩ := step_answer hstep
      rw [hnet]
      exact hsent _
  | update now =>
      obtain ⟨⟨-, hnet⟩, -⟩ := hstep
      obtain ⟨game, -, hnet⟩ := bind_eq_ok.mp hnet
      cases game with
      | none => cases hnet
      | some game =>
          rw [Except.ok.injEq, Option.some.injEq] at hnet
          rw [← hnet]
          exact fun p hp => Or.inl hp
  | datasvr e =>
      have hnet : c'.net = c.net := hstep.net
      rw [hnet]
      exact fun p hp => Or.inl hp

/-- If a payload says that an account is registered, it is. -/
def Honest (codec : Codec) (result : Bytes → Int × Int) (t : Traffic) (db : SgData)
    (payload : Bytes) : Prop :=
  ProtoCs.RegOk (result payload).1 (result payload).2 → Backed codec t db payload

theorem backed_of_inTable {id : Int} {d : LogicData LogicBody} {m : ConnMsg}
    (hasked : c.Asked codec t)
    (hd : c.back.front.game.logicModule.store.logicDataMap.lookup id = some d)
    (hreg : Registers d) (hconfirms : Confirms codec d m)
    (hin : GameData.InTable c.back.front id d db) : Backed codec t db m.payload := by
  rcases hreg with htype | htype
  · obtain ⟨account, password, haccount, hpassword, hpayload⟩ := hconfirms.1 htype
    obtain ⟨o, account', row, ho, hkeeps, haccount', hrow, hhash, hname⟩ := hin.1 htype
    obtain rfl : account = account' := Except.ok.inj (haccount.symm.trans haccount')
    obtain ⟨o', n, req, hreq, ho', hparse⟩ := hasked id d hd (by rw [htype]; decide)
    obtain rfl : o = o' := Option.some.inj (ho.symm.trans ho')
    exact Or.inr ⟨_, account, password, row, n, req, hreq, o.msg, hpayload, hparse,
      hkeeps.told haccount hpassword, hrow, hhash, hname⟩
  · obtain ⟨password, hpassword, hpayload⟩ := hconfirms.2 htype
    obtain ⟨password', row, hpassword', hrow, hhash, hname⟩ := hin.2 htype
    obtain rfl : password = password' := Except.ok.inj (hpassword.symm.trans hpassword')
    exact Or.inl ⟨_, _, password, row, hpayload, hrow, hhash, hname⟩

theorem Run.honest (hresult : codec.Results result) (hstart : start.Started size now db₀)
    (hrun : Run codec start c t) (hstep : c.Step codec i c' out)
    (hmeets : c.Meets codec i c' out) :
    ∀ m ∈ out.toConnsvr, Honest codec result t c.back.data.db m.payload := by
  have hback := hstep.back
  cases hi : c.backInput i with
  | none =>
      rw [hi] at hback
      rw [hback.2]
      exact fun m hm => absurd hm List.not_mem_nil
  | some j =>
      rw [hi] at hback
      obtain ⟨-, hinv, hgood⟩ := GameData.run_backend hstart.back (fun _ _ h => h) hrun.back
      obtain ⟨-, ⟨-, rfl⟩ | ⟨i', hinput, -, -, -, hmove⟩⟩ :=
        hgood.step hinv hstart.back.front.room.1 hstart.back.front.seeded (fun _ _ h => h) hback
          (hmeets.back j hi)
      · exact fun m hm => absurd hm List.not_mem_nil
      intro m hm
      rcases hmove.tells m hm with
        hplain | ⟨req, answer, ret, msg, d, rfl, hmsg, hok, hd, hreg, hconfirms⟩
      · exact fun hsays => absurd hsays (hplain.not_regOk hresult)
      · cases j with
        | connsvr msg ret => cases hinput
        | update now => cases hinput
        | datasvr e => cases hinput
        | answer ret =>
            obtain ⟨⟨req, res⟩, hhead, heq⟩ := Option.map_eq_some_iff.mp hinput
            cases heq
            have hmem := List.mem_of_head? hhead
            rw [(hgood.answers _ hmem).2.answerMsg, Option.some.injEq] at hmsg
            subst hmsg
            exact fun _ => backed_of_inTable (hrun.asked hstart) hd hreg hconfirms
              (GameData.inTable_of_answer hstart.back hrun.back hmem hok hd (.refl _))

theorem Step.extends (hstep : c.Step codec i c' out) :
    c.back.data.db.Extends c'.back.data.db := by
  have hback := hstep.back
  cases hi : c.backInput i with
  | none =>
      rw [hi] at hback
      rw [hback.1]
      exact .refl _
  | some j =>
      rw [hi] at hback
      exact GameData.Step.extends hback

theorem Run.passes (hresult : codec.Results result) (hstart : start.Started size now db₀)
    (hrun : Run codec start c t) :
    c.net.Passes (Honest codec result t c.back.data.db) t := by
  induction hrun with
  | start => exact hstart.net.passes
  | @step c c' t out i hrun hstep hmeets ih =>
      have hmono : ∀ payload, Honest codec result t c.back.data.db payload →
          Honest codec result (c.traffic codec t i c') c'.back.data.db payload :=
        fun payload h hsays => (h hsays).mono hstep.extends (fun n req => traffic_taken)
      have hsent := hrun.honest hresult hstart hstep hmeets
      have hnew : ∀ p ∈ c'.net.toConn, p ∈ c.net.toConn ∨
          Honest codec result (c.traffic codec t i c') c'.back.data.db p.1.payload :=
        fun p hp => (hstep.toConn p hp).imp_right (fun hp => hmono _ (hsent p.1 hp))
      have hnet := hstep.net
      generalize htraffic : c.traffic codec t i c' = t' at hmono hnew ⊢
      unfold traffic at htraffic
      cases hi : c.netInput codec i with
      | none =>
          simp only [hi] at htraffic
          rw [hi] at hnet
          rw [show c'.net = c.net from hnet, ← htraffic]
          exact ih.mono (htraffic ▸ hmono)
      | some j =>
          simp only [hi] at htraffic
          rw [hi] at hnet
          have hpasses := (ih.mono hmono).step hnet.2 hnew
          rw [htraffic] at hpasses
          exact hpasses

end

section
open GameData (asking registered regReq regCodec accountReq accountRes)
open Backend (calm)

end

end Cluster

end PlayFrame
