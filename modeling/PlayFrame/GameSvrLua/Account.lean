/-
# `PlayFrame.GameSvrLua.Account` — the uid of an account

`OnClientLoginReq` makes the uid of a login in two ways: an account that passes `CheckAccount`
is hashed, and any other is read as a number.  What a quick registration tells the client for
its account is a number: it is read back (`toNumber_toString`), and it is never hashed, since
a number begins with a digit and an account with a letter.
-/
import PlayFrame.GameSvrLua.MsgModule
import PlayFrame.GameSvr.QuickReg

namespace PlayFrame

namespace Utils

section
variable {b : UInt8} {account : Bytes}

theorem toString_ne_nil (uid : UInt64) : toString uid ≠ [] := by
  intro h
  exact absurd (List.map_eq_nil_iff.mp h) Nat.toDigits_ne_nil

theorem IsDigit.not_isSpace (h : IsDigit b) : isSpace b = false := by
  have h₁ : ¬ b ≤ 13 := fun hle =>
    absurd (h.1.trans (UInt8.le_iff_toNat_le.mp hle)) (by decide)
  simp [isSpace, h.ne (c := 32) (by decide), h₁]

theorem toNumber_toString (raw uid : UInt64) : toNumber raw (toString uid) = uid := by
  have hdigit : ∀ b ∈ toString uid, IsDigit b := fun b hb => isDigit_of_mem_toString hb
  have hscan : (Lib.scanNat (toString uid)).1 = uid.toNat := by
    have hread : Lib.scanNat (Lib.decimal uid.toNat ++ []) = (uid.toNat, []) :=
      Lib.scanNat_decimal (fun _ h => nomatch h)
    rw [List.append_nil] at hread
    exact congrArg Prod.fst hread
  have hlt := uid.toNat_lt
  cases htext : toString uid with
  | nil => exact absurd htext (toString_ne_nil uid)
  | cons b rest =>
    rw [htext] at hdigit hscan
    have hb := hdigit b List.mem_cons_self
    have hplus : (b :: rest).head? ≠ some 43 := fun h => hb.ne (by decide) (Option.some_inj.mp h)
    have hminus : (b :: rest).head? ≠ some 45 := fun h => hb.ne (by decide) (Option.some_inj.mp h)
    unfold toNumber
    rw [List.dropWhile_cons_of_neg (by rw [hb.not_isSpace]; decide)]
    dsimp only
    unfold readUnsigned
    simp only [hplus, hminus, or_self, if_false, hscan]
    rw [if_neg (by omega), UInt64.ofNat_toNat]

theorem toString_ne_account (uid : UInt64) (h : checkAccount account = 0) :
    toString uid ≠ account := by
  rintro rfl
  exact checkAccount_number (fun b hb => isDigit_of_mem_toString hb) h

end

end Utils

namespace LuaGameSvr

/-- **Accounts and uids are consistent**: a login with the account that `SendOkCsQuickRegRes` tells
the client has the uid that it was called with, and no account that passes `CheckAccount` is
the decimal representation of a uid. -/
theorem login_account_uid :
    (∀ (codec : Codec) (seq uid : UInt64) (password : Bytes), ∃ res : ProtoCs.Credentials,
      Player.sendOkCsQuickRegRes codec seq uid password =
        Player.sendCs codec .connStart
          { head := { cmd := ProtoCs.quickRegResFieldNumber, ret := 0, seq := seq }
            quickRegRes := some res } ∧
      ∀ (s : LuaGameSvr) (msg : ProtoCs.Msg) (connData : ConnData),
        (msg.loginReq.getD {}).account = res.account →
        ∃ args : UInt64 → LoginArgs, (∀ taskId, (args taskId).uid = uid) ∧
          s.onClientLoginReq codec msg (some connData) =
            s.startTask codec .login (fun taskId => .login (args taskId))) ∧
    ∀ account, Utils.checkAccount account = 0 → ∀ uid, Utils.toString uid ≠ account := by
  refine ⟨fun codec seq uid password => ?_, fun account h uid => Utils.toString_ne_account uid h⟩
  refine ⟨⟨Utils.toString uid, password⟩, rfl, fun s msg connData haccount => ?_⟩
  refine ⟨loginArgs s.raw msg connData, fun taskId => ?_, rfl⟩
  have hnumber : ¬ Utils.checkAccount (Utils.toString uid) = 0 :=
    fun h => Utils.toString_ne_account uid h rfl
  rw [loginArgs, haccount]
  exact (if_neg hnumber).trans (Utils.toNumber_toString s.raw uid)

end LuaGameSvr

end PlayFrame
