import SynthApi.Model.RewardProgram.Rebate

/-!
# The reward for an invitation

`grantInviteRewardAfterPayment` (`model/user.go`) rewards the inviter of a user who has paid. Every completion of an order
calls it, and calls may run at the same time: what a call has read may be out of date when it claims the reward, so it is
any data here. The claim is a conditional UPDATE whose row lock the transaction keeps to its end.
-/

namespace SynthApi

open Lib Lib.Table List

structure Invitee extends InvitedUser where
  inviteRewardEligibleAt : Int
  inviteRewardClaimed : Bool

structure InviteSite where
  affiliateRewardAfterPayment : Bool
  quotaForInviter : Int
  affiliateRewardMinPayment : ℚ

/-- A call with what its queries find; `fault` is the error of its transaction, if it fails. -/
structure InviteCall where
  tradeNo : String
  topUp : Option TopUpRow
  invitee : Except String Invitee
  /-- An error of this query counts as an inviter that is missing. -/
  inviter : Option Int
  fault : Option String

namespace Invitee

def claimable (k : Int) (u : Invitee) : Bool :=
  decide (u.id = k) && decide (0 < u.inviteRewardEligibleAt) && !u.inviteRewardClaimed

def claim (u : Invitee) : Invitee := { u with inviteRewardClaimed := true }

def reward (quotaForInviter : Int) (u : Invitee) : Invitee := { u with toUserRow := u.invite quotaForInviter }

end Invitee

open Invitee

/-- Whose reward a call claims. -/
def InviteCall.claims (s : InviteSite) (c : InviteCall) : Except String (Option Int) :=
  if s.affiliateRewardAfterPayment = false ∨ s.quotaForInviter ≤ 0 ∨ c.tradeNo = "" then .ok none
  else
    match c.topUp with
    | none => .ok none
    | some t =>
      if t.status ≠ .success ∨ t.money < s.affiliateRewardMinPayment then .ok none
      else
        c.invitee.map fun u =>
          if u.inviterId = 0 ∨ u.inviteRewardEligibleAt = 0 ∨ u.inviteRewardClaimed then none else some u.id

def grantInviteRewardAfterPayment (s : InviteSite) (users : List Invitee) (c : InviteCall) :
    Except String Bool × List Invitee :=
  match c.claims s, c.fault, c.inviter with
  | .error err, _, _ | .ok (some _), some err, _ => (.error err, users)
  | .ok none, _, _ => (.ok false, users)
  | .ok (some k), none, none => (.ok false, updateKey (·.id) k claim users)
  | .ok (some k), none, some i =>
    if users.countP (claimable k) = 1 then
      (.ok true, updateKey (·.id) i (reward s.quotaForInviter) (updateWhere (claimable k) claim users))
    else (.ok false, users)

section Rewards

variable (s : InviteSite) (users : List Invitee) (c : InviteCall)

def inviteStep : List Invitee := (grantInviteRewardAfterPayment s users c).2

/-- The reward that is paid: invitee and inviter. -/
def inviteReward : List (Int × Int) :=
  match (grantInviteRewardAfterPayment s users c).1, c.claims s, c.inviter with
  | .ok true, .ok (some k), some i => [(k, i)]
  | _, _, _ => []

/-- What a call can do: mark rows, or pay the reward of a claimable one. -/
theorem inviteStep_cases :
    inviteReward s users c = [] ∧ (∃ p, inviteStep s users c = updateWhere p claim users) ∨
    ∃ k i, inviteReward s users c = [(k, i)] ∧ (∃ u ∈ users, claimable k u) ∧
      inviteStep s users c = updateKey (·.id) i (reward s.quotaForInviter) (updateWhere (claimable k) claim users) := by
  have hsame : users = updateWhere (fun _ => false) claim users := by simp [updateWhere]
  unfold inviteReward inviteStep grantInviteRewardAfterPayment
  rcases c.claims s with err | _ | k
  · exact .inl ⟨rfl, _, hsame⟩
  · exact .inl ⟨rfl, _, hsame⟩
  rcases c.fault with _ | err
  · rcases c.inviter with _ | i
    · exact .inl ⟨rfl, _, rfl⟩
    · dsimp only
      by_cases h : users.countP (claimable k) = 1
      · rw [if_pos h]
        exact .inr ⟨k, i, rfl, countP_pos_iff.1 (by omega), rfl⟩
      · rw [if_neg h]
        exact .inl ⟨rfl, _, hsame⟩
  · exact .inl ⟨rfl, _, hsame⟩

theorem toUserRow_claim (p : Invitee → Bool) :
    (updateWhere p claim users).map (·.toUserRow) = users.map (·.toUserRow) := by
  rw [updateWhere, map_map]
  exact map_congr_left fun u _ => by dsimp only [Function.comp]; split <;> rfl

/-- **The reward for an invitee is paid at most once**, whatever the calls have read, and nothing else is paid. -/
theorem invite_reward_once (calls : List InviteCall) :
    ((trace (inviteStep s) (inviteReward s) users calls).map (·.1)).Nodup ∧
      (run (inviteStep s) users calls).map (·.toUserRow) =
        (trace (inviteStep s) (inviteReward s) users calls).foldl
          (fun rows r => updateKey (·.id) r.2 (UserRow.invite s.quotaForInviter) rows) (users.map (·.toUserRow)) := by
  refine ⟨?_, run_eq_foldl_trace fun users c => ?_⟩
  · -- the reward of `k` is spent once no row of `k` is claimable
    rw [trace_map]
    refine (trace_once (fun users k => ∀ u ∈ users, claimable k u = false) (fun users c k hs => ?_)
      (fun users c => ?_) (fun users c k hk => ?_) users calls).1
    · rcases inviteStep_cases s users c with ⟨-, p, h⟩ | ⟨j, i, -, -, h⟩ <;> rw [h]
      · grind [updateWhere, claimable, claim]
      · grind [updateKey, updateWhere, claimable, claim, reward, UserRow.invite]
    · rcases inviteStep_cases s users c with ⟨h, -⟩ | ⟨j, i, h, -⟩ <;> simp [h]
    · rcases inviteStep_cases s users c with ⟨h, -⟩ | ⟨j, i, h, ⟨u, hu, hc⟩, h'⟩
      · simp [h] at hk
      · obtain rfl : k = j := by simpa [h] using hk
        refine ⟨fun hs => by simp [hs u hu] at hc, ?_⟩
        rw [h']
        grind [updateKey, updateWhere, claimable, claim, reward, UserRow.invite]
  · rcases inviteStep_cases s users c with ⟨h, p, h'⟩ | ⟨j, i, h, -, h'⟩ <;> rw [h, h']
    · exact toUserRow_claim users p
    · rw [foldl_cons, foldl_nil, ← toUserRow_claim users (claimable j)]
      generalize updateWhere (claimable j) claim users = rows
      simp only [updateKey, updateWhere, map_map]
      exact map_congr_left fun u _ => by dsimp only [Function.comp]; split <;> rfl

end Rewards

end SynthApi
