import SynthApi.Service.Interleaving

/-!
# Overdrawing a wallet or a token

The balance check and the charge of a pre-consumption are different statements, and `Reserve` charges the wallet without
a check. Two requests that both read a balance before either charges it overdraw the wallet and the token
(`concurrent_overdraw`).

`Undisturbed` says when this cannot happen: between a check and the charge that relies on it no other request lowers the
checked balance, the checks read no more than the balance at that moment, and a `Reserve` asks for no more than the
wallet holds. Every place then keeps what its check has seen (`Seen`), and no charge of a pre-consumption takes a
balance below 0 (`never_overdraws`).
-/

namespace SynthApi

open Lib Lib.Go BillingSession

/-! ## Charges and checks -/

/-- The next statement is the charge of a pre-consumption to the wallet. -/
def takesWallet : Place → Input → Bool
  | .tokenTaken _ _, .run _ => true
  | .opened s, .reserve _ targetQuota =>
    !s.settled && !s.refunded && !s.trusted && decide (s.preConsumedQuota < targetQuota)
  | _, _ => false

/-- The next statement may lower the wallet of the user. -/
def lowersWallet (uid : Int) : Place → Input → Bool
  | .writer, .moveWallet userId delta => userId = uid && delta < 0
  | place, input => takesWallet place input

/-- The session whose token the next statement charges for a pre-consumption. -/
def takesToken : Place → Input → Option BillingSession
  | .tokenRead s _, .run _ => some s
  | .reserveTokenRead s _, .run _ => some s
  | _, _ => none

/-- The token whose quota the next statement may lower. -/
def loweredToken : Place → Input → Option Int
  | .writer, .moveToken tokenId delta => if delta < 0 then some tokenId else none
  | place, input => (takesToken place input).map (·.relayInfo.tokenId)

/-- The request has checked the wallet and not charged it yet. -/
def awaitsWallet : Place → Bool
  | .balanceRead _ _ => true
  | .tokenRead _ _ => true
  | .tokenTaken _ _ => true
  | _ => false

/-- The limited token that the request has checked and not charged yet. -/
def awaitedToken : Place → Option Int
  | .tokenRead s _ => if s.relayInfo.tokenUnlimited then none else some s.relayInfo.tokenId
  | .reserveTokenRead s _ => if s.relayInfo.tokenUnlimited then none else some s.relayInfo.tokenId
  | _ => none

/-- A read answers no more than the balance. -/
def readsAtMost (balance : Int) : Except String Int → Bool
  | .ok quota => decide (quota ≤ balance)
  | .error _ => true

/-- The token as the request reads it shows no more than its quota. -/
def tokenReadAtMost (e : Env) (st : Store) (info : RelayInfo) : Bool :=
  readsAtMost (st.tokenRemain info.tokenId) ((getTokenByKey e st info.tokenKey).map (·.remainQuota))

/-- The next statement reads no more than there is, and a `Reserve` charges no more than the wallet holds. -/
def covered (uid : Int) (st : Store) : Place → Input → Bool
  | .start r, .run e => readsAtMost (st.wallet uid) (getUserQuota e st r.info.userId)
  | .balanceRead s _, .run e => tokenReadAtMost e st s.relayInfo
  | .reserveTaken s _, .run e => tokenReadAtMost e st s.relayInfo
  | .opened s, .reserve e targetQuota =>
    !takesWallet (.opened s) (.reserve e targetQuota) || decide (targetQuota - s.preConsumedQuota ≤ st.wallet uid)
  | _, _ => true

/-- Requests and other writers over one store. -/
abbrev Requests (ι : Type*) := Sys ι Store Place

section Conditions

variable {ι : Type*} [DecidableEq ι]

/-- No other request lowers a checked balance before it is charged. -/
def Undisturbed (uid : Int) (c : Requests ι) (a : ι × Input) : Prop :=
  covered uid c.shared (c.procs a.1) a.2 = true ∧ ∀ j, j ≠ a.1 →
    (lowersWallet uid (c.procs a.1) a.2 = true → awaitsWallet (c.procs j) = false) ∧
    ∀ tid ∈ loweredToken (c.procs a.1) a.2, awaitedToken (c.procs j) ≠ some tid

instance [Fintype ι] (uid : Int) (c : Requests ι) (a : ι × Input) : Decidable (Undisturbed uid c a) :=
  inferInstanceAs (Decidable (_ ∧ _))

/-- The statement leaves no balance below 0 that it charges for a pre-consumption. -/
def KeepsBalances (uid : Int) (c : Requests ι) (a : ι × Input) : Prop :=
  (takesWallet (c.procs a.1) a.2 = true → 0 ≤ (c.step requestStep a).shared.wallet uid) ∧
  ∀ s ∈ takesToken (c.procs a.1) a.2, s.relayInfo.tokenUnlimited = false →
    0 ≤ (c.step requestStep a).shared.tokenRemain s.relayInfo.tokenId

end Conditions

/-! ## What the statements do to the balances -/

section Effects

variable {st : Store} {e : Env} {s : BillingSession} {quota : Int}

/-! The store after a statement, without the place. -/

theorem tokenRead_store :
    (requestStep (.tokenRead s quota) (.run e) st).2 = (decreaseTokenQuota e st s.relayInfo.tokenId quota).2 := by
  rw [requestStep]
  cases decreaseTokenQuota e st s.relayInfo.tokenId quota with
  | mk r st' => cases r <;> rfl

theorem reserveTokenRead_store :
    (requestStep (.reserveTokenRead s quota) (.run e) st).2 = (decreaseTokenQuota e st s.relayInfo.tokenId quota).2 := by
  rw [requestStep]
  cases decreaseTokenQuota e st s.relayInfo.tokenId quota with
  | mk r st' => cases r <;> rfl

theorem tokenTaken_store : (requestStep (.tokenTaken s quota) (.run e) st).2 = (s.funding.preConsume e quota st).2 := by
  rw [requestStep]
  cases s.funding.preConsume e quota st with
  | mk r st' =>
    cases r with
    | ok funding => rfl
    | error err => cases err <;> rfl

variable {targetQuota : Int}

theorem reserve_idle (h : takesWallet (.opened s) (.reserve e targetQuota) = false) :
    requestStep (.opened s) (.reserve e targetQuota) st = (.opened s, st) := by
  rw [requestStep, if_pos]
  simp only [takesWallet, Bool.and_eq_false_iff, Bool.not_eq_false', decide_eq_false_iff_not, not_lt] at h
  tauto

theorem reserve_store (st : Store) (h : takesWallet (.opened s) (.reserve e targetQuota)) :
    0 < targetQuota - s.preConsumedQuota ∧ (requestStep (.opened s) (.reserve e targetQuota) st).2 =
      (s.reserveFunding e (targetQuota - s.preConsumedQuota) st).2 := by
  simp only [takesWallet, Bool.and_eq_true, Bool.not_eq_true', decide_eq_true_eq] at h
  obtain ⟨⟨⟨hs, hr⟩, ht⟩, hlt⟩ := h
  have hopen : ¬ (s.settled ∨ s.refunded ∨ s.trusted ∨ targetQuota ≤ s.preConsumedQuota) := by
    simp only [hs, hr, ht, Bool.false_eq_true, false_or, not_le]
    exact hlt
  refine ⟨by omega, ?_⟩
  rw [requestStep, if_neg hopen]
  dsimp only
  cases s.reserveFunding e (targetQuota - s.preConsumedQuota) st with
  | mk r st' => cases r <;> rfl

/-- **A statement moves one balance at most**: it lowers a wallet only if `lowersWallet` says so, and a token only if
`loweredToken` names it. -/
theorem requestStep_move (place : Place) (input : Input) (st : Store) :
    QuotaMove (fun id d => d < 0 → lowersWallet id place input)
      (fun id d => d < 0 → loweredToken place input = some id) st (requestStep place input st).2 := by
  cases input with
  | run e =>
    cases place with
    | start r | balanceRead s quota | reserveTaken s delta => rw [requestStep]; split <;> exact .refl st
    | tokenRead s quota =>
      rw [tokenRead_store]
      exact (changeTokenQuota_move st e _ _ _ _).mono (fun _ _ h => h) fun _ _ h _ => congrArg some h.1.symm
    | tokenTaken s quota =>
      rw [tokenTaken_store]
      exact (funding_preConsume_move st e s.funding quota).mono (fun _ _ _ _ => rfl) fun _ _ h => h
    | rollback s err =>
      exact (rollbackToken_move st e s).mono (fun _ _ h => h) fun _ _ h hd => absurd h (by omega)
    | opened s | failed err | writer => exact .refl st
    | reserveTokenRead s delta =>
      rw [reserveTokenRead_store]
      exact (changeTokenQuota_move st e _ _ _ _).mono (fun _ _ h => h) fun _ _ h _ => congrArg some h.1.symm
    | reserveRollback s delta =>
      exact (rollbackFundingReserve_move st e delta s).mono (fun _ _ h hd => absurd h (by omega)) fun _ _ h => h
  | reserve e targetQuota =>
    cases place with
    | opened s =>
      cases htakes : takesWallet (.opened s) (.reserve e targetQuota) with
      | false =>
        rw [reserve_idle htakes]
        exact .refl st
      | true =>
        rw [(reserve_store st htakes).2]
        exact (reserveFunding_move st e _ s).mono (fun _ _ _ _ => htakes) fun _ _ h => h
    | _ => exact .refl st
  | moveWallet userId delta =>
    cases place with
    | writer => exact .wallet fun hd => by simp [lowersWallet, hd]
    | _ => exact .refl st
  | moveToken tokenId delta =>
    cases place with
    | writer => exact .token fun hd => by simp [loweredToken, hd]
    | _ => exact .refl st

end Effects

/-! ## What a place has seen -/

/-- What the checks of a request have established and its charges rely on. -/
def Seen (uid : Int) : Place → Store → Prop
  | .start r, _ => r.info.userId = uid
  | .balanceRead _ quota, st => 0 < quota ∧ quota ≤ st.wallet uid
  | .tokenRead s quota, st => (0 < quota ∧ quota ≤ st.wallet uid) ∧
      (s.relayInfo.tokenUnlimited = false → quota ≤ st.tokenRemain s.relayInfo.tokenId)
  | .tokenTaken _ quota, st => 0 < quota ∧ quota ≤ st.wallet uid
  | .reserveTaken _ delta, _ => 0 < delta
  | .reserveTokenRead s delta, st =>
      0 < delta ∧ (s.relayInfo.tokenUnlimited = false → delta ≤ st.tokenRemain s.relayInfo.tokenId)
  | _, _ => True

section Seen

variable {uid : Int} {place : Place} {input : Input} {st st' : Store} {e : Env}

theorem Seen.mono (h : Seen uid place st) (hw : awaitsWallet place → st.wallet uid ≤ st'.wallet uid)
    (ht : ∀ tid ∈ awaitedToken place, st.tokenRemain tid ≤ st'.tokenRemain tid) : Seen uid place st' := by
  cases place with
  | start r => exact h
  | balanceRead s quota | tokenTaken s quota => exact ⟨h.1, h.2.trans (hw rfl)⟩
  | tokenRead s quota =>
    refine ⟨⟨h.1.1, h.1.2.trans (hw rfl)⟩, fun hl => (h.2 hl).trans (ht _ ?_)⟩
    simp [awaitedToken, hl]
  | reserveTaken s delta => exact h
  | reserveTokenRead s delta =>
    refine ⟨h.1, fun hl => (h.2 hl).trans (ht _ ?_)⟩
    simp [awaitedToken, hl]
  | _ => trivial

theorem effectiveQuota_le (s : BillingSession) (c : TrustContext) (quota : Int) :
    s.effectiveQuota c quota ≤ max quota 0 := by
  unfold BillingSession.effectiveQuota
  split <;> omega

theorem seen_afterBalance {r : Request} {userQuota : Int} (h : userQuota ≤ st.wallet uid) :
    Seen uid (afterBalance e r userQuota) st := by
  unfold afterBalance
  by_cases h₁ : userQuota ≤ 0
  · rw [if_pos h₁]
    trivial
  rw [if_neg h₁]
  by_cases h₂ : userQuota - r.quota < 0
  · rw [if_pos h₂]
    trivial
  dsimp only
  generalize fresh { r.info with userQuota := userQuota } (.wallet ⟨r.info.userId, 0⟩) = s
  have hle := effectiveQuota_le s r.trust r.quota
  split_ifs
  · trivial
  · exact ⟨by omega, by omega⟩
  · exact ⟨by omega, by omega⟩

variable {quota : Int} {s : BillingSession}

theorem seen_tokenCheck {info : RelayInfo} {balance : Int} {token : Except String Token}
    (hread : readsAtMost balance (token.map (·.remainQuota))) (h : tokenCheck e info quota token = .ok ())
    (hl : info.tokenUnlimited = false) : quota ≤ balance := by
  cases token with
  | error err => cases h
  | ok token =>
    have hread : token.remainQuota ≤ balance := of_decide_eq_true hread
    by_contra hlt
    have hsmall : ¬ info.tokenUnlimited ∧ token.remainQuota < quota := ⟨by simp [hl], by omega⟩
    rw [tokenCheck, if_pos hsmall] at h
    cases h

theorem seen_tokenRead (h : Seen uid (.tokenRead s quota) st) :
    Seen uid (requestStep (.tokenRead s quota) (.run e) st).1 (requestStep (.tokenRead s quota) (.run e) st).2 := by
  have hw := (changeTokenQuota_move (P := fun _ _ => False) st e .decreaseTokenQuota (-quota) s.relayInfo.tokenId
    quota).wallet_le uid le_rfl fun _ hno => hno.elim
  rw [← decreaseTokenQuota, Int.sub_zero] at hw
  rw [requestStep]
  cases hd : decreaseTokenQuota e st s.relayInfo.tokenId quota with
  | mk r st' =>
    rw [hd] at hw
    cases r with
    | error err => trivial
    | ok _ => exact ⟨h.1.1, h.1.2.trans hw⟩

theorem seen_tokenTaken (h : Seen uid (.tokenTaken s quota) st) :
    Seen uid (requestStep (.tokenTaken s quota) (.run e) st).1 (requestStep (.tokenTaken s quota) (.run e) st).2 := by
  rw [requestStep]
  cases hp : s.funding.preConsume e quota st with
  | mk r st' =>
    cases r with
    | ok funding => trivial
    | error err =>
      cases err with
      | error err =>
        split_ifs <;> trivial
      | diverge =>
        obtain rfl := funding_preConsume_error hp
        exact h

theorem seen_reserve {targetQuota : Int} :
    Seen uid (requestStep (.opened s) (.reserve e targetQuota) st).1
      (requestStep (.opened s) (.reserve e targetQuota) st).2 := by
  cases htakes : takesWallet (.opened s) (.reserve e targetQuota) with
  | false =>
    rw [reserve_idle htakes]
    trivial
  | true =>
    have hpos := (reserve_store st htakes).1
    rw [requestStep]
    split
    · trivial
    · dsimp only
      split
      · trivial
      · split_ifs
        · trivial
        · exact hpos

/-- **A statement leads to what its next place has seen.** -/
theorem seen_step (hc : covered uid st place input) (h : Seen uid place st) :
    Seen uid (requestStep place input st).1 (requestStep place input st).2 := by
  cases input with
  | run e =>
    cases place with
    | start r =>
      have hread : readsAtMost (st.wallet uid) (getUserQuota e st r.info.userId) := hc
      rw [requestStep]
      cases hq : getUserQuota e st r.info.userId with
      | error err => trivial
      | ok userQuota =>
        rw [hq] at hread
        exact seen_afterBalance (of_decide_eq_true hread)
    | balanceRead s quota | reserveTaken s quota =>
      rw [requestStep]
      cases ht : tokenCheck e s.relayInfo quota (getTokenByKey e st s.relayInfo.tokenKey) with
      | error err => trivial
      | ok _ => exact ⟨h, seen_tokenCheck hc ht⟩
    | tokenRead s quota => exact seen_tokenRead h
    | tokenTaken s quota => exact seen_tokenTaken h
    | reserveTokenRead s delta =>
      rw [requestStep]
      split <;> trivial
    | _ => trivial
  | reserve e targetQuota =>
    cases place with
    | opened s => exact seen_reserve
    | _ => exact h
  | moveWallet userId delta | moveToken tokenId delta => cases place <;> exact h

end Seen

section Runs

variable {ι : Type*} [DecidableEq ι] {uid : Int} {c : Requests ι} {a : ι × Input}

theorem seen_asserts (hc : Undisturbed uid c a) (h : c.Asserts fun _ => Seen uid) :
    (c.step requestStep a).Asserts fun _ => Seen uid := by
  refine Sys.step_asserts (seen_step hc.1 (h a.1)) fun j hj => ?_
  obtain ⟨hwallet, htoken⟩ := hc.2 j hj
  have hmove := requestStep_move (c.procs a.1) a.2 c.shared
  refine (h j).mono (fun hw => ?_) (fun tid ht => ?_)
  · have hle := hmove.wallet_le uid le_rfl fun d hd => ?_
    · rwa [Int.sub_zero] at hle
    · by_contra hneg
      rw [hwallet (hd (by omega))] at hw
      cases hw
  · have hle := hmove.token_le tid le_rfl fun d hd => ?_
    · rwa [Int.sub_zero] at hle
    · by_contra hneg
      exact htoken tid (hd (by omega)) ht

theorem keepsBalances_of_seen (hc : Undisturbed uid c a) (h : c.Asserts fun _ => Seen uid) : KeepsBalances uid c a := by
  have hseen := h a.1
  have hcov := hc.1
  unfold KeepsBalances
  rw [Sys.step_shared]
  generalize c.procs a.1 = place at hseen hcov
  generalize c.shared = st at hseen hcov
  generalize a.2 = input at hcov
  constructor
  · intro htakes
    cases input with
    | run e =>
      cases place with
      | tokenTaken s quota =>
        have hseen : 0 < quota ∧ quota ≤ st.wallet uid := hseen
        have hle := (funding_preConsume_move (Q := fun _ _ => False) st e s.funding quota).wallet_le uid
          hseen.1.le fun _ hd => hd.ge
        rw [tokenTaken_store]
        omega
      | _ => cases htakes
    | reserve e targetQuota =>
      cases place with
      | opened s =>
        have hle : targetQuota - s.preConsumedQuota ≤ st.wallet uid := by simpa [covered, htakes] using hcov
        obtain ⟨hlt, hst⟩ := reserve_store st htakes
        have hle' := (reserveFunding_move (Q := fun _ _ => False) st e _ s).wallet_le uid hlt.le
          fun _ hd => hd.ge
        rw [hst]
        omega
      | _ => cases htakes
    | _ => cases place <;> cases htakes
  · -- the quota of the token was seen, and it is lowered by that at most
    intro s htakes hl
    have hcharge : ∀ (e : Env) (quota : Int), 0 < quota → quota ≤ st.tokenRemain s.relayInfo.tokenId →
        0 ≤ (decreaseTokenQuota e st s.relayInfo.tokenId quota).2.tokenRemain s.relayInfo.tokenId := by
      intro e quota hpos hq
      have hle := (changeTokenQuota_move (P := fun _ _ => False) st e .decreaseTokenQuota (-quota) s.relayInfo.tokenId
        quota).token_le s.relayInfo.tokenId hpos.le fun _ hd => hd.2.1.ge
      rw [decreaseTokenQuota]
      omega
    cases input with
    | run e =>
      cases place with
      | tokenRead s' quota =>
        cases htakes
        rw [tokenRead_store]
        exact hcharge e quota hseen.1.1 (hseen.2 hl)
      | reserveTokenRead s' delta =>
        cases htakes
        rw [reserveTokenRead_store]
        exact hcharge e delta hseen.1 (hseen.2 hl)
      | _ => cases htakes
    | _ => cases place <;> cases htakes

/-- **Undisturbed pre-consumptions never overdraw.** Any number of requests of the user `uid` and of other writers: in
every interleaving in which no checked balance is lowered before it is charged, no pre-consumption takes the wallet or a
limited token below 0. -/
theorem never_overdraws {ι : Type*} [DecidableEq ι] (uid : Int) (c : Requests ι) (actions : List (ι × Input))
    (hstart : ∀ i, c.procs i = .writer ∨ ∃ r : Request, c.procs i = .start r ∧ r.info.userId = uid)
    (hrun : Along (Sys.step requestStep) (Undisturbed uid) c actions) :
    Along (Sys.step requestStep) (KeepsBalances uid) c actions := by
  refine along_of_inv (fun c a hc h => seen_asserts hc h)
    (fun c a hc h => keepsBalances_of_seen hc h) hrun ?_
  intro i
  rcases hstart i with hi | ⟨r, hi, hr⟩ <;> rw [hi]
  · trivial
  · exact hr

/-- **What is left and what is used of a token** add up to the same in every interleaving, whatever other writers do. -/
theorem token_sums_kept (c : Requests ι) (actions : List (ι × Input)) :
    (run (Sys.step requestStep) c actions).shared.tokens.map (fun t => (t.id, t.remainQuota + t.usedQuota)) =
      c.shared.tokens.map fun t => (t.id, t.remainQuota + t.usedQuota) := by
  refine run_inv (I := fun d : Requests ι => d.shared.tokens.map _ = _) (fun d a h => ?_) actions rfl
  rw [← h, Sys.step_shared]
  have hmove := requestStep_move (d.procs a.1) a.2 d.shared
  generalize (requestStep (d.procs a.1) a.2 d.shared).2 = st at hmove
  cases hmove with
  | wallet => rw [Store.addWallet_tokens]
  | token =>
    unfold Store.addToken
    split
    · rfl
    · exact Table.map_updateKey fun t _ => by simp [Token.addQuota]
  | frame hf => rw [hf.tokens]

end Runs

namespace Sample

/-- Two requests of the sample user with a limited token, for `quota` each; wallet and token hold 100. -/
def twoRequests (quota : Int) : Requests Bool where
  shared := store
  procs _ := .start ⟨{ info with tokenUnlimited := false, billingPreference := "wallet_only" }, ⟨0, 0⟩, quota⟩

def schedule (order : List Bool) : List (Bool × Input) := order.map fun i => (i, .run (env 1500))

def isOpened : Place → Bool
  | .opened _ => true
  | _ => false

end Sample

open Sample

/-- One request after the other: both are opened, for 40 of 100 each. -/
theorem never_overdraws_sample :
    ∃ (c : Requests Bool) (actions : List (Bool × Input)),
      isOpened ((run (Sys.step requestStep) c actions).procs true) = true ∧
      isOpened ((run (Sys.step requestStep) c actions).procs false) = true ∧
      Along (Sys.step requestStep) (KeepsBalances 1) c actions := by
  refine ⟨twoRequests 40, schedule [true, true, true, true, false, false, false, false],
    by decide +kernel, by decide +kernel, ?_⟩
  exact never_overdraws 1 _ _ (fun _ => .inr ⟨_, rfl, rfl⟩) (by decide +kernel)

/-- **Two concurrent requests overdraw** the wallet and the token: both read 100 before either takes its 80, both are
opened, and both balances are at -60. -/
theorem concurrent_overdraw :
    ∃ c : Requests Bool, c = run (Sys.step requestStep) (twoRequests 80)
        (schedule [true, true, false, false, true, true, false, false]) ∧
      isOpened (c.procs true) = true ∧ isOpened (c.procs false) = true ∧
      (twoRequests 80).shared.wallet 1 = 100 ∧ (twoRequests 80).shared.tokenRemain 1 = 100 ∧
      c.shared.wallet 1 = -60 ∧ c.shared.tokenRemain 1 = -60 := by
  refine ⟨_, rfl, ?_⟩
  decide +kernel

end SynthApi
