import SynthApi.Model.Store

/-!
# Quota of users and tokens

`IncreaseUserQuota`, `DecreaseUserQuota` and their token counterparts (`model/user.go`, `model/token.go`) write the row,
or with batch updates enabled add the change to the process's map (`model/utils.go`). Both ways change the balance
`wallet` and `tokenRemain` — the row plus what is pending — by the same amount, so the rest of the development only knows
the two effects `addWallet` and `addToken`: a quota call has its effect, or it fails and has none
(`changeUserQuota_cases`, `changeTokenQuota_cases`).
-/

namespace SynthApi

open Lib Function Lib.Table Option

/-! ## The effects -/

def User.addQuota (delta : Int) (u : User) : User := { u with quota := u.quota + delta }

def Token.addQuota (delta : Int) (t : Token) : Token :=
  { t with remainQuota := t.remainQuota + delta, usedQuota := t.usedQuota - delta }

section Rows

variable {id uid delta : Int}

@[simp] theorem lookup_user_addQuota (users : List User) :
    lookup User.id uid (updateKey User.id id (User.addQuota delta) users) =
      (lookup User.id uid users).map fun u => if uid = id then u.addQuota delta else u :=
  lookup_updateKey_map fun _ h => h

@[simp] theorem lookup_token_addQuota (tokens : List Token) :
    lookup Token.id uid (updateKey Token.id id (Token.addQuota delta) tokens) =
      (lookup Token.id uid tokens).map fun t => if uid = id then t.addQuota delta else t :=
  lookup_updateKey_map fun _ h => h

end Rows

namespace Store

variable (st : Store) (id : Int)

/-- `quota + delta` of user `id`: the UPDATE, or the entry of the batch map. -/
def addWallet (delta : Int) : Store :=
  if st.batchUpdateEnabled then
    { st with userQuotaStore := update st.userQuotaStore id (st.userQuotaStore id + delta) }
  else { st with users := updateKey User.id id (User.addQuota delta) st.users }

def addToken (delta : Int) : Store :=
  if st.batchUpdateEnabled then
    { st with tokenQuotaStore := update st.tokenQuotaStore id (st.tokenQuotaStore id + delta) }
  else { st with tokens := updateKey Token.id id (Token.addQuota delta) st.tokens }

/-- The user's balance: the row and what is pending. -/
def wallet : Int :=
  ((lookup User.id id st.users).map (·.quota)).getD 0 + st.userQuotaStore id

def tokenRemain : Int :=
  ((lookup Token.id id st.tokens).map (·.remainQuota)).getD 0 + st.tokenQuotaStore id

def HasUser : Prop := (lookup User.id id st.users).isSome

instance (st : Store) (id : Int) : Decidable (st.HasUser id) := inferInstanceAs (Decidable (_ = true))

def HasToken : Prop := (lookup Token.id id st.tokens).isSome

instance (st : Store) (id : Int) : Decidable (st.HasToken id) := inferInstanceAs (Decidable (_ = true))

section Effects

variable (st : Store) (id delta : Int)

@[simp] theorem addWallet_tokens : (st.addWallet id delta).tokens = st.tokens := by unfold addWallet; split <;> rfl

@[simp] theorem addWallet_tokenQuotaStore : (st.addWallet id delta).tokenQuotaStore = st.tokenQuotaStore := by
  unfold addWallet; split <;> rfl

@[simp] theorem addToken_users : (st.addToken id delta).users = st.users := by unfold addToken; split <;> rfl

@[simp] theorem addToken_userQuotaStore : (st.addToken id delta).userQuotaStore = st.userQuotaStore := by
  unfold addToken; split <;> rfl

@[simp] theorem addWallet_tokenRemain (tid : Int) : (st.addWallet id delta).tokenRemain tid = st.tokenRemain tid := by
  simp [tokenRemain]

@[simp] theorem addToken_wallet (uid : Int) : (st.addToken id delta).wallet uid = st.wallet uid := by simp [wallet]

@[simp] theorem addWallet_hasToken (tid : Int) : (st.addWallet id delta).HasToken tid ↔ st.HasToken tid := by
  simp [HasToken]

@[simp] theorem addToken_hasUser (uid : Int) : (st.addToken id delta).HasUser uid ↔ st.HasUser uid := by
  simp [HasUser]

@[simp] theorem addWallet_hasUser (uid : Int) : (st.addWallet id delta).HasUser uid ↔ st.HasUser uid := by
  unfold addWallet HasUser
  split <;> simp

@[simp] theorem addToken_hasToken (tid : Int) : (st.addToken id delta).HasToken tid ↔ st.HasToken tid := by
  unfold addToken HasToken
  split <;> simp

/-- **The wallet moves by `delta`**, if the user has a row or the change waits in the map. -/
theorem addWallet_wallet_eq (uid : Int) : (st.addWallet id delta).wallet uid =
    st.wallet uid + if uid = id ∧ (st.batchUpdateEnabled ∨ st.HasUser id) then delta else 0 := by
  by_cases hu : uid = id
  · subst hu
    by_cases hb : st.batchUpdateEnabled
    · simp only [addWallet, wallet, hb, if_true, update_self, true_and, true_or]
      omega
    · cases hrow : lookup User.id uid st.users with
      | none => simp [addWallet, wallet, HasUser, hb, hrow]
      | some u =>
        simp only [addWallet, wallet, HasUser, hb, hrow, lookup_user_addQuota, if_true, map_some, getD_some,
          isSome_some, User.addQuota, or_true, and_self, Bool.false_eq_true, if_false]
        omega
  · unfold addWallet wallet
    split <;> simp [hu]

/-- **The token moves by `delta`**, if it has a row or the change waits in the map. -/
theorem addToken_tokenRemain_eq (tid : Int) : (st.addToken id delta).tokenRemain tid =
    st.tokenRemain tid + if tid = id ∧ (st.batchUpdateEnabled ∨ st.HasToken id) then delta else 0 := by
  by_cases ht : tid = id
  · subst ht
    by_cases hb : st.batchUpdateEnabled
    · simp only [addToken, tokenRemain, hb, if_true, update_self, true_and, true_or]
      omega
    · cases hrow : lookup Token.id tid st.tokens with
      | none => simp [addToken, tokenRemain, HasToken, hb, hrow]
      | some t =>
        simp only [addToken, tokenRemain, HasToken, hb, hrow, lookup_token_addQuota, if_true, map_some,
          getD_some, isSome_some, Token.addQuota, or_true, and_self, Bool.false_eq_true, if_false]
        omega
  · unfold addToken tokenRemain
    split <;> simp [ht]

variable {st id}

theorem addWallet_wallet (h : st.HasUser id) : (st.addWallet id delta).wallet id = st.wallet id + delta := by
  rw [addWallet_wallet_eq, if_pos ⟨rfl, .inr h⟩]

theorem addWallet_wallet_ne {uid : Int} (h : uid ≠ id) : (st.addWallet id delta).wallet uid = st.wallet uid := by
  rw [addWallet_wallet_eq, if_neg fun hc => h hc.1, add_zero]

theorem addToken_tokenRemain (h : st.HasToken id) :
    (st.addToken id delta).tokenRemain id = st.tokenRemain id + delta := by
  rw [addToken_tokenRemain_eq, if_pos ⟨rfl, .inr h⟩]

theorem addToken_tokenRemain_ne {tid : Int} (h : tid ≠ id) :
    (st.addToken id delta).tokenRemain tid = st.tokenRemain tid := by
  rw [addToken_tokenRemain_eq, if_neg fun hc => h hc.1, add_zero]

variable (st id)

theorem le_addWallet_wallet (uid : Int) : st.wallet uid + min delta 0 ≤ (st.addWallet id delta).wallet uid := by
  rw [addWallet_wallet_eq]
  split <;> omega

theorem le_addToken_tokenRemain (tid : Int) :
    st.tokenRemain tid + min delta 0 ≤ (st.addToken id delta).tokenRemain tid := by
  rw [addToken_tokenRemain_eq]
  split <;> omega

theorem addWallet_cancel : (st.addWallet id (-delta)).addWallet id delta = st := by
  have hrows : updateKey User.id id (User.addQuota delta) (updateKey User.id id (User.addQuota (-delta)) st.users) =
      st.users := updateKey_cancel (fun _ h => h) fun u => by simp [User.addQuota]
  by_cases hb : st.batchUpdateEnabled
  · simp only [addWallet, if_pos hb, update_self, update_idem, neg_add_cancel_right,
      update_eq_self]
  · simp only [addWallet, if_neg hb, hrows]

theorem addToken_cancel : (st.addToken id (-delta)).addToken id delta = st := by
  have hrows : updateKey Token.id id (Token.addQuota delta)
      (updateKey Token.id id (Token.addQuota (-delta)) st.tokens) = st.tokens :=
    updateKey_cancel (fun _ h => h) fun t => by simp [Token.addQuota]
  by_cases hb : st.batchUpdateEnabled
  · simp only [addToken, if_pos hb, update_self, update_idem, neg_add_cancel_right,
      update_eq_self]
  · simp only [addToken, if_neg hb, hrows]

end Effects

/-! ### The UPDATE of a transaction -/

/-- `quota + delta` of user `id` by an UPDATE, also when batch updates are enabled. -/
def updateQuota (st : Store) (id delta : Int) : Store :=
  { st with users := updateKey User.id id (User.addQuota delta) st.users }

section UpdateQuota

variable {st : Store} {id uid : Int} (delta : Int)

@[simp] theorem updateQuota_hasUser : (st.updateQuota id delta).HasUser uid ↔ st.HasUser uid := by
  simp [updateQuota, HasUser]

theorem updateQuota_wallet (h : st.HasUser id) : (st.updateQuota id delta).wallet id = st.wallet id + delta := by
  obtain ⟨u, hu⟩ := isSome_iff_exists.1 h
  simp only [updateQuota, wallet, lookup_user_addQuota, hu, if_true, map_some, getD_some, User.addQuota]
  omega

theorem updateQuota_wallet_ne (h : uid ≠ id) : (st.updateQuota id delta).wallet uid = st.wallet uid := by
  simp [updateQuota, wallet, h]

end UpdateQuota

end Store

/-! ## Movements -/

/-- From `st` to `st'` the wallet of the user moves by `dw` and the remaining quota of the token by `dt`, and neither
row appears or disappears. -/
structure Moves (userId tokenId dw dt : Int) (st st' : Store) : Prop where
  wallet : st'.wallet userId = st.wallet userId + dw
  token : st'.tokenRemain tokenId = st.tokenRemain tokenId + dt
  hasUser : st'.HasUser userId ↔ st.HasUser userId
  hasToken : st'.HasToken tokenId ↔ st.HasToken tokenId

namespace Moves

variable {userId tokenId dw dt dw' dt' : Int} {st st' st'' : Store}

theorem refl (st : Store) : Moves userId tokenId 0 0 st st := ⟨by omega, by omega, Iff.rfl, Iff.rfl⟩

theorem trans (h : Moves userId tokenId dw dt st st') (h' : Moves userId tokenId dw' dt' st' st'') :
    Moves userId tokenId (dw + dw') (dt + dt') st st'' := by
  refine ⟨?_, ?_, h'.hasUser.trans h.hasUser, h'.hasToken.trans h.hasToken⟩
  · rw [h'.wallet, h.wallet]; omega
  · rw [h'.token, h.token]; omega

theorem of_eq (h : Moves userId tokenId dw dt st st') (hw : dw' = dw) (ht : dt' = dt) :
    Moves userId tokenId dw' dt' st st' := by subst hw ht; exact h

theorem addWallet (tokenId delta : Int) (h : st.HasUser userId) :
    Moves userId tokenId delta 0 st (st.addWallet userId delta) :=
  ⟨Store.addWallet_wallet delta h, by simp, by simp, by simp⟩

theorem addToken (userId delta : Int) (h : st.HasToken tokenId) :
    Moves userId tokenId 0 delta st (st.addToken tokenId delta) :=
  ⟨by simp, Store.addToken_tokenRemain delta h, by simp, by simp⟩

end Moves

/-! ## Reading -/

variable (e : Env)

/-- `GetUserQuota(id, false)`: Redis first, else the row; a missing row reads as 0. -/
def getUserQuota (st : Store) (id : Int) : Except String Int :=
  match e.cachedUserQuota with
  | some quota => .ok quota
  | none =>
    match e.fails .getUserQuota with
    | some err => .error err
    | none => .ok (((lookup User.id id st.users).map (·.quota)).getD 0)

/-- `GetTokenByKey(key, false)`: Redis first, else the row. -/
def getTokenByKey (st : Store) (key : String) : Except String Token :=
  match e.cachedToken with
  | some token => .ok token
  | none =>
    match e.fails .getTokenByKey with
    | some err => .error err
    | none =>
      match lookup Token.key key st.tokens with
      | some token => .ok token
      | none => .error "record not found"

/-! ## Writing -/

def changeUserQuota (stmt : Stmt) (delta : Int) (st : Store) (id quota : Int) :
    Except String Unit × Store :=
  if quota < 0 then (.error "quota 不能为负数！", st)
  -- a batched change cannot fail: it only enters the process's map
  else if st.batchUpdateEnabled then (.ok (), st.addWallet id delta)
  else
    match e.fails stmt with
    | some err => (.error err, st)
    | none => (.ok (), st.addWallet id delta)

def changeTokenQuota (stmt : Stmt) (delta : Int) (st : Store) (id quota : Int) :
    Except String Unit × Store :=
  if quota < 0 then (.error "quota 不能为负数！", st)
  else if st.batchUpdateEnabled then (.ok (), st.addToken id delta)
  else
    match e.fails stmt with
    | some err => (.error err, st)
    | none => (.ok (), st.addToken id delta)

def increaseUserQuota (st : Store) (id quota : Int) : Except String Unit × Store :=
  changeUserQuota e .increaseUserQuota quota st id quota

def decreaseUserQuota (st : Store) (id quota : Int) : Except String Unit × Store :=
  changeUserQuota e .decreaseUserQuota (-quota) st id quota

def increaseTokenQuota (st : Store) (id quota : Int) : Except String Unit × Store :=
  changeTokenQuota e .increaseTokenQuota quota st id quota

def decreaseTokenQuota (st : Store) (id quota : Int) : Except String Unit × Store :=
  changeTokenQuota e .decreaseTokenQuota (-quota) st id quota

section Writing

variable {e : Env} {stmt : Stmt} {delta : Int} {st : Store} {id quota : Int}

theorem changeUserQuota_cases (e : Env) (stmt : Stmt) (delta : Int) (st : Store) (id quota : Int) :
    (0 ≤ quota ∧ changeUserQuota e stmt delta st id quota = (.ok (), st.addWallet id delta)) ∨
      ∃ err, changeUserQuota e stmt delta st id quota = (.error err, st) := by
  unfold changeUserQuota
  split
  · exact .inr ⟨_, rfl⟩
  · split
    · exact .inl ⟨by omega, rfl⟩
    · cases e.fails stmt with
      | some err => exact .inr ⟨err, rfl⟩
      | none => exact .inl ⟨by omega, rfl⟩

theorem changeTokenQuota_cases (e : Env) (stmt : Stmt) (delta : Int) (st : Store) (id quota : Int) :
    (0 ≤ quota ∧ changeTokenQuota e stmt delta st id quota = (.ok (), st.addToken id delta)) ∨
      ∃ err, changeTokenQuota e stmt delta st id quota = (.error err, st) := by
  unfold changeTokenQuota
  split
  · exact .inr ⟨_, rfl⟩
  · split
    · exact .inl ⟨by omega, rfl⟩
    · cases e.fails stmt with
      | some err => exact .inr ⟨err, rfl⟩
      | none => exact .inl ⟨by omega, rfl⟩

theorem changeUserQuota_ok (hq : 0 ≤ quota) (h : e.fails stmt = none) :
    changeUserQuota e stmt delta st id quota = (.ok (), st.addWallet id delta) := by
  unfold changeUserQuota
  simp [Int.not_lt.mpr hq, h]

theorem changeTokenQuota_ok (hq : 0 ≤ quota) (h : e.fails stmt = none) :
    changeTokenQuota e stmt delta st id quota = (.ok (), st.addToken id delta) := by
  unfold changeTokenQuota
  simp [Int.not_lt.mpr hq, h]

variable (he : e.WritesSucceed) (hq : 0 ≤ quota)

include he hq

/-- The four quota calls of a request whose writes succeed. -/
theorem increaseUserQuota_ok :
    increaseUserQuota e st id quota = (.ok (), st.addWallet id quota) := changeUserQuota_ok hq (he _ rfl)

theorem decreaseUserQuota_ok :
    decreaseUserQuota e st id quota = (.ok (), st.addWallet id (-quota)) := changeUserQuota_ok hq (he _ rfl)

theorem increaseTokenQuota_ok :
    increaseTokenQuota e st id quota = (.ok (), st.addToken id quota) := changeTokenQuota_ok hq (he _ rfl)

theorem decreaseTokenQuota_ok :
    decreaseTokenQuota e st id quota = (.ok (), st.addToken id (-quota)) := changeTokenQuota_ok hq (he _ rfl)

end Writing

end SynthApi
