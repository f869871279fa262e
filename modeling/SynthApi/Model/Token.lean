import SynthApi.Model.Quota

/-!
# Validation of tokens

`ValidateUserToken` (`model/token.go`) decides whether a key may be used. It rejects a token that has expired or whose
quota is used up, and without Redis it writes that into the token's row: from then on the status alone rejects the token
(`validateUserToken_status`, `validateUserToken_accepts`).

The quota functions do not read the columns `status` and `expired_time`, and `Token` does not have them: `TokenStore`
keeps them beside the rows.
-/

namespace SynthApi

open Lib

inductive TokenStatus where
  | enabled
  | disabled
  | expired
  | exhausted
  deriving DecidableEq, Repr

/-- The columns of `tokens` that validation reads beside those of the quota. -/
structure TokenColumns where
  status : TokenStatus
  /-- -1 means never expired. -/
  expiredTime : Int
  deriving DecidableEq, Repr

structure AccessToken extends Token, TokenColumns
  deriving DecidableEq, Repr

namespace AccessToken

def isExpired (now : Int) (t : AccessToken) : Bool := t.expiredTime ≠ -1 ∧ t.expiredTime < now

def isExhausted (t : AccessToken) : Bool := ¬ t.unlimitedQuota ∧ t.remainQuota ≤ 0

end AccessToken

/-- The database, with the columns of each token by its id. -/
structure TokenStore where
  store : Store
  columns : Int → TokenColumns

inductive TokenError where
  | notProvided
  | invalid
  /-- `ErrDatabase` around another error. -/
  | database (err : String)
  deriving DecidableEq, Repr

/-- What one validation gets from outside the store. -/
structure ValidateCall where
  redisEnabled : Bool
  /-- The token's Redis copy. -/
  cachedToken : Option AccessToken
  /-- `common.GetTimestamp` -/
  now : Int
  queryFails : Option String
  updateFails : Option String

namespace TokenStore

variable (call : ValidateCall) (key : String) (s : TokenStore)

def row (t : Token) : AccessToken := { t with toTokenColumns := s.columns t.id }

def getTokenByKey : Except String AccessToken :=
  match if call.redisEnabled then call.cachedToken else none with
  | some token => .ok token
  | none =>
    match call.queryFails with
    | some err => .error err
    | none =>
      match Table.lookup Token.key key s.store.tokens with
      | some token => .ok (s.row token)
      | none => .error "record not found"

/-- `SelectUpdate`; its error is only logged. -/
def selectUpdate (token : AccessToken) : TokenStore :=
  match call.updateFails with
  | some _ => s
  | none => { s with columns := Function.update s.columns token.id { s.columns token.id with status := token.status } }

/-- Reject a token; without Redis its row gets the status that says why. -/
def reject (token : AccessToken) (status : TokenStatus) : (Option AccessToken × Option TokenError) × TokenStore :=
  if call.redisEnabled then ((some token, some .invalid), s)
  else
    let token := { token with status := status }
    ((some token, some .invalid), s.selectUpdate call token)

def validateUserToken : (Option AccessToken × Option TokenError) × TokenStore :=
  if key = "" then ((none, some .notProvided), s)
  else
    match s.getTokenByKey call key with
    | .error err =>
      if err = "record not found" then ((none, some .invalid), s) else ((none, some (.database err)), s)
    | .ok token =>
      if token.status = .exhausted ∨ token.status = .expired ∨ token.status ≠ .enabled then
        ((some token, some .invalid), s)
      else if token.isExpired call.now then s.reject call token .expired
      else if token.isExhausted then s.reject call token .exhausted
      else ((some token, none), s)

def FindsSpent (id : Int) : Prop :=
  key ≠ "" ∧ call.queryFails = none ∧ call.updateFails = none ∧
    ∃ t ∈ Table.lookup Token.key key s.store.tokens,
      t.id = id ∧ ((s.row t).isExpired call.now ∨ (s.row t).isExhausted)

section Spec

variable {call key s}

theorem getTokenByKey_ok (hredis : call.redisEnabled = false) {token : AccessToken}
    (h : s.getTokenByKey call key = .ok token) :
    call.queryFails = none ∧ ∃ t, Table.lookup Token.key key s.store.tokens = some t ∧ token = s.row t := by
  unfold getTokenByKey at h
  rw [if_neg (by simp [hredis])] at h
  cases hq : call.queryFails with
  | some err => simp [hq] at h
  | none =>
    cases ht : Table.lookup Token.key key s.store.tokens with
    | none => simp [hq, ht] at h
    | some t =>
      simp only [hq, ht, Except.ok.injEq] at h
      exact ⟨rfl, t, rfl, h.symm⟩

theorem getTokenByKey_of_lookup (hredis : call.redisEnabled = false) (hq : call.queryFails = none) {t : Token}
    (ht : Table.lookup Token.key key s.store.tokens = some t) : s.getTokenByKey call key = .ok (s.row t) := by
  unfold getTokenByKey
  simp [hredis, hq, ht]

theorem reject_error (token : AccessToken) (status : TokenStatus) : (s.reject call token status).1.2 = some .invalid := by
  unfold reject
  split <;> rfl

theorem reject_store (token : AccessToken) (status : TokenStatus) : (s.reject call token status).2.store = s.store := by
  unfold reject selectUpdate
  split
  · rfl
  · split <;> rfl

theorem reject_columns (hredis : call.redisEnabled = false) (token : AccessToken) (status : TokenStatus) (id : Int) :
    (s.reject call token status).2.columns id =
      if call.updateFails = none ∧ id = token.id then { s.columns id with status := status } else s.columns id := by
  unfold reject selectUpdate
  rw [if_neg (by simp [hredis])]
  cases hfail : call.updateFails with
  | some err => simp
  | none =>
    by_cases hid : id = token.id
    · subst hid
      simp
    · simp [hid]

/-- What a validation does without Redis: nothing, or it marks a token that it finds spent. -/
theorem validateUserToken_cases (key : String) (s : TokenStore) (hredis : call.redisEnabled = false) :
    (s.validateUserToken call key).2 = s ∧ (∀ id, s.FindsSpent call key id → (s.columns id).status ≠ .enabled) ∨
    ∃ t status, key ≠ "" ∧ call.queryFails = none ∧ Table.lookup Token.key key s.store.tokens = some t ∧
      status ≠ .enabled ∧ ((s.row t).isExpired call.now ∨ (s.row t).isExhausted) ∧
      s.validateUserToken call key = s.reject call (s.row t) status := by
  by_cases hkey : key = ""
  · exact .inl ⟨by rw [validateUserToken, if_pos hkey], fun id h => absurd hkey h.1⟩
  · unfold validateUserToken
    rw [if_neg hkey]
    cases hget : s.getTokenByKey call key with
    | error err =>
      left
      refine ⟨by dsimp only; split <;> rfl, fun id h => ?_⟩
      obtain ⟨-, hq, -, t, ht, -⟩ := h
      rw [getTokenByKey_of_lookup hredis hq ht] at hget
      cases hget
    | ok token =>
      obtain ⟨hq, t, ht, rfl⟩ := getTokenByKey_ok hredis hget
      dsimp only
      have hspent : ∀ id, s.FindsSpent call key id →
          id = t.id ∧ ((s.row t).isExpired call.now ∨ (s.row t).isExhausted) := by
        intro id h
        obtain ⟨-, -, -, t', ht', hid, hs⟩ := h
        rw [Option.mem_def, ht, Option.some.injEq] at ht'
        subst ht'
        exact ⟨hid.symm, hs⟩
      split
      · -- the status rejects the token already
        rename_i hstatus
        refine .inl ⟨rfl, fun id h henabled => ?_⟩
        obtain ⟨rfl, -⟩ := hspent id h
        have : (s.row t).status = .enabled := henabled
        simp [this] at hstatus
      · split
        · rename_i hexp
          exact .inr ⟨t, .expired, hkey, hq, ht, by decide, .inl hexp, rfl⟩
        · rename_i hexp
          split
          · rename_i hexh
            exact .inr ⟨t, .exhausted, hkey, hq, ht, by decide, .inr hexh, rfl⟩
          · rename_i hexh
            refine .inl ⟨rfl, fun id h => ?_⟩
            rcases (hspent id h).2 with h' | h'
            · exact absurd h' hexp
            · exact absurd h' hexh

variable (hredis : call.redisEnabled = false)

include hredis

theorem validateUserToken_store :
    (s.validateUserToken call key).2.store = s.store := by
  rcases validateUserToken_cases key s hredis with ⟨h, -⟩ | ⟨t, status, -, -, -, -, -, h⟩
  · rw [h]
  · rw [h, reject_store]

/-- **A token stays enabled through a validation** that does not find it spent, and only then. -/
theorem validateUserToken_status (id : Int) :
    ((s.validateUserToken call key).2.columns id).status = .enabled ↔
      (s.columns id).status = .enabled ∧ ¬ s.FindsSpent call key id := by
  rcases validateUserToken_cases key s hredis with ⟨h, hnot⟩ | ⟨t, status, hkey, hq, ht, hne, hspent, h⟩
  · rw [h]
    exact ⟨fun henabled => ⟨henabled, fun hf => hnot id hf henabled⟩, fun hboth => hboth.1⟩
  · rw [h, reject_columns hredis]
    have hid : (s.row t).id = t.id := rfl
    by_cases hmark : call.updateFails = none ∧ id = (s.row t).id
    · -- the write puts another status into the row
      rw [if_pos hmark]
      refine ⟨fun henabled => absurd henabled hne, fun hboth => ?_⟩
      exact absurd ⟨hkey, hq, hmark.1, t, ht, by rw [hmark.2, hid], hspent⟩ hboth.2
    · rw [if_neg hmark]
      refine ⟨fun henabled => ⟨henabled, fun hf => ?_⟩, fun hboth => hboth.1⟩
      obtain ⟨-, -, hu, t', ht', hid', -⟩ := hf
      rw [Option.mem_def, ht, Option.some.injEq] at ht'
      subst ht'
      exact hmark ⟨hu, hid'.symm⟩

/-- **A token is accepted** if it is enabled, not expired and has quota. -/
theorem validateUserToken_accepts (hq : call.queryFails = none) (hkey : key ≠ "")
    {t : Token} (ht : Table.lookup Token.key key s.store.tokens = some t) :
    (s.validateUserToken call key).1.2 = none ↔
      (s.columns t.id).status = .enabled ∧ (s.row t).isExpired call.now = false ∧ (s.row t).isExhausted = false := by
  unfold validateUserToken
  rw [if_neg hkey, getTokenByKey_of_lookup hredis hq ht]
  dsimp only
  have hstatus : (s.row t).status = (s.columns t.id).status := rfl
  rw [hstatus]
  by_cases henabled : (s.columns t.id).status = .enabled
  · rw [if_neg (by simp [henabled])]
    cases hexp : (s.row t).isExpired call.now with
    | true => simp [reject_error]
    | false =>
      cases hexh : (s.row t).isExhausted with
      | true => simp [reject_error]
      | false => simp [henabled]
  · simp [henabled]

end Spec

end TokenStore

end SynthApi
