import SynthApi.Lib.Go
import SynthApi.Lib.Loop
import SynthApi.Service.ChannelActiveUsers

/-!
# The relay loops

`Relay` and `RelayTask` (`controller/relay.go`) try a request on channel after channel. A turn of their loops selects a
channel, takes a slot of it, prepares the request and calls the upstream; after a failure the `auto` group goes on with its
next group, within a budget of attempts. What the environment answers in a turn is a record (`RelayAnswers`), so that a run
of a loop is a list of records.

`Accountable` is what every turn of both loops does with the budget and with its slot (`relayBody_accountable`,
`relayTaskBody_accountable`). `relay_loops_bounded` follows with the rules for loops.
-/

namespace SynthApi

open Lib Lib.Go Nat

/-! ## The attempt budget -/

def maxRelayRetryTimes : Nat := 10

structure RelayAttemptBudget where
  max : Nat
  used : Nat
  used_le : used ≤ max

def newRelayAttemptBudget (retryTimes : Int) : RelayAttemptBudget where
  max := (if retryTimes < 0 then 0 else if retryTimes > maxRelayRetryTimes then maxRelayRetryTimes
    else retryTimes.toNat) + 1
  used := 0
  used_le := Nat.zero_le _

/-- `groups` are the groups that `GetRequestAutoGroups` gives for the request. -/
def newRelayAttemptBudgetForRequest (group : String) (groups : List String) : RelayAttemptBudget :=
  if group ≠ "auto" then newRelayAttemptBudget 0
  else
    let attempts := groups.length
    if attempts ≤ 1 then newRelayAttemptBudget 0
    else
      let attempts := if attempts > maxRelayRetryTimes + 1 then maxRelayRetryTimes + 1 else attempts
      newRelayAttemptBudget ((attempts : Int) - 1)

namespace RelayAttemptBudget

variable (b : RelayAttemptBudget)

/-- The budget after `acquire`, if it returns true. -/
def acquire : Option RelayAttemptBudget :=
  if h : b.used < b.max then some ⟨b.max, b.used + 1, h⟩ else none

def exhausted : Bool := decide (b.used ≥ b.max)

def remainingRetries : Nat := if b.used ≥ b.max then 0 else b.max - b.used

def retryLimit : Nat := if b.max ≤ 0 then 0 else b.max - 1

end RelayAttemptBudget

/-- `RetryParam`, with what the loops read. -/
structure RetryParam where
  retry : Option Int
  resetNextTry : Bool
  deriving DecidableEq, Repr

namespace RetryParam

def getRetry (p : RetryParam) : Int := p.retry.getD 0

def setRetry (p : RetryParam) (retry : Int) : RetryParam := { p with retry := some retry }

def resetRetryNextTry (p : RetryParam) : RetryParam := { p with resetNextTry := true }

def increaseRetry (p : RetryParam) : RetryParam :=
  if p.resetNextTry then { p with resetNextTry := false } else { p with retry := some (p.retry.getD 0 + 1) }

end RetryParam

/-! ## Errors and failover -/

/-- The functions on texts of other packages. -/
structure RelaySite where
  toLower : String → String
  maskSensitiveInfo : String → String

/-- `NewAPIError`, with what the loops read. -/
structure RelayError where
  text : String
  errorCode : String
  statusCode : Int
  skipRetry : Bool
  deriving DecidableEq, Repr

structure TaskError where
  code : String
  message : String
  statusCode : Int
  localError : Bool
  error : Option String
  deriving DecidableEq, Repr

structure TaskSubmitResult where
  upstreamTaskID : String
  taskData : List UInt8
  platform : String
  quota : Int
  deriving DecidableEq, Repr

def containsMarker (markers : List String) (text : String) : Bool := markers.any (strContains text)

section Errors

variable (site : RelaySite)

variable (err : RelayError)

def isContextWindowExceededError : Bool :=
  let code := site.toLower (trimSpace err.errorCode)
  decide (code ∈ ["context_length_exceeded", "context_window_exceeded", "max_context_length_exceeded"]) ||
    containsMarker ["exceeds the context window", "exceeded the context window", "maximum context length",
      "context length exceeded", "prompt is too long"] (site.toLower err.text)

def isDeterministicRequestError : Bool :=
  let code := site.toLower (trimSpace err.errorCode)
  isContextWindowExceededError site err ||
    decide (code ∈ ["invalid_request", "bad_request_body", "read_request_body_failed", "convert_request_failed",
      "prompt_blocked", "invalid_request_error", "invalid_argument", "request_too_large", "payload_too_large",
      "unprocessable_entity"]) ||
    containsMarker ["invalid request", "unsupported parameter", "unknown parameter", "missing required parameter",
      "invalid parameter", "invalid value for", "invalid type for", "request is too large", "request body is too large",
      "input is too long", "could not parse the request"] (site.toLower err.text)

def isChannelError : Bool := hasPrefix err.errorCode "channel:"

def shouldMarkAutoRouteFailure : Bool :=
  let message := site.toLower (trimSpace err.text)
  if err.statusCode = 429 then true
  else if err.errorCode = "concurrency_limit" then true
  else if err.errorCode = "insufficient_user_quota" ∧
      containsMarker ["预扣费额度失败", "pre-consume quota failed"] message then true
  else if containsMarker ["exceeded retry limit", "last status: 429", "too many requests", "unknown provider for model",
      "not supported by any configured account in this group",
      "not supported by any currently configured upstream account", "no available channel", "no available account",
      "no available key", "all eligible channels are at concurrency capacity", "all channels at capacity",
      "selected model is at capacity", "insufficient account balance", "insufficient balance", "balance is insufficient",
      "insufficient funds", "余额不足", "encrypted function output content could not be decrypted or decoded",
      "transport error", "network error", "error decoding response body"] message then true
  else if err.statusCode ∈ [408, 425, 429, 502, 503, 504] then
    decide (err.errorCode = "get_channel_failed") || isChannelError err
  else false

def shouldAutoRouteFailover : Bool :=
  if isDeterministicRequestError site err then false
  else if shouldMarkAutoRouteFailure site err then true
  else if err.skipRetry then false
  else if err.statusCode ≥ 500 then true
  else decide (err.errorCode ∈ ["do_request_failed", "bad_response", "bad_response_body", "empty_response"])

def shouldAutoTaskFailover (taskErr : TaskError) : Bool :=
  if taskErr.localError then false
  else if taskErr.statusCode = 429 ∨ taskErr.statusCode ≥ 500 then true
  else
    let message := site.toLower (trimSpace taskErr.message)
    let message := match taskErr.error with
      | none => message
      | some err => message ++ " " ++ site.toLower err
    containsMarker ["exceeded retry limit", "too many requests", "unknown provider for model", "not supported",
      "currently configured upstream account", "no available", "insufficient account balance",
      "encrypted function output content could not be decrypted or decoded", "transport error", "network error",
      "error decoding response body", "upstream"] message

def taskErrorWrapperLocal (text code : String) (statusCode : Int) : TaskError :=
  let message := if containsMarker ["post", "dial", "http"] (site.toLower text) then site.maskSensitiveInfo text else text
  ⟨code, message, statusCode, true, some text⟩

end Errors

def channelCapacityError (channelID : Int) (capacity : ChannelCapacitySnapshot) : RelayError :=
  let (label, limit) :=
    if capacity.limitedBy = .userChannel then ("用户在该渠道的", capacity.perUserLimit) else ("渠道", capacity.totalLimit)
  ⟨"渠道 " ++ toString channelID ++ " 当前" ++ label ++ "并发已达上限 " ++ toString limit ++ "，请稍后重试",
    "concurrency_limit", 429, true⟩

/-! ## What the environment answers -/

/-- What `continueAutoRouteAfterFailure` reads. -/
structure RouteAnswers where
  usingGroup : String
  /-- `ContextKeyUsingGroup`. -/
  contextGroup : String
  /-- The result of `MarkAutoRouteFailure`. -/
  marked : Bool
  /-- The request has no context any more or its answer has begun. -/
  stopped : Bool

def RouteAnswers.failedGroup (a : RouteAnswers) : String :=
  if trimSpace a.usingGroup = "" then trimSpace a.contextGroup else trimSpace a.usingGroup

structure RequestBodyError where
  text : String
  tooLarge : Bool

/-- The answers of one turn that both loops read. -/
structure RelayAnswers where
  /-- The retry parameter as `getChannel` leaves it. -/
  retryParam : RetryParam
  /-- The id of the channel that `getChannel` selects. -/
  channel : Except RelayError Int
  capacity : ChannelCapacitySnapshot
  body : Option RequestBodyError
  seek : Option String
  route : RouteAnswers

structure RelayTurn extends RelayAnswers where
  /-- The error of `refreshBillingForSelectedGroup`. -/
  billing : Option RelayError
  /-- The error of the upstream call, normalized. -/
  upstream : Option RelayError
  /-- `c.Request.Context().Err() != nil` after it. -/
  clientGone : Bool

structure RelayTaskTurn extends RelayAnswers where
  /-- The error of `SetupContextForSelectedChannel` for a locked channel. -/
  setup : Option String
  /-- What `RelayTaskSubmit` returns: every path of it gives an error or a result. -/
  submit : Except TaskError TaskSubmitResult

structure RelayRequest where
  tokenGroup : String
  /-- `relayInfo.UsingGroup` before the loop. -/
  usingGroup : String
  /-- `GetRequestAutoGroups`. -/
  autoGroups : List String
  lockedChannel : Option Int

def RelayRequest.primaryGroup (r : RelayRequest) : String := if r.tokenGroup = "" then r.usingGroup else r.tokenGroup

/-! ## The loops -/

structure AttemptState where
  retryParam : RetryParam
  budget : RelayAttemptBudget

/-- The variables of a loop. -/
structure Attempting (τ : Type) extends AttemptState where
  vars : τ

inductive SlotEvent where
  | acquired (turn : Nat)
  | called (turn : Nat)
  /-- `endActiveUse()`. -/
  | released (turn : Nat)
  deriving DecidableEq, Repr

/-- The common shape of the two loops. -/
def attemptLoop {τ α : Type} (body : Nat → Attempting τ → α → Turn (Attempting τ) SlotEvent) :
    ForLoop (Attempting τ) α SlotEvent where
  guard s := decide (s.retryParam.getRetry ≤ s.budget.retryLimit) && !s.budget.exhausted
  post s := { s with retryParam := s.retryParam.increaseRetry }
  body := body

/-- The result, and the budget and the retry parameter after it. -/
def continueAutoRouteAfterFailure (r : RelayRequest) (a : RouteAnswers) (attemptAlreadyCounted : Bool)
    (s : AttemptState) : Bool × AttemptState :=
  if r.tokenGroup ≠ "auto" then (false, s)
  else if a.failedGroup = "" ∨ a.failedGroup = "auto" ∨ a.marked = false then (false, s)
  else
    match if attemptAlreadyCounted then some s.budget else s.budget.acquire with
    | none => (false, s)
    | some budget =>
      if budget.remainingRetries ≤ 0 ∨ a.stopped then (false, { s with budget := budget })
      else (true, ⟨(s.retryParam.setRetry 0).resetRetryNextTry, budget⟩)

/-- The end of a turn that failed: `if eligible && continueAutoRouteAfterFailure(…) { continue }; break`. -/
def failOver (r : RelayRequest) (eligible : Bool) (a : RouteAnswers) (attemptAlreadyCounted : Bool) (s : AttemptState) :
    Bool × AttemptState :=
  if eligible then continueAutoRouteAfterFailure r a attemptAlreadyCounted s else (false, s)

section Bodies

variable (site : RelaySite) (r : RelayRequest) (n : Nat)

def RequestBodyError.apiError (e : RequestBodyError) : RelayError :=
  ⟨e.text, "read_request_body_failed", if e.tooLarge then 413 else 400, true⟩

def relayFails (a : RelayTurn) (attemptAlreadyCounted : Bool) (s : AttemptState) (events : List SlotEvent)
    (err : RelayError) : Turn (Attempting (Option RelayError)) SlotEvent :=
  let (again, t) := failOver r (decide (r.primaryGroup = "auto") && shouldAutoRouteFailover site err) a.route
    attemptAlreadyCounted s
  ⟨⟨t, some err⟩, again, events⟩

/-- **A turn of `Relay`**; the variable is `newAPIError`. -/
def relayBody (s : Attempting (Option RelayError)) (a : RelayTurn) : Turn (Attempting (Option RelayError)) SlotEvent :=
  let s := { s with retryParam := a.retryParam }
  match a.channel with
  | .error err => relayFails site r a false s.toAttemptState [] err
  | .ok channelID =>
    if ¬ a.capacity.allowed then
      relayFails site r a false s.toAttemptState [] (channelCapacityError channelID a.capacity)
    else
      match a.billing with
      | some err => relayFails site r a false s.toAttemptState [.acquired n, .released n] err
      | none =>
        match a.body with
        | some err => ⟨{ s with vars := some err.apiError }, false, [.acquired n, .released n]⟩
        | none =>
          match a.seek with
          | some text =>
            ⟨{ s with vars := some (RequestBodyError.apiError ⟨text, false⟩) }, false, [.acquired n, .released n]⟩
          | none =>
            match s.budget.acquire with
            | none => ⟨s, false, [.acquired n, .released n]⟩
            | some budget =>
              match a.upstream with
              | none => ⟨{ s with budget := budget, vars := none }, false, [.acquired n, .called n, .released n]⟩
              | some err =>
                if a.clientGone then
                  ⟨{ s with budget := budget, vars := some err }, false, [.acquired n, .called n, .released n]⟩
                else relayFails site r a true ⟨s.retryParam, budget⟩ [.acquired n, .called n, .released n] err

structure TaskVars where
  result : Option TaskSubmitResult
  taskErr : Option TaskError

def relayTaskStops (s : Attempting TaskVars) (events : List SlotEvent) (err : TaskError) :
    Turn (Attempting TaskVars) SlotEvent :=
  ⟨{ s with vars := { s.vars with taskErr := some err } }, false, events⟩

def relayTaskOn (channelID : Int) (s : Attempting TaskVars) (a : RelayTaskTurn) :
    Turn (Attempting TaskVars) SlotEvent :=
  let auto := decide (r.tokenGroup = "auto") && r.lockedChannel.isNone
  if ¬ a.capacity.allowed then
    match failOver r auto a.route false s.toAttemptState with
    | (true, t) => ⟨⟨t, s.vars⟩, true, []⟩
    | (false, t) => relayTaskStops ⟨t, s.vars⟩ []
        (taskErrorWrapperLocal site (channelCapacityError channelID a.capacity).text "concurrency_limit" 429)
  else
    match a.body with
    | some err => relayTaskStops s [.acquired n, .released n]
        (taskErrorWrapperLocal site err.text "read_request_body_failed" (if err.tooLarge then 413 else 400))
    | none =>
      match a.seek with
      | some text => relayTaskStops s [.acquired n, .released n]
          (taskErrorWrapperLocal site text "read_request_body_failed" 400)
      | none =>
        match s.budget.acquire with
        | none => ⟨s, false, [.acquired n, .released n]⟩
        | some budget =>
          match a.submit with
          | .ok result =>
            ⟨{ s with budget := budget, vars := ⟨some result, none⟩ }, false, [.acquired n, .called n, .released n]⟩
          | .error err =>
            let (again, t) := failOver r (auto && shouldAutoTaskFailover site err) a.route true ⟨s.retryParam, budget⟩
            ⟨⟨t, none, some err⟩, again, [.acquired n, .called n, .released n]⟩

def relayTaskBody (s : Attempting TaskVars) (a : RelayTaskTurn) : Turn (Attempting TaskVars) SlotEvent :=
  match r.lockedChannel with
  | some channelID =>
    match if s.retryParam.getRetry > 0 then a.setup else none with
    | some text => relayTaskStops s [] (taskErrorWrapperLocal site text "setup_locked_channel_failed" 500)
    | none => relayTaskOn site r n channelID s a
  | none =>
    let s := { s with retryParam := a.retryParam }
    match a.channel with
    | .error err =>
      match failOver r (decide (r.tokenGroup = "auto") && shouldAutoRouteFailover site err) a.route false
          s.toAttemptState with
      | (true, t) => ⟨⟨t, s.vars⟩, true, []⟩
      | (false, t) => relayTaskStops ⟨t, s.vars⟩ [] (taskErrorWrapperLocal site err.text "get_channel_failed"
          (if err.errorCode = "concurrency_limit" then 429 else 500))
    | .ok channelID => relayTaskOn site r n channelID s a

end Bodies

def relayLoop (site : RelaySite) (r : RelayRequest) : ForLoop (Attempting (Option RelayError)) RelayTurn SlotEvent :=
  attemptLoop (relayBody site r)

def relayStart (r : RelayRequest) : Attempting (Option RelayError) :=
  ⟨⟨⟨some 0, false⟩, newRelayAttemptBudgetForRequest r.primaryGroup r.autoGroups⟩, none⟩

def relayTaskLoop (site : RelaySite) (r : RelayRequest) : ForLoop (Attempting TaskVars) RelayTaskTurn SlotEvent :=
  attemptLoop (relayTaskBody site r)

def relayTaskStart (r : RelayRequest) : Attempting TaskVars :=
  ⟨⟨⟨some 0, false⟩, newRelayAttemptBudgetForRequest r.tokenGroup r.autoGroups⟩, none, none⟩

/-! ## What a turn does -/

theorem RelayAttemptBudget.acquire_some {b b' : RelayAttemptBudget} (h : b.acquire = some b') :
    b'.max = b.max ∧ b'.used = b.used + 1 := by
  unfold acquire at h
  split at h
  · cases h
    exact ⟨rfl, rfl⟩
  · cases h

theorem RelayAttemptBudget.acquire_isSome {b : RelayAttemptBudget} (h : b.used < b.max) : b.acquire ≠ none := by
  simp [acquire, h]

theorem RelayAttemptBudget.lt_of_remainingRetries {b : RelayAttemptBudget} (h : 0 < b.remainingRetries) :
    b.used < b.max := by
  unfold remainingRetries at h
  split at h <;> omega

/-- What the end of a failed turn does: the budget shrinks at most, and a turn that goes on was counted, leaves something
of the budget and starts the retries again. -/
structure FailedOver (counted : Bool) (b : RelayAttemptBudget) (t : AttemptState) (again : Bool) : Prop where
  max : t.budget.max = b.max
  mono : b.used ≤ t.budget.used
  again : again = true → (counted = false → b.used < t.budget.used) ∧ t.budget.used < t.budget.max ∧
    t.retryParam = ⟨some 0, true⟩

theorem failedOver_refl {counted : Bool} {s : AttemptState} : FailedOver counted s.budget s false :=
  ⟨rfl, le_refl _, nofun⟩

section FailOver

variable (r : RelayRequest) (a : RouteAnswers) (counted : Bool) (s : AttemptState)

theorem continueAutoRouteAfterFailure_spec :
    FailedOver counted s.budget (continueAutoRouteAfterFailure r a counted s).2
      (continueAutoRouteAfterFailure r a counted s).1 := by
  unfold continueAutoRouteAfterFailure
  split
  · exact failedOver_refl
  split
  · exact failedOver_refl
  split
  · exact failedOver_refl
  · rename_i budget hbudget
    have hspend : budget.max = s.budget.max ∧ s.budget.used ≤ budget.used ∧
        (counted = false → s.budget.used < budget.used) := by
      cases counted with
      | true =>
        cases hbudget
        exact ⟨rfl, le_refl _, nofun⟩
      | false =>
        obtain ⟨hmax, hused⟩ := RelayAttemptBudget.acquire_some hbudget
        exact ⟨hmax, by omega, fun _ => by omega⟩
    split
    · exact ⟨hspend.1, hspend.2.1, nofun⟩
    · rename_i hstop
      have hleft : budget.used < budget.max :=
        RelayAttemptBudget.lt_of_remainingRetries (pos_of_ne_zero fun h => hstop (.inl (le_of_eq h)))
      exact ⟨hspend.1, hspend.2.1, fun _ => ⟨hspend.2.2, hleft, rfl⟩⟩

theorem failOver_spec (eligible : Bool) :
    FailedOver counted s.budget (failOver r eligible a counted s).2 (failOver r eligible a counted s).1 := by
  unfold failOver
  split
  · exact continueAutoRouteAfterFailure_spec r a counted s
  · exact failedOver_refl

end FailOver

/-- What every turn does with the budget `b` and with its slot. -/
structure Accountable (n : Nat) (b : RelayAttemptBudget) (t : AttemptState) (again : Bool) (events : List SlotEvent) :
    Prop where
  max : t.budget.max = b.max
  mono : b.used ≤ t.budget.used
  /-- No slot; a slot that is given back; or an attempt that the budget pays for. -/
  slot : events = [] ∨ events = [.acquired n, .released n] ∨
    events = [.acquired n, .called n, .released n] ∧ b.used < t.budget.used
  again : again = true → b.used < t.budget.used ∧ t.budget.used < t.budget.max ∧ t.retryParam = ⟨some 0, true⟩

abbrev AccountableTurn {τ : Type} (n : Nat) (b : RelayAttemptBudget) (t : Turn (Attempting τ) SlotEvent) : Prop :=
  Accountable n b t.state.toAttemptState t.again t.events

section Turns

variable {n : Nat} {b b' : RelayAttemptBudget} {t : AttemptState} {again : Bool} {events : List SlotEvent} {p : RetryParam}

/-- A turn that fails before its attempt. -/
theorem FailedOver.accountable (h : FailedOver false b t again)
    (hslot : events = [] ∨ events = [.acquired n, .released n]) : Accountable n b t again events := by
  refine ⟨h.max, h.mono, ?_, fun hg => ?_⟩
  · rcases hslot with h | h
    · exact .inl h
    · exact .inr (.inl h)
  · obtain ⟨hlt, hmore⟩ := h.again hg
    exact ⟨hlt rfl, hmore⟩

theorem FailedOver.accountable_call (h : FailedOver true b' t again) (hacquire : b.acquire = some b') :
    Accountable n b t again [.acquired n, .called n, .released n] := by
  obtain ⟨hmax, hused⟩ := RelayAttemptBudget.acquire_some hacquire
  have hmono := h.mono
  exact ⟨h.max.trans hmax, by omega, .inr (.inr ⟨rfl, by omega⟩), fun hg => ⟨by omega, (h.again hg).2⟩⟩

theorem accountable_stop
    (hslot : events = [] ∨ events = [.acquired n, .released n]) : Accountable n b ⟨p, b⟩ false events :=
  (failedOver_refl (s := ⟨p, b⟩)).accountable hslot

theorem accountable_call (h : b.acquire = some b') :
    Accountable n b ⟨p, b'⟩ false [.acquired n, .called n, .released n] :=
  failedOver_refl.accountable_call h

end Turns

section Bodies

variable (site : RelaySite) (r : RelayRequest) (n : Nat)

theorem relayBody_accountable (s : Attempting (Option RelayError)) (a : RelayTurn) :
    AccountableTurn n s.budget (relayBody site r n s a) := by
  unfold relayBody
  simp only
  split
  · exact (failOver_spec r a.route false ⟨a.retryParam, s.budget⟩ _).accountable (.inl rfl)
  split
  · exact (failOver_spec r a.route false ⟨a.retryParam, s.budget⟩ _).accountable (.inl rfl)
  split
  · exact (failOver_spec r a.route false ⟨a.retryParam, s.budget⟩ _).accountable (.inr rfl)
  split
  · exact accountable_stop (.inr rfl)
  split
  · exact accountable_stop (.inr rfl)
  split
  · exact accountable_stop (.inr rfl)
  · rename_i budget hacquire
    split
    · exact accountable_call hacquire
    split
    · exact accountable_call hacquire
    · exact (failOver_spec r a.route true ⟨a.retryParam, budget⟩ _).accountable_call hacquire

def TaskVars.Settled (v : TaskVars) : Prop := v.taskErr.isSome ∨ v.result.isSome

/-- A turn of `RelayTask` goes on, or stops with a task error or a result: the budget is not exhausted within it. -/
def TaskTurnOk (s : Attempting TaskVars) (t : Turn (Attempting TaskVars) SlotEvent) : Prop :=
  AccountableTurn n s.budget t ∧ (s.budget.used < s.budget.max → t.again = true ∨ t.state.vars.Settled)

theorem relayTaskOn_ok (channelID : Int) (s : Attempting TaskVars) (a : RelayTaskTurn) :
    TaskTurnOk n s (relayTaskOn site r n channelID s a) := by
  unfold relayTaskOn
  simp only
  split
  · have h := failOver_spec r a.route false s.toAttemptState (decide (r.tokenGroup = "auto") && r.lockedChannel.isNone)
    split
    · rename_i t heq
      rw [heq] at h
      exact ⟨h.accountable (.inl rfl), fun _ => .inl rfl⟩
    · rename_i t heq
      rw [heq] at h
      exact ⟨h.accountable (.inl rfl), fun _ => .inr (.inl rfl)⟩
  split
  · exact ⟨accountable_stop (.inr rfl), fun _ => .inr (.inl rfl)⟩
  split
  · exact ⟨accountable_stop (.inr rfl), fun _ => .inr (.inl rfl)⟩
  split
  · rename_i hnone
    exact ⟨accountable_stop (.inr rfl), fun hs => absurd hnone (RelayAttemptBudget.acquire_isSome hs)⟩
  · rename_i budget hacquire
    split
    · exact ⟨accountable_call hacquire, fun _ => .inr (.inr rfl)⟩
    · refine ⟨?_, fun _ => .inr (.inl rfl)⟩
      exact (failOver_spec r a.route true ⟨s.retryParam, budget⟩ _).accountable_call hacquire

theorem relayTaskBody_ok (s : Attempting TaskVars) (a : RelayTaskTurn) :
    TaskTurnOk n s (relayTaskBody site r n s a) := by
  unfold relayTaskBody
  split
  · split
    · exact ⟨accountable_stop (.inl rfl), fun _ => .inr (.inl rfl)⟩
    · exact relayTaskOn_ok site r n _ s a
  · simp only
    split
    · rename_i err _
      have h := failOver_spec r a.route false ⟨a.retryParam, s.budget⟩
        (decide (r.tokenGroup = "auto") && shouldAutoRouteFailover site err)
      split
      · rename_i t heq
        rw [heq] at h
        exact ⟨h.accountable (.inl rfl), fun _ => .inl rfl⟩
      · rename_i t heq
        rw [heq] at h
        exact ⟨h.accountable (.inl rfl), fun _ => .inr (.inl rfl)⟩
    · exact relayTaskOn_ok site r n _ { s with retryParam := a.retryParam } a

end Bodies

/-! ## The loops end -/

/-- The protocol of slots: one is held at a time, calls are made while it is held, and it is given back once. -/
def SlotEvent.check : Option Nat → SlotEvent → Option (Option Nat)
  | none, .acquired n => some (some n)
  | some m, .called n => if m = n then some (some m) else none
  | some m, .released n => if m = n then some none else none
  | _, _ => none

def SlotEvent.isCall : SlotEvent → Bool
  | .called _ => true
  | _ => false

def SlotEvent.turn : SlotEvent → Nat
  | .acquired n => n
  | .called n => n
  | .released n => n

namespace Accountable

variable {n : Nat} {b : RelayAttemptBudget} {t : AttemptState} {again : Bool} {events : List SlotEvent}
  (h : Accountable n b t again events)

include h

theorem turn_eq : ∀ e ∈ events, e.turn = n := by
  rcases h.slot with rfl | rfl | ⟨rfl, -⟩ <;> simp [SlotEvent.turn]

theorem nodup : events.Nodup := by
  rcases h.slot with rfl | rfl | ⟨rfl, -⟩ <;> simp

theorem check : events.foldlM SlotEvent.check none = some none := by
  rcases h.slot with rfl | rfl | ⟨rfl, -⟩ <;> simp [SlotEvent.check]

theorem released {m : Nat} (hm : .acquired m ∈ events) : .released m ∈ events := by
  rcases h.slot with rfl | rfl | ⟨rfl, -⟩ <;> simp_all

/-- The budget pays for the call. -/
theorem countP_le : events.countP SlotEvent.isCall + (t.budget.max - t.budget.used) ≤ b.max - b.used := by
  have hmax := h.max
  have hmono := h.mono
  have hle := t.budget.used_le
  rcases h.slot with rfl | rfl | ⟨rfl, hlt⟩
  · simp only [List.countP_nil]
    omega
  · have hcount : [SlotEvent.acquired n, .released n].countP SlotEvent.isCall = 0 := rfl
    omega
  · have hcount : [SlotEvent.acquired n, .called n, .released n].countP SlotEvent.isCall = 1 := rfl
    omega

end Accountable

/-- What bounds a loop, for the answers `as` of the environment. -/
structure LoopBounds {τ α : Type} (l : ForLoop (Attempting τ) α SlotEvent) (s : Attempting τ) (as : List α) : Prop where
  turns : (run l.step (ForLoop.start s) as).turns ≤ s.budget.max
  /-- Answers to that many turns suffice. -/
  ends : s.budget.max ≤ as.length → (run l.step (ForLoop.start s) as).ended = true
  calls : (trace l.step l.events (ForLoop.start s) as).countP SlotEvent.isCall ≤ s.budget.max
  slots : (trace l.step l.events (ForLoop.start s) as).foldlM SlotEvent.check none = some none
  /-- Every slot that was acquired is released exactly once. -/
  released : ∀ n, .acquired n ∈ trace l.step l.events (ForLoop.start s) as →
    (trace l.step l.events (ForLoop.start s) as).count (.released n) = 1

/-- The head of the loops: the retries start at 0 and something of the budget is left. -/
def Attempting.AtHead {τ : Type} (s : Attempting τ) : Prop :=
  s.retryParam.getRetry = 0 ∧ s.budget.used < s.budget.max

section Bounds

variable {τ α : Type} {body : Nat → Attempting τ → α → Turn (Attempting τ) SlotEvent} {Q : Attempting τ → Prop}
  (hbody : ∀ n s a, AccountableTurn n s.budget (body n s a))

include hbody

theorem attemptLoop_spec (hstop : ∀ n s a, s.AtHead → (body n s a).again = false → Q (body n s a).state) :
    (attemptLoop body).Spec Attempting.AtHead (fun s => s.budget.max - s.budget.used) Q where
  guard := by
    intro s hs
    simp only [attemptLoop, RelayAttemptBudget.exhausted, hs.1, Bool.and_eq_true, decide_eq_true_eq, Bool.not_eq_true',
      decide_eq_false_iff_not]
    exact ⟨Int.natCast_nonneg _, not_le.2 hs.2⟩
  pos := fun hs => Nat.sub_pos_of_lt hs.2
  again := by
    intro n s a hs hagain
    obtain ⟨hused, hleft, hretry⟩ := (hbody n s a).again hagain
    have hmax := (hbody n s a).max
    refine ⟨⟨?_, hleft⟩, ?_⟩
    · simp only [attemptLoop, hretry]
      rfl
    · simp only [attemptLoop]
      omega
  stop := fun {n s a} hs h => hstop n s a hs h

theorem attemptLoop_bounds {s : Attempting τ} (hs : s.AtHead) (as : List α) : LoopBounds (attemptLoop body) s as := by
  have hspec := attemptLoop_spec hbody (Q := fun _ => True) fun _ _ _ _ _ => trivial
  have hle : s.budget.max - s.budget.used ≤ s.budget.max := sub_le _ _
  have hnodup : (trace (attemptLoop body).step (attemptLoop body).events (ForLoop.start s) as).Nodup :=
    ForLoop.trace_nodup_of_number (fun n s a => (hbody n s a).turn_eq) (fun n s a => (hbody n s a).nodup) _ as
  refine ⟨?_, fun hlen => ?_, ?_, ?_, fun n hn => ?_⟩
  · exact (hspec.turns_le hs as).trans hle
  · exact hspec.ended_of_length hs as (hle.trans hlen)
  · refine (hspec.trace_count_le hs as (m := fun s => s.budget.max - s.budget.used) (fun _ => rfl) ?_).trans hle
    exact fun n s a _ => (hbody n s a).countP_le
  · exact hspec.trace_check hs as fun n s a _ => (hbody n s a).check
  · refine List.count_eq_one_of_mem hnodup (mem_trace_of_mem (fun s a he => ?_) hn)
    rcases (attemptLoop body).step_cases s a with ⟨-, -, hnil⟩ | ⟨-, -, -, hnil⟩ | ⟨-, -, heq, -⟩
    · rw [hnil] at he
      cases he
    · rw [hnil] at he
      cases he
    · rw [heq] at he ⊢
      exact (hbody _ _ _).released he

end Bounds

theorem newRelayAttemptBudgetForRequest_head (group : String) (groups : List String) :
    (newRelayAttemptBudgetForRequest group groups).used < (newRelayAttemptBudgetForRequest group groups).max := by
  unfold newRelayAttemptBudgetForRequest
  split
  · exact succ_pos _
  · simp only
    split
    · exact succ_pos _
    · exact succ_pos _

/-- **The relay loops are bounded.** Whatever the environment answers, the loops of `Relay` and `RelayTask` end within as
many turns as the budget allows attempts, call the upstream at most that often and release every slot that they acquired
exactly once; and `RelayTask` leaves its loop with a task error or a result. -/
theorem relay_loops_bounded (site : RelaySite) (r : RelayRequest) :
    (∀ as, LoopBounds (relayLoop site r) (relayStart r) as) ∧
    ∀ as, LoopBounds (relayTaskLoop site r) (relayTaskStart r) as ∧
      ((run (relayTaskLoop site r).step (ForLoop.start (relayTaskStart r)) as).ended = true →
        (run (relayTaskLoop site r).step (ForLoop.start (relayTaskStart r)) as).state.vars.taskErr.isSome ∨
        (run (relayTaskLoop site r).step (ForLoop.start (relayTaskStart r)) as).state.vars.result.isSome) := by
  have hstart : (relayStart r).AtHead := ⟨rfl, newRelayAttemptBudgetForRequest_head _ _⟩
  have htask : (relayTaskStart r).AtHead := ⟨rfl, newRelayAttemptBudgetForRequest_head _ _⟩
  refine ⟨attemptLoop_bounds (relayBody_accountable site r) hstart, fun as => ⟨?_, ?_⟩⟩
  · exact attemptLoop_bounds (fun n s a => (relayTaskBody_ok site r n s a).1) htask as
  · refine (attemptLoop_spec (Q := fun s => s.vars.Settled) (fun n s a => (relayTaskBody_ok site r n s a).1) ?_).ends htask as
    intro n s a hs hstop
    refine ((relayTaskBody_ok site r n s a).2 hs.2).resolve_left ?_
    rw [hstop]
    exact nofun

end SynthApi
