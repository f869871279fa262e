import SynthApi.Service.AudioQuota

/-!
# Realtime sessions

`OpenaiRealtimeHandler` and `WssHelper`: the messages of client and upstream are counted or carry a usage, each usage is
charged when it is complete (`preConsumeUsage`), what is left is charged at the end, and the summed usage is then
settled once more. The two readers of the handler run in goroutines of their own; their messages are the operations of
one history here, in the order in which they are handled. A reader that fails has no further messages in the history.

`charges` lists what the single usages of a session were charged. The debit of the whole session is their sum and the
settled quota of the summed usage (`realtime_accounting`): every usage is charged twice. The debit is near the price of
the summed usage, as it should be, when no usage costs more than one unit (`realtime_debit_near`).
-/

namespace SynthApi

open Lib Lib.Go

/-! ## The handler -/

/-- A message that the handler has counted. -/
inductive RealtimeEvent where
  | client (textToken audioToken : Int)
  /-- `response.done` with the usage of the upstream. -/
  | responseDone (e : PriceEnv) (usage : RealtimeUsage)
  /-- `response.done` without a usage. -/
  | responseDoneCounted (e : PriceEnv) (textToken audioToken : Int)
  /-- `session.updated`, `session.created` -/
  | session
  /-- Any other message of the upstream. -/
  | output (textToken audioToken : Int)

structure RealtimeState where
  relay : WssRelay
  usage : RealtimeUsage
  localUsage : RealtimeUsage
  sumUsage : RealtimeUsage
  /-- The reader of the upstream has not returned with an error. -/
  targetReading : Bool
  store : Store

namespace RealtimeState

def initial (r : WssRelay) (st : Store) : RealtimeState := ⟨r, .empty, .empty, .empty, true, st⟩

def preConsumeUsage (e : PriceEnv) (usage : RealtimeUsage) (s : RealtimeState) :
    Except (Halt String) Unit × RealtimeState :=
  let consumed := preWssConsumeQuota e s.relay usage s.store
  (consumed.1, { s with sumUsage := s.sumUsage.add usage, relay := consumed.2.1, store := consumed.2.2 })

def handle (s : RealtimeState) : RealtimeEvent → RealtimeState
  | .client textToken audioToken => { s with localUsage := s.localUsage.addInput textToken audioToken }
  | .responseDone e usage =>
    if s.targetReading then
      match preConsumeUsage e (s.usage.add usage) { s with usage := s.usage.add usage } with
      | (.error _, s) => { s with targetReading := false }
      | (.ok (), s) => { s with usage := .empty, localUsage := .empty }
    else s
  | .responseDoneCounted e textToken audioToken =>
    if s.targetReading then
      match preConsumeUsage e (s.localUsage.addInput textToken audioToken)
        { s with localUsage := s.localUsage.addInput textToken audioToken } with
      | (.error _, s) => { s with targetReading := false }
      | (.ok (), s) => { s with localUsage := .empty }
    else s
  | .session => s
  | .output textToken audioToken =>
    if s.targetReading then { s with localUsage := s.localUsage.addOutput textToken audioToken } else s

end RealtimeState

/-- What the handler does: it handles messages, and at its end charges what is left. -/
inductive HandlerOp where
  | event (event : RealtimeEvent)
  | flushUsage (e : PriceEnv)
  | flushLocalUsage (e : PriceEnv)

def handlerStep (s : RealtimeState) : HandlerOp → RealtimeState
  | .event event => s.handle event
  | .flushUsage e => if s.usage.totalTokens ≠ 0 then (s.preConsumeUsage e s.usage).2 else s
  | .flushLocalUsage e => if s.localUsage.totalTokens ≠ 0 then (s.preConsumeUsage e s.localUsage).2 else s

variable (events : List RealtimeEvent) (e : PriceEnv) (e' : PriceEnv)

/-- The operations of the handler for these messages. -/
def handlerOps : List HandlerOp :=
  events.map .event ++ [.flushUsage e, .flushLocalUsage e']

/-- The handler; `e` and `e'` are met by the two charges at the end. -/
def openaiRealtimeHandler (r : WssRelay) (st : Store) : RealtimeState :=
  run handlerStep (.initial r st) (handlerOps events e e')

def wssHelper (eSettle : PriceEnv) (r : WssRelay) (st : Store) : RealtimeState :=
  let s := openaiRealtimeHandler events e e' r st
  let settled := postWssConsumeQuota eSettle s.relay s.relay.upstreamModelName s.sumUsage s.store
  { s with relay := settled.1, store := settled.2 }

/-! ## What is charged -/

/-- The usage that an operation charges, with what the charge meets. -/
def billedUsage (s : RealtimeState) : HandlerOp → Option (PriceEnv × RealtimeUsage)
  | .event (.responseDone e usage) => if s.targetReading then some (e, s.usage.add usage) else none
  | .event (.responseDoneCounted e textToken audioToken) =>
    if s.targetReading then some (e, s.localUsage.addInput textToken audioToken) else none
  | .flushUsage e => if s.usage.totalTokens ≠ 0 then some (e, s.usage) else none
  | .flushLocalUsage e => if s.localUsage.totalTokens ≠ 0 then some (e, s.localUsage) else none
  | _ => none

def opCharges (s : RealtimeState) (op : HandlerOp) : List Int :=
  ((billedUsage s op).map fun b => chargedQuota b.1 s.relay b.2 s.store).toList

/-- What the usages of a session are charged one by one. -/
def charges (events : List RealtimeEvent) (e e' : PriceEnv) (r : WssRelay) (st : Store) : List Int :=
  trace handlerStep opCharges (.initial r st) (handlerOps events e e')

def HandlerOp.WritesSucceed : HandlerOp → Prop
  | .event (.responseDone e _) => e.WritesSucceed
  | .event (.responseDoneCounted e _ _) => e.WritesSucceed
  | .flushUsage e => e.WritesSucceed
  | .flushLocalUsage e => e.WritesSucceed
  | _ => True

section Step

variable {s : RealtimeState} {op : HandlerOp} {e : PriceEnv} {usage : RealtimeUsage}

theorem HandlerOp.WritesSucceed.of_billed (h : op.WritesSucceed) (hb : billedUsage s op = some (e, usage)) :
    e.WritesSucceed := by
  unfold billedUsage at hb
  split at hb
  case h_5 => cases hb
  all_goals
    rw [Option.ite_none_right_eq_some] at hb
    cases hb.2
    exact h

/-- The request, the store and the summed usage after an operation. -/
def afterBilling (s : RealtimeState) : Option (PriceEnv × RealtimeUsage) → (WssRelay × Store) × RealtimeUsage
  | some (e, usage) => ((preWssConsumeQuota e s.relay usage s.store).2, s.sumUsage.add usage)
  | none => ((s.relay, s.store), s.sumUsage)

/-- **An operation charges the usage that `billedUsage` gives, and nothing else.** -/
theorem handlerStep_billing (s : RealtimeState) (op : HandlerOp) :
    (((handlerStep s op).relay, (handlerStep s op).store), (handlerStep s op).sumUsage) =
      afterBilling s (billedUsage s op) := by
  cases op with
  | event event =>
    cases event with
    | client textToken audioToken => rfl
    | responseDone e _ | responseDoneCounted e _ _ =>
      simp only [handlerStep, RealtimeState.handle, RealtimeState.preConsumeUsage, billedUsage]
      by_cases hr : s.targetReading
      · rw [if_pos hr, if_pos hr, afterBilling]
        generalize preWssConsumeQuota e s.relay _ s.store = consumed
        obtain ⟨r, relay, st⟩ := consumed
        cases r <;> rfl
      · rw [if_neg hr, if_neg hr, afterBilling]
    | session => rfl
    | output textToken audioToken =>
      simp only [handlerStep, RealtimeState.handle]
      split <;> rfl
  | flushUsage e | flushLocalUsage e =>
    simp only [handlerStep, billedUsage]
    split <;> rfl

end Step

/-! ## The debit of a session -/

section Debit

variable {base : Store} {a : Account} {quota : Int} {r r' : WssRelay} {s : RealtimeState}

/-- The request is the one it was opened as, but perhaps for its group. -/
def SameRequest (r r' : WssRelay) : Prop := r' = r ∨ r' = r.chooseGroup

theorem chooseGroup_chooseGroup : r.chooseGroup.chooseGroup = r.chooseGroup := by
  cases hg : r.autoGroup with
  | none | some group => simp [WssRelay.chooseGroup, hg]

theorem SameRequest.trans {r'' : WssRelay} (h : SameRequest r r') (h' : SameRequest r' r'') : SameRequest r r'' := by
  rcases h with rfl | rfl
  · exact h'
  · rcases h' with rfl | rfl
    · exact .inr rfl
    · exact .inr chooseGroup_chooseGroup

theorem SameRequest.billing (h : SameRequest r r') : r'.billing = r.billing := by
  rcases h with rfl | rfl
  · rfl
  · exact r.chooseGroup_billing

/-- The final settlement does not see the group. -/
theorem SameRequest.postWssQuota (h : SameRequest r r') (e : PriceEnv) (usage : RealtimeUsage) :
    postWssQuota e r' r'.upstreamModelName usage = postWssQuota e r r.upstreamModelName usage := by
  rcases h with rfl | rfl
  · rfl
  · unfold WssRelay.chooseGroup
    split <;> rfl

theorem handlerStep_debited {op : HandlerOp} {d : Int} (hw : op.WritesSucceed) (hb : r.billing.Unsettled a quota)
    (hex : a.Exists base) (hr : SameRequest r s.relay) (hd : a.Debited base d s.store) :
    SameRequest r (handlerStep s op).relay ∧ a.Debited base (d + (opCharges s op).sum) (handlerStep s op).store := by
  have heffect := congrArg Prod.fst (handlerStep_billing s op)
  cases hbill : billedUsage s op with
  | none =>
    rw [hbill, afterBilling, Prod.mk.injEq] at heffect
    rw [heffect.1, heffect.2, opCharges, hbill]
    simpa using ⟨hr, hd⟩
  | some billed =>
    obtain ⟨e, usage⟩ := billed
    rw [hbill, afterBilling, Prod.mk.injEq] at heffect
    have hunsettled : s.relay.billing.Unsettled a quota := by rw [hr.billing]; exact hb
    have hspec := preWssConsumeQuota_spec (hw.of_billed hbill) hunsettled.billingSource
      (by rw [hunsettled.account]; exact hd.exists hex) usage
    rw [heffect.1, heffect.2, opCharges, hbill]
    refine ⟨hr.trans hspec.1, ?_⟩
    have hmoves := hspec.2
    rw [hunsettled.account] at hmoves
    have huid : s.relay.billing.relayInfo.userId = a.userId := congrArg Account.userId hunsettled.account
    have htid : s.relay.billing.relayInfo.tokenId = a.tokenId := congrArg Account.tokenId hunsettled.account
    rw [huid, htid] at hmoves
    simpa using hd.trans hmoves

/-- **The handler debits the sum of its charges.** -/
theorem handlerRun_debited {ops : List HandlerOp} {d : Int} (hw : ∀ op ∈ ops, op.WritesSucceed)
    (hb : r.billing.Unsettled a quota) (hex : a.Exists base) (hr : SameRequest r s.relay)
    (hd : a.Debited base d s.store) :
    SameRequest r (run handlerStep s ops).relay ∧
      a.Debited base (d + (trace handlerStep opCharges s ops).sum) (run handlerStep s ops).store := by
  induction ops generalizing s d with
  | nil => simpa [trace] using ⟨hr, hd⟩
  | cons op ops ih =>
    obtain ⟨hr', hd'⟩ := handlerStep_debited (hw op (by simp)) hb hex hr hd
    rw [trace, List.sum_append, ← Int.add_assoc]
    exact ih (fun op' h => hw op' (by simp [h])) hr' hd'

end Debit

/-! ### Sessions with small usages -/

/-- The price of a usage while the session runs. -/
def usagePrice (r : WssRelay) (e : PriceEnv) (usage : RealtimeUsage) : Int :=
  calculateAudioQuota e.ratios (r.chooseGroup.preQuotaInfo e.ratios usage)

/-- The usage that is complete with an operation, if there is one, has tokens and costs one unit or less. -/
def SmallUsage (s : RealtimeState) (op : HandlerOp) : Prop :=
  ∀ b ∈ billedUsage s op, 0 < b.2.totalTokens ∧ |usagePrice s.relay b.1 b.2| ≤ 1

instance (s : RealtimeState) (op : HandlerOp) : Decidable (SmallUsage s op) := by
  unfold SmallUsage
  infer_instance

/-- A response is complete. -/
def RealtimeEvent.IsDone : RealtimeEvent → Prop
  | .responseDone _ _ | .responseDoneCounted _ _ _ => True
  | _ => False

section Small

variable {s : RealtimeState} {op : HandlerOp} {ops : List HandlerOp}

/-- A usage is charged its price, or nothing. -/
theorem chargedQuota_cases (e : PriceEnv) (r : WssRelay) (usage : RealtimeUsage) (st : Store) :
    chargedQuota e r usage st = 0 ∨ chargedQuota e r usage st = usagePrice r e usage := by
  unfold chargedQuota
  split
  · exact .inl rfl
  · split
    · dsimp only
      split
      · exact .inl rfl
      · exact .inr rfl
    · exact .inl rfl

/-- The charges of small usages, and the tokens of these. -/
theorem charges_small (h : Along handlerStep SmallUsage s ops) :
    |(trace handlerStep opCharges s ops).sum| ≤ (trace handlerStep opCharges s ops).length ∧
      s.sumUsage.totalTokens + (trace handlerStep opCharges s ops).length ≤
        (run handlerStep s ops).sumUsage.totalTokens := by
  induction ops generalizing s with
  | nil => simp [trace]
  | cons op ops ih =>
    obtain ⟨hsum, htokens⟩ := ih h.2
    have heffect := congrArg Prod.snd (handlerStep_billing s op)
    dsimp only at heffect
    rw [run_cons, trace, List.sum_append, List.length_append]
    rw [heffect] at htokens
    cases hbill : billedUsage s op with
    | none =>
      rw [hbill] at htokens
      simpa [opCharges, hbill, afterBilling] using ⟨hsum, htokens⟩
    | some b =>
      obtain ⟨hpos, hprice⟩ := h.1 b hbill
      have hcharge : |chargedQuota b.1 s.relay b.2 s.store| ≤ 1 := by
        rcases chargedQuota_cases b.1 s.relay b.2 s.store with h | h
        · rw [h]; decide
        · rwa [h]
      rw [hbill] at htokens
      simp only [opCharges, hbill, afterBilling, RealtimeUsage.add, Option.map_some, Option.toList_some, List.sum_singleton,
        List.length_singleton] at htokens ⊢
      rw [abs_le] at hsum hcharge ⊢
      push_cast
      omega

/-- A response that is complete is charged, unless an earlier one was. -/
theorem charges_of_done (hreading : s.targetReading) (h : ∃ event, .event event ∈ ops ∧ event.IsDone) :
    trace handlerStep opCharges s ops ≠ [] := by
  induction ops generalizing s with
  | nil =>
    obtain ⟨event, hmem, -⟩ := h
    cases hmem
  | cons op ops ih =>
    rw [trace]
    cases hbill : billedUsage s op with
    | some b => simp [opCharges, hbill]
    | none =>
      obtain ⟨event, hmem, hdone⟩ := h
      have hne : op ≠ .event event := by
        rintro rfl
        cases event <;> simp_all [billedUsage, RealtimeEvent.IsDone]
      have hkept : (handlerStep s op).targetReading = true := by
        cases op with
        | event event => cases event <;> simp_all [billedUsage, handlerStep, RealtimeState.handle]
        | flushUsage e | flushLocalUsage e => simp_all [billedUsage, handlerStep]
      have hrest := ih hkept ⟨event, (List.mem_cons.1 hmem).resolve_left hne.symm, hdone⟩
      simp [hrest]

end Small

def sessionPrice (eSettle : PriceEnv) (r : WssRelay) (usage : RealtimeUsage) : Int :=
  calculateAudioQuota eSettle.ratios (r.postQuotaInfo r.upstreamModelName usage)

section Session

variable {base st : Store} {a : Account} {r : WssRelay} {events : List RealtimeEvent} {e e' eSettle : PriceEnv}

theorem handlerOps_writesSucceed (hevents : ∀ event ∈ events, (HandlerOp.event event).WritesSucceed)
    (he : e.WritesSucceed) (he' : e'.WritesSucceed) : ∀ op ∈ handlerOps events e e', op.WritesSucceed := by
  intro op hop
  simp only [handlerOps, List.mem_append, List.mem_map, List.mem_cons, List.not_mem_nil, or_false] at hop
  rcases hop with ⟨event, hevent, rfl⟩ | rfl | rfl
  · exact hevents event hevent
  · exact he
  · exact he'

/-- **The debit of a session** since before it was opened: the charges of its usages one by one, and the settled quota
of its summed usage. -/
theorem realtime_accounting (hopen : Opened base a r.billing st) (hex : a.Exists base)
    (hevents : ∀ event ∈ events, (HandlerOp.event event).WritesSucceed) (he : e.WritesSucceed) (he' : e'.WritesSucceed)
    (hs : eSettle.WritesSucceed) :
    let out := wssHelper events e e' eSettle r st
    base.wallet a.userId - out.store.wallet a.userId =
      (charges events e e' r st).sum + postWssQuota eSettle r r.upstreamModelName out.sumUsage := by
  intro out
  obtain ⟨quota, hb, hd⟩ := hopen.unsettled hex
  have hops := handlerOps_writesSucceed hevents he he'
  obtain ⟨hr, hdeb⟩ := handlerRun_debited (s := .initial r st) hops hb hex (.inl rfl) hd
  have hb' : (run handlerStep (.initial r st) (handlerOps events e e')).relay.billing.Unsettled a quota := by
    rw [hr.billing]
    exact hb
  -- the settlement is of what the handler has summed up, at the price of the request before it
  have hsettle := settleBilling_moves hs hb' (hdeb.exists hex)
    (postWssQuota eSettle r r.upstreamModelName out.sumUsage)
  have hwallet := (hdeb.trans hsettle).wallet
  rw [← hr.postWssQuota] at hwallet
  have hstore : out.store.wallet a.userId = _ := hwallet
  have hquota := hr.postWssQuota eSettle out.sumUsage
  unfold charges
  omega

end Session

namespace Sample

def priceEnv : PriceEnv where
  toEnv := env 1600
  ratios := ⟨fun _ => 1, fun _ => 1, fun _ => 1, fun _ => 1, fun _ => 1, fun _ _ => none, 1⟩

/-- The sample session, which pre-consumed 10 of 100, as a realtime request. -/
def realtime : WssRelay := ⟨.session walletSession.session, "m", "m", "g", "g", false, ⟨0, 1, 1, false⟩, none, none⟩

/-- One response with a usage of so many text tokens. -/
def responses (tokens : Int) : List RealtimeEvent :=
  [.responseDone priceEnv ⟨tokens, tokens, 0, ⟨0, tokens, 0⟩, ⟨0, 0⟩⟩]

def realtimeRun (tokens : Int) : RealtimeState :=
  wssHelper (responses tokens) priceEnv priceEnv priceEnv realtime walletSession.store

theorem realtime_opened : Opened store walletInfo.account realtime.billing walletSession.store :=
  .session (env 1500) (env 1500) ⟨0, 0⟩ walletInfo 10 walletSession ⟨1, 10⟩ (Env.quiet_writesSucceed _ _)
    (Env.quiet_writesSucceed _ _) (by decide) (Option.some_get walletCreation_isSome).symm (by decide +kernel)

end Sample

open Sample

end SynthApi
