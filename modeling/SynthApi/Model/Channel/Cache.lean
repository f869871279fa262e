import SynthApi.Lib.Index
import SynthApi.Lib.Run
import SynthApi.Lib.Transaction
import SynthApi.Model.Channel.Basic
import Mathlib.Data.List.Sort

/-!
# The channel cache

`InitChannelCache` (`model/channel_cache.go`) lists the enabled channels by group and model;
`CacheUpdateChannelStatus` takes a channel that is not enabled any more out of the lists; and
`GetRandomSatisfiedChannelExcludingWithLoad` draws a channel from one list.

A channel that is drawn is listed (`selected_listed`).
-/

namespace SynthApi

open Lib Lib.Go

/-! ## The cache -/

/-- The two maps; a list that is missing is empty. -/
structure ChannelCache where
  group2model2channels : Index String String Int
  channelsIDM : Int → Option Channel
  keyed : ∀ {id c}, channelsIDM id = some c → c.id = id

/-- `sort.Slice` by priority, which need not be stable: a way to sort ids, for each priority of them. -/
structure PrioritySort where
  sort : (Int → Int) → List Int → List Int
  perm : ∀ priority l, (sort priority l).Perm l
  sorted : ∀ priority l, (sort priority l).Pairwise fun i j => priority i ≥ priority j

/-- The polling index of the cached copy goes on. -/
def keepPollingIndex (old : Option Channel) (c : Channel) : Channel :=
  match old with
  | none => c
  | some old =>
    if c.channelInfo.isMultiKey ∧ c.channelInfo.multiKeyMode = .polling ∧ old.channelInfo.isMultiKey ∧
        old.channelInfo.multiKeyMode = .polling then
      { c with channelInfo := { c.channelInfo with multiKeyPollingIndex := old.channelInfo.multiKeyPollingIndex } }
    else c

@[simp] theorem keepPollingIndex_id (old : Option Channel) (c : Channel) : (keepPollingIndex old c).id = c.id := by
  unfold keepPollingIndex
  split
  · rfl
  · split <;> rfl

def putChannel (byId : Int → Option Channel) (c : Channel) : Int → Option Channel := Function.update byId c.id (some c)

theorem putChannel_id {byId : Int → Option Channel} (h : ∀ {id c}, byId id = some c → c.id = id) {d c : Channel} {id : Int}
    (hc : putChannel byId d id = some c) : c.id = id := by
  unfold putChannel at hc
  by_cases hid : id = d.id
  · subst hid
    rw [Function.update_self] at hc
    cases hc
    rfl
  · rw [Function.update_of_ne hid] at hc
    exact h hc

/-- `newChannelId2channel`. -/
def channelsById (channels : List Channel) : Int → Option Channel := channels.foldl putChannel fun _ => none

theorem channelsById_id {channels : List Channel} {id : Int} {c : Channel} (h : channelsById channels id = some c) :
    c.id = id := by
  have hfold : ∀ (channels : List Channel) (byId : Int → Option Channel), (∀ {id c}, byId id = some c → c.id = id) →
      ∀ {id c}, channels.foldl putChannel byId id = some c → c.id = id := by
    intro channels
    induction channels with
    | nil => exact fun _ h => h
    | cons d channels ih => exact fun byId hbyId => ih _ (putChannel_id hbyId)
  refine hfold channels _ (fun hnone => ?_) h
  cases hnone

/-- The enabled channels by group and model, in the order in which they are read. -/
def channelIndex (channels : List Channel) : Index String String Int :=
  Index.build Channel.listing Channel.id (channels.filter fun c => c.status = channelStatusEnabled)

def initChannelCache (order : PrioritySort) (channels : List Channel) (old : ChannelCache) : ChannelCache where
  group2model2channels := fun group model =>
    order.sort (fun id => ((channelsById channels id).map Channel.getPriority).getD 0) (channelIndex channels group model)
  channelsIDM := fun id => (channelsById channels id).map (keepPollingIndex (old.channelsIDM id))
  keyed := by
    intro id c h
    obtain ⟨d, hd, rfl⟩ := Option.map_eq_some_iff.1 h
    rw [keepPollingIndex_id]
    exact channelsById_id hd

def cacheUpdateChannelStatus (id status : Int) (c : ChannelCache) : ChannelCache where
  channelsIDM := Function.update c.channelsIDM id ((c.channelsIDM id).map fun ch => { ch with status := status })
  group2model2channels :=
    if status ≠ channelStatusEnabled then c.group2model2channels.erase id else c.group2model2channels
  keyed := by
    intro i ch h
    by_cases hi : i = id
    · subst hi
      rw [Function.update_self] at h
      obtain ⟨d, hd, rfl⟩ := Option.map_eq_some_iff.1 h
      have hid : d.id = i := c.keyed hd
      exact hid
    · rw [Function.update_of_ne hi] at h
      exact c.keyed h

def cacheUpdateChannel (channel : Channel) (c : ChannelCache) : ChannelCache where
  channelsIDM := putChannel c.channelsIDM channel
  group2model2channels := c.group2model2channels
  keyed := putChannel_id c.keyed

/-- A change of the cache between two rebuilds. -/
inductive CacheOp where
  | updateStatus (id status : Int)
  | update (channel : Channel)

def cacheStep (c : ChannelCache) : CacheOp → ChannelCache
  | .updateStatus id status => cacheUpdateChannelStatus id status c
  | .update channel => cacheUpdateChannel channel c

/-! ## Selection -/

/-- What a selection is asked for and what it reads besides the cache. -/
structure Selection where
  group : String
  model : String
  retry : Int
  excludeIDs : List Int
  activeRequests : Int → Int
  /-- `channelRuntimeSelectionWeightPercent`. -/
  runtimePercent : Int → Int
  runtimePercent_mem : ∀ id, 10 ≤ runtimePercent id ∧ runtimePercent id ≤ 100
  /-- `SelectionWeightPct` of the hints from the logs. -/
  logPerfHints : Int → Option Int
  /-- `SelectionWeightPct` of the hints from the metrics. -/
  channelPerfHints : Int → Option Int
  defaultMaxConcurrency : Int
  /-- `rand.Intn(n)` is `random % n`. -/
  random : Nat

def handleThinkingBudgetModel (name start wildcard : String) : String :=
  if hasPrefix name start ∧ strContains name "-thinking-" then wildcard else name

def formatMatchingModelName (name : String) : String :=
  let name :=
    if hasPrefix name "gemini-2.5-flash-lite" then
      handleThinkingBudgetModel name "gemini-2.5-flash-lite" "gemini-2.5-flash-lite-thinking-*"
    else if hasPrefix name "gemini-2.5-flash" then
      handleThinkingBudgetModel name "gemini-2.5-flash" "gemini-2.5-flash-thinking-*"
    else if hasPrefix name "gemini-2.5-pro" then
      handleThinkingBudgetModel name "gemini-2.5-pro" "gemini-2.5-pro-thinking-*"
    else name
  let name := if hasPrefix name "gpt-4-gizmo" then "gpt-4-gizmo-*" else name
  if hasPrefix name "gpt-4o-gizmo" then "gpt-4o-gizmo-*" else name

def interpolatePercent (value first last startPercent endPercent : Int) : Int :=
  if value ≤ first then startPercent
  else if value ≥ last ∨ last ≤ first then endPercent
  else startPercent - ((startPercent - endPercent) * (value - first)).tdiv (last - first)

def channelResponseTimeWeightPercent (responseTimeMs : Int) : Int :=
  if responseTimeMs ≤ 0 ∨ responseTimeMs ≤ 3000 then 100
  else if responseTimeMs ≤ 8000 then interpolatePercent responseTimeMs 3000 8000 100 60
  else if responseTimeMs ≤ 15000 then interpolatePercent responseTimeMs 8000 15000 60 25
  else 15

def lowerPercent (hint : Option Int) (percent : Int) : Int :=
  match hint with
  | none => percent
  | some pct => if pct > 0 ∧ pct < percent then pct else percent

def adjustedChannelSelectionWeight (q : Selection) (channel : Channel) (baseWeight : Int) : Int :=
  if baseWeight ≤ 0 then 0
  else
    let percent := channelResponseTimeWeightPercent channel.responseTime
    let percent := if q.runtimePercent channel.id < percent then q.runtimePercent channel.id else percent
    let percent := lowerPercent (q.channelPerfHints channel.id) (lowerPercent (q.logPerfHints channel.id) percent)
    let limit := channel.effectiveMaxConcurrency q.defaultMaxConcurrency
    let activeRequests := q.activeRequests channel.id
    if limit > 0 ∧ activeRequests > 0 ∧ limit - activeRequests ≤ 0 then 1
    else
      let loadPercent := (wrap64 ((limit - activeRequests) * 100)).tdiv limit
      let loadPercent := if loadPercent < 10 then 10 else loadPercent
      let percent := if limit > 0 ∧ activeRequests > 0 then (percent * loadPercent).tdiv 100 else percent
      let adjusted := (wrap64 (baseWeight * percent)).tdiv 100
      if adjusted ≤ 0 then 1 else adjusted

def filterExcludedChannelIDs (channels excludeIDs : List Int) : List Int :=
  if channels = [] ∨ excludeIDs = [] then channels else channels.filter fun id => id ∉ excludeIDs

section Select

variable (c : ChannelCache)

def inconsistent {α : Type} (id : Int) : Except String α :=
  .error ("数据库一致性错误，渠道# " ++ toString id ++ " 不存在，请联系管理员修复")

def getChannelsByPriority (targetPriority : Int) : List Int → Except String (List Channel)
  | [] => .ok []
  | id :: ids =>
    match c.channelsIDM id with
    | none => inconsistent id
    | some channel => do
      let channels ← getChannelsByPriority targetPriority ids
      .ok (if channel.getPriority = targetPriority then channel :: channels else channels)

def priorities : List Int → Except String (List Int)
  | [] => .ok []
  | id :: ids =>
    match c.channelsIDM id with
    | none => inconsistent id
    | some channel => do
      let rest ← priorities ids
      .ok (channel.getPriority :: rest)

/-- `sortedUniquePriorities`, from the priorities. -/
def sortUnique (priorities : List Int) : List Int := priorities.dedup.insertionSort (· ≥ ·)

def firstPriorityIndex (channels : List Int) : List Int → Nat → Except String (Option Nat)
  | [], _ => .ok none
  | priority :: priorities, i => do
    let priorityChannels ← getChannelsByPriority c priority channels
    if priorityChannels ≠ [] then .ok (some i) else firstPriorityIndex channels priorities (i + 1)

def targetPriorityIndex (channels sorted : List Int) (retry : Int) (excluding : Bool) : Except String Int :=
  if retry > 0 ∧ excluding then do
    let first ← firstPriorityIndex c channels (sorted.take (retry.toNat + 1)) 0
    .ok ((first.map fun i => (i : Int)).getD retry)
  else .ok retry

/-- `sortedUniquePriorities[i]`; a position outside of the slice panics. -/
def priorityAt (sorted : List Int) (i : Int) : Except String Int :=
  if i < 0 then .error "index out of range"
  else
    match sorted[i.toNat]? with
    | none => .error "index out of range"
    | some priority => .ok priority

/-- The channels with their effective weights, which are positive. -/
def weightedChannels (q : Selection) (targetChannels : List Channel) : List (Channel × Int) :=
  let sumWeight := wrap64 (targetChannels.map Channel.getWeight).sum
  let smoothingAdjustment := if sumWeight = 0 then 100 else 0
  let smoothingFactor := if sumWeight ≠ 0 ∧ sumWeight.tdiv targetChannels.length < 10 then 100 else 1
  (targetChannels.map fun channel => (channel,
    adjustedChannelSelectionWeight q channel (wrap64 (channel.getWeight * smoothingFactor + smoothingAdjustment)))).filter
      fun candidate => ¬ candidate.2 ≤ 0

def pickWeighted : List (Channel × Int) → Int → Option Channel
  | [], _ => none
  | (channel, weight) :: rest, randomWeight =>
    if randomWeight - weight < 0 then some channel else pickWeighted rest (randomWeight - weight)

def drawChannel (q : Selection) (targetPriority : Int) (targetChannels : List Channel) :
    Except String (Option Channel) :=
  if targetChannels = [] then
    .error ("no channel found, group: " ++ q.group ++ ", model: " ++ q.model ++ ", priority: " ++ toString targetPriority)
  else
    let totalWeight := wrap64 ((weightedChannels q targetChannels).map Prod.snd).sum
    if totalWeight ≤ 0 then .error "channel not found"
    else
      match pickWeighted (weightedChannels q targetChannels) ((q.random : Int) % totalWeight) with
      | none => .error "channel not found"
      | some channel => .ok (some channel)

def listed (q : Selection) : List Int :=
  if c.group2model2channels q.group q.model = [] then
    c.group2model2channels q.group (formatMatchingModelName q.model)
  else c.group2model2channels q.group q.model

def getRandomSatisfiedChannelExcludingWithLoad (q : Selection) : Except String (Option Channel) :=
  let allChannels := listed c q
  if allChannels = [] then .ok none
  else
    let channels := filterExcludedChannelIDs allChannels q.excludeIDs
    if channels = [] then .ok none
    else do
      let sorted := sortUnique (← priorities c allChannels)
      let retry := if q.retry ≥ sorted.length then (sorted.length : Int) - 1 else q.retry
      let index ← targetPriorityIndex c channels sorted retry (decide (q.excludeIDs ≠ []))
      let targetPriority ← priorityAt sorted index
      let targetChannels ← getChannelsByPriority c targetPriority channels
      drawChannel q targetPriority targetChannels

end Select

/-! ## What is drawn is listed -/

section Listed

variable {c : ChannelCache} {q : Selection} {ch : Channel} {priority id : Int} {ids : List Int} {channels : List Channel}

theorem getChannelsByPriority_mem
    (h : getChannelsByPriority c priority ids = .ok channels) (hm : ch ∈ channels) :
    ∃ id ∈ ids, c.channelsIDM id = some ch := by
  induction ids generalizing channels with
  | nil =>
    cases h
    cases hm
  | cons id ids ih =>
    unfold getChannelsByPriority at h
    cases hid : c.channelsIDM id with
    | none =>
      rw [hid] at h
      cases h
    | some channel =>
      rw [hid] at h
      obtain ⟨rest, hrest, hch⟩ := bind_ok h
      cases hch
      have hmem : ch = channel ∨ ch ∈ rest := by
        split at hm
        · exact List.mem_cons.1 hm
        · exact .inr hm
      rcases hmem with rfl | hmem
      · exact ⟨id, List.mem_cons_self, hid⟩
      · obtain ⟨i, hi, hci⟩ := ih hrest hmem
        exact ⟨i, List.mem_cons_of_mem id hi, hci⟩

theorem pickWeighted_mem {candidates : List (Channel × Int)} {randomWeight : Int}
    (h : pickWeighted candidates randomWeight = some ch) : ∃ w, (ch, w) ∈ candidates := by
  induction candidates generalizing randomWeight with
  | nil => cases h
  | cons candidate rest ih =>
    obtain ⟨channel, weight⟩ := candidate
    unfold pickWeighted at h
    split at h
    · cases h
      exact ⟨weight, List.mem_cons_self⟩
    · obtain ⟨w, hw⟩ := ih h
      exact ⟨w, List.mem_cons_of_mem _ hw⟩

theorem drawChannel_mem
    (h : drawChannel q priority channels = .ok (some ch)) : ch ∈ channels := by
  unfold drawChannel at h
  split at h
  · cases h
  simp only at h
  split at h
  · cases h
  split at h
  · cases h
  · rename_i channel hpick
    cases h
    obtain ⟨w, hw⟩ := pickWeighted_mem hpick
    obtain ⟨d, hd, heq⟩ := List.mem_map.1 (List.mem_filter.1 hw).1
    cases heq
    exact hd

theorem mem_filterExcluded {excludeIDs : List Int} :
    id ∈ filterExcludedChannelIDs ids excludeIDs ↔ id ∈ ids ∧ id ∉ excludeIDs := by
  unfold filterExcludedChannelIDs
  split
  · rename_i h
    rcases h with rfl | rfl <;> simp
  · simp

theorem mem_of_mem_listed (h : id ∈ listed c q) : ∃ model, id ∈ c.group2model2channels q.group model := by
  unfold listed at h
  split at h
  · exact ⟨_, h⟩
  · exact ⟨_, h⟩

variable (h : getRandomSatisfiedChannelExcludingWithLoad c q = .ok (some ch))

include h

theorem selected_kept :
    ch.id ∈ listed c q ∧ ch.id ∉ q.excludeIDs ∧ c.channelsIDM ch.id = some ch := by
  unfold getRandomSatisfiedChannelExcludingWithLoad at h
  simp only at h
  split at h
  · cases h
  split at h
  · cases h
  obtain ⟨ps, -, h⟩ := bind_ok h
  obtain ⟨index, -, h⟩ := bind_ok h
  obtain ⟨priority, -, h⟩ := bind_ok h
  obtain ⟨channels, hchannels, h⟩ := bind_ok h
  obtain ⟨id, hid, hch⟩ := getChannelsByPriority_mem hchannels (drawChannel_mem h)
  obtain ⟨hlisted, hexcluded⟩ := mem_filterExcluded.1 hid
  rw [c.keyed hch]
  exact ⟨hlisted, hexcluded, hch⟩

/-- **A channel that is drawn is in a list of the group.** -/
theorem selected_listed :
    ∃ model, ch.id ∈ c.group2model2channels q.group model :=
  mem_of_mem_listed (selected_kept h).1

end Listed

end SynthApi
