import SynthApi.Lib.Table
import SynthApi.Model.Channel.Disabled

/-!
# The status of a channel and of its keys

`UpdateChannelStatus` (`model/channel.go`) changes the status of a channel, or of one key of a channel that has several,
first in the cached copy and then in the row. `handlerMultiKeyUpdate` gives copies that agree on the status and on the
statuses of the keys copies that agree again (`handler_keyState`). The row is left alone if its status is the new one
already; the cached copy is not. Hence `multiKey_agree_iff`: cache and database agree in every state of a run exactly if
every call finds another status in the row, or would change nothing.
-/

namespace SynthApi

open Lib Function Table Channel

/-! ## The handler -/

def hasEnabledMultiKey (keys : List String) (statusList : Nat → Option Int) : Bool :=
  (List.range keys.length).any fun i =>
    match statusList i with
    | none => true
    | some status => decide (status = channelStatusEnabled)

/-- The position of the first key with this text. -/
def keyIndex (keys : List String) (usingKey : String) : Option Nat := keys.findIdx? (· = usingKey)

def setKeyStatus (i : Nat) (status : Int) (reason : String) (now : Int) (info : ChannelInfo) : ChannelInfo :=
  if status = channelStatusEnabled then
    { info with multiKeyStatusList := update info.multiKeyStatusList i none }
  else
    { info with
      multiKeyStatusList := update info.multiKeyStatusList i (some status)
      multiKeyDisabledReason := update info.multiKeyDisabledReason i (some reason)
      multiKeyDisabledTime := update info.multiKeyDisabledTime i (some now) }

/-- `GetTimestamp()` is `now`. -/
def handlerMultiKeyUpdate (usingKey : String) (status : Int) (reason : String) (now : Int) (c : Channel) : Channel :=
  if c.keys = [] then { c with status := status }
  else
    match keyIndex c.keys usingKey with
    | none =>
      if usingKey ≠ "" then c
      else { c with status := status, statusReason := some (reason, now) }
    | some i =>
      let info := setKeyStatus i status reason now c.channelInfo
      if ¬ hasEnabledMultiKey c.keys info.multiKeyStatusList then
        { c with
          channelInfo := info
          status := channelStatusAutoDisabled
          statusReason := some ("All keys are disabled", now) }
      else if status = channelStatusEnabled then { c with channelInfo := info, status := channelStatusEnabled }
      else { c with channelInfo := info }

/-! ## Updates of the status -/

/-- The cache, the table of channels, and whether the abilities of a channel are enabled. -/
structure ChannelStore where
  cache : ChannelCache
  rows : List Channel
  abilities : Int → Bool

/-- A call of `UpdateChannelStatus`, with the times at which the cached copy and the row are changed. -/
structure StatusCall where
  channelId : Int
  usingKey : String
  status : Int
  reason : String
  cacheTime : Int
  rowTime : Int

/-- The cache after a call that found the channel there; `none` if the call returns. -/
def updateCachedStatus (a : StatusCall) (cached : Channel) (cache : ChannelCache) : Option ChannelCache :=
  if cached.channelInfo.isMultiKey then
    -- the cached copy is changed in place
    let c := handlerMultiKeyUpdate a.usingKey a.status a.reason a.cacheTime cached
    let cache := cacheUpdateChannel c cache
    some (if cached.status ≠ c.status then cacheUpdateChannelStatus a.channelId c.status cache else cache)
  else if cached.status = a.status then none
  else some (cacheUpdateChannelStatus a.channelId a.status cache)

/-- The row after a call that found another status in it. -/
def updateRowStatus (a : StatusCall) (row : Channel) : Channel :=
  if row.channelInfo.isMultiKey then handlerMultiKeyUpdate a.usingKey a.status a.reason a.rowTime row
  else { row with statusReason := some (a.reason, a.rowTime), status := a.status }

/-- `UpdateChannelStatus` with the memory cache, where every write succeeds: the result and the state after it. -/
def updateChannelStatus (s : ChannelStore) (a : StatusCall) : Bool × ChannelStore :=
  match s.cache.channelsIDM a.channelId with
  | none => (false, s)
  | some cached =>
    match updateCachedStatus a cached s.cache with
    | none => (false, s)
    | some cache =>
      match Table.lookup Channel.id a.channelId s.rows with
      | none => (false, { s with cache := cache })
      | some row =>
        if row.status = a.status then (false, { s with cache := cache })
        else
          let c := updateRowStatus a row
          (true,
            { cache := cache
              rows := Table.updateKey Channel.id a.channelId (fun _ => c) s.rows
              abilities :=
                if row.channelInfo.isMultiKey ∧ row.status = c.status then s.abilities
                else update s.abilities a.channelId (decide (a.status = channelStatusEnabled)) })

def statusStep (s : ChannelStore) (a : StatusCall) : ChannelStore := (updateChannelStatus s a).2

/-! ## What the handler does to the statuses -/

def Channel.keyState (c : Channel) : Int × (Nat → Option Int) := (c.status, c.channelInfo.multiKeyStatusList)

section Handler

variable {usingKey : String} {status : Int} {reason : String} {now now' : Int} {c d : Channel}

@[simp] theorem handler_id : (handlerMultiKeyUpdate usingKey status reason now c).id = c.id := by
  unfold handlerMultiKeyUpdate
  split
  · rfl
  split
  · split <;> rfl
  · simp only
    split
    · rfl
    · split <;> rfl

@[simp] theorem handler_keys : (handlerMultiKeyUpdate usingKey status reason now c).keys = c.keys := by
  unfold handlerMultiKeyUpdate
  split
  · rfl
  split
  · split <;> rfl
  · simp only
    split
    · rfl
    · split <;> rfl

@[simp] theorem setKeyStatus_isMultiKey (i : Nat) (info : ChannelInfo) :
    (setKeyStatus i status reason now info).isMultiKey = info.isMultiKey := by
  unfold setKeyStatus
  split <;> rfl

@[simp] theorem handler_isMultiKey :
    (handlerMultiKeyUpdate usingKey status reason now c).channelInfo.isMultiKey = c.channelInfo.isMultiKey := by
  unfold handlerMultiKeyUpdate
  split
  · rfl
  split
  · split <;> rfl
  · simp only
    split
    · exact setKeyStatus_isMultiKey _ _
    · split <;> exact setKeyStatus_isMultiKey _ _

def keyEntry (status : Int) : Option Int := if status = channelStatusEnabled then none else some status

@[simp] theorem setKeyStatus_list (i : Nat) (info : ChannelInfo) :
    (setKeyStatus i status reason now info).multiKeyStatusList =
      update info.multiKeyStatusList i (keyEntry status) := by
  unfold setKeyStatus keyEntry
  split <;> rfl

theorem keyState_handler : (handlerMultiKeyUpdate usingKey status reason now c).keyState =
    match keyIndex c.keys usingKey with
    | none => if c.keys = [] ∨ usingKey = "" then (status, c.channelInfo.multiKeyStatusList) else c.keyState
    | some i =>
      (if ¬ hasEnabledMultiKey c.keys (update c.channelInfo.multiKeyStatusList i (keyEntry status)) then
          channelStatusAutoDisabled
        else if status = channelStatusEnabled then channelStatusEnabled else c.status,
        update c.channelInfo.multiKeyStatusList i (keyEntry status)) := by
  unfold handlerMultiKeyUpdate
  by_cases hkeys : c.keys = []
  · simp [hkeys, keyIndex, keyState]
  · rw [if_neg hkeys]
    cases hindex : keyIndex c.keys usingKey with
    | none =>
      by_cases hkey : usingKey = ""
      · simp [hkey, keyState]
      · simp [hkey, hkeys]
    | some i =>
      simp only [setKeyStatus_list]
      split
      · simp [keyState]
      · split <;> simp [keyState]

/-- **Copies that agree on the statuses agree after the handler**, whatever the times. -/
theorem handler_keyState (hkeys : c.keys = d.keys) (h : c.keyState = d.keyState) :
    (handlerMultiKeyUpdate usingKey status reason now c).keyState =
      (handlerMultiKeyUpdate usingKey status reason now' d).keyState := by
  have hstatus : c.status = d.status := congrArg Prod.fst h
  have hlist : c.channelInfo.multiKeyStatusList = d.channelInfo.multiKeyStatusList := congrArg Prod.snd h
  rw [keyState_handler, keyState_handler, hkeys, hstatus, hlist, h]

/-- The call would change no status of the channel, whose status is the new one already. -/
def Unaffected (usingKey : String) (status : Int) (c : Channel) : Prop :=
  match keyIndex c.keys usingKey with
  | none => True
  | some i => c.channelInfo.multiKeyStatusList i = keyEntry status ∧
      (hasEnabledMultiKey c.keys c.channelInfo.multiKeyStatusList ∨ status = channelStatusAutoDisabled)

theorem handler_unaffected (hstatus : c.status = status) :
    (handlerMultiKeyUpdate usingKey status reason now c).keyState = c.keyState ↔ Unaffected usingKey status c := by
  rw [keyState_handler]
  unfold Unaffected
  cases hindex : keyIndex c.keys usingKey with
  | none => simp [keyState, hstatus]
  | some i =>
    simp only [keyState, Prod.mk.injEq, update_eq_self_iff]
    constructor
    · rintro ⟨hkeep, hentry⟩
      refine ⟨hentry.symm, ?_⟩
      rw [update_eq_self_iff.2 hentry] at hkeep
      by_cases hany : hasEnabledMultiKey c.keys c.channelInfo.multiKeyStatusList
      · exact .inl hany
      · rw [if_pos hany] at hkeep
        exact .inr (hstatus ▸ hkeep.symm)
    · rintro ⟨hentry, hany⟩
      refine ⟨?_, hentry.symm⟩
      rw [update_eq_self_iff.2 hentry.symm]
      split
      · rename_i hnone
        exact (hstatus.trans (hany.resolve_left hnone)).symm
      · split
        · rename_i henabled
          exact (hstatus.trans henabled).symm
        · rfl

end Handler

/-! ## Cache and database -/

def AgreeOn (id : Int) (s : ChannelStore) : Prop :=
  (s.cache.channelsIDM id).map Channel.keyState = (Table.lookup Channel.id id s.rows).map Channel.keyState

/-- The channel has several keys, in the cache and in the database, and they are the same. -/
structure Paired (id : Int) (s : ChannelStore) (c r : Channel) : Prop where
  cached : s.cache.channelsIDM id = some c
  row : Table.lookup Channel.id id s.rows = some r
  cachedMulti : c.channelInfo.isMultiKey = true
  rowMulti : r.channelInfo.isMultiKey = true
  keys : c.keys = r.keys

section Step

variable {id : Int} {s : ChannelStore} {c r : Channel} {a : StatusCall}

theorem Paired.agreeOn (h : Paired id s c r) : AgreeOn id s ↔ c.keyState = r.keyState := by
  rw [AgreeOn, h.cached, h.row]
  simp

/-- The channel after the handler of the call. -/
abbrev StatusCall.handled (a : StatusCall) (now : Int) (c : Channel) : Channel :=
  handlerMultiKeyUpdate a.usingKey a.status a.reason now c

theorem updateCachedStatus_multi (hc : s.cache.channelsIDM a.channelId = some c)
    (hm : c.channelInfo.isMultiKey) : ∃ cache, updateCachedStatus a c s.cache = some cache ∧
      cache.channelsIDM a.channelId = some (a.handled a.cacheTime c) := by
  have hid : c.id = a.channelId := s.cache.keyed hc
  have hput : (cacheUpdateChannel (a.handled a.cacheTime c) s.cache).channelsIDM a.channelId =
      some (a.handled a.cacheTime c) := by
    simp [cacheUpdateChannel, putChannel, ← hid]
  unfold updateCachedStatus
  rw [if_pos hm]
  refine ⟨_, rfl, ?_⟩
  split
  · -- the cache gets the status that the copy has already
    simp only [cacheUpdateChannelStatus, update_self, hput, Option.map_some]
  · exact hput

/-- **What a call does** to the copies of a channel with several keys: the handler changes the cached copy, and the row only
if its status is another one. -/
theorem statusStep_paired (h : Paired id s c r) (ha : a.channelId = id) :
    Paired id (statusStep s a) (a.handled a.cacheTime c)
      (if r.status = a.status then r else a.handled a.rowTime r) := by
  subst ha
  obtain ⟨cache, hcache, hc'⟩ := updateCachedStatus_multi h.cached h.cachedMulti
  have hrow : updateRowStatus a r = a.handled a.rowTime r := if_pos h.rowMulti
  have hrid : r.id = a.channelId := key_of_lookup h.row
  have hsaved : lookup Channel.id a.channelId (updateKey Channel.id a.channelId (fun _ => a.handled a.rowTime r) s.rows) =
      (lookup Channel.id a.channelId s.rows).map fun _ => a.handled a.rowTime r :=
    lookup_updateKey fun _ _ => by simp [hrid]
  rw [h.row] at hsaved
  unfold statusStep updateChannelStatus
  rw [h.cached]
  simp only [hcache, h.row, hrow]
  split
  · exact ⟨hc', h.row, by simpa using h.cachedMulti, h.rowMulti, by simpa using h.keys⟩
  · exact ⟨hc', hsaved, by simpa using h.cachedMulti, by simpa using h.rowMulti, by simpa using h.keys⟩

/-- The call finds another status in the row, or would change no status. -/
def RowFollows (id : Int) (s : ChannelStore) (a : StatusCall) : Prop :=
  ∀ r, Table.lookup Channel.id id s.rows = some r → r.status ≠ a.status ∨ Unaffected a.usingKey a.status r

/-- **One call** keeps cache and database in agreement exactly if the row follows. -/
theorem statusStep_agreeOn (h : Paired id s c r) (ha : a.channelId = id) (hagree : AgreeOn id s) :
    AgreeOn id (statusStep s a) ↔ RowFollows id s a := by
  have hfollows : RowFollows id s a ↔ r.status ≠ a.status ∨ Unaffected a.usingKey a.status r := by
    constructor
    · exact fun hf => hf r h.row
    · intro hr r₁ hr₁
      rw [h.row] at hr₁
      cases hr₁
      exact hr
  have hsame : (a.handled a.cacheTime c).keyState = (a.handled a.rowTime r).keyState :=
    handler_keyState h.keys (h.agreeOn.1 hagree)
  rw [(statusStep_paired h ha).agreeOn, hsame, hfollows]
  by_cases hstatus : r.status = a.status
  · rw [if_pos hstatus, handler_unaffected hstatus]
    simp [hstatus]
  · simp [hstatus]

end Step

/-- **Cache and database agree on the statuses of a channel with several keys**, in every state of a run of calls for it,
exactly if every call finds another status in the row than the new one, or would change nothing. -/
theorem multiKey_agree_iff {s : ChannelStore} {id : Int} {c : Channel} (hcached : s.cache.channelsIDM id = some c)
    (hrow : Table.lookup Channel.id id s.rows = some c) (hmulti : c.channelInfo.isMultiKey = true) {as : List StatusCall}
    (has : ∀ a ∈ as, a.channelId = id) :
    Always statusStep (AgreeOn id) s as ↔ Along statusStep (RowFollows id) s as := by
  refine always_iff_along (I := fun s => ∃ c r, Paired id s c r) ?_ ?_ has ⟨c, c, hcached, hrow, hmulti, hmulti, rfl⟩ ?_
  · rintro s a ha ⟨c, r, h⟩
    exact ⟨_, _, statusStep_paired h ha⟩
  · rintro s a ha ⟨c, r, h⟩ hagree
    exact statusStep_agreeOn h ha hagree
  · rw [AgreeOn, hcached, hrow]

namespace Sample

/-- An enabled channel with two keys, in the cache and in the table. -/
def multiKeyChannel : Channel :=
  { channel "default" "gpt-4o" with
    keys := ["k1", "k2"]
    channelInfo := ⟨true, fun _ => none, fun _ => none, fun _ => none, 0, .random⟩ }

def multiKeyStore : ChannelStore :=
  ⟨cacheUpdateChannel multiKeyChannel noChannels, [multiKeyChannel], fun _ => true⟩

def statusCall (usingKey : String) (status : Int) : StatusCall := ⟨1, usingKey, status, "", 0, 0⟩

end Sample

open Sample

/-- Two keys are disabled one after the other: cache and database agree. -/
theorem multiKey_agree_sample : ∃ c : Channel, multiKeyStore.cache.channelsIDM 1 = some c ∧
    Table.lookup Channel.id 1 multiKeyStore.rows = some c ∧ c.channelInfo.isMultiKey = true ∧
    (∀ a ∈ [statusCall "k1" 3, statusCall "k2" 3], a.channelId = 1) ∧
    Always statusStep (AgreeOn 1) multiKeyStore [statusCall "k1" 3, statusCall "k2" 3] := by
  have hcached : multiKeyStore.cache.channelsIDM 1 = some multiKeyChannel := rfl
  have hrow : lookup Channel.id 1 multiKeyStore.rows = some multiKeyChannel := rfl
  have has : ∀ a ∈ [statusCall "k1" 3, statusCall "k2" 3], a.channelId = 1 := by decide
  refine ⟨multiKeyChannel, hcached, hrow, rfl, has, (multiKey_agree_iff hcached hrow rfl has).2 ?_⟩
  refine ⟨fun r hr => .inl ?_, fun r hr => .inl ?_, trivial⟩
  · cases hr
    decide
  · cases hr
    decide

/-- The channel is disabled as a whole, then its second key is: the cached list gets an entry, the stored one does not. -/
theorem multiKey_disagree :
    let s := run statusStep multiKeyStore [statusCall "" 3, statusCall "k2" 3]
    ((s.cache.channelsIDM 1).bind fun c => c.channelInfo.multiKeyStatusList 1) = some 3 ∧
    ((Table.lookup Channel.id 1 s.rows).bind fun c => c.channelInfo.multiKeyStatusList 1) = none := by
  decide +kernel

end SynthApi
