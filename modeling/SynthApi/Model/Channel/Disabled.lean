import SynthApi.Model.Channel.Selection

/-!
# Disabled channels are not selected

`CacheUpdateChannelStatus` removes one entry of the channel from each list. The lists that `InitChannelCache` builds have
one entry for each occurrence of the group and of the model in the columns of the channel (`count_initChannelCache`), so a
channel that names a group or a model twice stays in a list, and can be drawn from it (`select_only`). Hence
`disabled_not_selected_iff`: exactly the channels that name no pair twice are not selected after they were disabled.
-/

namespace SynthApi

open Lib Lib.Go Channel List

/-! ## Lists only shrink -/

section Shrink

variable {id status : Int} {c : ChannelCache}

def Unlisted (id : Int) (c : ChannelCache) : Prop := ∀ group model, id ∉ c.group2model2channels group model

def ListedOnce (id : Int) (c : ChannelCache) : Prop := ∀ group model, (c.group2model2channels group model).count id ≤ 1

theorem run_listedOnce (h : ListedOnce id c) (ops : List CacheOp) :
    ListedOnce id (run cacheStep c ops) := by
  refine run_inv (fun c op h group model => ?_) ops h
  cases op with
  | updateStatus i s =>
    simp only [cacheStep, cacheUpdateChannelStatus]
    split
    · exact Nat.le_trans ((erase_sublist).count_le id) (h group model)
    · exact h group model
  | update channel => exact h group model

theorem unlisted_of_listedOnce (hs : status ≠ channelStatusEnabled) (h : ListedOnce id c) :
    Unlisted id (cacheUpdateChannelStatus id status c) := by
  intro group model
  simp only [cacheUpdateChannelStatus, if_pos hs]
  exact Index.not_mem_erase (h group model)

end Shrink

/-! ## The lists of a rebuild -/

section Rebuild

variable {channels : List Channel} (group model : String)

/-- An enabled channel has one entry for each occurrence of the group and of the model. -/
theorem channelIndex_count (hids : (channels.map Channel.id).Nodup) {ch : Channel} (hch : ch ∈ channels)
    (henabled : ch.status = channelStatusEnabled) : (channelIndex channels group model).count ch.id =
      (names ch.group).count group * (names ch.models).count model := by
  have hnodup : ((channels.filter fun c => c.status = channelStatusEnabled).map Channel.id).Nodup :=
    hids.sublist (filter_sublist.map _)
  exact Index.count_build_of_nodup hnodup (mem_filter.2 ⟨hch, decide_eq_true henabled⟩)

def NamedOnce (ch : Channel) : Prop :=
  ∀ group model, (Channel.names ch.group).count group * (Channel.names ch.models).count model ≤ 1

/-- **A channel that names no pair twice is listed once.** -/
theorem initChannelCache_listedOnce (order : PrioritySort) (old : ChannelCache) (hids : (channels.map Channel.id).Nodup)
    {id : Int} (h : ∀ ch ∈ channels, ch.id = id → ch.status = channelStatusEnabled → NamedOnce ch) :
    ListedOnce id (initChannelCache order channels old) := by
  intro group model
  rw [initChannelCache_count]
  by_cases hch : ∃ ch ∈ channels, ch.id = id ∧ ch.status = channelStatusEnabled
  · obtain ⟨ch, hch, rfl, henabled⟩ := hch
    rw [channelIndex_count group model hids hch henabled]
    exact h ch hch rfl henabled group model
  · rw [channelIndex_of_ne group model fun ch hmem henabled hid => hch ⟨ch, hmem, hid, henabled⟩]
    exact Nat.zero_le 1

end Rebuild

/-! ## A channel that is listed can be drawn -/

section Draw

variable {c : ChannelCache} {q : Selection} {ch : Channel}

theorem fullPercent_mem (_ : Int) : (10 : Int) ≤ 100 ∧ (100 : Int) ≤ 100 := by decide

/-- The selection that excludes the other channels of a list and prefers no priority. -/
def selectOnly (group model : String) (ids : List Int) (id : Int) : Selection where
  group := group
  model := model
  retry := ids.length
  excludeIDs := ids.filter (· ≠ id)
  activeRequests _ := 0
  runtimePercent _ := 100
  runtimePercent_mem := fullPercent_mem
  logPerfHints _ := none
  channelPerfHints _ := none
  defaultMaxConcurrency := 0
  random := 0

theorem filterExcluded_sublist (channels excludeIDs : List Int) : filterExcludedChannelIDs channels excludeIDs <+ channels := by
  unfold filterExcludedChannelIDs
  split
  · exact .refl _
  · exact filter_sublist

/-- **A channel that is listed can be drawn**, if it is listed once and has no weight. -/
theorem select_only {group model : String} {id : Int} (hc : c.Consistent) (hid : c.channelsIDM id = some ch)
    (hweight : ch.weight = none) (hcount : (c.group2model2channels group model).count id = 1) :
    getRandomSatisfiedChannelExcludingWithLoad c
      (selectOnly group model (c.group2model2channels group model) id) = .ok (some ch) := by
  have hmem : id ∈ c.group2model2channels group model := count_pos_iff.1 (by omega)
  obtain ⟨q, hq⟩ : ∃ q, q = selectOnly group model (c.group2model2channels group model) id := ⟨_, rfl⟩
  have hlisted : listed c q = c.group2model2channels group model := by
    rw [hq]
    exact if_neg (ne_nil_of_mem hmem)
  have hexcluded : ∀ i ∈ listed c q, i ∉ q.excludeIDs ↔ i = id := by
    intro i hi
    rw [hlisted] at hi
    simp [hq, selectOnly, hi]
  have hbound : ((higherPriorities c (listed c q) ch).length : Int) ≤ q.retry := by
    have hle : (higherPriorities c (listed c q) ch).length ≤ (listed c q).length :=
      calc (higherPriorities c (listed c q) ch).length
          ≤ ((c.channels (listed c q)).map getPriority).dedup.length := length_filter_le _ _
        _ ≤ ((c.channels (listed c q)).map getPriority).length := (dedup_sublist _).length_le
        _ ≤ (listed c q).length := (length_map _).trans_le (length_filterMap_le _ _)
    have hretry : q.retry = (listed c q).length := by rw [hlisted, hq, selectOnly]
    omega
  have hkept : ch ∈ c.channels (filterExcludedChannelIDs (listed c q) q.excludeIDs) :=
    mem_channels.2 ⟨id, hlisted ▸ hmem, (hexcluded id (hlisted ▸ hmem)).2 rfl, hid⟩
  have hfit : WeightsFit (c.channels (filterExcludedChannelIDs (listed c q) q.excludeIDs)) := by
    have hall : ∀ i ∈ filterExcludedChannelIDs (listed c q) q.excludeIDs, i = id := by
      intro i hi
      obtain ⟨hlist, hno⟩ := mem_filterExcluded.1 hi
      exact (hexcluded i hlist).1 hno
    have hlen : (filterExcludedChannelIDs (listed c q) q.excludeIDs).length ≤ 1 := by
      rw [← count_eq_length.2 fun i hi => (hall i hi).symm, ← hcount, ← hlisted]
      exact (filterExcluded_sublist _ _).count_le id
    obtain ⟨i, hi⟩ := length_eq_one_iff.1 (le_antisymm hlen (length_pos_of_mem (mem_filterExcluded.2
      ⟨hlisted ▸ hmem, (hexcluded id (hlisted ▸ hmem)).2 rfl⟩)))
    obtain rfl : i = id := hall i (by rw [hi]; exact mem_singleton_self i)
    simp [hi, ChannelCache.channels, hid, WeightsFit, hweight]
  obtain ⟨d, hd⟩ := (select_iff hc (le_trans (Int.natCast_nonneg _) hbound) hfit).2 ⟨ch, hkept, hbound⟩
  -- no other channel is left
  obtain ⟨hdlisted, hdexcluded, hdsome⟩ := selected_kept hd
  rw [(hexcluded _ hdlisted).1 hdexcluded, hid] at hdsome
  rw [← hq, hd, hdsome]

end Draw

/-! ## Disabled channels -/

/-- A channel that is listed more often than it is disabled can be drawn: from there on it may lose its weight. -/
theorem selected_of_twice {c : ChannelCache} (hc : c.Consistent) {id status : Int} {group model : String}
    (hs : status ≠ channelStatusEnabled) (htwice : 1 < (c.group2model2channels group model).count id) :
    ∃ before after q ch, getRandomSatisfiedChannelExcludingWithLoad
      (run cacheStep c (before ++ .updateStatus id status :: after)) q = .ok (some ch) ∧ ch.id = id := by
  have hcount : ∀ n, ((run cacheStep c (replicate n (.updateStatus id status))).group2model2channels group model).count id =
      (c.group2model2channels group model).count id - n := by
    intro n
    induction n with
    | zero => rfl
    | succ n ih =>
      rw [replicate_succ', run_append]
      simp only [run_cons, run_nil, cacheStep, cacheUpdateChannelStatus, if_pos hs, Index.erase, count_erase_self, ih]
      omega
  obtain ⟨k, hk⟩ : ∃ k, (c.group2model2channels group model).count id = k + 2 := ⟨_, (Nat.sub_add_cancel htwice).symm⟩
  have hmem : id ∈ c.group2model2channels group model := count_pos_iff.1 (by omega)
  obtain ⟨d, hd⟩ := Option.isSome_iff_exists.1 (hc _ _ _ hmem)
  have hdid := c.keyed hd
  obtain ⟨light, hweight, hid⟩ : ∃ light : Channel, light.weight = none ∧ light.id = id := ⟨{ d with weight := none }, rfl, hdid⟩
  have hrun : run cacheStep c (replicate k (.updateStatus id status) ++ .updateStatus id status :: [.update light]) =
      cacheUpdateChannel light (run cacheStep c (replicate (k + 1) (.updateStatus id status))) := by
    rw [replicate_succ', run_append, run_append]
    rfl
  have hconsistent :
      (cacheUpdateChannel light (run cacheStep c (replicate (k + 1) (.updateStatus id status)))).Consistent :=
    (cacheStep_consistent (run_inv (fun _ _ h => cacheStep_consistent h) _ hc) : (cacheStep _ (.update light)).Consistent)
  have hselect := select_only hconsistent (hid ▸ Function.update_self ..) hweight ((hcount (k + 1)).trans (by omega))
  rw [← hrun] at hselect
  exact ⟨_, _, _, light, hselect, hid⟩

/-- **Disabled channels are not selected**, after a rebuild from channels with different ids, exactly if the columns of the
channel name no group and model twice. -/
theorem disabled_not_selected_iff (order : PrioritySort) {channels : List Channel}
    (hids : (channels.map Channel.id).Nodup) (old : ChannelCache) (id : Int) {status : Int}
    (hs : status ≠ channelStatusEnabled) :
    (∀ before after q ch, getRandomSatisfiedChannelExcludingWithLoad
        (run cacheStep (initChannelCache order channels old) (before ++ .updateStatus id status :: after)) q =
        .ok (some ch) → ch.id ≠ id) ↔
    ∀ ch ∈ channels, ch.id = id → ch.status = channelStatusEnabled →
      ∀ group model, (Channel.names ch.group).count group * (Channel.names ch.models).count model ≤ 1 := by
  constructor
  · intro h ch hch hid henabled group model
    by_contra htwice
    subst hid
    have hcount : 1 < ((initChannelCache order channels old).group2model2channels group model).count ch.id := by
      rw [initChannelCache_count, channelIndex_count group model hids hch henabled]
      omega
    obtain ⟨before, after, q, d, hsel, hd⟩ := selected_of_twice (initChannelCache_consistent order old) hs hcount
    exact h before after q d hsel hd
  · intro h before after q ch hsel hid
    have honce := initChannelCache_listedOnce order old hids h
    have hunlisted : Unlisted id (run cacheStep (initChannelCache order channels old)
        (before ++ .updateStatus id status :: after)) := by
      rw [run_append]
      exact run_inv (fun _ _ h group model hm => h group model (cacheStep_mem hm)) after
        (unlisted_of_listedOnce hs (run_listedOnce honce before))
    obtain ⟨model, hmodel⟩ := selected_listed hsel
    exact hunlisted _ model (hid ▸ hmodel)

open Sample

/-- A channel of two groups with one model is not selected after it was disabled. -/
theorem disabled_not_selected_sample :
    ([channel "default,vip" "gpt-4o"].map Channel.id).Nodup ∧ (3 : Int) ≠ channelStatusEnabled ∧
    ∀ before after q ch, getRandomSatisfiedChannelExcludingWithLoad
      (run cacheStep (initChannelCache prioritySort [channel "default,vip" "gpt-4o"] noChannels)
        (before ++ .updateStatus 1 3 :: after)) q = .ok (some ch) → ch.id ≠ 1 := by
  have hids : ([channel "default,vip" "gpt-4o"].map Channel.id).Nodup := nodup_singleton _
  have hs : (3 : Int) ≠ channelStatusEnabled := by decide
  refine ⟨hids, hs, (disabled_not_selected_iff prioritySort hids noChannels 1 hs).2 ?_⟩
  intro ch hch _ _ group model
  obtain rfl := mem_singleton.1 hch
  have hgroups : (names "default,vip").Nodup := by decide +kernel
  have hmodels : (names "gpt-4o").Nodup := by decide +kernel
  exact Nat.mul_le_mul (nodup_iff_count_le_one.1 hgroups group) (nodup_iff_count_le_one.1 hmodels model)

/-- A channel whose column names its group twice is selected after it was disabled. -/
theorem disabled_selected :
    (getRandomSatisfiedChannelExcludingWithLoad
      (cacheUpdateChannelStatus 1 3
        (initChannelCache prioritySort [channel "default, default" "gpt-4o"] noChannels))
      (selectOnly "default" "gpt-4o" [1] 1)).map (Option.map Channel.id) = .ok (some 1) := by
  decide +kernel

end SynthApi
