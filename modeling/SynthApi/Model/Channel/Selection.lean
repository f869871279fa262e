import SynthApi.Model.Channel.Cache

/-!
# Which selections find a channel

The lists of a cache name channels that are in it (`ChannelCache.Consistent`), after a rebuild and after every change. Then
the only way for a selection to fail, besides an overflow of the weights, is the priority it aims at (`select_iff`): the
priorities are those of the whole list, and without a retry the highest one is taken even if all of its channels are excluded.
Hence `selection_complete_iff`.
-/

namespace SynthApi

open Lib Lib.Go List Channel

/-! ## Consistent caches -/

section Consistent

/-- A listed channel is in the cache. -/
def ChannelCache.Consistent (c : ChannelCache) : Prop :=
  ∀ group model, ∀ id ∈ c.group2model2channels group model, (c.channelsIDM id).isSome

variable {id : Int} {c : ChannelCache} {op : CacheOp}

theorem cacheStep_mem {group model : String}
    (h : id ∈ (cacheStep c op).group2model2channels group model) : id ∈ c.group2model2channels group model := by
  cases op with
  | updateStatus i s =>
    simp only [cacheStep, cacheUpdateChannelStatus] at h
    split at h
    · exact Index.mem_of_mem_erase h
    · exact h
  | update channel => exact h

theorem cacheStep_consistent (hc : c.Consistent) : (cacheStep c op).Consistent := by
  intro group model id h
  have hsome := hc group model id (cacheStep_mem h)
  cases op with
  | updateStatus i s =>
    by_cases hid : id = i
    · subst hid
      simpa [cacheStep, cacheUpdateChannelStatus] using hsome
    · simpa [cacheStep, cacheUpdateChannelStatus, Function.update_of_ne hid] using hsome
  | update channel =>
    by_cases hid : id = channel.id
    · simp [cacheStep, cacheUpdateChannel, putChannel, hid]
    · simpa [cacheStep, cacheUpdateChannel, putChannel, Function.update_of_ne hid] using hsome

variable {channels : List Channel} (group model : String)

theorem channelIndex_of_ne (h : ∀ ch ∈ channels, ch.status = channelStatusEnabled → ch.id ≠ id) :
    (channelIndex channels group model).count id = 0 := by
  refine Index.count_build_of_ne fun ch hch => ?_
  obtain ⟨hmem, henabled⟩ := mem_filter.1 hch
  exact h ch hmem (of_decide_eq_true henabled)

/-- Sorting keeps the entries. -/
theorem initChannelCache_count (order : PrioritySort) (old : ChannelCache) (id : Int) :
    ((initChannelCache order channels old).group2model2channels group model).count id =
      (channelIndex channels group model).count id :=
  (order.perm _ _).count_eq id

theorem foldl_putChannel_isSome {byId : Int → Option Channel}
    (h : (byId id).isSome ∨ ∃ ch ∈ channels, ch.id = id) : (channels.foldl putChannel byId id).isSome := by
  induction channels generalizing byId with
  | nil =>
    rcases h with h | ⟨ch, hch, -⟩
    · exact h
    · cases hch
  | cons d channels ih =>
    refine ih ?_
    by_cases hid : id = d.id
    · subst hid
      simp [putChannel]
    · rcases h with h | ⟨ch, hch, hchid⟩
      · left
        simpa [putChannel, Function.update_of_ne hid] using h
      · rcases mem_cons.1 hch with rfl | hch
        · exact absurd hchid.symm hid
        · exact .inr ⟨ch, hch, hchid⟩

theorem initChannelCache_consistent (order : PrioritySort) (old : ChannelCache) :
    (initChannelCache order channels old).Consistent := by
  intro group model id h
  have hcount : 0 < (channelIndex channels group model).count id := by
    rw [← initChannelCache_count group model order old]
    exact count_pos_iff.2 h
  have hch : ∃ ch ∈ channels, ch.id = id := by
    by_contra hnone
    rw [channelIndex_of_ne group model fun ch hmem _ hid => hnone ⟨ch, hmem, hid⟩] at hcount
    exact absurd hcount (Nat.lt_irrefl 0)
  simp only [initChannelCache, Option.isSome_map]
  exact foldl_putChannel_isSome (.inr hch)

end Consistent

/-! ## A draw finds a channel -/

section Draw

variable {q : Selection} {channels : List Channel}

/-- The effective weights of some channels, and their sum, are `int64` numbers. -/
def WeightsFit (channels : List Channel) : Prop := (channels.map fun ch => ch.weight.getD 0 + 1).sum * 10 ^ 4 < 2 ^ 63

instance (channels : List Channel) : Decidable (WeightsFit channels) := inferInstanceAs (Decidable (_ < _))

theorem WeightsFit.sublist {channels' : List Channel} (h : WeightsFit channels) (hsub : channels' <+ channels) :
    WeightsFit channels' :=
  lt_of_le_of_lt (Nat.mul_le_mul_right _ ((hsub.map _).sum_le_sum fun _ _ => Nat.zero_le _)) h

theorem WeightsFit.lt {ch : Channel} (h : WeightsFit channels) (hch : ch ∈ channels) :
    (ch.weight.getD 0 + 1) * 10 ^ 4 < 2 ^ 63 := by
  have hfit := h.sublist (singleton_sublist.2 hch)
  rwa [WeightsFit, map_singleton, sum_singleton] at hfit

theorem responseTimePercent_mem (ms : Int) :
    0 ≤ channelResponseTimeWeightPercent ms ∧ channelResponseTimeWeightPercent ms ≤ 100 := by
  unfold channelResponseTimeWeightPercent interpolatePercent
  split_ifs <;> try omega
  · rw [Int.tdiv_eq_ediv_of_nonneg (by omega)]
    omega
  · rw [Int.tdiv_eq_ediv_of_nonneg (by omega)]
    omega

theorem lowerPercent_mem (hint : Option Int) {percent : Int} (h : 0 ≤ percent ∧ percent ≤ 100) :
    0 ≤ lowerPercent hint percent ∧ lowerPercent hint percent ≤ 100 := by
  unfold lowerPercent
  split
  · exact h
  · split <;> omega

/-- The load lowers a percentage. -/
theorem loadPercent_mem {percent limit active : Int} (h : 0 ≤ percent ∧ percent ≤ 100) (hactive : 0 < active)
    (hlimit : 0 < limit - active) :
    let loadPercent := (wrap64 ((limit - active) * 100)).tdiv limit
    let loadPercent := if loadPercent < 10 then 10 else loadPercent
    0 ≤ (percent * loadPercent).tdiv 100 ∧ (percent * loadPercent).tdiv 100 ≤ 100 := by
  intro raw load
  have hload : 0 ≤ load ∧ load ≤ 100 := by
    have hwrap : wrap64 ((limit - active) * 100) ≤ 100 * limit := by
      have hmem := wrap64_mem ((limit - active) * 100)
      by_cases hlarge : (limit - active) * 100 < 2 ^ 63
      · rw [wrap64_of_mem ⟨by omega, hlarge⟩]
        omega
      · unfold InInt64 at hmem
        omega
    have hraw : raw ≤ 100 := by
      by_cases hneg : wrap64 ((limit - active) * 100) < 0
      · have hraw : 0 ≤ (-wrap64 ((limit - active) * 100)).tdiv limit := Int.tdiv_nonneg (by omega) (by omega)
        rw [Int.neg_tdiv] at hraw
        omega
      · rw [show raw = _ from Int.tdiv_eq_ediv_of_nonneg (by omega)]
        exact Int.ediv_le_of_le_mul (by omega) hwrap
    simp only [load]
    split <;> omega
  have hlow : 0 ≤ percent * load := Int.mul_nonneg h.1 hload.1
  have hhigh : percent * load ≤ 100 * 100 := Int.mul_le_mul h.2 hload.2 hload.1 (by omega)
  rw [Int.tdiv_eq_ediv_of_nonneg hlow]
  omega

/-- An effective weight is positive and does not exceed the weight. -/
theorem adjustedChannelSelectionWeight_mem (q : Selection) (ch : Channel) {baseWeight : Int} (h : 0 < baseWeight)
    (hfit : baseWeight * 100 < 2 ^ 63) :
    0 < adjustedChannelSelectionWeight q ch baseWeight ∧ adjustedChannelSelectionWeight q ch baseWeight ≤ baseWeight := by
  have hclamp : ∀ percent : Int, 0 ≤ percent ∧ percent ≤ 100 →
      (0 < if (wrap64 (baseWeight * percent)).tdiv 100 ≤ 0 then 1 else (wrap64 (baseWeight * percent)).tdiv 100) ∧
      (if (wrap64 (baseWeight * percent)).tdiv 100 ≤ 0 then 1 else (wrap64 (baseWeight * percent)).tdiv 100) ≤ baseWeight := by
    intro percent hpercent
    have hlow : 0 ≤ baseWeight * percent := Int.mul_nonneg h.le hpercent.1
    have hhigh : baseWeight * percent ≤ baseWeight * 100 := Int.mul_le_mul_of_nonneg_left hpercent.2 h.le
    rw [wrap64_of_mem ⟨by omega, by omega⟩, Int.tdiv_eq_ediv_of_nonneg hlow]
    split <;> omega
  have hbase := responseTimePercent_mem ch.responseTime
  have hruntime := q.runtimePercent_mem ch.id
  unfold adjustedChannelSelectionWeight
  rw [if_neg (not_le.2 h)]
  simp only
  split
  · omega
  rename_i hbusy
  refine hclamp _ ?_
  have hpercent := lowerPercent_mem (q.channelPerfHints ch.id) (lowerPercent_mem (q.logPerfHints ch.id)
    (show 0 ≤ (if q.runtimePercent ch.id < channelResponseTimeWeightPercent ch.responseTime then q.runtimePercent ch.id
      else channelResponseTimeWeightPercent ch.responseTime) ∧ _ ≤ (100 : Int) by split <;> omega))
  split
  · rename_i hloaded
    exact loadPercent_mem hpercent hloaded.2 (by omega)
  · exact hpercent

variable (hfit : WeightsFit channels)

include hfit

theorem getWeight_fit {ch : Channel} (hch : ch ∈ channels) : ch.getWeight = (ch.weight.getD 0 : Nat) := by
  have hlt := hfit.lt hch
  exact wrap64_of_mem ⟨by omega, by omega⟩

/-- Without overflow the weights of the channels add up: some channel has one, since without weights the adjustment gives every
channel its own. -/
theorem baseWeights_fit (hne : channels ≠ []) : ∃ f : Channel → Int,
    (weightedChannels q channels = (channels.map fun ch => (ch, adjustedChannelSelectionWeight q ch (f ch))).filter
      fun candidate => ¬ candidate.2 ≤ 0) ∧
    (∀ ch ∈ channels, 0 ≤ f ch ∧ f ch ≤ ((ch.weight.getD 0 + 1) * 100 : Nat)) ∧ ∃ ch ∈ channels, 0 < f ch := by
  refine ⟨_, rfl, ?_⟩
  generalize hsum : wrap64 (channels.map getWeight).sum = sumWeight
  have hbase : ∀ ch ∈ channels, ∀ factor adjustment : Int, factor = 1 ∨ factor = 100 → adjustment = 0 ∨ adjustment = 100 →
      wrap64 (ch.getWeight * factor + adjustment) = (ch.weight.getD 0 : Nat) * factor + adjustment := by
    intro ch hch factor adjustment hfactor hadjustment
    have hlt := hfit.lt hch
    rw [getWeight_fit hfit hch]
    refine wrap64_of_mem ?_
    unfold InInt64
    rcases hfactor with rfl | rfl <;> rcases hadjustment with rfl | rfl <;> omega
  constructor
  · intro ch hch
    rw [hbase ch hch _ _ (by split_ifs <;> simp) (by split_ifs <;> simp)]
    split_ifs <;> omega
  · obtain ⟨ch, hch, hsome⟩ : ∃ ch ∈ channels, sumWeight = 0 ∨ 0 < ch.weight.getD 0 := by
      by_contra hnone
      push Not at hnone
      obtain ⟨ch, hch⟩ := exists_mem_of_ne_nil _ hne
      refine (hnone ch hch).1 ?_
      have hzero : (channels.map getWeight).sum = 0 := by
        refine sum_eq_zero fun w hw => ?_
        obtain ⟨d, hd, rfl⟩ := mem_map.1 hw
        rw [getWeight_fit hfit hd, Nat.le_zero.1 (hnone d hd).2]
        rfl
      rw [← hsum, hzero]
      decide
    refine ⟨ch, hch, ?_⟩
    rw [hbase ch hch _ _ (by split_ifs <;> simp) (by split_ifs <;> simp)]
    split_ifs <;> omega

omit hfit

theorem sum_effective {f : Channel → Int} (hf : ∀ ch ∈ channels, f ch ≤ ((ch.weight.getD 0 + 1) * 100 : Nat)) :
    (((channels.map fun ch => (ch, f ch)).filter fun candidate => ¬ candidate.2 ≤ 0).map Prod.snd).sum ≤
      ((channels.map fun ch => ch.weight.getD 0 + 1).sum * 100 : Nat) := by
  induction channels with
  | nil => simp
  | cons ch channels ih =>
    obtain ⟨hhead, htail⟩ := forall_mem_cons.1 hf
    have hrest := ih htail
    rw [map_cons, filter_cons, map_cons, sum_cons]
    split
    · rw [map_cons, sum_cons]
      push_cast at *
      linarith
    · push_cast at *
      linarith

theorem weightedChannels_fit (hfit : WeightsFit channels) (hne : channels ≠ []) :
    0 < ((weightedChannels q channels).map Prod.snd).sum ∧ ((weightedChannels q channels).map Prod.snd).sum < 2 ^ 63 := by
  obtain ⟨f, hweights, hf, ch, hch, hpos⟩ := baseWeights_fit (q := q) hfit hne
  have hadjusted : ∀ ch ∈ channels, (0 < f ch → 0 < adjustedChannelSelectionWeight q ch (f ch)) ∧
      adjustedChannelSelectionWeight q ch (f ch) ≤ ((ch.weight.getD 0 + 1) * 100 : Nat) := by
    intro ch hch
    have hmem := hf ch hch
    have hlt := hfit.lt hch
    by_cases hpos : 0 < f ch
    · have hadjusted := adjustedChannelSelectionWeight_mem q ch hpos (by omega)
      omega
    · rw [adjustedChannelSelectionWeight, if_pos (not_lt.1 hpos)]
      omega
  rw [hweights]
  refine ⟨sum_pos _ ?_ (ne_nil_of_mem (mem_map_of_mem (mem_filter.2 ⟨mem_map_of_mem hch, ?_⟩))), ?_⟩
  · intro w hw
    obtain ⟨candidate, hcandidate, rfl⟩ := mem_map.1 hw
    exact not_le.1 (of_decide_eq_true (mem_filter.1 hcandidate).2)
  · exact decide_eq_true (not_le.2 ((hadjusted ch hch).1 hpos))
  · have hsum := sum_effective fun ch hch => (hadjusted ch hch).2
    unfold WeightsFit at hfit
    omega

theorem pickWeighted_isSome {candidates : List (Channel × Int)} {r : Int} (h0 : 0 ≤ r)
    (h : r < (candidates.map Prod.snd).sum) : (pickWeighted candidates r).isSome := by
  induction candidates generalizing r with
  | nil => exact absurd h (not_lt.2 h0)
  | cons candidate rest ih =>
    rw [map_cons, sum_cons] at h
    unfold pickWeighted
    split
    · rfl
    · exact ih (by omega) (by omega)

/-- **A draw from some channels finds one of them**, at every random value. -/
theorem drawChannel_ok (hfit : WeightsFit channels) (hne : channels ≠ []) (priority : Int) :
    ∃ ch ∈ channels, drawChannel q priority channels = .ok (some ch) := by
  obtain ⟨hpos, hlt⟩ := weightedChannels_fit (q := q) hfit hne
  obtain ⟨ch, hch⟩ := Option.isSome_iff_exists.1
    (pickWeighted_isSome (Int.emod_nonneg q.random hpos.ne') (Int.emod_lt_of_pos _ hpos))
  have hdraw : drawChannel q priority channels = .ok (some ch) := by
    simp only [drawChannel, if_neg hne, wrap64_of_mem ⟨by omega, hlt⟩, if_neg (not_le.2 hpos), hch]
  exact ⟨ch, drawChannel_mem hdraw, hdraw⟩

end Draw

/-! ## The priority that is aimed at -/

section Priority

variable {c : ChannelCache} {ids : List Int}

/-- The cached channels of a list. -/
def ChannelCache.channels (c : ChannelCache) (ids : List Int) : List Channel := ids.filterMap c.channelsIDM

variable (h : ∀ id ∈ ids, (c.channelsIDM id).isSome)

include h

theorem getChannelsByPriority_eq (p : Int) :
    getChannelsByPriority c p ids = .ok ((c.channels ids).filter (·.getPriority = p)) := by
  induction ids with
  | nil => rfl
  | cons id ids ih =>
    obtain ⟨d, hd⟩ := Option.isSome_iff_exists.1 (h id mem_cons_self)
    rw [getChannelsByPriority, ih fun i hi => h i (mem_cons_of_mem id hi)]
    by_cases hp : d.getPriority = p <;> simp [ChannelCache.channels, hd, hp, bind, Except.bind]

theorem priorities_eq :
    priorities c ids = .ok ((c.channels ids).map getPriority) := by
  induction ids with
  | nil => rfl
  | cons id ids ih =>
    obtain ⟨d, hd⟩ := Option.isSome_iff_exists.1 (h id mem_cons_self)
    rw [priorities, ih fun i hi => h i (mem_cons_of_mem id hi)]
    simp [ChannelCache.channels, hd, bind, Except.bind]

theorem firstPriorityIndex_cases (ps : List Int) (i : Nat) :
    (firstPriorityIndex c ids ps i = .ok none ∧ ∀ d ∈ c.channels ids, d.getPriority ∉ ps) ∨
    ∃ j, firstPriorityIndex c ids ps i = .ok (some (i + j)) ∧ ∃ d ∈ c.channels ids, ps[j]? = some d.getPriority := by
  induction ps generalizing i with
  | nil => exact .inl ⟨rfl, fun _ _ => not_mem_nil⟩
  | cons p ps ih =>
    unfold firstPriorityIndex
    rw [getChannelsByPriority_eq h]
    simp only [bind, Except.bind]
    by_cases hp : ∃ d ∈ c.channels ids, d.getPriority = p
    · obtain ⟨d, hd, rfl⟩ := hp
      rw [if_pos (ne_nil_of_mem (mem_filter.2 ⟨hd, decide_eq_true rfl⟩))]
      exact .inr ⟨0, rfl, d, hd, rfl⟩
    · have hnone : (c.channels ids).filter (·.getPriority = p) = [] :=
        filter_eq_nil_iff.2 fun d hd heq => hp ⟨d, hd, of_decide_eq_true heq⟩
      rw [hnone, if_neg (not_not.2 rfl)]
      rcases ih (i + 1) with ⟨heq, hps⟩ | ⟨j, heq, d, hd, hget⟩
      · refine .inl ⟨heq, fun d hd hmem => ?_⟩
        rcases mem_cons.1 hmem with rfl | hmem
        · exact hp ⟨d, hd, rfl⟩
        · exact hps d hd hmem
      · exact .inr ⟨j + 1, by rw [heq, Nat.add_right_comm, Nat.add_assoc], d, hd, hget⟩

omit h

variable {sorted ps : List Int} {p : Int}

theorem priorityAt_of_getElem? {i : Nat} (h : sorted[i]? = some p) :
    priorityAt sorted i = .ok p := by
  unfold priorityAt
  rw [if_neg (by omega), Int.toNat_natCast, h]

/-- The priority aimed at has a channel exactly if one of the first priorities, up to the retry, has one. -/
theorem targetPriority_spec (h : ∀ id ∈ ids, (c.channelsIDM id).isSome) {n : Nat}
    (hn : n < sorted.length) {excluding : Bool}
    (hall : excluding = false → ∀ p ∈ sorted, ∃ d ∈ c.channels ids, d.getPriority = p) :
    ∃ i p, targetPriorityIndex c ids sorted n excluding = .ok i ∧ priorityAt sorted i = .ok p ∧
      ((∃ d ∈ c.channels ids, d.getPriority = p) ↔ ∃ d ∈ c.channels ids, d.getPriority ∈ sorted.take (n + 1)) := by
  have hget : sorted[n]? = some sorted[n] := getElem?_eq_getElem hn
  have hlast : sorted[n] ∈ sorted.take (n + 1) :=
    mem_of_getElem? ((getElem?_take_of_lt (Nat.lt_succ_self n)).trans hget)
  unfold targetPriorityIndex
  rw [Int.toNat_natCast]
  split
  · rcases firstPriorityIndex_cases h (sorted.take (n + 1)) 0 with ⟨heq, hps⟩ | ⟨j, heq, d, hd, hj⟩
    · refine ⟨n, _, by rw [heq]; rfl, priorityAt_of_getElem? hget, ?_⟩
      exact iff_of_false (fun ⟨d, hd, hp⟩ => hps d hd (hp ▸ hlast)) fun ⟨d, hd, hp⟩ => hps d hd hp
    · rw [Nat.zero_add] at heq
      obtain ⟨hjn, hjget⟩ : j < n + 1 ∧ sorted[j]? = some d.getPriority := by
        rw [getElem?_take] at hj
        split at hj
        · exact ⟨‹_›, hj⟩
        · cases hj
      refine ⟨j, _, by rw [heq]; rfl, priorityAt_of_getElem? hjget, ?_⟩
      exact iff_of_true ⟨d, hd, rfl⟩ ⟨d, hd, mem_of_getElem? hj⟩
  · rename_i hloop
    refine ⟨n, _, rfl, priorityAt_of_getElem? hget, fun ⟨d, hd, hp⟩ => ⟨d, hd, hp ▸ hlast⟩, fun ⟨d, hd, hp⟩ => ?_⟩
    cases hex : excluding with
    | false => exact hall hex _ (getElem_mem hn)
    | true =>
      -- without a retry there is one candidate
      obtain rfl : n = 0 := by
        by_contra hpos
        exact hloop ⟨by omega, hex⟩
      obtain ⟨a, l, rfl⟩ := exists_cons_of_ne_nil (ne_nil_of_length_pos hn)
      exact ⟨d, hd, by simpa using hp⟩

/-- The position of an element of a decreasing list is the number of the larger ones. -/
theorem mem_take_iff {l : List Int} (hl : l.Pairwise (· > ·)) (hp : p ∈ l) (k : Nat) :
    p ∈ l.take (k + 1) ↔ (l.filter (p < ·)).length ≤ k := by
  induction l generalizing k with
  | nil => cases hp
  | cons a l ih =>
    obtain ⟨ha, hl⟩ := pairwise_cons.1 hl
    rcases mem_cons.1 hp with rfl | hmem
    · have hnone : (p :: l).filter (p < ·) = [] := by simpa using fun b hb => (ha b hb).le
      simp [hnone]
    · have hlt := ha p hmem
      rw [filter_cons_of_pos (by simpa using hlt)]
      cases k with
      | zero => simpa using hlt.ne
      | succ k => simpa [hlt.ne] using ih hl hmem k

theorem sortUnique_perm (ps : List Int) : (sortUnique ps).Perm ps.dedup := perm_insertionSort _ _

theorem mem_sortUnique : p ∈ sortUnique ps ↔ p ∈ ps := by
  rw [(sortUnique_perm ps).mem_iff, mem_dedup]

theorem mem_take_sortUnique (hp : p ∈ ps) (k : Nat) :
    p ∈ (sortUnique ps).take (k + 1) ↔ (ps.dedup.filter (p < ·)).length ≤ k := by
  have hsorted : (sortUnique ps).Pairwise (· ≥ ·) := pairwise_insertionSort _ _
  have hnodup : (sortUnique ps).Nodup := (sortUnique_perm ps).nodup_iff.2 ps.nodup_dedup
  rw [mem_take_iff ((hsorted.and hnodup).imp fun h => lt_of_le_of_ne h.1 (Ne.symm h.2)) (mem_sortUnique.2 hp),
    ((sortUnique_perm ps).filter _).length_eq]

end Priority

/-! ## Selections -/

section Select

/-- The priorities in a list above that of a channel. -/
def higherPriorities (c : ChannelCache) (ids : List Int) (ch : Channel) : List Int :=
  ((c.channels ids).map Channel.getPriority).dedup.filter (ch.getPriority < ·)

variable {c : ChannelCache} {q : Selection}

theorem mem_channels {d : Channel} : d ∈ c.channels (filterExcludedChannelIDs (listed c q) q.excludeIDs) ↔
    ∃ id ∈ listed c q, id ∉ q.excludeIDs ∧ c.channelsIDM id = some d := by
  simp [ChannelCache.channels, mem_filterExcluded, and_assoc]

theorem cappedRetry {retry : Int} (hretry : 0 ≤ retry) {len : Nat} (hlen : 0 < len) :
    ∃ n : Nat, (if retry ≥ len then (len : Int) - 1 else retry) = n ∧ n < len ∧
      ∀ m < len, m ≤ n ↔ (m : Int) ≤ retry := by
  refine ⟨(if retry ≥ len then (len : Int) - 1 else retry).toNat, ?_⟩
  split <;> exact ⟨by omega, by omega, fun m hm => by omega⟩

theorem select_draws (hc : c.Consistent) (hretry : 0 ≤ q.retry)
    (hne : filterExcludedChannelIDs (listed c q) q.excludeIDs ≠ []) :
    let channels := c.channels (filterExcludedChannelIDs (listed c q) q.excludeIDs)
    ∃ p, getRandomSatisfiedChannelExcludingWithLoad c q = drawChannel q p (channels.filter (·.getPriority = p)) ∧
      ((∃ d ∈ channels, d.getPriority = p) ↔
        ∃ d ∈ channels, ((higherPriorities c (listed c q) d).length : Int) ≤ q.retry) := by
  intro channels
  have hlisted : listed c q ≠ [] := fun h => hne (by simp [filterExcludedChannelIDs, h])
  have hpresent : ∀ id ∈ listed c q, (c.channelsIDM id).isSome := by
    intro id hid
    obtain ⟨model, hmodel⟩ := mem_of_mem_listed hid
    exact hc _ _ _ hmodel
  have hkept : ∀ id ∈ filterExcludedChannelIDs (listed c q) q.excludeIDs, (c.channelsIDM id).isSome :=
    fun id hid => hpresent id (mem_filterExcluded.1 hid).1
  obtain ⟨ps, hps⟩ : ∃ ps, ps = (c.channels (listed c q)).map getPriority := ⟨_, rfl⟩
  have hlen : 0 < (sortUnique ps).length := by
    obtain ⟨id, hid⟩ := exists_mem_of_ne_nil _ hlisted
    obtain ⟨d, hd⟩ := Option.isSome_iff_exists.1 (hpresent id hid)
    refine length_pos_of_mem (mem_sortUnique.2 (hps ▸ mem_map_of_mem ?_) : d.getPriority ∈ _)
    exact mem_filterMap.2 ⟨id, hid, hd⟩
  obtain ⟨n, hn, hlt, hle⟩ := cappedRetry hretry hlen
  have hrank : ∀ d ∈ channels, d.getPriority ∈ (sortUnique ps).take (n + 1) ↔
      ((higherPriorities c (listed c q) d).length : Int) ≤ q.retry := by
    intro d hd
    obtain ⟨id, hid, -, hsome⟩ := mem_channels.1 hd
    have hmem : d.getPriority ∈ ps := hps ▸ mem_map_of_mem (mem_filterMap.2 ⟨id, hid, hsome⟩)
    rw [mem_take_sortUnique hmem, hle, hps]
    · rfl
    · rw [(sortUnique_perm ps).length_eq]
      exact length_filter_lt_length_iff_exists.2 ⟨_, mem_dedup.2 hmem, by simp⟩
  -- without exclusions every priority has a channel
  have hall : decide (q.excludeIDs ≠ []) = false → ∀ p ∈ sortUnique ps, ∃ d ∈ channels, d.getPriority = p := by
    intro hno p hp
    obtain ⟨d, hd, rfl⟩ := mem_map.1 (hps ▸ mem_sortUnique.1 hp)
    have hno' : q.excludeIDs = [] := by simpa using hno
    exact ⟨d, by simpa [channels, filterExcludedChannelIDs, hno'] using hd, rfl⟩
  obtain ⟨i, p, hi, hp, hiff⟩ := targetPriority_spec hkept hlt hall
  refine ⟨p, ?_, hiff.trans (exists_congr fun d => and_congr_right (hrank d))⟩
  unfold getRandomSatisfiedChannelExcludingWithLoad
  rw [if_neg hlisted, if_neg hne, priorities_eq hpresent, ← hps]
  simp only [bind, Except.bind]
  rw [hn, hi]
  simp only
  rw [hp]
  simp only
  rw [getChannelsByPriority_eq hkept]

/-- **A selection finds a channel** exactly if one that is not excluded has no more higher priorities than there were
retries. -/
theorem select_iff (hc : c.Consistent) (hretry : 0 ≤ q.retry)
    (hfit : WeightsFit (c.channels (filterExcludedChannelIDs (listed c q) q.excludeIDs))) :
    (∃ ch, getRandomSatisfiedChannelExcludingWithLoad c q = .ok (some ch)) ↔
    ∃ d ∈ c.channels (filterExcludedChannelIDs (listed c q) q.excludeIDs),
      ((higherPriorities c (listed c q) d).length : Int) ≤ q.retry := by
  by_cases hne : filterExcludedChannelIDs (listed c q) q.excludeIDs = []
  · simp [getRandomSatisfiedChannelExcludingWithLoad, hne, ChannelCache.channels]
  obtain ⟨p, hselect, hiff⟩ := select_draws hc hretry hne
  rw [hselect, ← hiff]
  constructor
  · rintro ⟨ch, hch⟩
    obtain ⟨hmem, hp⟩ := mem_filter.1 (drawChannel_mem hch)
    exact ⟨ch, hmem, of_decide_eq_true hp⟩
  · rintro ⟨d, hd, hp⟩
    refine (drawChannel_ok (hfit.sublist filter_sublist) (ne_nil_of_mem (mem_filter.2 ⟨hd, ?_⟩)) p).imp fun ch hch => hch.2
    exact decide_eq_true hp

namespace Sample

def prioritySort : PrioritySort where
  sort priority l := l.insertionSort fun i j => priority i ≥ priority j
  perm _ _ := perm_insertionSort _ _
  sorted priority l := by
    have : Std.Total fun i j => priority i ≥ priority j := ⟨fun i j => le_total (priority j) (priority i)⟩
    have : IsTrans Int fun i j => priority i ≥ priority j := ⟨fun _ _ _ hij hjk => le_trans hjk hij⟩
    exact pairwise_insertionSort _ l

def channel (group models : String) : Channel where
  id := 1
  status := channelStatusEnabled
  group := group
  models := models
  priority := none
  weight := none
  responseTime := 0
  maxConcurrency := 0
  keys := ["k"]
  channelInfo := ⟨false, fun _ => none, fun _ => none, fun _ => none, 0, .random⟩
  statusReason := none

def noChannels : ChannelCache := ⟨fun _ _ => [], fun _ => none, fun h => by cases h⟩

/-- Channel 1 of priority 5 and channel 2 of priority 0. -/
def twoPriorities : ChannelCache :=
  initChannelCache prioritySort
    [{ channel "default" "gpt-4o" with priority := some 5 }, { channel "default" "gpt-4o" with id := 2 }] noChannels

/-- A selection without channel 1. -/
def withoutFirst (retry : Int) : Selection :=
  ⟨"default", "gpt-4o", retry, [1], fun _ => 0, fun _ => 100, fun _ => by decide, fun _ => none, fun _ => none, 0, 7⟩

end Sample

open Sample

end Select

end SynthApi
