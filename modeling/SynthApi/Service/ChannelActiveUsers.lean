import SynthApi.Lib.Run
import SynthApi.Lib.Tally

/-!
# Active uses of channels

`channelActiveUserTracker` (`service/channel_active_users.go`) counts the requests that use a channel, by channel and by
channel and user. A request begins its use under the two limits of the channel and gets a function that ends it, once.
A method runs under the tracker's lock, so that the calls of all requests are one sequence (`trackerStep`).

`Accounted` relates the maps to the release functions that are outstanding; every call keeps it (`trackerStep_accounted`).
Hence the accounting of every sequence of calls, `tracker_accounting`.
-/

namespace SynthApi

open Lib Function List Tally

/-- `LimitedBy`. -/
inductive CapacityLimit where
  | none
  | channel
  | userChannel
  deriving DecidableEq, Repr

structure ChannelCapacitySnapshot where
  allowed : Bool
  limitedBy : CapacityLimit
  active : Nat
  userActive : Nat
  totalLimit : Int
  perUserLimit : Int
  deriving DecidableEq, Repr

structure ChannelActiveUserTracker where
  usersByChannel : AList fun _ : Int => Tally Int
  activeByChannel : Tally Int
  /-- A channel without users is not in the map. -/
  inUse : ∀ e ∈ usersByChannel.entries, e.2.isEmpty = false

/-- What a call that begins a use returns for the end of it. -/
inductive ReleaseFunc where
  | nothing
  /-- `once.Do(func() { t.end(channelID, userID) })`. -/
  | once (channelID userID : Int)
  deriving DecidableEq, Repr

/-! ## The tracker -/

namespace ChannelActiveUserTracker

/-- `newChannelActiveUserTracker`. -/
def new : ChannelActiveUserTracker := ⟨∅, Tally.empty, by simp [AList.empty_entries]⟩

variable (t : ChannelActiveUserTracker) (channelID : Int)

/-- `usersByChannel[channelID]`. -/
def users : Tally Int :=
  (t.usersByChannel.lookup channelID).getD Tally.empty

variable (userID : Int)

def capacityLocked (totalLimit perUserLimit : Int) :
    ChannelCapacitySnapshot :=
  let active := t.activeByChannel.get channelID
  let userActive := (t.users channelID).get userID
  if totalLimit > 0 ∧ active ≥ totalLimit then ⟨false, .channel, active, userActive, totalLimit, perUserLimit⟩
  else if perUserLimit > 0 ∧ userActive ≥ perUserLimit then
    ⟨false, .userChannel, active, userActive, totalLimit, perUserLimit⟩
  else ⟨true, .none, active, userActive, totalLimit, perUserLimit⟩

/-- `userCounts[userID]++` and `activeByChannel[channelID]++`. -/
def enroll : ChannelActiveUserTracker where
  usersByChannel := t.usersByChannel.insert channelID ((t.users channelID).incr userID)
  activeByChannel := t.activeByChannel.incr channelID
  inUse := by
    intro e he
    rw [AList.entries_insert, List.mem_cons] at he
    rcases he with rfl | he
    · rfl
    · exact t.inUse e ((List.kerase_sublist channelID _).subset he)

/-- What a method does while it has the lock to begin a use. -/
def beginLocked (totalLimit perUserLimit : Int) :
    Option ReleaseFunc × ChannelCapacitySnapshot × ChannelActiveUserTracker :=
  let capacity := t.capacityLocked channelID userID totalLimit perUserLimit
  if ¬ capacity.allowed then (none, capacity, t)
  else (some (.once channelID userID), capacity, t.enroll channelID userID)

def beginWithLimit (totalLimit perUserLimit : Int) :
    Option ReleaseFunc × ChannelCapacitySnapshot × ChannelActiveUserTracker :=
  if channelID ≤ 0 ∨ userID ≤ 0 then (some .nothing, ⟨true, .none, 0, 0, totalLimit, perUserLimit⟩, t)
  else t.beginLocked channelID userID totalLimit perUserLimit

/-- One pass of the loop of `beginWithLimitWaiting`; `cancelled` is `ctx.Err() != nil`. Between two passes the call waits
for a change, without the lock. -/
def beginWithLimitWaiting (totalLimit perUserLimit maxWait : Int)
    (cancelled : Bool) : Option ReleaseFunc × ChannelCapacitySnapshot × ChannelActiveUserTracker :=
  if maxWait ≤ 0 ∨ channelID ≤ 0 ∨ userID ≤ 0 then t.beginWithLimit channelID userID totalLimit perUserLimit
  else if cancelled then (none, ⟨false, .none, 0, 0, 0, 0⟩, t)
  else t.beginLocked channelID userID totalLimit perUserLimit

/-- The maps after a use of `userCounts`, which is that of the channel, has ended. -/
def endUse (userCounts : Tally Int) :
    ChannelActiveUserTracker where
  usersByChannel :=
    if (userCounts.decr userID).isEmpty then t.usersByChannel.erase channelID
    else t.usersByChannel.insert channelID (userCounts.decr userID)
  activeByChannel := t.activeByChannel.decr channelID
  inUse := by
    intro e he
    split at he
    · exact t.inUse e ((List.kerase_sublist channelID _).subset he)
    · rename_i h
      rw [AList.entries_insert, List.mem_cons] at he
      rcases he with rfl | he
      · exact Bool.eq_false_iff.2 h
      · exact t.inUse e ((List.kerase_sublist channelID _).subset he)

/-- `end`. -/
def finish : ChannelActiveUserTracker :=
  match t.usersByChannel.lookup channelID with
  | none => t
  | some userCounts => t.endUse channelID userID userCounts

section Lemmas

variable {t : ChannelActiveUserTracker} {c u totalLimit perUserLimit : Int}

theorem capacityLocked_allowed (h : (t.capacityLocked c u totalLimit perUserLimit).allowed) :
    (0 < totalLimit → t.activeByChannel.get c < totalLimit) ∧ (0 < perUserLimit → (t.users c).get u < perUserLimit) := by
  unfold capacityLocked at h
  simp only at h
  split_ifs at h with htotal huser
  exact ⟨fun _ => by omega, fun _ => by omega⟩

theorem users_enroll : (t.enroll c u).users = update t.users c ((t.users c).incr u) := by
  funext d
  by_cases h : d = c
  · subst h
    simp [users, enroll]
  · simp [users, enroll, AList.lookup_insert_ne h, update_of_ne h]

theorem users_endUse (m : Tally Int) : (t.endUse c u m).users = update t.users c (m.decr u) := by
  funext d
  unfold endUse users
  by_cases hd : d = c
  · subst hd
    rw [update_self]
    split
    · rename_i hempty
      rw [AList.lookup_erase]
      exact (eq_empty hempty).symm
    · rw [AList.lookup_insert]
      rfl
  · rw [update_of_ne hd]
    split
    · rw [AList.lookup_erase_ne hd]
    · rw [AList.lookup_insert_ne hd]

theorem finish_eq (h : 0 < (t.users c).get u) : t.finish c u = t.endUse c u (t.users c) := by
  unfold finish
  cases hl : t.usersByChannel.lookup c with
  | none => simp [users, hl] at h
  | some m => simp [users, hl]

theorem maps_empty (hactive : ∀ c, t.activeByChannel.get c = 0) (husers : ∀ c u, (t.users c).get u = 0) :
    t.usersByChannel = ∅ ∧ t.activeByChannel.counts = ∅ := by
  refine ⟨AList.ext ?_, AList.ext (isEmpty_iff.1 (isEmpty_of_get hactive))⟩
  refine eq_nil_iff_forall_not_mem.2 fun e he => ?_
  obtain ⟨u, hu⟩ := exists_pos (t.inUse e he)
  have hlookup : t.usersByChannel.lookup e.1 = some e.2 := AList.mem_lookup_iff.2 he
  have hzero := husers e.1 u
  rw [users, hlookup] at hzero
  exact absurd hzero (Nat.pos_iff_ne_zero.1 hu)

end Lemmas

end ChannelActiveUserTracker

open ChannelActiveUserTracker

/-! ## The calls of all requests -/

structure ConcurrencyLimits where
  total : Int → Int
  perUser : Int → Int → Int

/-- A release function that was handed out; `done` is its `sync.Once`. -/
structure ActiveUse where
  func : ReleaseFunc
  done : Bool
  deriving DecidableEq, Repr

/-- The tracker and the release functions that were handed out, the oldest first. -/
structure ActiveUses where
  tracker : ChannelActiveUserTracker
  uses : List ActiveUse

inductive TrackerCall where
  | beginWithLimit (channelID userID : Int)
  /-- One pass of a call that waits. -/
  | beginWithLimitWaiting (channelID userID maxWait : Int) (cancelled : Bool)
  /-- The `i`-th release function is called. -/
  | release (i : Nat)
  deriving DecidableEq, Repr

/-- The use ends a use of the channel when its function is called. -/
def ActiveUse.outstandingOn (channelID : Int) (use : ActiveUse) : Bool :=
  match use.func with
  | .nothing => false
  | .once c _ => decide (c = channelID) && !use.done

namespace ActiveUses

def new : ActiveUses := ⟨.new, []⟩

/-- The result of a call that begins a use. -/
def begun (s : ActiveUses) : Option ReleaseFunc × ChannelCapacitySnapshot × ChannelActiveUserTracker → ActiveUses
  | (none, _, t) => { s with tracker := t }
  | (some func, _, t) => ⟨t, s.uses ++ [⟨func, false⟩]⟩

def release (s : ActiveUses) (i : Nat) : ActiveUses :=
  match s.uses[i]? with
  | some ⟨.once channelID userID, false⟩ =>
    ⟨s.tracker.finish channelID userID, s.uses.set i ⟨.once channelID userID, true⟩⟩
  | _ => s

/-- How many release functions are outstanding for a channel. -/
def outstandingOn (s : ActiveUses) (channelID : Int) : Nat := s.uses.countP (ActiveUse.outstandingOn channelID)

/-- How many release functions are outstanding for a channel and a user. -/
def outstanding (s : ActiveUses) (channelID userID : Int) : Nat := s.uses.count ⟨.once channelID userID, false⟩

end ActiveUses

/-- **A call of some request.** -/
def trackerStep (l : ConcurrencyLimits) (s : ActiveUses) : TrackerCall → ActiveUses
  | .beginWithLimit c u => s.begun (s.tracker.beginWithLimit c u (l.total c) (l.perUser c u))
  | .beginWithLimitWaiting c u maxWait cancelled =>
    s.begun (s.tracker.beginWithLimitWaiting c u (l.total c) (l.perUser c u) maxWait cancelled)
  | .release i => s.release i

section Steps

variable (l : ConcurrencyLimits) {s : ActiveUses} (a : TrackerCall)

/-- What a call can do: nothing, hand out the function that does nothing, begin a use within the limits, or end one. -/
inductive TrackerEffect (s : ActiveUses) : ActiveUses → Prop where
  | same : TrackerEffect s s
  | nothing : TrackerEffect s ⟨s.tracker, s.uses ++ [⟨.nothing, false⟩]⟩
  | enroll {c u : Int} (hok : (s.tracker.capacityLocked c u (l.total c) (l.perUser c u)).allowed = true) :
    TrackerEffect s ⟨s.tracker.enroll c u, s.uses ++ [⟨.once c u, false⟩]⟩
  | finish {i : Nat} {c u : Int} (hi : s.uses[i]? = some ⟨.once c u, false⟩) :
    TrackerEffect s ⟨s.tracker.finish c u, s.uses.set i ⟨.once c u, true⟩⟩

theorem begun_beginLocked (c u : Int) :
    TrackerEffect l s (s.begun (s.tracker.beginLocked c u (l.total c) (l.perUser c u))) := by
  unfold beginLocked
  simp only
  split
  · exact .same
  · rename_i h
    exact .enroll (by simpa using h)

theorem begun_beginWithLimit (c u : Int) :
    TrackerEffect l s (s.begun (s.tracker.beginWithLimit c u (l.total c) (l.perUser c u))) := by
  unfold beginWithLimit
  split
  · exact .nothing
  · exact begun_beginLocked l c u

theorem trackerStep_effect : TrackerEffect l s (trackerStep l s a) := by
  cases a with
  | beginWithLimit c u => exact begun_beginWithLimit l c u
  | beginWithLimitWaiting c u maxWait cancelled =>
    rw [trackerStep, beginWithLimitWaiting]
    split_ifs
    · exact begun_beginWithLimit l c u
    · exact .same
    · exact begun_beginLocked l c u
  | release i =>
    simp only [trackerStep, ActiveUses.release]
    split
    · rename_i h
      exact .finish h
    · exact .same

end Steps

/-! ## Outstanding release functions -/

namespace ActiveUses

variable {s : ActiveUses} (t : ChannelActiveUserTracker) {c u : Int} {i : Nat}

theorem outstandingOn_nothing : outstandingOn ⟨t, s.uses ++ [⟨.nothing, false⟩]⟩ = s.outstandingOn := by
  funext d
  simp [outstandingOn, ActiveUse.outstandingOn]

theorem outstanding_nothing : outstanding ⟨t, s.uses ++ [⟨.nothing, false⟩]⟩ = s.outstanding := by
  funext d v
  simp [outstanding]

theorem outstandingOn_once : outstandingOn ⟨t, s.uses ++ [⟨.once c u, false⟩]⟩ =
    update s.outstandingOn c (s.outstandingOn c + 1) := by
  funext d
  by_cases h : d = c
  · simp [outstandingOn, ActiveUse.outstandingOn, h]
  · simp [outstandingOn, ActiveUse.outstandingOn, h, Ne.symm h]

theorem outstanding_once : outstanding ⟨t, s.uses ++ [⟨.once c u, false⟩]⟩ =
    update s.outstanding c (update (s.outstanding c) u (s.outstanding c u + 1)) := by
  funext d v
  by_cases h : d = c
  · subst h
    by_cases hv : v = u
    · simp [outstanding, hv]
    · simp [outstanding, hv, Ne.symm hv]
  · simp [outstanding, h, Ne.symm h]

theorem outstandingOn_set (h : s.uses[i]? = some ⟨.once c u, false⟩) :
    outstandingOn ⟨t, s.uses.set i ⟨.once c u, true⟩⟩ = update s.outstandingOn c (s.outstandingOn c - 1) := by
  obtain ⟨hlt, hget⟩ := List.getElem?_eq_some_iff.1 h
  funext d
  simp only [outstandingOn, countP_set hlt, hget]
  by_cases hd : d = c
  · simp [ActiveUse.outstandingOn, hd]
  · simp [outstandingOn, ActiveUse.outstandingOn, hd, Ne.symm hd]

theorem outstanding_set (h : s.uses[i]? = some ⟨.once c u, false⟩) :
    outstanding ⟨t, s.uses.set i ⟨.once c u, true⟩⟩ =
      update s.outstanding c (update (s.outstanding c) u (s.outstanding c u - 1)) := by
  obtain ⟨hlt, hget⟩ := List.getElem?_eq_some_iff.1 h
  funext d v
  simp only [outstanding, count_set hlt, hget]
  by_cases hd : d = c
  · subst hd
    by_cases hv : v = u
    · simp [hv]
    · simp [outstanding, hv, Ne.symm hv]
  · simp [outstanding, hd, Ne.symm hd]

theorem outstanding_le : s.outstanding c u ≤ s.outstandingOn c := by
  refine countP_mono_left fun use _ huse => ?_
  rw [beq_iff_eq.1 huse]
  simp [ActiveUse.outstandingOn]

end ActiveUses

/-! ## Accounting -/

/-- The maps count the release functions that are outstanding, within the limits. -/
structure ActiveUses.Accounted (l : ConcurrencyLimits) (s : ActiveUses) : Prop where
  active : s.tracker.activeByChannel.get = s.outstandingOn
  user : Tally.get ∘ s.tracker.users = s.outstanding
  sum : Tally.total ∘ s.tracker.users = s.outstandingOn
  channelLimit : ∀ c, 0 < l.total c → s.outstandingOn c ≤ l.total c
  userLimit : ∀ c u, 0 < l.perUser c u → s.outstanding c u ≤ l.perUser c u

section Accounting

variable {l : ConcurrencyLimits} {s : ActiveUses}

namespace ActiveUses

variable (h : s.Accounted l)

include h

theorem Accounted.user_get (c u : Int) : (s.tracker.users c).get u = s.outstanding c u :=
  congrFun (congrFun h.user c) u

theorem Accounted.nothing : Accounted l ⟨s.tracker, s.uses ++ [⟨.nothing, false⟩]⟩ := by
  constructor <;> simp only [outstandingOn_nothing, outstanding_nothing]
  · exact h.active
  · exact h.user
  · exact h.sum
  · exact h.channelLimit
  · exact h.userLimit

theorem Accounted.enroll {c u : Int}
    (hok : (s.tracker.capacityLocked c u (l.total c) (l.perUser c u)).allowed) :
    Accounted l ⟨s.tracker.enroll c u, s.uses ++ [⟨.once c u, false⟩]⟩ := by
  obtain ⟨htotal, huser⟩ := capacityLocked_allowed hok
  rw [h.active] at htotal
  rw [h.user_get] at huser
  refine ⟨?_, ?_, ?_, fun d hd => ?_, fun d v hv => ?_⟩
  · have hactive : (s.tracker.enroll c u).activeByChannel = s.tracker.activeByChannel.incr c := rfl
    rw [hactive, get_incr, h.active, outstandingOn_once]
  · rw [users_enroll, comp_update, get_incr, outstanding_once, ← h.user]
    rfl
  · rw [users_enroll, comp_update, total_incr, outstandingOn_once, ← h.sum]
    rfl
  · rw [outstandingOn_once]
    by_cases hdc : d = c
    · subst hdc
      rw [update_self]
      omega
    · rw [update_of_ne hdc]
      exact h.channelLimit d hd
  · rw [outstanding_once]
    by_cases hdc : d = c
    · subst hdc
      rw [update_self]
      by_cases hvu : v = u
      · subst hvu
        rw [update_self]
        omega
      · rw [update_of_ne hvu]
        exact h.userLimit d v hv
    · rw [update_of_ne hdc]
      exact h.userLimit d v hv

theorem Accounted.finish {i : Nat} {c u : Int} (hi : s.uses[i]? = some ⟨.once c u, false⟩) :
    Accounted l ⟨s.tracker.finish c u, s.uses.set i ⟨.once c u, true⟩⟩ := by
  have hpos : 0 < (s.tracker.users c).get u := by
    rw [h.user_get]
    exact count_pos_iff.2 (mem_of_getElem? hi)
  have hsum : ((s.tracker.users c).decr u).total = s.outstandingOn c - 1 := by
    have htotal := total_decr _ _ hpos
    have hc : (s.tracker.users c).total = s.outstandingOn c := congrFun h.sum c
    omega
  rw [finish_eq hpos]
  refine ⟨?_, ?_, ?_, fun d hd => ?_, fun d v hv => ?_⟩
  · have hactive : (s.tracker.endUse c u (s.tracker.users c)).activeByChannel = s.tracker.activeByChannel.decr c := rfl
    rw [hactive, get_decr, h.active, outstandingOn_set _ hi]
  · rw [users_endUse, comp_update, get_decr, outstanding_set _ hi, ← h.user]
    rfl
  · rw [users_endUse, comp_update, hsum, outstandingOn_set _ hi, h.sum]
  · have hle : outstandingOn ⟨s.tracker.endUse c u (s.tracker.users c), s.uses.set i ⟨.once c u, true⟩⟩ d ≤
        s.outstandingOn d := by
      rw [outstandingOn_set _ hi]
      by_cases hdc : d = c
      · subst hdc
        simp
      · simp [hdc]
    exact Int.le_trans (Int.ofNat_le.2 hle) (h.channelLimit d hd)
  · have hle : outstanding ⟨s.tracker.endUse c u (s.tracker.users c), s.uses.set i ⟨.once c u, true⟩⟩ d v ≤
        s.outstanding d v := by
      rw [outstanding_set _ hi]
      by_cases hdc : d = c
      · subst hdc
        by_cases hvu : v = u
        · subst hvu
          simp
        · simp [hvu]
      · simp [hdc]
    exact Int.le_trans (Int.ofNat_le.2 hle) (h.userLimit d v hv)

end ActiveUses

/-- **Every call keeps the accounts.** -/
theorem trackerStep_accounted (a : TrackerCall) (h : s.Accounted l) : (trackerStep l s a).Accounted l := by
  have heffect : TrackerEffect l s (trackerStep l s a) := trackerStep_effect l a
  generalize trackerStep l s a = s' at heffect ⊢
  cases heffect with
  | same => exact h
  | nothing => exact h.nothing
  | enroll hok => exact h.enroll hok
  | finish hi => exact h.finish hi

end Accounting

/-! ## One-shot releases -/

section Once

variable {l : ConcurrencyLimits} {s : ActiveUses} {i : Nat}

/-- The `i`-th release function does nothing when it is called. -/
def ActiveUses.Spent (i : Nat) (s : ActiveUses) : Prop :=
  ∃ use, s.uses[i]? = some use ∧ (use.func = .nothing ∨ use.done = true)

theorem ActiveUses.Spent.release (h : s.Spent i) : s.release i = s := by
  obtain ⟨⟨func, done⟩, hget, hspent⟩ := h
  unfold ActiveUses.release
  rw [hget]
  rcases hspent with hfunc | hdone
  · cases hfunc
    rfl
  · cases hdone
    cases func <;> rfl

/-- A call spends the release function. -/
theorem ActiveUses.spent_release (h : i < s.uses.length) : (s.release i).Spent i := by
  unfold ActiveUses.release
  rw [getElem?_eq_getElem h]
  split
  · rename_i c u heq
    exact ⟨⟨.once c u, true⟩, by simp [h], .inr rfl⟩
  · rename_i hne
    refine ⟨s.uses[i], getElem?_eq_getElem h, ?_⟩
    cases huse : s.uses[i] with
    | mk func done =>
      cases func with
      | nothing => exact .inl rfl
      | once c u =>
        cases done with
        | false => exact absurd (congrArg some huse) (hne c u)
        | true => exact .inr rfl

theorem trackerStep_spent (a : TrackerCall) (h : s.Spent i) : (trackerStep l s a).Spent i := by
  obtain ⟨use, hget, hspent⟩ := h
  have happend : ∀ use', (s.uses ++ [use'])[i]? = some use := fun use' => by
    rw [getElem?_append_left (List.getElem?_eq_some_iff.1 hget).1]
    exact hget
  have heffect : TrackerEffect l s (trackerStep l s a) := trackerStep_effect l a
  generalize trackerStep l s a = s' at heffect ⊢
  cases heffect with
  | same => exact ⟨use, hget, hspent⟩
  | nothing | enroll => exact ⟨use, happend _, hspent⟩
  | @finish j c u =>
    by_cases hij : j = i
    · subst hij
      exact ⟨⟨.once c u, true⟩, by simp [(List.getElem?_eq_some_iff.1 hget).1], .inr rfl⟩
    · exact ⟨use, by simpa [getElem?_set_ne hij] using hget, hspent⟩

end Once

/-- **The accounting of the tracker.** After every sequence of calls, for constant limits, the active count of a channel is
the number of its release functions that are outstanding and the sum of its counts by user, which are the numbers of those
of the user; positive limits are kept; a release function that was called does nothing when it is called again; and the
maps are empty when no release function is outstanding. -/
theorem tracker_accounting (l : ConcurrencyLimits) (as : List TrackerCall) :
    (∀ c, ((run (trackerStep l) .new as).tracker.activeByChannel.get c = (run (trackerStep l) .new as).outstandingOn c ∧
      (run (trackerStep l) .new as).tracker.activeByChannel.get c =
        ((run (trackerStep l) .new as).tracker.users c).total ∧
      (0 < l.total c → (run (trackerStep l) .new as).tracker.activeByChannel.get c ≤ l.total c) ∧
      ∀ u, ((run (trackerStep l) .new as).tracker.users c).get u = (run (trackerStep l) .new as).outstanding c u ∧
        (0 < l.perUser c u → ((run (trackerStep l) .new as).tracker.users c).get u ≤ l.perUser c u))) ∧
    (∀ i bs, i < (run (trackerStep l) .new as).uses.length →
      trackerStep l (run (trackerStep l) .new (as ++ .release i :: bs)) (.release i) =
        run (trackerStep l) .new (as ++ .release i :: bs)) ∧
    ((∀ c, (run (trackerStep l) .new as).outstandingOn c = 0) →
      (run (trackerStep l) .new as).tracker.usersByChannel = ∅ ∧
      (run (trackerStep l) .new as).tracker.activeByChannel.counts = ∅) := by
  have h : (run (trackerStep l) .new as).Accounted l :=
    run_inv (fun _ a => trackerStep_accounted a) as
      ⟨rfl, rfl, rfl, fun _ h => Int.le_of_lt h, fun _ _ h => Int.le_of_lt h⟩
  generalize hs : run (trackerStep l) .new as = s at h
  refine ⟨fun c => ⟨congrFun h.active c, ?_, ?_, fun u => ⟨h.user_get c u, ?_⟩⟩, fun i bs hi => ?_, fun hnone => ?_⟩
  · exact (congrFun h.active c).trans (congrFun h.sum c).symm
  · rw [h.active]
    exact h.channelLimit c
  · rw [h.user_get]
    exact h.userLimit c u
  · have hspent : (run (trackerStep l) .new (as ++ .release i :: bs)).Spent i := by
      rw [run_append, hs]
      exact run_inv (fun _ a => trackerStep_spent a) bs (ActiveUses.spent_release hi)
    exact hspent.release
  · refine maps_empty (fun c => (congrFun h.active c).trans (hnone c)) fun c u => ?_
    rw [h.user_get]
    exact Nat.le_zero.1 (hnone c ▸ ActiveUses.outstanding_le)

end SynthApi
