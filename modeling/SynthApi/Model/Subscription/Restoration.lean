import SynthApi.Model.Subscription.Consume
import SynthApi.Model.Subscription.Ending

/-!
# The group of a user after upgrades

Each subscription remembers the group that its user had at its purchase. A renewal finds the user in the upgrade group
already and remembers nothing, so the user stays there when it ends; an upgrade on top of another remembers the first
upgrade group, so the user falls back to that (`upgrade_outlives_subscriptions`).

`Orderly` excludes both: upgrades do not overlap, and a sweep finds the subscription that it ends as the last expired
one. Then every subscription of the user remembers the original group (`RowsInv`), and in every state the user is in
that group or in the one of an active subscription (`group_restored`). What all endings have in common is `Ended`.
-/

namespace SynthApi

open Lib Lib.Go List UserSubscription Table Store

/-! ## Groups -/

section Groups

variable {st : Store} {uid userId : Int} {group : String} {sub last : UserSubscription}

theorem trimSpace_upgrade (h : group ∈ unlimitedSubscriptionGroups) : trimSpace group = group := by
  simp only [unlimitedSubscriptionGroups, mem_cons, not_mem_nil, or_false] at h
  rcases h with rfl | rfl | rfl <;> decide

@[simp] theorem isSubscriptionUserUpgradeGroup_trimSpace :
    isSubscriptionUserUpgradeGroup (trimSpace group) = isSubscriptionUserUpgradeGroup group := by
  simp only [isSubscriptionUserUpgradeGroup, isUnlimitedSubscriptionGroup, trimSpace_trimSpace]

theorem mem_of_isUpgradeGroup (h : isSubscriptionUserUpgradeGroup group) :
    trimSpace group ∈ unlimitedSubscriptionGroups := by
  simpa [isSubscriptionUserUpgradeGroup, isUnlimitedSubscriptionGroup] using h

namespace UserSubscription

theorem isUpgradeGroup_of_isUpgrade (h : sub.isUpgrade) :
    isSubscriptionUserUpgradeGroup sub.upgradeGroup := by
  have hmem : sub.upgradeGroup ∈ unlimitedSubscriptionGroups := by simpa [isUpgrade] using h
  simpa [isSubscriptionUserUpgradeGroup, isUnlimitedSubscriptionGroup, trimSpace_upgrade hmem] using hmem

end UserSubscription

theorem lookup_updateUser {f : User → User} (hf : ∀ u, (f u).id = u.id) (users : List User) :
    lookup User.id uid (updateKey User.id userId f users) =
      (lookup User.id uid users).map fun u => if u.id = userId then f u else u := by
  have h : lookup User.id uid (updateKey User.id userId f users) = _ :=
    lookup_updateWhere fun u _ => hf u
  simpa using h

theorem setGroup_hasUser : (st.setGroup userId group).HasUser uid ↔ st.HasUser uid := by
  simp [HasUser, setGroup, lookup_updateUser]

theorem setGroup_group (h : st.HasUser uid) : getUserGroupById (st.setGroup uid group) uid = group := by
  obtain ⟨u, hu⟩ := Option.isSome_iff_exists.1 h
  simp [getUserGroupById, setGroup, lookup_updateUser, hu, key_of_lookup hu]

theorem setGroup_group_ne (h : userId ≠ uid) :
    getUserGroupById (st.setGroup userId group) uid = getUserGroupById st uid := by
  cases hu : lookup User.id uid st.users with
  | none => simp [getUserGroupById, setGroup, lookup_updateUser, hu]
  | some u =>
    have hne : u.id ≠ userId := fun heq => h (heq.symm.trans (key_of_lookup hu))
    simp [getUserGroupById, setGroup, lookup_updateUser, hu, hne]

theorem payRefund_userSubscriptions (refundQuota : Int) :
    (st.payRefund userId refundQuota).userSubscriptions = st.userSubscriptions := by
  unfold payRefund
  split <;> rfl

theorem payRefund_hasUser (refundQuota : Int) : (st.payRefund userId refundQuota).HasUser uid ↔ st.HasUser uid := by
  have hf : ∀ u : User, (u.addQuota refundQuota).id = u.id := fun _ => rfl
  unfold payRefund HasUser
  split
  · rw [lookup_updateUser hf, Option.isSome_map]
  · rfl

theorem payRefund_group (refundQuota : Int) :
    getUserGroupById (st.payRefund userId refundQuota) uid = getUserGroupById st uid := by
  have hf : ∀ u : User, (u.addQuota refundQuota).id = u.id := fun _ => rfl
  unfold payRefund getUserGroupById
  split
  · rw [lookup_updateUser hf, Option.map_map]
    congr 2
    funext u
    simp only [Function.comp_apply]
    split <;> rfl
  · rfl

/-! ## Back to a group -/

theorem restoreGroup_cases (st : Store) (userId : Int) (last : UserSubscription) :
    restoreGroup st userId last = st ∨ ∃ group, restoreGroup st userId last = st.setGroup userId group := by
  unfold restoreGroup
  dsimp only
  split_ifs
  · exact .inl rfl
  · exact .inl rfl
  · exact .inr ⟨_, rfl⟩

theorem restoreGroup_userSubscriptions :
    (restoreGroup st userId last).userSubscriptions = st.userSubscriptions := by
  obtain h | ⟨group, h⟩ := restoreGroup_cases st userId last <;> rw [h]
  rfl

theorem restoreGroup_hasUser : (restoreGroup st userId last).HasUser uid ↔ st.HasUser uid := by
  obtain h | ⟨group, h⟩ := restoreGroup_cases st userId last <;> rw [h]
  exact setGroup_hasUser

theorem restoreGroup_group_ne (h : userId ≠ uid) :
    getUserGroupById (restoreGroup st userId last) uid = getUserGroupById st uid := by
  obtain h' | ⟨group, h'⟩ := restoreGroup_cases st userId last <;> rw [h']
  exact setGroup_group_ne h

theorem exists_of_findsActiveUpgrade {e : Env} {p : UserSubscription → Bool} (h : findsActiveUpgrade e st p) :
    ∃ s ∈ st.userSubscriptions, p s := by
  rw [findsActiveUpgrade, Bool.and_eq_true, any_eq_true] at h
  exact h.2

/-- A downgrade is skipped, for a row without an upgrade group or for another active one, or goes back. -/
theorem downgrade_cases {e : Env} {now : Int} {r : String × Store}
    (h : downgradeUserGroupForSubscriptionTx e st sub now = .ok r) :
    isSubscriptionUserUpgradeGroup sub.upgradeGroup = false ∧ r.2 = st ∨
      (∃ s ∈ st.userSubscriptions, s.keepsGroup sub.userId now) ∧ r.2 = st ∨
      isSubscriptionUserUpgradeGroup sub.upgradeGroup ∧ r.2 = restoreGroup st sub.userId sub := by
  unfold downgradeUserGroupForSubscriptionTx at h
  simp only [isSubscriptionUserUpgradeGroup_trimSpace] at h
  by_cases hup : isSubscriptionUserUpgradeGroup sub.upgradeGroup
  · have hne : trimSpace sub.upgradeGroup ≠ "" := by
      intro heq
      have hmem := mem_of_isUpgradeGroup hup
      rw [heq] at hmem
      exact absurd hmem (by decide)
    unfold restoreGroup
    split_ifs at h with huid hcur hfind hprev
    · cases h
      exact .inr (.inr ⟨hup, by simp [hcur]⟩)
    · cases h
      obtain ⟨s, hs, hkeeps⟩ := exists_of_findsActiveUpgrade hfind
      rw [Bool.and_eq_true] at hkeeps
      exact .inr (.inl ⟨⟨s, hs, hkeeps.1⟩, rfl⟩)
    · cases h
      refine .inr (.inr ⟨hup, ?_⟩)
      rcases hprev with hprev | hprev
      · simp [hprev]
      · simp [hprev]
    · cases h
      rw [not_or] at hprev
      refine .inr (.inr ⟨hup, ?_⟩)
      rw [if_neg (not_or_intro hne hprev.1), if_neg (not_or_intro hcur (Ne.symm hprev.2))]
  · rw [if_pos hup] at h
    cases h
    exact .inl ⟨by simpa using hup, rfl⟩

end Groups

/-! ## The invariant -/

def ActiveUpgrade (uid : Int) (sub : UserSubscription) : Prop :=
  sub.userId = uid ∧ sub.status = .active ∧ sub.isUpgrade = true

instance (uid : Int) (sub : UserSubscription) : Decidable (ActiveUpgrade uid sub) :=
  inferInstanceAs (Decidable (_ ∧ _ ∧ _))

/-- The row has stored what a purchase stores for a user in group `g`. -/
def UserSubscription.Remembers (g : String) (sub : UserSubscription) : Prop :=
  sub.prevUserGroup = if sub.upgradeGroup = g then "" else g

/-- The group can be stored and read back. -/
def Storable (g : String) : Prop := g ≠ "" ∧ trimSpace g = g

/-- The rows, for a user whose original group is `g`. -/
structure RowsInv (uid : Int) (g : String) (subs : List UserSubscription) : Prop where
  ids : (subs.map (·.id)).Nodup
  stored : ∀ sub ∈ subs, sub.userId = uid → isSubscriptionUserUpgradeGroup sub.upgradeGroup = true →
    sub.isUpgrade = true ∧ sub.Remembers g
  unique : ∀ sub ∈ subs, ∀ sub' ∈ subs, ActiveUpgrade uid sub → ActiveUpgrade uid sub' → sub = sub'

def InGroup (uid : Int) (g : String) (st : Store) : Prop :=
  getUserGroupById st uid = g ∨
    ∃ sub ∈ st.userSubscriptions, ActiveUpgrade uid sub ∧ getUserGroupById st uid = sub.upgradeGroup

structure GroupInv (uid : Int) (g : String) (st : Store) : Prop where
  rows : RowsInv uid g st.userSubscriptions
  user : st.HasUser uid
  group : InGroup uid g st

variable {last : UserSubscription} {subs : List UserSubscription}

/-- Going back brings the user to the original group, out of the group of the row. -/
theorem restoreGroup_group {uid : Int} {g : String} {st : Store} (hg : Storable g)
    (huser : st.HasUser uid) (hup : last.isUpgrade) (hrem : last.Remembers g) :
    getUserGroupById (restoreGroup st uid last) uid = g ∨
      getUserGroupById (restoreGroup st uid last) uid = getUserGroupById st uid ∧
        getUserGroupById st uid ≠ last.upgradeGroup := by
  unfold restoreGroup
  rw [trimSpace_upgrade (by simpa [isUpgrade] using hup), hrem]
  by_cases hgu : last.upgradeGroup = g
  · -- the row has stored nothing, since the user was in the upgrade group before
    rw [if_pos hgu]
    rw [if_pos (.inr (by decide)), hgu]
    by_cases hcur : getUserGroupById st uid = g
    · exact .inl hcur
    · exact .inr ⟨rfl, hcur⟩
  · rw [if_neg hgu, hg.2]
    dsimp only
    split_ifs with hempty hcur
    · rcases hempty with hempty | hempty
      · rw [isUpgrade, hempty] at hup
        exact absurd hup (by decide)
      · exact absurd hempty hg.1
    · rcases hcur with hcur | hcur
      · exact .inr ⟨rfl, hcur⟩
      · exact .inl hcur
    · exact .inl (setGroup_group huser)

/-! ## Ending rows -/

/-- A change of rows that only ends subscriptions. -/
structure Ends (f : UserSubscription → UserSubscription) : Prop where
  id : ∀ sub, (f sub).id = sub.id
  userId : ∀ sub, (f sub).userId = sub.userId
  upgradeGroup : ∀ sub, (f sub).upgradeGroup = sub.upgradeGroup
  prevUserGroup : ∀ sub, (f sub).prevUserGroup = sub.prevUserGroup
  status : ∀ sub, f sub = sub ∨ (f sub).status ≠ .active

/-- The rows change by `f`, and the user stays. -/
structure Marked (uid : Int) (f : UserSubscription → UserSubscription) (st st' : Store) : Prop where
  ends : Ends f
  rows : st'.userSubscriptions = st.userSubscriptions.map f
  user : st'.HasUser uid ↔ st.HasUser uid
  group : getUserGroupById st' uid = getUserGroupById st uid

/-- The rows change by `f`, and the user goes back to the original group or stays, where no subscription that keeps the
user in the present group ends. -/
structure Ended (uid : Int) (g : String) (f : UserSubscription → UserSubscription) (st st' : Store) : Prop where
  ends : Ends f
  rows : st'.userSubscriptions = st.userSubscriptions.map f
  user : st'.HasUser uid ↔ st.HasUser uid
  group : getUserGroupById st' uid = g ∨ getUserGroupById st' uid = getUserGroupById st uid ∧
    ∀ sub ∈ st.userSubscriptions, ActiveUpgrade uid sub → getUserGroupById st uid = sub.upgradeGroup → f sub = sub

section Ending

variable {uid : Int} {g : String} {f : UserSubscription → UserSubscription}
  {sub sub' : UserSubscription} {st st' : Store}

theorem Ends.isUpgrade (hf : Ends f) (sub : UserSubscription) : (f sub).isUpgrade = sub.isUpgrade := by
  rw [UserSubscription.isUpgrade, hf.upgradeGroup, UserSubscription.isUpgrade]

/-- A row that is active afterwards was there before. -/
theorem Ends.active (hf : Ends f) (h : (f sub).status = .active) : f sub = sub := by
  rcases hf.status sub with hs | hs
  · exact hs
  · exact absurd h hs

theorem Ends.of_mem_map (hf : Ends f) (hsub : sub ∈ subs.map f) (h : sub.status = .active) : sub ∈ subs ∧ f sub = sub := by
  obtain ⟨old, hold, rfl⟩ := mem_map.1 hsub
  have heq := hf.active h
  rw [heq]
  exact ⟨hold, heq⟩

theorem UserSubscription.keepsGroup_active {now : Int} (h : sub.keepsGroup uid now) : ActiveUpgrade uid sub := by
  simp only [keepsGroup, Bool.and_eq_true, decide_eq_true_eq] at h
  exact ⟨h.1.1.1, h.1.1.2, h.2⟩

theorem RowsInv.map (h : RowsInv uid g subs) (hf : Ends f) : RowsInv uid g (subs.map f) := by
  refine ⟨?_, ?_, ?_⟩
  · have hids : (subs.map f).map (·.id) = subs.map (·.id) := by
      rw [map_map]
      exact map_congr_left fun sub _ => hf.id sub
    rw [hids]
    exact h.ids
  · intro sub hsub huid hup
    obtain ⟨old, hold, rfl⟩ := mem_map.1 hsub
    rw [hf.userId] at huid
    rw [hf.upgradeGroup] at hup
    rw [hf.isUpgrade, Remembers, hf.upgradeGroup, hf.prevUserGroup]
    exact h.stored old hold huid hup
  · intro sub hsub sub' hsub' hact hact'
    have hold := hf.of_mem_map hsub hact.2.1
    have hold' := hf.of_mem_map hsub' hact'.2.1
    exact h.unique sub hold.1 sub' hold'.1 hact hact'

/-- **An ending keeps the invariant.** -/
theorem GroupInv.ended (h : GroupInv uid g st) (hend : Ended uid g f st st') : GroupInv uid g st' := by
  refine ⟨?_, hend.user.2 h.user, ?_⟩
  · rw [hend.rows]
    exact h.rows.map hend.ends
  · rcases hend.group with hgroup | ⟨hgroup, hstays⟩
    · exact .inl hgroup
    · rcases h.group with hg | ⟨sub, hsub, hact, hg⟩
      · exact .inl (hgroup.trans hg)
      · refine .inr ⟨sub, ?_, hact, hgroup.trans hg⟩
        rw [hend.rows]
        exact mem_map.2 ⟨sub, hsub, hstays sub hsub hact hg⟩

variable (hmark : Marked uid f st st')

include hmark

theorem Marked.kept (h : GroupInv uid g st) (hsub : sub ∈ st'.userSubscriptions)
    (hact : ActiveUpgrade uid sub) (hsub' : sub' ∈ st.userSubscriptions) (hact' : ActiveUpgrade uid sub') :
    f sub' = sub' := by
  rw [hmark.rows] at hsub
  obtain ⟨hsub, hkept⟩ := hmark.ends.of_mem_map hsub hact.2.1
  rw [h.rows.unique sub' hsub' sub hsub hact' hact]
  exact hkept

theorem Marked.ended
    (hkept : ∀ sub ∈ st.userSubscriptions, ActiveUpgrade uid sub → f sub = sub) : Ended uid g f st st' :=
  ⟨hmark.ends, hmark.rows, hmark.user, .inr ⟨hmark.group, fun sub hsub hact _ => hkept sub hsub hact⟩⟩

/-- Going back after the rows have changed: by a row of the user, out of the group of every upgrade that has ended. -/
theorem Marked.restored (hg : Storable g) (h : GroupInv uid g st)
    (hlast : last.userId = uid → last.isUpgrade ∧ last.Remembers g)
    (hkept : ∀ sub ∈ st.userSubscriptions, ActiveUpgrade uid sub →
      (last.userId = uid → sub.upgradeGroup ≠ last.upgradeGroup) → f sub = sub) :
    Ended uid g f st (restoreGroup st' last.userId last) := by
  refine ⟨hmark.ends, ?_, restoreGroup_hasUser.trans hmark.user, ?_⟩
  · rw [restoreGroup_userSubscriptions, hmark.rows]
  by_cases huid : last.userId = uid
  · rw [huid]
    obtain ⟨hup, hrem⟩ := hlast huid
    rcases restoreGroup_group hg (hmark.user.2 h.user) hup hrem with hback | ⟨hsame, hne⟩
    · exact .inl hback
    · rw [hmark.group] at hsame hne
      exact .inr ⟨hsame, fun sub hsub hact hcur => hkept sub hsub hact fun _ heq => hne (hcur.trans heq)⟩
  · refine .inr ⟨?_, fun sub hsub hact _ => hkept sub hsub hact fun heq => absurd heq huid⟩
    rw [restoreGroup_group_ne huid, hmark.group]

omit hmark

theorem GroupInv.payRefund (h : GroupInv uid g st) (userId refundQuota : Int) :
    GroupInv uid g (st.payRefund userId refundQuota) := by
  refine ⟨?_, (payRefund_hasUser refundQuota).2 h.user, ?_⟩
  · rw [payRefund_userSubscriptions]
    exact h.rows
  · unfold InGroup
    rw [payRefund_userSubscriptions, payRefund_group]
    exact h.group

end Ending

/-! ## Cancelled rows -/

def cancelRow (id now : Int) (sub : UserSubscription) : UserSubscription := if sub.id = id then sub.cancel now else sub

section Cancelling

variable {uid : Int} {g : String} {sub s : UserSubscription} {st : Store} {e : Env} {now id : Int}

theorem cancelRow_ends (id now : Int) : Ends (cancelRow id now) := by
  refine ⟨?_, ?_, ?_, ?_, ?_⟩ <;> intro sub <;> unfold cancelRow <;> split
  all_goals first | rfl | exact .inl rfl | exact .inr (by simp [cancel])

theorem saveSubscription_cancel (h : RowsInv uid g st.userSubscriptions) (hsub : sub ∈ st.userSubscriptions) :
    (st.saveSubscription (sub.cancel now)).userSubscriptions = st.userSubscriptions.map (cancelRow sub.id now) := by
  refine map_congr_left fun s hs => ?_
  by_cases hid : s.id = sub.id
  · rw [eq_of_key h.ids hs hsub hid]
    simp [cancelRow, cancel]
  · simp [cancelRow, cancel, hid]

variable {r : String × Store} {userSubscriptionId : Int} (hg : Storable g) (h : GroupInv uid g st)

include hg h

theorem cancelAndDowngrade_ended (hsub : sub ∈ st.userSubscriptions) (hr : cancelAndDowngrade e now sub st = .ok r) :
    Ended uid g (cancelRow sub.id now) st r.2 := by
  have hmark : Marked uid (cancelRow sub.id now) st (st.saveSubscription (sub.cancel now)) :=
    ⟨cancelRow_ends sub.id now, saveSubscription_cancel h.rows hsub, Iff.rfl, rfl⟩
  have hother : ∀ s ∈ st.userSubscriptions, s ≠ sub → cancelRow sub.id now s = s :=
    fun s hs hne => if_neg fun hid => hne (eq_of_key h.rows.ids hs hsub hid)
  unfold cancelAndDowngrade at hr
  split at hr
  · cases hr
  rename_i r' hr'
  cases hr
  obtain ⟨hup, hr⟩ | ⟨⟨s, hs, hkeeps⟩, hr⟩ | ⟨hup, hr⟩ := downgrade_cases hr' <;> rw [hr]
  · refine hmark.ended fun s hs hact => hother s hs ?_
    rintro rfl
    have hup' := isUpgradeGroup_of_isUpgrade hact.2.2
    exact absurd (hup'.symm.trans hup) (by decide)
  · refine hmark.ended fun s' hs' hact' => ?_
    by_cases huid : sub.userId = uid
    · have hact : ActiveUpgrade uid s := huid ▸ keepsGroup_active hkeeps
      exact hmark.kept h hs hact hs' hact'
    · refine hother s' hs' ?_
      rintro rfl
      exact huid hact'.1
  · have hmem : sub.cancel now ∈ st.userSubscriptions.map (cancelRow sub.id now) :=
      mem_map.2 ⟨sub, hsub, if_pos rfl⟩
    have hstored := fun huid => (h.rows.map hmark.ends).stored (sub.cancel now) hmem huid hup
    refine hmark.restored hg h hstored fun s hs hact hne => hother s hs ?_
    rintro rfl
    exact hne hact.1 rfl

theorem GroupInv.invalidateTx (hr : invalidateTx e userSubscriptionId st = .ok r) : GroupInv uid g r.2 := by
  unfold SynthApi.invalidateTx at hr
  split at hr
  · cases hr
  · rename_i sub hsub
    exact h.ended (cancelAndDowngrade_ended hg h (mem_of_lookup hsub) hr)

theorem GroupInv.cancelTx {userId : Int} {r : SubscriptionCancelResult × Store}
    (hr : cancelTx e userId userSubscriptionId st = .ok r) : GroupInv uid g r.2 := by
  obtain ⟨sub, plan, refund, group, hsub, -, -, -, -, hcancel⟩ := cancelTx_cases hr
  have h' := h.payRefund userId refund.refundQuota
  refine h'.ended (cancelAndDowngrade_ended hg h' ?_ hcancel)
  rw [payRefund_userSubscriptions]
  exact hsub

end Cancelling

/-! ## Expired rows -/

/-- No earlier expired upgrade to another group hides the subscription that expires now. -/
def LastEnds (uid now : Int) (st : Store) : Prop :=
  ∀ sub ∈ st.userSubscriptions, ActiveUpgrade uid sub → sub.isDue now = true →
    ∀ z ∈ st.userSubscriptions, z.userId = uid → z.status = .expired → z.isUpgrade = true → sub.endsBefore z →
      z.upgradeGroup = sub.upgradeGroup

instance (uid now : Int) (st : Store) : Decidable (LastEnds uid now st) :=
  inferInstanceAs (Decidable (∀ sub ∈ _, _ → _ → ∀ z ∈ _, _ → _ → _ → _ → _))

theorem lastEnding_eq_none (h : lastEnding subs = none) : subs = [] := by
  cases subs with
  | nil => rfl
  | cons s subs =>
    unfold lastEnding at h
    split at h
    · cases h
    · split at h <;> cases h

/-- The last row is one of the rows, and the others end before it. -/
theorem lastEnding_spec (h : lastEnding subs = some last) :
    last ∈ subs ∧ ∀ sub ∈ subs, sub.endsBefore last := by
  induction subs generalizing last with
  | nil => cases h
  | cons s subs ih =>
    unfold lastEnding at h
    have hrefl : s.endsBefore s := .inr ⟨rfl, le_rfl⟩
    split at h
    · rename_i hnone
      cases h
      rw [lastEnding_eq_none hnone]
      exact ⟨by simp, by simpa using hrefl⟩
    · rename_i last' hsome
      obtain ⟨hmem, hall⟩ := ih hsome
      split at h <;> rename_i hbefore <;> cases h
      · exact ⟨mem_cons_of_mem _ hmem, forall_mem_cons.2 ⟨hbefore, hall⟩⟩
      · refine ⟨mem_cons_self, forall_mem_cons.2 ⟨hrefl, fun sub hsub => ?_⟩⟩
        have hsub := hall sub hsub
        unfold endsBefore at hbefore hsub ⊢
        omega

section Expiring

variable {uid userId now : Int} {g : String} {sub s : UserSubscription} {st st' : Store} {e : Env}

theorem lastExpiredUpgrade_none (hq : e.fails .findExpiredUpgrade = none) (h : lastExpiredUpgrade e st userId = none)
    (hsub : sub ∈ st.userSubscriptions) : ¬ (sub.userId = userId ∧ sub.status = .expired ∧ sub.isUpgrade) := by
  rw [lastExpiredUpgrade, if_pos hq] at h
  rintro ⟨huid, hexp, hup⟩
  have hnil := filter_eq_nil_iff.1 (lastEnding_eq_none h) sub hsub
  exact hnil (by simp [huid, hexp, hup])

theorem lastExpiredUpgrade_some (h : lastExpiredUpgrade e st userId = some last) :
    (last ∈ st.userSubscriptions ∧ last.userId = userId ∧ last.status = .expired ∧ last.isUpgrade) ∧
      ∀ sub ∈ st.userSubscriptions, sub.userId = userId → sub.status = .expired → sub.isUpgrade →
        sub.endsBefore last := by
  unfold lastExpiredUpgrade at h
  split at h
  · obtain ⟨hmem, hall⟩ := lastEnding_spec h
    refine ⟨by simpa [and_assoc] using hmem, fun sub hsub huid hexp hup => hall sub ?_⟩
    exact mem_filter.2 ⟨hsub, by simp [huid, hexp, hup]⟩
  · cases h

theorem expire_ends (userId now : Int) : Ends (expire userId now) := by
  refine ⟨?_, ?_, ?_, ?_, ?_⟩ <;> intro sub <;> unfold expire <;> split
  all_goals first | rfl | exact .inl rfl | exact .inr (by simp)

theorem expire_ne (h : sub.userId ≠ userId) : sub.expire userId now = sub := by simp [expire, h]

theorem expire_cases (sub : UserSubscription) (userId now : Int) :
    sub.expire userId now = sub ∨
      sub.userId = userId ∧ sub.isDue now ∧ sub.expire userId now = { sub with status := .expired } := by
  unfold expire
  split
  · rename_i h
    simp only [Bool.and_eq_true, decide_eq_true_eq] at h
    exact .inr ⟨h.1, h.2, rfl⟩
  · exact .inl rfl

theorem not_isDue_expire (h : sub.userId = userId) : (sub.expire userId now).isDue now = false := by
  unfold expire
  cases hdue : sub.isDue now with
  | true => simp [h, isDue]
  | false => simpa using hdue

/-- If the last expired row is not in the user's group, no row that keeps the user there has expired. -/
theorem expire_of_last (h : GroupInv uid g st) (hlast : LastEnds uid now st)
    (hmem : last ∈ st.userSubscriptions.map (·.expire uid now)) (hexp : last.status = .expired)
    (hup : last.isUpgrade) (huid : last.userId = uid)
    (hall : ∀ sub ∈ st.userSubscriptions.map (·.expire uid now), sub.userId = uid → sub.status = .expired →
      sub.isUpgrade → sub.endsBefore last)
    (hsub : sub ∈ st.userSubscriptions) (hact : ActiveUpgrade uid sub) (hne : sub.upgradeGroup ≠ last.upgradeGroup) :
    sub.expire uid now = sub := by
  rcases expire_cases sub uid now with hkeep | ⟨-, hdue, hexpire⟩
  · exact hkeep
  exfalso
  have hmem' := mem_map_of_mem (f := (·.expire uid now)) hsub
  have hbefore := hall _ hmem'
  rw [hexpire] at hbefore
  have hbefore := hbefore hact.1 rfl hact.2.2
  obtain ⟨z, hz, hzlast⟩ := mem_map.1 hmem
  rcases expire_cases z uid now with hkeep | ⟨hzuid, hzdue, hzexpire⟩
  · obtain rfl : z = last := hkeep.symm.trans hzlast
    exact hne (hlast sub hsub hact hdue z hz huid hexp hup hbefore).symm
  · -- the last row has expired now too, so it is this one
    obtain rfl : { z with status := .expired } = last := hzexpire.symm.trans hzlast
    simp only [isDue, Bool.and_eq_true, decide_eq_true_eq] at hzdue
    have heq := h.rows.unique sub hsub z hz hact ⟨hzuid, hzdue.1.1, hup⟩
    exact hne (congrArg (·.upgradeGroup) heq)

theorem expireUserTx_ended {r : Int × Store} (hg : Storable g) (h : GroupInv uid g st)
    (hq : e.fails .findExpiredUpgrade = none) (hlast : LastEnds uid now st)
    (hr : expireUserTx e userId now st = .ok r) : Ended uid g (·.expire userId now) st r.2 := by
  have hends := expire_ends userId now
  unfold expireUserTx at hr
  dsimp only at hr
  generalize hmid : ({ st with userSubscriptions := st.userSubscriptions.map (·.expire userId now) } : Store) = mid at hr
  have hmark : Marked uid (·.expire userId now) st mid := by
    rw [← hmid]
    exact ⟨hends, rfl, Iff.rfl, rfl⟩
  split at hr
  · rename_i hfind
    cases hr
    refine hmark.ended fun s hs hact => ?_
    by_cases huid : s.userId = userId
    · obtain ⟨s', hs', hkeeps⟩ := exists_of_findsActiveUpgrade hfind
      have hact' : ActiveUpgrade uid s' := hact.1 ▸ huid ▸ keepsGroup_active hkeeps
      exact hmark.kept h hs' hact' hs hact
    · exact expire_ne huid
  split at hr
  · rename_i hnone
    cases hr
    refine hmark.ended fun s hs hact => ?_
    rcases expire_cases s userId now with hkeep | ⟨huid, -, hexpire⟩
    · exact hkeep
    · have hmem := mem_map_of_mem (f := (·.expire userId now)) hs
      rw [← hmark.rows] at hmem
      refine absurd ?_ (lastExpiredUpgrade_none hq hnone hmem)
      exact ⟨(hends.userId s).trans huid, by rw [hexpire], (hends.isUpgrade s).trans hact.2.2⟩
  · rename_i last hsome
    cases hr
    obtain ⟨⟨hmem, rfl, hlexp, hlup⟩, hall⟩ := lastExpiredUpgrade_some hsome
    rw [hmark.rows] at hmem hall
    have hstored := fun huid =>
      (h.rows.map hends).stored last hmem huid (isUpgradeGroup_of_isUpgrade hlup)
    refine hmark.restored hg h hstored fun s hs hact hne => ?_
    by_cases huid : last.userId = uid
    · rw [huid] at hmem hall ⊢
      exact expire_of_last h hlast hmem hlexp hlup huid hall hs hact (hne huid)
    · exact expire_ne fun heq => huid (heq.symm.trans hact.1)

theorem LastEnds.map (h : LastEnds uid now st)
    (hrows : st'.userSubscriptions = st.userSubscriptions.map (·.expire userId now)) : LastEnds uid now st' := by
  have hends := expire_ends userId now
  intro sub hsub hact hdue z hz huid hexp hup hbefore
  rw [hrows] at hsub hz
  obtain ⟨hsub, hkept⟩ := hends.of_mem_map hsub hact.2.1
  have hne : uid ≠ userId := by
    rintro rfl
    have hnot : (sub.expire uid now).isDue now = false := not_isDue_expire hact.1
    rw [hkept, hdue] at hnot
    cases hnot
  obtain ⟨z', hz', rfl⟩ := mem_map.1 hz
  rw [hends.userId] at huid
  have hzkept : z'.expire userId now = z' := expire_ne (huid ▸ hne)
  rw [hzkept] at hexp hup hbefore ⊢
  exact h sub hsub hact hdue z' hz' huid hexp hup hbefore

/-- **The loop of the sweep keeps the invariant.** -/
theorem GroupInv.expireUsers (hg : Storable g) (hq : e.fails .findExpiredUpgrade = none) (userIds : List Int)
    (expiredCount : Int) (h : GroupInv uid g st) (hlast : LastEnds uid now st) :
    GroupInv uid g (expireUsers e now userIds expiredCount st).2 := by
  induction userIds generalizing expiredCount st with
  | nil => exact h
  | cons userId userIds ih =>
    unfold SynthApi.expireUsers
    obtain ⟨count, st', -, hbody, htx⟩ | ⟨err, htx⟩ :=
      transaction_cases (e.fails (.expireUser userId)) (expireUserTx e userId now) st
    · rw [htx]
      have hend := expireUserTx_ended hg h hq hlast hbody
      exact ih (expiredCount + count) (h.ended hend) (hlast.map hend.rows)
    · rw [htx]
      exact h

end Expiring

/-! ## Purchases -/

section Buying

variable {uid userId : Int} {g : String} {st : Store} {e : Env} {plan : SubscriptionPlan} {source : String}
  {sub : UserSubscription}

theorem RowsInv.append (h : RowsInv uid g subs) (hid : sub.id ∉ subs.map (·.id))
    (hstored : sub.userId = uid → isSubscriptionUserUpgradeGroup sub.upgradeGroup →
      sub.isUpgrade ∧ sub.Remembers g)
    (hunique : ActiveUpgrade uid sub → ∀ s ∈ subs, ¬ ActiveUpgrade uid s) : RowsInv uid g (subs ++ [sub]) := by
  refine ⟨?_, ?_, ?_⟩
  · rw [map_append, map_singleton, ← concat_eq_append]
    exact (nodup_concat _ _).2 ⟨hid, h.ids⟩
  · intro s hs
    rcases mem_append.1 hs with hs | hs
    · exact h.stored s hs
    · obtain rfl := mem_singleton.1 hs
      exact hstored
  · intro s hs s' hs' hact hact'
    rw [mem_append, mem_singleton] at hs hs'
    rcases hs with hs | rfl <;> rcases hs' with hs' | rfl
    · exact h.unique s hs s' hs' hact hact'
    · exact absurd hact (hunique hact' s hs)
    · exact absurd hact' (hunique hact s' hs')
    · rfl

theorem GroupInv.insert {st' : Store} (h : GroupInv uid g st)
    (hrows : st'.userSubscriptions = st.userSubscriptions ++ [sub])
    (hinv : RowsInv uid g (st.userSubscriptions ++ [sub])) (huser : st'.HasUser uid ↔ st.HasUser uid)
    (hgroup : getUserGroupById st' uid = getUserGroupById st uid ∨
      ActiveUpgrade uid sub ∧ getUserGroupById st' uid = sub.upgradeGroup) : GroupInv uid g st' := by
  refine ⟨by rwa [hrows], huser.2 h.user, ?_⟩
  rcases hgroup with hgroup | ⟨hact, hgroup⟩
  · rcases h.group with hg | ⟨s, hs, hact, hg⟩
    · exact .inl (hgroup.trans hg)
    · refine .inr ⟨s, ?_, hact, hgroup.trans hg⟩
      rw [hrows]
      exact mem_append_left _ hs
  · refine .inr ⟨sub, ?_, hact, hgroup⟩
    rw [hrows]
    exact mem_append_right _ (mem_singleton_self sub)

theorem Purchase.row_isUpgrade {p : Purchase} {id : Int} {prevGroup : String}
    (h : isSubscriptionUserUpgradeGroup p.upgradeGroup) : (p.row e id prevGroup).isUpgrade := by
  rw [Purchase.upgradeGroup, isSubscriptionUserUpgradeGroup_trimSpace] at h
  exact decide_eq_true (mem_of_isUpgradeGroup h)

/-- **A purchase keeps the invariant**, if the user has no active upgrade at a purchase of one. -/
theorem GroupInv.create {r : UserSubscription × Store} (h : GroupInv uid g st)
    (hfree : userId = uid → isSubscriptionUserUpgradeGroup plan.upgradeGroup →
      ∀ sub ∈ st.userSubscriptions, ¬ ActiveUpgrade uid sub)
    (hr : createUserSubscriptionFromPlanTx e userId plan source st = .ok r) : GroupInv uid g r.2 := by
  unfold createUserSubscriptionFromPlanTx at hr
  split at hr
  · cases hr
  rename_i p hp
  obtain ⟨hpuser, -, hpplan⟩ := preparePurchase_ok hp
  have hfresh : st.freshSubscriptionId ∉ st.userSubscriptions.map (·.id) := nextId_not_mem _
  rw [← hpplan, ← isSubscriptionUserUpgradeGroup_trimSpace] at hfree
  by_cases hnew : userId = uid ∧ isSubscriptionUserUpgradeGroup p.upgradeGroup
  · obtain ⟨rfl, hup⟩ := hnew
    have hfree := hfree rfl hup
    have hgroup : getUserGroupById st userId = g := by
      rcases h.group with hgroup | ⟨sub, hsub, hact, -⟩
      · exact hgroup
      · exact absurd hact (hfree sub hsub)
    dsimp only at hr
    rw [hgroup] at hr
    split at hr <;> rename_i hupgrades <;> cases hr
    · have hne : g ≠ p.upgradeGroup := by simpa [Purchase.upgrades, hup] using hupgrades
      refine h.insert rfl (h.rows.append hfresh (fun _ _ => ⟨Purchase.row_isUpgrade hup, ?_⟩) fun _ => hfree)
        setGroup_hasUser (.inr ⟨⟨hpuser, rfl, Purchase.row_isUpgrade hup⟩, setGroup_group h.user⟩)
      exact (if_neg hne.symm).symm
    · have heq : g = p.upgradeGroup := by simpa [Purchase.upgrades, hup] using hupgrades
      refine h.insert rfl (h.rows.append hfresh (fun _ _ => ⟨Purchase.row_isUpgrade hup, ?_⟩) fun _ => hfree)
        Iff.rfl (.inl rfl)
      exact (if_pos heq.symm).symm
  · have hrow : ∀ prevGroup, RowsInv uid g (st.userSubscriptions ++ [p.row e st.freshSubscriptionId prevGroup]) := by
      intro prevGroup
      refine h.rows.append hfresh (fun huid hup => absurd ⟨hpuser.symm.trans huid, hup⟩ hnew) fun hact => ?_
      have hup := isUpgradeGroup_of_isUpgrade hact.2.2
      exact absurd ⟨hpuser.symm.trans hact.1, hup⟩ hnew
    dsimp only at hr
    split at hr <;> rename_i hupgrades <;> cases hr
    · simp only [Purchase.upgrades, Bool.and_eq_true] at hupgrades
      have hne : userId ≠ uid := fun heq => hnew ⟨heq, hupgrades.1⟩
      have hstay : getUserGroupById (st.setGroup userId p.upgradeGroup) uid = getUserGroupById st uid :=
        setGroup_group_ne hne
      exact h.insert rfl (hrow _) setGroup_hasUser (.inl hstay)
    · exact h.insert rfl (hrow _) Iff.rfl (.inl rfl)

end Buying

/-! ## Histories -/

def Orderly (uid : Int) (st : Store) : GroupOp → Prop
  | .purchase _ userId plan _ => userId = uid → isSubscriptionUserUpgradeGroup plan.upgradeGroup = true →
      ∀ sub ∈ st.userSubscriptions, ¬ ActiveUpgrade uid sub
  | .expire e _ _ => e.fails .findExpiredUpgrade = none ∧ LastEnds uid e.dbNow st
  | .invalidate _ _ => True
  | .cancel _ _ _ => True

instance (uid : Int) (st : Store) : (op : GroupOp) → Decidable (Orderly uid st op)
  | .purchase _ _ _ _ => inferInstanceAs (Decidable (_ → _ → ∀ sub ∈ _, ¬ _))
  | .expire _ _ _ => inferInstanceAs (Decidable (_ ∧ _))
  | .invalidate _ _ => isTrue trivial
  | .cancel _ _ _ => isTrue trivial

/-- Without an active upgrade the user is in the original group, and no ended one keeps the user in another. -/
def Restored (uid : Int) (g : String) (st : Store) : Prop :=
  ((∀ sub ∈ st.userSubscriptions, ¬ ActiveUpgrade uid sub) → getUserGroupById st uid = g) ∧
    (getUserGroupById st uid ≠ g →
      ∃ sub ∈ st.userSubscriptions, ActiveUpgrade uid sub ∧ getUserGroupById st uid = sub.upgradeGroup)

section Histories

variable {uid : Int} {g : String} {st : Store}

theorem GroupInv.restored (h : GroupInv uid g st) : Restored uid g st := by
  rcases h.group with hg | ⟨sub, hsub, hact, hg⟩
  · exact ⟨fun _ => hg, fun hne => absurd hg hne⟩
  · exact ⟨fun hnone => absurd hact (hnone sub hsub), fun _ => ⟨sub, hsub, hact, hg⟩⟩

/-- **One operation keeps the invariant.** -/
theorem groupStep_inv {op : GroupOp} (hg : Storable g) (hop : Orderly uid st op) (h : GroupInv uid g st) :
    GroupInv uid g (groupStep st op) := by
  cases op with
  | purchase e userId plan source =>
    refine transaction_inv (fun sub st' hbody => ?_) h
    split at hbody
    · cases hbody
    · rename_i r hr
      cases hbody
      exact h.create hop hr
  | invalidate e userSubscriptionId =>
    rw [groupStep, adminInvalidateUserSubscription]
    split
    · exact h
    · have htx : GroupInv uid g (transaction (e.fails .invalidateUserSubscription)
          (invalidateTx e userSubscriptionId) st).2 := transaction_inv (fun _ _ hbody => h.invalidateTx hg hbody) h
      split <;> rename_i heq <;> rw [heq] at htx <;> exact htx
  | cancel e userId userSubscriptionId =>
    rw [groupStep, cancelUserSubscriptionWithRefund]
    split
    · exact h
    · exact transaction_inv (fun _ _ hbody => h.cancelTx hg hbody) h
  | expire e limit order =>
    rw [groupStep, expireDueSubscriptions]
    split
    · exact h
    · exact h.expireUsers hg hop.1 _ _ hop.2

/-- **The user's group is restored**: in every state of a history whose upgrades do not overlap. -/
theorem group_restored {ops : List GroupOp} (hg : Storable g) (huser : st.HasUser uid)
    (hgroup : getUserGroupById st uid = g) (hids : (st.userSubscriptions.map (·.id)).Nodup)
    (hnone : ∀ sub ∈ st.userSubscriptions, sub.userId = uid →
      isSubscriptionUserUpgradeGroup sub.upgradeGroup = false)
    (hops : Along groupStep (Orderly uid) st ops) : Always groupStep (Restored uid g) st ops := by
  refine always_of_inv (fun st op hop h => groupStep_inv hg hop h) (fun st h => h.restored) hops ⟨?_, huser, .inl hgroup⟩
  refine ⟨hids, fun sub hsub huid hup => ?_, fun sub hsub sub' _ hact _ => ?_⟩
  · rw [hnone sub hsub huid] at hup
    cases hup
  · have hup := isUpgradeGroup_of_isUpgrade hact.2.2
    rw [hnone sub hsub hact.1] at hup
    cases hup

end Histories

namespace Sample

/-- A plan for 1000 seconds in an upgrade group. -/
def upgradePlan (id : Int) (group : String) : SubscriptionPlan :=
  { plan with id := id, customSeconds := 1000, upgradeGroup := group }

def buys (now id : Int) (group : String) : GroupOp := .purchase (env now) 1 (upgradePlan id group) "order"

def sweep (now : Int) : GroupOp := .expire (env now) 200 [1]

/-- Two upgrades after each other: the first expires, the second is invalidated. -/
def upgrades : List GroupOp :=
  [buys 1000 2 "unlimited_day", sweep 2500, buys 3000 3 "unlimited_month", .invalidate (env 3500) 3]

end Sample

open Sample

theorem group_restored_sample :
    getUserGroupById (run groupStep store (upgrades.take 3)) 1 = "unlimited_month" ∧
      Always groupStep (Restored 1 "default") store upgrades :=
  ⟨by decide +kernel, group_restored ⟨by decide, by decide⟩ rfl rfl (by decide) (by decide) (by decide +kernel)⟩

/-- After a renewal, and after an upgrade on top of another, the user stays in an upgrade group when both have ended. -/
theorem upgrade_outlives_subscriptions :
    getUserGroupById store 1 = "default" ∧
      (∀ second ∈ [buys 1500 2 "unlimited_day", buys 1500 3 "unlimited_month"],
        let ended := run groupStep store [buys 1000 2 "unlimited_day", second, sweep 3000]
        (∀ sub ∈ ended.userSubscriptions, ¬ ActiveUpgrade 1 sub) ∧ getUserGroupById ended 1 = "unlimited_day") := by
  decide +kernel

end SynthApi
