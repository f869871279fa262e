import SynthApi.Service.TaskPolling

/-!
# What a statement of a visit can do

`TaskTrans a db place place' db'` lists the transitions of a visit: from `place` with the input `a` and the database
`db` to `place'` and `db'`. The relation keeps of the answers of the upstream what the properties of the runs depend on:
which copy is written over which stored status, when quota moves, and which columns of a copy never change
(`Task.Updates`). The step function takes only these transitions (`taskStep_trans`).
-/

namespace SynthApi

open Lib

/-! ## Copies of a task -/

/-- `t'` is the copy `t` after answers of the upstream: what identifies and charges the task stays. Only the items of
Suno overwrite the time of submission. -/
structure Task.Updates (t t' : Task) : Prop where
  id : t'.id = t.id
  userId : t'.userId = t.userId
  platform : t'.platform = t.platform
  quota : t'.quota = t.quota
  billingSource : t'.privateData.billingSource = t.privateData.billingSource
  subscriptionId : t'.privateData.subscriptionId = t.privateData.subscriptionId
  submitTime : t.platform ≠ .suno → t'.submitTime = t.submitTime

namespace Task.Updates

variable {t t' t'' : Task}

@[refl] theorem refl (t : Task) : t.Updates t := ⟨rfl, rfl, rfl, rfl, rfl, rfl, fun _ => rfl⟩

theorem trans (h : t.Updates t') (h' : t'.Updates t'') : t.Updates t'' := by
  refine ⟨h'.id.trans h.id, h'.userId.trans h.userId, h'.platform.trans h.platform, h'.quota.trans h.quota,
    h'.billingSource.trans h.billingSource, h'.subscriptionId.trans h.subscriptionId, fun hp => ?_⟩
  have hp' : t'.platform ≠ .suno := by rw [h.platform]; exact hp
  exact (h'.submitTime hp').trans (h.submitTime hp)

theorem isSubscription (h : t.Updates t') : taskIsSubscription t' = taskIsSubscription t := by
  simp [taskIsSubscription, h.billingSource, h.subscriptionId]

theorem isLegacy (h : t.Updates t') (hp : t.platform ≠ .suno) : isLegacyTask t' = isLegacyTask t := by
  simp [isLegacyTask, h.submitTime hp]

theorem suno (hs : t.platform = .suno) (item : SunoDataResponse) : t.Updates (applySunoItem t item) :=
  ⟨rfl, rfl, rfl, rfl, rfl, rfl, fun h => absurd hs h⟩

theorem video {site : TaskSite} {now : Int} {data : String} {info : TaskInfo}
    (h : applyVideoResult site now { t with data := data } info = some t') : t.Updates t' := by
  unfold applyVideoResult at h
  dsimp only at h
  split at h <;> cases h <;> exact ⟨rfl, rfl, rfl, rfl, rfl, rfl, fun _ => rfl⟩

end Task.Updates

/-! ## The transitions -/

/-- The billing that follows a stored answer about a video. -/
inductive VideoBilling (t : Task) : TaskPlace → Prop
  | none (h : t.status = .failure → t.quota = 0) : VideoBilling t (.polled t)
  | refund (h : t.status = .failure) (hq : t.quota ≠ 0) : VideoBilling t (.refund t (.polled t))
  | settle (h : t.status = .success) (actualQuota : Int) : VideoBilling t (.recalculate t actualQuota)

/-- A visit that has no statement of its own to execute. -/
def TaskPlace.waiting : TaskPlace → Bool
  | .idle | .polled _ | .fetched _ => true
  | _ => false

/-- **The transitions of a visit.** -/
inductive TaskTrans (a : TaskInput) (db : TaskDb) : TaskPlace → TaskPlace → TaskDb → Prop
  | waits {place : TaskPlace} (h : place.waiting = true) : TaskTrans a db place place db
  | losesSweep (t : Task) (minutes now : Int) : TaskTrans a db (.timedOut t minutes now) .idle db
  | endsRound (t : Task) : TaskTrans a db (.polled t) .idle db
  | endsFetch (t : Task) : TaskTrans a db (.fetched t) .idle db
  | readsTimedOut {row : Task} (minutes now : Int) {id : Int} (hid : a.act = .sweep id minutes now)
      (hrow : db.tasks id = some row) (hu : row.unfinished = true) :
      TaskTrans a db .idle (.timedOut row minutes now) db
  | readsUnfinished {row : Task} {id : Int} (hid : a.act = .poll id) (hrow : db.tasks id = some row)
      (hu : row.unfinished = true) : TaskTrans a db .idle (.polled row) db
  | readsForUser {row : Task} {id userId : Int} {taskId : String} (hid : a.act = .fetch id userId taskId)
      (hrow : db.tasks id = some row) : TaskTrans a db .idle (.fetched row) db
  | sweeps {t : Task} {minutes now : Int} (hst : db.status t.id = some t.status) :
      TaskTrans a db (.timedOut t minutes now) (sweptPlace t minutes now) (db.save (timeOutTask t minutes now))
  /-- The copy changes, the row does not. -/
  | edits {t t' : Task} {reply : VideoReply} (hact : a.act = .video reply) (h : t.Updates t') :
      TaskTrans a db (.polled t) (.polled t') db
  /-- The row changes from the status of the copy. -/
  | moves {t t' : Task} {place : TaskPlace} {reply : VideoReply} (hact : a.act = .video reply) (h : t.Updates t')
      (hst : db.status t.id = some t.status) (hbill : VideoBilling t' place) :
      TaskTrans a db (.polled t) place (db.save t')
  /-- A copy that is final already is billed without a write. -/
  | billsAgain {t t' : Task} {place : TaskPlace} {reply : VideoReply} (hact : a.act = .video reply) (h : t.Updates t')
      (hfinal : t.status.isFinal = true) (hsame : t'.status = t.status) (hbill : VideoBilling t' place) :
      TaskTrans a db (.polled t) place db
  | sunoFailure {t t' : Task} {item : SunoDataResponse} (hact : a.act = .suno item) (h : t.Updates t')
      (hs : t.platform = .suno) (hf : sunoFails t item = true) (hp : t'.progress = "100%") :
      TaskTrans a db (.polled t) (.refund t' (.sunoSave t')) db
  | sunoUpdate {t t' : Task} (h : t.Updates t') (hs : t.platform = .suno) (hf : t'.status ≠ .failure)
      (hp : t.progress = "100%" → t'.progress = "100%") : TaskTrans a db (.polled t) (.sunoSave t') db
  | bulkFails {t : Task} {place : TaskPlace} (reason : Option String) (hact : a.act = .nullTaskId ∨ a.act = .noChannel)
      (hplace : place = .idle ∨ place = .polled t) :
      TaskTrans a db (.polled t) place (db.taskBulkUpdateByID [t.id] reason)
  | refunds {t : Task} {next : AfterBilling} {st : Store} (hq : t.quota ≠ 0)
      (hok : taskAdjustFunding a.env t (-t.quota) db.store = (.ok (), st))
      (hmoved : FundingMoved a.env t (-t.quota) db.store st) :
      TaskTrans a db (.refund t next) (.tokenKey t (-t.quota) next) { db with store := st }
  | skipsRefund {t : Task} {next : AfterBilling}
      (h : t.quota = 0 ∨ ∃ err, taskAdjustFunding a.env t (-t.quota) db.store = (.error err, db.store)) :
      TaskTrans a db (.refund t next) next.place db
  | settles {t : Task} {actualQuota : Int} {st : Store} (hd : actualQuota - t.quota ≠ 0)
      (hmoved : FundingMoved a.env t (actualQuota - t.quota) db.store st) :
      TaskTrans a db (.recalculate t actualQuota)
        (.tokenKey t (actualQuota - t.quota) (.save { t with quota := actualQuota })) { db with store := st }
  | skipsSettlement {t : Task} {actualQuota : Int} : TaskTrans a db (.recalculate t actualQuota) (.polled t) db
  | skipsToken {t : Task} {delta : Int} {next : AfterBilling} : TaskTrans a db (.tokenKey t delta next) next.place db
  | readsToken {t : Task} {delta : Int} {next : AfterBilling} :
      TaskTrans a db (.tokenKey t delta next) (.tokenQuota t delta next) db
  | adjustsToken {t : Task} {delta : Int} {next : AfterBilling} :
      TaskTrans a db (.tokenQuota t delta next) next.place
        { db with store := taskAdjustTokenQuota a.env t delta db.store }
  | saves {t : Task} : TaskTrans a db (.save t) (.polled t) (db.save t)
  | losesSave {t : Task} (h : a.fault ≠ none) : TaskTrans a db (.save t) (.polled t) db
  | savesSuno {t : Task} : TaskTrans a db (.sunoSave t) (.polled t) (db.save t)
  | losesSunoSave {t : Task} (h : a.fault ≠ none) : TaskTrans a db (.sunoSave t) (.polled t) db
  | storesFetch {t t' : Task} {info : Option TaskInfo} (hact : a.act = .realtime info) (h : t.Updates t')
      (hst : db.status t.id = some t.status) : TaskTrans a db (.fetched t) .idle (db.save t')

section Steps

variable {site : TaskSite} {a : TaskInput} {db : TaskDb} {t : Task} {reply : VideoReply}

theorem readTask_trans : TaskTrans a db .idle (readTask a.act db) db := by
  unfold readTask
  split
  · rename_i id minutes now hact
    split
    · exact .waits rfl
    · split
      · rename_i t ht
        obtain ⟨hrow, hu⟩ := Option.filter_eq_some_iff.1 ht
        exact .readsTimedOut minutes now hact hrow (Task.unfinished_of_timedOut hu)
      · exact .waits rfl
  · rename_i id hact
    split
    · rename_i t ht
      obtain ⟨hrow, hu⟩ := Option.filter_eq_some_iff.1 ht
      exact .readsUnfinished hact hrow hu
    · exact .waits rfl
  · rename_i id userId taskId hact
    split
    · rename_i t ht
      exact .readsForUser hact (Option.filter_eq_some_iff.1 ht).1
    · exact .waits rfl
  · exact .waits rfl

theorem sweep_trans {minutes now : Int} :
    TaskTrans a db (.timedOut t minutes now) (sweepTimedOutTask a.fault t minutes now db).1
      (sweepTimedOutTask a.fault t minutes now db).2 := by
  unfold sweepTimedOutTask
  split
  · exact .losesSweep t minutes now
  · obtain ⟨hst, h⟩ | h := db.updateWithStatus_cases (timeOutTask t minutes now) t.status
    · rw [h]; exact .sweeps hst
    · rw [h]; exact .losesSweep t minutes now

theorem videoBilling_billing {info : TaskInfo} :
    VideoBilling t (videoBilling site reply t info) := by
  unfold videoBilling
  split
  · rename_i hst
    split
    · exact .settle hst _
    · exact .none fun h => by rw [hst] at h; cases h
  · rename_i hst
    split
    · rename_i hq; exact .refund hst hq
    · rename_i hq; exact .none fun _ => not_not.1 hq
  · rename_i hst; exact .none fun h => absurd h hst

/-- A billing without a guard that has a write to follow is about a copy that is final already. -/
theorem unguarded_trans {t' : Task} {place : TaskPlace} (hact : a.act = .video reply)
    (h : t.Updates t') (hbill : VideoBilling t' place)
    (hguard : ¬ (t'.status.isFinal && decide (t.status ≠ t'.status))) : TaskTrans a db (.polled t) place db := by
  simp only [Bool.and_eq_true, decide_eq_true_eq, not_and, not_not] at hguard
  cases hbill with
  | none => exact .edits hact h
  | refund hf hq =>
    have hsame := hguard (by rw [hf]; rfl)
    exact .billsAgain hact h (by rw [hsame, hf]; rfl) hsame.symm (.refund hf hq)
  | settle hf actual =>
    have hsame := hguard (by rw [hf]; rfl)
    exact .billsAgain hact h (by rw [hsame, hf]; rfl) hsame.symm (.settle hf actual)

theorem video_trans (hact : a.act = .video reply) :
    TaskTrans a db (.polled t) (updateVideoSingleTask site reply a.fault t db).1
      (updateVideoSingleTask site reply a.fault t db).2 := by
  unfold updateVideoSingleTask
  split
  · exact .waits rfl
  · dsimp only
    split
    · exact .edits hact ⟨rfl, rfl, rfl, rfl, rfl, rfl, fun _ => rfl⟩
    · rename_i info _
      split
      · exact .edits hact ⟨rfl, rfl, rfl, rfl, rfl, rfl, fun _ => rfl⟩
      · rename_i new hnew
        have hup : t.Updates new := .video hnew
        have hbill : VideoBilling new (videoBilling site reply new info) := videoBilling_billing
        have hcas := db.updateWithStatus_cases new t.status
        rw [hup.id] at hcas
        split
        · split
          · exact .edits hact hup
          · obtain ⟨hst, h⟩ | h := hcas
            · rw [h]; exact .moves hact hup hst hbill
            · rw [h]; exact .edits hact hup
        · rename_i hguard
          split
          · split
            · exact unguarded_trans hact hup hbill hguard
            · obtain ⟨hst, h⟩ | h := hcas
              · rw [h]; exact .moves hact hup hst hbill
              · rw [h]; exact unguarded_trans hact hup hbill hguard
          · exact unguarded_trans hact hup hbill hguard

theorem suno_trans {item : SunoDataResponse} (hact : a.act = .suno item)
    (hs : t.platform = .suno) : TaskTrans a db (.polled t) (updateSunoTask site item t) db := by
  unfold updateSunoTask
  split
  · split
    · rename_i hfails
      exact .sunoFailure hact (.suno hs item) hs hfails (by simp [applySunoItem, hfails])
    · rename_i hfails
      refine .sunoUpdate (.suno hs item) hs (fun hst => hfails ?_) fun hp => by simp [applySunoItem, hp]
      have hst' : (readSunoItem t item).status = .failure := hst
      simp [sunoFails, hst']
  · exact .waits rfl

theorem polled_trans :
    TaskTrans a db (.polled t) (polledStep site t a db).1 (polledStep site t a db).2 := by
  unfold polledStep bulkFail
  split
  · rename_i hact
    split
    · exact video_trans hact
    · exact .waits rfl
  · rename_i hact
    split
    · rename_i h; exact suno_trans hact h.1
    · exact .waits rfl
  · rename_i hact
    split
    · split
      · exact .endsRound t
      · exact .bulkFails none (.inl hact) (.inl rfl)
    · exact .waits rfl
  · rename_i hact
    split
    · split
      · exact .waits rfl
      · exact .bulkFails _ (.inr hact) (.inr rfl)
    · exact .waits rfl
  · exact .endsRound t
  · exact .waits rfl

theorem fetch_trans {info : Option TaskInfo} (hact : a.act = .realtime info) :
    TaskTrans a db (.fetched t) .idle (tryRealtimeFetch site info a.fault t db) := by
  unfold tryRealtimeFetch
  split
  · exact .endsFetch t
  · rename_i answer
    dsimp only
    split
    · split
      · exact .endsFetch t
      · obtain ⟨hst, h⟩ | h := db.updateWithStatus_cases (applyRealtimeResult site t answer) t.status
        · rw [h]; exact .storesFetch hact ⟨rfl, rfl, rfl, rfl, rfl, rfl, fun _ => rfl⟩ hst
        · rw [h]; exact .endsFetch t
    · exact .endsFetch t

theorem refund_trans {next : AfterBilling} :
    TaskTrans a db (.refund t next) (refundTaskQuota a.env t next db).1 (refundTaskQuota a.env t next db).2 := by
  unfold refundTaskQuota
  split
  · rename_i hq; exact .skipsRefund (.inl hq)
  · rename_i hq
    obtain ⟨st, hok, hmoved⟩ | ⟨err, herr⟩ := taskAdjustFunding_cases a.env t db.store (neg_ne_zero.2 hq)
    · rw [hok]; exact .refunds hq hok hmoved
    · rw [herr]; exact .skipsRefund (.inr ⟨err, herr⟩)

theorem recalculate_trans {actualQuota : Int} :
    TaskTrans a db (.recalculate t actualQuota) (recalculateTaskQuota a.env t actualQuota db).1
      (recalculateTaskQuota a.env t actualQuota db).2 := by
  unfold recalculateTaskQuota
  split
  · exact .skipsSettlement
  · rename_i h
    have hd : actualQuota - t.quota ≠ 0 := fun h' => h (.inr h')
    obtain ⟨st, hok, hmoved⟩ | ⟨err, herr⟩ := taskAdjustFunding_cases a.env t db.store hd
    · rw [hok]; exact .settles hd hmoved
    · rw [herr]; exact .skipsSettlement

/-- **A visit takes only the listed transitions.** -/
theorem taskStep_trans (site : TaskSite) (place : TaskPlace) (a : TaskInput) (db : TaskDb) :
    TaskTrans a db place (taskStep site place a db).1 (taskStep site place a db).2 := by
  cases place with
  | idle =>
    simp only [taskStep]
    split
    · exact .waits rfl
    · exact readTask_trans
  | timedOut t minutes now => exact sweep_trans
  | polled t => exact polled_trans
  | fetched t =>
    simp only [taskStep]
    split
    · rename_i hact; exact fetch_trans hact
    · exact .waits rfl
  | refund t next => exact refund_trans
  | recalculate t actualQuota => exact recalculate_trans
  | tokenKey t delta next =>
    simp only [taskStep, tokenKeyStep]
    split
    · exact .skipsToken
    · split
      · exact .skipsToken
      · exact .readsToken
  | tokenQuota t delta next => exact .adjustsToken
  | save t =>
    simp only [taskStep, TaskDb.tryUpdate]
    split
    · rename_i h; exact .losesSave (by simp [h])
    · exact .saves
  | sunoSave t =>
    simp only [taskStep, TaskDb.tryUpdate]
    split
    · rename_i h; exact .losesSunoSave (by simp [h])
    · exact .savesSuno

end Steps

end SynthApi
