import SynthApi.Lib.GoTime
import SynthApi.Lib.Table

/-!
# The rows behind billing

The tables that billing reads and writes (`model/user.go`, `model/token.go`, `model/subscription.go`), with the columns
that its functions use, and the two batch-update maps of `model/utils.go` that hold quota changes not yet written.

`Env` is what a call gets from outside the store: which statements fail and with which text, what Redis answers, the
clocks, the plans that a lookup finds (they come from a cache in front of the table), and the deployment's settings.
A call gets its own `Env`, so a theorem about every `Env` covers every pattern of failures and every stale cache.
-/

namespace SynthApi

open Lib Lib.Go

structure User where
  id : Int
  quota : Int
  group : String
  deriving DecidableEq, Repr

structure Token where
  id : Int
  key : String
  remainQuota : Int
  usedQuota : Int
  unlimitedQuota : Bool
  deriving DecidableEq, Repr

inductive SubscriptionStatus where
  | active
  | expired
  | cancelled
  deriving DecidableEq, Repr

structure UserSubscription where
  id : Int
  userId : Int
  planId : Int
  amountTotal : Int
  amountUsed : Int
  billingDiscount : ℚ
  billingDiscountGroup : String
  startTime : Int
  endTime : Int
  status : SubscriptionStatus
  source : String
  lastResetTime : Int
  nextResetTime : Int
  upgradeGroup : String
  prevUserGroup : String
  deriving DecidableEq, Repr

inductive RecordStatus where
  | consumed
  | refunded
  deriving DecidableEq, Repr

structure SubscriptionPreConsumeRecord where
  requestId : String
  userId : Int
  userSubscriptionId : Int
  preConsumed : Int
  status : RecordStatus
  deriving DecidableEq, Repr

structure SubscriptionPlan where
  id : Int
  title : String
  priceAmount : ℚ
  billingDiscount : ℚ
  billingDiscountGroup : String
  durationUnit : String
  durationValue : Int
  customSeconds : Int
  maxPurchasePerUser : Int
  upgradeGroup : String
  totalAmount : Int
  quotaResetPeriod : String
  quotaResetCustomSeconds : Int
  deriving DecidableEq, Repr

/-- The database and the batch-update maps of the process. A map is total: an absent key holds 0. -/
structure Store where
  users : List User
  tokens : List Token
  userSubscriptions : List UserSubscription
  preConsumeRecords : List SubscriptionPreConsumeRecord
  batchUpdateEnabled : Bool
  /-- `batchUpdateStores[BatchUpdateTypeUserQuota]` -/
  userQuotaStore : Int → Int
  /-- `batchUpdateStores[BatchUpdateTypeTokenQuota]` -/
  tokenQuotaStore : Int → Int

/-- The statements and transactions of the billing code that may fail, at most one of each in a call. The refund of a
subscription is tried several times, so its attempts are numbered. -/
inductive Stmt where
  | getUserQuota
  | getTokenByKey
  | increaseUserQuota
  | decreaseUserQuota
  | increaseTokenQuota
  | decreaseTokenQuota
  | hasActiveUserSubscription
  | preConsumeUserSubscription
  | postConsumeUserSubscriptionDelta
  | refundSubscriptionPreConsume (attempt : Nat)
  | resetDueSubscriptions
  | createUserSubscription
  | invalidateUserSubscription
  | cancelUserSubscription
  | findDueSubscriptions
  | expireUser (userId : Int)
  /-- The query for another active subscription with an upgrade group. -/
  | findActiveUpgrade
  /-- The query for the last expired subscription with an upgrade group. -/
  | findExpiredUpgrade
  deriving DecidableEq, Repr

def Stmt.isRead : Stmt → Bool
  | .getUserQuota | .getTokenByKey | .hasActiveUserSubscription | .findDueSubscriptions | .findActiveUpgrade
  | .findExpiredUpgrade => true
  | _ => false

/-- What one call gets from outside the store. -/
structure Env where
  /-- The error of a statement that fails. -/
  fails : Stmt → Option String
  /-- `Quota` of the user's Redis copy; `none` without Redis or without the copy. -/
  cachedUserQuota : Option Int
  /-- The token's Redis copy. -/
  cachedToken : Option Token
  formatQuota : Int → String
  /-- `common.GetTimestamp` -/
  now : Int
  /-- `GetDBTimestamp` -/
  dbNow : Int
  /-- The plan that `getSubscriptionPlanByIdTx` finds. -/
  plans : Int → Option SubscriptionPlan
  plans_id : ∀ {id plan}, plans id = some plan → plan.id = id
  topupGroupRatio : String → ℚ
  displayAmountToQuota : ℚ → Int
  /-- `time.Local` -/
  location : Location
  /-- The step bound of the reset catch-up loop. -/
  fuel : Nat

def Env.WritesSucceed (e : Env) : Prop := ∀ s : Stmt, s.isRead = false → e.fails s = none

/-- A call at time `now` without failures and without Redis, in a deployment whose plans are `plans`. -/
def Env.quiet (plans : List SubscriptionPlan) (now : Int) : Env where
  fails _ := none
  cachedUserQuota := none
  cachedToken := none
  formatQuota := toString
  now := now
  dbNow := now
  plans id := Table.lookup SubscriptionPlan.id id plans
  plans_id := Table.key_of_lookup
  topupGroupRatio _ := 1
  displayAmountToQuota amount := ⌊amount⌋
  location := .utc
  fuel := 10

theorem Env.quiet_writesSucceed (plans : List SubscriptionPlan) (now : Int) : (Env.quiet plans now).WritesSucceed :=
  fun _ _ => rfl

end SynthApi
