import SynthApi.Lib.Go

/-!
# Channels

A channel with the columns that its cache, the selection of channels and the changes of its status use
(`model/channel.go`).
-/

namespace SynthApi

open Lib Lib.Go

def channelStatusEnabled : Int := 1

def channelStatusAutoDisabled : Int := 3

inductive MultiKeyMode where
  | random
  | polling
  deriving DecidableEq, Repr

/-- `ChannelInfo`; its maps are by the position of a key. -/
structure ChannelInfo where
  isMultiKey : Bool
  multiKeyStatusList : Nat → Option Int
  multiKeyDisabledReason : Nat → Option String
  multiKeyDisabledTime : Nat → Option Int
  multiKeyPollingIndex : Int
  multiKeyMode : MultiKeyMode

structure Channel where
  id : Int
  status : Int
  group : String
  models : String
  priority : Option Int
  weight : Option Nat
  responseTime : Int
  /-- `MaxConcurrency` of the channel's settings. -/
  maxConcurrency : Int
  /-- The keys that `GetKeys` reads from the column `key`. -/
  keys : List String
  channelInfo : ChannelInfo
  /-- `status_reason` and `status_time` in the column `other_info`. -/
  statusReason : Option (String × Int)

namespace Channel

def getPriority (c : Channel) : Int := c.priority.getD 0

/-- `int` of a `uint` -/
def getWeight (c : Channel) : Int := wrap64 (c.weight.getD 0)

def effectiveMaxConcurrency (c : Channel) (defaultLimit : Int) : Int :=
  if c.maxConcurrency > 0 then c.maxConcurrency else defaultLimit

def names (column : String) : List String := ((split column ',').map trimSpace).filter (· ≠ "")

def listing (c : Channel) : List String × List String := (names c.group, names c.models)

end Channel

end SynthApi
