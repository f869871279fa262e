import Mathlib.Data.List.Basic

/-!
# Lists of a key-value store with expiry

A key holds a list, newest value first, and may expire: from then on it is as if it had never been written. The commands
are those of redis, each executed at a time.
-/

namespace Lib

/-- A list under a key; no values mean no key. -/
structure RedisList (α : Type*) where
  values : List α
  expireAt : Option Nat
  deriving DecidableEq, Repr

namespace RedisList

variable {α : Type*} (l : RedisList α) (now : Nat)

def none : RedisList α := ⟨[], Option.none⟩

/-- What is left of the list at a time. -/
def live : RedisList α := if l.expireAt.any (· ≤ now) then none else l

def llen : Nat := (l.live now).values.length

/-- `LINDEX -1`, the value at the end. -/
def lindexLast : Option α := (l.live now).values.getLast?

/-- `LPUSH`. A new key does not expire. -/
def lpush (v : α) : RedisList α := { l.live now with values := v :: (l.live now).values }

/-- `LTRIM 0 (n - 1)` for a positive `n`. -/
def ltrim (n : Nat) : RedisList α := { l.live now with values := (l.live now).values.take n }

/-- `EXPIRE`, in ticks. It has no effect without a key, and removes the key if no time is left. -/
def expire (ttl : Int) : RedisList α :=
  if (l.live now).values = [] ∨ ttl ≤ 0 then none else { l.live now with expireAt := some (now + ttl.toNat) }

@[simp] theorem llen_none : (none : RedisList α).llen now = 0 := rfl

variable {l now} {v : α} {ttl : Int} {n : Nat}

theorem live_expireAt : (l.live now).expireAt.any (· ≤ now) = false := by
  unfold live
  split
  · rfl
  · next h => simpa using h

/-- What was written at a time is there at that time. -/
theorem live_lpush : (l.lpush now v).live now = l.lpush now v := by
  have h : (l.lpush now v).expireAt.any (· ≤ now) = false := live_expireAt
  rw [live, h]
  rfl

theorem live_ltrim : (l.ltrim now n).live now = l.ltrim now n := by
  have h : (l.ltrim now n).expireAt.any (· ≤ now) = false := live_expireAt
  rw [live, h]
  rfl

theorem expire_of_ne_nil (h : 0 < ttl) (hne : (l.live now).values ≠ []) :
    l.expire now ttl = ⟨(l.live now).values, some (now + ttl.toNat)⟩ := by
  rw [expire, if_neg]
  rintro (hnil | hle)
  · exact hne hnil
  · omega

theorem expire_lpush (h : 0 < ttl) :
    (l.lpush now v).expire now ttl = ⟨v :: (l.live now).values, some (now + ttl.toNat)⟩ := by
  have hvalues : ((l.lpush now v).live now).values = v :: (l.live now).values := by rw [live_lpush]; rfl
  rw [expire_of_ne_nil h (by simp [hvalues]), hvalues]

theorem expire_ltrim (h : 0 < ttl) (hn : 0 < n) :
    ((l.lpush now v).ltrim now n).expire now ttl = ⟨(v :: (l.live now).values).take n, some (now + ttl.toNat)⟩ := by
  have hvalues : (((l.lpush now v).ltrim now n).live now).values = (v :: (l.live now).values).take n := by
    rw [live_ltrim, ltrim, live_lpush]
    rfl
  rw [expire_of_ne_nil h (by simp [hvalues]; omega), hvalues]

end RedisList

end Lib
