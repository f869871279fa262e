import SynthApi.Lib.Interleave
import SynthApi.Lib.RedisList
import SynthApi.Lib.Window
import Mathlib.Data.Int.Order.Lemmas
import Mathlib.Tactic.Linarith

/-!
# The rate limit of clients and users in redis

`redisRateLimiter` and `userRedisRateLimiter` (`middleware/rate-limit.go`) limit the requests with one key. They differ in
the key only: the times of the requests are a list in redis, which is read and written by separate commands. A request is a
process that executes one command after the other (`ClientRateLimit.prog`), and the requests with one key run
concurrently. `ClientRateLimit.serve` is what a request does when nobody comes between its commands (`run_alone`).

Time is counted in ticks, `perSecond` of them in a second; the times in the list are in milliseconds.
-/

namespace SynthApi

open Lib List Nat

structure ClientRateLimit where
  maxRequestNum : Nat
  /-- In seconds. -/
  duration : Int
  /-- `common.RateLimitKeyExpirationDuration`, in seconds. -/
  expiration : Int
  /-- Clock ticks in a second. -/
  perSecond : Nat
  perSecond_pos : 0 < perSecond

/-- Which command a request executes next. -/
inductive LimiterPlace where
  | llen
  | lindex
  /-- `full` if the list has to be trimmed afterwards. -/
  | lpush (full : Bool)
  | ltrim
  | expire (accept : Bool)
  | accepted
  | rejected
  /-- The stored time cannot be parsed. -/
  | failed
  deriving DecidableEq, Repr

/-- The list under the key, and when requests were accepted, newest first. -/
structure LimiterShared where
  list : RedisList Nat
  accepted : List Nat
  clock : Nat

namespace ClientRateLimit

variable (r : ClientRateLimit)

/-- What `timeFormat` keeps of a time. -/
def millis (tick : Nat) : Nat := tick * 1000 / r.perSecond

def expiry : Int := r.expiration * r.perSecond

def window : Nat := r.duration.toNat * r.perSecond

/-- The stored time is less than the duration ago. -/
def inDuration (tick oldTime : Nat) : Prop := ((r.millis tick : Int) - oldTime).tdiv 1000 < r.duration

instance (tick oldTime : Nat) : Decidable (r.inDuration tick oldTime) := inferInstanceAs (Decidable (_ < _))

def prog (place : LimiterPlace) (tick : Nat) (s : LimiterShared) : LimiterPlace × LimiterShared :=
  match place with
  | .llen => (if s.list.llen tick < r.maxRequestNum then .lpush false else .lindex, { s with clock := tick })
  | .lindex =>
    match s.list.lindexLast tick with
    | none => (.failed, { s with clock := tick })
    | some oldTime => (if r.inDuration tick oldTime then .expire false else .lpush true, { s with clock := tick })
  | .lpush full =>
    (if full then .ltrim else .expire true, { s with list := s.list.lpush tick (r.millis tick), clock := tick })
  | .ltrim => (.expire true, { s with list := s.list.ltrim tick r.maxRequestNum, clock := tick })
  | .expire true => (.accepted, ⟨s.list.expire tick r.expiry, tick :: s.accepted, tick⟩)
  | .expire false => (.rejected, { s with list := s.list.expire tick r.expiry, clock := tick })
  | place => (place, { s with clock := tick })

/-- No request has come. -/
def start : Sys Nat LimiterShared LimiterPlace := ⟨⟨RedisList.none, [], 0⟩, fun _ => .llen⟩

/-- The clock does not go back. -/
def Timely (c : Sys Nat LimiterShared LimiterPlace) (a : Nat × Nat) : Prop := c.shared.clock ≤ a.2

/-- All commands of a request at one time, with nobody between them. -/
def serve (s : LimiterShared) (tick : Nat) : LimiterShared :=
  if s.list.llen tick < r.maxRequestNum then
    ⟨(s.list.lpush tick (r.millis tick)).expire tick r.expiry, tick :: s.accepted, tick⟩
  else
    match s.list.lindexLast tick with
    | none => { s with clock := tick }
    | some oldTime =>
      if r.inDuration tick oldTime then { s with list := s.list.expire tick r.expiry, clock := tick }
      else
        ⟨((s.list.lpush tick (r.millis tick)).ltrim tick r.maxRequestNum).expire tick r.expiry, tick :: s.accepted, tick⟩

/-- The requests come at these times one after the other, each executes its commands at once. -/
def serial (times : List Nat) : List (Nat × Nat) := times.zipIdx.flatMap fun p => replicate 5 (p.2, p.1)

variable {r} {s : LimiterShared} {c : Sys Nat LimiterShared LimiterPlace} {i t : Nat}

/-! ## Requests one after the other -/

/-- **A request that runs alone.** -/
theorem run_alone (h : c.procs i = .llen) :
    (run (Sys.step r.prog) c (replicate 5 (i, t))).shared = r.serve c.shared t ∧
      ∀ j, j ≠ i → (run (Sys.step r.prog) c (replicate 5 (i, t))).procs j = c.procs j := by
  constructor
  · simp only [replicate, run_cons, Sys.step]
    by_cases hlen : c.shared.list.llen t < r.maxRequestNum
    · simp [prog, serve, h, hlen]
    · cases hlast : c.shared.list.lindexLast t with
      | none => simp [prog, serve, h, hlen, hlast]
      | some oldTime => by_cases hin : r.inDuration t oldTime <;> simp [prog, serve, h, hlen, hlast, hin]
  · intro j hj
    simp [Sys.step, hj]

theorem run_serial_from (times : List Nat) (k : Nat) (h : ∀ j, k ≤ j → c.procs j = .llen) :
    (run (Sys.step r.prog) c ((times.zipIdx k).flatMap fun p => replicate 5 (p.2, p.1))).shared =
      run r.serve c.shared times := by
  induction times generalizing c k with
  | nil => rfl
  | cons t times ih =>
    obtain ⟨hshared, hprocs⟩ := run_alone (h k le_rfl)
    rw [zipIdx_cons, flatMap_cons, run_append, ih (k + 1), hshared, run_cons]
    intro j hj
    rw [hprocs j (by omega)]
    exact h j (by omega)

theorem run_serial (times : List Nat) :
    (run (Sys.step r.prog) start (serial times)).shared = run r.serve start.shared times :=
  run_serial_from times 0 fun _ _ => rfl

/-- The list has the times of what is in the window, and the limit has been kept so far. -/
structure ListKept (r : ClientRateLimit) (now : Nat) (list : RedisList Nat) (kept all : List Nat) : Prop where
  covers : Covers r.window now kept all
  values : list.values = (kept.map r.millis).reverse
  length_le : kept.length ≤ r.maxRequestNum
  past : ∀ x ∈ all, x ≤ now
  expires : ∀ e, list.expireAt = some e → ∀ x ∈ all, x + r.expiry.toNat ≤ e
  limited : Limited r.maxRequestNum r.window all

variable {now k : Nat} {list : RedisList Nat} {kept all times : List Nat}

theorem ListKept.later (h : ListKept r now list kept all) (hle : now ≤ t) : ListKept r t list kept all :=
  ⟨h.covers.later hle, h.values, h.length_le, fun x hx => (h.past x hx).trans hle, h.expires, h.limited⟩

/-- What is left of the list at a time has what is in the window then. -/
theorem ListKept.live (hexp : r.window ≤ r.expiry.toNat) (h : ListKept r now list kept all) (hle : now ≤ t) :
    ∃ kept', ListKept r t (list.live t) kept' all := by
  have ht := h.later hle
  by_cases hgone : list.expireAt.any (· ≤ t)
  · -- the key has expired, and with it times that are out of the window
    rw [RedisList.live, if_pos hgone]
    refine ⟨[], ht.covers.clear ?_, rfl, zero_le _, ht.past, by simp [RedisList.none], ht.limited⟩
    intro x hx
    obtain ⟨old, hall, -⟩ := ht.covers
    have hmem : x ∈ all := by
      rw [hall]
      exact mem_append_left _ (mem_reverse.2 hx)
    cases he : list.expireAt with
    | none => simp [he] at hgone
    | some e =>
      have hle' : e ≤ t := by simpa [he] using hgone
      have := h.expires e he x hmem
      omega
  · rw [RedisList.live, if_neg hgone]
    exact ⟨kept, ht⟩

/-- In milliseconds a time is out of the window no earlier than it is, if no tick is shorter than a millisecond. -/
theorem add_window_le {x : Nat} (hq : r.perSecond ≤ 1000) (hd : 0 < r.duration) (h : ¬ r.inDuration t (r.millis x)) :
    x + r.window ≤ t := by
  have hpos := r.perSecond_pos
  have hmillis : r.millis x + 1000 * r.duration.toNat ≤ r.millis t := by
    unfold inDuration at h
    have hnonneg : 0 ≤ (r.millis t : Int) - r.millis x := by
      by_contra hneg
      have hback : 0 ≤ ((r.millis x : Int) - r.millis t).tdiv 1000 := Int.tdiv_nonneg (by omega) (by omega)
      rw [← neg_sub, Int.neg_tdiv] at h
      omega
    rw [Int.tdiv_eq_ediv_of_nonneg hnonneg] at h
    omega
  have hx : x * 1000 < (r.millis x + 1) * r.perSecond := by
    have := lt_div_mul_add hpos (a := x * 1000)
    unfold millis
    nlinarith
  have ht : r.millis t * r.perSecond ≤ t * 1000 := div_mul_le_self _ _
  unfold window
  nlinarith

theorem ListKept.accept {kept' : List Nat} (hpast : ∀ x ∈ all, x ≤ t) (hlim : Limited r.maxRequestNum r.window all)
    (hcovers : Covers r.window t kept' all) (hlen : kept'.length < r.maxRequestNum) :
    ListKept r t ⟨r.millis t :: (kept'.map r.millis).reverse, some (t + r.expiry.toNat)⟩ (kept' ++ [t]) (t :: all) := by
  refine ⟨hcovers.push, by simp, by rw [length_append]; exact hlen, ?_, ?_,
    hlim.cons (hcovers.recent_le.trans_lt hlen)⟩
  · intro x hx
    rcases mem_cons.1 hx with rfl | hx
    · exact le_rfl
    · exact hpast x hx
  · rintro e ⟨⟩ x hx
    rcases mem_cons.1 hx with rfl | hx
    · exact le_rfl
    · have := hpast x hx
      omega

/-- **A request that is served keeps the limit.** -/
theorem ListKept.serve (hn : 1 ≤ r.maxRequestNum) (hq : r.perSecond ≤ 1000) (hd : 0 < r.duration)
    (hexp : r.duration ≤ r.expiration) (h : ListKept r s.clock s.list kept s.accepted) (hle : s.clock ≤ t) :
    ∃ kept', ListKept r t (r.serve s t).list kept' (r.serve s t).accepted := by
  have hpos : (0 : Int) < r.perSecond := by exact_mod_cast r.perSecond_pos
  have hexpiry : 0 < r.expiry := mul_pos (by omega) hpos
  have hwindow : r.window ≤ r.expiry.toNat := by
    rw [Int.le_toNat hexpiry.le, window, cast_mul, Int.toNat_of_nonneg hd.le]
    exact mul_le_mul_of_nonneg_right hexp hpos.le
  obtain ⟨kept, hlive⟩ := h.live hwindow hle
  have hvalues := hlive.values
  have hllen : s.list.llen t = kept.length := by
    rw [RedisList.llen, hvalues, length_reverse, length_map]
  unfold ClientRateLimit.serve
  by_cases hroom : s.list.llen t < r.maxRequestNum
  · rw [if_pos hroom, RedisList.expire_lpush hexpiry, hvalues]
    exact ⟨_, ListKept.accept hlive.past hlive.limited hlive.covers (by omega)⟩
  · rw [if_neg hroom]
    -- the list is full, with the oldest time at its end
    cases hkept : kept with
    | nil =>
      rw [hkept, length_nil] at hllen
      omega
    | cons x rest =>
      have hlast : s.list.lindexLast t = some (r.millis x) := by
        rw [RedisList.lindexLast, hvalues, hkept]
        simp
      have hfull := hlive.length_le
      rw [hkept, length_cons] at hfull
      rw [hlast]
      dsimp only
      by_cases hin : r.inDuration t (r.millis x)
      · rw [if_pos hin, RedisList.expire_of_ne_nil hexpiry (by rw [hvalues, hkept]; simp)]
        refine ⟨kept, hlive.covers, hvalues, hlive.length_le, hlive.past, ?_, hlive.limited⟩
        rintro e ⟨⟩ y hy
        have := hlive.past y hy
        omega
      · rw [if_neg hin, RedisList.expire_ltrim hexpiry hn, hvalues, hkept]
        have hcovers := hlive.covers
        rw [hkept] at hcovers
        have htake : (r.millis t :: ((x :: rest).map r.millis).reverse).take r.maxRequestNum =
            r.millis t :: (rest.map r.millis).reverse := by
          rw [hkept, length_cons] at hllen
          rw [show r.maxRequestNum = rest.length + 1 by omega, take_succ_cons, map_cons, reverse_cons,
            take_append_of_le_length (by simp), take_of_length_le (by simp)]
        rw [htake]
        exact ⟨_, ListKept.accept hlive.past hlive.limited (hcovers.drop (add_window_le hq hd hin)) (by omega)⟩

@[simp] theorem serve_clock : (r.serve s t).clock = t := by
  unfold serve
  split
  · rfl
  · split
    · rfl
    · split <;> rfl

theorem along_serve (h : (s.clock :: times).Pairwise (· ≤ ·)) :
    Along r.serve (fun s t => s.clock ≤ t) s times := by
  induction times generalizing s with
  | nil => trivial
  | cons t times ih =>
    rw [pairwise_cons] at h
    refine ⟨h.1 t mem_cons_self, ih ?_⟩
    rw [serve_clock]
    exact h.2

/-- **Requests one after the other keep the limit**, if times are told apart by milliseconds and the key does not expire in the
window. -/
theorem serial_limited (hn : 1 ≤ r.maxRequestNum) (hq : r.perSecond ≤ 1000) (hd : 0 < r.duration)
    (hexp : r.duration ≤ r.expiration) (ht : times.Pairwise (· ≤ ·)) :
    Limited r.maxRequestNum r.window (run (Sys.step r.prog) start (serial times)).shared.accepted := by
  rw [run_serial]
  have halong := along_serve (r := r) (s := start.shared) (pairwise_cons.2 ⟨fun t _ => zero_le t, ht⟩)
  have hinv := run_inv_along (I := fun s => ∃ kept, ListKept r s.clock s.list kept s.accepted) ?_ halong ?_
  · obtain ⟨kept, h⟩ := hinv
    exact h.limited
  · rintro s t hle ⟨kept, h⟩
    rw [serve_clock]
    exact h.serve hn hq hd hexp hle
  · exact ⟨[], covers_nil, rfl, zero_le _, by simp [start], by simp [start], limited_nil⟩

/-! ## Requests one after the other that break the limit -/

/-- After `k` requests at one time from the start. -/
structure ServeBurst (r : ClientRateLimit) (t k : Nat) (s : LimiterShared) : Prop where
  accepted : s.accepted = replicate k t
  values : ∀ v ∈ s.list.values, v = r.millis t
  length_le : s.list.values.length ≤ k
  expires : s.list.values = [] ∨ s.list.expireAt = some (t + r.expiry.toNat)

theorem live_values_sublist (l : RedisList Nat) (now : Nat) : (l.live now).values.Sublist l.values := by
  unfold RedisList.live
  split
  · exact nil_sublist _
  · exact Sublist.refl _

theorem serveBurst_step (hk : k < r.maxRequestNum) (h : ServeBurst r t k s) :
    ServeBurst r t (k + 1) (r.serve s t) := by
  have hlive := live_values_sublist s.list t
  have hllen : s.list.llen t < r.maxRequestNum := (hlive.length_le.trans h.length_le).trans_lt hk
  unfold serve
  rw [if_pos hllen]
  by_cases hexp : 0 < r.expiry
  · rw [RedisList.expire_lpush hexp]
    refine ⟨by rw [h.accepted]; rfl, ?_, succ_le_succ (hlive.length_le.trans h.length_le), .inr rfl⟩
    intro v hv
    rcases mem_cons.1 hv with rfl | hv
    · rfl
    · exact h.values v (hlive.subset hv)
  · -- without an expiry in the future the key is removed at once
    rw [RedisList.expire, if_pos (.inr (by omega))]
    exact ⟨by rw [h.accepted]; rfl, by simp [RedisList.none], zero_le _, .inl rfl⟩

theorem serveBurst_run (hk : k ≤ r.maxRequestNum) :
    ServeBurst r t k (run r.serve start.shared (replicate k t)) := by
  induction k with
  | zero => exact ⟨rfl, by simp [start, RedisList.none], le_rfl, .inl rfl⟩
  | succ k ih =>
    rw [replicate_succ', run_append]
    exact serveBurst_step hk (ih (by omega))

/-- A request is accepted when all that is left of the list is out of the window. -/
theorem serve_accepts (hn : 1 ≤ r.maxRequestNum) (h : ∀ v ∈ (s.list.live t).values, ¬ r.inDuration t v) :
    (r.serve s t).accepted = t :: s.accepted := by
  unfold serve
  split
  · rfl
  · next hfull =>
    cases hlast : s.list.lindexLast t with
    | none =>
      rw [RedisList.lindexLast, getLast?_eq_none_iff] at hlast
      rw [RedisList.llen, hlast, length_nil] at hfull
      omega
    | some v =>
      have hv := h v (mem_of_getLast? hlast)
      simp [hv]

theorem serial_breaks (t t' : Nat) (hn : 1 ≤ r.maxRequestNum) (hle : t ≤ t') (hlt : t' < t + r.window)
    (h : t + r.expiry.toNat ≤ t' ∨ ¬ r.inDuration t' (r.millis t)) :
    ∃ times : List Nat, times.Pairwise (· ≤ ·) ∧
      ¬ Limited r.maxRequestNum r.window (run (Sys.step r.prog) start (serial times)).shared.accepted := by
  refine ⟨replicate r.maxRequestNum t ++ [t'], ?_, ?_⟩
  · rw [pairwise_append]
    refine ⟨pairwise_replicate.2 (.inr le_rfl), pairwise_singleton _ _, ?_⟩
    intro x hx y hy
    rw [eq_of_mem_replicate hx, mem_singleton.1 hy]
    exact hle
  · have hburst := serveBurst_run (r := r) (t := t) le_rfl
    rw [run_serial, run_append, run_cons, run_nil, serve_accepts hn, hburst.accepted]
    · refine not_limited (a := t) (by simp) ?_
      intro x hx
      rcases mem_cons.1 hx with rfl | hx
      · exact ⟨hle, hlt⟩
      · rw [eq_of_mem_replicate hx]
        omega
    · intro v hv
      rw [hburst.values v ((live_values_sublist _ _).subset hv)]
      refine h.resolve_left fun hexp => ?_
      -- nothing is left of an expired key
      rcases hburst.expires with hnil | hsome
      · have := (live_values_sublist _ _).subset hv
        rw [hnil] at this
        cases this
      · rw [RedisList.live, hsome, if_pos (by simpa using hexp)] at hv
        cases hv

/-! ## Requests at the same time that break the limit -/

@[simp] theorem prog_clock (place : LimiterPlace) : (r.prog place t s).2.clock = t := by
  unfold prog
  split
  case h_2 => split <;> rfl
  all_goals rfl

theorem along_zero {actions : List (Nat × Nat)} (h : ∀ a ∈ actions, a.2 = 0) (hc : c.shared.clock = 0) :
    Along (Sys.step r.prog) Timely c actions := by
  induction actions generalizing c with
  | nil => trivial
  | cons a actions ih =>
    refine ⟨hc.trans_le (zero_le _), ih (fun b hb => h b (mem_cons_of_mem a hb)) ?_⟩
    rw [Sys.step_shared, prog_clock]
    exact h a mem_cons_self

def asks (k : Nat) : List (Nat × Nat) := (range k).map fun i => (i, 0)

/-- Then each of them adds its time and sets the expiry. -/
def writes (k : Nat) : List (Nat × Nat) := (range k).flatMap fun i => [(i, 0), (i, 0)]

theorem run_asks (hn : 1 ≤ r.maxRequestNum) (k : Nat) :
    (run (Sys.step r.prog) start (asks k)).shared = start.shared ∧
      ∀ i, (run (Sys.step r.prog) start (asks k)).procs i = if i < k then .lpush false else .llen := by
  induction k with
  | zero => exact ⟨rfl, fun i => rfl⟩
  | succ k ih =>
    obtain ⟨hshared, hprocs⟩ := ih
    have hplace : (run (Sys.step r.prog) start (asks k)).procs k = .llen := by rw [hprocs, if_neg (by omega)]
    have hstep : r.prog .llen 0 start.shared = (.lpush false, start.shared) := by
      simp [prog, start, show 0 < r.maxRequestNum from hn]
    rw [asks, range_succ, map_append, ← asks, run_append, map_singleton, run_cons, run_nil]
    constructor
    · rw [Sys.step_shared, hplace, hshared, hstep]
    · intro i
      by_cases hik : i = k
      · subst hik
        rw [Sys.step_procs_self, hplace, hshared, hstep, if_pos (lt_succ_self i)]
      · rw [Sys.step_procs_ne hik, hprocs]
        by_cases hlt : i < k
        · rw [if_pos hlt, if_pos (by omega)]
        · rw [if_neg hlt, if_neg (by omega)]

/-- Whoever has seen room in the list is accepted, whatever is in the list now. -/
theorem run_writes {n : Nat} (hk : k ≤ n) (hc : ∀ i, i < n → c.procs i = .lpush false) :
    (run (Sys.step r.prog) c (writes k)).shared.accepted = replicate k 0 ++ c.shared.accepted ∧
      ∀ i, k ≤ i → i < n → (run (Sys.step r.prog) c (writes k)).procs i = .lpush false := by
  induction k with
  | zero => exact ⟨rfl, fun i _ hi => hc i hi⟩
  | succ k ih =>
    obtain ⟨haccepted, hprocs⟩ := ih (by omega)
    have hplace := hprocs k le_rfl hk
    rw [writes, range_succ, flatMap_append, ← writes, run_append, flatMap_singleton]
    constructor
    · simp [Sys.step, hplace, prog, haccepted, replicate_succ]
    · intro i hi hin
      have hne : i ≠ k := by omega
      simp only [run_cons, run_nil, Sys.step, Function.update_of_ne hne]
      exact hprocs i (by omega) hin

/-- **Requests at the same time are all accepted.** -/
theorem race_breaks (hn : 1 ≤ r.maxRequestNum) (hd : 0 < r.duration) :
    ∃ actions, Along (Sys.step r.prog) Timely start actions ∧
      ¬ Limited r.maxRequestNum r.window (run (Sys.step r.prog) start actions).shared.accepted := by
  refine ⟨asks (r.maxRequestNum + 1) ++ writes (r.maxRequestNum + 1), along_zero ?_ rfl, ?_⟩
  · intro a ha
    simp only [asks, writes, mem_append, mem_map, mem_flatMap, mem_cons, not_mem_nil, or_false,
      or_self] at ha
    rcases ha with ⟨i, -, rfl⟩ | ⟨i, -, rfl⟩ <;> rfl
  · obtain ⟨hshared, hprocs⟩ := run_asks hn (r.maxRequestNum + 1)
    have hplaces : ∀ i, i < r.maxRequestNum + 1 →
        (run (Sys.step r.prog) start (asks (r.maxRequestNum + 1))).procs i = .lpush false := by
      intro i hi
      rw [hprocs, if_pos hi]
    have haccepted := (run_writes (r := r) le_rfl hplaces).1
    rw [run_append, haccepted, hshared]
    refine not_limited (a := 0) (by simp [start]) ?_
    intro x hx
    have hpos : 0 < r.window := mul_pos (by omega) r.perSecond_pos
    have hzero : x = 0 := by simpa [start] using hx
    omega

/-! ## When the limit holds -/

/-- **The limit holds in all interleavings exactly if** the window is empty; and it holds for all requests that come one after
the other exactly if moreover times are told apart by milliseconds and the key does not expire in the window. -/
theorem client_limit_iff (r : ClientRateLimit) (hn : 1 ≤ r.maxRequestNum) :
    ((∀ actions, Along (Sys.step r.prog) Timely start actions →
      Limited r.maxRequestNum r.window (run (Sys.step r.prog) start actions).shared.accepted) ↔ r.duration ≤ 0) ∧
    ((∀ times : List Nat, times.Pairwise (· ≤ ·) →
      Limited r.maxRequestNum r.window (run (Sys.step r.prog) start (serial times)).shared.accepted) ↔
      r.duration ≤ 0 ∨ r.perSecond ≤ 1000 ∧ r.duration ≤ r.expiration) := by
  have hempty : r.duration ≤ 0 → ∀ ts, Limited r.maxRequestNum r.window ts := by
    intro hd ts a
    have hzero : r.window = 0 := by rw [window, Int.toNat_of_nonpos hd, zero_mul]
    have hnone : inWindow r.window a ts = 0 := by
      rw [inWindow, countP_eq_zero]
      simp only [decide_eq_true_eq]
      omega
    omega
  refine ⟨⟨?_, fun hd actions _ => hempty hd _⟩, ?_, ?_⟩
  · intro h
    by_contra hd
    obtain ⟨actions, ht, hnot⟩ := race_breaks hn (by omega)
    exact hnot (h actions ht)
  · intro h
    by_contra hcond
    obtain ⟨hd, hcond⟩ : 0 < r.duration ∧ (r.perSecond ≤ 1000 → r.expiration < r.duration) := by
      constructor
      · omega
      · intro hq
        by_contra hexp
        exact hcond (.inr ⟨hq, by omega⟩)
    have hpos := r.perSecond_pos
    have hsec : (r.duration.toNat : Int) = r.duration := Int.toNat_of_nonneg hd.le
    have hwindow : (r.window : Int) = r.duration * r.perSecond := by rw [window, cast_mul, hsec]
    have hwpos : 0 < r.window := mul_pos (by omega) hpos
    obtain ⟨times, ht, hnot⟩ : ∃ times : List Nat, times.Pairwise (· ≤ ·) ∧
        ¬ Limited r.maxRequestNum r.window (run (Sys.step r.prog) start (serial times)).shared.accepted := by
      by_cases hq : r.perSecond ≤ 1000
      · -- the key expires before the window is over
        have hlt : r.expiry < r.duration * r.perSecond := mul_lt_mul_of_pos_right (hcond hq) (by omega)
        exact serial_breaks 0 r.expiry.toNat hn (zero_le _) (by omega) (.inl (by omega))
      · -- the first two ticks have the same milliseconds
        have hone : r.millis 1 = 0 := div_eq_of_lt (by omega)
        have hwin : r.millis r.window = r.duration.toNat * 1000 := by
          rw [millis, window, mul_right_comm, Nat.mul_div_cancel _ hpos]
        refine serial_breaks 1 r.window hn (by omega) (by omega) (.inr ?_)
        rw [inDuration, hone, hwin, cast_mul, hsec, cast_zero, sub_zero, cast_ofNat,
          Int.mul_tdiv_cancel _ (by decide)]
        exact lt_irrefl _
    exact hnot (h times ht)
  · rintro (hd | ⟨hq, hexp⟩) times ht
    · exact hempty hd _
    · by_cases hd : 0 < r.duration
      · exact serial_limited hn hq hd hexp ht
      · exact hempty (by omega) _

/-- One request in a minute; keys expire after twenty minutes. -/
def perMinute : ClientRateLimit := ⟨1, 60, 1200, 1000, by decide⟩

theorem client_limit_iff_perMinute :
    1 ≤ perMinute.maxRequestNum ∧
    ∀ times : List Nat, times.Pairwise (· ≤ ·) →
      Limited 1 perMinute.window (run (Sys.step perMinute.prog) start (serial times)).shared.accepted :=
  ⟨by decide, (client_limit_iff perMinute (by decide)).2.2 (.inr (by decide))⟩

/-- Two requests ask for the length of the list before one of them adds its time. -/
def twoAtOnce : List (Nat × Nat) := [(0, 0), (1, 0), (0, 0), (0, 0), (1, 0), (1, 0)]

/-- Two requests at once are both accepted, where one is allowed in a minute. -/
theorem client_limit_exceeded :
    Along (Sys.step perMinute.prog) Timely start twoAtOnce ∧
      ¬ Limited 1 perMinute.window (run (Sys.step perMinute.prog) start twoAtOnce).shared.accepted := by
  refine ⟨along_zero (by decide) rfl, ?_⟩
  exact not_limited (a := 0) (by decide) (by decide)

end ClientRateLimit

end SynthApi
