import SynthApi.Lib.GoNet
import SynthApi.Lib.Interleave
import SynthApi.Lib.KeyedLock
import SynthApi.Lib.Table

/-!
# Public registration

`CreatePublicUser` (`model/registration_security.go`) creates an account for a visitor. Under a lock for the visitor's
normalised address it checks that no account has the address, that the accounts of the address's /24 network are fewer
than the limit, that name and email are free and that the inviter is in another network; then it inserts the account. The
locks are entries of a map with reference counts (`Lib.LockMap`). A call is a process that executes one statement after the
other (`RegisterSite.prog`), and the calls of a node run concurrently.

The lock makes check and insert of one address a single step, so that an address gets one account
(`one_account_per_address`). The calls from other addresses of the network have other locks: between the count and the
insert of one call they may all count and insert. `registration_limits_iff` says for which limits this does not matter.

What `Insert` does after the row exists (settings, logs, rewards of the inviter) does not concern `register_ip`.
-/

namespace SynthApi

open Lib Lib.Go Function List

/-! ## Addresses -/

/-- `net.ParseIP` and `IP.String`. -/
structure IPText where
  parseIP : String → Option IP
  text : IP → String
  parse_text : ∀ ip, parseIP (text ip) = some ip
  parse_empty : parseIP "" = none
  trim_text : ∀ ip, trimSpace (text ip) = text ip

theorem IPText.text_ne_empty (t : IPText) (ip : IP) : t.text ip ≠ "" := by
  intro h
  have hparse := t.parse_text ip
  rw [h, t.parse_empty] at hparse
  cases hparse

theorem IPText.text_injective (t : IPText) {ip ip' : IP} (h : t.text ip = t.text ip') : ip = ip' := by
  have hparse := t.parse_text ip
  rw [h, t.parse_text, Option.some.injEq] at hparse
  exact hparse.symm

def errInvalidRegistrationIP := "无法识别注册网络地址，请稍后重试"
def errRegistrationIPUsed := "当前网络环境已注册过账号，请勿重复注册"
def errRegistrationSubnetLimit := "当前网络环境注册账号数量已达上限，请使用已有账号"
def errSelfInvitation := "邀请码不能来自同一网络环境"

/-- A row of `users`, with the columns that registration reads. -/
structure RegisteredUser where
  id : Int
  username : String
  email : String
  registerIP : String
  inviterId : Int
  deleted : Bool
  deriving DecidableEq, Repr

/-- The arguments of `CreatePublicUser`. -/
structure Registration where
  username : String
  email : String
  registerIP : String
  inviterID : Int
  deriving DecidableEq, Repr

/-- A node, with its settings. -/
structure RegisterSite extends IPText where
  subnetLimitEnable : Bool
  subnetLimitMaxAccounts : Int

def like : List Char → List Char → Bool
  | [], s => s.isEmpty
  | '%' :: p, s => s.tails.any (like p)
  | '_' :: p, s =>
    match s with
    | [] => false
    | _ :: s => like p s
  | c :: p, s =>
    match s with
    | [] => false
    | c' :: s => c == c' && like p s

/-- The number of an address's IPv4 /24 network. -/
def ipv4Network (ip : IP) : Option Nat := ip.to4.map fun v => v.toNat / 256

/-! ## The statements -/

namespace RegisterSite

variable (site : RegisterSite)

def normalizeRegistrationIP (registerIP : String) : Except String String :=
  match site.parseIP (trimSpace registerIP) with
  | none => .error errInvalidRegistrationIP
  | some parsed => .ok (site.text parsed)

def ipv4SubnetPattern (registerIP : String) : Option String :=
  match site.parseIP registerIP with
  | none => none
  | some parsed =>
    match parsed.to4 with
    | none => none
    | some v =>
      some (toString (v.toNat / 2 ^ 24) ++ "." ++ toString (v.toNat / 2 ^ 16 % 2 ^ 8) ++ "." ++
        toString (v.toNat / 2 ^ 8 % 2 ^ 8) ++ ".%")

def query {α : Type} (fails : Option String) (found : α) : Except String α :=
  match fails with
  | some err => .error err
  | none => .ok found

/-- Deleted accounts count as well. -/
def isRegisterIPUsed (fails : Option String) (ip : String) (users : List RegisteredUser) : Except String Bool :=
  let ip := trimSpace ip
  if ip = "" then .ok false else query fails (decide (0 < users.countP (·.registerIP = ip)))

def countRegisteredAccountsInNetwork (fails : Option String) (registerIP : String) (users : List RegisteredUser) :
    Except String Int :=
  match site.ipv4SubnetPattern registerIP with
  | none => (isRegisterIPUsed fails registerIP users).map fun used => if used then 1 else 0
  | some pattern => query fails (users.countP fun u => like pattern.toList u.registerIP.toList : Nat)

def checkUserExistOrDeleted (fails : Option String) (username email : String) (users : List RegisteredUser) :
    Except String Bool :=
  query fails (users.any fun u => u.username = username || (email ≠ "" && u.email = email))

def sameRegistrationNetwork (left right : String) : Bool :=
  match site.parseIP left, site.parseIP right with
  | some leftIP, some rightIP =>
    match leftIP.to4, rightIP.to4 with
    | some leftV4, some rightV4 => leftV4.toNat / 2 ^ 8 = rightV4.toNat / 2 ^ 8
    -- IPv6 is compared by /64
    | none, none => leftIP.toNat / 2 ^ 64 = rightIP.toNat / 2 ^ 64
    | _, _ => false
  | _, _ => false

/-- The inviter that the account gets; a query that fails finds none. -/
def safeInviter (fails : Option String) (normalizedIP : String) (inviterID : Int) (users : List RegisteredUser) :
    Except String Int :=
  if inviterID = 0 then .ok 0
  else
    match query fails (users.find? fun u => u.id = inviterID && !u.deleted) with
    | .error _ | .ok none => .ok 0
    | .ok (some inviter) =>
      if inviter.registerIP = "" then .ok 0
      else
        match site.normalizeRegistrationIP inviter.registerIP with
        | .error _ => .ok inviterID
        | .ok inviterIP =>
          if site.sameRegistrationNetwork normalizedIP inviterIP then .error errSelfInvitation else .ok inviterID

def newUser (r : Registration) (normalizedIP : String) (safeInviterID : Int) (users : List RegisteredUser) :
    RegisteredUser :=
  ⟨Table.nextId (users.map (·.id)), r.username, r.email, normalizedIP, safeInviterID, false⟩

/-- `DB.Create`: names are unique. -/
def insert (fails : Option String) (user : RegisteredUser) (users : List RegisteredUser) :
    Except String (List RegisteredUser) :=
  match fails with
  | some err => .error err
  | none => if users.any (·.username = user.username) then .error "duplicated key" else .ok (users ++ [user])

end RegisterSite

/-! ## The processes -/

/-- Which statement a call executes next. `ip` is the normalised address and `e` the lock entry. -/
inductive RegisterPlace where
  | start (r : Registration)
  | waiting (r : Registration) (ip : String) (e : Nat)
  | ipCheck (r : Registration) (ip : String) (e : Nat)
  | subnetCheck (r : Registration) (ip : String) (e : Nat)
  | existsCheck (r : Registration) (ip : String) (e : Nat)
  | inviterCheck (r : Registration) (ip : String) (e : Nat)
  | insert (r : Registration) (ip : String) (e : Nat) (safeInviterID : Int)
  | unlock (ip : String) (e : Nat) (result : Except String Unit)
  | release (ip : String) (e : Nat) (result : Except String Unit)
  | done (result : Except String Unit)

def RegisterPlace.phase : RegisterPlace → Phase String
  | .start _ | .done _ => .outside
  | .waiting _ ip e => .waiting ip e
  | .ipCheck _ ip e | .subnetCheck _ ip e | .existsCheck _ ip e | .inviterCheck _ ip e | .insert _ ip e _
  | .unlock ip e _ => .inside ip e
  | .release ip e _ => .leaving ip e

structure RegisterState where
  users : List RegisteredUser
  registrationLocks : LockMap String

namespace RegisterSite

variable (site : RegisterSite)

/-- One statement of `CreatePublicUser`; `fails` is the error of a statement of the database that fails. The validation
normalises the address again, to the same text. -/
def prog (place : RegisterPlace) (fails : Option String) (s : RegisterState) : RegisterPlace × RegisterState :=
  match place with
  | .start r =>
    match site.normalizeRegistrationIP r.registerIP with
    | .error err => (.done (.error err), s)
    | .ok ip =>
      (.waiting r ip (s.registrationLocks.retain ip).1, { s with registrationLocks := (s.registrationLocks.retain ip).2 })
  | .waiting r ip e =>
    if (s.registrationLocks.entries e).locked then (.waiting r ip e, s)
    else (.ipCheck r ip e, { s with registrationLocks := s.registrationLocks.setLocked e true })
  | .ipCheck r ip e =>
    match isRegisterIPUsed fails ip s.users with
    | .error err => (.unlock ip e (.error err), s)
    | .ok true => (.unlock ip e (.error errRegistrationIPUsed), s)
    | .ok false => (if site.subnetLimitEnable then .subnetCheck r ip e else .existsCheck r ip e, s)
  | .subnetCheck r ip e =>
    match site.countRegisteredAccountsInNetwork fails ip s.users with
    | .error err => (.unlock ip e (.error err), s)
    | .ok count =>
      if count ≥ site.subnetLimitMaxAccounts then (.unlock ip e (.error errRegistrationSubnetLimit), s)
      else (.existsCheck r ip e, s)
  | .existsCheck r ip e =>
    match checkUserExistOrDeleted fails r.username r.email s.users with
    | .error err => (.unlock ip e (.error err), s)
    | .ok true => (.unlock ip e (.error "用户名或邮箱已被使用"), s)
    | .ok false => (.inviterCheck r ip e, s)
  | .inviterCheck r ip e =>
    match site.safeInviter fails ip r.inviterID s.users with
    | .error err => (.unlock ip e (.error err), s)
    | .ok safeInviterID => (.insert r ip e safeInviterID, s)
  | .insert r ip e safeInviterID =>
    match insert fails (newUser r ip safeInviterID s.users) s.users with
    | .error err => (.unlock ip e (.error err), s)
    | .ok users => (.unlock ip e (.ok ()), { s with users := users })
  | .unlock ip e result =>
    (.release ip e result, { s with registrationLocks := s.registrationLocks.setLocked e false })
  | .release ip e result => (.done result, { s with registrationLocks := s.registrationLocks.release ip e })
  | .done result => (.done result, s)

/-- The calls have come, and none has executed a statement. -/
def start {ι : Type} (calls : ι → Registration) (users : List RegisteredUser) : Sys ι RegisterState RegisterPlace :=
  ⟨⟨users, LockMap.empty⟩, fun i => .start (calls i)⟩

/-- The accounts that the calls have created after these statements. -/
def created {ι : Type} [DecidableEq ι] (calls : ι → Registration) (users : List RegisteredUser)
    (actions : List (ι × Option String)) : List RegisteredUser :=
  (run (Sys.step site.prog) (start calls users) actions).shared.users.drop users.length

/-- The account's address is in the IPv4 /24 network. -/
def inNetwork (network : Nat) (u : RegisteredUser) : Bool := (site.parseIP u.registerIP).bind ipv4Network = some network

/-! ## What a statement does -/

section Statements

variable {site} {fails : Option String} {ip : String} {users : List RegisteredUser}

def IsText (ip : String) : Prop := ∃ a, ip = site.text a

def Unused (ip : String) (users : List RegisteredUser) : Prop := ∀ u ∈ users, u.registerIP ≠ ip

theorem normalizeRegistrationIP_text {registerIP : String} (h : site.normalizeRegistrationIP registerIP = .ok ip) :
    site.IsText ip := by
  unfold normalizeRegistrationIP at h
  split at h
  · cases h
  · cases h
    exact ⟨_, rfl⟩

theorem normalizeRegistrationIP_of_text (a : IP) : site.normalizeRegistrationIP (site.text a) = .ok (site.text a) := by
  rw [normalizeRegistrationIP, site.trim_text, site.parse_text]

theorem query_ok {α : Type} {found a : α} (h : query fails found = .ok a) : found = a := by
  unfold query at h
  split at h
  · cases h
  · exact Except.ok.inj h

theorem isRegisterIPUsed_text (a : IP) :
    isRegisterIPUsed fails (site.text a) users =
      query fails (decide (0 < users.countP (·.registerIP = site.text a))) := by
  unfold isRegisterIPUsed
  rw [site.trim_text, if_neg (site.text_ne_empty a)]

theorem unused_of_isRegisterIPUsed (hip : site.IsText ip) (h : isRegisterIPUsed fails ip users = .ok false) :
    Unused ip users := by
  obtain ⟨a, rfl⟩ := hip
  rw [isRegisterIPUsed_text] at h
  have hcount : users.countP (·.registerIP = site.text a) = 0 := by simpa using query_ok h
  intro u hu
  have := countP_eq_zero.1 hcount u hu
  simpa using this

theorem countRegisteredAccountsInNetwork_nonneg {count : Int}
    (h : site.countRegisteredAccountsInNetwork fails ip users = .ok count) : 0 ≤ count := by
  unfold countRegisteredAccountsInNetwork at h
  split at h
  · cases hused : isRegisterIPUsed fails ip users with
    | error err =>
      rw [hused] at h
      cases h
    | ok used =>
      rw [hused] at h
      cases h
      cases used <;> decide
  · rw [← query_ok h]
    exact Int.natCast_nonneg _

theorem insert_ok {user : RegisteredUser} {users' : List RegisteredUser} (h : insert fails user users = .ok users') :
    users' = users ++ [user] := by
  unfold insert at h
  split at h
  · cases h
  · split at h
    · cases h
    · exact (Except.ok.inj h).symm

end Statements

/-! ## The invariant -/

/-- What a call knows at its place about the table. -/
def Checked (users : List RegisteredUser) : RegisterPlace → Prop
  | .waiting _ ip _ | .ipCheck _ ip _ => site.IsText ip
  | .subnetCheck _ ip _ => site.IsText ip ∧ Unused ip users
  | .existsCheck _ ip _ | .inviterCheck _ ip _ | .insert _ ip _ _ =>
    site.IsText ip ∧ Unused ip users ∧ (site.subnetLimitEnable → 0 < site.subnetLimitMaxAccounts)
  | _ => True

/-- The accounts that were created since `before` have different addresses. -/
structure Created (before users : List RegisteredUser) : Prop where
  grows : before <+: users
  nodup : ((users.drop before.length).map (·.registerIP)).Nodup
  text : ∀ u ∈ users.drop before.length, site.IsText u.registerIP
  limit : users.drop before.length ≠ [] → site.subnetLimitEnable → 0 < site.subnetLimitMaxAccounts

structure Inv {ι : Type} (before : List RegisteredUser) (c : Sys ι RegisterState RegisterPlace) : Prop where
  locks : c.shared.registrationLocks.Ok fun i => (c.procs i).phase
  checked : ∀ i, site.Checked c.shared.users (c.procs i)
  created : site.Created before c.shared.users

section Step

variable {site} {ι : Type} [DecidableEq ι] {place : RegisterPlace} {fails : Option String} {s : RegisterState}
  {users : List RegisteredUser} {u : RegisteredUser}

/-- What a statement of process `i` does: the locks follow the places, the call knows at its next place what it has checked,
and only the insert changes the table. -/
structure Advances (phase : ι → Phase String) (i : ι) (place : RegisterPlace) (s : RegisterState)
    (after : RegisterPlace × RegisterState) : Prop where
  locks : after.2.registrationLocks.Ok (update phase i after.1.phase)
  checked : site.Checked after.2.users after.1
  users : after.2.users = s.users ∨ ∃ r ip e safeInviterID, place = .insert r ip e safeInviterID ∧
    after.2.users = s.users ++ [newUser r ip safeInviterID s.users]

theorem prog_advances (fails : Option String) {phase : ι → Phase String} {i : ι} (h : s.registrationLocks.Ok phase) (hi : phase i = place.phase)
    (hc : site.Checked s.users place) : site.Advances phase i place s (site.prog place fails s) := by
  -- a place with the same phase, and nothing else changes
  have hstay : ∀ {p : RegisterPlace}, p.phase = place.phase → site.Checked s.users p →
      site.Advances phase i place s (p, s) := by
    intro p hp hchecked
    refine ⟨?_, hchecked, .inl rfl⟩
    rw [hp, ← hi, update_eq_self]
    exact h
  cases place with
  | start r =>
    rw [prog]
    split
    · exact hstay rfl trivial
    · rename_i ip hip
      exact ⟨h.retain hi ip, normalizeRegistrationIP_text hip, .inl rfl⟩
  | waiting r ip e =>
    rw [prog]
    split
    · exact hstay rfl hc
    · rename_i hfree
      exact ⟨h.lock hi (Bool.eq_false_iff.2 hfree), hc, .inl rfl⟩
  | ipCheck r ip e =>
    rw [prog]
    split
    · exact hstay rfl trivial
    · exact hstay rfl trivial
    · rename_i hused
      have hunused := unused_of_isRegisterIPUsed hc hused
      split
      · exact hstay rfl ⟨hc, hunused⟩
      · rename_i hoff
        exact hstay rfl ⟨hc, hunused, fun hon => absurd hon hoff⟩
  | subnetCheck r ip e =>
    rw [prog]
    split
    · exact hstay rfl trivial
    · rename_i count hcount
      split
      · exact hstay rfl trivial
      · have hnonneg := countRegisteredAccountsInNetwork_nonneg hcount
        exact hstay rfl ⟨hc.1, hc.2, fun _ => by omega⟩
  | existsCheck r ip e =>
    rw [prog]
    split
    · exact hstay rfl trivial
    · exact hstay rfl trivial
    · exact hstay rfl hc
  | inviterCheck r ip e =>
    rw [prog]
    split
    · exact hstay rfl trivial
    · exact hstay rfl hc
  | insert r ip e safeInviterID =>
    rw [prog]
    split
    · exact hstay rfl trivial
    · rename_i users hok
      have hsame := (hstay (p := .unlock ip e (.ok ())) rfl trivial).locks
      exact ⟨hsame, trivial, .inr ⟨r, ip, e, safeInviterID, rfl, insert_ok hok⟩⟩
  | unlock ip e result => exact ⟨h.unlock hi, trivial, .inl rfl⟩
  | release ip e result => exact ⟨h.release hi, trivial, .inl rfl⟩
  | done result => exact hstay rfl trivial

/-- An account with another address takes nothing from what a call knows. -/
theorem Checked.append (h : site.Checked users place)
    (hne : ∀ e, place.phase ≠ .inside u.registerIP e) : site.Checked (users ++ [u]) place := by
  have hunused : ∀ {ip}, Unused ip users → u.registerIP ≠ ip → Unused ip (users ++ [u]) := by
    intro ip hip hu v hv
    rcases mem_append.1 hv with hv | hv
    · exact hip v hv
    · rw [mem_singleton.1 hv]
      exact hu
  have hother : ∀ {ip e}, place.phase = .inside ip e → u.registerIP ≠ ip := by
    rintro ip e hp rfl
    exact hne e hp
  cases place with
  | subnetCheck r ip e => exact ⟨h.1, hunused h.2 (hother rfl)⟩
  | existsCheck r ip e | inviterCheck r ip e | insert r ip e safeInviterID =>
    exact ⟨h.1, hunused h.2.1 (hother rfl), h.2.2⟩
  | start r | unlock ip e result | release ip e result | done result => trivial
  | waiting r ip e => exact h
  | ipCheck r ip e => exact h

theorem Created.append {before : List RegisteredUser} (h : site.Created before users)
    (hunused : Unused u.registerIP users) (htext : site.IsText u.registerIP)
    (hlimit : site.subnetLimitEnable → 0 < site.subnetLimitMaxAccounts) : site.Created before (users ++ [u]) := by
  have hdrop : (users ++ [u]).drop before.length = users.drop before.length ++ [u] :=
    drop_append_of_le_length h.grows.length_le
  refine ⟨h.grows.trans (prefix_append _ _), ?_, ?_, fun _ => hlimit⟩
  · rw [hdrop, map_append, nodup_append]
    refine ⟨h.nodup, by simp, ?_⟩
    intro x hx y hy
    obtain ⟨v, hv, rfl⟩ := mem_map.1 hx
    rw [map_singleton, mem_singleton] at hy
    rw [hy]
    exact hunused v (mem_of_mem_drop hv)
  · intro v hv
    rw [hdrop] at hv
    rcases mem_append.1 hv with hv | hv
    · exact h.text v hv
    · rw [mem_singleton.1 hv]
      exact htext

variable {before : List RegisteredUser} {c : Sys ι RegisterState RegisterPlace} {a : ι × Option String}

/-- **A statement keeps the invariant.** -/
theorem inv_step (h : site.Inv before c) : site.Inv before (Sys.step site.prog c a) := by
  have hadv := prog_advances a.2 h.locks rfl (h.checked a.1)
  have hlocks : (Sys.step site.prog c a).shared.registrationLocks.Ok
      fun i => ((Sys.step site.prog c a).procs i).phase := by
    rw [Sys.step_map_procs]
    exact hadv.locks
  have hchecked := Sys.step_asserts (c := c) (A := fun _ p (s : RegisterState) => site.Checked s.users p) hadv.checked
  rcases hadv.users with hsame | ⟨r, ip, e, safeInviterID, hplace, hnew⟩
  · refine ⟨hlocks, hchecked fun j _ => ?_, ?_⟩
    · rw [hsame]
      exact h.checked j
    · rw [Sys.step_shared, hsame]
      exact h.created
  · have hme := h.checked a.1
    rw [hplace] at hme
    obtain ⟨htext, hunused, hlimit⟩ := hme
    refine ⟨hlocks, hchecked fun j hj => ?_, ?_⟩
    · rw [hnew]
      refine (h.checked j).append fun e' hj' => hj ?_
      -- two calls with one address are not inside together
      have hi : (c.procs a.1).phase = .inside ip e := by rw [hplace]; rfl
      exact h.locks.exclusive hj' hi
    · rw [Sys.step_shared, hnew]
      exact h.created.append hunused htext hlimit

omit [DecidableEq ι] in
theorem inv_start (calls : ι → Registration) (users : List RegisteredUser) : site.Inv users (start calls users) where
  locks := LockMap.ok_empty
  checked _ := trivial
  created := by
    refine ⟨prefix_refl _, ?_, ?_, ?_⟩ <;> simp [start]

end Step

/-! ## Both limits -/

section Limits

variable {site} {before users : List RegisteredUser}

/-- **An address gets at most one account.** -/
theorem one_account_per_address (h : site.Created before users) (ip : String) :
    (users.drop before.length).countP (·.registerIP = ip) ≤ 1 := by
  have hcount := nodup_iff_count_le_one.1 h.nodup ip
  rwa [count_eq_countP, countP_map] at hcount

theorem ipv4Network_eq_some {ip : IP} {network : Nat} :
    ipv4Network ip = some network ↔ ip.toNat / 2 ^ 32 = 0xffff ∧ ip.toNat % 2 ^ 32 / 256 = network := by
  unfold ipv4Network IP.to4
  split
  · rename_i h
    rw [Option.map_some, Option.some.injEq]
    exact (and_iff_right h).symm
  · rename_i h
    exact ⟨nofun, fun h' => absurd h'.1 h⟩

def lastByte (ip : String) : Fin 256 := Fin.ofNat 256 (((site.parseIP ip).map BitVec.toNat).getD 0)

/-- A /24 network has 256 addresses. -/
theorem network_accounts_le (h : site.Created before users) (network : Nat) :
    (users.drop before.length).countP (site.inNetwork network) ≤ 256 := by
  rw [countP_eq_length_filter, ← length_map (f := fun u => u.registerIP)]
  generalize hl : ((users.drop before.length).filter (site.inNetwork network)).map (fun u => u.registerIP) = ips
  have hnodup : ips.Nodup := by
    rw [← hl]
    exact (filter_sublist.map _).nodup h.nodup
  have haddr : ∀ ip ∈ ips, ∃ a, ip = site.text a ∧ ipv4Network a = some network := by
    intro ip hip
    rw [← hl] at hip
    obtain ⟨u, hu, rfl⟩ := mem_map.1 hip
    obtain ⟨hu, hin⟩ := mem_filter.1 hu
    obtain ⟨a, ha⟩ := h.text u hu
    refine ⟨a, ha, ?_⟩
    simpa [inNetwork, ha, site.parse_text] using hin
  have hbytes : (ips.map site.lastByte).Nodup := by
    refine hnodup.map_on fun x hx y hy hxy => ?_
    obtain ⟨a, rfl, ha⟩ := haddr x hx
    obtain ⟨b, rfl, hb⟩ := haddr y hy
    -- network and last byte are all of an IPv4 address
    obtain ⟨ha, ha'⟩ := ipv4Network_eq_some.1 ha
    obtain ⟨hb, hb'⟩ := ipv4Network_eq_some.1 hb
    have hmod : a.toNat % 256 = b.toNat % 256 := by
      have := congrArg Fin.val hxy
      simpa [lastByte, site.parse_text] using this
    have hab : a = b := BitVec.eq_of_toNat_eq (by omega)
    rw [hab]
  simpa using hbytes.length_le_card

end Limits

/-! ## All count before one inserts -/

section Race

def hostAddress (k : Nat) : IP := BitVec.ofNat 128 (0xffff * 2 ^ 32 + 10 * 2 ^ 24 + k)

theorem hostAddress_toNat {k : Nat} (hk : k < 256) : (hostAddress k).toNat = 0xffff * 2 ^ 32 + 10 * 2 ^ 24 + k := by
  exact Nat.mod_eq_of_lt (by omega)

theorem ipv4Network_hostAddress {k : Nat} (hk : k < 256) : ipv4Network (hostAddress k) = some (10 * 2 ^ 16) := by
  rw [ipv4Network_eq_some, hostAddress_toNat hk]
  omega

def visitor (k : Nat) : Registration := ⟨k.repr, "", site.text (hostAddress k), 0⟩

variable {site} [DecidableEq ι] {c : Sys ι RegisterState RegisterPlace} {i : ι}

theorem countRegisteredAccountsInNetwork_nil (a : IP) :
    site.countRegisteredAccountsInNetwork none (site.text a) [] = .ok 0 := by
  unfold countRegisteredAccountsInNetwork
  split
  · rw [isRegisterIPUsed_text]
    rfl
  · rfl

theorem insert_new {user : RegisteredUser} {users : List RegisteredUser}
    (h : ∀ u ∈ users, u.username ≠ user.username) : insert none user users = .ok (users ++ [user]) := by
  have hany : users.any (fun u => u.username = user.username) = false := by
    rw [any_eq_false]
    intro u hu
    simpa using h u hu
  simp only [insert, hany, Bool.false_eq_true, if_false]

/-- **The checks of a call** that nobody interrupts, on an empty table. -/
theorem run_checks (henable : site.subnetLimitEnable) (hmax : 0 < site.subnetLimitMaxAccounts) {k : Nat}
    (hplace : c.procs i = .start (site.visitor k)) (husers : c.shared.users = [])
    (hfree : c.shared.registrationLocks.table (site.text (hostAddress k)) = none) :
    ∃ locks e, run (Sys.step site.prog) c (replicate 6 (i, none)) =
        ⟨⟨[], locks⟩, update c.procs i (.insert (site.visitor k) (site.text (hostAddress k)) e 0)⟩ ∧
      ∀ ip, ip ≠ site.text (hostAddress k) → locks.table ip = c.shared.registrationLocks.table ip := by
  generalize hip : site.text (hostAddress k) = ip at hfree ⊢
  generalize hlocks : c.shared.registrationLocks = locks at hfree ⊢
  have hretain : locks.retain ip = (locks.next, ⟨update locks.table ip (some locks.next),
      update locks.entries locks.next ⟨false, 1⟩, locks.next + 1⟩) := by
    rw [LockMap.retain, hfree]
  have hsolo : Sys.solo site.prog (.start (site.visitor k)) c.shared (replicate 6 none) =
      (.insert (site.visitor k) ip locks.next 0, ⟨[], (locks.retain ip).2.setLocked locks.next true⟩) := by
    rw [← hip]
    rw [← hip] at hretain
    simp [Sys.solo, prog, visitor, normalizeRegistrationIP_of_text, hlocks, hretain, isRegisterIPUsed_text, query, husers,
      henable, countRegisteredAccountsInNetwork_nil, checkUserExistOrDeleted, safeInviter, not_le.2 hmax]
  refine ⟨(locks.retain ip).2.setLocked locks.next true, locks.next, ?_, fun ip' hne => ?_⟩
  · rw [show replicate 6 (i, (none : Option String)) = (replicate 6 none).map fun a => (i, a) by simp,
      Sys.run_solo, hplace, hsolo]
  · rw [hretain]
    exact update_of_ne hne _ _

variable {n : Nat} {c : Sys (Fin n) RegisterState RegisterPlace}

theorem text_hostAddress_ne (hn : n ≤ 256) {k k' : Fin n} (hne : k ≠ k') :
    site.text (hostAddress k) ≠ site.text (hostAddress k') := by
  intro h
  have haddr := congrArg BitVec.toNat (site.text_injective h)
  rw [hostAddress_toNat (by omega), hostAddress_toNat (by omega)] at haddr
  exact hne (Fin.ext (by omega))

theorem run_all_checks (henable : site.subnetLimitEnable) (hmax : 0 < site.subnetLimitMaxAccounts) (hn : n ≤ 256)
    (ks : List (Fin n)) (hks : ks.Nodup) (hstart : ∀ k ∈ ks, c.procs k = .start (site.visitor k))
    (husers : c.shared.users = [])
    (hfree : ∀ k ∈ ks, c.shared.registrationLocks.table (site.text (hostAddress k)) = none) :
    let c' := run (Sys.step site.prog) c (ks.flatMap fun k => replicate 6 (k, none))
    c'.shared.users = [] ∧
      (∀ k ∈ ks, ∃ e, c'.procs k = .insert (site.visitor k) (site.text (hostAddress k)) e 0) ∧
      ∀ j, j ∉ ks → c'.procs j = c.procs j := by
  induction ks generalizing c with
  | nil => exact ⟨husers, nofun, fun _ _ => rfl⟩
  | cons k ks ih =>
    obtain ⟨hk, hks⟩ := nodup_cons.1 hks
    obtain ⟨locks, e, hrun, htable⟩ := run_checks henable hmax (hstart k mem_cons_self) husers
      (hfree k mem_cons_self)
    have hne : ∀ k' ∈ ks, k' ≠ k := fun k' hk' h => hk (h ▸ hk')
    rw [flatMap_cons, run_append, hrun]
    obtain ⟨husers', hplaces, hothers⟩ := ih
      (c := ⟨⟨[], locks⟩, update c.procs k (.insert (site.visitor k) (site.text (hostAddress k)) e 0)⟩) hks
      (fun k' hk' => (update_of_ne (hne k' hk') _ _).trans (hstart k' (mem_cons_of_mem _ hk'))) rfl
      (fun k' hk' => (htable _ (text_hostAddress_ne hn (hne k' hk'))).trans (hfree k' (mem_cons_of_mem _ hk')))
    refine ⟨husers', fun k' hk' => ?_, fun j hj => ?_⟩
    · rcases mem_cons.1 hk' with rfl | hk'
      · exact ⟨e, (hothers k' hk).trans (update_self ..)⟩
      · exact hplaces k' hk'
    · rw [mem_cons, not_or] at hj
      exact (hothers j hj.2).trans (update_of_ne hj.1 _ _)

theorem run_all_inserts (hn : n ≤ 256) (ks : List (Fin n)) (hks : ks.Nodup)
    (hplaces : ∀ k ∈ ks, ∃ e, c.procs k = .insert (site.visitor k) (site.text (hostAddress k)) e 0)
    (hnames : ∀ u ∈ c.shared.users, ∀ k ∈ ks, u.username ≠ k.val.repr) :
    (run (Sys.step site.prog) c (ks.map fun k => (k, none))).shared.users.countP (site.inNetwork (10 * 2 ^ 16)) =
      c.shared.users.countP (site.inNetwork (10 * 2 ^ 16)) + ks.length := by
  induction ks generalizing c with
  | nil => rfl
  | cons k ks ih =>
    obtain ⟨hk, hks⟩ := nodup_cons.1 hks
    obtain ⟨e, hplace⟩ := hplaces k mem_cons_self
    have hfree : ∀ u ∈ c.shared.users, u.username ≠ (site.visitor k).username :=
      fun u hu => hnames u hu k mem_cons_self
    have hstep : (Sys.step site.prog c (k, none)).shared.users =
        c.shared.users ++ [newUser (site.visitor k) (site.text (hostAddress k)) 0 c.shared.users] := by
      rw [Sys.step_shared, hplace, prog, insert_new hfree]
    have hin : site.inNetwork (10 * 2 ^ 16) (newUser (site.visitor k) (site.text (hostAddress k)) 0 c.shared.users) =
        true := by
      simp [inNetwork, newUser, site.parse_text, ipv4Network_hostAddress (show k.val < 256 by omega)]
    rw [map_cons, run_cons, ih hks, hstep, countP_append, countP_singleton, hin, length_cons]
    · simp only [if_true]
      omega
    · intro k' hk'
      obtain ⟨e', he'⟩ := hplaces k' (mem_cons_of_mem _ hk')
      have hne : k' ≠ k := fun h => hk (h ▸ hk')
      exact ⟨e', (Sys.step_procs_ne hne).trans he'⟩
    · intro u hu k' hk'
      rw [hstep, mem_append, mem_singleton] at hu
      rcases hu with hu | rfl
      · exact hnames u hu k' (mem_cons_of_mem _ hk')
      · intro hname
        have : k.val = k'.val := nat_repr_injective hname
        exact hk (Fin.ext this ▸ hk')

def checksThenInserts (n : Nat) : List (Fin n × Option String) :=
  ((finRange n).flatMap fun k => replicate 6 (k, none)) ++ (finRange n).map fun k => (k, none)

/-- **More accounts than the limit**: all visitors of a network count before one inserts. -/
theorem subnet_race (henable : site.subnetLimitEnable) (hmax : 0 < site.subnetLimitMaxAccounts) (hn : n ≤ 256) :
    (site.created (fun k : Fin n => site.visitor k) [] (checksThenInserts n)).countP (site.inNetwork (10 * 2 ^ 16)) =
      n := by
  obtain ⟨husers, hplaces, -⟩ := run_all_checks (c := start (fun k : Fin n => site.visitor k) []) henable hmax hn
    (finRange n) (nodup_finRange n) (fun _ _ => rfl) rfl (fun _ _ => rfl)
  have hinserts := run_all_inserts hn (finRange n) (nodup_finRange n) hplaces
    (by rw [husers]; exact nofun)
  rw [husers] at hinserts
  rw [created, length_nil, drop_zero, checksThenInserts, run_append, hinserts]
  simp

end Race

/-- **With the subnet limit enabled, both limits hold under every interleaving if and only if** the limit admits all 256
addresses of a /24 network, or no account at all. -/
theorem registration_limits_iff (text : IPText) (subnetLimitMaxAccounts : Int) :
    (∀ (n : Nat) (calls : Fin n → Registration) (users : List RegisteredUser) (actions : List (Fin n × Option String)),
      (∀ ip, ((RegisterSite.mk text true subnetLimitMaxAccounts).created calls users actions).countP
        (·.registerIP = ip) ≤ 1) ∧
      ∀ network, (((RegisterSite.mk text true subnetLimitMaxAccounts).created calls users actions).countP
        ((RegisterSite.mk text true subnetLimitMaxAccounts).inNetwork network) : Int) ≤ subnetLimitMaxAccounts) ↔
      subnetLimitMaxAccounts = 0 ∨ 256 ≤ subnetLimitMaxAccounts := by
  generalize hsite : RegisterSite.mk text true subnetLimitMaxAccounts = site
  have hmax : site.subnetLimitMaxAccounts = subnetLimitMaxAccounts := by rw [← hsite]
  have henable : site.subnetLimitEnable := by rw [← hsite]
  constructor
  · intro h
    -- no calls: the limit is not negative
    have hnonneg : 0 ≤ subnetLimitMaxAccounts := by
      have := (h 0 nofun [] []).2 0
      omega
    by_contra hneither
    have hpos : 0 < site.subnetLimitMaxAccounts := by omega
    have hrace := subnet_race (n := subnetLimitMaxAccounts.toNat + 1) henable hpos (by omega)
    have hlimit := (h (subnetLimitMaxAccounts.toNat + 1) (fun k => site.visitor k) [] (checksThenInserts _)).2
      (10 * 2 ^ 16)
    omega
  · intro hcond n calls users actions
    have hstart : site.Inv users (start calls users) := inv_start calls users
    have hcreated : site.Created users (run (Sys.step site.prog) (start calls users) actions).shared.users :=
      (run_inv (fun _ _ h => inv_step h) actions hstart).created
    refine ⟨one_account_per_address hcreated, fun network => ?_⟩
    rcases hcond with hzero | hlarge
    · -- nothing is created at all
      have hnone : site.created calls users actions = [] := by
        by_contra hne
        have := hcreated.limit hne henable
        omega
      rw [hnone]
      simp [hzero]
    · have := network_accounts_le hcreated network
      unfold created
      omega

/-- Addresses written as numbers. -/
def numberText : IPText where
  parseIP s := if s = "" then none else some (BitVec.ofNat 128 (Nat.ofDigitChars 10 s.toList 0))
  text ip := ip.toNat.repr
  parse_text ip := by
    have hne : ip.toNat.repr ≠ "" := by
      intro h
      have hlist := congrArg String.toList h
      rw [Nat.repr_eq_ofList_toDigits, String.toList_ofList] at hlist
      exact Nat.toDigits_ne_nil hlist
    rw [if_neg hne]
    simp [Nat.repr_eq_ofList_toDigits]
  parse_empty := if_pos rfl
  trim_text _ := trimSpace_eq_self fun _ hc => isSpace_of_isDigit (isDigit_of_mem_repr hc)

/-- With the default limit of 3, four visitors of one network get four accounts, however addresses are written. -/
theorem subnet_limit_exceeded :
    Nonempty IPText ∧ ∀ text : IPText,
      3 < (((RegisterSite.mk text true 3).created (fun k : Fin 4 => (RegisterSite.mk text true 3).visitor k) []
        (checksThenInserts 4)).countP ((RegisterSite.mk text true 3).inNetwork (10 * 2 ^ 16)) : Int) := by
  refine ⟨⟨numberText⟩, fun text => ?_⟩
  rw [subnet_race rfl (by decide : (0 : Int) < 3) (by decide)]
  decide

end RegisterSite

end SynthApi
