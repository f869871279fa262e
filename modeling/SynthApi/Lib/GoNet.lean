import SynthApi.Lib.Go

/-!
# Hosts and addresses of Go's `net` and `net/url`

* `splitHostPort` is `net.SplitHostPort`, `urlHostname` is `URL.Hostname`: both cut the port off a host. They agree where
  the first succeeds with a port of digits (`urlHostname_of_splitHostPort`).
* An `IP` is an address in its 16 byte form, in which an IPv4 address is mapped to `::ffff:a.b.c.d` (`IP.to4`). The
  classes of addresses are those of `net.IP`, and `IPNet.contains` is `IPNet.Contains`.
-/

namespace Lib.Go

/-! ## Numbers -/

/-- A number of decimal digits. -/
def parseDigits (ds : List Char) : Option Nat :=
  if ds ≠ [] ∧ ds.all Char.isDigit then some (Nat.ofDigitChars 10 ds 0) else none

def atoi (s : List Char) : Option Int :=
  let value : Option Int :=
    match s with
    | '-' :: ds => (parseDigits ds).map fun n => -(n : Int)
    | '+' :: ds => (parseDigits ds).map fun n => (n : Int)
    | ds => (parseDigits ds).map fun n => (n : Int)
  value.filter fun n => -2 ^ 63 ≤ n ∧ n < 2 ^ 63

/-! ## Hosts -/

def cutFirst (c : Char) : List Char → Option (List Char × List Char)
  | [] => none
  | x :: s => if x = c then some ([], s) else (cutFirst c s).map fun p => (x :: p.1, p.2)

def cutLast (c : Char) (s : List Char) : Option (List Char × List Char) :=
  (cutFirst c s.reverse).map fun p => (p.2.reverse, p.1.reverse)

/-- `net.SplitHostPort`: host and port, none for an error. -/
def splitHostPort (hostport : List Char) : Option (List Char × List Char) :=
  match cutLast ':' hostport with
  | none => none
  | some (before, port) =>
    if hostport.head? = some '[' then
      match cutFirst ']' hostport with
      | none => none
      | some (inner, _) =>
        -- the first bracket has to stand just before the last colon
        if before = inner ++ [']'] ∧ '[' ∉ hostport.tail ∧ ']' ∉ port then some (inner.tail, port) else none
    else if ':' ∈ before ∨ '[' ∈ hostport ∨ ']' ∈ hostport then none
    else some (before, port)

/-- The host without its port, if what follows the last colon is a port. -/
def stripPort (host : List Char) : List Char :=
  match cutLast ':' host with
  | some (before, port) => if port.all Char.isDigit then before else host
  | none => host

def urlHostname (host : List Char) : List Char :=
  let host := stripPort host
  if host.head? = some '[' ∧ host.getLast? = some ']' then host.tail.dropLast else host

variable {c : Char} {s before after host : List Char}

theorem cutFirst_eq_some (h : cutFirst c s = some (before, after)) :
    s = before ++ c :: after := by
  induction s generalizing before with
  | nil => cases h
  | cons x s ih =>
    unfold cutFirst at h
    split at h
    · next hx =>
      obtain ⟨rfl, rfl⟩ : [] = before ∧ s = after := by simpa using h
      rw [hx]
      rfl
    · obtain ⟨⟨before', after'⟩, hs, hp⟩ := Option.map_eq_some_iff.1 h
      obtain ⟨rfl, rfl⟩ : x :: before' = before ∧ after' = after := by simpa using hp
      rw [ih hs]
      rfl

theorem cutLast_eq_some (h : cutLast c s = some (before, after)) :
    s = before ++ c :: after := by
  obtain ⟨⟨p, q⟩, hs, hp⟩ := Option.map_eq_some_iff.1 h
  obtain ⟨rfl, rfl⟩ : q.reverse = before ∧ p.reverse = after := by simpa using hp
  have := congrArg List.reverse (cutFirst_eq_some hs)
  simpa using this

theorem urlHostname_of_bracket {inner : List Char} (h : stripPort host = inner ++ [']'])
    (hinner : inner.head? = some '[') : urlHostname host = inner.tail := by
  cases inner with
  | nil => cases hinner
  | cons x tail =>
    have hx : x = '[' := by simpa using hinner
    rw [urlHostname, h, if_pos ⟨by simp [hx], List.getLast?_concat ..⟩]
    simp

/-- `net.SplitHostPort` and `URL.Hostname` have the same host. -/
theorem urlHostname_of_splitHostPort {hostport port : List Char} (h : splitHostPort hostport = some (host, port))
    (hport : port.all Char.isDigit) : urlHostname hostport = host := by
  unfold splitHostPort at h
  split at h
  · cases h
  · next before port' hcut =>
    have hstrip : port' = port → stripPort hostport = before := by
      rintro rfl
      rw [stripPort, hcut]
      simp [hport]
    split at h
    · next hhead =>
      split at h
      · cases h
      · next inner rest hfirst =>
        split at h
        · next hcond =>
          obtain ⟨rfl, hp⟩ : inner.tail = host ∧ port' = port := by simpa using h
          refine urlHostname_of_bracket ((hstrip hp).trans hcond.1) ?_
          -- the text begins with what stands before the first `]`
          cases inner with
          | nil =>
            rw [cutFirst_eq_some hfirst] at hhead
            cases hhead
          | cons x inner =>
            rw [cutFirst_eq_some hfirst] at hhead
            exact hhead
        · cases h
    · split at h
      · cases h
      · next hcond =>
        obtain ⟨rfl, hp⟩ : before = host ∧ port' = port := by simpa using h
        rw [urlHostname, hstrip hp, if_neg]
        -- there is no bracket in the text at all
        rintro ⟨hbracket, -⟩
        refine hcond (.inr (.inl ?_))
        rw [cutLast_eq_some hcut]
        exact List.mem_append_left _ (List.mem_of_head? hbracket)

/-! ## Addresses -/

/-- An address in its 16 byte form. -/
abbrev IP := BitVec 128

namespace IP

/-- `To4`: the IPv4 address that is mapped to this address. -/
def to4 (ip : IP) : Option (BitVec 32) := if ip.toNat / 2 ^ 32 = 0xffff then some (ip.setWidth 32) else none

def isUnspecified (ip : IP) : Bool := ip.to4 = some 0 || ip = 0

def isLoopback (ip : IP) : Bool :=
  match ip.to4 with
  | some v4 => v4.toNat / 2 ^ 24 = 127
  | none => ip = 1

def isLinkLocalUnicast (ip : IP) : Bool :=
  match ip.to4 with
  | some v4 => v4.toNat / 2 ^ 16 = 169 * 2 ^ 8 + 254
  | none => ip.toNat / 2 ^ 118 = 0xfe80 / 2 ^ 6

def isLinkLocalMulticast (ip : IP) : Bool :=
  match ip.to4 with
  | some v4 => v4.toNat / 2 ^ 8 = 224 * 2 ^ 16
  | none => ip.toNat / 2 ^ 120 = 0xff && ip.toNat / 2 ^ 112 % 2 ^ 4 = 2

def isInterfaceLocalMulticast (ip : IP) : Bool := ip.toNat / 2 ^ 120 = 0xff && ip.toNat / 2 ^ 112 % 2 ^ 4 = 1

def isPrivate (ip : IP) : Bool :=
  match ip.to4 with
  | some v4 => v4.toNat / 2 ^ 24 = 10 || v4.toNat / 2 ^ 20 = 172 * 2 ^ 4 + 1 || v4.toNat / 2 ^ 16 = 192 * 2 ^ 8 + 168
  | none => ip.toNat / 2 ^ 121 = 0xfc / 2

end IP

/-- A network of IPv4 or of IPv6 addresses, by its first address and the length of its mask. -/
inductive IPNet where
  | v4 (first : BitVec 32) (ones : Nat)
  | v6 (first : BitVec 128) (ones : Nat)
  deriving DecidableEq, Repr

/-- `IPNet.Contains`: a network of IPv6 addresses contains no mapped address. -/
def IPNet.contains (net : IPNet) (ip : IP) : Bool :=
  match net, ip.to4 with
  | .v4 first ones, some a => a.toNat / 2 ^ (32 - ones) = first.toNat / 2 ^ (32 - ones)
  | .v6 first ones, none => ip.toNat / 2 ^ (128 - ones) = first.toNat / 2 ^ (128 - ones)
  | _, _ => false

/-! ### Networks as ranges of numbers -/

/-- The number of an address: of the IPv4 address if it is mapped. -/
def IP.value (ip : IP) : Nat :=
  match ip.to4 with
  | some a => a.toNat
  | none => ip.toNat

namespace IPNet

def isV4 : IPNet → Bool
  | .v4 .. => true
  | .v6 .. => false

/-- The numbers of the first and the last address. -/
def range : IPNet → Nat × Nat
  | .v4 first ones => (first.toNat, first.toNat + 2 ^ (32 - ones) - 1)
  | .v6 first ones => (first.toNat, first.toNat + 2 ^ (128 - ones) - 1)

/-- The first address has no bits that the mask does not cover. -/
def Aligned : IPNet → Prop
  | .v4 first ones => 2 ^ (32 - ones) ∣ first.toNat
  | .v6 first ones => 2 ^ (128 - ones) ∣ first.toNat

instance : DecidablePred Aligned
  | .v4 .. => inferInstanceAs (Decidable (_ ∣ _))
  | .v6 .. => inferInstanceAs (Decidable (_ ∣ _))

theorem div_eq_div_iff_range {a b k : Nat} (hk : 0 < k) (h : k ∣ b) : a / k = b / k ↔ b ≤ a ∧ a ≤ b + k - 1 := by
  obtain ⟨c, rfl⟩ := h
  rw [Nat.mul_div_cancel_left _ hk, Nat.div_eq_iff hk, Nat.mul_comm]

/-- **A network contains the addresses of its kind in its range.** -/
theorem contains_iff {net : IPNet} (h : net.Aligned) (ip : IP) :
    net.contains ip ↔ net.isV4 = ip.to4.isSome ∧ net.range.1 ≤ ip.value ∧ ip.value ≤ net.range.2 := by
  cases net with
  | v4 first ones =>
    cases hip : ip.to4 with
    | some a => simpa [contains, isV4, range, IP.value, hip] using div_eq_div_iff_range (Nat.two_pow_pos _) h
    | none => simp [contains, isV4, hip]
  | v6 first ones =>
    cases hip : ip.to4 with
    | some a => simp [contains, isV4, hip]
    | none => simpa [contains, isV4, range, IP.value, hip] using div_eq_div_iff_range (Nat.two_pow_pos _) h

end IPNet

end Lib.Go
