import SynthApi.Lib.GoNet

/-!
# Protection against requests to private addresses

`SSRFProtection.ValidateURL` (`common/ssrf_protection.go`) decides whether the server may fetch a URL. A host that
`net.ParseIP` reads is checked as an address: those of two tables are rejected unless private addresses are allowed
(`isPrivateIP_iff`). Any other host is checked as a domain, and only if the filter says so are the addresses of the domain
checked as well.

`net.ParseIP` does not read a literal with a zone, although such a literal denotes an address; `NetLib` has both readings.
Nor are the tables all that is `Reserved`.
-/

namespace SynthApi

open Lib Lib.Go

/-! ## Private and reserved addresses -/

/-- `net.IPv4(a, b, c, d)` with `net.CIDRMask(ones, 32)`. -/
def ipv4Net (a b c d : Nat) (ones : Nat) : IPNet := .v4 (BitVec.ofNat 32 (((a * 256 + b) * 256 + c) * 256 + d)) ones

def privateIPv4Nets : List IPNet :=
  [ipv4Net 0 0 0 0 8, ipv4Net 10 0 0 0 8, ipv4Net 100 64 0 0 10, ipv4Net 127 0 0 0 8, ipv4Net 169 254 0 0 16,
    ipv4Net 172 16 0 0 12, ipv4Net 192 0 0 0 24, ipv4Net 192 0 2 0 24, ipv4Net 192 168 0 0 16, ipv4Net 198 18 0 0 15,
    ipv4Net 198 51 100 0 24, ipv4Net 203 0 113 0 24, ipv4Net 224 0 0 0 4, ipv4Net 240 0 0 0 4,
    ipv4Net 255 255 255 255 32]

/-- An IPv6 network by the first two groups of its first address, with zeros after them. -/
def ipv6Net (g₀ g₁ : Nat) (ones : Nat) : IPNet := .v6 (BitVec.ofNat 128 ((g₀ * 2 ^ 16 + g₁) * 2 ^ 96)) ones

def privateIPv6Nets : List IPNet :=
  [.v6 0 128, .v6 1 128,
    -- `::ffff:0:0/96`: `Contains` reads it as the IPv4 network of all addresses
    ipv4Net 0 0 0 0 0,
    ipv6Net 0x64 0xff9b 96, ipv6Net 0x100 0 64, ipv6Net 0x2001 0 23, ipv6Net 0x2001 0xdb8 32, ipv6Net 0xfc00 0 7,
    ipv6Net 0xfe80 0 10, ipv6Net 0xff00 0 8]

/-- `isPrivateIP` of an address that is not nil. -/
def isPrivateIP (ip : IP) : Bool :=
  if ip.isUnspecified then true
  else if ip.isLoopback || ip.isLinkLocalUnicast || ip.isLinkLocalMulticast then true
  else if ip.isInterfaceLocalMulticast then true
  else
    match ip.to4 with
    | some _ => privateIPv4Nets.any (·.contains ip)
    | none => privateIPv6Nets.any (·.contains ip) || ip.isPrivate

/-- The special-purpose blocks of IPv4 addresses, and multicast. -/
def specialIPv4Nets : List IPNet :=
  [ -- this network, private use, shared address space, loopback, link-local, private use
    ipv4Net 0 0 0 0 8, ipv4Net 10 0 0 0 8, ipv4Net 100 64 0 0 10, ipv4Net 127 0 0 0 8, ipv4Net 169 254 0 0 16,
    ipv4Net 172 16 0 0 12,
    -- protocol assignments, documentation, AS112, multicast tunnels, relays of 6to4, private use, AS112
    ipv4Net 192 0 0 0 24, ipv4Net 192 0 2 0 24, ipv4Net 192 31 196 0 24, ipv4Net 192 52 193 0 24, ipv4Net 192 88 99 0 24,
    ipv4Net 192 168 0 0 16, ipv4Net 192 175 48 0 24,
    -- benchmarking, documentation twice, multicast, future use
    ipv4Net 198 18 0 0 15, ipv4Net 198 51 100 0 24, ipv4Net 203 0 113 0 24, ipv4Net 224 0 0 0 4, ipv4Net 240 0 0 0 4]

/-- The special-purpose blocks of global unicast addresses: protocol assignments, documentation, 6to4, AS112, documentation. -/
def specialIPv6Nets : List IPNet :=
  [ipv6Net 0x2001 0 23, ipv6Net 0x2001 0xdb8 32, ipv6Net 0x2002 0 16, .v6 (BitVec.ofNat 128 (0x2620004f8000 * 2 ^ 80)) 48,
    ipv6Net 0x3fff 0 20]

/-- **Reserved addresses.** Of the IPv6 addresses only `2000::/3` is given out as global unicast. -/
def Reserved (ip : IP) : Prop :=
  match ip.to4 with
  | some _ => specialIPv4Nets.any (·.contains ip)
  | none => (ipv6Net 0x2000 0 3).contains ip → specialIPv6Nets.any (·.contains ip)

instance (ip : IP) : Decidable (Reserved ip) := by
  unfold Reserved
  cases ip.to4 <;> infer_instance

/-- The ranges of IPv4 addresses in the first table, as numbers. -/
def tableV4 : List (Nat × Nat) :=
  [ -- this network, private use, shared address space, loopback
    (0x00000000, 0x00ffffff), (0x0a000000, 0x0affffff), (0x64400000, 0x647fffff), (0x7f000000, 0x7fffffff),
    -- link-local, private use, protocol assignments, documentation, private use
    (0xa9fe0000, 0xa9feffff), (0xac100000, 0xac1fffff), (0xc0000000, 0xc00000ff), (0xc0000200, 0xc00002ff),
    (0xc0a80000, 0xc0a8ffff),
    -- benchmarking, documentation, documentation, multicast, reserved, broadcast
    (0xc6120000, 0xc613ffff), (0xc6336400, 0xc63364ff), (0xcb007100, 0xcb0071ff), (0xe0000000, 0xefffffff),
    (0xf0000000, 0xffffffff), (0xffffffff, 0xffffffff)]

/-- Those of IPv6 addresses in the second: unspecified, loopback, translation, discard-only, protocol assignments,
documentation, unique local, link-local, multicast. -/
def tableV6 : List (Nat × Nat) :=
  [(0, 0), (1, 1), (0x0064ff9b * 2 ^ 96, 0x0064ff9b * 2 ^ 96 + 2 ^ 32 - 1), (0x0100 * 2 ^ 112, 0x0100 * 2 ^ 112 + 2 ^ 64 - 1),
    (0x2001 * 2 ^ 112, 0x2001 * 2 ^ 112 + 2 ^ 105 - 1), (0x20010db8 * 2 ^ 96, 0x20010db9 * 2 ^ 96 - 1),
    (0xfc * 2 ^ 120, 0xfe * 2 ^ 120 - 1), (0xfe80 * 2 ^ 112, 0xfec0 * 2 ^ 112 - 1), (0xff * 2 ^ 120, 2 ^ 128 - 1)]

/-- An address in one of these ranges; a mapped address counts as the IPv4 address. -/
def InTables (ip : IP) : Prop :=
  ∃ range ∈ if ip.to4.isSome then tableV4 else tableV6, range.1 ≤ ip.value ∧ ip.value ≤ range.2

theorem privateIPv4Nets_ranges : privateIPv4Nets.map IPNet.range = tableV4 := by decide

theorem privateIPv6Nets_ranges : (privateIPv6Nets.filter (!·.isV4)).map IPNet.range = tableV6 := by decide

theorem privateNets_aligned : ∀ net ∈ privateIPv4Nets ++ privateIPv6Nets, net.Aligned := by decide

/-- The networks of the source are these ranges. -/
theorem any_contains_iff (ip : IP) :
    (if ip.to4.isSome then privateIPv4Nets else privateIPv6Nets).any (·.contains ip) ↔ InTables ip := by
  have hrange : ∀ net ∈ privateIPv4Nets ++ privateIPv6Nets, net.isV4 = ip.to4.isSome →
      (net.contains ip ↔ net.range.1 ≤ ip.value ∧ ip.value ≤ net.range.2) := by
    intro net hnet hkind
    rw [IPNet.contains_iff (privateNets_aligned net hnet), hkind]
    simp
  unfold InTables
  cases h4 : ip.to4.isSome with
  | true =>
    have hall : ∀ net ∈ privateIPv4Nets, net.isV4 := by decide
    simp only [if_true, List.any_eq_true, ← privateIPv4Nets_ranges, List.mem_map, exists_exists_and_eq_and]
    refine exists_congr fun net => and_congr_right fun hnet => ?_
    exact hrange net (List.mem_append_left _ hnet) (by rw [hall net hnet, h4])
  | false =>
    simp only [Bool.false_eq_true, if_false, List.any_eq_true, ← privateIPv6Nets_ranges, List.mem_map, List.mem_filter,
      exists_exists_and_eq_and]
    refine exists_congr fun net => ?_
    rw [and_assoc]
    refine and_congr_right fun hnet => ?_
    have hmem := List.mem_append_right privateIPv4Nets hnet
    rw [IPNet.contains_iff (privateNets_aligned net hmem), h4]
    simp

/-- What `net.IP` calls unspecified, loopback, link-local or private is in one of them. -/
theorem inTables_of_class {ip : IP}
    (h : ip.isUnspecified ∨ ip.isLoopback ∨ ip.isLinkLocalUnicast ∨ ip.isLinkLocalMulticast ∨
      ip.isInterfaceLocalMulticast ∨ ip.to4 = none ∧ ip.isPrivate) : InTables ip := by
  unfold InTables
  have hinterface : ip.isInterfaceLocalMulticast → ip.toNat / 2 ^ 120 = 0xff := by
    simp only [IP.isInterfaceLocalMulticast, Bool.and_eq_true, decide_eq_true_eq]
    exact And.left
  cases h4 : ip.to4 with
  | some v4 =>
    have hvalue : ip.value = v4.toNat := by rw [IP.value, h4]
    have hmapped : ip.toNat / 2 ^ 32 = 0xffff := by
      unfold IP.to4 at h4
      split at h4
      · assumption
      · cases h4
    rw [hvalue, Option.isSome_some]
    rcases h with h | h | h | h | h | h
    · have hzero : v4 = 0 ∨ ip = 0 := by simpa [IP.isUnspecified, h4] using h
      rcases hzero with rfl | rfl
      · exact ⟨(0x00000000, 0x00ffffff), by decide, by decide⟩
      · exact absurd hmapped (by decide)
    · have h127 : v4.toNat / 2 ^ 24 = 127 := by simpa [IP.isLoopback, h4] using h
      exact ⟨(0x7f000000, 0x7fffffff), by decide, by omega, by omega⟩
    · have h169 : v4.toNat / 2 ^ 16 = 169 * 2 ^ 8 + 254 := by simpa [IP.isLinkLocalUnicast, h4] using h
      exact ⟨(0xa9fe0000, 0xa9feffff), by decide, by omega, by omega⟩
    · have h224 : v4.toNat / 2 ^ 8 = 224 * 2 ^ 16 := by simpa [IP.isLinkLocalMulticast, h4] using h
      exact ⟨(0xe0000000, 0xefffffff), by decide, by omega, by omega⟩
    · have hff := hinterface h
      omega
    · rw [h4] at h
      exact absurd h.1 (by simp)
  | none =>
    have hvalue : ip.value = ip.toNat := by rw [IP.value, h4]
    rcases h with h | h | h | h | h | h
    · obtain rfl : ip = 0 := by simpa [IP.isUnspecified, h4] using h
      exact ⟨(0, 0), by decide, by decide⟩
    · obtain rfl : ip = 1 := by simpa [IP.isLoopback, h4] using h
      exact ⟨(1, 1), by decide, by decide⟩
    · have hfe80 : ip.toNat / 2 ^ 118 = 0xfe80 / 2 ^ 6 := by simpa [IP.isLinkLocalUnicast, h4] using h
      exact ⟨(0xfe80 * 2 ^ 112, 0xfec0 * 2 ^ 112 - 1), by decide, by omega, by omega⟩
    · have hff : ip.toNat / 2 ^ 120 = 0xff := by
        simp only [IP.isLinkLocalMulticast, h4, Bool.and_eq_true, decide_eq_true_eq] at h
        exact h.1
      exact ⟨(0xff * 2 ^ 120, 2 ^ 128 - 1), by decide, by omega, by omega⟩
    · have hff := hinterface h
      exact ⟨(0xff * 2 ^ 120, 2 ^ 128 - 1), by decide, by omega, by omega⟩
    · have hfc : ip.toNat / 2 ^ 121 = 0xfc / 2 := by simpa [IP.isPrivate, h4] using h.2
      exact ⟨(0xfc * 2 ^ 120, 0xfe * 2 ^ 120 - 1), by decide, by omega, by omega⟩

/-- **`isPrivateIP` says which addresses are in the tables.** -/
theorem isPrivateIP_iff (ip : IP) : isPrivateIP ip ↔ InTables ip := by
  constructor
  · intro h
    unfold isPrivateIP at h
    split at h
    · next hc => exact inTables_of_class (.inl hc)
    · split at h
      · next hc =>
        simp only [Bool.or_eq_true] at hc
        exact inTables_of_class (.inr (by tauto))
      · split at h
        · next hc => exact inTables_of_class (.inr (.inr (.inr (.inr (.inl hc)))))
        · split at h
          · next h4 =>
            refine (any_contains_iff ip).1 ?_
            rwa [h4]
          · next h4 =>
            rw [Bool.or_eq_true] at h
            rcases h with h | h
            · refine (any_contains_iff ip).1 ?_
              rwa [h4]
            · exact inTables_of_class (.inr (.inr (.inr (.inr (.inr ⟨h4, h⟩)))))
  · intro h
    have hany := (any_contains_iff ip).2 h
    unfold isPrivateIP
    cases h4 : ip.to4 with
    | some v4 =>
      rw [h4, Option.isSome_some, if_pos rfl] at hany
      simp [hany]
    | none =>
      rw [h4, if_neg (by simp)] at hany
      simp [hany]

/-! ## Validation of a URL -/

structure URL where
  scheme : String
  host : String
  deriving DecidableEq, Repr

/-- Parsers and the resolver of `net` and `net/url`. -/
structure NetLib where
  parseURL : String → Except String URL
  /-- `url.Parse` accepts only digits as a port. -/
  port_digits : ∀ {s u host port}, parseURL s = .ok u → splitHostPort u.host.toList = some (host, port) →
    port.all Char.isDigit
  /-- An IP literal with its zone, as the dialer reads it. -/
  parseAddr : String → Option (IP × Option String)
  parseCIDR : String → Option IPNet
  lookupIP : String → Except String (List IP)
  /-- A literal needs no resolver. -/
  lookupIP_literal : ∀ {s ip zone}, parseAddr s = some (ip, zone) → lookupIP s = .ok [ip]
  ipString : IP → String

/-- `net.ParseIP`, which does not read zones. -/
def NetLib.parseIP (net : NetLib) (s : String) : Option IP :=
  match net.parseAddr s with
  | some (ip, none) => some ip
  | _ => none

structure SSRFProtection where
  allowPrivateIp : Bool
  /-- A list of allowed domains, or of forbidden ones. -/
  domainFilterMode : Bool
  domainList : List String
  ipFilterMode : Bool
  ipList : List String
  allowedPorts : List Int
  applyIPFilterForDomain : Bool
  deriving DecidableEq, Repr

def domainMatches (domain item : String) : Bool :=
  let item := toLower (trimSpace item)
  if item = "" then false
  else if domain = item then true
  else if hasPrefix item "*." then
    let last := trimPrefix item "*."
    hasSuffix domain ("." ++ last) || domain = last
  else false

def isDomainListed (domain : String) (list : List String) : Bool :=
  if list = [] then false else list.any (domainMatches (toLower domain))

def isIpInCIDRList (net : NetLib) (ip : IP) (cidrList : List String) : Bool :=
  cidrList.any fun cidr =>
    match net.parseCIDR cidr with
    | some network => network.contains ip
    | none => net.parseIP cidr = some ip

def isIPListed (net : NetLib) (ip : IP) (list : List String) : Bool :=
  if list = [] then false else isIpInCIDRList net ip list

namespace SSRFProtection

variable (p : SSRFProtection) (net : NetLib)

def isAllowedPort (port : Int) : Bool := if p.allowedPorts = [] then true else p.allowedPorts.contains port

def isDomainAllowed (domain : String) : Bool :=
  let listed := isDomainListed domain p.domainList
  if p.domainFilterMode then listed else !listed

def isIPAccessAllowed (ip : IP) : Bool :=
  if isPrivateIP ip && !p.allowPrivateIp then false
  else
    let listed := isIPListed net ip p.ipList
    if p.ipFilterMode then listed else !listed

/-- Host and port of a URL; without a port the one of the scheme. -/
def hostPort (u : URL) : List Char × List Char :=
  match splitHostPort u.host.toList with
  | some hp => hp
  | none => (urlHostname u.host.toList, if u.scheme = "https" then "443".toList else "80".toList)

def checkIP (ip : IP) : Except String Unit :=
  if p.isIPAccessAllowed net ip then .ok ()
  else if isPrivateIP ip then .error ("private IP address not allowed: " ++ net.ipString ip)
  else if p.ipFilterMode then .error ("ip not in whitelist: " ++ net.ipString ip)
  else .error ("ip in blacklist: " ++ net.ipString ip)

def checkResolved (host : String) (ip : IP) : Except String Unit :=
  if p.isIPAccessAllowed net ip then .ok ()
  else if isPrivateIP ip && !p.allowPrivateIp then
    .error ("private IP address not allowed: " ++ host ++ " resolves to " ++ net.ipString ip)
  else if p.ipFilterMode then .error ("ip not in whitelist: " ++ host ++ " resolves to " ++ net.ipString ip)
  else .error ("ip in blacklist: " ++ host ++ " resolves to " ++ net.ipString ip)

def checkDomain (host : String) : Except String Unit :=
  if !p.isDomainAllowed host then
    if p.domainFilterMode then .error ("domain not in whitelist: " ++ host) else .error ("domain in blacklist: " ++ host)
  else if !p.applyIPFilterForDomain then .ok ()
  else
    match net.lookupIP host with
    | .error err => .error ("DNS resolution failed for " ++ host ++ ": " ++ err)
    | .ok ips => ips.forM (p.checkResolved net host)

def validateURL (urlStr : String) : Except String Unit :=
  match net.parseURL urlStr with
  | .error err => .error ("invalid URL format: " ++ err)
  | .ok u =>
    if u.scheme ≠ "http" ∧ u.scheme ≠ "https" then
      .error ("unsupported protocol: " ++ u.scheme ++ " (only http/https allowed)")
    else
      let host := String.ofList (hostPort u).1
      match atoi (hostPort u).2 with
      | none => .error ("invalid port: " ++ String.ofList (hostPort u).2)
      | some port =>
        if !p.isAllowedPort port then .error ("port " ++ toString port ++ " is not allowed")
        else
          match net.parseIP host with
          | some ip => p.checkIP net ip
          | none => p.checkDomain net host

theorem hostPort_fst {urlStr : String} {u : URL} (h : net.parseURL urlStr = .ok u) :
    (hostPort u).1 = urlHostname u.host.toList := by
  unfold hostPort
  cases hsplit : splitHostPort u.host.toList with
  | none => rfl
  | some hp =>
    exact (urlHostname_of_splitHostPort hsplit (net.port_digits h hsplit)).symm

def portAllowed (u : URL) : Bool := (atoi (hostPort u).2).any p.isAllowedPort

variable {p net}

/-- An address is rejected if the tables have it, or by the list of addresses. -/
def addressRejected (p : SSRFProtection) (net : NetLib) (ip : IP) : Prop :=
  InTables ip ∨ isIPListed net ip p.ipList ≠ p.ipFilterMode

theorem isIPAccessAllowed_iff (hp : p.allowPrivateIp = false) (ip : IP) :
    p.isIPAccessAllowed net ip = false ↔ p.addressRejected net ip := by
  unfold isIPAccessAllowed addressRejected
  rw [← isPrivateIP_iff, hp]
  cases isPrivateIP ip <;> cases isIPListed net ip p.ipList <;> cases p.ipFilterMode <;> decide

theorem checkIP_error_iff (hp : p.allowPrivateIp = false) (ip : IP) :
    (∃ err, p.checkIP net ip = .error err) ↔ p.addressRejected net ip := by
  rw [← isIPAccessAllowed_iff hp, checkIP]
  cases p.isIPAccessAllowed net ip with
  | true => simp
  | false => cases isPrivateIP ip <;> cases p.ipFilterMode <;> simp

/-- A literal that is checked as a domain is rejected by the domain filter, or if addresses of domains are checked. -/
theorem checkDomain_literal {host : String} {ip : IP} {zone : Option String} (hp : p.allowPrivateIp = false)
    (hlit : net.parseAddr host = some (ip, zone)) :
    (∃ err, p.checkDomain net host = .error err) ↔
      p.isDomainAllowed host = false ∨ p.applyIPFilterForDomain ∧ p.addressRejected net ip := by
  unfold checkDomain
  cases hdomain : p.isDomainAllowed host with
  | false => cases p.domainFilterMode <;> simp
  | true =>
    cases happly : p.applyIPFilterForDomain with
    | false => simp
    | true =>
      rw [net.lookupIP_literal hlit, ← isIPAccessAllowed_iff hp]
      cases hallowed : p.isIPAccessAllowed net ip with
      | true => simp [checkResolved, hallowed]
      | false => cases hprivate : isPrivateIP ip <;> cases hmode : p.ipFilterMode <;> simp [checkResolved, *]

/-! ### A library for the examples, with one address that is written with and without a zone -/

/-- `64:ff9b:1::a00:1`, a local translation of `10.0.0.1`. -/
def translated : IP := BitVec.ofNat 128 (0x0064ff9b0001 * 2 ^ 80 + 0x0a000001)

def sampleAddr (s : String) : Option (IP × Option String) :=
  if s = "fe80::1%eth0" then some (BitVec.ofNat 128 (0xfe80 * 2 ^ 112 + 1), some "eth0")
  else if s = "fe80::1" then some (BitVec.ofNat 128 (0xfe80 * 2 ^ 112 + 1), none)
  else if s = "64:ff9b:1::a00:1" then some (translated, none)
  else none

def sampleURL (s : String) : Except String URL :=
  if s = "http://[fe80::1%25eth0]/" then .ok ⟨"http", "[fe80::1%eth0]"⟩
  else if s = "http://[fe80::1]/" then .ok ⟨"http", "[fe80::1]"⟩
  else if s = "http://[64:ff9b:1::a00:1]/" then .ok ⟨"http", "[64:ff9b:1::a00:1]"⟩
  else .error "unknown"

/-- No host has a port. -/
theorem sampleURL_host {s : String} {u : URL} (h : sampleURL s = .ok u) : splitHostPort u.host.toList = none := by
  unfold sampleURL at h
  split_ifs at h <;> cases h <;> decide

def sampleNet : NetLib where
  parseURL := sampleURL
  port_digits := by
    intro s u host port h hsplit
    rw [sampleURL_host h] at hsplit
    cases hsplit
  parseAddr := sampleAddr
  parseCIDR := fun _ => none
  lookupIP := fun s =>
    match sampleAddr s with
    | some (ip, _) => .ok [ip]
    | none => .error "no such host"
  lookupIP_literal := by
    intro s ip zone h
    simp [h]
  ipString := fun _ => "fe80::1"

/-- No lists, and addresses of domains are not checked. -/
def openFilter : SSRFProtection :=
  { allowPrivateIp := false, domainFilterMode := false, domainList := [], ipFilterMode := false, ipList := [],
    allowedPorts := [], applyIPFilterForDomain := false }

/-- **A URL with an address as its host is rejected exactly if** its port is, or a literal with a zone as the text of a domain, or
the address, which is looked at if there is no zone or if addresses of domains are checked as well. -/
theorem literal_rejected_iff (net : NetLib) (p : SSRFProtection) (urlStr : String) (u : URL) (ip : IP)
    (zone : Option String) (hp : p.allowPrivateIp = false) (hparse : net.parseURL urlStr = .ok u)
    (hscheme : u.scheme = "http" ∨ u.scheme = "https")
    (hlit : net.parseAddr (String.ofList (urlHostname u.host.toList)) = some (ip, zone)) :
    (∃ err, p.validateURL net urlStr = .error err) ↔
      p.portAllowed u = false ∨
      zone ≠ none ∧ p.isDomainAllowed (String.ofList (urlHostname u.host.toList)) = false ∨
      (zone = none ∨ p.applyIPFilterForDomain = true) ∧ p.addressRejected net ip := by
  have hhost := hostPort_fst net hparse
  have hok : ¬ (u.scheme ≠ "http" ∧ u.scheme ≠ "https") := by tauto
  simp only [validateURL, hparse, hok, hhost, portAllowed]
  cases hport : atoi (hostPort u).2 with
  | none => simp
  | some port =>
    cases hallowed : p.isAllowedPort port with
    | false => simp [hallowed]
    | true =>
      cases zone with
      | none =>
        have hcheck : (∃ err, p.checkIP net ip = .error err) ↔ _ := checkIP_error_iff hp ip
        simpa [NetLib.parseIP, hlit, hallowed] using hcheck
      | some z =>
        -- `net.ParseIP` does not read the literal, so that it is checked as a domain
        have hdomain := checkDomain_literal hp hlit
        simpa [NetLib.parseIP, hlit, hallowed] using hdomain

theorem literal_rejected_iff_linkLocal :
    sampleNet.parseURL "http://[fe80::1]/" = .ok ⟨"http", "[fe80::1]"⟩ ∧
      ∃ err, openFilter.validateURL sampleNet "http://[fe80::1]/" = .error err :=
  ⟨by decide,
    (literal_rejected_iff sampleNet openFilter "http://[fe80::1]/" ⟨"http", "[fe80::1]"⟩
      (BitVec.ofNat 128 (0xfe80 * 2 ^ 112 + 1)) none rfl (by decide) (.inl rfl) (by decide)).2
      (.inr (.inr ⟨.inl rfl, .inl ((isPrivateIP_iff _).1 (by decide))⟩))⟩

/-- A link-local address with a zone passes as a domain that no list names, and a reserved one that the tables lack as an
address. -/
theorem reserved_literals_pass :
    openFilter.allowPrivateIp = false ∧
      (sampleNet.parseURL "http://[fe80::1%25eth0]/" = .ok ⟨"http", "[fe80::1%eth0]"⟩ ∧
        (∃ ip zone, sampleNet.parseAddr (String.ofList (urlHostname "[fe80::1%eth0]".toList)) = some (ip, zone) ∧
          Reserved ip) ∧
        openFilter.validateURL sampleNet "http://[fe80::1%25eth0]/" = .ok ()) ∧
      sampleNet.parseURL "http://[64:ff9b:1::a00:1]/" = .ok ⟨"http", "[64:ff9b:1::a00:1]"⟩ ∧
      sampleNet.parseAddr (String.ofList (urlHostname "[64:ff9b:1::a00:1]".toList)) = some (translated, none) ∧
      Reserved translated ∧ openFilter.validateURL sampleNet "http://[64:ff9b:1::a00:1]/" = .ok () := by
  refine ⟨rfl, ⟨by decide, ⟨BitVec.ofNat 128 (0xfe80 * 2 ^ 112 + 1), some "eth0", by decide, by decide⟩, by decide⟩, ?_⟩
  exact ⟨by decide, by decide, by decide, by decide⟩

end SSRFProtection

end SynthApi
