import SynthApi.Lib.Go

/-!
# The payment profiles of Alipay

The gateway keeps up to two profiles, each with its current configuration and the ones it had before
(`setting/payment_alipay.go`, and the functions of `service/alipay_direct.go` that save them). An order names the profile,
or the version of a profile, under which it was made.

`getAlipayProfileVersion` gives an order of the legacy profile the first version of the first profile that has one. Every
save keeps the legacy profile at the head of the list, so that this is a configuration of the legacy profile
(`getAlipayProfileVersion_own`).
-/

namespace SynthApi

open Lib Lib.Go List

structure AlipayDirectConfig where
  enabled : Bool
  appID : String
  sellerID : String
  privateKey : String
  platformPublicKey : String
  sandbox : Bool
  notifyURL : String
  returnURL : String
  minTopUp : ℚ
  deriving DecidableEq, Repr

structure AlipayProfileCredential where
  id : String
  config : AlipayDirectConfig
  deriving DecidableEq, Repr

structure AlipayProfile where
  id : String
  config : AlipayDirectConfig
  versions : List AlipayProfileCredential
  deriving DecidableEq, Repr

def legacyAlipayProfileID : String := "legacy"

def LegacyFirst (profiles : List AlipayProfile) : Prop := profiles.head?.map (·.id) = some legacyAlipayProfileID

/-- `alipayDirectConfig` and `alipayProfiles`, which are empty until they are first saved. -/
structure AlipaySetting where
  direct : AlipayDirectConfig
  profiles : List AlipayProfile
  legacy_first : profiles ≠ [] → LegacyFirst profiles

/-- The fields are trimmed when a configuration is stored. -/
def AlipayDirectConfig.trim (config : AlipayDirectConfig) : AlipayDirectConfig :=
  { config with
    appID := trimSpace config.appID
    sellerID := trimSpace config.sellerID
    privateKey := trimSpace config.privateKey
    platformPublicKey := trimSpace config.platformPublicKey
    notifyURL := trimSpace config.notifyURL
    returnURL := trimSpace config.returnURL }

def AlipayDirectConfig.zero : AlipayDirectConfig := ⟨false, "", "", "", "", false, "", "", 0⟩

/-! ## Reading -/

section Reading

-- The hash of a configuration, as text; `none` if it cannot be encoded.
variable (fingerprint : AlipayDirectConfig → Option String)

def alipayProfileVersionID (profile : AlipayProfile) : String :=
  match fingerprint profile.config with
  | none => profile.id
  | some hash => profile.id ++ "#" ++ hash

def AlipaySetting.getAlipayProfiles (st : AlipaySetting) : List AlipayProfile :=
  if st.profiles.length = 0 then [⟨legacyAlipayProfileID, st.direct, []⟩, ⟨"secondary", .zero, []⟩] else st.profiles

/-- The loop of `GetAlipayProfileVersion`. -/
def findProfileVersion (id : String) : List AlipayProfile → Option AlipayProfile
  | [] => none
  | profile :: profiles =>
    match if id = legacyAlipayProfileID then profile.versions.head? else none with
    | some version => some { profile with config := version.config }
    | none =>
      if id = profile.id ∨ id = alipayProfileVersionID fingerprint profile then some profile
      else
        match profile.versions.find? fun version => id = version.id with
        | some version => some { profile with config := version.config }
        | none => findProfileVersion id profiles

def AlipaySetting.getAlipayProfileVersion (st : AlipaySetting) (id : String) : Option AlipayProfile :=
  findProfileVersion fingerprint id st.getAlipayProfiles

def OwnConfig (profiles : List AlipayProfile) (id : String) (config : AlipayDirectConfig) : Prop :=
  ∃ profile ∈ profiles,
    (profile.id = id ∧ (config = profile.config ∨ ∃ version ∈ profile.versions, version.config = config)) ∨
      (alipayProfileVersionID fingerprint profile = id ∧ config = profile.config) ∨
      ∃ version ∈ profile.versions, version.id = id ∧ version.config = config

variable {fingerprint} {profiles : List AlipayProfile} {id : String} {profile : AlipayProfile}

theorem AlipaySetting.getAlipayProfiles_legacyFirst (st : AlipaySetting) : LegacyFirst st.getAlipayProfiles := by
  unfold AlipaySetting.getAlipayProfiles
  split
  · rfl
  next h => exact st.legacy_first fun hnil => h (by rw [hnil]; rfl)

/-- **The profile of an order**: the configuration that the loop finds is the order's own. -/
theorem findProfileVersion_own (hlegacy : id = legacyAlipayProfileID → LegacyFirst profiles)
    (h : findProfileVersion fingerprint id profiles = some profile) : OwnConfig fingerprint profiles id profile.config := by
  induction profiles with
  | nil => cases h
  | cons first rest ih =>
    rw [findProfileVersion] at h
    by_cases hid : id = legacyAlipayProfileID
    · -- The first profile is the legacy one, and the loop ends there.
      have hfirst : first.id = id := hid ▸ Option.some.inj (hlegacy hid)
      rw [if_pos hid] at h
      cases hversion : first.versions.head? with
      | some version =>
        rw [hversion] at h
        obtain rfl := Option.some.inj h
        exact ⟨first, mem_cons_self, .inl ⟨hfirst, .inr ⟨version, mem_of_head? hversion, rfl⟩⟩⟩
      | none =>
        rw [hversion] at h
        simp only [hfirst, true_or] at h
        obtain rfl := Option.some.inj h
        exact ⟨first, mem_cons_self, .inl ⟨hfirst, .inl rfl⟩⟩
    · rw [if_neg hid] at h
      simp only at h
      split at h
      next hname =>
        obtain rfl := Option.some.inj h
        rcases hname with hname | hname
        · exact ⟨first, mem_cons_self, .inl ⟨hname.symm, .inl rfl⟩⟩
        · exact ⟨first, mem_cons_self, .inr (.inl ⟨hname.symm, rfl⟩)⟩
      next =>
        split at h
        next version hversion =>
          obtain rfl := Option.some.inj h
          have hname : id = version.id := by simpa using find?_some hversion
          exact ⟨first, mem_cons_self, .inr (.inr ⟨version, mem_of_find?_eq_some hversion, hname.symm, rfl⟩)⟩
        next =>
          obtain ⟨found, hmem, hown⟩ := ih (fun hlegacy => absurd hlegacy hid) h
          exact ⟨found, mem_cons_of_mem _ hmem, hown⟩

theorem getAlipayProfileVersion_own {st : AlipaySetting} (h : st.getAlipayProfileVersion fingerprint id = some profile) :
    OwnConfig fingerprint st.getAlipayProfiles id profile.config :=
  findProfileVersion_own (fun _ => st.getAlipayProfiles_legacyFirst) h

end Reading

/-! ## Saving -/

section Saving

/-- The loop of `StoreAlipayProfiles`: profiles without a name, or with one that was `seen`, are dropped. -/
def normalizeProfiles (seen : List String) : List AlipayProfile → List AlipayProfile
  | [] => []
  | profile :: profiles =>
    if trimSpace profile.id = "" ∨ trimSpace profile.id ∈ seen then normalizeProfiles seen profiles
    else
      ⟨trimSpace profile.id, profile.config.trim, profile.versions⟩ ::
        normalizeProfiles (trimSpace profile.id :: seen) profiles

/-- What `StoreAlipayProfiles` stores; a profile that is missing is added. -/
def storedProfiles (direct : AlipayDirectConfig) (profiles : List AlipayProfile) : List AlipayProfile :=
  let normalized := normalizeProfiles [] profiles
  let normalized :=
    if normalized.any (·.id = legacyAlipayProfileID) then normalized
    else ⟨legacyAlipayProfileID, direct, []⟩ :: normalized
  if normalized.length = 1 then normalized ++ [⟨"secondary", .zero, []⟩] else normalized

variable {profiles : List AlipayProfile}

theorem storedProfiles_legacyFirst (direct : AlipayDirectConfig)
    (h : LegacyFirst profiles) : LegacyFirst (storedProfiles direct profiles) := by
  cases profiles with
  | nil => cases h
  | cons profile profiles =>
    have hid : profile.id = legacyAlipayProfileID := Option.some.inj h
    have htrim : trimSpace profile.id = legacyAlipayProfileID := by
      rw [hid]
      decide +kernel
    -- the legacy profile is kept, and it stays the first
    have hnormal : normalizeProfiles [] (profile :: profiles) =
        ⟨legacyAlipayProfileID, profile.config.trim, profile.versions⟩ ::
          normalizeProfiles [legacyAlipayProfileID] profiles := by
      rw [normalizeProfiles, htrim]
      rfl
    simp only [storedProfiles, hnormal, any_cons, decide_true, Bool.true_or, if_true]
    split <;> rfl

/-- `StoreAlipayProfiles`, of a list that begins with the legacy profile. -/
def AlipaySetting.storeProfiles (direct : AlipayDirectConfig) (profiles : List AlipayProfile) (h : LegacyFirst profiles) :
    AlipaySetting :=
  ⟨direct, storedProfiles direct profiles, fun _ => storedProfiles_legacyFirst direct h⟩

theorem LegacyFirst.map (h : LegacyFirst profiles) {f : AlipayProfile → AlipayProfile}
    (hf : ∀ profile, (f profile).id = profile.id) : LegacyFirst (profiles.map f) := by
  rw [LegacyFirst, head?_map, Option.map_map]
  exact (Option.map_congr fun profile _ => hf profile).trans h

theorem LegacyFirst.append (h : LegacyFirst profiles) (more : List AlipayProfile) :
    LegacyFirst (profiles ++ more) := by
  rw [LegacyFirst, head?_append, Option.map_or, h]
  rfl

variable (fingerprint : AlipayDirectConfig → Option String)

def appendAlipayConfigVersion (profile : AlipayProfile) : AlipayProfile :=
  let versionID := alipayProfileVersionID fingerprint profile
  if profile.versions.any fun version => version.id = versionID then profile
  else { profile with versions := profile.versions ++ [⟨versionID, profile.config⟩] }

/-- The profile gets a configuration; `keep` says whether the present one is put among the versions if it is another. -/
def AlipayProfile.setConfig (keep : Bool) (config : AlipayDirectConfig) (profile : AlipayProfile) : AlipayProfile :=
  { (if profile.config ≠ config ∧ keep = true then appendAlipayConfigVersion fingerprint profile else profile) with
    config := config }

theorem AlipayProfile.setConfig_id (keep : Bool) (config : AlipayDirectConfig) (profile : AlipayProfile) :
    (profile.setConfig fingerprint keep config).id = profile.id := by
  unfold AlipayProfile.setConfig appendAlipayConfigVersion
  split
  · dsimp only
    split <;> rfl
  · rfl

/-- The keys that are not given are those of the present configuration. -/
def AlipayDirectConfig.keepKeys (config current : AlipayDirectConfig) : AlipayDirectConfig :=
  { config with
    privateKey := if trimSpace config.privateKey = "" then current.privateKey else config.privateKey
    platformPublicKey :=
      if trimSpace config.platformPublicKey = "" then current.platformPublicKey else config.platformPublicKey }

-- Whether the terms of payment are confirmed, and `validateAlipayConfiguration`, with its error.
variable (compliance : Bool) (validate : AlipayDirectConfig → Option String)

def complianceText : String := "启用支付宝支付前必须先确认支付合规条款"

def saveAlipayDirectConfig (config : AlipayDirectConfig) (st : AlipaySetting) : Except String AlipaySetting :=
  if config.enabled ∧ ¬ compliance then .error complianceText
  else
    let config := ({ config with
      privateKey := trimSpace config.privateKey
      platformPublicKey := trimSpace config.platformPublicKey } : AlipayDirectConfig).keepKeys st.direct
    match if config.enabled then validate config else none with
    | some err => .error err
    | none =>
      -- the legacy profile is always there, so that it need not be added
      .ok (.storeProfiles config.trim
        (st.getAlipayProfiles.map fun profile =>
          if profile.id = legacyAlipayProfileID then profile.setConfig fingerprint true config else profile)
        (st.getAlipayProfiles_legacyFirst.map fun profile => by
          split
          · exact profile.setConfig_id fingerprint true config
          · rfl))

/-- The profile that is saved, in the list; a profile that is not there yet is added. -/
def savedProfiles (id : String) (save : AlipayProfile → AlipayProfile) (profiles : List AlipayProfile) :
    List AlipayProfile :=
  if profiles.any (·.id = id) then profiles.map fun profile => if profile.id = id then save profile else profile
  else profiles ++ [save ⟨id, .zero, []⟩]

theorem LegacyFirst.saved (h : LegacyFirst profiles) (id : String)
    {save : AlipayProfile → AlipayProfile} (hsave : ∀ profile, (save profile).id = profile.id) :
    LegacyFirst (savedProfiles id save profiles) := by
  unfold savedProfiles
  split
  · refine h.map fun profile => ?_
    split
    · exact hsave profile
    · rfl
  · exact h.append _

def saveAlipayProfile (id : String) (config : AlipayDirectConfig) (st : AlipaySetting) : Except String AlipaySetting :=
  if ¬ compliance ∧ config.enabled then .error complianceText
  else
    let id := if trimSpace id = "" then "secondary" else trimSpace id
    if id ≠ legacyAlipayProfileID ∧ id ≠ "secondary" then .error "支付宝配置档案标识无效"
    else
      let profiles := st.getAlipayProfiles
      let existing := profiles.find? (·.id = id)
      if existing.isNone ∧ 2 ≤ profiles.length then .error "最多保留两套支付宝收款配置"
      else
        let current := (existing.map (·.config)).getD .zero
        let config := config.keepKeys current
        let config := { config with minTopUp := if config.minTopUp ≤ 0 then 1 else config.minTopUp }
        match if config.enabled then validate config else none with
        | some err => .error err
        | none =>
          .ok (.storeProfiles (if id = legacyAlipayProfileID then config.trim else st.direct)
            (savedProfiles id (AlipayProfile.setConfig fingerprint (current.appID ≠ "") config) profiles)
            (st.getAlipayProfiles_legacyFirst.saved id fun profile => profile.setConfig_id fingerprint _ config))

end Saving

end SynthApi
