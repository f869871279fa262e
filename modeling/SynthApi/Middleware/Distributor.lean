import SynthApi.Lib.Value

/-!
# The group of a request

A user may use the groups that `GetUserUsableGroups` (`service/group.go`) gives for the user's own group. `TokenAuth`
(`middleware/auth.go`) checks the group of the token against them and stores it as the using group; `Distribute`
(`middleware/distributor.go`) lets the request body choose another one, which it checks against the groups that the using
group, not the user's own, may use. So a body reaches whatever the token's group reaches, and on the playground, which uses
the group of the session and where two readers of the body may see two groups, one group more. No request leaves the groups
of the user if and only if these groups are contained in theirs (`group_access_iff`).
-/

namespace SynthApi

open Lib Lib.Go

/-! ## Usable groups -/

/-- A `map[string]string` from the groups to their descriptions. -/
abbrev GroupMap := AList fun _ : String => String

structure GroupSettings where
  userUsableGroups : GroupMap
  groupSpecialUsableGroup : String → Option GroupMap
  containsGroupRatio : String → Bool

/-- An entry of the special settings: it removes a group or adds one. -/
def applySpecialGroup (groups : GroupMap) (entry : Sigma fun _ : String => String) : GroupMap :=
  if hasPrefix entry.1 "-:" then groups.erase (trimPrefix entry.1 "-:")
  else if hasPrefix entry.1 "+:" then groups.insert (trimPrefix entry.1 "+:") entry.2
  else groups.insert entry.1 entry.2

namespace GroupSettings

variable (settings : GroupSettings)

/-- `order` is the order in which the special settings are visited, which matters if they both remove and add a group. -/
def getUserUsableGroups (order : MapOrder String) (userGroup : String) : GroupMap :=
  if userGroup = "" then settings.userUsableGroups
  else
    let groups :=
      match settings.groupSpecialUsableGroup userGroup with
      | none => settings.userUsableGroups
      | some special => (order.visit special).foldl applySpecialGroup settings.userUsableGroups
    if (groups.lookup userGroup).isSome then groups else groups.insert userGroup "用户分组"

def groupInUserUsableGroups (order : MapOrder String) (userGroup groupName : String) : Bool :=
  ((settings.getUserUsableGroups order userGroup).lookup groupName).isSome

def Usable (userGroup group : String) : Prop := ∃ order, settings.groupInUserUsableGroups order userGroup group = true

theorem usable_self {group : String} (h : group ≠ "") : settings.Usable group group := by
  have hself : ∀ groups : GroupMap,
      ((if (groups.lookup group).isSome then groups else groups.insert group "用户分组").lookup group).isSome := by
    intro groups
    split
    next hin => exact hin
    · rw [AList.lookup_insert]
      rfl
  refine ⟨.asEntered String, ?_⟩
  rw [groupInUserUsableGroups, getUserUsableGroups, if_neg h]
  exact hself _

end GroupSettings

/-! ## `TokenAuth` -/

def normalizeTokenGroup (groupName : String) : String :=
  if toLower (trimSpace groupName) = "auto" then "auto" else trimSpace groupName

inductive TokenAuthError where
  /-- 无权访问 分组 -/
  | groupForbidden (group : String)
  /-- 分组 已被弃用 -/
  | groupDeprecated (group : String)
  deriving DecidableEq, Repr

section TokenAuth

variable (settings : GroupSettings)

def isUserTokenGroupAccessible (order : MapOrder String) (userGroup groupName : String) : Bool :=
  decide (normalizeTokenGroup groupName = "auto") ||
    settings.groupInUserUsableGroups order userGroup (normalizeTokenGroup groupName)

def tokenAuthGroup (order : MapOrder String) (userGroup group : String) : Except TokenAuthError String :=
  let tokenGroup := normalizeTokenGroup group
  if tokenGroup = "" then .ok userGroup
  else if !isUserTokenGroupAccessible settings order userGroup tokenGroup then .error (.groupForbidden tokenGroup)
  else if !settings.containsGroupRatio tokenGroup && decide (tokenGroup ≠ "auto") then
    .error (.groupDeprecated tokenGroup)
  else .ok tokenGroup

end TokenAuth

/-! ## `Distribute` -/

structure ModelRequest where
  model : String
  group : String
  deriving DecidableEq, Repr

inductive SpecificChannel where
  | unknown
  | disabled
  | enabled
  deriving DecidableEq, Repr

structure GroupRequest where
  path : String
  method : String
  contentType : String
  /-- `getModelFromRequest`: the body as JSON, read by `gjson`, or as a form. -/
  modelFromRequest : Except String ModelRequest
  /-- The group in the body as `UnmarshalBodyReusable` decodes it into a `PlayGroundRequest`. Of two fields `group` and
  `Group` it may take another one than `gjson`. -/
  playgroundRequest : Except String String
  /-- The model of a Midjourney request, and whether it needs a channel. -/
  midjourneyRequest : Except String (String × Bool)
  /-- The model of a Suno request, and whether it needs a channel. -/
  sunoRequest : String × Bool
  taskOriginModelName : String
  /-- `extractModelNameFromGeminiPath` -/
  geminiModelName : String
  queryModel : String
  paramModel : String
  /-- The channel that the key of an administrator names. -/
  specificChannel : Option SpecificChannel
  /-- The models of a token whose models are limited, and `FormatMatchingModelName`. -/
  tokenModelLimit : Option (List String × (String → String))
  channelFound : (group model : String) → Bool
  /-- The orders of `TokenAuth` and of the two checks of `Distribute`. -/
  authOrder : MapOrder String
  playgroundOrder : MapOrder String
  bodyOrder : MapOrder String

def getStringIfEmpty (str defaultValue : String) : String := if str = "" then defaultValue else str

def withCompactModelSuffix (modelName : String) : String :=
  if hasSuffix modelName "-openai-compact" then modelName else modelName ++ "-openai-compact"

namespace GroupRequest

variable (r : GroupRequest)

/-- `c.ContentType()` -/
def mediaType : String := String.ofList (r.contentType.toList.takeWhile fun c => c ≠ ' ' && c ≠ ';')

/-- The request by its route, and whether a channel has to be selected. -/
def routeModelRequest : Except String (ModelRequest × Bool) :=
  if strContains r.path "/mj/" then r.midjourneyRequest.map fun m => (⟨m.1, ""⟩, m.2)
  else if strContains r.path "/suno/" then .ok (⟨r.sunoRequest.1, ""⟩, r.sunoRequest.2)
  else if strContains r.path "/v1/videos/" && hasSuffix r.path "/remix" then .ok (⟨"", ""⟩, false)
  else if strContains r.path "/v1/videos" || strContains r.path "/pg/videos" ||
      strContains r.path "/v1/video/generations" || strContains r.path "/pg/video/generations" then
    if r.method = "POST" then r.modelFromRequest.map fun m => (m, true)
    else if r.method = "GET" then .ok (⟨r.taskOriginModelName, ""⟩, false)
    else .ok (⟨"", ""⟩, true)
  else if hasPrefix r.path "/v1beta/models/" || hasPrefix r.path "/v1/models/" then .ok (⟨r.geminiModelName, ""⟩, true)
  else if !hasPrefix r.path "/v1/audio/transcriptions" && !strContains r.contentType "multipart/form-data" then
    r.modelFromRequest.map fun m => (m, true)
  else .ok (⟨"", ""⟩, true)

def bodyModel (model : String) : String :=
  match r.modelFromRequest with
  | .ok m => getStringIfEmpty m.model model
  | .error _ => model

/-- The model that a request without one asks for. -/
def defaultModel (model : String) : String :=
  let model := if hasPrefix r.path "/v1/realtime" then r.queryModel else model
  let model := if hasPrefix r.path "/v1/moderations" then getStringIfEmpty model "text-moderation-stable" else model
  let model := if hasSuffix r.path "embeddings" then getStringIfEmpty model r.paramModel else model
  let model :=
    if hasPrefix r.path "/v1/images/generations" then getStringIfEmpty model "dall-e"
    else if hasPrefix r.path "/v1/images/edits" &&
        ["application/x-www-form-urlencoded", "multipart/form-data"].contains r.mediaType then r.bodyModel model
    else model
  if hasPrefix r.path "/v1/audio/speech" then getStringIfEmpty model "tts-1"
  else if hasPrefix r.path "/v1/audio/translations" || hasPrefix r.path "/v1/audio/transcriptions" then
    getStringIfEmpty (r.bodyModel model) "whisper-1"
  else model

def getModelRequest : Except String (ModelRequest × Bool) := do
  let (m, shouldSelectChannel) ← r.routeModelRequest
  let m : ModelRequest := { m with model := r.defaultModel m.model }
  let m ← if hasPrefix r.path "/pg/chat/completions" then r.modelFromRequest else pure m
  let m ←
    if hasPrefix r.path "/pg/images/generations" then
      r.modelFromRequest.map fun m => { m with model := getStringIfEmpty m.model "gpt-image-2" }
    else pure m
  if hasPrefix r.path "/v1/responses/compact" && decide (m.model ≠ "") then
    return ({ m with model := withCompactModelSuffix m.model }, shouldSelectChannel)
  return (m, shouldSelectChannel)

end GroupRequest

open GroupRequest

inductive DistributorError where
  | invalidRequest (text : String)
  | invalidChannelId
  | channelDisabled
  | tokenModelForbidden (model : String)
  | modelNameRequired
  | invalidPlayground (text : String)
  | groupAccessDenied
  | noAvailableChannel (group model : String)
  deriving DecidableEq, Repr

section Distribute

variable (settings : GroupSettings) (r : GroupRequest)

variable (usingGroup : String)

/-- The group of a `PlayGroundRequest`, which is stored. -/
def playgroundGroup : Except DistributorError (Option String) :=
  if hasPrefix r.path "/pg/chat/completions" then
    match r.playgroundRequest with
    | .error text => .error (.invalidPlayground text)
    | .ok group =>
      if group = "" then .ok none
      else if !settings.groupInUserUsableGroups r.playgroundOrder usingGroup group && decide (group ≠ usingGroup) then
        .error .groupAccessDenied
      else .ok (some group)
  else .ok none

/-- The group of the `ModelRequest`, which is stored if it is another one. -/
def bodyGroup (group : String) : Except DistributorError (Option String) :=
  if group ≠ "" ∧ group ≠ usingGroup then
    if !settings.groupInUserUsableGroups r.bodyOrder usingGroup group then .error .groupAccessDenied else .ok (some group)
  else .ok none

/-- The groups that a request with a model chooses, one after the other; the result is the last one. -/
def chooseGroup (group : String) : Except DistributorError (Option String) :=
  match playgroundGroup settings r usingGroup with
  | .error err => .error err
  | .ok chosen => (bodyGroup settings r (chosen.getD usingGroup) group).map (·.or chosen)

def distributeGroup : Except DistributorError (Option String) :=
  match r.getModelRequest with
  | .error text => .error (.invalidRequest text)
  | .ok (m, shouldSelectChannel) =>
    match r.specificChannel with
    | some .unknown => .error .invalidChannelId
    | some .disabled => .error .channelDisabled
    | some .enabled => .ok none
    | none =>
      if r.tokenModelLimit.any fun limit => !limit.1.contains (limit.2 m.model) then .error (.tokenModelForbidden m.model)
      else if !shouldSelectChannel then .ok none
      else if m.model = "" then .error .modelNameRequired
      else
        match chooseGroup settings r usingGroup m.group with
        | .error err => .error err
        | .ok stored =>
          if r.channelFound (stored.getD usingGroup) m.model then .ok stored
          else .error (.noAvailableChannel (stored.getD usingGroup) m.model)

/-- The using group before `Distribute`: `UserAuth` stores `session.Get("group")` for the playground (`/pg`), which is the
user's group at the login, or nil with an access token; `TokenAuth` stores that of the token for the other routes. -/
def authGroup (userGroup sessionGroup tokenGroup : String) : Except TokenAuthError String :=
  if hasPrefix r.path "/pg/" then .ok sessionGroup else tokenAuthGroup settings r.authOrder userGroup tokenGroup

def GroupRequest.Stores (userGroup sessionGroup tokenGroup group : String) : Prop :=
  ∃ usingGroup, authGroup settings r userGroup sessionGroup tokenGroup = .ok usingGroup ∧
    distributeGroup settings r usingGroup = .ok (some group)

end Distribute

/-! ## What a request can store -/

section Access

variable {settings : GroupSettings} {r : GroupRequest} {usingGroup group stored : String}

theorem playgroundGroup_some (h : playgroundGroup settings r usingGroup = .ok (some stored)) :
    hasPrefix r.path "/pg/chat/completions" ∧ stored ≠ "" ∧ settings.Usable usingGroup stored := by
  unfold playgroundGroup at h
  split at h
  next hpath =>
    refine ⟨hpath, ?_⟩
    cases hread : r.playgroundRequest with
    | error text => simp [hread] at h
    | ok group =>
      simp only [hread] at h
      split at h
      · cases h
      next hne =>
        split at h
        · cases h
        next hcheck =>
          cases h
          refine ⟨hne, ?_⟩
          by_cases heq : stored = usingGroup
          · exact heq ▸ settings.usable_self hne
          · exact ⟨r.playgroundOrder, by simpa [heq] using hcheck⟩
  · cases h

theorem bodyGroup_some (h : bodyGroup settings r usingGroup group = .ok (some stored)) :
    stored ≠ "" ∧ settings.Usable usingGroup stored := by
  unfold bodyGroup at h
  split at h
  next hne =>
    split at h
    · cases h
    next hcheck =>
      cases h
      exact ⟨hne.1, r.bodyOrder, by simpa using hcheck⟩
  · cases h

/-- A request reaches the groups that the using group may use, and on the playground those that one of them may use. -/
theorem chooseGroup_some (h : chooseGroup settings r usingGroup group = .ok (some stored)) :
    stored ≠ "" ∧ (settings.Usable usingGroup stored ∨ hasPrefix r.path "/pg/chat/completions" ∧
      ∃ p, p ≠ "" ∧ settings.Usable usingGroup p ∧ settings.Usable p stored) := by
  unfold chooseGroup at h
  cases hplay : playgroundGroup settings r usingGroup with
  | error err => simp [hplay] at h
  | ok chosen =>
    simp only [hplay] at h
    cases hbody : bodyGroup settings r (chosen.getD usingGroup) group with
    | error err => simp [hbody, Except.map] at h
    | ok last =>
      simp only [hbody, Except.map] at h
      cases last with
      | none =>
        rw [Option.none_or] at h
        obtain ⟨-, hne, hstored⟩ := playgroundGroup_some (h ▸ hplay)
        exact ⟨hne, .inl hstored⟩
      | some g =>
        obtain rfl : g = stored := by simpa using h
        obtain ⟨hne, hstored⟩ := bodyGroup_some hbody
        refine ⟨hne, ?_⟩
        cases chosen with
        | none => exact .inl hstored
        | some p =>
          obtain ⟨hpath, hp, hchosen⟩ := playgroundGroup_some hplay
          exact .inr ⟨hpath, p, hp, hchosen, hstored⟩

theorem distributeGroup_some (h : distributeGroup settings r usingGroup = .ok (some stored)) :
    ∃ group, chooseGroup settings r usingGroup group = .ok (some stored) := by
  unfold distributeGroup at h
  cases hm : r.getModelRequest with
  | error text => simp [hm] at h
  | ok m =>
    refine ⟨m.1.group, ?_⟩
    simp only [hm] at h
    split at h
    · cases h
    · cases h
    · cases h
    · split at h
      · cases h
      · split at h
        · cases h
        · split at h
          · cases h
          · split at h
            · cases h
            next hchoose =>
              split at h
              · exact hchoose.trans h
              · cases h

theorem normalizeTokenGroup_idem (group : String) :
    normalizeTokenGroup (normalizeTokenGroup group) = normalizeTokenGroup group := by
  unfold normalizeTokenGroup
  by_cases h : toLower (trimSpace group) = "auto"
  · rw [if_pos h]
    decide
  · rw [if_neg h, trimSpace_trimSpace, if_neg h]

end Access

namespace GroupSettings

variable (settings : GroupSettings)

def Accepted (userGroup tokenGroup : String) : Prop :=
  tokenGroup = "auto" ∨ settings.Usable userGroup tokenGroup ∧ settings.containsGroupRatio tokenGroup = true

/-- What `group` may use, the user may use. -/
def Contained (userGroup group : String) : Prop :=
  ∀ g, g ≠ "" → settings.Usable group g → g = "auto" ∨ settings.Usable userGroup g

variable {settings} {userGroup tokenGroup usingGroup : String}

/-- `TokenAuth` stores the group of the user for a token without a group, else the group of a token that it accepts. -/
theorem tokenAuthGroup_ok_iff :
    (∃ order, tokenAuthGroup settings order userGroup tokenGroup = .ok usingGroup) ↔
      if normalizeTokenGroup tokenGroup = "" then usingGroup = userGroup
      else usingGroup = normalizeTokenGroup tokenGroup ∧ settings.Accepted userGroup usingGroup := by
  have hidem := normalizeTokenGroup_idem tokenGroup
  unfold tokenAuthGroup isUserTokenGroupAccessible
  generalize normalizeTokenGroup tokenGroup = group at hidem
  by_cases hempty : group = ""
  · simp only [if_pos hempty, Except.ok.injEq]
    exact ⟨fun ⟨_, h⟩ => h.symm, fun h => ⟨.asEntered String, h.symm⟩⟩
  · simp only [if_neg hempty, hidem]
    constructor
    · rintro ⟨order, h⟩
      split at h
      · cases h
      next haccess =>
        split at h
        · cases h
        next hratio =>
          cases h
          refine ⟨rfl, ?_⟩
          by_cases hauto : usingGroup = "auto"
          · exact .inl hauto
          · exact .inr ⟨⟨order, by simpa [hauto] using haccess⟩, by simpa [hauto] using hratio⟩
    · rintro ⟨rfl, hauto | ⟨⟨order, husable⟩, hratio⟩⟩
      · exact ⟨.asEntered String, by simp [hauto]⟩
      · exact ⟨order, by simp [husable, hratio]⟩

end GroupSettings

/-! ## Requests for a group -/

/-- A chat request: `group` is what `gjson` reads, `playground` what the decoder of a `PlayGroundRequest` does. -/
def GroupRequest.chat (path group playground : String) (authOrder playgroundOrder bodyOrder : MapOrder String) :
    GroupRequest where
  path := path
  method := "POST"
  contentType := "application/json"
  modelFromRequest := .ok ⟨"gpt-5", group⟩
  playgroundRequest := .ok playground
  midjourneyRequest := .ok ("", false)
  sunoRequest := ("", false)
  taskOriginModelName := ""
  geminiModelName := ""
  queryModel := ""
  paramModel := ""
  specificChannel := none
  tokenModelLimit := none
  channelFound _ _ := true
  authOrder := authOrder
  playgroundOrder := playgroundOrder
  bodyOrder := bodyOrder

section Chat

variable {settings : GroupSettings} {userGroup sessionGroup tokenGroup usingGroup p group : String}

theorem chat_getModelRequest {path : String} (hpath : path = "/v1/chat/completions" ∨ path = "/pg/chat/completions")
    (group playground : String) (authOrder playgroundOrder bodyOrder : MapOrder String) :
    (chat path group playground authOrder playgroundOrder bodyOrder).getModelRequest =
      .ok (⟨"gpt-5", group⟩, true) := by
  rcases hpath with rfl | rfl
  · simp +decide [getModelRequest, routeModelRequest, defaultModel,
      chat, Except.map, bind, Except.bind, pure, Except.pure]
  · simp +decide [getModelRequest, routeModelRequest, chat, Except.map, bind,
      Except.bind, pure, Except.pure]

/-- A token reaches every group that its group may use. -/
theorem chat_stores {order : MapOrder String}
    (hauth : tokenAuthGroup settings order userGroup tokenGroup = .ok usingGroup) (hgroup : group ≠ "")
    (hne : group ≠ usingGroup) (husable : settings.Usable usingGroup group) :
    ∃ r, GroupRequest.Stores settings r userGroup sessionGroup tokenGroup group := by
  obtain ⟨bodyOrder, hbody⟩ := husable
  let r := chat "/v1/chat/completions" group "" order order bodyOrder
  have hm : r.getModelRequest = .ok (⟨"gpt-5", group⟩, true) := chat_getModelRequest (.inl rfl) group "" order order bodyOrder
  have hpath : hasPrefix "/v1/chat/completions" "/pg/" = false := by decide
  have hplay : playgroundGroup settings r usingGroup = .ok none := by
    simp [playgroundGroup, r, chat]
  have hchoose : chooseGroup settings r usingGroup group = .ok (some group) := by
    rw [chooseGroup, hplay]
    simp [bodyGroup, hgroup, hne, r, chat, hbody, Except.map]
  refine ⟨r, usingGroup, ?_, ?_⟩
  · simpa [authGroup, r, chat, hpath] using hauth
  · rw [distributeGroup, hm]
    simp only [hchoose]
    rfl

/-- A playground request reaches every group that one of the groups of the session's group may use. -/
theorem playground_stores (userGroup tokenGroup : String) (hp : p ≠ "") (hchosen : settings.Usable sessionGroup p)
    (hgroup : group ≠ "") (husable : settings.Usable p group) :
    ∃ r, GroupRequest.Stores settings r userGroup sessionGroup tokenGroup group := by
  obtain ⟨playgroundOrder, hplayground⟩ := hchosen
  obtain ⟨bodyOrder, hbody⟩ := husable
  let r := chat "/pg/chat/completions" group p bodyOrder playgroundOrder bodyOrder
  have hm : r.getModelRequest = .ok (⟨"gpt-5", group⟩, true) :=
    chat_getModelRequest (.inr rfl) group p bodyOrder playgroundOrder bodyOrder
  have hplay : playgroundGroup settings r sessionGroup = .ok (some p) := by
    have hchat : hasPrefix "/pg/chat/completions" "/pg/chat/completions" := by decide
    simp [playgroundGroup, r, chat, hchat, hp, hplayground]
  have hchoose : chooseGroup settings r sessionGroup group = .ok (some group) := by
    rw [chooseGroup, hplay]
    by_cases hne : group = p
    · simp [bodyGroup, hne, Except.map]
    · simp [bodyGroup, hgroup, hne, r, chat, hbody, Except.map]
  have hpath : hasPrefix "/pg/chat/completions" "/pg/" := by decide
  refine ⟨r, sessionGroup, ?_, ?_⟩
  · simp [authGroup, r, chat, hpath]
  · rw [distributeGroup, hm]
    simp only [hchoose]
    rfl

end Chat

/-! ## Group authorization -/

theorem hasPrefix_pg {path : String} (h : hasPrefix path "/pg/chat/completions") : hasPrefix path "/pg/" := by
  have hstart : "/pg/".toList <+: "/pg/chat/completions".toList := by decide
  exact decide_eq_true (hstart.trans (of_decide_eq_true h))

/-- **Group authorization.** A user with a token and a session reaches no group besides `auto` that the user's own group may
not use, if and only if the groups that the token's group may use are groups of the user, and so are, for the playground, those
that any of the groups of the session's group may use. -/
theorem group_access_iff (settings : GroupSettings) (userGroup sessionGroup tokenGroup : String) :
    (∀ r group, GroupRequest.Stores settings r userGroup sessionGroup tokenGroup group →
      group = "auto" ∨ settings.Usable userGroup group) ↔
    (normalizeTokenGroup tokenGroup ≠ "" → settings.Accepted userGroup (normalizeTokenGroup tokenGroup) →
      settings.Contained userGroup (normalizeTokenGroup tokenGroup)) ∧
    ∀ p, p ≠ "" → settings.Usable sessionGroup p → settings.Contained userGroup p := by
  constructor
  · intro hsafe
    refine ⟨fun htoken haccepted group hgroup husable => ?_, fun p hp hchosen group hgroup husable => ?_⟩
    · by_cases hne : group = normalizeTokenGroup tokenGroup
      · exact hne ▸ haccepted.imp_right And.left
      · have hok : ∃ order, tokenAuthGroup settings order userGroup tokenGroup = .ok (normalizeTokenGroup tokenGroup) := by
          rw [GroupSettings.tokenAuthGroup_ok_iff, if_neg htoken]
          exact ⟨rfl, haccepted⟩
        obtain ⟨order, hauth⟩ := hok
        obtain ⟨r, hr⟩ := chat_stores hauth hgroup hne husable
        exact hsafe r group hr
    · obtain ⟨r, hr⟩ := playground_stores userGroup tokenGroup hp hchosen hgroup husable
      exact hsafe r group hr
  · rintro ⟨htoken, hplayground⟩ r group ⟨usingGroup, hauth, hdistribute⟩
    obtain ⟨_, hchoose⟩ := distributeGroup_some hdistribute
    obtain ⟨hgroup, hreached⟩ := chooseGroup_some hchoose
    unfold authGroup at hauth
    split at hauth
    · cases hauth
      obtain husable | ⟨-, p, hp, hchosen, husable⟩ := hreached
      · exact hplayground group hgroup husable group hgroup (settings.usable_self hgroup)
      · exact hplayground p hp hchosen group hgroup husable
    next hpath =>
      have husable : settings.Usable usingGroup group := hreached.resolve_right fun h => hpath (hasPrefix_pg h.1)
      have hok : ∃ order, tokenAuthGroup settings order userGroup tokenGroup = .ok usingGroup := ⟨r.authOrder, hauth⟩
      rw [GroupSettings.tokenAuthGroup_ok_iff] at hok
      by_cases hempty : normalizeTokenGroup tokenGroup = ""
      · rw [if_pos hempty] at hok
        subst hok
        exact .inr husable
      · rw [if_neg hempty] at hok
        have haccepted := hok.2
        rw [hok.1] at haccepted husable
        exact htoken hempty haccepted group hgroup husable

namespace Sample

/-- Everyone may use `default` and `vip`, but the users of `basic` may not use `vip`. -/
def groupSettings : GroupSettings where
  userUsableGroups := (AList.singleton "default" "").insert "vip" ""
  groupSpecialUsableGroup group := if group = "basic" then some (.singleton "-:vip" "") else none
  containsGroupRatio _ := true

def vipRequest : GroupRequest :=
  .chat "/v1/chat/completions" "vip" "" (.asEntered String) (.asEntered String) (.asEntered String)

theorem basic_not_vip : ¬ groupSettings.Usable "basic" "vip" := by
  rintro ⟨order, h⟩
  have hspecial : groupSettings.groupSpecialUsableGroup "basic" = some (.singleton "-:vip" "") := rfl
  rw [GroupSettings.groupInUserUsableGroups, GroupSettings.getUserUsableGroups, hspecial] at h
  simp only [MapOrder.visit_singleton] at h
  exact absurd h (by decide)

end Sample

open Sample in
/-- A user of `basic` reaches `vip` with a token of the group `default`. -/
theorem vip_reached :
    ¬ ∀ r group, GroupRequest.Stores groupSettings r "basic" "basic" "default" group →
      group = "auto" ∨ groupSettings.Usable "basic" group := by
  intro hsafe
  have hauth : authGroup groupSettings vipRequest "basic" "basic" "default" = .ok "default" := by decide
  have hstores : distributeGroup groupSettings vipRequest "default" = .ok (some "vip") := by decide
  rcases hsafe vipRequest "vip" ⟨"default", hauth, hstores⟩ with h | h
  · exact absurd h (by decide)
  · exact basic_not_vip h

/-! ## The order of the special settings -/

/-- What an entry of the special settings does: whether it adds its group, and the group. -/
def specialEffect (key : String) : Bool × String :=
  if hasPrefix key "-:" then (false, trimPrefix key "-:")
  else if hasPrefix key "+:" then (true, trimPrefix key "+:")
  else (true, key)

/-- Whether the group `g` is there after an entry. -/
def afterSpecial (g : String) (there : Prop) (e : Sigma fun _ : String => String) : Prop :=
  if g = (specialEffect e.1).2 then (specialEffect e.1).1 = true else there

/-- An order that comes to `k` last. -/
def endingWith (k : String) : MapOrder String where
  keys ks := if k ∈ ks then ks.erase k ++ [k] else ks
  perm ks := by
    split
    next hk => exact List.perm_append_comm.trans (List.perm_cons_erase hk).symm
    · exact .refl ks

section Order

open List

variable {groups special : GroupMap} {k g : String}

theorem mem_applySpecialGroup {e : Sigma fun _ : String => String} :
    g ∈ applySpecialGroup groups e ↔ afterSpecial g (g ∈ groups) e := by
  unfold applySpecialGroup afterSpecial specialEffect
  split
  · by_cases hg : g = trimPrefix e.1 "-:" <;> simp [hg]
  split
  · by_cases hg : g = trimPrefix e.1 "+:" <;> simp [hg]
  · by_cases hg : g = e.1 <;> simp [hg]

/-- The order does not matter for a group whose entries agree. -/
theorem mem_foldl_applySpecialGroup (order order' : MapOrder String)
    (h : ∀ k ∈ special, ∀ k' ∈ special, g = (specialEffect k).2 → g = (specialEffect k').2 →
      (specialEffect k).1 = (specialEffect k').1) :
    g ∈ (order.visit special).foldl applySpecialGroup groups ↔ g ∈ (order'.visit special).foldl applySpecialGroup groups := by
  have hin : ∀ e ∈ order.visit special, e.1 ∈ special := by
    intro e he
    obtain ⟨k, hk, hlookup⟩ := mem_filterMap.1 he
    obtain ⟨desc, -, rfl⟩ := Option.map_eq_some_iff.1 hlookup
    exact (order.perm _).mem_iff.1 hk
  have hread : ∀ entries : List (Sigma fun _ : String => String),
      (g ∈ entries.foldl applySpecialGroup groups) = entries.foldl (afterSpecial g) (g ∈ groups) :=
    fun entries => (foldl_hom (g ∈ ·) fun _ _ => (propext mem_applySpecialGroup).symm).symm
  have hvisits : order.visit special ~ order'.visit special := ((order.perm _).trans (order'.perm _).symm).filterMap _
  rw [hread, hread]
  refine iff_of_eq (hvisits.foldl_eq' (fun e he e' he' there => ?_) _)
  by_cases hg : g = (specialEffect e.1).2
  · by_cases hg' : g = (specialEffect e'.1).2
    · simp only [afterSpecial, if_pos hg, if_pos hg', h _ (hin e he) _ (hin e' he') hg hg']
    · simp only [afterSpecial, if_neg hg']
  · simp only [afterSpecial, if_neg hg]

/-- The entry that comes last decides. -/
theorem mem_endingWith (hk : k ∈ special) (hg : g = (specialEffect k).2) :
    g ∈ ((endingWith k).visit special).foldl applySpecialGroup groups ↔ (specialEffect k).1 = true := by
  obtain ⟨desc, hdesc⟩ := Option.isSome_iff_exists.1 (AList.lookup_isSome.2 hk)
  have hkeys : (endingWith k).keys special.keys = special.keys.erase k ++ [k] := if_pos hk
  rw [MapOrder.visit, hkeys, filterMap_append, foldl_append, filterMap_cons, hdesc]
  exact mem_applySpecialGroup.trans (by rw [afterSpecial, if_pos hg])

end Order

/-- **The usable groups do not depend on the order of the special settings exactly if** no group besides the user's own is
both added and removed. -/
theorem usable_groups_order_iff (settings : GroupSettings) (userGroup : String) :
    (∀ order order',
      (∀ g, g ∈ settings.getUserUsableGroups order userGroup ↔ g ∈ settings.getUserUsableGroups order' userGroup) ∧
      ∀ groupName, isUserTokenGroupAccessible settings order userGroup groupName =
        isUserTokenGroupAccessible settings order' userGroup groupName) ↔
    (userGroup ≠ "" → ∀ special ∈ settings.groupSpecialUsableGroup userGroup, ∀ k ∈ special, ∀ k' ∈ special,
      ∀ g ≠ userGroup, g = (specialEffect k).2 → g = (specialEffect k').2 →
        (specialEffect k).1 = (specialEffect k').1) := by
  have hmem : ∀ order g special, userGroup ≠ "" → settings.groupSpecialUsableGroup userGroup = some special →
      (g ∈ settings.getUserUsableGroups order userGroup ↔
        g = userGroup ∨ g ∈ (order.visit special).foldl applySpecialGroup settings.userUsableGroups) := by
    intro order g special hne hspecial
    rw [GroupSettings.getUserUsableGroups, if_neg hne, hspecial]
    dsimp only
    split
    next hin =>
      rw [AList.lookup_isSome] at hin
      exact ⟨.inr, fun h => h.elim (fun heq => heq ▸ hin) id⟩
    · exact AList.mem_insert _
  constructor
  · intro hsame hne special hspecial k hk k' hk' g hother hg hg'
    have h := (hsame (endingWith k) (endingWith k')).1 g
    rw [hmem _ _ _ hne hspecial, hmem _ _ _ hne hspecial, mem_endingWith hk hg, mem_endingWith hk' hg'] at h
    simpa only [hother, false_or, ← Bool.eq_iff_iff] using h
  · intro hfree order order'
    have hgroups : ∀ g, g ∈ settings.getUserUsableGroups order userGroup ↔
        g ∈ settings.getUserUsableGroups order' userGroup := by
      intro g
      by_cases hne : userGroup = ""
      · simp only [GroupSettings.getUserUsableGroups, if_pos hne]
      cases hspecial : settings.groupSpecialUsableGroup userGroup with
      | none => simp only [GroupSettings.getUserUsableGroups, hspecial]
      | some special =>
        rw [hmem _ _ _ hne hspecial, hmem _ _ _ hne hspecial]
        exact or_congr_right' fun hother => mem_foldl_applySpecialGroup order order' fun k hk k' hk' =>
          hfree hne special hspecial k hk k' hk' g hother
    refine ⟨hgroups, fun groupName => ?_⟩
    have hin := hgroups (normalizeTokenGroup groupName)
    rw [← AList.lookup_isSome, ← AList.lookup_isSome, ← Bool.eq_iff_iff] at hin
    unfold isUserTokenGroupAccessible GroupSettings.groupInUserUsableGroups
    rw [hin]

/-- `vip` is added and removed. -/
theorem usable_groups_order_matters :
    let settings : GroupSettings := ⟨∅, fun _ => some ((AList.singleton "+:vip" "").insert "-:vip" ""), fun _ => true⟩
    isUserTokenGroupAccessible settings (endingWith "+:vip") "default" "vip" = true ∧
      isUserTokenGroupAccessible settings (endingWith "-:vip") "default" "vip" = false := by
  decide

end SynthApi
