import SynthApi.Model.Channel.Keys

/-!
# Edits of the keys of a channel

`delete_key` and `delete_disabled_keys` of `ManageMultiKeys`, and the key mode `append` of `UpdateChannel`
(`controller/channel.go`). Each writes a list of keys as lines (`writtenKeys`) and, by position, what is known of them.

For a channel with several distinct keys an edit does what it should (`EditPreserves`) if and only if `KeyEdit.Safe` holds:
the keys that are left or joined are read back from their lines, and no status is stored beyond the keys of the channel
(`key_edit_iff`). A list whose text is empty is not written at all, and one that begins like an array but is none is
overwritten by `append`.
-/

namespace SynthApi

open Lib Lib.Go List

/-! ## The edits -/

/-- What is stored for a key, by its position. -/
structure KeyEntry where
  status : Option Int
  disabledTime : Option Int
  disabledReason : Option String

def KeyEntry.empty : KeyEntry := ⟨none, none, none⟩

/-- `remainingKeys` and the new maps. -/
structure KeptKeys where
  remaining : List String
  entries : Nat → KeyEntry

namespace KeptKeys

def empty : KeptKeys := ⟨[], fun _ => .empty⟩

def push (kept : KeptKeys) (key : String) (entry : KeyEntry) : KeptKeys :=
  ⟨kept.remaining ++ [key], Function.update kept.entries kept.remaining.length entry⟩

end KeptKeys

/-- The loop over the keys: those that are not skipped are kept, with the `entry` of their position. -/
def keepKeys (skip : Nat → Bool) (entry : Nat → KeyEntry) : List String → Nat → KeptKeys → KeptKeys
  | [], _, kept => kept
  | key :: keys, i, kept => keepKeys skip entry keys (i + 1) (if skip i then kept else kept.push key (entry i))

section Edits

variable (reader : KeyReader) (c : ChannelKeys)

/-- The remaining keys are written, with the new maps. -/
def storeKept (kept : KeptKeys) : ChannelKeys :=
  ChannelKeys.update reader c
    { key := joinWith kept.remaining '\n'
      multiKeySize := kept.remaining.length
      channelInfo :=
        { c.channelInfo with
          multiKeyStatusList := fun i => (kept.entries i).status
          multiKeyDisabledTime := fun i => (kept.entries i).disabledTime
          multiKeyDisabledReason := fun i => (kept.entries i).disabledReason } }

def deleteEntry (info : ChannelInfo) (i : Nat) : KeyEntry :=
  ⟨(info.multiKeyStatusList i).filter (· ≠ channelStatusEnabled), info.multiKeyDisabledTime i, info.multiKeyDisabledReason i⟩

def deleteKey (keyIndex : Option Int) : Except String ChannelKeys :=
  match keyIndex with
  | none => .error "未指定要删除的密钥索引"
  | some keyIndex =>
    if keyIndex < 0 ∨ c.multiKeySize ≤ keyIndex then .error "密钥索引超出范围"
    else
      let kept := keepKeys (fun i => decide ((i : Int) = keyIndex)) (deleteEntry c.channelInfo) (getKeys reader c.key) 0 .empty
      if kept.remaining.length = 0 then .error "不能删除最后一个密钥" else .ok (storeKept reader c kept)

/-- What `delete_disabled_keys` keeps for a key: nothing, if it is enabled. -/
def disabledEntry (info : ChannelInfo) (i : Nat) : KeyEntry :=
  if info.keyStatus i ≠ channelStatusEnabled then
    ⟨some (info.keyStatus i), info.multiKeyDisabledTime i, info.multiKeyDisabledReason i⟩
  else .empty

def autoDisabled (info : ChannelInfo) (i : Nat) : Bool := info.keyStatus i = channelStatusAutoDisabled

def deleteDisabledKeys : Except String ChannelKeys :=
  let keys := getKeys reader c.key
  let deletedCount := (range keys.length).countP (autoDisabled c.channelInfo)
  if deletedCount = 0 then .error "没有需要删除的自动禁用密钥"
  else
    .ok (storeKept reader c (keepKeys (autoDisabled c.channelInfo) (disabledEntry c.channelInfo) keys 0 .empty))

/-- What `UpdateChannel` reads of a request with the key mode `append`. -/
structure AppendRequest where
  key : String
  multiKeyMode : Option MultiKeyMode
  /-- The channel is one of Vertex AI whose keys are not API keys. -/
  vertexJson : Bool

def getVertexArrayKeys (keys : String) : Except String (List String) :=
  if keys = "" then .ok []
  else
    match reader.anyArray keys with
    | .error err =>
      .error ("批量添加 Vertex AI 必须使用标准的JsonArray格式，例如[\x7bkey1\x7d, \x7bkey2\x7d...]，请检查输入: " ++ err)
    | .ok keyArray =>
      let cleanKeys := (keyArray.map (Sum.elim trimSpace id)).filter (· ≠ "")
      if cleanKeys.length = 0 then .error "批量添加 Vertex AI 的 keys 不能为空" else .ok cleanKeys

def newKeys (request : AppendRequest) : Except String (List String) :=
  if request.vertexJson then
    if hasPrefix (trimSpace request.key) "[" then
      (getVertexArrayKeys reader request.key).mapError ("追加密钥解析失败: " ++ ·)
    else .ok [request.key]
  else .ok (((split request.key '\n').map trimSpace).filter (· ≠ ""))

/-- The keys of the channel, as `append` reads them: none if the text begins like an array but is none. -/
def existingKeys (key : String) : List String :=
  if hasPrefix (trimSpace key) "[" then (reader.rawArray (trimSpace key)).getD [] else lines key '\n'

def dedupeKeys (seen : List String) : List String → List String
  | [] => []
  | key :: keys =>
    if trimSpace key = "" ∨ trimSpace key ∈ seen then dedupeKeys seen keys
    else trimSpace key :: dedupeKeys (trimSpace key :: seen) keys

/-- The keys of the request that are added to `existing` ones. -/
def dedupedNewKeys (existing keys : List String) : List String :=
  dedupeKeys ((existing.map trimSpace).filter (· ≠ "")) keys

def allKeys (key : String) (new : List String) : List String :=
  existingKeys reader key ++ dedupedNewKeys (existingKeys reader key) new

def appendKeys (request : AppendRequest) : Except String ChannelKeys :=
  let info := { c.channelInfo with multiKeyMode := request.multiKeyMode.getD c.channelInfo.multiKeyMode }
  if c.key = "" then .ok (ChannelKeys.update reader c ⟨request.key, c.multiKeySize, info⟩)
  else
    match newKeys reader request with
    | .error err => .error err
    | .ok new => .ok (ChannelKeys.update reader c ⟨joinWith (allKeys reader c.key new) '\n', c.multiKeySize, info⟩)

end Edits

inductive KeyEdit where
  | deleteKey (keyIndex : Option Int)
  | deleteDisabledKeys
  | append (request : AppendRequest)

namespace KeyEdit

variable (reader : KeyReader) (c : ChannelKeys)

/-- The columns after the edit, or why it is refused. -/
def run : KeyEdit → Except String ChannelKeys
  | .deleteKey keyIndex => SynthApi.deleteKey reader c keyIndex
  | .deleteDisabledKeys => SynthApi.deleteDisabledKeys reader c
  | .append request => appendKeys reader c request

end KeyEdit

/-! ## What an edit should do -/

section Spec

variable (reader : KeyReader) (c : ChannelKeys)

/-- The keys at positions that are not skipped. -/
def unskipped (skip : Nat → Bool) (keys : List String) : List (String × Nat) := keys.zipIdx.filter fun k => !skip k.2

def KeyEdit.skips : KeyEdit → Nat → Bool
  | .deleteKey keyIndex => fun i => decide (some (i : Int) = keyIndex)
  | .deleteDisabledKeys => autoDisabled c.channelInfo
  | .append _ => fun _ => false

def KeyEdit.Deletes (edit : KeyEdit) (k : String) : Prop :=
  ∃ i, (getKeys reader c.key)[i]? = some k ∧ edit.skips c i = true

def KeyEdit.added : KeyEdit → List String
  | .append request =>
    if c.key = "" then getKeys reader request.key
    else
      (dedupedNewKeys (existingKeys reader c.key) ((newKeys reader request).toOption.getD [])).filter
        (· ∉ getKeys reader c.key)
  | _ => []

/-- **What an edit should do** to the keys: those that it is not to delete stay as they are, those that it adds are enabled,
and those that it is to delete are gone. -/
structure EditPreserves (edit : KeyEdit) (c' : ChannelKeys) : Prop where
  kept : ∀ k s, c.HasStatus reader k s → ¬ edit.Deletes reader c k → c'.HasStatus reader k s
  unchanged : ∀ k s s', c.HasStatus reader k s → ¬ edit.Deletes reader c k → c'.HasStatus reader k s' → s' = s
  added : ∀ k ∈ edit.added reader c, c'.HasStatus reader k channelStatusEnabled
  enabled : ∀ k s, c'.HasStatus reader k s → k ∉ getKeys reader c.key → s = channelStatusEnabled
  gone : ∀ k, edit.Deletes reader c k → k ∉ getKeys reader c'.key

/-- `append` understands the keys of the channel: what begins like an array is one. -/
def KeyEdit.TextParses : KeyEdit → Prop
  | .append _ => hasPrefix (trimSpace c.key) "[" → (reader.rawArray (trimSpace c.key)).isSome
  | _ => True

/-- The condition under which an edit does it. -/
def KeyEdit.Safe : KeyEdit → Prop
  | .append request =>
    let keys := getKeys reader c.key
    let added := KeyEdit.added reader c (.append request)
    (c.key = "" ∨ joinWith (keys ++ added) '\n' = "" ∨ ReadsBack reader (keys ++ added)) ∧
      ∀ i < added.length, c.channelInfo.keyStatus (keys.length + i) = channelStatusEnabled
  | edit =>
    let remaining := (unskipped (edit.skips c) (getKeys reader c.key)).map (·.1)
    if joinWith remaining '\n' = "" then ∀ k, ¬ edit.Deletes reader c k else ReadsBack reader remaining

end Spec

/-! ## The lists that are written -/

section Loops

variable {skip : Nat → Bool} {entry : Nat → KeyEntry} {keys : List String}

/-- **The loop**: what was kept before, `done`, and then the keys that are not skipped, each with its entry. -/
theorem keepKeys_spec {n : Nat} {kept : KeptKeys} (done : List (String × Nat))
    (hremaining : kept.remaining = done.map (·.1)) (hentries : ∀ j p, done[j]? = some p → kept.entries j = entry p.2) :
    (keepKeys skip entry keys n kept).remaining = (done ++ (keys.zipIdx n).filter fun k => !skip k.2).map (·.1) ∧
      ∀ j p, (done ++ (keys.zipIdx n).filter fun k => !skip k.2)[j]? = some p →
        (keepKeys skip entry keys n kept).entries j = entry p.2 := by
  induction keys generalizing n kept done with
  | nil =>
    rw [zipIdx_nil, filter_nil, append_nil]
    exact ⟨hremaining, hentries⟩
  | cons key keys ih =>
    rw [keepKeys, zipIdx_cons, filter_cons]
    cases hskip : skip n with
    | true => simpa [hskip] using ih done hremaining hentries
    | false =>
      have hpush : (kept.push key (entry n)).remaining = (done ++ [(key, n)]).map (·.1) := by
        simp [KeptKeys.push, hremaining]
      have hlength : kept.remaining.length = done.length := by rw [hremaining, length_map]
      have hpushed : ∀ j p, (done ++ [(key, n)])[j]? = some p → (kept.push key (entry n)).entries j = entry p.2 := by
        intro j p hp
        show Function.update kept.entries kept.remaining.length (entry n) j = entry p.2
        rw [hlength]
        by_cases hj : j = done.length
        · subst hj
          obtain rfl : (key, n) = p := by simpa using hp
          exact Function.update_self ..
        · have hlt : j < done.length := by
            have := (List.getElem?_eq_some_iff.1 hp).1
            simp at this
            omega
          rw [getElem?_append_left hlt] at hp
          rw [Function.update_of_ne hj]
          exact hentries j p hp
      simpa using ih _ hpush hpushed

theorem keepKeys_empty (skip : Nat → Bool) (entry : Nat → KeyEntry) (keys : List String) :
    (keepKeys skip entry keys 0 .empty).remaining = (unskipped skip keys).map (·.1) ∧
      ∀ j p, (unskipped skip keys)[j]? = some p → (keepKeys skip entry keys 0 .empty).entries j = entry p.2 :=
  keepKeys_spec [] rfl nofun

theorem mem_unskipped {p : String × Nat} : p ∈ unskipped skip keys ↔ keys[p.2]? = some p.1 ∧ skip p.2 = false := by
  rw [unskipped, mem_filter, mem_zipIdx_iff_getElem?]
  simp

theorem unskipped_nodup (h : keys.Nodup) : ((unskipped skip keys).map (·.1)).Nodup := by
  refine h.sublist ?_
  have hsublist := (filter_sublist (p := fun k => !skip k.2) (l := keys.zipIdx)).map Prod.fst
  rwa [zipIdx_map_fst] at hsublist

theorem position_eq (h : keys.Nodup) {k : String} {i j : Nat} (hi : keys[i]? = some k)
    (hj : keys[j]? = some k) : i = j := by
  obtain ⟨hi', hik⟩ := List.getElem?_eq_some_iff.1 hi
  obtain ⟨hj', hjk⟩ := List.getElem?_eq_some_iff.1 hj
  exact (Nodup.getElem_inj_iff h).1 (hik.trans hjk.symm)

end Loops

section Dedupe

theorem dedupeKeys_mem {seen keys : List String} {k : String} (h : k ∈ dedupeKeys seen keys) :
    k ≠ "" ∧ k ∉ seen ∧ trimSpace k = k := by
  induction keys generalizing seen with
  | nil => cases h
  | cons key keys ih =>
    rw [dedupeKeys] at h
    split at h
    · exact ih h
    next hnew =>
      push Not at hnew
      rcases mem_cons.1 h with rfl | h
      · exact ⟨hnew.1, hnew.2, trimSpace_trimSpace key⟩
      · obtain ⟨hne, hseen, htrim⟩ := ih h
        exact ⟨hne, fun hmem => hseen (mem_cons_of_mem _ hmem), htrim⟩

theorem dedupeKeys_nodup (seen keys : List String) : (dedupeKeys seen keys).Nodup := by
  induction keys generalizing seen with
  | nil => exact nodup_nil
  | cons key keys ih =>
    rw [dedupeKeys]
    split
    · exact ih seen
    · exact nodup_cons.2 ⟨fun hmem => (dedupeKeys_mem hmem).2.1 mem_cons_self, ih _⟩

theorem dedupedNewKeys_disjoint {existing keys : List String} {k : String} (h : k ∈ dedupedNewKeys existing keys) :
    k ∉ existing := by
  obtain ⟨hne, hseen, htrim⟩ := dedupeKeys_mem h
  intro hmem
  refine hseen (mem_filter.2 ⟨mem_map.2 ⟨k, hmem, htrim⟩, ?_⟩)
  simpa using hne

variable {reader : KeyReader} {key : String}

theorem existingKeys_eq (hne : key ≠ "") (hparse : hasPrefix (trimSpace key) "[" → (reader.rawArray (trimSpace key)).isSome) :
    existingKeys reader key = getKeys reader key := by
  unfold existingKeys getKeys arrayKeys
  rw [if_neg hne]
  by_cases hprefix : hasPrefix (trimSpace key) "["
  · obtain ⟨arr, harr⟩ := Option.isSome_iff_exists.1 (hparse hprefix)
    rw [if_pos hprefix, if_pos hprefix, harr]
    rfl
  · rw [if_neg hprefix, if_neg hprefix, Option.getD_none]

theorem allKeys_nodup (hnodup : (existingKeys reader key).Nodup) (new : List String) : (allKeys reader key new).Nodup := by
  refine nodup_append.2 ⟨hnodup, dedupeKeys_nodup _ _, ?_⟩
  rintro k hk _ hnew rfl
  exact dedupedNewKeys_disjoint hnew hk

end Dedupe

/-! ## When an edit does what it should -/

section Stored

variable {reader : KeyReader} {c : ChannelKeys} {edit : KeyEdit} {info : ChannelInfo} {size : Int} {k : String} {s : Int}

theorem hasStatus_mem (h : c.HasStatus reader k s) : k ∈ getKeys reader c.key := by
  obtain ⟨i, hi, -⟩ := h
  exact mem_of_getElem? hi

/-- **A list of keys is written**: it must be read back, with all that is kept, and with every status where it belongs. -/
theorem stored_iff {written : List String} (hmulti : info.isMultiKey)
    (htext : joinWith written '\n' ≠ "") (hnodup : written.Nodup)
    (hfrom : ∀ k ∈ written, k ∈ getKeys reader c.key ∨ k ∈ edit.added reader c)
    (hadded : ∀ k ∈ edit.added reader c, k ∈ written ∧ k ∉ getKeys reader c.key)
    (hdeleted : ∀ k, edit.Deletes reader c k → k ∉ written) :
    EditPreserves reader c edit (ChannelKeys.update reader c ⟨joinWith written '\n', size, info⟩) ↔
      ReadsBack reader written ∧ (∀ k ∈ getKeys reader c.key, ¬ edit.Deletes reader c k → k ∈ written) ∧
        ∀ i k, written[i]? = some k → (∀ s, c.HasStatus reader k s → info.keyStatus i = s) ∧
          (k ∉ getKeys reader c.key → info.keyStatus i = channelStatusEnabled) := by
  set stored := ChannelKeys.update reader c ⟨joinWith written '\n', size, info⟩
  have hkey : stored.key = joinWith written '\n' := update_key c htext
  have hstatus : ∀ k s, stored.HasStatus reader k s ↔
      ∃ i, (getKeys reader (joinWith written '\n'))[i]? = some k ∧ info.keyStatus i = s := by
    intro k s
    rw [update_hasStatus c hmulti, hkey]
  constructor
  · rintro ⟨hkept, hunchanged, hnew, henabled, -⟩
    have hpresent : ∀ {k s}, stored.HasStatus reader k s → k ∈ getKeys reader (joinWith written '\n') :=
      fun hs => hkey ▸ hasStatus_mem hs
    have hold : ∀ k ∈ getKeys reader c.key, ¬ edit.Deletes reader c k → k ∈ getKeys reader (joinWith written '\n') := by
      intro k hk hnot
      obtain ⟨i, hi⟩ := mem_iff_getElem?.1 hk
      exact hpresent (hkept k _ ⟨i, hi, rfl⟩ hnot)
    have hback : ReadsBack reader written := by
      refine readsBack_of_subset hnodup htext fun k hk => ?_
      rcases hfrom k hk with hmem | hmem
      · exact hold k hmem fun hdel => hdeleted k hdel hk
      · exact hpresent (hnew k hmem)
    simp only [hback.getKeys_eq] at hold hstatus
    refine ⟨hback, hold, fun i k hi => ⟨fun s hs => ?_, fun hnot => ?_⟩⟩
    · have hnot : ¬ edit.Deletes reader c k := fun hdel => hdeleted k hdel (mem_of_getElem? hi)
      exact hunchanged k s _ hs hnot ((hstatus k _).2 ⟨i, hi, rfl⟩)
    · exact henabled k _ ((hstatus k _).2 ⟨i, hi, rfl⟩) hnot
  · rintro ⟨hback, hold, hright⟩
    simp only [hback.getKeys_eq] at hstatus
    refine ⟨fun k s hs hnot => ?_, fun k s s' hs hnot hs' => ?_, fun k hk => ?_, fun k s hs hnot => ?_, fun k hdel => ?_⟩
    · obtain ⟨j, hj, -⟩ := id hs
      obtain ⟨i, hi⟩ := mem_iff_getElem?.1 (hold k (mem_of_getElem? hj) hnot)
      exact (hstatus k s).2 ⟨i, hi, (hright i k hi).1 s hs⟩
    · obtain ⟨i, hi, hi'⟩ := (hstatus k s').1 hs'
      exact hi'.symm.trans ((hright i k hi).1 s hs)
    · obtain ⟨hmem, hnot⟩ := hadded k hk
      obtain ⟨i, hi⟩ := mem_iff_getElem?.1 hmem
      exact (hstatus k _).2 ⟨i, hi, (hright i k hi).2 hnot⟩
    · obtain ⟨i, hi, hi'⟩ := (hstatus k s).1 hs
      exact hi'.symm.trans ((hright i k hi).2 hnot)
    · rw [hkey, hback.getKeys_eq]
      exact hdeleted k hdel

variable {request : AppendRequest}

theorem hasStatus_inj (hkeys : (getKeys reader c.key).Nodup) {s' : Int} (h : c.HasStatus reader k s)
    (h' : c.HasStatus reader k s') : s' = s := by
  obtain ⟨i, hi, rfl⟩ := h
  obtain ⟨j, hj, rfl⟩ := h'
  rw [position_eq hkeys hi hj]

/-- **An empty text** is not written: an edit that leaves the statuses as they are does what it should if it has nothing to
delete. -/
theorem unwritten_preserves {text : String} (hmulti : info.isMultiKey)
    (htext : text = "") (hkeys : (getKeys reader c.key).Nodup)
    (hinfo : ∀ (i : Nat) k, (getKeys reader c.key)[i]? = some k → info.keyStatus i = c.channelInfo.keyStatus i)
    (hdeletes : ∀ k, ¬ edit.Deletes reader c k) (hadded : edit.added reader c = []) :
    EditPreserves reader c edit (ChannelKeys.update reader c ⟨text, size, info⟩) := by
  have hstatus : ∀ k s, (ChannelKeys.update reader c ⟨text, size, info⟩).HasStatus reader k s ↔ c.HasStatus reader k s := by
    intro k s
    rw [update_hasStatus c hmulti, update_key_empty c htext]
    exact exists_congr fun i => and_congr_right fun hi => by rw [hinfo i k hi]
  exact
    { kept := fun k s hs _ => (hstatus k s).2 hs
      unchanged := fun k _ s' hs _ hs' => hasStatus_inj hkeys hs ((hstatus k s').1 hs')
      added := fun _ hk => absurd (hadded ▸ hk) not_mem_nil
      enabled := fun k s hs hnot => absurd (hasStatus_mem ((hstatus k s).1 hs)) hnot
      gone := fun k hdel => absurd hdel (hdeletes k) }

/-- A key that is not to be deleted is at a position that is not skipped, and has no other. -/
theorem mem_unskipped_iff (hkeys : (getKeys reader c.key).Nodup) :
    k ∈ (unskipped (edit.skips c) (getKeys reader c.key)).map (·.1) ↔
      k ∈ getKeys reader c.key ∧ ¬ edit.Deletes reader c k := by
  rw [mem_map]
  constructor
  · rintro ⟨p, hp, rfl⟩
    obtain ⟨hi, hskip⟩ := mem_unskipped.1 hp
    refine ⟨mem_of_getElem? hi, ?_⟩
    rintro ⟨j, hj, hskip'⟩
    rw [position_eq hkeys hj hi, hskip] at hskip'
    exact Bool.false_ne_true hskip'
  · rintro ⟨hk, hnot⟩
    obtain ⟨i, hi⟩ := mem_iff_getElem?.1 hk
    refine ⟨(k, i), mem_unskipped.2 ⟨hi, ?_⟩, rfl⟩
    exact Bool.eq_false_iff.2 fun hskip => hnot ⟨i, hi, hskip⟩

theorem unskipped_getElem? (hdeletes : ∀ k, ¬ edit.Deletes reader c k) {i : Nat}
    (hi : (getKeys reader c.key)[i]? = some k) : (unskipped (edit.skips c) (getKeys reader c.key))[i]? = some (k, i) := by
  have hall : unskipped (edit.skips c) (getKeys reader c.key) = (getKeys reader c.key).zipIdx := by
    refine filter_eq_self.2 fun p hp => ?_
    have hp' := mem_zipIdx_iff_getElem?.1 hp
    simpa using fun hskip => hdeletes p.1 ⟨p.2, hp', hskip⟩
  rw [hall, getElem?_zipIdx, hi]
  simp

/-- **The edits that delete** write the keys that are not skipped; `entry` says what is stored for a key that is kept. -/
theorem delete_iff (hmulti : c.channelInfo.isMultiKey) (hkeys : (getKeys reader c.key).Nodup)
    (hadded : edit.added reader c = []) {entry : Nat → KeyEntry}
    (hentry : ∀ i, (entry i).status.getD channelStatusEnabled = c.channelInfo.keyStatus i) :
    EditPreserves reader c edit
        (storeKept reader c (keepKeys (edit.skips c) entry (getKeys reader c.key) 0 .empty)) ↔
      if joinWith ((unskipped (edit.skips c) (getKeys reader c.key)).map (·.1)) '\n' = "" then
        ∀ k, ¬ edit.Deletes reader c k
      else ReadsBack reader ((unskipped (edit.skips c) (getKeys reader c.key)).map (·.1)) := by
  obtain ⟨hremaining, hentries⟩ := keepKeys_empty (edit.skips c) entry (getKeys reader c.key)
  rw [storeKept, hremaining]
  split
  next htext =>
    constructor
    · rintro h k ⟨i, hi, hskip⟩
      refine h.gone k ⟨i, hi, hskip⟩ ?_
      rw [update_key_empty c htext]
      exact mem_of_getElem? hi
    · intro hdeletes
      refine unwritten_preserves hmulti htext hkeys (fun i k hi => ?_) hdeletes hadded
      rw [← hentry i, ← hentries i _ (unskipped_getElem? hdeletes hi)]
      rfl
  next htext =>
    refine (stored_iff (by exact hmulti) htext (unskipped_nodup hkeys) (fun k hk => .inl ((mem_unskipped_iff hkeys).1 hk).1)
      (fun k hk => absurd (hadded ▸ hk) not_mem_nil)
      (fun k hdel hk => ((mem_unskipped_iff hkeys).1 hk).2 hdel)).trans ?_
    refine and_iff_left ⟨fun k hk hnot => (mem_unskipped_iff hkeys).2 ⟨hk, hnot⟩, fun i k hi => ?_⟩
    rw [getElem?_map, Option.map_eq_some_iff] at hi
    obtain ⟨p, hp, rfl⟩ := hi
    have hold := (mem_unskipped.1 (mem_of_getElem? hp)).1
    refine ⟨fun s hs => ?_, fun hnot => absurd (mem_of_getElem? hold) hnot⟩
    rw [← hasStatus_inj hkeys hs ⟨p.2, hold, rfl⟩, ← hentry p.2, ← hentries i p hp]
    rfl

theorem append_not_deletes (request : AppendRequest) (k : String) : ¬ (KeyEdit.append request).Deletes reader c k :=
  fun ⟨_, _, hskip⟩ => Bool.false_ne_true hskip

/-- `append` to a channel that has no key: the statuses that are stored, if any, are those of the new keys. -/
theorem append_first_iff (hmulti : info.isMultiKey) (hinfo : ∀ i, info.keyStatus i = c.channelInfo.keyStatus i)
    (hempty : c.key = "") :
    EditPreserves reader c (.append request) (ChannelKeys.update reader c ⟨request.key, size, info⟩) ↔
      (KeyEdit.append request).Safe reader c := by
  have hkey : (ChannelKeys.update reader c ⟨request.key, size, info⟩).key = request.key := by
    by_cases hrequest : request.key = ""
    · rw [update_key_empty c hrequest, hempty, hrequest]
    · exact update_key c hrequest
  have hold : getKeys reader c.key = [] := if_pos hempty
  have hnone : ∀ k, k ∉ getKeys reader c.key := by simp [hold]
  have hadded : (KeyEdit.append request).added reader c = getKeys reader request.key := if_pos hempty
  have hsafe : (KeyEdit.append request).Safe reader c ↔
      ∀ i < (getKeys reader request.key).length, info.keyStatus i = channelStatusEnabled := by
    simp only [KeyEdit.Safe, hold, hadded, hinfo]
    simp [hempty]
  rw [hsafe]
  constructor
  · intro h i hi
    refine h.enabled (getKeys reader request.key)[i] _ ((update_hasStatus c hmulti).2 ⟨i, ?_, rfl⟩) (hnone _)
    rw [hkey]
    exact getElem?_eq_getElem hi
  · intro h
    refine ⟨fun k s hs => absurd (hasStatus_mem hs) (hnone k), fun k s s' hs => absurd (hasStatus_mem hs) (hnone k),
      fun k hk => ?_, fun k s hs _ => ?_, fun k hdel => absurd hdel (append_not_deletes request k)⟩
    · rw [hadded] at hk
      obtain ⟨i, hi⟩ := mem_iff_getElem?.1 hk
      refine (update_hasStatus c hmulti).2 ⟨i, ?_, h i (List.getElem?_eq_some_iff.1 hi).1⟩
      rwa [hkey]
    · obtain ⟨i, hi, rfl⟩ := (update_hasStatus c hmulti).1 hs
      rw [hkey] at hi
      exact h i (List.getElem?_eq_some_iff.1 hi).1

/-- `append` to the keys of a channel: the new ones are read back after the old ones, and no status waits for them. -/
theorem append_iff {new : List String}
    (hmulti : info.isMultiKey) (hinfo : ∀ i, info.keyStatus i = c.channelInfo.keyStatus i)
    (hkeys : (getKeys reader c.key).Nodup) (hne : c.key ≠ "") (hparse : (KeyEdit.append request).TextParses reader c)
    (hnew : newKeys reader request = .ok new) :
    EditPreserves reader c (.append request)
        (ChannelKeys.update reader c ⟨joinWith (allKeys reader c.key new) '\n', size, info⟩) ↔
      (KeyEdit.append request).Safe reader c := by
  have hexisting := existingKeys_eq hne hparse
  have hadded : (KeyEdit.append request).added reader c = dedupedNewKeys (getKeys reader c.key) new := by
    rw [KeyEdit.added, if_neg hne, hnew, hexisting]
    exact filter_eq_self.2 fun k hk => decide_eq_true (dedupedNewKeys_disjoint hk)
  have hdisjoint : ∀ k ∈ (KeyEdit.append request).added reader c, k ∉ getKeys reader c.key :=
    fun k hk => dedupedNewKeys_disjoint (hadded ▸ hk)
  have hwritten : allKeys reader c.key new = getKeys reader c.key ++ (KeyEdit.append request).added reader c := by
    rw [allKeys, hexisting, hadded]
  have hnodup : (allKeys reader c.key new).Nodup := allKeys_nodup (hexisting ▸ hkeys) new
  rw [hwritten] at hnodup ⊢
  simp only [KeyEdit.Safe, hne, false_or]
  by_cases htext : joinWith (getKeys reader c.key ++ (KeyEdit.append request).added reader c) '\n' = ""
  · have hnone : (KeyEdit.append request).added reader c = [] := by
      refine eq_nil_iff_forall_not_mem.2 fun k hk => ?_
      -- A new key is not empty, so the text would not be.
      have hmem := mem_append_right (getKeys reader c.key) hk
      refine absurd htext (joinWith_ne_empty (ne_nil_of_mem hmem) fun hone => ?_)
      rw [hone, mem_singleton] at hmem
      exact (dedupeKeys_mem (hadded ▸ hk)).1 hmem
    refine iff_of_true ?_ ⟨.inl htext, by simp [hnone]⟩
    exact unwritten_preserves hmulti htext hkeys (fun i _ _ => hinfo i) (append_not_deletes request) hnone
  · rw [or_iff_right htext, stored_iff hmulti htext hnodup]
    · refine and_congr_right fun _ => ?_
      simp only [hinfo]
      constructor
      · rintro ⟨-, hright⟩ i hi
        have hget : (getKeys reader c.key ++ (KeyEdit.append request).added reader c)[(getKeys reader c.key).length + i]? =
            some ((KeyEdit.append request).added reader c)[i] := by
          rw [getElem?_append_right (Nat.le_add_right _ _), Nat.add_sub_cancel_left, getElem?_eq_getElem hi]
        exact (hright _ _ hget).2 (hdisjoint _ (getElem_mem hi))
      · intro hfree
        refine ⟨fun k hk _ => mem_append_left _ hk, fun i k hi => ?_⟩
        rcases Nat.lt_or_ge i (getKeys reader c.key).length with hlt | hge
        · rw [getElem?_append_left hlt] at hi
          exact ⟨fun s hs => hasStatus_inj hkeys hs ⟨i, hi, rfl⟩, fun hnot => absurd (mem_of_getElem? hi) hnot⟩
        · rw [getElem?_append_right hge] at hi
          obtain ⟨j, rfl⟩ := Nat.exists_eq_add_of_le hge
          rw [Nat.add_sub_cancel_left] at hi
          exact ⟨fun s hs => absurd (hasStatus_mem hs) (hdisjoint k (mem_of_getElem? hi)),
            fun _ => hfree j (List.getElem?_eq_some_iff.1 hi).1⟩
    · exact fun k hk => mem_append.1 hk
    · exact fun k hk => ⟨mem_append_right _ hk, hdisjoint k hk⟩
    · exact fun k hdel => absurd hdel (append_not_deletes request k)

end Stored

theorem deleteEntry_status (info : ChannelInfo) (i : Nat) :
    (deleteEntry info i).status.getD channelStatusEnabled = info.keyStatus i := by
  rw [deleteEntry, ChannelInfo.keyStatus]
  cases info.multiKeyStatusList i with
  | none => rfl
  | some s =>
    by_cases hs : s = channelStatusEnabled <;> simp [Option.filter, hs]

theorem disabledEntry_status (info : ChannelInfo) (i : Nat) :
    (disabledEntry info i).status.getD channelStatusEnabled = info.keyStatus i := by
  unfold disabledEntry
  split
  · rfl
  next h => exact (not_not.1 h).symm

/-- **The edits of the keys**: an edit of a channel with several distinct keys, whose text it understands, does what it should if
and only if it is safe. The condition is on the channel and the edit alone. -/
theorem key_edit_iff (reader : KeyReader) (c : ChannelKeys) (hmulti : c.channelInfo.isMultiKey = true)
    (hkeys : (getKeys reader c.key).Nodup) (edit : KeyEdit) (hparse : edit.TextParses reader c) (c' : ChannelKeys)
    (h : edit.run reader c = .ok c') : EditPreserves reader c edit c' ↔ edit.Safe reader c := by
  cases edit with
  | deleteKey keyIndex =>
    cases keyIndex with
    | none => cases h
    | some keyIndex =>
      simp only [KeyEdit.run, deleteKey] at h
      split_ifs at h
      cases h
      have hskips : (KeyEdit.deleteKey (some keyIndex)).skips c = fun i : Nat => decide ((i : Int) = keyIndex) := by
        simp [KeyEdit.skips]
      rw [← hskips]
      exact delete_iff hmulti hkeys rfl (deleteEntry_status c.channelInfo)
  | deleteDisabledKeys =>
    simp only [KeyEdit.run, deleteDisabledKeys] at h
    split_ifs at h
    cases h
    exact delete_iff hmulti hkeys rfl (disabledEntry_status c.channelInfo)
  | append request =>
    rw [KeyEdit.run, appendKeys] at h
    by_cases hempty : c.key = ""
    · rw [if_pos hempty] at h
      cases h
      exact append_first_iff hmulti (fun _ => rfl) hempty
    · rw [if_neg hempty] at h
      cases hnew : newKeys reader request with
      | error err =>
        rw [hnew] at h
        cases h
      | ok new =>
        rw [hnew] at h
        cases h
        exact append_iff hmulti (fun _ => rfl) hkeys hempty hparse hnew

theorem deleteDisabledKeys_run {reader : KeyReader} {c : ChannelKeys}
    (h : (range (getKeys reader c.key).length).countP (autoDisabled c.channelInfo) ≠ 0) :
    KeyEdit.run reader c .deleteDisabledKeys =
      .ok (storeKept reader c
        (keepKeys (autoDisabled c.channelInfo) (disabledEntry c.channelInfo) (getKeys reader c.key) 0 .empty)) :=
  if_neg h

/-- No text is a JSON array. -/
def lineReader : KeyReader := ⟨fun _ => none, nofun, fun _ => .error "invalid character"⟩

/-- A channel with several keys and the statuses that are stored for them. -/
def keysWithStatus (key : String) (statuses : List (Option Int)) : ChannelKeys :=
  ⟨key, statuses.length, ⟨true, fun i => statuses.getD i none, fun _ => none, fun _ => none, 0, .random⟩⟩

/-- The first key was disabled by the gateway and the third by hand. -/
def threeKeys : ChannelKeys := keysWithStatus "a\nb\nc" [some 3, none, some 2]

def disabledKeys : ChannelKeys := keysWithStatus "a\nb" [some 3, some 3]

/-- The second key and the third stay as they are. -/
theorem key_edit_three :
    ∃ c', KeyEdit.run lineReader threeKeys .deleteDisabledKeys = .ok c' ∧
      EditPreserves lineReader threeKeys .deleteDisabledKeys c' := by
  have hrun : KeyEdit.run lineReader threeKeys .deleteDisabledKeys = .ok _ :=
    deleteDisabledKeys_run (by decide +kernel)
  refine ⟨_, hrun, (key_edit_iff lineReader threeKeys rfl (by decide +kernel) .deleteDisabledKeys trivial _ hrun).2 ?_⟩
  exact ⟨by decide +kernel, by decide +kernel, by decide +kernel, by decide +kernel, by decide +kernel⟩

/-- All keys are to be deleted, and all are there afterwards, enabled. -/
theorem disabled_keys_remain :
    disabledKeys.channelInfo.isMultiKey = true ∧ (getKeys lineReader disabledKeys.key).Nodup ∧
      ∃ c', KeyEdit.run lineReader disabledKeys .deleteDisabledKeys = .ok c' ∧
        (∀ k ∈ getKeys lineReader disabledKeys.key, KeyEdit.Deletes lineReader disabledKeys .deleteDisabledKeys k ∧
          c'.HasStatus lineReader k channelStatusEnabled) ∧
        ¬ EditPreserves lineReader disabledKeys .deleteDisabledKeys c' := by
  have hrun : KeyEdit.run lineReader disabledKeys .deleteDisabledKeys = .ok _ :=
    deleteDisabledKeys_run (by decide +kernel)
  refine ⟨rfl, by decide +kernel, _, hrun, ?_, fun h => h.gone "a" ⟨0, by decide +kernel, rfl⟩ (by decide +kernel)⟩
  rw [show getKeys lineReader disabledKeys.key = ["a", "b"] by decide +kernel]
  simp only [forall_mem_cons]
  exact ⟨⟨⟨0, by decide +kernel, rfl⟩, ⟨0, by decide +kernel, by decide +kernel⟩⟩,
    ⟨⟨1, by decide +kernel, rfl⟩, ⟨1, by decide +kernel, by decide +kernel⟩⟩, nofun⟩

end SynthApi
