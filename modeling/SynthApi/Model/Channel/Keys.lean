import SynthApi.Lib.Lines
import SynthApi.Model.Channel.Basic

/-!
# The keys of a channel

The column `key` holds the keys of a channel as lines or as a JSON array; what is known of a key, such as its status, is kept
by its position. `getKeys` reads the column, `ChannelKeys.update` is `Channel.Update` (`model/channel.go`): an empty `key` is
a zero value, which `Updates` of GORM does not write.

A list of keys that is written as lines is read back if `ReadsBack` holds. For distinct keys that is also needed: otherwise
one of them is missing (`readsBack_of_subset`).
-/

namespace SynthApi

open Lib Lib.Go Option

/-- What `encoding/json` reads. -/
structure KeyReader where
  /-- `json.Unmarshal` into `[]json.RawMessage`: the texts of the elements. -/
  rawArray : String → Option (List String)
  /-- The elements are in the text, with brackets around and commas in between. -/
  rawArray_length : ∀ {s : String} {arr : List String}, rawArray s = some arr →
    (arr.map String.length).sum + arr.length + 1 ≤ s.length
  /-- `json.Unmarshal` into `[]interface{}`: an element is a string, or another value with its encoding. -/
  anyArray : String → Except String (List (String ⊕ String))

structure ChannelKeys where
  key : String
  multiKeySize : Int
  channelInfo : ChannelInfo

def ChannelInfo.keyStatus (info : ChannelInfo) (i : Nat) : Int := (info.multiKeyStatusList i).getD channelStatusEnabled

section Keys

variable (reader : KeyReader)

/-- The elements, if the text is a JSON array. -/
def arrayKeys (key : String) : Option (List String) :=
  if hasPrefix (trimSpace key) "[" then reader.rawArray (trimSpace key) else none

/-- `Channel.GetKeys`, of a channel that was read from the database. -/
def getKeys (key : String) : List String := if key = "" then [] else (arrayKeys reader key).getD (lines key '\n')

/-- The keys as `Update` counts them. -/
def countedKeys (key : String) : List String :=
  if key = "" then []
  else
    let keys := (arrayKeys reader key).getD []
    if keys.length = 0 then lines key '\n' else keys

/-- `Channel.Update` of `channel`, over what is `stored`. -/
def ChannelKeys.update (stored channel : ChannelKeys) : ChannelKeys :=
  let key := if channel.key ≠ "" then channel.key else stored.key
  if channel.channelInfo.isMultiKey then
    let size := (countedKeys reader key).length
    { key := key
      multiKeySize := size
      channelInfo :=
        { channel.channelInfo with
          multiKeyStatusList := fun i => if size ≤ i then none else channel.channelInfo.multiKeyStatusList i } }
  else { channel with key := key }

def ChannelKeys.HasStatus (c : ChannelKeys) (k : String) (s : Int) : Prop :=
  ∃ i, (getKeys reader c.key)[i]? = some k ∧ c.channelInfo.keyStatus i = s

structure ReadsBack (keys : List String) : Prop where
  ne : keys ≠ []
  plain : ∀ k ∈ keys, '\n' ∉ k.toList
  head : keys.head? ≠ some ""
  last : keys.getLast? ≠ some ""
  /-- The text is not taken for a JSON array. -/
  text : arrayKeys reader (joinWith keys '\n') = none

variable {reader} {keys : List String}

theorem getKeys_length_le (reader : KeyReader) (key : String) : (getKeys reader key).length ≤ (countedKeys reader key).length := by
  unfold getKeys countedKeys
  split
  · exact le_rfl
  · rcases arrayKeys reader key with _ | _ | ⟨k, arr⟩
    · rw [getD_none]
      rfl
    · exact Nat.zero_le _
    · rw [getD_some, getD_some, if_neg (by simp)]

section Update

variable (stored : ChannelKeys) {key : String} {size : Int} {info : ChannelInfo}

/-- **The statuses after `Update`** are those of the channel that was passed to it, for the keys that are stored then. -/
theorem update_hasStatus (hmulti : info.isMultiKey) {k : String} {s : Int} :
    (ChannelKeys.update reader stored ⟨key, size, info⟩).HasStatus reader k s ↔
      ∃ i, (getKeys reader (ChannelKeys.update reader stored ⟨key, size, info⟩).key)[i]? = some k ∧ info.keyStatus i = s := by
  set written := ChannelKeys.update reader stored ⟨key, size, info⟩
  refine exists_congr fun i => and_congr_right fun hk => ?_
  have hbound : ¬ (countedKeys reader written.key).length ≤ i := by
    have hlt := (List.getElem?_eq_some_iff.1 hk).1
    have hle := getKeys_length_le reader written.key
    omega
  unfold written ChannelKeys.update at hbound ⊢
  rw [if_pos hmulti] at hbound ⊢
  rw [ChannelInfo.keyStatus, ChannelInfo.keyStatus]
  simp only [if_neg hbound]

theorem update_key (h : key ≠ "") : (ChannelKeys.update reader stored ⟨key, size, info⟩).key = key := by
  rw [ChannelKeys.update]
  split <;> rfl

theorem update_key_empty (h : key = "") : (ChannelKeys.update reader stored ⟨key, size, info⟩).key = stored.key := by
  rw [ChannelKeys.update, if_neg (not_not.2 h)]
  split <;> rfl

end Update

theorem joinWith_ne_empty (hne : keys ≠ []) (hone : keys ≠ [""]) : joinWith keys '\n' ≠ "" := by
  obtain ⟨p, rest, rfl⟩ := List.exists_cons_of_ne_nil hne
  intro hempty
  have hnil : (joinWith (p :: rest) '\n').toList = [] := String.toList_eq_nil_iff.2 hempty
  cases rest with
  | nil =>
    rw [joinWith_singleton] at hempty
    exact hone (by rw [hempty])
  | cons q rest =>
    rw [toList_joinWith_cons] at hnil
    simp at hnil

theorem ReadsBack.getKeys_eq (h : ReadsBack reader keys) : getKeys reader (joinWith keys '\n') = keys := by
  have hne := joinWith_ne_empty h.ne fun hone => h.head (by rw [hone]; rfl)
  rw [getKeys, if_neg hne, h.text, getD_none, lines_joinWith h.ne h.plain h.head h.last]

/-- The elements of an array that a text is are shorter than the text; so distinct keys are not all among them. -/
theorem not_subset_array (hnodup : keys.Nodup) (hne : keys ≠ []) {arr : List String}
    (harr : arrayKeys reader (joinWith keys '\n') = some arr) : ¬ keys ⊆ arr := by
  intro hsub
  obtain ⟨keys', hperm, hsublist⟩ := List.subperm_of_subset hnodup hsub
  have hlength : keys.length ≤ arr.length := hperm.length_eq ▸ hsublist.length_le
  have hsum : (keys.map String.length).sum ≤ (arr.map String.length).sum := by
    rw [← (hperm.map String.length).sum_eq]
    exact (hsublist.map String.length).sum_le_sum fun _ _ => Nat.zero_le _
  obtain ⟨-, hread⟩ := ite_none_right_eq_some.1 harr
  have hraw := reader.rawArray_length hread
  have htrim := trimSpace_length_le (joinWith keys '\n')
  have hjoin := length_joinWith '\n' hne
  omega

/-- **Distinct keys are read back, or one of them is missing.** -/
theorem readsBack_of_subset (hnodup : keys.Nodup) (htext : joinWith keys '\n' ≠ "")
    (hsub : keys ⊆ getKeys reader (joinWith keys '\n')) : ReadsBack reader keys := by
  have hne : keys ≠ [] := by
    rintro rfl
    exact htext rfl
  have hone : keys ≠ [""] := by
    rintro rfl
    exact htext (joinWith_singleton "")
  rw [getKeys, if_neg htext] at hsub
  cases harr : arrayKeys reader (joinWith keys '\n') with
  | some arr =>
    rw [harr] at hsub
    exact absurd hsub (not_subset_array hnodup hne harr)
  | none =>
    rw [harr, getD_none] at hsub
    obtain ⟨hplain, hhead, hlast⟩ := plain_of_subset_lines hnodup hone hsub
    exact ⟨hne, hplain, hhead, hlast, harr⟩

end Keys

end SynthApi
