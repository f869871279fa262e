import SynthApi.Lib.Go

/-!
# Lists that are stored as lines of a text

`joinWith` and `trimChar` are `strings.Join` and `strings.Trim` with a single character; `lines` takes a text apart again.
A list comes back from its text if no entry has the separator in it and neither the first nor the last entry is empty
(`lines_joinWith`). If the entries are distinct this is needed, or an entry is missing (`plain_of_subset_lines`).
-/

namespace Lib.Go

open List

/-- `strings.Join`, with a character. -/
def joinWith (parts : List String) (sep : Char) : String := String.ofList ([sep].intercalate (parts.map String.toList))

/-- `strings.Trim`, of a character. -/
def trimChar (s : String) (c : Char) : String := String.ofList ((s.toList.dropWhile (· == c)).rdropWhile (· == c))

/-- The lines of a text, without those at its ends that are empty. -/
def lines (s : String) (sep : Char) : List String := split (trimChar s sep) sep

section Lines

variable {sep : Char} {parts : List String}

theorem toList_joinWith : (joinWith parts sep).toList = [sep].intercalate (parts.map String.toList) :=
  String.toList_ofList

variable {s p : String}

/-- Pieces of a text have no separator in them. -/
theorem not_mem_of_mem_split (h : p ∈ split s sep) : sep ∉ p.toList := by
  have hchars : ∀ l : List Char, ∀ piece ∈ l.splitOn sep, sep ∉ piece := by
    intro l
    induction l with
    | nil => simp [splitOn]
    | cons c l ih =>
      intro piece hpiece
      rw [splitOn, splitOnP_cons_eq_if_modifyHead] at hpiece
      split at hpiece
      · rcases mem_cons.1 hpiece with rfl | hpiece
        · exact not_mem_nil
        · exact ih piece hpiece
      next hc =>
        obtain ⟨first, rest, hsplit⟩ := exists_cons_of_ne_nil (splitOnP_ne_nil (· == sep) l)
        rw [splitOn, hsplit] at ih
        rw [hsplit] at hpiece
        rcases mem_cons.1 hpiece with rfl | hpiece
        · have hne : sep ≠ c := fun heq => hc (by simp [heq])
          exact fun hmem => (mem_cons.1 hmem).elim hne (ih first mem_cons_self)
        · exact ih piece (mem_cons_of_mem _ hpiece)
  obtain ⟨piece, hpiece, rfl⟩ := mem_map.1 h
  rw [String.toList_ofList]
  exact hchars _ piece hpiece

theorem split_joinWith (hne : parts ≠ []) (h : ∀ p ∈ parts, sep ∉ p.toList) : split (joinWith parts sep) sep = parts := by
  have hsplit : splitOn sep ([sep].intercalate (parts.map String.toList)) = parts.map String.toList := by
    refine splitOn_intercalate sep (fun l hl => ?_) (by simpa using hne)
    obtain ⟨p, hp, rfl⟩ := mem_map.1 hl
    exact h p hp
  rw [split, toList_joinWith, hsplit]
  simp [Function.comp_def]

theorem joinWith_singleton (p : String) : joinWith [p] sep = p := by
  simp [joinWith]

theorem toList_joinWith_cons (p q : String) (rest : List String) :
    (joinWith (p :: q :: rest) sep).toList = p.toList ++ sep :: (joinWith (q :: rest) sep).toList := by
  simp [toList_joinWith]

theorem head_joinWith (hp : p ≠ "") (rest : List String) :
    (joinWith (p :: rest) sep).toList.head? = p.toList.head? := by
  obtain ⟨c, cs, hcs⟩ := exists_cons_of_ne_nil (mt String.toList_eq_nil_iff.1 hp)
  cases rest with
  | nil => rw [joinWith_singleton]
  | cons q rest => rw [toList_joinWith_cons, hcs]; rfl

theorem getLast_joinWith (hp : p ≠ "") (start : List String) :
    (joinWith (start ++ [p]) sep).toList.getLast? = p.toList.getLast? := by
  induction start with
  | nil => rw [nil_append, joinWith_singleton]
  | cons q start ih =>
    obtain ⟨r, rest, hrest⟩ := exists_cons_of_ne_nil (show start ++ [p] ≠ [] by simp)
    have hsome : (joinWith (start ++ [p]) sep).toList ≠ [] := by
      intro hnil
      rw [hnil] at ih
      exact hp (String.toList_eq_nil_iff.1 (getLast?_eq_none_iff.1 ih.symm))
    rw [hrest] at ih hsome
    obtain ⟨c, cs, hcs⟩ := exists_cons_of_ne_nil hsome
    rw [cons_append, hrest, toList_joinWith_cons, ← ih, hcs, getLast?_append_cons, getLast?_cons_cons]

theorem trimChar_eq_self (hhead : s.toList.head? ≠ some sep) (hlast : s.toList.getLast? ≠ some sep) :
    trimChar s sep = s := by
  have hdrop : s.toList.dropWhile (· == sep) = s.toList := by
    cases hs : s.toList with
    | nil => rfl
    | cons c cs =>
      rw [hs] at hhead
      exact dropWhile_cons_of_neg (by simpa using hhead)
  have hrdrop : s.toList.rdropWhile (· == sep) = s.toList := by
    rw [rdropWhile_eq_self_iff]
    intro hne heq
    rw [getLast?_eq_some_getLast hne] at hlast
    exact hlast (by simpa using heq)
  rw [trimChar, hdrop, hrdrop, String.ofList_toList]

theorem length_joinWith (sep : Char) (hne : parts ≠ []) :
    (joinWith parts sep).length + 1 = (parts.map String.length).sum + parts.length := by
  induction parts with
  | nil => exact absurd rfl hne
  | cons p rest ih =>
    cases rest with
    | nil => simp [joinWith_singleton]
    | cons q rest =>
      have hrest := ih (cons_ne_nil q rest)
      rw [← String.length_toList, toList_joinWith_cons, length_append, length_cons, String.length_toList,
        String.length_toList, map_cons, sum_cons, length_cons]
      omega

/-- **A list comes back from its text.** -/
theorem lines_joinWith (hne : parts ≠ []) (h : ∀ p ∈ parts, sep ∉ p.toList) (hhead : parts.head? ≠ some "")
    (hlast : parts.getLast? ≠ some "") : lines (joinWith parts sep) sep = parts := by
  have hbegin : (joinWith parts sep).toList.head? ≠ some sep := by
    obtain ⟨p, rest, rfl⟩ := exists_cons_of_ne_nil hne
    rw [head_joinWith (by simpa using hhead)]
    exact fun heq => h p mem_cons_self (mem_of_mem_head? heq)
  have hend : (joinWith parts sep).toList.getLast? ≠ some sep := by
    obtain hnil | ⟨start, p, rfl⟩ := eq_nil_or_concat' parts
    · exact absurd hnil hne
    · rw [getLast_joinWith (by simpa using hlast)]
      exact fun heq => h p (by simp) (mem_of_getLast? heq)
  rw [lines, trimChar_eq_self hbegin hend, split_joinWith hne h]

theorem trimChar_cons_sep (cs : List Char) :
    trimChar (String.ofList (sep :: cs)) sep = trimChar (String.ofList cs) sep := by
  rw [trimChar, trimChar, String.toList_ofList, String.toList_ofList, dropWhile_cons_of_pos (by simp)]

theorem trimChar_concat_sep (cs : List Char) :
    trimChar (String.ofList (cs ++ [sep])) sep = trimChar (String.ofList cs) sep := by
  rw [trimChar, trimChar, String.toList_ofList, String.toList_ofList, dropWhile_append]
  split
  next hall => simp [isEmpty_iff.1 hall]
  · rw [rdropWhile_concat_pos _ _ _ (by simp)]

theorem lines_empty_cons (hne : parts ≠ []) : lines (joinWith ("" :: parts) sep) sep = lines (joinWith parts sep) sep := by
  obtain ⟨q, rest, rfl⟩ := exists_cons_of_ne_nil hne
  have htext : joinWith ("" :: q :: rest) sep = String.ofList (sep :: (joinWith (q :: rest) sep).toList) := by
    rw [← String.toList_inj, toList_joinWith_cons]
    simp
  rw [lines, htext, trimChar_cons_sep, String.ofList_toList, lines]

theorem lines_concat_empty (hne : parts ≠ []) : lines (joinWith (parts ++ [""]) sep) sep = lines (joinWith parts sep) sep := by
  have htext : ∀ parts : List String, parts ≠ [] →
      (joinWith (parts ++ [""]) sep).toList = (joinWith parts sep).toList ++ [sep] := by
    intro parts hne
    induction parts with
    | nil => exact absurd rfl hne
    | cons p rest ih =>
      cases rest with
      | nil => simp [toList_joinWith_cons, joinWith_singleton]
      | cons q rest =>
        have hrest := ih (cons_ne_nil q rest)
        rw [cons_append] at hrest
        rw [cons_append, cons_append, toList_joinWith_cons, hrest, toList_joinWith_cons]
        simp
  have hstring : joinWith (parts ++ [""]) sep = String.ofList ((joinWith parts sep).toList ++ [sep]) := by
    rw [← String.toList_inj, htext parts hne, String.toList_ofList]
  rw [lines, hstring, trimChar_concat_sep, String.ofList_toList, lines]

theorem lines_of_nonempty (hne : parts ≠ []) (h : ∀ p ∈ parts, sep ∉ p.toList) (hempty : "" ∉ parts) :
    lines (joinWith parts sep) sep = parts :=
  lines_joinWith hne h (fun heq => hempty (mem_of_mem_head? heq)) fun heq => hempty (mem_of_getLast? heq)

/-- **If nothing is missing among the lines, the entries are plain**: distinct entries come back only if none has a
separator in it and the first and the last are not empty. -/
theorem plain_of_subset_lines (hnodup : parts.Nodup) (hone : parts ≠ [""])
    (h : ∀ p ∈ parts, p ∈ lines (joinWith parts sep) sep) :
    (∀ p ∈ parts, sep ∉ p.toList) ∧ parts.head? ≠ some "" ∧ parts.getLast? ≠ some "" := by
  have hplain : ∀ p ∈ parts, sep ∉ p.toList := fun p hp => not_mem_of_mem_split (h p hp)
  refine ⟨hplain, fun hhead => ?_, fun hlast => ?_⟩
  · obtain ⟨rest, rfl⟩ := head?_eq_some_iff.1 hhead
    have hne : rest ≠ [] := fun hnil => hone (by rw [hnil])
    have hempty : "" ∉ rest := (nodup_cons.1 hnodup).1
    have hmem := h "" mem_cons_self
    rw [lines_empty_cons hne, lines_of_nonempty hne (forall_mem_cons.1 hplain).2 hempty] at hmem
    exact hempty hmem
  · obtain ⟨start, rfl⟩ := getLast?_eq_some_iff.1 hlast
    have hne : start ≠ [] := fun hnil => hone (by rw [hnil]; rfl)
    have hempty : "" ∉ start := fun hmem => (nodup_append.1 hnodup).2.2 "" hmem "" (by simp) rfl
    have hmem := h "" (by simp)
    rw [lines_concat_empty hne, lines_of_nonempty hne (fun p hp => hplain p (mem_append_left _ hp)) hempty] at hmem
    exact hempty hmem

end Lines

end Lib.Go
