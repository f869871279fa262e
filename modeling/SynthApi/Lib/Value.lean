import Mathlib.Data.List.AList
import SynthApi.Lib.Go

/-!
# Values of Go: decoded JSON, maps and headers

`Json` is what decoding JSON puts into an `interface{}`. A Go map is an `AList`; a `range` over it visits the keys in an
order that is not specified, a `MapOrder`. `Header` is an `http.Header` with the first value of every name, which is the
one that `Get` gives.
-/

namespace Lib

/-! ## JSON -/

/-- A JSON value. Of the fields of an object with the same key the first one counts. -/
inductive Json where
  | null
  | bool (b : Bool)
  | number (x : ℚ)
  | string (s : String)
  | array (items : List Json)
  | object (fields : List (String × Json))

namespace Json

mutual

/-- At most the length of a text of the value. -/
def weight : Json → Nat
  | .null => 1
  | .bool _ => 1
  | .number _ => 1
  | .string s => s.length + 1
  | .array items => weightItems items + 1
  | .object fields => weightFields fields + 1

def weightItems : List Json → Nat
  | [] => 0
  | v :: vs => weight v + weightItems vs

def weightFields : List (String × Json) → Nat
  | [] => 0
  | (_, v) :: fields => weight v + weightFields fields

end

theorem weight_lt_of_lookup {fields : List (String × Json)} {key : String} {v : Json}
    (h : fields.lookup key = some v) : v.weight < (object fields).weight := by
  have hle : v.weight ≤ weightFields fields := by
    induction fields with
    | nil => cases h
    | cons field fields ih =>
      rw [weightFields]
      rw [List.lookup_cons] at h
      split at h
      · cases h
        omega
      · have := ih h
        omega
  rw [weight]
  omega

end Json

/-! ## Maps -/

/-- The order in which a `range` visits the keys of a map. -/
structure MapOrder (κ : Type) where
  keys : List κ → List κ
  perm : ∀ ks, (keys ks).Perm ks

namespace MapOrder

variable {κ : Type} [DecidableEq κ] {β : κ → Type} (order : MapOrder κ)

def visit (m : AList β) : List (Sigma β) := (order.keys m.keys).filterMap fun k => (m.lookup k).map (Sigma.mk k)

@[simp] theorem visit_empty : order.visit (∅ : AList β) = [] := by
  have hkeys : order.keys (∅ : AList β).keys = [] := by
    exact List.perm_nil.1 (order.perm [])
  rw [visit, hkeys]
  rfl

@[simp] theorem visit_singleton (k : κ) (v : β k) : order.visit (AList.singleton k v) = [⟨k, v⟩] := by
  have hkeys : order.keys (AList.singleton k v).keys = [k] := by
    exact List.perm_singleton.1 (order.perm [k])
  have hlookup : (AList.singleton k v).lookup k = some v := List.dlookup_cons_eq [] k v
  rw [visit, hkeys, List.filterMap_cons, hlookup]
  rfl

end MapOrder

def MapOrder.asEntered (κ : Type) : MapOrder κ := ⟨id, fun ks => List.Perm.refl ks⟩

/-! ## Headers -/

/-- An `http.Header`: the names in it and the first value of each; `""` for a name that is not there. -/
structure Header where
  names : List String
  first : String → String
  first_of_not_mem : ∀ name, name ∉ names → first name = ""

namespace Header

def get (h : Header) (name : String) : String := h.first (Go.canonicalMIMEHeaderKey name)

/-- `Set`, for a name in the canonical form. -/
def set (name value : String) (h : Header) : Header where
  names := if name ∈ h.names then h.names else h.names ++ [name]
  first := Function.update h.first name value
  first_of_not_mem n hn := by
    split at hn
    next hmem =>
      have hne : n ≠ name := fun heq => hn (heq ▸ hmem)
      rw [Function.update_of_ne hne]
      exact h.first_of_not_mem n hn
    next =>
      rw [List.mem_append, List.mem_singleton, not_or] at hn
      rw [Function.update_of_ne hn.2]
      exact h.first_of_not_mem n hn.1

variable {h : Header} {name value : String}

@[simp] theorem set_first : (h.set name value).first name = value := Function.update_self ..

theorem set_self (hvalue : value ≠ "") (hfirst : h.first name = value) : h.set name value = h := by
  have hmem : name ∈ h.names := by
    by_contra hn
    exact hvalue (hfirst ▸ h.first_of_not_mem name hn)
  obtain ⟨names, first, hnamed⟩ := h
  simp only [set, Header.mk.injEq]
  exact ⟨if_pos hmem, by rw [← hfirst]; exact Function.update_eq_self name first⟩

/-- The last value counts. -/
theorem set_set (value' : String) : (h.set name value).set name value' = h.set name value' := by
  obtain ⟨names, first, hnamed⟩ := h
  simp only [set, Function.update_idem]
  by_cases hmem : name ∈ names <;> simp [hmem]

end Header

end Lib
