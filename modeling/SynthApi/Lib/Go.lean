import Mathlib.Data.List.DropRight
import Mathlib.Data.Rat.Floor
import Mathlib.Tactic.Positivity

/-!
# Arithmetic and strings of the Go runtime

* `wrap64` is what `int64` arithmetic stores: the value modulo `2 ^ 64`, between `-2 ^ 63` and `2 ^ 63 - 1`.
* `round0` is `decimal.Round(0)`: to the nearest integer, halves away from zero; `round2` keeps two digits.
* `decimalDiv` is `decimal.Div`, `intPart` is `decimal.IntPart`: the integer part, towards zero.
* `trimSpace`, `trimPrefix`, `strContains` and `replaceAll` are `strings.TrimSpace`, `strings.TrimPrefix`,
  `strings.Contains` and `strings.ReplaceAll`.
-/

namespace Lib.Go

open Int

/-! ## `int64` -/

def InInt64 (x : Int) : Prop := -2 ^ 63 ≤ x ∧ x < 2 ^ 63

instance (x : Int) : Decidable (InInt64 x) := inferInstanceAs (Decidable (_ ∧ _))

/-- The `int64` that stores the result `x` of an operation. -/
def wrap64 (x : Int) : Int := (x + 2 ^ 63) % 2 ^ 64 - 2 ^ 63

theorem wrap64_mem (x : Int) : InInt64 (wrap64 x) := by
  unfold InInt64 wrap64
  omega

/-- Without overflow the operation is the mathematical one. -/
theorem wrap64_of_mem {x : Int} (h : InInt64 x) : wrap64 x = x := by
  unfold InInt64 at h
  unfold wrap64
  omega

/-! ## Decimals -/

/-- Rounding to an integer, halves away from zero. -/
def round0 (q : ℚ) : Int := if q < 0 then -⌊-q + 1 / 2⌋ else ⌊q + 1 / 2⌋

variable {q : ℚ} {c : Char} {n : Nat} {z : Int}

theorem round0_nonneg (h : 0 ≤ q) : 0 ≤ round0 q := by
  have hq : ¬ q < 0 := not_lt.mpr h
  simp only [round0, hq]
  exact floor_nonneg.mpr (by linarith)

theorem round0_le {n : Int} (h : q ≤ n) : round0 q ≤ n := by
  have hhalf : ⌊(n : ℚ) + 1 / 2⌋ = n := by
    rw [floor_eq_iff]
    constructor <;> linarith
  by_cases hq : q < 0
  · simp only [round0, hq, if_true]
    have : -n ≤ ⌊-q + 1 / 2⌋ := le_floor.mpr (by push_cast; linarith)
    omega
  · simp only [round0, hq]
    rw [← hhalf]
    exact floor_le_floor (by linarith)

theorem round0_mono {p : ℚ} (h : p ≤ q) : round0 p ≤ round0 q := by
  by_cases hp : p < 0
  · by_cases hq : q < 0
    · simp only [round0, hp, hq, if_true]
      have := floor_le_floor (show -q + 1 / 2 ≤ -p + 1 / 2 by linarith)
      omega
    · have h₁ := round0_le (n := 0) (by exact_mod_cast hp.le)
      have h₂ := round0_nonneg (not_lt.1 hq)
      omega
  · have hq : ¬ q < 0 := fun hq => hp (lt_of_le_of_lt h hq)
    simp only [round0, hp, hq]
    exact floor_le_floor (by linarith)

/-- `int(d.Round(0).IntPart())`. -/
def roundInt (q : ℚ) : Int := wrap64 (round0 q)

/-- `decimal.Round(2)`. -/
def round2 (q : ℚ) : ℚ := round0 (q * 100) / 100

/-- The quotient, rounded to 16 digits after the point. -/
def decimalDiv (a b : ℚ) : ℚ := round0 (a / b * 10 ^ 16) / 10 ^ 16

/-- The integer part, towards zero. -/
def intPart (q : ℚ) : Int := q.num.tdiv q.den

/-! ## Strings -/

def isSpace (c : Char) : Bool :=
  let n := c.toNat
  n == 0x20 || (0x09 ≤ n && n ≤ 0x0d) || n == 0x85 || n == 0xa0 || n == 0x1680 || (0x2000 ≤ n && n ≤ 0x200a) ||
    n == 0x2028 || n == 0x2029 || n == 0x202f || n == 0x205f || n == 0x3000

variable (s : String)

def trimSpace : String :=
  String.ofList ((s.toList.dropWhile isSpace).reverse.dropWhile isSpace).reverse

/-- `strings.ToUpper` of ASCII text. -/
def toUpper : String := String.ofList (s.toList.map Char.toUpper)

/-- `strings.ToLower` of ASCII text. -/
def toLower : String := String.ofList (s.toList.map Char.toLower)

def hasPrefix (start : String) : Bool := decide (start.toList <+: s.toList)

def hasSuffix (last : String) : Bool := decide (last.toList <:+ s.toList)

/-- `strings.TrimSuffix`. -/
def trimSuffix (last : String) : String :=
  if last.toList <:+ s.toList then String.ofList (s.toList.take (s.length - last.length)) else s

/-- `strings.TrimPrefix`. -/
def trimPrefix (start : String) : String :=
  if start.toList <+: s.toList then String.ofList (s.toList.drop start.length) else s

/-- `strings.Split`, at a character. -/
def split (sep : Char) : List String := (s.toList.splitOn sep).map String.ofList

def strContains (sub : String) : Bool := decide (sub.toList <:+: s.toList)

/-- The text with `old` replaced by `new` from the left, at most `n` times; `skip` characters of an occurrence are left. -/
def replaceChars (old new : List Char) : List Char → (n skip : Nat) → List Char
  | [], _, _ => []
  | _ :: cs, n, skip + 1 => replaceChars old new cs n skip
  | c :: cs, 0, 0 => c :: replaceChars old new cs 0 0
  | c :: cs, n + 1, 0 =>
    if old <+: c :: cs then new ++ replaceChars old new cs n (old.length - 1) else c :: replaceChars old new cs (n + 1) 0

/-- `strings.Replace(s, old, new, 1)`, for an `old` that is not empty. -/
def replaceOne (s old new : String) : String := String.ofList (replaceChars old.toList new.toList s.toList 1 0)

/-- `strings.ReplaceAll`, for an `old` that is not empty. -/
def replaceAll (s old new : String) : String := String.ofList (replaceChars old.toList new.toList s.toList s.length 0)

/-- What stands before the first `sep`, and what from there on: `strings.Index` cuts `s` so, at a character. -/
def cutAt (s : String) (sep : Char) : String × List Char :=
  (String.ofList (s.toList.takeWhile (· ≠ sep)), s.toList.dropWhile (· ≠ sep))

/-- The characters of a header name. -/
def isTokenChar (c : Char) : Bool := c.isAlphanum || "!#$%&'*+-.^_|~".toList.contains c || c.toNat == 0x60

/-- Upper case at the start and after a hyphen, lower case elsewhere. -/
def canonicalChars : (upper : Bool) → List Char → List Char
  | _, [] => []
  | upper, c :: cs => (if upper then c.toUpper else c.toLower) :: canonicalChars (c = '-') cs

def canonicalMIMEHeaderKey (name : String) : String :=
  if name.toList.all isTokenChar then String.ofList (canonicalChars true name.toList) else name

/-- Trimming on the right keeps a list that is trimmed on the left. -/
theorem dropWhile_rdropWhile {p : Char → Bool} {l : List Char} (h : l.dropWhile p = l) :
    (l.rdropWhile p).dropWhile p = l.rdropWhile p := by
  rw [List.dropWhile_eq_self_iff] at h ⊢
  intro hl
  have hpre := List.rdropWhile_prefix p l
  have hlen : 0 < l.length := lt_of_lt_of_le hl hpre.length_le
  rw [hpre.getElem hl]
  exact h hlen

theorem trimSpace_length_le : (trimSpace s).length ≤ s.length := by
  rw [trimSpace, String.length_ofList, List.length_reverse]
  refine (List.dropWhile_sublist isSpace).length_le.trans ?_
  rw [List.length_reverse]
  exact (List.dropWhile_sublist isSpace).length_le

theorem trimSpace_trimSpace : trimSpace (trimSpace s) = trimSpace s := by
  have h : trimSpace s = String.ofList ((s.toList.dropWhile isSpace).rdropWhile isSpace) := rfl
  rw [h]
  unfold trimSpace
  rw [String.toList_ofList, dropWhile_rdropWhile (List.dropWhile_idempotent isSpace s.toList)]
  exact congrArg String.ofList (List.rdropWhile_idempotent isSpace _)

theorem trimSpace_eq_self {s : String} (h : ∀ c ∈ s.toList, isSpace c = false) : trimSpace s = s := by
  have hdrop : ∀ {l : List Char}, (∀ c ∈ l, isSpace c = false) → l.dropWhile isSpace = l := by
    intro l hl
    cases l with
    | nil => rfl
    | cons c l => simp [hl c (by simp)]
  rw [trimSpace, hdrop h, hdrop (by simpa using h), List.reverse_reverse, String.ofList_toList]

theorem isSpace_of_isDigit (h : c.isDigit) : isSpace c = false := by
  have hrange : 48 ≤ c.toNat ∧ c.toNat ≤ 57 := by
    simp only [Char.isDigit, Bool.and_eq_true, decide_eq_true_eq] at h
    exact h
  unfold isSpace
  simp
  omega

/-! ## Numbers in strings: `strconv.Itoa` is `toString` -/

theorem isDigit_of_mem_repr (h : c ∈ n.repr.toList) : c.isDigit := by
  rw [Nat.repr_eq_ofList_toDigits, String.toList_ofList] at h
  exact Nat.isDigit_of_mem_toDigits (by decide) (by decide) h

theorem nat_repr_injective {m : Nat} (h : m.repr = n.repr) : m = n := by
  have hdigits := congrArg (fun s => Nat.ofDigitChars 10 s.toList 0) h
  simpa [Nat.repr_eq_ofList_toDigits] using hdigits

theorem mem_itoa (h : c ∈ (toString z).toList) : c.isDigit ∨ c = '-' := by
  rw [toString_eq_repr, repr_eq_if] at h
  split at h
  · exact .inl (isDigit_of_mem_repr h)
  · rw [String.toList_append, List.mem_append] at h
    rcases h with h | h
    · exact .inr (by simpa using h)
    · exact .inl (isDigit_of_mem_repr h)

theorem itoa_injective {z' : Int} (h : toString z = toString z') : z = z' := by
  have hminus : ∀ m n : Nat, m.repr ≠ "-" ++ n.repr := by
    intro m n hmn
    have hmem : '-' ∈ m.repr.toList := by rw [hmn]; simp
    exact absurd (isDigit_of_mem_repr hmem) (by decide)
  rw [toString_eq_repr, toString_eq_repr, repr_eq_if, repr_eq_if] at h
  split at h <;> split at h
  · have := nat_repr_injective h
    omega
  · exact absurd h (hminus _ _)
  · exact absurd h.symm (hminus _ _)
  · have hrepr : (-z).toNat.repr = (-z').toNat.repr := by simpa using h
    have := nat_repr_injective hrepr
    omega

end Lib.Go
