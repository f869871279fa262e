import Mathlib.Data.List.Sort
import SynthApi.Lib.Value

/-!
# JSON and the types of Go

`json.Unmarshal` writes the parts of a JSON value over what is there. `null` leaves a string, a number or a struct as it is
and makes a pointer nil. The field of a struct is the one with the name, else one with the name in other case. A part of a
wrong type is skipped: the rest is decoded, and there is an error at the end. So a `Decoder` gives what is there after it,
and whether the types were right.

A value in an `interface{}` is decoded through its text, in which the fields of an object are sorted by their keys
(`Json.entries`).

`JsonText` is the text format: how a text is parsed and printed is not modelled.
-/

namespace Lib

structure JsonText where
  /-- The value of a text, if it is JSON. -/
  parse : String → Option Json
  marshal : Json → String

namespace Json

def firstFields : List (String × Json) → List (String × Json)
  | [] => []
  | e :: es => e :: (firstFields es).filter fun e' => decide (e'.1 ≠ e.1)

variable (fields : List (String × Json))

/-- The fields of an object in the order in which `json.Marshal` writes them. -/
def entries : List (String × Json) :=
  (firstFields fields).insertionSort fun a b => a.1 ≤ b.1

/-- The field, if it is a string: `s, ok := m[key].(string)`. -/
def stringField (key : String) : Option String :=
  match fields.lookup key with
  | some (.string s) => some s
  | _ => none

/-- The field, if it is an object: `m', ok := m[key].(map[string]any)`. -/
def objectField (key : String) : Option (List (String × Json)) :=
  match fields.lookup key with
  | some (.object fields') => some fields'
  | _ => none

/-- A struct as `json.Marshal` writes it; `none` for a field that is left out. -/
def ofFields (fields : List (String × Option Json)) : Json :=
  .object (fields.filterMap fun f => f.2.map (Prod.mk f.1))

def ofText (s : String) : Option Json := if s = "" then none else some (.string s)

def ofCount (n : Int) : Option Json := if n = 0 then none else some (.number n)

/-- An `interface{}` with `omitempty`. -/
def ofAny : Json → Option Json
  | .null => none
  | v => some v

end Json

/-- Decoding over the value that is there: the new value, and whether the types were right. -/
def Decoder (α : Type) := Json → α → α × Bool

namespace Decoder

variable {α σ : Type}

def string : Decoder String
  | .null, s => (s, true)
  | .string t, _ => (t, true)
  | _, s => (s, false)

/-- `int`; the text of a `float64` that is a whole number and an `int64` has no exponent. -/
def int : Decoder Int
  | .null, n => (n, true)
  | .number q, n => if q.den = 1 ∧ Go.InInt64 q.num then (q.num, true) else (n, false)
  | _, n => (n, false)

/-- `interface{}` -/
def any : Decoder Json := fun v _ => (v, true)

/-- `json.RawMessage`: the text; that of `null` too. -/
def raw (text : JsonText) : Decoder (Option String) := fun v _ => (some (text.marshal v), true)

/-- `map[string]interface{}`: the new fields are written over those that are there; `none` is nil. -/
def map : Decoder (Option (List (String × Json)))
  | .null, _ => (none, true)
  | .object fields, m => (some (fields ++ m.getD []), true)
  | _, m => (m, false)

/-- A pointer: what it points to is kept, or made from `zero`. -/
def pointer (zero : α) (d : Decoder α) : Decoder (Option α)
  | .null, _ => (none, true)
  | v, p =>
    let r := d v (p.getD zero)
    (some r.1, r.2)

structure Field (σ : Type) where
  name : String
  decode : Decoder σ

def Field.of (name : String) (d : Decoder α) (get : σ → α) (set : σ → α → σ) : Field σ :=
  ⟨name, fun v s =>
    let r := d v (get s)
    (set s r.1, r.2)⟩

/-- The first of the runes that differ in case only. Beside the ASCII letters these are the long s and the Kelvin sign. -/
def foldRune (c : Char) : Char :=
  if c.toNat = 0x17f then 'S' else if c.toNat = 0x212a then 'K' else c.toUpper

def foldName (name : String) : List Char := name.toList.map foldRune

def findField (fields : List (Field σ)) (key : String) : Option (Field σ) :=
  (fields.find? fun f => f.name = key) <|> fields.find? fun f => foldName f.name = foldName key

/-- The next field of an object. -/
def decodeEntry (fields : List (Field σ)) (r : σ × Bool) (e : String × Json) : σ × Bool :=
  match findField fields e.1 with
  | none => r
  | some f =>
    let r' := f.decode e.2 r.1
    (r'.1, r.2 && r'.2)

def struct (fields : List (Field σ)) : Decoder σ
  | .null, s => (s, true)
  | .object es, s => (Json.entries es).foldl (decodeEntry fields) (s, true)
  | _, s => (s, false)

/-- A new slice; `none` is nil. -/
def slice (zero : α) (d : Decoder α) : Json → Option (List α) × Bool
  | .null => (none, true)
  | .array items => (some (items.map fun v => (d v zero).1), items.all fun v => (d v zero).2)
  | _ => (none, false)

end Decoder

def decoded {α : Type} (r : α × Bool) : Option α := if r.2 then some r.1 else none

end Lib
