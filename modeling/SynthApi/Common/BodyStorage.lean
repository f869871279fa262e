import Mathlib.Tactic.SplitIfs

/-!
# The storage of request bodies

`CreateBodyStorageFromReader` (`common/body_storage.go`) streams a body of a known length to disk, reads up to the threshold
of the disk cache first if the length is unknown, and reads it into memory otherwise. A reader is the list of the bytes to
come: `io.LimitReader` takes some of them and leaves the others, `io.MultiReader` puts two readers together. No operation on
a file fails, and no number overflows (`maxBytes < 2 ^ 63 - 1`).

`CreateBodyStorage` asks for the disk cache again once the bytes are read; what it finds then is `later`.
-/

namespace SynthApi

/-- The configuration of the disk cache, and whether there is room for a number of bytes. -/
structure DiskCache where
  enabled : Bool
  threshold : Int
  available : Int → Bool

structure BodyStorage where
  bytes : List UInt8
  isDisk : Bool

/-- `ErrRequestBodyTooLarge` -/
inductive BodyError where
  | tooLarge
  deriving DecidableEq

section Create

variable (cache later : DiskCache) (reader : List UInt8) (contentLength maxBytes : Int)

def newDiskStorageFromReader : Except BodyError BodyStorage :=
  let written := reader.take (maxBytes + 1).toNat
  if maxBytes < written.length then .error .tooLarge else .ok ⟨written, true⟩

def createBodyStorage (data : List UInt8) : BodyStorage :=
  ⟨data, cache.enabled && decide (cache.threshold ≤ data.length) && cache.available data.length⟩

/-- The end of `CreateBodyStorageFromReader`. -/
def readToMemory : Except BodyError BodyStorage :=
  let data := reader.take (maxBytes + 1).toNat
  if maxBytes < data.length then .error .tooLarge else .ok (createBodyStorage later data)

/-- The length is unknown: `start` is read first. -/
def probeThenStore : Except BodyError BodyStorage :=
  let probeLimit := min (max cache.threshold 1) maxBytes
  let start := reader.take (probeLimit + 1).toNat
  let joined := start ++ reader.drop (probeLimit + 1).toNat
  if maxBytes < start.length then .error .tooLarge
  else if start.length < probeLimit + 1 then .ok (createBodyStorage later start)
  else if cache.threshold ≤ maxBytes ∧ cache.threshold ≤ start.length ∧ cache.available maxBytes then
    newDiskStorageFromReader joined maxBytes
  else readToMemory later joined maxBytes

def createBodyStorageFromReader : Except BodyError BodyStorage :=
  if cache.enabled ∧ 0 < contentLength ∧ cache.threshold ≤ contentLength ∧ cache.available contentLength then
    newDiskStorageFromReader reader maxBytes
  else if cache.enabled ∧ contentLength ≤ 0 ∧ 0 ≤ maxBytes then probeThenStore cache later reader maxBytes
  else readToMemory later reader maxBytes

end Create

/-- What is to be stored of a body. -/
def storedBytes (body : List UInt8) (maxBytes : Int) : Except BodyError (List UInt8) :=
  if body.length ≤ maxBytes then .ok body else .error .tooLarge

section Stored

variable (cache later : DiskCache) (body : List UInt8) {maxBytes : Int} (hmax : 0 ≤ maxBytes)

include hmax

/-- One byte more than the limit is read, which tells whether the body is too large. -/
theorem limited_bytes (store : List UInt8 → BodyStorage) (hstore : ∀ data, (store data).bytes = data) :
    let data := body.take (maxBytes + 1).toNat
    Except.map BodyStorage.bytes (if maxBytes < data.length then .error .tooLarge else .ok (store data)) =
      storedBytes body maxBytes := by
  dsimp only
  unfold storedBytes
  by_cases hlength : body.length ≤ maxBytes
  · rw [List.take_of_length_le (by omega), if_neg (by omega), if_pos hlength]
    exact congrArg Except.ok (hstore body)
  · rw [if_pos (by rw [List.length_take]; omega), if_neg hlength]
    rfl

theorem newDiskStorageFromReader_bytes : (newDiskStorageFromReader body maxBytes).map (·.bytes) = storedBytes body maxBytes :=
  limited_bytes body hmax (⟨·, true⟩) fun _ => rfl

theorem readToMemory_bytes : (readToMemory later body maxBytes).map (·.bytes) = storedBytes body maxBytes :=
  limited_bytes body hmax (createBodyStorage later) fun _ => rfl

theorem probe_bytes : (probeThenStore cache later body maxBytes).map (·.bytes) = storedBytes body maxBytes := by
  unfold probeThenStore
  simp only [List.take_append_drop]
  split_ifs with hlarge hend
  · rw [List.length_take] at hlarge
    rw [storedBytes, if_neg (by omega)]
    rfl
  · -- the probe has reached the end of the body
    rw [List.length_take] at hend
    rw [List.take_of_length_le (by omega), storedBytes, if_pos (by omega)]
    rfl
  · exact newDiskStorageFromReader_bytes body hmax
  · exact readToMemory_bytes later body hmax

/-- **Bodies are stored exactly**, and those that are too large are refused. -/
theorem body_stored (contentLength : Int) :
    (createBodyStorageFromReader cache later body contentLength maxBytes).map (·.bytes) = storedBytes body maxBytes := by
  unfold createBodyStorageFromReader
  split_ifs
  · exact newDiskStorageFromReader_bytes body hmax
  · exact probe_bytes cache later body hmax
  · exact readToMemory_bytes later body hmax

end Stored

/-- A body of unknown length that is larger than the threshold, without room on the disk until it is read. -/
theorem body_stored_probed :
    (createBodyStorageFromReader ⟨true, 2, fun _ => false⟩ ⟨true, 2, fun _ => true⟩ [1, 2, 3, 4] (-1) 9).map (·.bytes) =
      .ok [1, 2, 3, 4] :=
  body_stored ⟨true, 2, fun _ => false⟩ ⟨true, 2, fun _ => true⟩ [1, 2, 3, 4] (by decide) (-1)

end SynthApi
