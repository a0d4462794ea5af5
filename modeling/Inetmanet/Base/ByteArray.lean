import Inetmanet.Simulation

/-!
# Byte arrays

`ByteArray.cc`: an array of bytes with operations that copy sub-ranges of it.
A buffer from `new char[n]` has unspecified contents; here it holds zeros until
it is written.
-/
namespace Inet

open List

abbrev Bytes := List UInt8

namespace Bytes

def newBuffer (n : Nat) : Bytes := List.replicate n 0

/-- `memcpy(buffer + at, src, src.length)`. -/
def memcpy (buffer : Bytes) (off : Nat) (src : Bytes) : Bytes :=
  buffer.take off ++ src ++ buffer.drop (off + src.length)

/-- What `copyDataToBuffer(ptr, length, srcOffs)` copies: nothing from beyond
the end of the array. -/
def copied (data : Bytes) (length srcOffs : Nat) : Bytes := (data.drop srcOffs).take length

/-- `copyDataToBuffer(buffer + off, length, srcOffs)`. The offset is the difference of two
addresses, so it may point outside of the buffer. -/
def copyDataToBuffer (data buffer : Bytes) (off : Int) (length : Nat) (srcOffs : Nat := 0) :
    Sim Bytes :=
  let src := copied data length srcOffs
  if src.length = 0 then .ok buffer
  else if 0 ≤ off ∧ off + src.length ≤ buffer.length then .ok (memcpy buffer off.toNat src)
  else .error (.outOfBounds "ptr")

def setDataFromByteArray (other : Bytes) (srcOffs length : Nat) : Sim Bytes := do
  ensure (srcOffs + length ≤ other.length) "srcOffs+length <= other.data_arraysize"
  return copied other length srcOffs

def truncateData (data : Bytes) (truncleft truncright : Nat) : Sim Bytes := do
  ensure (data.length ≥ truncleft + truncright) "data_arraysize >= (truncleft + truncright)"
  return copied data (data.length - (truncleft + truncright)) truncleft

/-- Writing right behind what is already written extends it. -/
theorem copyDataToBuffer_append (front : Bytes) {data src : Bytes} {n length : Nat}
    (hsrc : copied data length 0 = src) (hn : src.length ≤ n) :
    copyDataToBuffer data (front ++ newBuffer n) front.length length =
      .ok (front ++ src ++ newBuffer (n - src.length)) := by
  simp only [copyDataToBuffer, hsrc]
  by_cases hnil : src.length = 0
  · simp [eq_nil_of_length_eq_zero hnil]
  · have hdrop : front.drop (front.length + src.length) = [] :=
      drop_eq_nil_of_le (Nat.le_add_right _ _)
    simp [hnil, hn, hdrop, memcpy, newBuffer, drop_append]

/-- The bytes of `stream` from `lo` up to, but not including, `hi`. -/
def slice (stream : Nat → UInt8) (lo hi : Nat) : Bytes := (range' lo (hi - lo)).map stream

section

variable (stream : Nat → UInt8)
include stream

@[simp] theorem length_slice (lo hi : Nat) :
    (slice stream lo hi).length = hi - lo := by simp [slice]

@[simp] theorem slice_self (lo : Nat) : slice stream lo lo = [] := by
  simp [slice]

theorem slice_append {lo mid hi : Nat} (h₁ : lo ≤ mid) (h₂ : mid ≤ hi) :
    slice stream lo mid ++ slice stream mid hi = slice stream lo hi := by
  have hlen : hi - lo = (mid - lo) + (hi - mid) := by omega
  have hmid : mid = lo + (mid - lo) := by omega
  rw [slice, slice, slice, hlen, ← range'_append_1, map_append, ← hmid]

end

/-- Two slices of equal length are equal when their bytes agree. -/
theorem slice_eq_slice {stream : Nat → UInt8} {a b n : Nat}
    (h : ∀ j, j < n → stream (a + j) = stream (b + j)) :
    slice stream a (a + n) = slice stream b (b + n) := by
  apply ext_getElem
  · simp
  · intro j h₁ h₂
    simp only [length_slice, Nat.add_sub_cancel_left] at h₁
    simpa [slice] using h j h₁

theorem copied_slice (stream : Nat → UInt8) {lo hi n : Nat} (h : lo + n ≤ hi) :
    copied (slice stream lo hi) n 0 = slice stream lo (lo + n) := by
  have hsplit := slice_append stream (Nat.le_add_right lo n) h
  rw [copied, drop_zero, ← hsplit]
  exact take_left' (by simp)

end Bytes

end Inet
