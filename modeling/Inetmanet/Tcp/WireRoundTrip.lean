import Inetmanet.Lib.BigEndian
import Inetmanet.Tcp.TCPSerializer

/-!
# From a segment to the wire and back

What a serialized segment looks like, byte by byte, and what is read from it.
-/
namespace Inet

open List Bytes
open Nat (and_two_pow_sub_one_eq_mod shiftRight_eq_div_pow add_mod_right le_of_succ_le mod_eq_of_lt lt_of_succ_lt)

variable {length n options : Nat}

namespace Bytes

variable {o v : Nat}

theorem put_append (front rest : Bytes) (x b : UInt8) (h : o = front.length) :
    put (front ++ x :: rest) o b = .ok (front ++ b :: rest) := by
  subst h
  simp [put, pure, Except.pure]

theorem store_append (front rest : Bytes) {mid src : Bytes} (hlen : mid.length = src.length)
    (h : o = front.length) : store (front ++ (mid ++ rest)) o src = .ok (front ++ (src ++ rest)) := by
  subst h
  have hfit : front.length + src.length ≤ (front ++ (mid ++ rest)).length := by simp [hlen]
  have hdrop : (front ++ (mid ++ rest)).drop (front.length + src.length) = rest := by
    rw [← hlen, ← append_assoc]
    exact drop_left' (by simp)
  unfold store
  rw [if_pos hfit, memcpy, hdrop, take_left' rfl, append_assoc]
  rfl

theorem load_append (front rest : Bytes) (b : UInt8) (h : o = front.length) :
    load (front ++ b :: rest) o = b := by
  subst h
  simp [load]

theorem copyFrom_append (front mid rest : Bytes) (h : o = front.length) (hlen : length = mid.length) :
    copyFrom (front ++ (mid ++ rest)) o length = .ok mid := by
  subst h hlen
  simp [copyFrom, pure, Except.pure]

/-- Reading byte by byte. -/
theorem map_load_range' (front mid rest : Bytes) {a : Nat} (h : options + a = front.length)
    (hlen : n = mid.length) :
    (range' a n).map (fun l => load (front ++ (mid ++ rest)) (options + l)) = mid := by
  subst hlen
  apply ext_getElem
  · simp
  · intro i h₁ h₂
    have hoff : options + (a + i) = front.length + i := by omega
    have hget : (front ++ (mid ++ rest))[front.length + i]? = some mid[i] := by
      rw [List.getElem?_append_right (Nat.le_add_right _ _), Nat.add_sub_cancel_left, List.getElem?_append_left h₂,
        List.getElem?_eq_getElem h₂]
    simp [load, hoff, hget]

theorem ntohs_append (front rest : Bytes) (hv : v < 2 ^ 16) (h : o = front.length) :
    ntohs (front ++ (htons v ++ rest)) o = v := by
  have h₀ := load_append front (UInt8.ofNat v :: rest) (UInt8.ofNat (v / 256)) h
  have h₁ := load_append (front ++ [UInt8.ofNat (v / 256)]) rest (UInt8.ofNat v) (o := o + 1) (by simp [h])
  have hvalue := BigEndian.value_bytes_of_lt (n := 2) (v := v) (by simpa using hv)
  simp only [append_assoc, cons_append, nil_append] at h₁
  simp only [htons, cons_append, nil_append, ntohs, h₀, h₁]
  simpa [BigEndian.value, BigEndian.bytes] using hvalue

theorem ntohl_append (front rest : Bytes) (hv : v < 2 ^ 32) (h : o = front.length) :
    ntohl (front ++ (htonl v ++ rest)) o = v := by
  have hhigh : v / 65536 < 2 ^ 16 := by omega
  have hlow : htons v = htons (v % 65536) := by
    have h₁ : UInt8.ofNat (v / 256) = UInt8.ofNat (v % 65536 / 256) := by
      apply UInt8.toNat_inj.mp
      simp
      omega
    have h₂ : UInt8.ofNat v = UInt8.ofNat (v % 65536) := by
      apply UInt8.toNat_inj.mp
      simp
    rw [htons, htons, h₁, h₂]
  have h₀ := ntohs_append front (htons (v % 65536) ++ rest) hhigh h
  have h₂ := ntohs_append (front ++ htons (v / 65536)) rest (v := v % 65536) (by omega) (o := o + 2)
    (by simp [h, htons])
  rw [append_assoc] at h₂
  rw [htonl, hlow, append_assoc, ntohl, h₀, h₂]
  omega

end Bytes

namespace Tcp

/-- The layout of options: the values, four bytes each, fill the length. -/
structure TCPOption.Fits (option : TCPOption) : Prop where
  kind : option.kind < 256
  /-- End of option list and no operation have no length byte. -/
  length : if option.kind = TCPOPTION_END_OF_OPTION_LIST ∨ option.kind = TCPOPTION_NO_OPERATION then option.length = 1
    else 2 ≤ option.length
  values : option.values.length = (option.length + 1) / 4
  value : ∀ k v, option.values[k]? = some v → v.toNat < 256 ^ min 4 (option.length - (2 + 4 * k))

def TCPSegment.optionsLength (seg : TCPSegment) : Nat := (seg.options.map (·.length)).sum

/-- Fields fit their types; the header is 20 bytes and the options, the rest is payload. -/
structure TCPPacket.Fits (tcpseg : TCPPacket) : Prop where
  srcPort : tcpseg.srcPort < 2 ^ 16
  destPort : tcpseg.destPort < 2 ^ 16
  window : tcpseg.window < 2 ^ 16
  urgentPointer : tcpseg.urgentPointer < 2 ^ 16
  options : ∀ option ∈ tcpseg.options, option.Fits
  headerLength : tcpseg.headerLength = tcpHeaderOctets + tcpseg.optionsLength
  words : tcpseg.headerLength % 4 = 0
  maxHeader : tcpseg.headerLength ≤ tcpMaxHeaderOctets
  byteLength : tcpseg.byteLength = tcpseg.headerLength + tcpseg.payloadLength
  /-- The number of bytes written is an `int`. -/
  size : tcpseg.byteLength < 2 ^ 31
  byteArray : tcpseg.byteArray = [] ∨ tcpseg.byteArray.length = tcpseg.payloadLength

namespace TCPSerializer

open BigEndian

/-- `n` bytes are left of the option. -/
def valuesBytes : Nat → List (BitVec 32) → Bytes
  | _, [] => []
  | n, v :: vs => bytes (min 4 n) v.toNat ++ valuesBytes (n - 4) vs

def optionBytes (option : TCPOption) : Bytes :=
  UInt8.ofNat option.kind ::
    if option.length > 1 then UInt8.ofNat option.length :: valuesBytes (option.length - 2) option.values else []

/-- The header without options: `offs` words long, with `x2` in the bits that are not used. -/
def headerBytes (tcpseg : TCPPacket) (offs x2 : Nat) : Bytes :=
  Bytes.htons tcpseg.srcPort ++ (Bytes.htons tcpseg.destPort ++ (Bytes.htonl tcpseg.sequenceNo.toNat ++
    (Bytes.htonl tcpseg.ackNo.toNat ++ ([UInt8.ofNat (16 * (offs % 16) + x2 % 16)] ++
      ([TH_FLAGS &&& flags tcpseg] ++ (Bytes.htons tcpseg.window ++ (Bytes.htons 0 ++ Bytes.htons tcpseg.urgentPointer)))))))

def payloadBytes (tcpseg : TCPPacket) : Bytes :=
  if tcpseg.byteArray = [] then replicate tcpseg.payloadLength 't'.toUInt8 else tcpseg.byteArray

theorem length_valuesBytes (n : Nat) (vs : List (BitVec 32)) (h : vs.length = (n + 3) / 4) :
    (valuesBytes n vs).length = n := by
  induction vs generalizing n with
  | nil =>
    simp only [length_nil] at h
    simp only [valuesBytes, length_nil]
    omega
  | cons v vs ih =>
    simp only [length_cons] at h
    simp only [valuesBytes, length_append, length_bytes, ih (n - 4) (by omega)]
    omega

variable {option : TCPOption} {tcpseg : TCPPacket}

theorem values_length (h : option.Fits) (hlen : 2 ≤ option.length) :
    option.values.length = (option.length - 2 + 3) / 4 := by
  rw [h.values]
  omega

theorem length_optionBytes (h : option.Fits) : (optionBytes option).length = option.length := by
  have hl := h.length
  by_cases h2 : 2 ≤ option.length
  · have hgt : option.length > 1 := h2
    simp only [optionBytes, if_pos hgt, length_cons, length_valuesBytes _ _ (values_length h h2)]
    omega
  · have hone : option.length = 1 := by
      split at hl
      · exact hl
      · exact absurd hl h2
    simp [optionBytes, hone]

/-- The loop over the bytes of a value fills them in from the last to the first. -/
theorem putValue_append (front : Bytes) {p0 : Nat} (hfront : front.length = options + p0) (mid rest : Bytes)
    (value : BitVec 32) :
    putValue (front ++ (mid ++ rest)) options p0 mid.length value =
      .ok (front ++ (bytes mid.length value.toNat ++ rest)) := by
  induction mid using reverseRecOn generalizing rest value with
  | nil => rfl
  | append_singleton mid x ih =>
    have hput := put_append (front ++ mid) rest x (UInt8.ofNat (value &&& 0xFF).toNat)
      (o := options + (p0 + mid.length)) (by simp [hfront]; omega)
    have hbyte : UInt8.ofNat (value &&& 0xFF).toNat = UInt8.ofNat value.toNat := by
      apply UInt8.toNat_inj.mp
      have hand := and_two_pow_sub_one_eq_mod value.toNat 8
      simp [hand]
    have hshift : (value >>> 8).toNat = value.toNat / 256 := by
      simp [BitVec.toNat_ushiftRight, shiftRight_eq_div_pow]
    simp only [append_assoc] at hput
    rw [length_append, length_singleton, bytes_succ, ← hbyte, ← hshift]
    simp only [putValue, append_assoc, cons_append, nil_append, hput, bind, Except.bind]
    exact ih _ _

/-- Subtracting one from an unsigned number. -/
theorem add_pred_mod {l M : Nat} (h : l + 1 < M) : (l + 1 + (M - 1)) % M = l := by
  have hwrap : l + 1 + (M - 1) = l + M := by omega
  rw [hwrap, add_mod_right, mod_eq_of_lt (lt_of_succ_lt h)]

theorem last_index (h : 1 ≤ length) (hmax : length < 2 ^ 32) :
    (length + (2 ^ 32 - 1)) % 2 ^ 32 = length - 1 := by
  obtain ⟨l, rfl⟩ := Nat.exists_eq_add_of_le' h
  exact add_pred_mod hmax

/-- The bytes of a value: four, or what is left of the option. -/
theorem putValues_cons (hlen : 1 ≤ length) (hmax : length < 2 ^ 32) (buf : Bytes) (options k : Nat)
    (value : BitVec 32) (values : List (BitVec 32)) :
    putValues buf options length k (value :: values) =
      (putValue buf options (2 + 4 * k) (min (length - 1) (5 + 4 * k) + 1 - (2 + 4 * k)) value >>= fun buf =>
        putValues buf options length (k + 1) values) := by
  rw [putValues, last_index hlen hmax]

theorem putValues_append (options : Nat) (hlen : 2 ≤ length) (hmax : length < 2 ^ 32) (values : List (BitVec 32))
    (k : Nat) (front mid rest : Bytes) (hfront : values ≠ [] → front.length = options + (2 + 4 * k))
    (hmid : mid.length = length - (2 + 4 * k)) (hvalues : values.length = (mid.length + 3) / 4) :
    putValues (front ++ (mid ++ rest)) options length k values =
      .ok (front ++ (valuesBytes mid.length values ++ rest)) := by
  induction values generalizing k front mid with
  | nil =>
    have hnil : mid = [] := eq_nil_of_length_eq_zero (by simp at hvalues; omega)
    simp [putValues, valuesBytes, hnil, pure, Except.pure]
  | cons value values ih =>
    simp only [length_cons] at hvalues
    obtain ⟨mid₁, mid₂, hsplit, hmid₁⟩ : ∃ mid₁ mid₂, mid = mid₁ ++ mid₂ ∧ mid₁.length = min 4 mid.length :=
      ⟨mid.take (min 4 mid.length), mid.drop (min 4 mid.length), (take_append_drop _ _).symm, by simp⟩
    have hlen₂ : mid₂.length = mid.length - 4 := by
      have := congrArg List.length hsplit
      simp only [length_append] at this
      omega
    have hcount : min (length - 1) (5 + 4 * k) + 1 - (2 + 4 * k) = mid₁.length := by
      cases Nat.le_total (length - 1) (5 + 4 * k) with
      | inl hle =>
        omega
      | inr hle =>
        omega
    have hput := putValue_append front (hfront (cons_ne_nil _ _)) mid₁ (mid₂ ++ rest) value
    have hnext : values ≠ [] → (front ++ bytes mid₁.length value.toNat).length = options + (2 + 4 * (k + 1)) := by
      intro hne
      have hpos := length_pos_iff.mpr hne
      have hoff := hfront (cons_ne_nil _ _)
      rw [length_append, length_bytes]
      omega
    have hrest := ih (k + 1) (front ++ bytes mid₁.length value.toNat) mid₂ hnext (by omega) (by omega)
    rw [putValues_cons (le_of_succ_le hlen) hmax, hcount]
    simp only [hsplit, append_assoc, hput, bind, Except.bind]
    rw [append_assoc] at hrest
    rw [hrest]
    simp only [valuesBytes, append_assoc, ← hsplit, ← hmid₁, ← hlen₂]

/-- An option fills its bytes. -/
theorem putOption_append (h : option.Fits) (hmax : option.length < 2 ^ 32) (front mid rest : Bytes)
    (hfront : options = front.length) (hmid : mid.length = option.length) :
    putOption (front ++ (mid ++ rest)) options option = .ok (front ++ (optionBytes option ++ rest)) := by
  have hl := h.length
  by_cases h2 : 2 ≤ option.length
  · have hgt : option.length > 1 := h2
    obtain ⟨a, b, mid, rfl⟩ : ∃ a b mid', mid = a :: b :: mid' := by
      match mid, hmid with
      | [], hmid => simp at hmid; omega
      | [a], hmid => simp at hmid; omega
      | a :: b :: mid', _ => exact ⟨a, b, mid', rfl⟩
    simp only [length_cons] at hmid
    have hput₀ := put_append front (b :: (mid ++ rest)) a (UInt8.ofNat option.kind) hfront
    have hput₁ := put_append (front ++ [UInt8.ofNat option.kind]) (mid ++ rest) b (UInt8.ofNat option.length)
      (o := options + 1) (by simp [hfront])
    have hvalues := putValues_append options h2 hmax option.values 0
      (front ++ [UInt8.ofNat option.kind, UInt8.ofNat option.length]) mid rest (fun _ => by simp [hfront]) (by omega)
      (by rw [values_length h h2]; omega)
    have hlen : mid.length = option.length - 2 := by omega
    simp only [append_assoc, cons_append, nil_append, hlen] at hput₁ hvalues
    simp only [putOption, optionBytes, if_pos hgt, cons_append, hput₀, hput₁, hvalues, bind, Except.bind]
  · have hone : option.length = 1 := by
      split at hl
      · exact hl
      · exact absurd hl h2
    have hnil : option.values = [] := eq_nil_of_length_eq_zero (by rw [h.values, hone])
    obtain ⟨a, rfl⟩ := length_eq_one_iff.mp (hmid.trans hone)
    have hput := put_append front rest a (UInt8.ofNat option.kind) hfront
    simp only [putOption, optionBytes, hone, hnil, cons_append, nil_append, hput, bind, Except.bind, pure,
      Except.pure, putValues, gt_iff_lt, Nat.lt_irrefl, if_false]

/-- One option after the other. -/
theorem foldlM_putNextOption_append {maxOptLength : Nat} (hmax : maxOptLength < 2 ^ 32) (options : List TCPOption)
    (h : ∀ option ∈ options, option.Fits) (front mid rest : Bytes) (c : Nat) (hfront : front.length = tcpHeaderOctets + c)
    (hmid : mid.length = (options.map (·.length)).sum) (hfit : c + mid.length ≤ maxOptLength) :
    options.foldlM (putNextOption maxOptLength) (front ++ (mid ++ rest), c) =
      .ok (front ++ (options.flatMap optionBytes ++ rest), c + mid.length) := by
  induction options generalizing front mid c with
  | nil =>
    have hnil : mid = [] := eq_nil_of_length_eq_zero hmid
    simp [hnil, pure, Except.pure]
  | cons option options ih =>
    have ho := h option (mem_cons_self ..)
    simp only [map_cons, sum_cons] at hmid
    obtain ⟨mid₁, mid₂, rfl, hmid₁⟩ : ∃ mid₁ mid₂, mid = mid₁ ++ mid₂ ∧ mid₁.length = option.length :=
      ⟨mid.take option.length, mid.drop option.length, (take_append_drop _ _).symm, by simp; omega⟩
    simp only [length_append] at hmid hfit
    have hput := putOption_append ho (by omega) front mid₁ (mid₂ ++ rest) hfront.symm hmid₁
    have hrest := ih (fun o hmem => h o (mem_cons_of_mem _ hmem)) (front ++ optionBytes option) mid₂
      (c + option.length) (by simp [length_optionBytes ho]; omega) (by omega) (by omega)
    have hcount : c + option.length ≤ maxOptLength := by omega
    simp only [append_assoc] at hrest
    simp only [foldlM_cons, putNextOption, ensure_pos hcount, append_assoc, hput, hrest, bind, Except.bind,
      pure, Except.pure, flatMap_cons, length_append, hmid₁, Nat.add_assoc]

theorem putOffs_header (tcpseg : TCPPacket) (offs offs' x2 : Nat) (rest : Bytes) :
    putOffs (headerBytes tcpseg offs x2 ++ rest) offs' = .ok (headerBytes tcpseg offs' x2 ++ rest) := by
  have hlow : (UInt8.ofNat (16 * (offs % 16) + x2 % 16)).toNat % 16 = x2 % 16 := by simp
  simp only [headerBytes, htons, htonl, cons_append, nil_append, putOffs, load, put,
    getD_cons_succ, getD_cons_zero, hlow]
  simp [pure, Except.pure]

theorem putHeader_eq (tcpseg : TCPPacket) (buf : Bytes) (h : tcpHeaderOctets ≤ buf.length) :
    putHeader tcpseg buf = .ok (headerBytes tcpseg 5 (buf.load 12).toNat ++ buf.drop tcpHeaderOctets) := by
  obtain ⟨front, rest, rfl, hfront⟩ : ∃ front rest, buf = front ++ rest ∧ front.length = 20 :=
    ⟨buf.take 20, buf.drop 20, (take_append_drop _ _).symm, length_take_of_le h⟩
  match front, hfront with
  | [b₀, b₁, b₂, b₃, b₄, b₅, b₆, b₇, b₈, b₉, b₁₀, b₁₁, b₁₂, b₁₃, b₁₄, b₁₅, b₁₆, b₁₇, b₁₈, b₁₉], _ =>
    simp [putHeader, putOffs, store, put, load, memcpy, htons, htonl, headerBytes,
      tcpHeaderOctets, pure, Except.pure, bind, Except.bind]

theorem length_headerBytes (tcpseg : TCPPacket) (offs x2 : Nat) :
    (headerBytes tcpseg offs x2).length = tcpHeaderOctets := rfl

/-- Every option has at least one byte. -/
theorem length_options_le (options : List TCPOption) (h : ∀ option ∈ options, option.Fits) :
    options.length ≤ (options.map (·.length)).sum := by
  induction options with
  | nil => exact Nat.le_refl 0
  | cons option options ih =>
    have hrest := ih fun o hmem => h o (mem_cons_of_mem _ hmem)
    have hl := (h option (mem_cons_self ..)).length
    have hpos : 1 ≤ option.length := by
      split at hl
      · exact Nat.le_of_eq hl.symm
      · exact le_of_succ_le hl
    simp only [length_cons, map_cons, sum_cons]
    omega

theorem length_flatMap_optionBytes (h : tcpseg.Fits) :
    (tcpseg.options.flatMap optionBytes).length = tcpseg.optionsLength := by
  rw [length_flatMap, TCPSegment.optionsLength]
  exact congrArg sum (map_congr_left fun option hmem => length_optionBytes (h.options option hmem))

theorem sub_mod {k M : Nat} (hk : k ≤ M) (h : n < M) : (k + n + (M - k)) % M = n := by
  have hwrap : k + n + (M - k) = n + M := by omega
  rw [hwrap, add_mod_right, mod_eq_of_lt h]

theorem optionsLength_le (h : tcpseg.Fits) : tcpseg.optionsLength ≤ 40 := by
  have hmax := h.maxHeader
  rw [h.headerLength] at hmax
  simp only [tcpHeaderOctets, tcpMaxHeaderOctets] at hmax
  omega

/-- There are not so many options that their number wraps around. -/
theorem length_options_mod (h : tcpseg.Fits) :
    tcpseg.options.length % 2 ^ 16 = tcpseg.options.length := by
  have hsum : tcpseg.options.length ≤ tcpseg.optionsLength := length_options_le _ h.options
  have hmax := optionsLength_le h
  omega

theorem padding_of_words (h : (tcpHeaderOctets + n) % 4 = 0) : padding n = [] := by
  have hzero : (4 - n % 4) % 4 = 0 := by
    simp only [tcpHeaderOctets] at h
    omega
  simp [padding, hzero]

theorem putOptions_append (h : tcpseg.Fits) (x2 : Nat) (mid rest : Bytes)
    (hmid : mid.length = tcpseg.optionsLength) :
    putOptions tcpseg (headerBytes tcpseg 5 x2 ++ (mid ++ rest)) =
      .ok (headerBytes tcpseg (tcpseg.headerLength / 4) x2 ++ (tcpseg.options.flatMap optionBytes ++ rest),
        tcpseg.optionsLength) := by
  by_cases hpos : tcpseg.options.length > 0
  swap
  · have hnil : tcpseg.options = [] := eq_nil_of_length_eq_zero (by omega)
    have hzero : tcpseg.optionsLength = 0 := by simp [TCPSegment.optionsLength, hnil]
    have hnone : mid = [] := eq_nil_of_length_eq_zero (hmid.trans hzero)
    rw [putOptions, length_options_mod h, if_neg hpos, hnil, hzero, hnone, h.headerLength, hzero]
    rfl
  have hmax := optionsLength_le h
  have hwords := h.words
  have hheader := h.maxHeader
  rw [h.headerLength] at hwords hheader
  have hroom : (tcpseg.headerLength + (2 ^ 32 - tcpHeaderOctets)) % 2 ^ 32 = tcpseg.optionsLength := by
    rw [h.headerLength]
    exact sub_mod (by decide) (Nat.lt_of_le_of_lt hmax (by decide))
  have hfold := foldlM_putNextOption_append (Nat.lt_of_le_of_lt hmax (by decide)) tcpseg.options h.options
    (headerBytes tcpseg 5 x2) mid rest 0 (length_headerBytes tcpseg 5 x2) hmid (by omega)
  rw [Nat.zero_add, hmid] at hfold
  have hlen := length_flatMap_optionBytes h
  have hpad := store_append (headerBytes tcpseg 5 x2 ++ tcpseg.options.flatMap optionBytes) rest
    (show ([] : Bytes).length = ([] : Bytes).length from rfl) (o := tcpHeaderOctets + tcpseg.optionsLength)
    (by rw [length_append, length_headerBytes, hlen])
  simp only [nil_append, append_assoc] at hpad
  unfold putOptions
  simp only [length_options_mod h, if_pos hpos, take_length, hroom, hfold, padding_of_words hwords, hpad, length_nil,
    Nat.add_zero, ensure_pos hheader, putOffs_header, bind, Except.bind, pure, Except.pure]
  rw [h.headerLength]

theorem putData_append (h : tcpseg.Fits) (front mid rest : Bytes)
    (hfront : front.length = tcpseg.headerLength) (hmid : mid.length = tcpseg.payloadLength) :
    putData tcpseg (front ++ (mid ++ rest)) tcpseg.optionsLength = .ok (front ++ (payloadBytes tcpseg ++ rest)) := by
  have hoff : tcpHeaderOctets + tcpseg.optionsLength = front.length := by rw [hfront, h.headerLength]
  have hdata : tcpseg.byteLength - tcpseg.headerLength = tcpseg.payloadLength := by
    rw [h.byteLength, Nat.add_sub_cancel_left]
  have hbytes := h.byteArray
  unfold putData payloadBytes
  by_cases hpos : tcpseg.byteLength > tcpseg.headerLength
  · simp only [if_pos hpos, hdata]
    by_cases hnil : tcpseg.byteArray = []
    · have hzero : ¬ tcpseg.byteArray.length > 0 := by simp [hnil]
      rw [if_neg hzero, if_pos hnil]
      exact store_append front rest (by simp [hmid]) hoff
    · have hlen := hbytes.resolve_left hnil
      have hcopied : tcpseg.byteArray.copied tcpseg.payloadLength 0 = tcpseg.byteArray := by
        simp [copied, ← hlen]
      rw [if_pos (length_pos_iff.mpr hnil), if_neg hnil, ensure_pos hlen, hcopied]
      exact store_append front rest (by rw [hmid, hlen]) hoff
  · have hzero : tcpseg.payloadLength = 0 := by
      omega
    have hmid₀ : mid = [] := eq_nil_of_length_eq_zero (hmid.trans hzero)
    have hpayload : (if tcpseg.byteArray = [] then replicate tcpseg.payloadLength 't'.toUInt8
        else tcpseg.byteArray) = [] := by
      by_cases hnil : tcpseg.byteArray = []
      · rw [if_pos hnil, hzero]
        rfl
      · rw [if_neg hnil]
        exact eq_nil_of_length_eq_zero ((hbytes.resolve_left hnil).trans hzero)
    rw [if_neg hpos, hpayload, hmid₀]
    rfl

/-- A segment on the wire; `x2` is what the buffer held before in the bits that are not used. -/
def wireBytes (tcpseg : TCPPacket) (x2 : Nat) : Bytes :=
  headerBytes tcpseg (tcpseg.headerLength / 4) x2 ++ (tcpseg.options.flatMap optionBytes ++ payloadBytes tcpseg)

theorem length_payloadBytes (h : tcpseg.Fits) :
    (payloadBytes tcpseg).length = tcpseg.payloadLength := by
  unfold payloadBytes
  by_cases hnil : tcpseg.byteArray = []
  · rw [if_pos hnil, length_replicate]
  · rw [if_neg hnil, h.byteArray.resolve_left hnil]

theorem length_wireBytes (h : tcpseg.Fits) (x2 : Nat) :
    (wireBytes tcpseg x2).length = tcpseg.byteLength := by
  simp only [wireBytes, length_append, length_headerBytes, length_flatMap_optionBytes h, length_payloadBytes h,
    h.byteLength, h.headerLength]
  omega

/-- Serializing goes through and leaves the segment in front of what the buffer held behind it. -/
theorem serialize_eq (h : tcpseg.Fits) {buf : Bytes} (hbuf : tcpseg.byteLength ≤ buf.length) :
    serialize tcpseg buf =
      .ok (wireBytes tcpseg (buf.load 12).toNat ++ buf.drop tcpseg.byteLength, tcpseg.byteLength) := by
  have hlen := h.byteLength
  have hheader := h.headerLength
  have hput := putHeader_eq tcpseg buf (by omega)
  obtain ⟨opts, payload, rest, hdrop, hopts, hpayload, hrest⟩ : ∃ opts payload rest,
      buf.drop tcpHeaderOctets = opts ++ (payload ++ rest) ∧ opts.length = tcpseg.optionsLength ∧
        payload.length = tcpseg.payloadLength ∧ rest = buf.drop tcpseg.byteLength := by
    refine ⟨(buf.drop tcpHeaderOctets).take tcpseg.optionsLength,
      ((buf.drop tcpHeaderOctets).drop tcpseg.optionsLength).take tcpseg.payloadLength, _, ?_, ?_, ?_, rfl⟩
    · have hsplit : buf.drop tcpseg.byteLength =
          ((buf.drop tcpHeaderOctets).drop tcpseg.optionsLength).drop tcpseg.payloadLength := by
        rw [drop_drop, drop_drop, hlen, hheader, Nat.add_assoc]
      rw [hsplit, take_append_drop, take_append_drop]
    · rw [length_take_of_le]
      rw [length_drop]
      omega
    · rw [length_take_of_le]
      rw [length_drop, length_drop]
      omega
  rw [hdrop] at hput
  have hoptions := putOptions_append h (buf.load 12).toNat opts (payload ++ rest) hopts
  have hdata := putData_append h (headerBytes tcpseg (tcpseg.headerLength / 4) (buf.load 12).toNat ++
    tcpseg.options.flatMap optionBytes) payload rest
    (by rw [length_append, length_headerBytes, length_flatMap_optionBytes h, hheader]) hpayload
  simp only [append_assoc] at hdata
  rw [← hrest]
  simp only [serialize, hput, hoptions, hdata, bind, Except.bind, pure, Except.pure, wireBytes, append_assoc]

theorem parseValue_eq (buf : Bytes) (options length k : Nat) :
    parseValue buf options length k =
      word 32 ((range' (2 + 4 * k) (min length (6 + 4 * k) - (2 + 4 * k))).map fun l => buf.load (options + l)) := by
  rw [parseValue, word, foldl_map]

/-- The values from number `k` on are read back. -/
theorem map_parseValue (options : Nat) (values : List (BitVec 32)) (k : Nat) (front rest : Bytes)
    (hfront : values ≠ [] → front.length = options + (2 + 4 * k))
    (hvalues : values.length = (length - (2 + 4 * k) + 3) / 4)
    (hfit : ∀ i v, values[i]? = some v → v.toNat < 256 ^ min 4 (length - (2 + 4 * (k + i)))) :
    (range' k values.length).map
        (parseValue (front ++ (valuesBytes (length - (2 + 4 * k)) values ++ rest)) options length) = values := by
  induction values generalizing k front with
  | nil => rfl
  | cons value values ih =>
    simp only [length_cons] at hvalues
    have hoff := hfront (cons_ne_nil _ _)
    have hcount : min length (6 + 4 * k) - (2 + 4 * k) = min 4 (length - (2 + 4 * k)) := by omega
    have hread := map_load_range' front (bytes (min 4 (length - (2 + 4 * k))) value.toNat)
      (valuesBytes (length - (2 + 4 * k) - 4) values ++ rest) hoff.symm (length_bytes _ _).symm
    have hnext : values ≠ [] →
        (front ++ bytes (min 4 (length - (2 + 4 * k))) value.toNat).length = options + (2 + 4 * (k + 1)) := by
      intro hne
      have hpos := length_pos_iff.mpr hne
      rw [length_append, length_bytes]
      omega
    have hrest := ih (k + 1) (front ++ bytes (min 4 (length - (2 + 4 * k))) value.toNat) hnext (by omega) (by
      intro i v hv
      have hvalue := hfit (i + 1) v hv
      rwa [← Nat.add_assoc, Nat.add_right_comm] at hvalue)
    have hvalue : value.toNat < 256 ^ min 4 (length - (2 + 4 * k)) := hfit 0 value rfl
    have hleft : length - (2 + 4 * (k + 1)) = length - (2 + 4 * k) - 4 := by omega
    rw [hleft, append_assoc] at hrest
    rw [length_cons, range'_succ, map_cons]
    simp only [valuesBytes, append_assoc]
    rw [parseValue_eq, hcount, hread, word_bytes hvalue, hrest]

/-- An option is read back. -/
theorem parseOption_append (h : option.Fits) (hmax : option.length < 256) (front rest : Bytes)
    (hfront : options = front.length) :
    parseOption (front ++ (optionBytes option ++ rest)) options = option := by
  have hl := h.length
  have hkind : (UInt8.ofNat option.kind).toNat = option.kind := by simp [h.kind]
  have hload : load (front ++ (optionBytes option ++ rest)) options = UInt8.ofNat option.kind :=
    load_append front _ _ hfront
  by_cases hshort : option.kind = TCPOPTION_END_OF_OPTION_LIST ∨ option.kind = TCPOPTION_NO_OPERATION
  · rw [if_pos hshort] at hl
    have hnil : option.values = [] := eq_nil_of_length_eq_zero (by rw [h.values, hl])
    cases option with
    | mk kind length values =>
      cases hl
      cases hnil
      simp only [parseOption, hload, hkind, if_pos hshort]
      rfl
  · rw [if_neg hshort] at hl
    have hgt : option.length > 1 := hl
    have hlength : (UInt8.ofNat option.length).toNat = option.length := by simp [hmax]
    have hbytes : optionBytes option = [UInt8.ofNat option.kind, UInt8.ofNat option.length] ++
        valuesBytes (option.length - (2 + 4 * 0)) option.values := by
      rw [optionBytes, if_pos hgt]
      rfl
    have hload₁ : load (front ++ (optionBytes option ++ rest)) (options + 1) = UInt8.ofNat option.length := by
      rw [hbytes]
      have hnext := load_append (front ++ [UInt8.ofNat option.kind])
        (valuesBytes (option.length - (2 + 4 * 0)) option.values ++ rest) (UInt8.ofNat option.length)
        (o := options + 1) (by simp [hfront])
      simpa only [append_assoc, cons_append, nil_append] using hnext
    have hvalues := map_parseValue options option.values 0
      (front ++ [UInt8.ofNat option.kind, UInt8.ofNat option.length]) rest (fun _ => by simp [hfront])
      (values_length h hl) (fun i v hv => by simpa using h.value i v hv)
    rw [append_assoc, ← append_assoc [UInt8.ofNat option.kind, _], ← hbytes, h.values,
      ← range_eq_range'] at hvalues
    cases option with
    | mk kind length values =>
      simp only [parseOption, hload, hload₁, hkind, hlength, if_neg hshort, hvalues]

/-- The options are read back one after the other. -/
theorem parseOptions_append (options : List TCPOption) (h : ∀ option ∈ options, option.Fits)
    (front rest : Bytes) (fuel j : Nat) (hfront : tcpHeaderOctets + j = front.length)
    (hn : n = j + (options.map (·.length)).sum) (hmax : n < 256) (hfuel : options.length ≤ fuel) :
    parseOptions (front ++ (options.flatMap optionBytes ++ rest)) n fuel j = .ok options := by
  induction options generalizing front fuel j with
  | nil =>
    have hend : ¬ j < n := by simp [hn]
    cases fuel with
    | zero => simp only [parseOptions, if_neg hend, pure, Except.pure]
    | succ fuel => simp only [parseOptions, if_neg hend, pure, Except.pure]
  | cons option options ih =>
    have ho := h option (mem_cons_self ..)
    have hpos := length_options_le [option] (by simpa using ho)
    simp only [map_cons, sum_cons, length_cons, map_nil, sum_nil, length_nil] at hn hpos hfuel
    obtain ⟨fuel, rfl⟩ : ∃ fuel', fuel = fuel' + 1 := ⟨fuel - 1, by omega⟩
    have hlt : j < n := by omega
    have hread := parseOption_append ho (by omega) front (options.flatMap optionBytes ++ rest) hfront
    have hrest := ih (fun o hmem => h o (mem_cons_of_mem _ hmem)) (front ++ optionBytes option) fuel
      (j + option.length) (by rw [length_append, length_optionBytes ho]; omega) (by omega) (by omega)
    simp only [append_assoc] at hrest
    simp only [parseOptions, if_pos hlt, flatMap_cons, append_assoc, hread, hrest, bind, Except.bind, pure,
      Except.pure]

/-- The flags are independent of each other. -/
theorem flags_read (tcpseg : TCPPacket) :
    (((TH_FLAGS &&& flags tcpseg) &&& TH_FIN == TH_FIN) = tcpseg.finBit) ∧
    (((TH_FLAGS &&& flags tcpseg) &&& TH_SYN == TH_SYN) = tcpseg.synBit) ∧
    (((TH_FLAGS &&& flags tcpseg) &&& TH_RST == TH_RST) = tcpseg.rstBit) ∧
    (((TH_FLAGS &&& flags tcpseg) &&& TH_PUSH == TH_PUSH) = tcpseg.pshBit) ∧
    (((TH_FLAGS &&& flags tcpseg) &&& TH_ACK == TH_ACK) = tcpseg.ackBit) ∧
    (((TH_FLAGS &&& flags tcpseg) &&& TH_URG == TH_URG) = tcpseg.urgBit) := by
  unfold flags
  generalize tcpseg.finBit = fin, tcpseg.synBit = syn, tcpseg.rstBit = rst, tcpseg.pshBit = psh, tcpseg.ackBit = ack,
    tcpseg.urgBit = urg
  revert fin syn rst psh ack urg
  decide

/-- The same segment, as far as it is on the wire; payload bytes are compared where there are any. -/
structure SameOnWire (tcpseg parsed : TCPPacket) : Prop where
  srcPort : parsed.srcPort = tcpseg.srcPort
  destPort : parsed.destPort = tcpseg.destPort
  sequenceNo : parsed.sequenceNo = tcpseg.sequenceNo
  ackNo : parsed.ackNo = tcpseg.ackNo
  finBit : parsed.finBit = tcpseg.finBit
  synBit : parsed.synBit = tcpseg.synBit
  rstBit : parsed.rstBit = tcpseg.rstBit
  pshBit : parsed.pshBit = tcpseg.pshBit
  ackBit : parsed.ackBit = tcpseg.ackBit
  urgBit : parsed.urgBit = tcpseg.urgBit
  window : parsed.window = tcpseg.window
  urgentPointer : parsed.urgentPointer = tcpseg.urgentPointer
  headerLength : parsed.headerLength = tcpseg.headerLength
  payloadLength : parsed.payloadLength = tcpseg.payloadLength
  byteLength : parsed.byteLength = tcpseg.byteLength
  options : parsed.options = tcpseg.options
  byteArray : tcpseg.byteArray ≠ [] → parsed.byteArray = tcpseg.byteArray

/-- The fields of the header are read back. -/
theorem read_header (h : tcpseg.Fits) (offs x2 : Nat) (rest : Bytes) :
    let buf := headerBytes tcpseg offs x2 ++ rest
    buf.ntohs 0 = tcpseg.srcPort ∧ buf.ntohs 2 = tcpseg.destPort ∧ buf.ntohl 4 = tcpseg.sequenceNo.toNat ∧
      buf.ntohl 8 = tcpseg.ackNo.toNat ∧ (buf.load 12).toNat / 16 = offs % 16 ∧
      buf.load 13 = TH_FLAGS &&& flags tcpseg ∧ buf.ntohs 14 = tcpseg.window ∧
      buf.ntohs 18 = tcpseg.urgentPointer := by
  intro buf
  have hoffs : (UInt8.ofNat (16 * (offs % 16) + x2 % 16)).toNat / 16 = offs % 16 := by
    simp
    omega
  refine ⟨?_, ?_, ?_, ?_, ?_, ?_, ?_, ?_⟩
  · exact ntohs_append [] _ h.srcPort rfl
  · exact ntohs_append (htons tcpseg.srcPort) _ h.destPort rfl
  · exact ntohl_append (htons tcpseg.srcPort ++ htons tcpseg.destPort) _ tcpseg.sequenceNo.isLt rfl
  · exact ntohl_append (htons tcpseg.srcPort ++ htons tcpseg.destPort ++
      htonl tcpseg.sequenceNo.toNat) _ tcpseg.ackNo.isLt rfl
  · exact hoffs
  · rfl
  · exact ntohs_append (buf.take 14) _ h.window rfl
  · exact ntohs_append (buf.take 18) rest h.urgentPointer rfl

theorem parse_wireBytes (h : tcpseg.Fits) (x2 : Nat) (rest : Bytes) :
    ∃ parsed, parse (wireBytes tcpseg x2 ++ rest) tcpseg.byteLength true = .ok parsed ∧ SameOnWire tcpseg parsed := by
  obtain ⟨hsrc, hdest, hseq, hack, hoffs, hflags, hwin, hurp⟩ :=
    read_header h (tcpseg.headerLength / 4) x2 (tcpseg.options.flatMap optionBytes ++ payloadBytes tcpseg ++ rest)
  obtain ⟨hfin, hsyn, hrst, hpsh, hackb, hurg⟩ := flags_read tcpseg
  have hbuf : wireBytes tcpseg x2 ++ rest = headerBytes tcpseg (tcpseg.headerLength / 4) x2 ++
      (tcpseg.options.flatMap optionBytes ++ payloadBytes tcpseg ++ rest) := append_assoc ..
  rw [← hbuf] at hsrc hdest hseq hack hoffs hflags hwin hurp
  have hlen := h.headerLength
  have hmax := optionsLength_le h
  have hhdr : ((wireBytes tcpseg x2 ++ rest).load 12).toNat / 16 * 4 = tcpseg.headerLength := by
    have hwords := h.words
    simp only [tcpHeaderOctets] at hlen
    omega
  have hpayload : (tcpseg.byteLength + (2 ^ 32 - tcpseg.headerLength)) % 2 ^ 32 = tcpseg.payloadLength := by
    have hsize := h.size
    have hlt : tcpseg.payloadLength < 2 ^ 32 := by
      rw [h.byteLength] at hsize
      exact Nat.lt_of_le_of_lt (Nat.le_add_left _ _) (Nat.lt_trans hsize (by decide))
    rw [h.byteLength]
    refine sub_mod ?_ hlt
    exact Nat.le_trans h.maxHeader (by decide)
  have hoptions : parseHeaderOptions (wireBytes tcpseg x2 ++ rest) tcpseg.headerLength = .ok tcpseg.options := by
    unfold parseHeaderOptions
    by_cases hpos : tcpseg.headerLength > tcpHeaderOctets
    · rw [if_pos hpos, hbuf, append_assoc]
      have hcount := length_options_le _ h.options
      have hbytes : tcpseg.headerLength - tcpHeaderOctets = tcpseg.optionsLength := by omega
      rw [hbytes]
      exact parseOptions_append tcpseg.options h.options _ _ _ 0 rfl (Nat.zero_add _).symm (by omega) hcount
    · have hnil : tcpseg.options = [] := by
        have hcount : tcpseg.options.length ≤ tcpseg.optionsLength := length_options_le _ h.options
        exact eq_nil_of_length_eq_zero (by omega)
      rw [if_neg hpos, hnil]
      rfl
  have hdata : parseData (wireBytes tcpseg x2 ++ rest) tcpseg.headerLength tcpseg.payloadLength true =
      .ok (payloadBytes tcpseg) := by
    have hsplit : wireBytes tcpseg x2 ++ rest = headerBytes tcpseg (tcpseg.headerLength / 4) x2 ++
        tcpseg.options.flatMap optionBytes ++ (payloadBytes tcpseg ++ rest) := by simp [wireBytes, append_assoc]
    rw [hsplit]
    refine copyFrom_append _ _ _ ?_ (length_payloadBytes h).symm
    rw [length_append, length_headerBytes, length_flatMap_optionBytes h, hlen]
  simp only [parse, hhdr, hpayload, hoptions, hdata, hsrc, hdest, hseq, hack, hflags, hwin, hurp, hfin, hsyn, hrst, hpsh,
    hackb, hurg, bind, Except.bind, pure, Except.pure, Except.ok.injEq, exists_eq_left']
  exact
    { srcPort := rfl
      destPort := rfl
      sequenceNo := BitVec.ofNat_toNat ..
      ackNo := BitVec.ofNat_toNat ..
      finBit := rfl
      synBit := rfl
      rstBit := rfl
      pshBit := rfl
      ackBit := rfl
      urgBit := rfl
      window := rfl
      urgentPointer := rfl
      headerLength := rfl
      payloadLength := rfl
      byteLength := rfl
      options := rfl
      byteArray := fun hne => if_neg hne }

/-- A segment survives the wire over either buffer, and both buffers hold the same bytes afterwards. -/
def RoundTrips (tcpseg : TCPPacket) (buf buf' : Bytes) : Prop :=
  ∃ out out', serialize tcpseg buf = .ok (out, tcpseg.byteLength) ∧ serialize tcpseg buf' = .ok (out', tcpseg.byteLength) ∧
    (∃ parsed, parse out tcpseg.byteLength true = .ok parsed ∧ SameOnWire tcpseg parsed) ∧
    (∃ parsed, parse out' tcpseg.byteLength true = .ok parsed ∧ SameOnWire tcpseg parsed) ∧
    out.take tcpseg.byteLength = out'.take tcpseg.byteLength

/-- The bits that are not used are those of the buffer. -/
theorem wireBytes_inj {x2 x2' : Nat} :
    wireBytes tcpseg x2 = wireBytes tcpseg x2' ↔ x2 % 16 = x2' % 16 := by
  constructor
  · intro heq
    have hload := congrArg (fun bs : Bytes => (bs.load 12).toNat % 16) heq
    simpa [wireBytes, headerBytes, load, htons, htonl] using hload
  · intro hx
    simp only [wireBytes, headerBytes, hx]

theorem take_wireBytes (h : tcpseg.Fits) (x2 : Nat) (rest : Bytes) :
    (wireBytes tcpseg x2 ++ rest).take tcpseg.byteLength = wireBytes tcpseg x2 :=
  take_left' (length_wireBytes h x2)

theorem RoundTrips.unused_bits (h : tcpseg.Fits) {buf buf' : Bytes}
    (hbuf : tcpseg.byteLength ≤ buf.length) (hbuf' : tcpseg.byteLength ≤ buf'.length)
    (hround : RoundTrips tcpseg buf buf') : (buf.load 12).toNat % 16 = (buf'.load 12).toNat % 16 := by
  obtain ⟨out, out', ho, ho', -, -, hsame⟩ := hround
  cases (serialize_eq h hbuf).symm.trans ho
  cases (serialize_eq h hbuf').symm.trans ho'
  rw [take_wireBytes h, take_wireBytes h] at hsame
  exact wireBytes_inj.mp hsame

/-- All of the segment is read back; its bytes are the same exactly if those bits are. -/
theorem roundTrips_iff_unused_bits {tcpseg : TCPPacket} (h : tcpseg.Fits) {buf buf' : Bytes}
    (hbuf : tcpseg.byteLength ≤ buf.length) (hbuf' : tcpseg.byteLength ≤ buf'.length) :
    RoundTrips tcpseg buf buf' ↔ (buf.load 12).toNat % 16 = (buf'.load 12).toNat % 16 := by
  constructor
  · exact RoundTrips.unused_bits h hbuf hbuf'
  · intro hx
    refine ⟨_, _, serialize_eq h hbuf, serialize_eq h hbuf', parse_wireBytes h _ _, parse_wireBytes h _ _, ?_⟩
    rw [take_wireBytes h, take_wireBytes h]
    exact wireBytes_inj.mpr hx

/-- An acknowledgement with a timestamp and three bytes. -/
def exampleSegment : TCPPacket where
  srcPort := 1000
  destPort := 80
  sequenceNo := 0xFFFFFFF0
  ackNo := 7
  ackBit := true
  window := 0x4000
  headerLength := 32
  options := [⟨1, 1, []⟩, ⟨1, 1, []⟩, ⟨8, 10, [5, 0x12345678]⟩]
  payloadLength := 3
  byteLength := 35
  byteArray := [1, 2, 3]

theorem exampleSegment_fits : exampleSegment.Fits where
  srcPort := by decide
  destPort := by decide
  window := by decide
  urgentPointer := by decide
  options := by
    intro option hmem
    simp only [exampleSegment, mem_cons, not_mem_nil, or_false, or_self_left] at hmem
    cases hmem with
    | inl hnop =>
      subst hnop
      exact ⟨by decide, by decide, by decide, fun k v hv => by simp at hv⟩
    | inr htimestamp =>
      subst htimestamp
      refine ⟨by decide, by decide, by decide, fun k v hv => ?_⟩
      rcases k with _ | _ | k
      · cases hv
        decide
      · cases hv
        decide
      · simp at hv
  headerLength := by decide
  words := by decide
  maxHeader := by decide
  byteLength := by decide
  size := by decide
  byteArray := by decide

theorem exampleSegment_roundTrips :
    RoundTrips exampleSegment (Bytes.newBuffer 35) (replicate 40 0xF0) ↔ True :=
  (roundTrips_iff_unused_bits exampleSegment_fits (by decide) (by decide)).trans (by decide)

/-- A buffer that held ones before. -/
theorem roundTrips_not_always :
    ¬ ∀ (tcpseg : TCPPacket) (buf buf' : Bytes), tcpseg.Fits → tcpseg.byteLength ≤ buf.length →
      tcpseg.byteLength ≤ buf'.length → RoundTrips tcpseg buf buf' := by
  intro hall
  have hbits := RoundTrips.unused_bits exampleSegment_fits (by decide) (by decide)
    (hall exampleSegment (Bytes.newBuffer 35) (replicate 35 0xFF) exampleSegment_fits (by decide) (by decide))
  exact absurd hbits (by decide)

end TCPSerializer

end Tcp

end Inet
