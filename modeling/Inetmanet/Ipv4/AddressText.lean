import Inetmanet.Ipv4.IPv4

/-!
# The text of an IPv4 address

`IPv4Address::parseIPAddress` and `IPv4Address::str`. A text is a C string, given by
the characters before its terminating zero.
-/
namespace Inet.Ipv4.IPv4Address

open List BitVec Nat

/-- The digits that come next are read into an `int`, which wraps around. -/
def readNumber (num : BitVec 32) : List Char → BitVec 32 × List Char
  | [] => (num, [])
  | c :: s => if c.isDigit then readNumber (10 * num + BitVec.ofNat 32 (c.toNat - '0'.toNat)) s else (num, c :: s)

def startsWithDigit : List Char → Bool
  | [] => false
  | c :: _ => c.isDigit

/-- The loop of `parseIPAddress`, with `left` of the four numbers still to be read. -/
def parseNumbers : Nat → List (BitVec 8) → List Char → Option (List (BitVec 8))
  | 0, _, _ => none
  | left + 1, tobytes, s =>
    if ¬ startsWithDigit s then none  -- missing number
    else
      let (num, s) := readNumber 0 s
      if 255 < num.toInt then none  -- number too big
      else
        let tobytes := tobytes ++ [num.setWidth 8]
        match s with
        | [] => if left = 0 then some tobytes else none
        | c :: s =>
          if c ≠ '.' then none  -- invalid char after number
          else if left = 0 then none  -- read 4th number and not yet EOS
          else parseNumbers left tobytes s

def unspec : List Char := "<unspec>".toList

/-- The bytes, if the text is an address. -/
def parseIPAddress (text : List Char) : Option (List (BitVec 8)) :=
  if text = unspec then some [0, 0, 0, 0] else parseNumbers 4 [] text

/-- `set(i0, i1, i2, i3)`. -/
def setBytes (i0 i1 i2 i3 : BitVec 8) : IPv4Address :=
  i0.setWidth 32 <<< 24 ||| i1.setWidth 32 <<< 16 ||| i2.setWidth 32 <<< 8 ||| i3.setWidth 32

def set (text : List Char) : Sim IPv4Address :=
  match parseIPAddress text with
  | some [b0, b1, b2, b3] => pure (setBytes b0 b1 b2 b3)
  | _ => throw (.runtime "Invalid IPv4 address string `%s'")

/-- `%u.%u.%u.%u`. -/
def str (addr : IPv4Address) (printUnspec : Bool) : List Char :=
  if printUnspec && addr == 0 then unspec
  else
    ['.'].intercalate [toDigits 10 ((addr >>> 24) &&& 255).toNat, toDigits 10 ((addr >>> 16) &&& 255).toNat,
      toDigits 10 ((addr >>> 8) &&& 255).toNat, toDigits 10 (addr &&& 255).toNat]

def IsNumber (d : List Char) : Prop := d ≠ [] ∧ ∀ c ∈ d, c.isDigit = true

instance (d : List Char) : Decidable (IsNumber d) := @instDecidableAnd _ _ inferInstance (decidableBAll _ d)

def value (d : List Char) : Nat := ofDigitChars 10 d 0

/-- What is left of the value in an `int` is not over 255. -/
def Fits (d : List Char) : Prop := value d % 2 ^ 32 ≤ 255 ∨ 2 ^ 31 ≤ value d % 2 ^ 32
deriving Decidable

theorem readNumber_eq (v : Nat) (s : List Char) :
    readNumber (BitVec.ofNat 32 v) s =
      (BitVec.ofNat 32 (ofDigitChars 10 (s.takeWhile Char.isDigit) v), s.dropWhile Char.isDigit) := by
  induction s generalizing v with
  | nil => simp [readNumber]
  | cons c s ih =>
    by_cases hc : c.isDigit = true
    · have hstep : 10 * BitVec.ofNat 32 v + BitVec.ofNat 32 (c.toNat - '0'.toNat) =
          BitVec.ofNat 32 (10 * v + (c.toNat - '0'.toNat)) := by
        rw [ofNat_add, ofNat_mul]
        rfl
      rw [readNumber, if_pos hc, hstep, ih]
      simp [hc, ofDigitChars_cons]
    · simp [readNumber, hc]

theorem fits_iff (d : List Char) : ¬ 255 < (BitVec.ofNat 32 (value d)).toInt ↔ Fits d := by
  unfold Fits
  rw [toInt_eq_toNat_cond, toNat_ofNat]
  split
  · omega
  · omega

theorem startsWithDigit_iff (s : List Char) : startsWithDigit s = true ↔ s.takeWhile Char.isDigit ≠ [] := by
  cases s with
  | nil => simp [startsWithDigit]
  | cons c s =>
    by_cases hc : c.isDigit = true
    · simp [startsWithDigit, hc]
    · simp [startsWithDigit, hc]

variable {d s : List Char}

theorem dot_not_mem (h : ∀ c ∈ d, c.isDigit = true) : '.' ∉ d := by
  intro hmem
  exact absurd (h '.' hmem) (by decide)

/-- A character that is not the separator is in one of the pieces. -/
theorem mem_splitOn {c : Char} (hc : c ≠ '.') (h : c ∈ s) : ∃ d ∈ s.splitOn '.', c ∈ d := by
  induction s with
  | nil => cases h
  | cons a s ih =>
    rw [splitOn_cons_eq_if_modifyHead]
    obtain ⟨d, ds, hds⟩ := exists_cons_of_ne_nil (splitOn_ne_nil '.' s)
    rw [hds] at ih ⊢
    by_cases ha : a = '.'
    · obtain ⟨d', hd', hmem⟩ := ih ((mem_cons.mp h).resolve_left fun he => hc (he.trans ha))
      exact ⟨d', by simpa [ha] using .inr (mem_cons.mp hd'), hmem⟩
    · cases mem_cons.mp h with
      | inl he => exact ⟨a :: d, by simp [ha], by simp [he]⟩
      | inr htail =>
        obtain ⟨d', hd', hmem⟩ := ih htail
        cases mem_cons.mp hd' with
        | inl he => exact ⟨a :: d, by simp [ha], mem_cons_of_mem a (he ▸ hmem)⟩
        | inr hrest => exact ⟨d', by simp [ha, hrest], hmem⟩

/-- `n` numbers, separated by single dots, none of which appears to be too big. -/
def Reads (n : Nat) (s : List Char) : Prop :=
  (s.splitOn '.').length = n ∧ ∀ d ∈ s.splitOn '.', IsNumber d ∧ Fits d
deriving Decidable

def bytes (s : List Char) : List (BitVec 8) := (s.splitOn '.').map fun d => BitVec.ofNat 8 (value d)

theorem digits_of_takeWhile (s : List Char) : ∀ c ∈ s.takeWhile Char.isDigit, c.isDigit = true :=
  all_eq_true.mp all_takeWhile

/-- The loop, with the number and what follows it told apart. -/
theorem parseNumbers_succ (n : Nat) (tobytes : List (BitVec 8)) (s : List Char) :
    parseNumbers (n + 1) tobytes s =
      if s.takeWhile Char.isDigit ≠ [] ∧ Fits (s.takeWhile Char.isDigit) then
        match s.dropWhile Char.isDigit with
        | [] => if n = 0 then some (tobytes ++ [BitVec.ofNat 8 (value (s.takeWhile Char.isDigit))]) else none
        | c :: rest =>
          if c = '.' ∧ n ≠ 0 then
            parseNumbers n (tobytes ++ [BitVec.ofNat 8 (value (s.takeWhile Char.isDigit))]) rest
          else none
      else none := by
  have hread : readNumber 0 s = (BitVec.ofNat 32 (value (s.takeWhile Char.isDigit)), s.dropWhile Char.isDigit) :=
    readNumber_eq 0 s
  have hbyte (v : Nat) : (BitVec.ofNat 32 v).setWidth 8 = BitVec.ofNat 8 v := by
    apply eq_of_toNat_eq
    simp only [toNat_setWidth, toNat_ofNat]
    omega
  rw [parseNumbers]
  by_cases hstart : startsWithDigit s = true
  · rw [if_neg (by simpa using hstart), hread]
    have hdigits := (startsWithDigit_iff s).mp hstart
    by_cases hfits : Fits (s.takeWhile Char.isDigit)
    · rw [if_pos ⟨hdigits, hfits⟩]
      dsimp only
      rw [if_neg ((fits_iff _).mpr hfits), hbyte]
      cases s.dropWhile Char.isDigit with
      | nil => rfl
      | cons c rest =>
        by_cases hc : c = '.'
        · by_cases hn : n = 0
          · simp [hc, hn]
          · simp [hc, hn]
        · simp [hc]
    · rw [if_neg fun h => hfits h.2]
      dsimp only
      rw [if_pos (Classical.not_not.mp fun h => hfits ((fits_iff _).mp h))]
  · rw [if_pos hstart, if_neg fun h => hstart ((startsWithDigit_iff s).mpr h.1)]

/-- Where the first number ends. -/
theorem reads_succ (n : Nat) (s : List Char) :
    Reads (n + 1) s ↔ (s.takeWhile Char.isDigit ≠ [] ∧ Fits (s.takeWhile Char.isDigit)) ∧
      match s.dropWhile Char.isDigit with
      | [] => n = 0
      | c :: rest => c = '.' ∧ Reads n rest := by
  have hnumber := digits_of_takeWhile s
  have hdot := dot_not_mem hnumber
  have hs : s.takeWhile Char.isDigit ++ s.dropWhile Char.isDigit = s := takeWhile_append_dropWhile
  cases hrest : s.dropWhile Char.isDigit with
  | nil =>
    rw [hrest, append_nil] at hs
    rw [hs] at hnumber hdot ⊢
    have hpieces : s.splitOn '.' = [s] := splitOn_eq_singleton hdot
    simp only [Reads, hpieces, IsNumber, length_singleton, mem_singleton, forall_eq]
    constructor
    · rintro ⟨hn, ⟨hne, -⟩, hfits⟩
      exact ⟨⟨hne, hfits⟩, by omega⟩
    · rintro ⟨⟨hne, hfits⟩, hn⟩
      exact ⟨by omega, ⟨hne, hnumber⟩, hfits⟩
  | cons c rest =>
    rw [hrest] at hs
    have hc : ¬ c.isDigit = true := by
      have hhead := head?_dropWhile_not Char.isDigit s
      rw [hrest] at hhead
      simpa using hhead
    by_cases hsep : c = '.'
    · subst hsep
      have hpieces : s.splitOn '.' = s.takeWhile Char.isDigit :: rest.splitOn '.' := by
        rw [← splitOn_append_cons_self_of_not_mem hdot rest, hs]
      simp only [Reads, hpieces, IsNumber, length_cons, forall_mem_cons, succ_inj]
      constructor
      · rintro ⟨hn, ⟨⟨hne, -⟩, hfits⟩, hall⟩
        exact ⟨⟨hne, hfits⟩, trivial, hn, hall⟩
      · rintro ⟨⟨hne, hfits⟩, -, hn, hall⟩
        exact ⟨hn, ⟨⟨hne, hnumber⟩, hfits⟩, hall⟩
    · constructor
      · intro hreads
        obtain ⟨d, hd, hmem⟩ := mem_splitOn hsep (show c ∈ s by rw [← hs]; simp)
        exact absurd ((hreads.2 d hd).1.2 c hmem) hc
      · rintro ⟨-, he, -⟩
        exact absurd he hsep

theorem bytes_end (h : s.dropWhile Char.isDigit = []) :
    bytes s = [BitVec.ofNat 8 (value (s.takeWhile Char.isDigit))] := by
  have hs : s.takeWhile Char.isDigit ++ s.dropWhile Char.isDigit = s := takeWhile_append_dropWhile
  have hdot := dot_not_mem (digits_of_takeWhile s)
  rw [h, append_nil] at hs
  rw [hs] at hdot ⊢
  rw [bytes, splitOn_eq_singleton hdot]
  rfl

theorem bytes_dot {s rest : List Char} (h : s.dropWhile Char.isDigit = '.' :: rest) :
    bytes s = BitVec.ofNat 8 (value (s.takeWhile Char.isDigit)) :: bytes rest := by
  have hs : s.takeWhile Char.isDigit ++ s.dropWhile Char.isDigit = s := takeWhile_append_dropWhile
  have hpieces := splitOn_append_cons_self_of_not_mem (dot_not_mem (digits_of_takeWhile s)) rest
  rw [← h, hs] at hpieces
  rw [bytes, hpieces]
  rfl

/-- The loop reads as many numbers as there are left, and nothing else. -/
theorem parseNumbers_eq (n : Nat) (tobytes : List (BitVec 8)) (s : List Char) :
    parseNumbers (n + 1) tobytes s = if Reads (n + 1) s then some (tobytes ++ bytes s) else none := by
  induction n generalizing tobytes s with
  | zero =>
    rw [parseNumbers_succ]
    by_cases hfirst : s.takeWhile Char.isDigit ≠ [] ∧ Fits (s.takeWhile Char.isDigit)
    · rw [if_pos hfirst]
      cases hrest : s.dropWhile Char.isDigit with
      | nil =>
        have hreads : Reads (0 + 1) s := (reads_succ 0 s).mpr ⟨hfirst, by rw [hrest]⟩
        simp [hreads, bytes_end hrest]
      | cons c rest =>
        have hnot : ¬ Reads (0 + 1) s := by
          intro hreads
          have hmore := ((reads_succ 0 s).mp hreads).2
          rw [hrest] at hmore
          exact splitOn_ne_nil '.' rest (length_eq_zero_iff.mp hmore.2.1)
        simp [hnot]
    · rw [if_neg hfirst, if_neg fun h => hfirst ((reads_succ 0 s).mp h).1]
  | succ n ih =>
    rw [parseNumbers_succ]
    by_cases hfirst : s.takeWhile Char.isDigit ≠ [] ∧ Fits (s.takeWhile Char.isDigit)
    · rw [if_pos hfirst]
      cases hrest : s.dropWhile Char.isDigit with
      | nil =>
        have hnot : ¬ Reads (n + 1 + 1) s := by
          intro hreads
          have hmore := ((reads_succ (n + 1) s).mp hreads).2
          rw [hrest] at hmore
          cases hmore
        simp [hnot]
      | cons c rest =>
        have hiff : Reads (n + 1 + 1) s ↔ c = '.' ∧ Reads (n + 1) rest := by
          rw [reads_succ, hrest]
          exact and_iff_right hfirst
        by_cases hc : c = '.'
        · subst hc
          dsimp only
          rw [if_pos ⟨rfl, succ_ne_zero n⟩, ih, bytes_dot hrest]
          simp [hiff]
        · simp [hiff, hc]
    · rw [if_neg hfirst, if_neg fun h => hfirst ((reads_succ (n + 1) s).mp h).1]

/-- The text is `<unspec>`, or four numbers between 0 and 255 with single dots in between; its bytes. -/
def Denotes (text : List Char) (address : List (BitVec 8)) : Prop :=
  text = unspec ∧ address = [0, 0, 0, 0] ∨
    (text.splitOn '.').length = 4 ∧ (∀ d ∈ text.splitOn '.', IsNumber d ∧ value d ≤ 255) ∧ address = bytes text
deriving Decidable

/-- Four numbers with single dots in between, one of which is too big but does not look like it in an `int`. -/
def Overflows (text : List Char) : Prop := Reads 4 text ∧ ∃ d ∈ text.splitOn '.', 255 < value d
deriving Decidable

theorem fits_of_le (h : value d ≤ 255) : Fits d := by
  unfold Fits
  omega

theorem parseIPAddress_eq (text : List Char) :
    parseIPAddress text =
      if text = unspec then some [0, 0, 0, 0] else if Reads 4 text then some (bytes text) else none := by
  unfold parseIPAddress
  by_cases h : text = unspec
  · rw [if_pos h, if_pos h]
  · rw [if_neg h, if_neg h, parseNumbers_eq]
    rfl

/-- Exactly the texts of addresses are accepted, save for those with a number that overflows. -/
theorem parse_denotes_iff (text : List Char) :
    (∀ address, parseIPAddress text = some address ↔ Denotes text address) ↔ ¬ Overflows text := by
  rw [parseIPAddress_eq]
  by_cases htext : text = unspec
  · have hlength : (text.splitOn '.').length ≠ 4 := by
      rw [htext]
      decide
    rw [if_pos htext]
    refine iff_of_true (fun address => ?_) fun h => hlength h.1.1
    rw [Option.some.injEq, Denotes]
    constructor
    · intro he
      exact .inl ⟨htext, he.symm⟩
    · rintro (⟨-, he⟩ | ⟨hfour, -⟩)
      · exact he.symm
      · exact absurd hfour hlength
  · rw [if_neg htext]
    by_cases hreads : Reads 4 text
    · rw [if_pos hreads]
      have hnumbers : ∀ d ∈ text.splitOn '.', IsNumber d := fun d hd => (hreads.2 d hd).1
      by_cases hbig : ∃ d ∈ text.splitOn '.', 255 < value d
      · refine iff_of_false (fun hall => ?_) fun hnot => hnot ⟨hreads, hbig⟩
        obtain ⟨d, hd, hlt⟩ := hbig
        rcases (hall (bytes text)).mp rfl with ⟨he, -⟩ | ⟨-, hle, -⟩
        · exact htext he
        · exact absurd (hle d hd).2 (by omega)
      · have hsmall : ∀ d ∈ text.splitOn '.', IsNumber d ∧ value d ≤ 255 := fun d hd =>
          ⟨hnumbers d hd, Nat.not_lt.mp fun hlt => hbig ⟨d, hd, hlt⟩⟩
        refine iff_of_true (fun address => ?_) fun h => hbig h.2
        rw [Option.some.injEq, Denotes]
        constructor
        · intro he
          exact .inr ⟨hreads.1, hsmall, he.symm⟩
        · rintro (⟨he, -⟩ | ⟨-, -, he⟩)
          · exact absurd he htext
          · exact he.symm
    · rw [if_neg hreads]
      refine iff_of_true (fun address => ?_) fun h => hreads h.1
      constructor
      · intro h
        cases h
      · rintro (⟨he, -⟩ | ⟨hlength, hall, -⟩)
        · exact absurd he htext
        · exact absurd ⟨hlength, fun d hd => ⟨(hall d hd).1, fits_of_le (hall d hd).2⟩⟩ hreads

theorem isNumber_toDigits (n : Nat) : IsNumber (toDigits 10 n) :=
  ⟨toDigits_ne_nil, fun _ hc => isDigit_of_mem_toDigits (by decide) (by decide) hc⟩

theorem value_toDigits (n : Nat) : value (toDigits 10 n) = n := ofDigitChars_ten_toDigits

theorem setBytes_eq (addr : IPv4Address) :
    setBytes (((addr >>> 24) &&& 255).setWidth 8) (((addr >>> 16) &&& 255).setWidth 8)
      (((addr >>> 8) &&& 255).setWidth 8) ((addr &&& 255).setWidth 8) = addr := by
  have hmask (j : Nat) : (255#32).getLsbD j = decide (j < 8) := by
    by_cases hj : j < 32
    · have hall : ∀ k : Fin 32, (255#32).getLsbD k = decide (k.val < 8) := by decide
      exact hall ⟨j, hj⟩
    · rw [getLsbD_of_ge _ _ (by omega), decide_eq_false (by omega)]
  apply eq_of_getLsbD_eq
  intro i hi
  simp only [setBytes, getLsbD_or, getLsbD_shiftLeft, getLsbD_setWidth, getLsbD_and,
    getLsbD_ushiftRight, show (255 : IPv4Address) = 255#32 from rfl, hmask]
  grind

/-- A byte as it is printed. -/
theorem printed_byte (x : IPv4Address) (v : Nat) (h : v = (x &&& 255).toNat) :
    value (toDigits 10 v) ≤ 255 ∧ BitVec.ofNat 8 (value (toDigits 10 v)) = (x &&& 255).setWidth 8 := by
  rw [value_toDigits, h]
  constructor
  · exact and_le_right
  · apply eq_of_toNat_eq
    rw [toNat_ofNat, toNat_setWidth]

theorem parse_str (addr : IPv4Address) :
    parseIPAddress (str addr false) = some [((addr >>> 24) &&& 255).setWidth 8, ((addr >>> 16) &&& 255).setWidth 8,
      ((addr >>> 8) &&& 255).setWidth 8, (addr &&& 255).setWidth 8] := by
  have h₁ := printed_byte (addr >>> 24) _ rfl
  have h₂ := printed_byte (addr >>> 16) _ rfl
  have h₃ := printed_byte (addr >>> 8) _ rfl
  have h₄ := printed_byte addr _ rfl
  have hpieces : (str addr false).splitOn '.' = [toDigits 10 ((addr >>> 24) &&& 255).toNat,
      toDigits 10 ((addr >>> 16) &&& 255).toNat, toDigits 10 ((addr >>> 8) &&& 255).toNat,
      toDigits 10 (addr &&& 255).toNat] := by
    refine splitOn_intercalate '.' (fun d hd => ?_) (by simp)
    simp only [mem_cons, not_mem_nil, or_false] at hd
    rcases hd with rfl | rfl | rfl | rfl
    all_goals exact dot_not_mem (isNumber_toDigits _).2
  have htext : str addr false ≠ unspec := by
    intro he
    have hlength : ((str addr false).splitOn '.').length = 1 := by
      rw [he]
      decide
    rw [hpieces] at hlength
    cases hlength
  have hreads : Reads 4 (str addr false) := by
    rw [Reads, hpieces]
    refine ⟨rfl, fun d hd => ?_⟩
    simp only [mem_cons, not_mem_nil, or_false] at hd
    rcases hd with rfl | rfl | rfl | rfl
    · exact ⟨isNumber_toDigits _, fits_of_le h₁.1⟩
    · exact ⟨isNumber_toDigits _, fits_of_le h₂.1⟩
    · exact ⟨isNumber_toDigits _, fits_of_le h₃.1⟩
    · exact ⟨isNumber_toDigits _, fits_of_le h₄.1⟩
  rw [parseIPAddress_eq, if_neg htext, if_pos hreads, bytes, hpieces]
  simp only [map_cons, map_nil, h₁.2, h₂.2, h₃.2, h₄.2]

/-- What `str` prints is read back. -/
theorem set_str (addr : IPv4Address) (printUnspec : Bool) : set (str addr printUnspec) = .ok addr := by
  by_cases hunspec : (printUnspec && addr == 0) = true
  · have hzero : addr = 0 := by simpa using (Bool.and_eq_true_iff.mp hunspec).2
    rw [str, if_pos hunspec, hzero]
    decide
  · have hdotted : str addr printUnspec = str addr false := by
      rw [str, if_neg hunspec, str, if_neg (by simp)]
    rw [hdotted, set, parse_str]
    exact congrArg Except.ok (setBytes_eq addr)

/-- Exactly the texts of addresses are accepted, save for those with a number that overflows; every
address is read back from its own text. -/
theorem address_text_iff (text : List Char) :
    ((∀ address, parseIPAddress text = some address ↔ Denotes text address) ↔ ¬ Overflows text) ∧
      ∀ (addr : IPv4Address) (printUnspec : Bool), set (str addr printUnspec) = .ok addr :=
  ⟨parse_denotes_iff text, set_str⟩

/-- 2³² is read as 0. -/
theorem overflowing_text_accepted :
    ¬ ∀ text : List Char, (∀ address, parseIPAddress text = some address ↔ Denotes text address) ∧
      ∀ (addr : IPv4Address) (printUnspec : Bool), set (str addr printUnspec) = .ok addr := by
  intro hall
  have haccepted : parseIPAddress "4294967296.0.0.1".toList = some [0, 0, 0, 1] := by decide
  exact absurd (((hall "4294967296.0.0.1".toList).1 [0, 0, 0, 1]).mp haccepted) (by decide)

end Inet.Ipv4.IPv4Address
