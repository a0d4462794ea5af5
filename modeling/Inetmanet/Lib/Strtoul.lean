import Mathlib

/-!
# Reading numbers with `strtoul`

The function of the C library, where `unsigned long` has 64 bits: white space, a sign
and, in base 16, a radix prefix are skipped, a negative number is taken modulo 2⁶⁴ and
a value that is too large is `ULONG_MAX`. What numbers are printed as is read back.
-/
namespace Strtoul

open List Nat

def isSpace (c : Char) : Bool := c == ' ' || (decide ('\t' ≤ c) && decide (c ≤ '\r'))

/-- The value of a digit; 36 for what is none in any base. -/
def digitVal (c : Char) : Nat :=
  if '0' ≤ c ∧ c ≤ '9' then c.toNat - '0'.toNat
  else if 'a' ≤ c ∧ c ≤ 'z' then c.toNat - 'a'.toNat + 10
  else if 'A' ≤ c ∧ c ≤ 'Z' then c.toNat - 'A'.toNat + 10
  else 36

def isDigit (base : Nat) (c : Char) : Bool := decide (digitVal c < base)

/-- Is the number negative? And what follows its sign. -/
def sign : List Char → Bool × List Char
  | [] => (false, [])
  | c :: s => if c = '-' then (true, s) else if c = '+' then (false, s) else (false, c :: s)

/-- `0x`, if a digit follows. -/
def skipRadix (base : Nat) (s : List Char) : List Char :=
  match s with
  | c :: x :: d :: rest =>
    if base = 16 ∧ c = '0' ∧ (x = 'x' ∨ x = 'X') ∧ isDigit 16 d = true then d :: rest else s
  | _ => s

def value (base : Nat) (digits : List Char) : Nat := digits.foldl (fun v c => base * v + digitVal c) 0

def ULONG_MAX : Nat := 2 ^ 64 - 1

/-- What the digits stand for. -/
def result (negative : Bool) (v : Nat) : Nat :=
  if ULONG_MAX < v then ULONG_MAX else if negative then (2 ^ 64 - v) % 2 ^ 64 else v

/-- Where the digits are expected. -/
def number (base : Nat) (s : List Char) : List Char := skipRadix base (sign (s.dropWhile isSpace)).2

/-- The number, and what comes after it: all of the text if there are no digits. -/
def strtoul (base : Nat) (s : List Char) : Nat × List Char :=
  if (number base s).takeWhile (isDigit base) = [] then (0, s)
  else
    (result (sign (s.dropWhile isSpace)).1 (value base ((number base s).takeWhile (isDigit base))),
      (number base s).dropWhile (isDigit base))

variable {base : Nat} {s rest : List Char}

/-- Nothing that may be part of a number. -/
def Stops (c : Char) : Prop := isSpace c = false ∧ c ≠ '-' ∧ c ≠ '+' ∧ digitVal c = 36
deriving Decidable

/-- The text ends, or it goes on with something that is no part of a number. -/
def Ends (rest : List Char) : Prop := ∀ c ∈ rest.head?, Stops c

theorem ends_nil : Ends [] := by simp [Ends]

theorem ends_cons {c : Char} (hc : Stops c) : Ends (c :: rest) := by simpa [Ends] using hc

theorem not_digit_of_stops {c : Char} (hc : Stops c) (hbase : base ≤ 36) : isDigit base c = false := by
  rw [isDigit, hc.2.2.2]
  exact decide_eq_false (by omega)

theorem sign_append (hrest : Ends rest) :
    sign (s ++ rest) = ((sign s).1, (sign s).2 ++ rest) := by
  cases s with
  | nil =>
    cases rest with
    | nil => rfl
    | cons c rest =>
      have hc := hrest c rfl
      simp [sign, hc.2.1, hc.2.2.1]
  | cons c s =>
    simp only [cons_append, sign]
    split
    · rfl
    · split
      · rfl
      · rfl

theorem skipRadix_append (hrest : Ends rest) : skipRadix base (s ++ rest) = skipRadix base s ++ rest := by
  have hx {c : Char} (hc : Stops c) : c ≠ 'x' ∧ c ≠ 'X' ∧ isDigit 16 c = false := by
    refine ⟨fun he => ?_, fun he => ?_, not_digit_of_stops hc (by decide)⟩
    · rw [he] at hc
      exact absurd hc (by decide)
    · rw [he] at hc
      exact absurd hc (by decide)
  match s with
  | [] =>
    match rest with
    | [] | [_] | [_, _] => rfl
    | c :: x :: d :: rest =>
      have hc : c ≠ '0' := by
        intro he
        have hstops := hrest c rfl
        rw [he] at hstops
        exact absurd hstops (by decide)
      simp [skipRadix, hc]
  | [a] =>
    match rest with
    | [] | [_] => rfl
    | c :: d :: rest =>
      obtain ⟨hlower, hupper, -⟩ := hx (hrest c rfl)
      simp [skipRadix, hlower, hupper]
  | [a, b] =>
    match rest with
    | [] => rfl
    | c :: rest =>
      obtain ⟨-, -, hdigit⟩ := hx (hrest c rfl)
      simp [skipRadix, hdigit]
  | a :: b :: d :: s =>
    simp only [cons_append, skipRadix]
    split
    · rfl
    · rfl

theorem dropWhile_append_ends {p : Char → Bool} (hp : ∀ c, Stops c → p c = false) (hrest : Ends rest) (s : List Char) :
    (s ++ rest).dropWhile p = s.dropWhile p ++ rest ∧ (s ++ rest).takeWhile p = s.takeWhile p := by
  induction s with
  | nil =>
    cases rest with
    | nil => exact ⟨rfl, rfl⟩
    | cons c rest =>
      have hc := hp c (hrest c rfl)
      simp [hc]
  | cons c s ih =>
    by_cases hc : p c = true
    · simpa [hc] using ih
    · simp [hc]

/-- What follows a number has no part in it. -/
theorem strtoul_append (hbase : base ≤ 36) (s : List Char) (hrest : Ends rest) :
    strtoul base (s ++ rest) = ((strtoul base s).1, (strtoul base s).2 ++ rest) := by
  obtain ⟨hspace, -⟩ := dropWhile_append_ends (p := isSpace) (fun c hc => hc.1) hrest s
  have hsign := sign_append (s := s.dropWhile isSpace) hrest
  have hnumber : number base (s ++ rest) = number base s ++ rest := by
    rw [number, hspace, hsign]
    exact skipRadix_append hrest
  obtain ⟨hdrop, htake⟩ := dropWhile_append_ends (p := isDigit base) (fun c hc => not_digit_of_stops hc hbase) hrest
    (number base s)
  unfold strtoul
  rw [hnumber, hspace, hsign, hdrop, htake]
  by_cases hnone : (number base s).takeWhile (isDigit base) = []
  · rw [if_pos hnone, if_pos hnone]
  · rw [if_neg hnone, if_neg hnone]

theorem number_suffix (base : Nat) (s : List Char) : number base s <:+ s := by
  have hsign : ∀ s : List Char, (sign s).2 <:+ s := by
    intro s
    cases s with
    | nil => exact suffix_refl _
    | cons c s =>
      simp only [sign]
      split
      · exact suffix_cons c s
      · split
        · exact suffix_cons c s
        · exact suffix_refl _
  have hradix : ∀ s : List Char, skipRadix base s <:+ s := by
    intro s
    unfold skipRadix
    split
    · split
      · exact ⟨[_, _], rfl⟩
      · exact suffix_refl _
    · exact suffix_refl _
  exact ((hradix _).trans (hsign _)).trans (dropWhile_suffix _)

theorem strtoul_suffix (base : Nat) (s : List Char) : (strtoul base s).2 <:+ s := by
  unfold strtoul
  split
  · exact suffix_refl _
  · exact (dropWhile_suffix _).trans (number_suffix base s)

/-- A text that does not start with a number is left alone. -/
theorem strtoul_ends (hbase : base ≤ 36) (hrest : Ends rest) : strtoul base rest = (0, rest) := by
  have h : strtoul base ([] ++ rest) = _ := strtoul_append hbase [] hrest
  have hnil : strtoul base [] = (0, []) := by simp [strtoul, number, sign, skipRadix]
  simpa [hnil] using h

/-- Digits and nothing else. -/
def Plain (base : Nat) (s : List Char) : Prop := s ≠ [] ∧ ∀ c ∈ s, isDigit base c = true

instance (base : Nat) (s : List Char) : Decidable (Plain base s) := @instDecidableAnd _ _ inferInstance (decidableBAll _ s)

theorem code_of_digit {c : Char} (h : digitVal c < 36) : '0'.toNat ≤ c.toNat := by
  unfold digitVal at h
  split at h
  · rename_i hc
    exact hc.1
  · split at h
    · rename_i hc
      exact Nat.le_trans (by decide) hc.1
    · split at h
      · rename_i hc
        exact Nat.le_trans (by decide) hc.1
      · omega

theorem not_space_of_digit {c : Char} (h : digitVal c < 36) : isSpace c = false := by
  have hcode := code_of_digit h
  rw [Bool.eq_false_iff]
  intro hspace
  simp only [isSpace, Bool.or_eq_true, Bool.and_eq_true, beq_iff_eq, decide_eq_true_eq] at hspace
  rcases hspace with rfl | ⟨-, hle⟩
  · exact absurd hcode (by decide)
  · have hle' : c.toNat ≤ '\r'.toNat := hle
    exact absurd (Nat.le_trans hcode hle') (by decide)

theorem number_plain (hbase : base ≤ 16) (h : Plain base s) :
    number base s = s ∧ (sign (s.dropWhile isSpace)).1 = false := by
  obtain ⟨hne, hdigits⟩ := h
  have hsmall {c : Char} (hc : c ∈ s) : digitVal c < base := of_decide_eq_true (hdigits c hc)
  obtain ⟨c, rest, rfl⟩ := exists_cons_of_ne_nil hne
  have hc : digitVal c < base := hsmall mem_cons_self
  have hspace : (c :: rest).dropWhile isSpace = c :: rest := by
    rw [dropWhile_cons, not_space_of_digit (by omega)]
    rfl
  have hminus : c ≠ '-' := by
    rintro rfl
    exact absurd hc (by simp [digitVal]; omega)
  have hplus : c ≠ '+' := by
    rintro rfl
    exact absurd hc (by simp [digitVal]; omega)
  have hsign : sign (c :: rest) = (false, c :: rest) := by simp [sign, hminus, hplus]
  have hradix : skipRadix base (c :: rest) = c :: rest := by
    match rest with
    | [] | [_] => rfl
    | x :: d :: rest =>
      have hx : digitVal x < base := hsmall (by simp)
      have hne : ¬ (x = 'x' ∨ x = 'X') := by
        rintro (rfl | rfl)
        · exact absurd hx (by simp [digitVal]; omega)
        · exact absurd hx (by simp [digitVal]; omega)
      simp [skipRadix, hne]
  rw [number, hspace, hsign]
  exact ⟨hradix, rfl⟩

theorem strtoul_plain (hbase : base ≤ 16) (h : Plain base s) :
    strtoul base s = (result false (value base s), []) := by
  obtain ⟨hnumber, hsign⟩ := number_plain hbase h
  have htake : s.takeWhile (isDigit base) = s := takeWhile_eq_self_iff.mpr h.2
  have hdrop : s.dropWhile (isDigit base) = [] := dropWhile_eq_nil_iff.mpr h.2
  rw [strtoul, hnumber, hsign, htake, hdrop, if_neg h.1]

theorem result_of_le {v : Nat} (h : v ≤ ULONG_MAX) : result false v = v := by
  rw [result, if_neg (by omega)]
  rfl

theorem digitVal_digitChar : ∀ n, n < 16 → digitVal n.digitChar = n := by decide

theorem value_append (base : Nat) (s : List Char) (c : Char) :
    value base (s ++ [c]) = base * value base s + digitVal c := by
  simp [value]

theorem value_toDigits (hbase : 1 < base) (hle : base ≤ 16) (n : Nat) :
    value base (toDigits base n) = n ∧ Plain base (toDigits base n) := by
  induction n using Nat.strongRecOn with
  | ind n ih =>
    by_cases h : n < base
    · have hdigit := digitVal_digitChar n (by omega)
      rw [toDigits_of_lt_base h]
      simp [value, Plain, isDigit, hdigit, h]
    · have hmod : n % base < base := mod_lt n (by omega)
      have hdigit := digitVal_digitChar (n % base) (by omega)
      obtain ⟨hvalue, hne, hall⟩ := ih (n / base) (Nat.div_lt_self (by omega) hbase)
      rw [toDigits_of_base_le hbase (by omega)]
      refine ⟨?_, by simp, fun c hc => ?_⟩
      · rw [value_append, hvalue, hdigit]
        exact div_add_mod n base
      · rcases mem_append.mp hc with hc | hc
        · exact hall c hc
        · rw [mem_singleton.mp hc, isDigit, hdigit]
          exact decide_eq_true hmod

/-- A number that is printed is read back. -/
theorem strtoul_toDigits (hbase : 1 < base) (hle : base ≤ 16) {n : Nat} (hn : n ≤ ULONG_MAX) :
    strtoul base (toDigits base n) = (n, []) := by
  obtain ⟨hvalue, hplain⟩ := value_toDigits hbase hle n
  rw [strtoul_plain hle hplain, hvalue, result_of_le hn]

end Strtoul
