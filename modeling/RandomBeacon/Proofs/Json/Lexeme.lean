import Mathlib.Data.List.Forall2
import Mathlib.Data.List.TakeWhile
import RandomBeacon.Json.Printer
import RandomBeacon.Json.Reader
import RandomBeacon.Proofs.Encoding

/-!
The tokens of printed text. A quoted string is read back as the string it quotes, whatever its
characters (`head?_quoted`), and the digits of a number as the number, as long as nothing follows
that could belong to them (`head?_integer`).
-/

namespace RandomBeacon

namespace Json.Token

section Strings

/-- How a character is written inside a string: as itself, or by the number of its unit. -/
inductive Piece.Writes (c : Char) : Piece → Prop
  | itself : Writes c (.char c)
  | unit (low : c.toNat < 0xD800) : Writes c (.unit c.toNat)

/-- Pieces spell the characters that they write. -/
theorem spell?_writes {s : List Char} {pieces : List Piece}
    (writes : List.Forall₂ Piece.Writes s pieces) : spell? pieces = some s := by
  induction writes with
  | nil => rfl
  | @cons c piece s pieces first _ ih =>
    cases first with
    | itself => rw [spell?, ih, Option.map_some]
    | unit low =>
      have high : isHighSurrogate c.toNat = false := by
        simp only [isHighSurrogate, Bool.and_eq_false_iff, decide_eq_false_iff_not]
        omega
      have late : isLowSurrogate c.toNat = false := by
        simp only [isLowSurrogate, Bool.and_eq_false_iff, decide_eq_false_iff_not]
        omega
      have same : Char.ofNat c.toNat = c := Char.ofNat_toNat c
      cases pieces with
      | nil => simpa [spell?, high, late, same] using ih
      | cons next rest =>
        cases next with
        | char d => simp only [spell?, high, late, same] at ih ⊢; simp [ih]
        | unit n => simp [spell?, high, late, same, ih]

theorem pieces?_letter {letter plain : Char} (escapes : escaped? letter = some plain)
    (rest : List Char) : pieces? ('\\' :: letter :: rest) =
      (pieces? rest).map fun read => (.char plain :: read.1, read.2) := by
  have unlike : letter ≠ 'u' := by
    rintro rfl
    cases escapes
  rw [pieces?, escapes]
  · cases pieces? rest <;> rfl
  · exact fun _ _ _ _ _ is => absurd is unlike

theorem pieces?_unit {a b c d : Char} {high next third low : Nat} (ha : Hex.value? a = some high)
    (hb : Hex.value? b = some next) (hc : Hex.value? c = some third)
    (hd : Hex.value? d = some low) (rest : List Char) :
    pieces? ('\\' :: 'u' :: a :: b :: c :: d :: rest) = (pieces? rest).map fun read =>
      (.unit (4096 * high + 256 * next + 16 * third + low) :: read.1, read.2) := by
  rw [pieces?, ha, hb, hc, hd]
  cases pieces? rest <;> rfl

theorem pieces?_char {c : Char} (quote : c ≠ '"') (backslash : c ≠ '\\') (shows : ¬c.toNat < 0x20)
    (rest : List Char) : pieces? (c :: rest) =
      (pieces? rest).map fun read => (.char c :: read.1, read.2) := by
  rw [pieces?, if_neg (not_or.mpr ⟨backslash, shows⟩)]
  · exact quote
  · exact fun _ _ _ _ _ is => absurd is backslash
  · exact fun _ _ is => absurd is backslash

/-- What stands for one character is read as one piece. -/
theorem pieces?_escape (c : Char) (rest : List Char) :
    ∃ piece, Piece.Writes c piece ∧
      pieces? (escape c ++ rest) = (pieces? rest).map fun read => (piece :: read.1, read.2) := by
  unfold escape
  split
  case h_8 quote backslash _ _ _ _ _ =>
    split
    · rename_i control
      have zero : Hex.value? '0' = some 0 := rfl
      have read := pieces?_unit zero zero
        (Hex.value?_digit (n := c.toNat / 16) (by omega))
        (Hex.value?_digit (n := c.toNat % 16) (by omega)) rest
      have value : 4096 * 0 + 256 * 0 + 16 * (c.toNat / 16) + c.toNat % 16 = c.toNat := by omega
      rw [value] at read
      exact ⟨.unit c.toNat, .unit (by omega), read⟩
    · rename_i shows
      exact ⟨.char c, .itself, pieces?_char quote backslash shows rest⟩
  all_goals exact ⟨.char _, .itself, pieces?_letter rfl rest⟩

theorem pieces?_quoted (s rest : List Char) :
    ∃ pieces, List.Forall₂ Piece.Writes s pieces ∧
      pieces? (s.flatMap escape ++ '"' :: rest) = some (pieces, rest) := by
  induction s with
  | nil => exact ⟨[], .nil, by simp [pieces?]⟩
  | cons c s ih =>
    obtain ⟨pieces, writes, read⟩ := ih
    obtain ⟨piece, first, written⟩ := pieces?_escape c (s.flatMap escape ++ '"' :: rest)
    refine ⟨piece :: pieces, .cons first writes, ?_⟩
    rw [List.flatMap_cons, List.append_assoc, written, read, Option.map_some]

/-- A quoted string is read as the string. -/
theorem head?_quoted (s rest : List Char) :
    head? (quoted s ++ rest) = some (.text (some (String.ofList s)), rest) := by
  obtain ⟨pieces, writes, read⟩ := pieces?_quoted s rest
  have split : quoted s ++ rest = '"' :: (s.flatMap escape ++ '"' :: rest) := by simp [quoted]
  rw [split, head?, read]
  simp [spell?_writes writes]

end Strings

section Numbers

/-- Nothing that could belong to a number stands at the head of a text. -/
def Stops (rest : List Char) : Prop :=
  ∀ c, rest.head? = some c → c.isDigit = false ∧ c ≠ '.' ∧ c ≠ 'e' ∧ c ≠ 'E'

theorem head_digits_ne_zero {n : Nat} (pos : 0 < n) : (digits n).head? ≠ some '0' := by
  induction n using Nat.strong_induction_on with
  | _ n ih =>
    unfold digits
    by_cases one : n < 10
    · rw [Nat.toDigits_of_lt_base one]
      have all : ∀ k : Fin 10, 0 < k.val → [Nat.digitChar k].head? ≠ some '0' := by decide
      exact all ⟨n, one⟩ pos
    · have more := ih (n / 10) (by omega) (by omega)
      rw [Nat.toDigits_of_base_le (by decide) (Nat.le_of_not_lt one),
        List.head?_append]
      unfold digits at more
      cases written : Nat.toDigits 10 (n / 10) with
      | nil => exact absurd written Nat.toDigits_ne_nil
      | cons c cs => simpa [written] using more

theorem digitRun_digits (n : Nat) {rest : List Char} (stops : Stops rest) :
    digitRun (digits n ++ rest) = ((digits n).map digitValue, rest) := by
  have digit : ∀ c ∈ digits n, c.isDigit = true :=
    fun c mem => Nat.isDigit_of_mem_toDigits (by decide) (by decide) mem
  have taken : rest.takeWhile Char.isDigit = [] := by
    cases rest with
    | nil => rfl
    | cons c rest => simp [(stops c rfl).1]
  have left : rest.dropWhile Char.isDigit = rest := by
    cases rest with
    | nil => rfl
    | cons c rest => simp [(stops c rfl).1]
  rw [digitRun, List.takeWhile_append_of_pos digit, List.dropWhile_append_of_pos digit, taken, left,
    List.append_nil]

theorem natOf_digits (n : Nat) : natOf ((digits n).map digitValue) = n := by
  rw [natOf, List.foldl_map]
  exact Nat.ofDigitChars_eq_foldl.symm.trans Nat.ofDigitChars_ten_toDigits

theorem fraction?_stops {rest : List Char} (stops : Stops rest) :
    fraction? rest = some ([], rest) := by
  unfold fraction?
  split
  · exact absurd rfl (stops _ rfl).2.1
  · rfl

theorem exponent?_stops {rest : List Char} (stops : Stops rest) :
    exponent? rest = some (none, rest) := by
  unfold exponent?
  split
  · rename_i c rest
    obtain ⟨_, _, lower, upper⟩ := stops c rfl
    rw [if_neg (by simp [lower, upper])]
  · rfl

/-- The digits of a number are read as the number. -/
theorem number?_digits (negative : Bool) (n : Nat) {rest : List Char} (stops : Stops rest) :
    number? negative (digits n ++ rest) = some (.integer negative n, rest) := by
  rcases Nat.eq_zero_or_pos n with rfl | pos
  · have zero : digits 0 = ['0'] := rfl
    simp [zero, number?, fraction?_stops stops, exponent?_stops stops, natOf]
  · have whole := digitRun_digits n stops
    have is := natOf_digits n
    have leads := head_digits_ne_zero pos
    have some_digit : digits n ≠ [] := Nat.toDigits_ne_nil
    rw [number?]
    · have digits_left : ((digits n).map digitValue).isEmpty = false := by simp [some_digit]
      simp [whole, digits_left, fraction?_stops stops, exponent?_stops stops, is]
    · intro others written
      cases split : digits n with
      | nil => exact some_digit split
      | cons c cs =>
        rw [split] at written leads
        obtain ⟨rfl, _⟩ := List.cons.inj written
        exact leads rfl

/-- What begins with a digit is a number without a sign. -/
theorem head?_digit {c : Char} (digit : c.isDigit = true) (rest : List Char) :
    head? (c :: rest) = number? false (c :: rest) := by
  unfold head?
  split <;> first | rfl | (rename_i heq; cases heq; cases digit)

theorem head?_integer (negative : Bool) (n : Nat) {rest : List Char} (stops : Stops rest) :
    head? ((if negative then ['-'] else []) ++ digits n ++ rest) =
      some (.integer negative n, rest) := by
  have read := number?_digits negative n stops
  cases negative with
  | true => simpa [head?] using read
  | false =>
    cases written : digits n with
    | nil => exact absurd written Nat.toDigits_ne_nil
    | cons c cs =>
      have digit : c.isDigit = true := by
        apply Nat.isDigit_of_mem_toDigits (b := 10) (n := n) (by decide) (by decide)
        have mem : c ∈ digits n := by simp [written]
        exact mem
      rw [written] at read
      simpa [head?_digit digit] using read

end Numbers

end Json.Token

end RandomBeacon
