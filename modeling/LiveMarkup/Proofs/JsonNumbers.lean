import LiveMarkup.Proofs.Results
import LiveMarkup.Json.Reader

/-! # Reading back integers

A natural number of at most 64 bits is read back from its digits, provided that what follows does not
go on with the number. In the other direction, no integer that is read is greater than 64 bits allow,
and one behind a minus sign is never positive.
-/
namespace LiveMarkup
namespace JsonInput
open Decimal

theorem natText_ne_nil (n : Nat) : natText n ≠ [] := Nat.toDigits_ne_nil

theorem isDigit_of_mem_natText {n : Nat} {c : Char} (h : c ∈ natText n) : c.isDigit :=
  Nat.isDigit_of_mem_toDigits (by decide) le_rfl h

/-- Only zero is written with a leading zero. -/
theorem natText_of_head?_zero {n : Nat} (h : (natText n).head? = some '0') : natText n = ['0'] := by
  induction n using Nat.strongRecOn with
  | ind n ih =>
    by_cases hn : n < 10
    · rw [natText, Nat.toDigits_of_lt_base hn] at h ⊢
      rw [Option.some.inj h]
    · -- the leading digit is that of n / 10, which would be zero
      have hsplit : natText n = natText (n / 10) ++ [(n % 10).digitChar] :=
        Nat.toDigits_of_base_le (by decide) (not_lt.1 hn)
      rw [hsplit, List.head?_append_of_ne_nil _ (natText_ne_nil _)] at h
      have hzero := congrArg (Nat.ofDigitChars 10 · 0) (ih (n / 10) (by omega) h)
      simp only [natText, Nat.ofDigitChars_toDigits (b := 10) (by decide) le_rfl] at hzero
      have : n / 10 = 0 := hzero
      omega

theorem le_ofDigitChars (value : Nat) (ds : List Char) : value ≤ Nat.ofDigitChars 10 ds value := by
  induction ds generalizing value with
  | nil => exact le_rfl
  | cons d ds ih =>
    rw [Nat.ofDigitChars_cons]
    exact le_trans (by omega) (ih _)

/-- Digits whose value stays within 64 bits are all taken. -/
theorem accumulate_eq {value : Nat} {ds : List Char}
    (h : Nat.ofDigitChars 10 ds value ≤ greatestInt) :
    accumulate value ds = (Nat.ofDigitChars 10 ds value, ds.length) := by
  induction ds generalizing value with
  | nil => rfl
  | cons d ds ih =>
    have hnext : value * 10 + (d.toNat - 48) = 10 * value + (d.toNat - '0'.toNat) := by
      rw [Nat.mul_comm]
      rfl
    rw [Nat.ofDigitChars_cons] at h ⊢
    rw [accumulate, hnext, if_pos ((le_ofDigitChars _ ds).trans h), ih h]
    rfl

theorem fst_accumulate_le {value : Nat} (h : value ≤ greatestInt) (ds : List Char) :
    (accumulate value ds).1 ≤ greatestInt := by
  induction ds generalizing value with
  | nil => exact h
  | cons d ds ih =>
    rw [accumulate]
    split_ifs with hnext
    · exact ih hnext
    · exact h

theorem drop_append (xs rest : List Char) (place : Place) :
    ∃ behind, drop xs.length ⟨xs ++ rest, place⟩ = ⟨rest, behind⟩ := by
  induction xs generalizing place with
  | nil => exact ⟨place, rfl⟩
  | cons c xs ih => exact ih (place.after c)

/-- Text that does not go on with a number. -/
def EndsNumber (rest : List Char) : Prop :=
  ∀ c, rest.head? = some c → ¬c.isDigit ∧ c ≠ '.' ∧ c ≠ 'e' ∧ c ≠ 'E'

theorem endsNumber_cons {c : Char} (h : ¬c.isDigit ∧ c ≠ '.' ∧ c ≠ 'e' ∧ c ≠ 'E')
    (rest : List Char) : EndsNumber (c :: rest) :=
  fun _ hc => Option.some.inj hc ▸ h

theorem digitsOf_append {digits rest : List Char} (hd : ∀ c ∈ digits, c.isDigit)
    (hrest : ∀ c, rest.head? = some c → ¬c.isDigit) : digitsOf (digits ++ rest) = digits := by
  have hnone : rest.takeWhile Char.isDigit = [] := by
    cases rest with
    | nil => rfl
    | cons c rest => exact List.takeWhile_cons_of_neg (hrest c rfl)
  rw [digitsOf, List.takeWhile_append_of_pos hd, hnone, List.append_nil]

theorem EndsNumber.not_startsExponent {rest : List Char} (h : EndsNumber rest) :
    ¬startsExponent rest := by
  rw [startsExponent, Bool.or_eq_true, decide_eq_true_eq, decide_eq_true_eq]
  exact not_or.2 ⟨fun e => (h _ e).2.2.1 rfl, fun e => (h _ e).2.2.2 rfl⟩

/-- The digits of a number are told from what follows. -/
theorem digits_natText (n : Nat) {rest : List Char} (h : EndsNumber rest) :
    ∃ c cs, natText n ++ rest = c :: cs ∧ c.isDigit ∧ ¬(c = '0' && (cs.headD 'x').isDigit) ∧
      (if c = '0' then [c] else digitsOf (c :: cs)) = natText n := by
  obtain ⟨c, digits, hn⟩ := List.exists_cons_of_ne_nil (natText_ne_nil n)
  have hdigits : ∀ d ∈ c :: digits, d.isDigit := fun d hd => isDigit_of_mem_natText (hn ▸ hd)
  have hall : digitsOf (c :: (digits ++ rest)) = c :: digits :=
    digitsOf_append hdigits fun d hd => (h d hd).1
  refine ⟨c, digits ++ rest, by rw [hn]; rfl, hdigits c List.mem_cons_self, ?_, ?_⟩
  · rw [Bool.and_eq_true, decide_eq_true_eq]
    rintro ⟨rfl, hnext⟩
    -- a leading zero stands alone, and what follows goes on with no digit
    obtain rfl : digits = [] := by
      have hzero := natText_of_head?_zero (n := n) (by rw [hn]; rfl)
      exact (List.cons.inj (hn.symm.trans hzero)).2
    cases rest with
    | nil => exact absurd hnext (by decide)
    | cons d rest => exact (h d rfl).1 hnext
  · split_ifs with hc
    · subst hc
      exact (natText_of_head?_zero (n := n) (by rw [hn]; rfl)).symm
    · rw [hall, hn]

theorem number_natText {n : Nat} (hn : n ≤ greatestInt) (negative : Bool) {rest : List Char}
    (h : EndsNumber rest) (place : Place) :
    ∃ behind, number ⟨natText n ++ rest, place⟩ negative =
      .ok (integer negative n, ⟨rest, behind⟩) := by
  obtain ⟨c, cs, htext, hc, hzero, hdigits⟩ := digits_natText n h
  obtain ⟨behind, hdrop⟩ := drop_append (natText n) rest place
  have hvalue : accumulate 0 (natText n) = (n, (natText n).length) := by
    have hof : Nat.ofDigitChars 10 (natText n) 0 = n := Nat.ofDigitChars_toDigits (by decide) le_rfl
    rw [accumulate_eq (hof.trans_le hn), hof]
  have hpoint : ¬rest.head? = some '.' := fun e => (h _ e).2.1 rfl
  have hexponent := h.not_startsExponent
  refine ⟨behind, ?_⟩
  rw [htext] at hdrop ⊢
  unfold number
  simp only [hc, hzero, hdigits, hvalue, hdrop, hpoint, hexponent, Nat.sub_self, Bool.not_true,
    Bool.false_eq_true, if_false, if_true]

theorem float_ne_int {i behind : JsonInput} {negative : Bool} {coefficient : Nat} {e v : Int} :
    float i negative coefficient e ≠ .ok (.int v, behind) := by
  intro h
  unfold float at h
  split at h <;> exact nomatch h

theorem exponentPart_ne_int {i behind : JsonInput} {negative : Bool} {coefficient : Nat} {e v : Int} :
    exponentPart i negative coefficient e ≠ .ok (.int v, behind) := by
  intro h
  unfold exponentPart at h
  simp only at h
  split at h
  · exact nomatch h
  · split_ifs at h <;> first | exact float_ne_int h | exact nomatch h

theorem fractionPart_ne_int {i behind : JsonInput} {negative : Bool} {coefficient : Nat} {e v : Int} :
    fractionPart i negative coefficient e ≠ .ok (.int v, behind) := by
  intro h
  unfold fractionPart at h
  simp only at h
  split at h
  · split_ifs at h <;> exact nomatch h
  · split_ifs at h
    · exact exponentPart_ne_int h
    · exact float_ne_int h

theorem le_of_integer_eq {negative : Bool} {value : Nat} {v : Int}
    (h : integer negative value = .int v) : v ≤ value := by
  unfold integer at h
  split_ifs at h
  · obtain rfl := JsonNumber.int.inj h
    omega
  · exact (JsonNumber.int.inj h).symm.le

theorem number_le {i behind : JsonInput} {negative : Bool} {v : Int}
    (h : i.number negative = .ok (.int v, behind)) : v ≤ greatestInt := by
  unfold number at h
  split at h
  · exact nomatch h
  · next c cs _ =>
    simp only at h
    generalize (if c = '0' then [c] else digitsOf i.rest) = digits at h
    split_ifs at h
    · exact nomatch h
    · exact absurd h fractionPart_ne_int
    · exact absurd h exponentPart_ne_int
    · have hv := le_of_integer_eq (congrArg Prod.fst (Except.ok.inj h))
      exact hv.trans (Int.ofNat_le.2 (fst_accumulate_le (Nat.zero_le _) _))
    · exact absurd h float_ne_int

end JsonInput
end LiveMarkup
