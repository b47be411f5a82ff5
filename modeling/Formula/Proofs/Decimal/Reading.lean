import Mathlib.Data.List.TakeWhile
import Formula.Proofs.Decimal.Place

/-!
# Formula.Proofs.Decimal.Reading

The reader of numbers on the text of a double. A plain double, which is integral or not below one
ten-thousandth, is displayed as digits with at most one point, and read back but for the sign of
zero (`numberOf_display`). What is smaller is displayed with an exponent, as two numbers around
the letter `e` (`display_small`).
-/

namespace Formula

namespace Double

/-- Finite, and integral or at least one ten-thousandth in magnitude. -/
def Plain : Double → Prop
  | .finite _ n _ => n % unitsPerOne = 0 ∨ unitsPerOne ≤ n * 10000
  | _ => False

instance : (x : Double) → Decidable x.Plain
  | .nan | .infinite _ => inferInstanceAs (Decidable False)
  | .finite _ n _ => inferInstanceAs (Decidable (n % unitsPerOne = 0 ∨ unitsPerOne ≤ n * 10000))

/-- The same number, without the sign if it is zero. -/
def positiveZero : Double → Double
  | .finite s n h => .finite (s && decide (n ≠ 0)) n h
  | x => x

end Double

namespace Decimal

/-- An optional minus, a digit, and then digits and points. -/
def IsNumberText (cs : List Char) : Prop :=
  ∃ s d tail, cs = Double.withSign s (digitChar d :: tail) ∧ d < 10 ∧
    ∀ c ∈ tail, isNumberPart c = true

theorem isDigit_digitChar {d : Nat} (h : d < 10) : Text.isDigit (digitChar d) = true := by
  have hall : ∀ i : Fin 10, Text.isDigit (digitChar i) = true := by decide
  exact hall ⟨d, h⟩

theorem digitChar_ne_minus {d : Nat} (h : d < 10) : digitChar d ≠ '-' := by
  have hall : ∀ i : Fin 10, digitChar i ≠ '-' := by decide
  exact hall ⟨d, h⟩

theorem AllDigits.isNumberPart {cs : List Char} (h : AllDigits cs) :
    ∀ c ∈ cs, isNumberPart c = true := by
  intro c hc
  obtain ⟨d, hd, rfl⟩ := h c hc
  simp [Formula.isNumberPart, isDigit_digitChar hd]

theorem AllDigits.eq_cons {cs : List Char} (h : AllDigits cs) (hne : cs ≠ []) :
    ∃ d tail, cs = digitChar d :: tail ∧ d < 10 ∧ AllDigits tail := by
  cases cs with
  | nil => exact absurd rfl hne
  | cons c tail =>
    obtain ⟨d, hd, rfl⟩ := h c (by simp)
    exact ⟨d, tail, rfl, hd, fun x hx => h x (by simp [hx])⟩

/-- Digits followed by more digits and points are the text of a number. -/
theorem isNumberText_append {as bs : List Char} (s : Bool) (ha : AllDigits as) (hne : as ≠ [])
    (hb : ∀ c ∈ bs, isNumberPart c = true) : IsNumberText (Double.withSign s (as ++ bs)) := by
  obtain ⟨d, tail, rfl, hd, htail⟩ := ha.eq_cons hne
  refine ⟨s, d, tail ++ bs, rfl, hd, fun c hc => ?_⟩
  rcases List.mem_append.mp hc with h | h
  · exact htail.isNumberPart c h
  · exact hb c h

theorem isNumberText_digits {cs : List Char} (s : Bool) (h : AllDigits cs) (hne : cs ≠ []) :
    IsNumberText (Double.withSign s cs) := by
  have happ : IsNumberText (Double.withSign s (cs ++ [])) :=
    isNumberText_append s h hne (by simp)
  rwa [List.append_nil] at happ

/-- The sign in front of the digits is the sign of the double. -/
theorem numberOf_withSign {cs : List Char} {d : Decimal} (s : Bool) (ha : ∃ i tail,
    cs = digitChar i :: tail ∧ i < 10) (hr : readDigits 0 none cs = some d) :
    numberOf? (Double.withSign s cs) = some (d.toDouble s) := by
  obtain ⟨i, tail, rfl, hi⟩ := ha
  cases s with
  | true => simp [Double.withSign, numberOf?, hr]
  | false => simp [Double.withSign, numberOf?, digitChar_ne_minus hi, hr]

/-! ## Layout -/

section Layout

theorem takeWhile_zeros (cs : List Char) :
    ∃ m, cs.takeWhile (· = '0') = zeros m := by
  refine ⟨(cs.takeWhile (· = '0')).length, List.eq_replicate_of_mem fun c hc => ?_⟩
  simpa using List.mem_takeWhile_imp hc

/-- Only trailing zeros are cut off. -/
theorem normalize_digits (d : Decimal) :
    ∃ m, natDigits d.digits = d.normalize.1 ++ zeros m := by
  obtain ⟨m, hm⟩ := takeWhile_zeros (natDigits d.digits).reverse
  have hsplit : natDigits d.digits =
      ((natDigits d.digits).reverse.dropWhile (· = '0')).reverse ++ zeros m := by
    have h := List.takeWhile_append_dropWhile
      (p := fun c : Char => decide (c = '0')) (l := (natDigits d.digits).reverse)
    rw [hm] at h
    have hr := congrArg List.reverse h
    rw [List.reverse_append, List.reverse_reverse, zeros, List.reverse_replicate] at hr
    exact hr.symm
  unfold normalize
  dsimp only
  split
  · rename_i hnil
    rw [hnil, List.nil_append] at hsplit
    have hzero : d.digits = 0 := by
      rw [← digitsValue_natDigits d.digits, hsplit, digitsValue_zeros]
    refine ⟨0, ?_⟩
    rw [hzero, natDigits_lt (by decide)]
    rfl
  · exact ⟨m, hsplit⟩

theorem allDigits_normalize (d : Decimal) : AllDigits d.normalize.1 := by
  obtain ⟨m, hm⟩ := normalize_digits d
  have h := allDigits_natDigits d.digits
  rw [hm] at h
  exact h.of_append_left

theorem normalize_ne_nil (d : Decimal) : d.normalize.1 ≠ [] := by
  unfold normalize
  dsimp only
  split
  · exact List.cons_ne_nil _ _
  · assumption

/-- The digits and their place are the decimal. -/
theorem value_normalize (d : Decimal) :
    (digitsValue d.normalize.1 : ℚ) * 10 ^ (d.normalize.2 - d.normalize.1.length) = d.value := by
  obtain ⟨m, hm⟩ := normalize_digits d
  have hlen : (natDigits d.digits).length = d.normalize.1.length + m := by
    rw [hm, List.length_append, length_zeros]
  have hdigits : d.digits = digitsValue d.normalize.1 * 10 ^ m := by
    have h := digitsValue_natDigits d.digits
    rw [hm, digitsValue_append, digitsValue_zeros, length_zeros] at h
    exact h.symm
  have hexp : d.normalize.2 - d.normalize.1.length = (m : ℤ) + d.exponent := by
    rw [normalize_place, hlen]
    omega
  rw [hexp, zpow_add₀ (by norm_num), zpow_natCast, value, ← mul_assoc]
  congr 1
  exact_mod_cast hdigits.symm

variable {cs : List Char}

/-- Whatever the place of the point, the digits in positional layout denote what they should. -/
theorem readDigits_positional (h : AllDigits cs) (place : ℤ) :
    ∃ d, readDigits 0 none (positional cs place) = some d ∧
      d.value = digitsValue cs * 10 ^ (place - cs.length) := by
  have hzero : AllDigits ['0'] := allDigits_zeros 1
  have hvalue : digitsValue ['0'] = 0 := digitsValue_zeros 1
  unfold positional
  split
  · rename_i hplace
    refine ⟨_, readDigits_pointed hzero ((allDigits_zeros place.natAbs).append h), ?_⟩
    have hexp : -((zeros place.natAbs ++ cs).length : ℤ) = place - cs.length := by
      rw [List.length_append, length_zeros]
      omega
    rw [value, hexp, digitsValue_append, digitsValue_append, digitsValue_zeros, hvalue]
    simp
  · split
    · rename_i hplace
      rw [show ['.', '0'] = '.' :: ['0'] from rfl]
      refine ⟨_, readDigits_pointed (h.append (allDigits_zeros _)) hzero, ?_⟩
      have hexp : ((place.toNat - cs.length : Nat) : ℤ) = place - cs.length := by omega
      rw [value, digitsValue_append, digitsValue_append, digitsValue_zeros, hvalue, length_zeros,
        ← hexp, zpow_natCast]
      push_cast
      simp
    · rename_i hplace
      have htake : AllDigits (cs.take place.toNat) := fun c hc => h c (List.mem_of_mem_take hc)
      have hdrop : AllDigits (cs.drop place.toNat) := fun c hc => h c (List.mem_of_mem_drop hc)
      refine ⟨_, readDigits_pointed htake hdrop, ?_⟩
      have hexp : -((cs.drop place.toNat).length : ℤ) = place - cs.length := by
        rw [List.length_drop]
        omega
      rw [value, hexp, List.take_append_drop]

theorem positional_eq_append (h : AllDigits cs) (hne : cs ≠ []) (place : ℤ) :
    ∃ as bs, positional cs place = as ++ bs ∧ AllDigits as ∧ as ≠ [] ∧
      ∀ c ∈ bs, isNumberPart c = true := by
  have hpoint : ∀ {bs : List Char}, AllDigits bs → ∀ c ∈ '.' :: bs, isNumberPart c = true := by
    intro bs hb c hc
    rcases List.mem_cons.mp hc with rfl | hc
    · rfl
    · exact hb.isNumberPart c hc
  unfold positional
  split
  · exact ⟨['0'], _, rfl, allDigits_zeros 1, by simp,
      hpoint ((allDigits_zeros place.natAbs).append h)⟩
  · split
    · exact ⟨_, ['.', '0'], rfl, h.append (allDigits_zeros _), by simp [hne],
        hpoint (allDigits_zeros 1)⟩
    · rename_i hplace _
      have htake : cs.take place.toNat ≠ [] := by
        rw [Ne, List.take_eq_nil_iff]
        rintro (hzero | hnil)
        · omega
        · exact hne hnil
      exact ⟨_, _, rfl, fun c hc => h c (List.mem_of_mem_take hc), htake,
        hpoint fun c hc => h c (List.mem_of_mem_drop hc)⟩

theorem allDigits_exponentDigits (n : Nat) : AllDigits (exponentDigits n) := by
  unfold exponentDigits
  split
  · exact (allDigits_zeros 1).append (allDigits_natDigits n)
  · exact allDigits_natDigits n

theorem exponentDigits_ne_nil (n : Nat) : exponentDigits n ≠ [] := by
  unfold exponentDigits
  split
  · exact List.cons_ne_nil _ _
  · exact List.length_pos_iff.mp (natDigits_length_pos n)

end Layout

end Decimal

open Decimal

/-! ## Displayed doubles -/

namespace Double

theorem withSign_append (s : Bool) (as bs : List Char) :
    withSign s (as ++ bs) = withSign s as ++ bs := by
  cases s <;> rfl

/-- An integer is read back as the double that it is. -/
theorem numberOf_intDigits {s : Bool} {n : Nat} (h : Format.double.Holds n)
    (hn : n % unitsPerOne = 0) :
    numberOf? (intDigits (signed s (n / unitsPerOne))) =
      some (positiveZero (.finite s n h)) := by
  have hmul : n / unitsPerOne * unitsPerOne = n := Nat.div_mul_cancel (Nat.dvd_of_mod_eq_zero hn)
  have hzero : n / unitsPerOne = 0 ↔ n = 0 := by
    constructor
    · intro h0
      rw [← hmul, h0, Nat.zero_mul]
    · rintro rfl
      exact Nat.zero_div _
  have hdouble : ∀ t, toDouble t ⟨n / unitsPerOne, 0⟩ = .finite t n h := by
    intro t
    have hone := ofRatio_of_holds (s := t) h Nat.one_pos
    rw [← hone]
    show ofRatio t (n / unitsPerOne * 10 ^ 0 * unitsPerOne) 1 = _
    rw [Nat.pow_zero, Nat.mul_one, hmul, Nat.mul_one]
  have hread := readDigits_integer (allDigits_natDigits (n / unitsPerOne))
  rw [digitsValue_natDigits] at hread
  have hhead : ∃ i tail, natDigits (n / unitsPerOne) = digitChar i :: tail ∧ i < 10 := by
    obtain ⟨i, tail, heq, hi, _⟩ := (allDigits_natDigits (n / unitsPerOne)).eq_cons
      (List.length_pos_iff.mp (natDigits_length_pos _))
    exact ⟨i, tail, heq, hi⟩
  have hsign : intDigits (signed s (n / unitsPerOne)) =
      withSign (s && decide (n ≠ 0)) (natDigits (n / unitsPerOne)) := by
    unfold intDigits signed withSign
    by_cases h0 : n = 0
    · cases s <;> simp [h0]
    · have hpos : 0 < n / unitsPerOne := Nat.pos_of_ne_zero fun hq => h0 (hzero.mp hq)
      generalize n / unitsPerOne = q at hpos
      cases s with
      | true =>
        simp [h0]
        omega
      | false => simp
  rw [hsign, numberOf_withSign _ hhead hread, hdouble]
  rfl

theorem isNumberText_intDigits (k : ℤ) : IsNumberText (intDigits k) := by
  have hne : natDigits k.natAbs ≠ [] := List.length_pos_iff.mp (natDigits_length_pos _)
  unfold intDigits
  split
  · exact isNumberText_digits true (allDigits_natDigits _) hne
  · exact isNumberText_digits false (allDigits_natDigits _) hne

theorem displayChars_integral {s : Bool} {n : Nat} (h : Format.double.Holds n)
    (hn : n % unitsPerOne = 0) :
    displayChars (.finite s n h) = intDigits (signed s (n / unitsPerOne)) := by
  simp [displayChars, toInt?, hn]

theorem displayChars_fraction {s : Bool} {n : Nat} (h : Format.double.Holds n)
    (hn : n % unitsPerOne ≠ 0) :
    displayChars (.finite s n h) = withSign s (shortest (.finite s n h) n).layout := by
  simp [displayChars, toInt?, hn, literalChars]

theorem layout_eq (d : Decimal) :
    d.layout = if -4 < d.normalize.2 ∧ d.normalize.2 ≤ 16
      then positional d.normalize.1 d.normalize.2
      else scientific d.normalize.1 (d.normalize.2 - 1) := rfl

/-- A plain double is read back from its display, but for the sign of zero. -/
theorem numberOf_display {x : Double} (hx : x.Plain) :
    IsNumberText x.displayChars ∧ numberOf? x.displayChars = some x.positiveZero := by
  cases x with
  | nan | infinite s => exact absurd hx id
  | finite s n h =>
    by_cases hn : n % unitsPerOne = 0
    · rw [displayChars_integral h hn]
      exact ⟨isNumberText_intDigits _, numberOf_intDigits h hn⟩
    · have hge : unitsPerOne ≤ n * 10000 := hx.resolve_left hn
      have hplace := (neg_four_lt_place_iff (s := s) h hn).mpr hge
      rw [displayChars_fraction h hn, layout_eq, if_pos ⟨hplace, place_le_sixteen h hn⟩]
      generalize hd : shortest (.finite s n h) n = d
      have hdigits := allDigits_normalize d
      obtain ⟨as, bs, heq, has, hne, hbs⟩ :=
        positional_eq_append hdigits (normalize_ne_nil d) d.normalize.2
      obtain ⟨d', hread, hvalue⟩ := readDigits_positional hdigits d.normalize.2
      obtain ⟨i, tail, rfl, hi, _⟩ := has.eq_cons hne
      constructor
      · rw [heq]
        exact isNumberText_append s has hne hbs
      · rw [numberOf_withSign s ⟨i, tail ++ bs, heq, hi⟩ hread,
          toDouble_congr (hvalue.trans (value_normalize d)), ← hd, toDouble_shortest h]
        have h0 : n ≠ 0 := fun h0 => hn (by rw [h0, Nat.zero_mod])
        simp [positiveZero, h0]

/-- A smaller double is displayed as two numbers around the letter `e`. -/
theorem display_small {s : Bool} {n : Nat} {h : Format.double.Holds n}
    (hx : ¬ Plain (.finite s n h)) :
    ∃ mantissa exponent y z, displayChars (.finite s n h) = mantissa ++ 'e' :: '-' :: exponent ∧
      IsNumberText mantissa ∧ numberOf? mantissa = some y ∧
      IsNumberText ('-' :: exponent) ∧ numberOf? ('-' :: exponent) = some z := by
  have hn : n % unitsPerOne ≠ 0 := fun hn => hx (.inl hn)
  have hplace : ¬ -4 < (shortest (.finite s n h) n).normalize.2 := fun hlt =>
    hx (.inr ((neg_four_lt_place_iff h hn).mp hlt))
  rw [displayChars_fraction h hn, layout_eq, if_neg fun hboth => hplace hboth.1]
  generalize shortest (.finite s n h) n = d at hplace ⊢
  obtain ⟨c, cs, hc, hlt, hcs⟩ := (allDigits_normalize d).eq_cons (normalize_ne_nil d)
  have hone : AllDigits [digitChar c] := allDigits_singleton hlt
  have hexp : AllDigits (exponentDigits (d.normalize.2 - 1).natAbs) := allDigits_exponentDigits _
  have hexpne := exponentDigits_ne_nil (d.normalize.2 - 1).natAbs
  obtain ⟨i, tail, heq, hi, _⟩ := hexp.eq_cons hexpne
  have hneg : d.normalize.2 - 1 < 0 := by omega
  have hexponent := numberOf_withSign true ⟨i, tail, heq, hi⟩ (readDigits_integer hexp)
  simp only [scientific, hc, if_pos hneg]
  cases cs with
  | nil =>
    refine ⟨withSign s [digitChar c], _, _, _, ?_, isNumberText_digits s hone (by simp),
      numberOf_withSign s ⟨c, [], rfl, hlt⟩ (readDigits_integer hone),
      isNumberText_digits true hexp hexpne, hexponent⟩
    rw [← withSign_append]
    rfl
  | cons c' cs =>
    refine ⟨withSign s (digitChar c :: '.' :: c' :: cs), _, _, _, ?_, ?_,
      numberOf_withSign s ⟨c, _, rfl, hlt⟩ (readDigits_pointed hone hcs),
      isNumberText_digits true hexp hexpne, hexponent⟩
    · rw [← withSign_append]
      simp
    · refine ⟨s, c, _, rfl, hlt, fun t ht => ?_⟩
      rcases List.mem_cons.mp ht with rfl | ht
      · rfl
      · exact hcs.isNumberPart t ht

end Double
end Formula
