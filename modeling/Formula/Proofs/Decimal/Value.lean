import Mathlib.Algebra.Order.Field.Power
import Mathlib.Algebra.Order.Ring.Rat
import Mathlib.Tactic.FieldSimp
import Mathlib.Tactic.Linarith
import Mathlib.Tactic.Ring
import Formula.Decimal.Layout
import Formula.Token.Scan

/-!
# Formula.Proofs.Decimal.Value

The rational number that a decimal denotes, and digits as text. `toDouble_congr` says that the
double of a decimal depends on its value alone, so digits may be split and padded at will;
`readDigits_append` says what the reader of numbers makes of a run of digits.
-/

namespace Formula

namespace Format

variable {f : Format} {k num den num' den' : Nat}

theorem nearest_mul_left (hk : 0 < k) : nearest (k * num) (k * den) = nearest num den := by
  unfold nearest
  rw [Nat.mul_mod_mul_left, Nat.mul_div_mul_left _ _ hk]
  have hlt : 2 * (k * (num % den)) < k * den ↔ 2 * (num % den) < den := by
    rw [Nat.mul_left_comm]
    exact Nat.mul_lt_mul_left hk
  have hgt : k * den < 2 * (k * (num % den)) ↔ den < 2 * (num % den) := by
    rw [Nat.mul_left_comm]
    exact Nat.mul_lt_mul_left hk
  simp only [hlt, hgt]

theorem snap_mul_left (hk : 0 < k) : f.snap (k * num) (k * den) = f.snap num den := by
  unfold snap
  rw [Nat.mul_div_mul_left _ _ hk, Nat.mul_assoc, nearest_mul_left hk]

/-- Rounding depends on the ratio alone. -/
theorem snap_congr (hd : 0 < den) (hd' : 0 < den') (h : num * den' = num' * den) :
    f.snap num den = f.snap num' den' := by
  calc f.snap num den = f.snap (den' * num) (den' * den) := (snap_mul_left hd').symm
    _ = f.snap (den * num') (den * den') := by
      rw [Nat.mul_comm den' num, h, Nat.mul_comm num' den, Nat.mul_comm den' den]
    _ = f.snap num' den' := snap_mul_left hd

theorem round_congr (hd : 0 < den) (hd' : 0 < den') (h : num * den' = num' * den) :
    f.round num den = f.round num' den' := by
  unfold round
  rw [snap_congr hd hd' h]

end Format

theorem Double.ofRatio_congr {s : Bool} {num den num' den' : Nat} (hd : 0 < den) (hd' : 0 < den')
    (h : num * den' = num' * den) : ofRatio s num den = ofRatio s num' den' := by
  have hr : Format.double.round num den = Format.double.round num' den' :=
    Format.round_congr hd hd' h
  cases hn : Format.double.round num' den' with
  | some n => rw [ofRatio_of_round (hr.trans hn), ofRatio_of_round hn]
  | none =>
    have hinf : ∀ a b, Format.double.round a b = none → ofRatio s a b = .infinite s := by
      intro a b hab
      unfold ofRatio
      split
      · simp_all
      · rfl
    rw [hinf _ _ hn, hinf _ _ (hr.trans hn)]

namespace Decimal

/-- The number that a decimal denotes. -/
def value (d : Decimal) : ℚ := d.digits * 10 ^ d.exponent

theorem toDouble_eq_ofRatio (s : Bool) (d : Decimal) :
    ∃ num den : Nat, 0 < den ∧ d.toDouble s = Double.ofRatio s num den ∧
      (num : ℚ) = d.value * unitsPerOne * den := by
  obtain ⟨digits, exponent⟩ := d
  cases exponent with
  | ofNat e =>
    refine ⟨digits * 10 ^ e * unitsPerOne, 1, Nat.one_pos, rfl, ?_⟩
    simp [value]
  | negSucc e =>
    refine ⟨digits * unitsPerOne, 10 ^ (e + 1), Nat.pow_pos (by decide), rfl, ?_⟩
    simp only [value, zpow_negSucc]
    push_cast
    field_simp

/-- The double of a decimal depends on its value alone. -/
theorem toDouble_congr {s : Bool} {d d' : Decimal} (h : d.value = d'.value) :
    d.toDouble s = d'.toDouble s := by
  obtain ⟨num, den, hpos, hd, hnum⟩ := toDouble_eq_ofRatio s d
  obtain ⟨num', den', hpos', hd', hnum'⟩ := toDouble_eq_ofRatio s d'
  rw [hd, hd']
  refine Double.ofRatio_congr hpos hpos' ?_
  have hq : (num : ℚ) * den' = num' * den := by rw [hnum, hnum', h]; ring
  exact_mod_cast hq

/-! ## Digits as text -/

/-- The characters are the digits 0 to 9. -/
def AllDigits (cs : List Char) : Prop :=
  ∀ c ∈ cs, ∃ d < 10, c = digitChar d

/-- The number that a run of digits denotes. -/
def digitsValue : List Char → Nat
  | [] => 0
  | c :: cs => (Text.decimalValue? c).getD 0 * 10 ^ cs.length + digitsValue cs

theorem decimalValue_digitChar {d : Nat} (h : d < 10) :
    Text.decimalValue? (digitChar d) = some d := by
  have hall : ∀ i : Fin 10, Text.decimalValue? (digitChar i) = some i := by decide
  exact hall ⟨d, h⟩

theorem digitChar_ne_point {d : Nat} (h : d < 10) : digitChar d ≠ '.' := by
  have hall : ∀ i : Fin 10, digitChar i ≠ '.' := by decide
  exact hall ⟨d, h⟩

section Digits

variable {as bs cs : List Char}

theorem AllDigits.append (ha : AllDigits as) (hb : AllDigits bs) : AllDigits (as ++ bs) := by
  intro c hc
  rcases List.mem_append.mp hc with h | h
  · exact ha c h
  · exact hb c h

theorem AllDigits.of_append_left (h : AllDigits (as ++ bs)) : AllDigits as :=
  fun c hc => h c (List.mem_append_left bs hc)

theorem digitsValue_append (as bs : List Char) :
    digitsValue (as ++ bs) = digitsValue as * 10 ^ bs.length + digitsValue bs := by
  induction as with
  | nil => simp [digitsValue]
  | cons a as ih =>
    simp only [List.cons_append, digitsValue, ih, List.length_append, Nat.pow_add]
    ring

theorem digitsValue_lt (h : AllDigits cs) : digitsValue cs < 10 ^ cs.length := by
  induction cs with
  | nil => simp [digitsValue]
  | cons c cs ih =>
    obtain ⟨d, hd, rfl⟩ := h c (by simp)
    have hcs := ih fun x hx => h x (by simp [hx])
    rw [digitsValue, decimalValue_digitChar hd, List.length_cons, Nat.pow_succ, Option.getD_some]
    calc d * 10 ^ cs.length + digitsValue cs
        < d * 10 ^ cs.length + 10 ^ cs.length := by omega
      _ = (d + 1) * 10 ^ cs.length := by ring
      _ ≤ 10 * 10 ^ cs.length := Nat.mul_le_mul_right _ (by omega)
      _ = 10 ^ cs.length * 10 := Nat.mul_comm _ _

theorem allDigits_zeros (n : Nat) : AllDigits (zeros n) := by
  intro c hc
  exact ⟨0, by decide, List.eq_of_mem_replicate hc⟩

theorem digitsValue_zeros (n : Nat) : digitsValue (zeros n) = 0 := by
  induction n with
  | zero => rfl
  | succ n ih =>
    have hz : Text.decimalValue? '0' = some 0 := decimalValue_digitChar (d := 0) (by decide)
    have hs : zeros (n + 1) = '0' :: zeros n := List.replicate_succ
    rw [hs, digitsValue, hz, ih]
    simp

theorem length_zeros (n : Nat) : (zeros n).length = n := List.length_replicate

/-- A run of digits adds its value to the number read so far, and its length to the places after
the point if there was one. -/
theorem readDigits_append (h : AllDigits cs) (n : Nat) (places : Option Nat) (rest : List Char) :
    readDigits n places (cs ++ rest) =
      readDigits (n * 10 ^ cs.length + digitsValue cs) (places.map (· + cs.length)) rest := by
  induction cs generalizing n places with
  | nil => cases places <;> simp [digitsValue]
  | cons c cs ih =>
    obtain ⟨d, hd, rfl⟩ := h c (by simp)
    have hcs : AllDigits cs := fun x hx => h x (by simp [hx])
    rw [List.cons_append, readDigits.eq_def]
    simp only [if_neg (digitChar_ne_point hd), digitsValue, decimalValue_digitChar hd,
      Option.getD_some]
    rw [ih hcs]
    congr 1
    · rw [List.length_cons, Nat.pow_succ]
      ring
    · cases places with
      | none => rfl
      | some p => simp [Nat.add_comm, Nat.add_left_comm]

theorem readDigits_point (n : Nat) (rest : List Char) :
    readDigits n none ('.' :: rest) = readDigits n (some 0) rest := by
  simp only [readDigits, if_true]

/-- Digits with a point among them denote the digits, scaled by how many follow the point. -/
theorem readDigits_pointed (ha : AllDigits as) (hb : AllDigits bs) :
    readDigits 0 none (as ++ '.' :: bs) = some ⟨digitsValue (as ++ bs), -(bs.length : Int)⟩ := by
  rw [readDigits_append ha, Option.map_none, readDigits_point, ← List.append_nil bs,
    readDigits_append hb]
  simp [readDigits, digitsValue_append]

theorem readDigits_integer (h : AllDigits cs) :
    readDigits 0 none cs = some ⟨digitsValue cs, 0⟩ := by
  rw [← List.append_nil cs, readDigits_append h]
  simp [readDigits]

end Digits

/-! ## The notation of naturals -/

theorem natDigits_lt {n : Nat} (h : n < 10) : natDigits n = [digitChar n] := by
  rw [natDigits, if_pos h]

theorem natDigits_ge {n : Nat} (h : ¬ n < 10) :
    natDigits n = natDigits (n / 10) ++ [digitChar (n % 10)] := by
  rw [natDigits, if_neg h]

theorem allDigits_singleton {d : Nat} (h : d < 10) : AllDigits [digitChar d] := by
  intro c hc
  exact ⟨d, h, List.mem_singleton.mp hc⟩

theorem allDigits_natDigits (n : Nat) : AllDigits (natDigits n) := by
  induction n using natDigits.induct with
  | case1 n h => rw [natDigits_lt h]; exact allDigits_singleton h
  | case2 n h ih => rw [natDigits_ge h]; exact ih.append (allDigits_singleton (by omega))

theorem digitsValue_singleton {d : Nat} (h : d < 10) : digitsValue [digitChar d] = d := by
  simp [digitsValue, decimalValue_digitChar h]

theorem digitsValue_natDigits (n : Nat) : digitsValue (natDigits n) = n := by
  induction n using natDigits.induct with
  | case1 n h => rw [natDigits_lt h, digitsValue_singleton h]
  | case2 n h ih =>
    rw [natDigits_ge h, digitsValue_append, ih, digitsValue_singleton (Nat.mod_lt n (by decide))]
    simp only [List.length_singleton, Nat.pow_one]
    omega

theorem natDigits_length_pos (n : Nat) : 0 < (natDigits n).length := by
  induction n using natDigits.induct with
  | case1 n h => simp [natDigits_lt h]
  | case2 n h ih => simp [natDigits_ge h]

theorem lt_pow_natDigits (n : Nat) : n < 10 ^ (natDigits n).length := by
  have h := digitsValue_lt (allDigits_natDigits n)
  rwa [digitsValue_natDigits] at h

/-- There are no leading zeros. -/
theorem pow_natDigits_le {n : Nat} (hn : 0 < n) : 10 ^ ((natDigits n).length - 1) ≤ n := by
  induction n using natDigits.induct with
  | case1 n h => simpa [natDigits_lt h] using Nat.succ_le_of_lt hn
  | case2 n h ih =>
    have hq := ih (by omega)
    have hpos := natDigits_length_pos (n / 10)
    rw [natDigits_ge h, List.length_append, List.length_singleton, Nat.add_sub_cancel]
    calc 10 ^ (natDigits (n / 10)).length
        = 10 ^ ((natDigits (n / 10)).length - 1) * 10 := by rw [← Nat.pow_succ]; congr 1; omega
      _ ≤ n / 10 * 10 := Nat.mul_le_mul_right 10 hq
      _ ≤ n := Nat.div_mul_le_self n 10

end Decimal
end Formula
