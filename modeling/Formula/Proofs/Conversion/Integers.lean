import Formula.Proofs.Conversion.Basic

/-!
# Formula.Proofs.Conversion.Integers

Conversion to the integer types. The range of a type is told from its sign and its width, and the
integer that a value gives from what the value is, without the conversion. A value converts to the
integer that it gives, if that is in the range and not otherwise (`coerceToInteger_eq_ok_iff`); why
it is refused else is known (`coerceToInteger_eq_error_iff`). So no type makes another integer of a
value than any other type does (`coerce_integer`).
-/

-- Powers are taken with the instance of the core library, whatever other instances are known.
attribute [local instance (10000)] instPowNat

namespace Formula

/-! ## Ranges -/

namespace IntegerType

def isSigned : IntegerType → Bool
  | int | int8 | int16 | int32 | int64 => true
  | uint | uint8 | uint16 | uint32 | uint64 => false

/-- The number of binary digits, if it is limited. -/
def width? : IntegerType → Option Nat
  | int | uint => none
  | int8 | uint8 => some 8
  | int16 | uint16 => some 16
  | int32 | uint32 => some 32
  | int64 | uint64 => some 64

/-- The integers that the digits of the type can hold; of a signed one the sign takes a digit. -/
def Range (t : IntegerType) (n : Int) : Prop :=
  match t.isSigned, t.width? with
  | true, none => True
  | true, some width => -2 ^ (width - 1) ≤ n ∧ n < 2 ^ (width - 1)
  | false, none => 0 ≤ n
  | false, some width => 0 ≤ n ∧ n < 2 ^ width

theorem contains_iff_range (t : IntegerType) (n : Int) : t.contains n = true ↔ t.Range n := by
  cases t <;> simp [contains, least?, greatest?, Range, isSigned, width?] <;> omega

instance (t : IntegerType) (n : Int) : Decidable (t.Range n) :=
  decidable_of_iff _ (t.contains_iff_range n)

end IntegerType

/-! ## The integer of a value -/

/-- The integer that a value gives: an integer itself, a double that equals it, or a host object
whose conversion returns it. -/
inductive Value.GivesInteger : Value → Int → Prop where
  | int (n : Int) : GivesInteger (.int n) n
  | double {x : Double} {n : Int} : x.units? = some (n * unitsPerOne) → GivesInteger (.double x) n
  | host {object : Host} {n : Int} : object.int = some (.ok n) → GivesInteger (.host object) n

namespace Value

variable {v : Value} {n : Int} {err : Error}

theorem toInt_eq_ok_iff : v.toInt = .ok n ↔ v.GivesInteger n := by
  constructor
  · intro h
    cases v with
    | int m =>
      cases h
      exact .int n
    | double x => exact .double (toInt_double_eq_ok_iff.mp h)
    | host object =>
      rw [toInt] at h
      split at h
      · rename_i result hresult
        exact .host (hresult.trans (congrArg some h))
      · cases h
    | _ => cases h
  · intro h
    cases h with
    | int n => rfl
    | double hx => exact toInt_double_eq_ok_iff.mpr hx
    | @host object n hint => rw [toInt, hint]

theorem GivesInteger.supports (h : v.GivesInteger n) : v.supports .int = true := by
  cases h with
  | int n | double hx => rfl
  | host hint => simp [Value.supports, hint]

theorem Fails.supports (h : v.Fails .int err) : v.supports .int = true := by
  cases h with
  | fractional hx hu | notFinite hx => rfl
  | raised hraises => simp [Value.supports, show _ = some _ from hraises]

end Value

/-! ## Conversion -/

/-- Why a value is refused as an integer of a type: it does not convert to integers, its conversion
fails, or the integer that it gives is out of the range. -/
inductive IntegerType.Refuses (t : IntegerType) : Value → Error → Prop where
  | notConvertible {v : Value} : v.supports .int = false → Refuses t v (resultMismatch t.name v)
  | fails {v : Value} {err : Error} : v.Fails .int err → Refuses t v err
  | outOfRange {v : Value} {n : Int} : v.GivesInteger n → ¬ t.Range n →
      Refuses t v (.typeMismatch (.outOfRange n t.name))

section Coerce

variable {t : IntegerType} {target : Target} {v : Value} {n : Int} {err : Error}

theorem coerceToInteger_of_givesInteger (h : v.GivesInteger n) : coerceToInteger t v =
    if t.contains n then .ok (.int n) else .error (.typeMismatch (.outOfRange n t.name)) := by
  rw [coerceToInteger, if_pos h.supports, Value.toInt_eq_ok_iff.mpr h]

theorem coerceToInteger_of_range (h : v.GivesInteger n) (hrange : t.Range n) :
    coerceToInteger t v = .ok (.int n) := by
  rw [coerceToInteger_of_givesInteger h, if_pos ((t.contains_iff_range n).mpr hrange)]

theorem coerceToInteger_of_refuses (h : t.Refuses v err) : coerceToInteger t v = .error err := by
  cases h with
  | notConvertible hsupports => rw [coerceToInteger, if_neg (by simp [hsupports])]
  | fails herr =>
    have htoInt : v.toInt = .error err := map_eq_error_iff.mp (Value.convert_of_fails herr)
    rw [coerceToInteger, if_pos herr.supports, htoInt]
  | outOfRange hn hrange =>
    rw [coerceToInteger_of_givesInteger hn, if_neg fun h => hrange ((t.contains_iff_range _).mp h)]

/-- There is always one or the other. -/
theorem IntegerType.range_or_refuses (t : IntegerType) (v : Value) :
    (∃ n, v.GivesInteger n ∧ t.Range n) ∨ ∃ err, t.Refuses v err := by
  cases hsupports : v.supports .int with
  | false => exact .inr ⟨_, .notConvertible hsupports⟩
  | true =>
    cases hn : v.toInt with
    | error err =>
      have hfails := Value.fails_of_convert hsupports (map_eq_error_iff.mpr hn)
      exact .inr ⟨err, .fails hfails⟩
    | ok n =>
      have hgives := Value.toInt_eq_ok_iff.mp hn
      by_cases hrange : t.Range n
      · exact .inl ⟨n, hgives, hrange⟩
      · exact .inr ⟨_, .outOfRange hgives hrange⟩

theorem coerceToInteger_eq_ok_iff {w : Value} :
    coerceToInteger t v = .ok w ↔ ∃ n, w = .int n ∧ v.GivesInteger n ∧ t.Range n := by
  constructor
  · intro h
    rcases t.range_or_refuses v with ⟨n, hn, hrange⟩ | ⟨err, herr⟩
    · cases (coerceToInteger_of_range hn hrange).symm.trans h
      exact ⟨n, rfl, hn, hrange⟩
    · cases (coerceToInteger_of_refuses herr).symm.trans h
  · rintro ⟨n, rfl, hn, hrange⟩
    exact coerceToInteger_of_range hn hrange

theorem coerceToInteger_eq_ok_int_iff :
    coerceToInteger t v = .ok (.int n) ↔ v.GivesInteger n ∧ t.Range n := by
  simp [coerceToInteger_eq_ok_iff]

theorem coerceToInteger_eq_error_iff : coerceToInteger t v = .error err ↔ t.Refuses v err := by
  refine ⟨fun h => ?_, coerceToInteger_of_refuses⟩
  rcases t.range_or_refuses v with ⟨n, hn, hrange⟩ | ⟨err', herr⟩
  · cases (coerceToInteger_of_range hn hrange).symm.trans h
  · cases (coerceToInteger_of_refuses herr).symm.trans h
    exact herr

/-- A refusal is a mismatch, or the error of the host object's own conversion. -/
theorem IntegerType.Refuses.kind (h : t.Refuses v err) : (∃ cause, err = .typeMismatch cause) ∨
    ∃ object, v = .host object ∧ object.int = some (.error err) := by
  cases h with
  | notConvertible hsupports => exact .inl ⟨_, rfl⟩
  | outOfRange hn hrange => exact .inl ⟨_, rfl⟩
  | fails herr =>
    cases herr with
    | fractional hx hu => exact .inl ⟨_, rfl⟩
    | notFinite hx => exact .inl ⟨_, rfl⟩
    | raised hraises => exact .inr ⟨_, rfl, hraises⟩

/-- An integer type takes the integer that a value gives, if that is in its range, and refuses the
value otherwise. So a type with a wider range takes the same integer, and a value whose integer is
out of the range is refused for that. -/
theorem coerce_integer (h : target.type? = some (.integer t)) (v : Value) :
    (∀ w, coerce target v = .ok w ↔ ∃ n, w = .int n ∧ v.GivesInteger n ∧ t.Range n) ∧
    ((¬ ∃ n, v.GivesInteger n ∧ t.Range n) → ∃ err, coerce target v = .error err ∧
      ((∃ cause, err = .typeMismatch cause) ∨
        ∃ object, v = .host object ∧ object.int = some (.error err))) ∧
    (∀ (target' : Target) (wider : IntegerType), target'.type? = some (.integer wider) →
      (∀ n, t.Range n → wider.Range n) →
      ∀ n, coerce target v = .ok (.int n) → coerce target' v = .ok (.int n)) ∧
    (∀ (target' : Target), target'.type? = some (.integer .int) →
      ∀ n, coerce target' v = .ok (.int n) → ¬ t.Range n →
      coerce target v = .error (.typeMismatch (.outOfRange n t.name))) := by
  have heq {target' : Target} {t' : IntegerType} (h' : target'.type? = some (.integer t')) :
      coerce target' v = coerceToInteger t' v := coerce_of_type? h' v
  rw [heq h]
  refine ⟨fun w => coerceToInteger_eq_ok_iff, fun hno => ?_, fun target' wider h' hwider n hn => ?_,
    fun target' h' n hn hrange => ?_⟩
  · obtain hrange | ⟨err, herr⟩ := t.range_or_refuses v
    · exact absurd hrange hno
    · exact ⟨err, coerceToInteger_of_refuses herr, herr.kind⟩
  · obtain ⟨hgives, hrange⟩ := coerceToInteger_eq_ok_int_iff.mp hn
    rw [heq h']
    exact coerceToInteger_of_range hgives (hwider n hrange)
  · rw [heq h'] at hn
    obtain ⟨hgives, -⟩ := coerceToInteger_eq_ok_int_iff.mp hn
    exact coerceToInteger_of_refuses (.outOfRange hgives hrange)

theorem coerce_integer_byte : (Target.named "uint8").type? = some (.integer .uint8) ∧
    coerce (.named "uint8") (.int 256) = .error (.typeMismatch (.outOfRange 256 "uint8")) := by
  have h : (Target.named "uint8").type? = some (.integer .uint8) := rfl
  obtain ⟨-, -, -, hrefused⟩ := coerce_integer h (.int 256)
  exact ⟨h, hrefused (.named "int") rfl 256 rfl (by decide)⟩

end Coerce
end Formula
