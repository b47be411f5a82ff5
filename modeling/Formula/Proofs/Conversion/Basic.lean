import Formula.Coerce
import Formula.Proofs.Double.Integral
import Formula.Proofs.Errors.Basic

/-!
# Formula.Proofs.Conversion.Basic

The four conversions of values as one, with the result as a value. A conversion that is not there
fails for that reason; of one that is there it is known why it may fail (`Value.Fails`).
To the type that was asked for, by name or by class, a value is converted by the type alone
(`coerce_of_type?`).
-/

namespace Formula

/-- A conversion with its result as a value. -/
def Value.convert (wanted : Capability) (v : Value) : Except Error Value :=
  match wanted with
  | .double => v.toDouble.map .double
  | .int => v.toInt.map .int
  | .string => v.toText.map .string
  | .bool => v.toBool.map .bool

/-- The host offers a conversion, which fails with this error. -/
def Host.Raises (object : Host) : Capability → Error → Prop
  | .double, err => object.double = some (.error err)
  | .int, err => object.int = some (.error err)
  | .string, err => object.string = some (.error err)
  | .bool, err => object.bool = some (.error err)

/-- Why a conversion that is there fails: a double is no integer, an integer is too large for a
double, or the host's own conversion fails. -/
inductive Value.Fails : Capability → Value → Error → Prop where
  | fractional {x : Double} {u : Int} : x.units? = some u → ¬ (unitsPerOne : Int) ∣ u →
      Fails .int (.double x) (.typeMismatch .hasDecimals)
  | notFinite {x : Double} : x.units? = none →
      Fails .int (.double x) (.typeMismatch .hasDecimals)
  | tooLarge {n : Int} : (Double.ofInt n).isFinite = false →
      Fails .double (.int n) (.typeMismatch .tooLargeForDouble)
  | givenTooLarge {object : Host} {n : Int} : object.double = some (.ok (.int n)) →
      (Double.ofInt n).isFinite = false →
      Fails .double (.host object) (.typeMismatch .tooLargeForDouble)
  | raised {object : Host} {wanted : Capability} {err : Error} : object.Raises wanted err →
      Fails wanted (.host object) err

namespace Double

theorem ofRatio_ne_nan (s : Bool) (num den : Nat) : ofRatio s num den ≠ .nan := by
  unfold ofRatio
  split <;> simp

end Double

theorem map_eq_error_iff {α β : Type} {f : α → β} {x : Except Error α} {err : Error} :
    x.map f = .error err ↔ x = .error err := by
  cases x <;> simp [Except.map]

namespace Value

variable {v : Value} {wanted : Capability} {err : Error}

theorem doubleOfInt_eq_error_iff {n : Int} : doubleOfInt n = .error err ↔
    (Double.ofInt n).isFinite = false ∧ err = .typeMismatch .tooLargeForDouble := by
  unfold doubleOfInt Double.fromInt
  cases hx : Double.ofInt n with
  | nan => exact absurd hx (Double.ofRatio_ne_nan _ _ _)
  | infinite s => simp [Double.isFinite, Double.inRange, orTooLarge, eq_comm]
  | finite s m h => simp [Double.isFinite, Double.inRange, orTooLarge]

theorem doubleOfInt_of_isFinite {n : Int} (h : (Double.ofInt n).isFinite = true) :
    doubleOfInt n = .ok (.ofInt n) := by
  unfold doubleOfInt Double.fromInt
  cases hx : Double.ofInt n with
  | nan | infinite s =>
    rw [hx] at h
    cases h
  | finite s m hm => rfl

theorem toInt_double_eq_ok_iff {x : Double} {n : Int} :
    (Value.double x).toInt = .ok n ↔ x.units? = some (n * unitsPerOne) := by
  rw [toInt]
  cases hx : x.isIntegral with
  | false =>
    have hno := (Double.isIntegral_eq_false_iff x).mp hx
    exact iff_of_false (by simp) fun hu => hno _ hu (Int.dvd_mul_left _ _)
  | true =>
    cases x with
    | nan | infinite s => cases hx
    | finite s m h =>
      obtain ⟨k, hk⟩ := Double.isIntegral_finite_iff.mp hx
      have hwhole : (Double.finite s m h).truncate = .ok k := by
        rw [Double.truncate, Double.toIntBy, hk,
          Int.mul_tdiv_cancel_left _ Double.unitsPerOne_ne_zero]
      rw [if_pos rfl, hwhole, Double.units?, hk, Int.mul_comm, Except.ok.injEq, Option.some.injEq,
        Int.mul_eq_mul_right_iff Double.unitsPerOne_ne_zero]

theorem toInt_double_eq_error_iff {x : Double} : (Value.double x).toInt = .error err ↔
    x.isIntegral = false ∧ err = .typeMismatch .hasDecimals := by
  rw [toInt]
  cases hx : x.isIntegral with
  | false => simp [eq_comm]
  | true =>
    obtain ⟨n, hn⟩ := truncate_of_isIntegral hx
    simp [hn]

/-- A conversion that is not there. -/
theorem convert_of_not_supports (h : v.supports wanted = false) :
    v.convert wanted = .error (notConvertible wanted v) := by
  cases v with
  | host object =>
    cases wanted with
    | double =>
      have hnone : object.double = none := by simpa [supports] using h
      simp [convert, toDouble, hnone, Except.map]
    | int =>
      have hnone : object.int = none := by simpa [supports] using h
      simp [convert, toInt, hnone, Except.map]
    | string =>
      have hnone : object.string = none := by simpa [supports] using h
      simp [convert, toText, hnone, Except.map]
    | bool =>
      have hnone : object.bool = none := by simpa [supports] using h
      simp [convert, toBool, hnone, Except.map]
  | _ => cases wanted <;> first | rfl | cases h

theorem supports_of_toDouble {x : Double} (h : v.toDouble = .ok x) :
    v.supports .double = true := by
  cases hsupports : v.supports .double with
  | true => rfl
  | false =>
    have herr : v.toDouble = .error (v.notConvertible .double) :=
      map_eq_error_iff.mp (convert_of_not_supports hsupports)
    cases herr.symm.trans h

theorem fails_of_not_isIntegral {x : Double} (h : x.isIntegral = false) :
    (Value.double x).Fails .int (.typeMismatch .hasDecimals) := by
  cases hx : x.units? with
  | none => exact .notFinite hx
  | some u => exact .fractional hx ((Double.isIntegral_eq_false_iff x).mp h u hx)

theorem fails_of_toDouble {object : Host} (h : (Value.host object).supports .double = true)
    (herr : (Value.host object).toDouble = .error err) : (Value.host object).Fails .double err := by
  rw [toDouble] at herr
  cases ho : object.double with
  | none => simp [supports, ho] at h
  | some result =>
    rw [ho] at herr
    cases result with
    | error e =>
      cases herr
      exact .raised ho
    | ok number =>
      cases number with
      | double x => cases herr
      | bool b => cases herr
      | int n =>
        obtain ⟨hfinite, rfl⟩ := doubleOfInt_eq_error_iff.mp herr
        exact .givenTooLarge ho hfinite

/-- A conversion that is there fails for one of the causes. -/
theorem fails_of_convert (h : v.supports wanted = true) (herr : v.convert wanted = .error err) :
    v.Fails wanted err := by
  cases wanted with
  | double =>
    have herr : v.toDouble = .error err := map_eq_error_iff.mp herr
    cases v with
    | int n =>
      obtain ⟨hfinite, rfl⟩ := doubleOfInt_eq_error_iff.mp herr
      exact .tooLarge hfinite
    | host object => exact fails_of_toDouble h herr
    | double x => cases herr
    | _ => cases h
  | int =>
    have herr : v.toInt = .error err := map_eq_error_iff.mp herr
    cases v with
    | double x =>
      obtain ⟨hno, rfl⟩ := toInt_double_eq_error_iff.mp herr
      exact fails_of_not_isIntegral hno
    | host object =>
      cases ho : object.int with
      | none => simp [supports, ho] at h
      | some result =>
        rw [toInt, ho] at herr
        exact .raised (ho.trans (congrArg some herr))
    | int n => cases herr
    | _ => cases h
  | string =>
    have herr : v.toText = .error err := map_eq_error_iff.mp herr
    cases v with
    | host object =>
      cases ho : object.string with
      | none => simp [supports, ho] at h
      | some result =>
        rw [toText, ho] at herr
        exact .raised (ho.trans (congrArg some herr))
    | string s | double x | int n => cases herr
    | _ => cases h
  | bool =>
    have herr : v.toBool = .error err := map_eq_error_iff.mp herr
    cases v with
    | host object =>
      cases ho : object.bool with
      | none => simp [supports, ho] at h
      | some result =>
        rw [toBool, ho] at herr
        exact .raised (ho.trans (congrArg some herr))
    | bool b => cases herr
    | _ => cases h

theorem convert_of_fails (h : v.Fails wanted err) : v.convert wanted = .error err := by
  cases h with
  | @fractional x u hx hu =>
    have hno : x.isIntegral = false := by
      refine (Double.isIntegral_eq_false_iff x).mpr fun u' hu' => ?_
      cases hx.symm.trans hu'
      exact hu
    exact map_eq_error_iff.mpr (toInt_double_eq_error_iff.mpr ⟨hno, rfl⟩)
  | @notFinite x hx =>
    have hno : x.isIntegral = false := by
      refine (Double.isIntegral_eq_false_iff x).mpr fun u' hu' => ?_
      cases hx.symm.trans hu'
    exact map_eq_error_iff.mpr (toInt_double_eq_error_iff.mpr ⟨hno, rfl⟩)
  | @tooLarge n hn => exact map_eq_error_iff.mpr (doubleOfInt_eq_error_iff.mpr ⟨hn, rfl⟩)
  | @givenTooLarge object n ho hn =>
    refine map_eq_error_iff.mpr ?_
    rw [toDouble, ho]
    exact doubleOfInt_eq_error_iff.mpr ⟨hn, rfl⟩
  | @raised object wanted err ho =>
    cases wanted with
    | double =>
      refine map_eq_error_iff.mpr ?_
      rw [toDouble, show object.double = some (.error err) from ho]
    | int =>
      refine map_eq_error_iff.mpr ?_
      rw [toInt, show object.int = some (.error err) from ho]
    | string =>
      refine map_eq_error_iff.mpr ?_
      rw [toText, show object.string = some (.error err) from ho]
    | bool =>
      refine map_eq_error_iff.mpr ?_
      rw [toBool, show object.bool = some (.error err) from ho]

theorem convert_eq_error_iff (h : v.supports wanted = true) :
    v.convert wanted = .error err ↔ v.Fails wanted err :=
  ⟨fails_of_convert h, convert_of_fails⟩

end Value

/-- A value that is left alone, since it is of the type, is one that converts to itself. -/
theorem coerceToType_eq_convertToType (t : ResultType) (v : Value) :
    coerceToType t v = convertToType t v := by
  rw [coerceToType]
  split
  · rename_i htype
    cases v <;> cases htype <;> rfl
  · rfl

/-! ## Targets -/

theorem ResultType.ofName?_eq_some_iff {name : String} {t : ResultType} :
    ResultType.ofName? name = some t ↔ name = t.name := by
  constructor
  · intro h
    have hname := List.find?_some h
    exact (of_decide_eq_true hname).symm
  · rintro rfl
    cases t with
    | integer type => cases type <;> rfl
    | _ => rfl

/-- The result type asked for; none by a name of no type, and by a class that stands for none. -/
def Target.type? : Target → Option ResultType
  | named name => ResultType.ofName? name
  | ofClass test => typeOfClass? test

theorem coerce_of_type? {target : Target} {t : ResultType} (h : target.type? = some t) (v : Value) :
    coerce target v = convertToType t v := by
  rw [← coerceToType_eq_convertToType]
  cases target with
  | named name => rw [coerce, show ResultType.ofName? name = some t from h]
  | ofClass test => rw [coerce, show Target.typeOfClass? test = some t from h]

end Formula
