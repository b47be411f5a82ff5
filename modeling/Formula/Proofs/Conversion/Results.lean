import Formula.Proofs.Conversion.Integers
import Formula.Proofs.Double.Single

/-!
# Formula.Proofs.Conversion.Results

What a conversion to a result type gives. The values of each type are told without the conversion
(`ResultType.Has`). A conversion that succeeds gives one of them (`has_of_convertToType`), and it
leaves all of them alone (`convertToType_of_has`), so that to convert a result once more changes
nothing. A truth value is of its own type and of that of all values, and becomes no other
(`coerce_settles`).
-/

namespace Formula

/-- The values of a result type. -/
inductive ResultType.Has : ResultType → Value → Prop where
  | any (v : Value) : Has .any v
  | integer {t : IntegerType} {n : Int} : t.Range n → Has (.integer t) (.int n)
  | float (x : Double) : Has .float (.double x)
  | float32 {x : Double} : x.IsSingle → Has .float32 (.double x)
  | float64 (x : Double) : Has .float64 (.double x)
  | bool (b : Bool) : Has .bool (.bool b)
  | string (s : String) : Has .string (.string s)

section Types

variable {t : ResultType} {v w : Value} {b : Bool}

theorem coerceToDouble_eq (t : ResultType) (v : Value) : coerceToDouble t v =
    if v.supports .double then
      v.toDouble.map fun x => .double (if t = .float32 then x.toSingle else x)
    else .error (resultMismatch t.name v) := by
  simp only [coerceToDouble, roundToSingle_eq]
  cases v.toDouble with
  | error err => rfl
  | ok x => by_cases h : t = .float32 <;> simp [h, Except.map]

theorem coerceToDouble_eq_ok (h : coerceToDouble t v = .ok w) :
    ∃ x : Double, w = .double (if t = .float32 then x.toSingle else x) := by
  rw [coerceToDouble_eq] at h
  split at h
  · cases hx : v.toDouble with
    | error err =>
      rw [hx] at h
      cases h
    | ok x =>
      rw [hx] at h
      cases h
      exact ⟨x, rfl⟩
  · cases h

theorem has_of_convertToType (h : convertToType t v = .ok w) : t.Has w := by
  cases t with
  | any => exact .any w
  | integer type =>
    obtain ⟨n, rfl, -, hrange⟩ := coerceToInteger_eq_ok_iff.mp h
    exact .integer hrange
  | float =>
    obtain ⟨x, rfl⟩ := coerceToDouble_eq_ok h
    exact .float x
  | float32 =>
    obtain ⟨x, rfl⟩ := coerceToDouble_eq_ok h
    exact .float32 x.toSingle_isSingle
  | float64 =>
    obtain ⟨x, rfl⟩ := coerceToDouble_eq_ok h
    exact .float64 x
  | bool =>
    rw [convertToType] at h
    split at h
    · split at h <;> cases h
      exact .bool _
    · cases h
  | string =>
    rw [convertToType] at h
    split at h
    · split at h <;> cases h
      exact .string _
    · cases h

theorem convertToType_of_has (h : t.Has v) : convertToType t v = .ok v := by
  cases h with
  | any | float | float64 | bool | string => rfl
  | integer hrange => exact coerceToInteger_of_range (.int _) hrange
  | @float32 x hx =>
    rw [convertToType, coerceToDouble_eq]
    show Except.ok (Value.double x.toSingle) = .ok (.double x)
    rw [Double.toSingle_of_isSingle hx]

/-- Neither is a truth value a number or a string, nor does it convert to one. -/
theorem convertToType_bool (hany : t ≠ .any) (hbool : t ≠ .bool) :
    convertToType t (.bool b) = .error (resultMismatch t.name (.bool b)) := by
  cases t with
  | any => exact absurd rfl hany
  | bool => exact absurd rfl hbool
  | integer type => rfl
  | float | float32 | float64 | string => rfl

theorem convertToType_bool_eq_ok_iff :
    convertToType t (.bool b) = .ok w ↔ w = .bool b ∧ (t = .any ∨ t = .bool) := by
  by_cases hany : t = .any
  · subst hany
    simp [convertToType, eq_comm]
  · by_cases hbool : t = .bool
    · subst hbool
      simp [convertToType, Value.supports, Value.toBool, eq_comm]
    · simp [convertToType_bool hany hbool, hany, hbool]

end Types

section Targets

variable {target : Target} {test : ClassTest} {t : ResultType} {v w : Value} {b : Bool}

/-- The values of a result type are of the class that stands for it. -/
theorem admits_of_has (h : Target.typeOfClass? test = some t) (hv : t.Has v) :
    test.admits v = .ok true := by
  cases test with
  | any => rfl
  | only c =>
    cases c with
    | int | double | bool | string =>
      cases h
      cases hv
      rfl
  | tested name test => cases h

/-- A result comes of a conversion to the type asked for, or it is the value itself, of a class that
stands for no type. -/
theorem coerce_eq_ok_iff : coerce target v = .ok w ↔
    (∃ t, target.type? = some t ∧ convertToType t v = .ok w) ∨
    ∃ test, target = .ofClass test ∧ target.type? = none ∧ test.admits v = .ok true ∧ w = v := by
  cases htype : target.type? with
  | some t => simp [coerce_of_type? htype]
  | none =>
    cases target with
    | named name => simp [coerce, show ResultType.ofName? name = none from htype]
    | ofClass test =>
      rw [coerce, show Target.typeOfClass? test = none from htype]
      cases hadmits : test.admits v with
      | error err => simp [hadmits]
      | ok b =>
        cases b with
        | false => simp [hadmits]
        | true => simp [hadmits, @eq_comm _ w v]

theorem coerce_idempotent (h : coerce target v = .ok w) : coerce target w = .ok w := by
  rcases coerce_eq_ok_iff.mp h with ⟨t, htype, hw⟩ | ⟨test, rfl, htype, hadmits, rfl⟩
  · exact coerce_eq_ok_iff.mpr (.inl ⟨t, htype, convertToType_of_has (has_of_convertToType hw)⟩)
  · exact h

theorem has_of_coerce (h : coerce target v = .ok w) (htype : target.type? = some t) : t.Has w := by
  rw [coerce_of_type? htype] at h
  exact has_of_convertToType h

theorem admits_of_coerce (h : coerce (.ofClass test) v = .ok w) : test.admits w = .ok true := by
  rcases coerce_eq_ok_iff.mp h with ⟨t, htype, hw⟩ | ⟨test, ⟨⟩, htype, hadmits, rfl⟩
  · exact admits_of_has htype (has_of_convertToType hw)
  · exact hadmits

theorem coerce_bool_eq_ok_iff : coerce target (.bool b) = .ok w ↔ w = .bool b ∧
    (target = .named "any" ∨ target = .named "bool" ∨
      ∃ test, target = .ofClass test ∧ test.admits (.bool b) = .ok true) := by
  constructor
  · intro h
    rcases coerce_eq_ok_iff.mp h with ⟨t, htype, hw⟩ | ⟨test, htarget, htype, hadmits, hw⟩
    · obtain ⟨rfl, ht⟩ := convertToType_bool_eq_ok_iff.mp hw
      refine ⟨rfl, ?_⟩
      cases target with
      | ofClass test => exact .inr (.inr ⟨test, rfl, admits_of_coerce h⟩)
      | named name =>
        have hname := ResultType.ofName?_eq_some_iff.mp htype
        rcases ht with rfl | rfl
        · exact .inl (congrArg Target.named hname)
        · exact .inr (.inl (congrArg Target.named hname))
    · exact ⟨hw, .inr (.inr ⟨test, htarget, hadmits⟩)⟩
  · rintro ⟨rfl, rfl | rfl | ⟨test, rfl, hadmits⟩⟩
    · rfl
    · rfl
    · cases test with
      | any => rfl
      | only c =>
        cases c with
        | bool => rfl
        | int | double | string => cases hadmits
      | tested name test => exact coerce_eq_ok_iff.mpr (.inr ⟨_, rfl, rfl, hadmits, rfl⟩)

/-- A conversion that succeeds gives a value of the type asked for, or one that the class asked for
admits, and the value converts to itself. A truth value converts to itself alone, as any value, as a
truth value or as one that the class admits, and is refused as a number or a string. -/
theorem coerce_settles (target : Target) :
    (∀ v w, coerce target v = .ok w → coerce target w = .ok w ∧
      (∀ t, target.type? = some t → t.Has w) ∧
      ∀ test, target = .ofClass test → test.admits w = .ok true) ∧
    (∀ b w, coerce target (.bool b) = .ok w ↔ w = .bool b ∧
      (target = .named "any" ∨ target = .named "bool" ∨
        ∃ test, target = .ofClass test ∧ test.admits (.bool b) = .ok true)) ∧
    ∀ t b, target.type? = some t → t ≠ .any → t ≠ .bool →
      coerce target (.bool b) = .error (resultMismatch t.name (.bool b)) := by
  refine ⟨fun v w h => ⟨coerce_idempotent h, fun t => has_of_coerce h, ?_⟩,
    fun b w => coerce_bool_eq_ok_iff, fun t b htype hany hbool => ?_⟩
  · rintro test rfl
    exact admits_of_coerce h
  · rw [coerce_of_type? htype]
    exact convertToType_bool hany hbool

end Targets
end Formula
