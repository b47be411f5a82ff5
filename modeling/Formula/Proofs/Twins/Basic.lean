import Mathlib.Data.List.Forall2
import Formula.Proofs.Conversion.Basic

/-!
# Formula.Proofs.Twins.Basic

An integer and the double of the same value are twins, and so are lists and tuples of twins. What
the engine makes of twins differs in nothing but their class and their notation: they have the same
conversions with the same outcomes (`Twin.toDouble` and the like), and where a conversion is refused
the messages are alike (`Error.Alike`).
-/

namespace Formula

/-- The double is the one that the integer converts to, and has exactly its value. Of the two zeros
only the one without a sign represents an integer. -/
def Double.Represents (x : Double) (n : Int) : Prop :=
  Double.ofInt n = x ∧ x.units? = some (n * unitsPerOne)

instance (x : Double) (n : Int) : Decidable (x.Represents n) :=
  inferInstanceAs (Decidable (_ ∧ _))

/-- The same value, except that an integer may stand for the double that represents it, and the
other way round, also within lists and tuples. -/
inductive Value.Twin : Value → Value → Prop where
  | refl (v : Value) : Twin v v
  | intDouble {n : Int} {x : Double} : x.Represents n → Twin (.int n) (.double x)
  | doubleInt {n : Int} {x : Double} : x.Represents n → Twin (.double x) (.int n)
  | list {items items' : List Value} :
      List.Forall₂ Twin items items' → Twin (.list items) (.list items')
  | tuple {items items' : List Value} :
      List.Forall₂ Twin items items' → Twin (.tuple items) (.tuple items')

/-- The same error, or one that a twin takes the place of a value in: such errors name the value or
its class in their message and are the same otherwise. -/
inductive Error.Alike : Error → Error → Prop where
  | refl (e : Error) : Alike e e
  | notConvertible (wanted : Capability) {v v' : Value} :
      v.Twin v' → Alike (Value.notConvertible wanted v) (Value.notConvertible wanted v')
  | result (expected : String) {v v' : Value} :
      v.Twin v' → Alike (resultMismatch expected v) (resultMismatch expected v')
  | incomparable {left left' right right' : Value} : left.Twin left' → right.Twin right' →
      Alike (.invalidOperation (.incomparable left.classOf.name right.classOf.name))
        (.invalidOperation (.incomparable left'.classOf.name right'.classOf.name))

theorem Error.Alike.kind? {e e' : Error} (h : e.Alike e') : e.kind? = e'.kind? := by
  cases h <;> rfl

/-! ## Results of two runs -/

/-- Two values that `R` relates, or two errors that are alike. -/
def Agree {α β : Type} (R : α → β → Prop) : Except Error α → Except Error β → Prop
  | .ok a, .ok b => R a b
  | .error e, .error e' => e.Alike e'
  | _, _ => False

section Agree

variable {α β : Type} {R : α → β → Prop} {x : Except Error α} {x' : Except Error β}

theorem agree_refl {R : α → α → Prop} (hR : ∀ a, R a a) (x : Except Error α) : Agree R x x := by
  cases x with
  | ok a => exact hR a
  | error e => exact .refl e

theorem Agree.mono {R' : α → β → Prop} (h : Agree R x x') (hR : ∀ a b, R a b → R' a b) :
    Agree R' x x' := by
  cases x <;> cases x' <;> first | exact hR _ _ h | exact h

/-- Both results have values, or neither has. -/
@[elab_as_elim]
theorem Agree.elim {motive : Except Error α → Except Error β → Prop} (h : Agree R x x')
    (ok : ∀ a b, R a b → motive (.ok a) (.ok b))
    (error : ∀ e e', e.Alike e' → motive (.error e) (.error e')) : motive x x' := by
  cases x with
  | ok a =>
    cases x' with
    | ok b => exact ok a b h
    | error e' => cases h
  | error e =>
    cases x' with
    | ok b => cases h
    | error e' => exact error e e' h

/-- Both results have the same value, or neither has one. -/
@[elab_as_elim]
theorem Agree.elim_eq {x x' : Except Error α} {motive : Except Error α → Except Error α → Prop}
    (h : Agree Eq x x') (ok : ∀ a, motive (.ok a) (.ok a))
    (error : ∀ e e', e.Alike e' → motive (.error e) (.error e')) : motive x x' := by
  refine h.elim ?_ error
  rintro a _ rfl
  exact ok a

/-- Equal values are twins. -/
theorem Agree.twins {x x' : Except Error Value} (h : Agree Eq x x') : Agree Value.Twin x x' := by
  refine h.mono ?_
  rintro v _ rfl
  exact .refl v

end Agree

/-! ## Numbers -/

namespace Double

variable {x : Double} {n : Int}

theorem Represents.finite (h : x.Represents n) :
    ∃ s m holds, x = .finite s m holds ∧ signed s m = n * unitsPerOne := by
  have hunits := h.2
  cases x with
  | nan | infinite s => cases hunits
  | finite s m holds => exact ⟨s, m, holds, rfl, Option.some.inj hunits⟩

theorem Represents.fromInt (h : x.Represents n) : Double.fromInt n = .ok x := by
  rw [Double.fromInt, h.1]
  obtain ⟨s, m, holds, rfl, -⟩ := h.finite
  rfl

/-- The magnitude is the one of the integer, in units. -/
theorem natAbs_of_signed {s : Bool} {m : Nat} (h : signed s m = n * unitsPerOne) :
    m = n.natAbs * unitsPerOne := by
  rw [← natAbs_signed s m, h, Int.natAbs_mul, Int.natAbs_natCast]

theorem Represents.toInt? (h : x.Represents n) : x.toInt? = some n := by
  obtain ⟨s, m, holds, rfl, hsigned⟩ := h.finite
  have hm := natAbs_of_signed hsigned
  have hwhole : signed s n.natAbs = n := by
    refine Int.eq_of_mul_eq_mul_right unitsPerOne_ne_zero ?_
    rw [← signed_mul, ← hm, hsigned]
  rw [Double.toInt?, if_pos (by rw [hm, Nat.mul_mod_left]), hm,
    Nat.mul_div_cancel _ unitsPerOne_pos, hwhole]

theorem Represents.display (h : x.Represents n) : x.display = Decimal.intText n := by
  rw [Double.display, displayChars, h.toInt?, Decimal.intText]

end Double

/-! ## Values -/

namespace Value

variable {v v' : Value}

theorem Twin.supports (h : v.Twin v') (wanted : Capability) :
    v.supports wanted = v'.supports wanted := by
  cases h with
  | refl => rfl
  | intDouble _ | doubleInt _ | list _ | tuple _ => cases wanted <;> rfl

theorem Twin.isNumber (h : v.Twin v') : v.isNumber = v'.isNumber := by
  cases h <;> rfl

/-- Only numbers have twins of another class. -/
theorem Twin.classOf (h : v.Twin v') (hnumber : v.isNumber = false) : v.classOf = v'.classOf := by
  cases h with
  | refl | list _ | tuple _ => rfl
  | intDouble _ | doubleInt _ => cases hnumber

theorem Twin.toDouble (h : v.Twin v') : Agree Eq v.toDouble v'.toDouble := by
  cases h with
  | refl => exact agree_refl Eq.refl _
  | intDouble h | doubleInt h =>
    simp only [Value.toDouble, doubleOfInt, h.fromInt]
    exact rfl
  | list h => exact .notConvertible .double (.list h)
  | tuple h => exact .notConvertible .double (.tuple h)

theorem Twin.toInt (h : v.Twin v') : Agree Eq v.toInt v'.toInt := by
  cases h with
  | refl => exact agree_refl Eq.refl _
  | intDouble h | doubleInt h =>
    rw [toInt_double_eq_ok_iff.mpr h.2]
    exact rfl
  | list h => exact .notConvertible .int (.list h)
  | tuple h => exact .notConvertible .int (.tuple h)

theorem Twin.toText (h : v.Twin v') : Agree Eq v.toText v'.toText := by
  cases h with
  | refl => exact agree_refl Eq.refl _
  | intDouble h | doubleInt h =>
    simp only [Value.toText, h.display]
    exact rfl
  | list h => exact .notConvertible .string (.list h)
  | tuple h => exact .notConvertible .string (.tuple h)

theorem Twin.toBool (h : v.Twin v') : Agree Eq v.toBool v'.toBool := by
  cases h with
  | refl => exact agree_refl Eq.refl _
  | intDouble h => exact .notConvertible .bool (.intDouble h)
  | doubleInt h => exact .notConvertible .bool (.doubleInt h)
  | list h => exact .notConvertible .bool (.list h)
  | tuple h => exact .notConvertible .bool (.tuple h)

end Value
end Formula
