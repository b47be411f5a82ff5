import Formula.Library
import Formula.Operation
import Formula.Proofs.Conversion.Basic
import Formula.Proofs.Twins.Basic

/-!
# Formula.Proofs.Twins.Operation

What the operators, the library and the conversion to a result type make of twins. All of them see
a value through its conversions, and so they agree on twins; where they look at its class it is to
tell numbers from other values (`classOf_eq_iff`), or to name it in an error.
-/

namespace Formula

variable {v v' left left' right right' : Value} {vs vs' : List Value}

/-! ## Operators -/

theorem isNumber_of_classOf (h : left.classOf = right.classOf) :
    left.isNumber = right.isNumber := by
  cases left <;> cases right <;> first | rfl | cases h

/-- Two values, unless both are numbers, are of one class exactly if their twins are. -/
theorem classOf_eq_iff (hl : left.Twin left') (hr : right.Twin right')
    (hnumbers : left.isNumber = false ∨ right.isNumber = false) :
    left.classOf = right.classOf ↔ left'.classOf = right'.classOf := by
  by_cases hsame : left.isNumber = right.isNumber
  · rw [hsame, or_self] at hnumbers
    rw [hl.classOf (hsame.trans hnumbers), hr.classOf hnumbers]
  · refine iff_of_false (fun h => hsame (isNumber_of_classOf h)) fun h => hsame ?_
    rw [hl.isNumber, hr.isNumber]
    exact isNumber_of_classOf h

theorem supports_double_of_isNumber (h : v.isNumber = true) : v.supports .double = true := by
  cases v <;> first | rfl | cases h

theorem addValues_twins (hl : left.Twin left') (hr : right.Twin right') :
    Agree Eq (addValues left right) (addValues left' right') := by
  rw [addValues, addValues, ← hl.supports .double, ← hr.supports .double, ← hl.supports .string,
    ← hr.supports .string]
  by_cases hdouble : (left.supports .double && right.supports .double) = true
  · rw [if_pos hdouble, if_pos hdouble]
    refine hl.toDouble.elim_eq (fun x => ?_) fun _ _ halike => halike
    exact hr.toDouble.elim_eq (fun y => rfl) fun _ _ halike => halike
  · rw [if_neg hdouble, if_neg hdouble]
    split
    · refine hl.toText.elim_eq (fun s => ?_) fun _ _ halike => halike
      exact hr.toText.elim_eq (fun t => rfl) fun _ _ halike => halike
    -- What is left is a choice between two refusals by the classes of the operands.
    · have hnumbers : left.isNumber = false ∨ right.isNumber = false := by
        by_contra hboth
        rw [not_or, Bool.not_eq_false, Bool.not_eq_false] at hboth
        rw [supports_double_of_isNumber hboth.1, supports_double_of_isNumber hboth.2] at hdouble
        exact hdouble rfl
      simp only [ne_eq, classOf_eq_iff hl hr hnumbers]
      exact agree_refl Eq.refl _

theorem onDoubles_twins (f : Double → Double → Except Error Double) (hl : left.Twin left')
    (hr : right.Twin right') : Agree Eq (onDoubles f left right) (onDoubles f left' right') := by
  rw [onDoubles, onDoubles]
  refine hl.toDouble.elim_eq (fun x => ?_) fun _ _ halike => halike
  refine hr.toDouble.elim_eq (fun y => ?_) fun _ _ halike => halike
  exact agree_refl Eq.refl _

theorem onInts_twins (f : Int → Int → Int) (hl : left.Twin left') (hr : right.Twin right') :
    Agree Eq (onInts f left right) (onInts f left' right') := by
  rw [onInts, onInts]
  refine hl.toInt.elim_eq (fun m => ?_) fun _ _ halike => halike
  exact hr.toInt.elim_eq (fun n => rfl) fun _ _ halike => halike

theorem option_rel_refl {α : Type} {R : α → α → Prop} (hR : ∀ a, R a a) (o : Option α) :
    Option.Rel R o o := by
  cases o with
  | none => exact .none
  | some a => exact .some (hR a)

/-- Twins are compared by the same rule, or neither pair by any. -/
theorem compareNatively?_twins (c : Comparison) (hl : left.Twin left') (hr : right.Twin right') :
    Option.Rel (Agree Eq) (compareNatively? c left right) (compareNatively? c left' right') := by
  unfold compareNatively?
  rw [← hl.supports .double, ← hr.supports .double]
  split
  · refine hl.toDouble.elim_eq (fun x => ?_) fun _ _ halike => .some halike
    refine hr.toDouble.elim_eq (fun y => ?_) fun _ _ halike => .some halike
    exact .some (agree_refl Eq.refl _)
  -- Only strings and truth values are left to compare, which have no twins but themselves.
  · cases hl with
    | refl =>
      cases hr with
      | refl => exact option_rel_refl (agree_refl Eq.refl) _
      | intDouble _ | doubleInt _ | list _ | tuple _ => cases left <;> exact .none
    | intDouble _ | doubleInt _ | list _ | tuple _ => exact .none

theorem applyUnary_twins (op : Operator) (h : v.Twin v') :
    Agree Eq (applyUnary op v) (applyUnary op v') := by
  cases op with
  | not =>
    rw [applyUnary, applyUnary, h.supports .bool]
    split
    · exact h.toBool.elim_eq (fun b => rfl) fun _ _ halike => halike
    · exact .refl _
  | _ => exact .refl _

theorem logicalOperand_twins (side : Side) (op : Operator) (h : v.Twin v') :
    Agree Eq (logicalOperand side op v) (logicalOperand side op v') := by
  rw [logicalOperand, logicalOperand, h.supports .bool]
  split
  · exact h.toBool
  · exact .refl _

/-! ## Lists and arguments -/

theorem getElem?_twins (h : List.Forall₂ Value.Twin vs vs') (n : Nat) :
    Option.Rel Value.Twin vs[n]? vs'[n]? := by
  induction h generalizing n with
  | nil => exact .none
  | cons hv _ ih =>
    cases n with
    | zero => exact .some hv
    | succ n => exact ih n

theorem itemAt_twins (h : List.Forall₂ Value.Twin vs vs') (index : Int) :
    Agree Value.Twin (itemAt vs index) (itemAt vs' index) := by
  rw [itemAt, itemAt, h.length_eq]
  split
  · exact .refl _
  · rename_i n _
    have hitem := getElem?_twins h n
    generalize vs[n]? = item at hitem
    generalize vs'[n]? = item' at hitem
    cases hitem with
    | none => exact .refl _
    | some hv => exact hv

/-- The same length, and twins at every index. -/
structure Sequence.Twin (items items' : Sequence Value) : Prop where
  length : items.length = items'.length
  item : ∀ n, Agree Value.Twin (items.item n) (items'.item n)

theorem Sequence.ofList_twins (h : List.Forall₂ Value.Twin vs vs') :
    (Sequence.ofList vs).Twin (Sequence.ofList vs') where
  length := congrArg Except.ok h.length_eq
  item n := itemAt_twins h n

theorem Value.Twin.sequence? (h : v.Twin v') :
    Option.Rel Sequence.Twin v.sequence? v'.sequence? := by
  cases h with
  | refl => exact option_rel_refl (fun _ => ⟨rfl, fun _ => agree_refl .refl _⟩) _
  | intDouble _ | doubleInt _ => exact .none
  | list h | tuple h => exact .some (Sequence.ofList_twins h)

theorem Sequence.Twin.element {items items' : Sequence Value} (h : items.Twin items')
    (index : Int) : Agree Value.Twin (items.element index) (items'.element index) := by
  cases index with
  | negSucc n => exact .refl _
  | ofNat n =>
    simp only [Sequence.element, h.length]
    split
    · exact .refl _
    · split
      · exact h.item n
      · exact .refl _

theorem elementAt_twins {items items' : Sequence Value} (h : items.Twin items')
    (hindex : v.Twin v') : Agree Value.Twin (elementAt items v) (elementAt items' v') := by
  rw [elementAt, elementAt, hindex.supports .int]
  split
  · exact hindex.toInt.elim_eq h.element fun _ _ halike => halike
  · exact .refl _

namespace Arguments

theorem at?_twins (h : List.Forall₂ Value.Twin vs vs') (index : Int) :
    Agree Value.Twin (at? vs index) (at? vs' index) := by
  rw [at?, at?, ensure, ensure, h.length_eq]
  split
  · exact .refl _
  · split
    · exact .refl _
    · exact itemAt_twins h index

theorem double_twins (h : List.Forall₂ Value.Twin vs vs') (index : Int) :
    Agree Eq (double vs index) (double vs' index) := by
  rw [double, double, convertible, convertible]
  refine (at?_twins h index).elim (fun arg arg' htwin => ?_) fun _ _ halike => halike
  simp only [htwin.supports .double]
  cases arg'.supports .double with
  | true => exact htwin.toDouble
  | false => exact .refl _

theorem doublesFrom_twins (h : List.Forall₂ Value.Twin vs vs') (index count : Nat) :
    Agree Eq (doublesFrom vs index count) (doublesFrom vs' index count) := by
  induction count generalizing index with
  | zero => exact rfl
  | succ count ih =>
    rw [doublesFrom, doublesFrom]
    refine (double_twins h index).elim_eq (fun x => ?_) fun _ _ halike => halike
    exact (ih (index + 1)).elim_eq (fun xs => rfl) fun _ _ halike => halike

theorem doubles_twins (h : List.Forall₂ Value.Twin vs vs') :
    Agree Eq (doubles vs) (doubles vs') := by
  rw [doubles, doubles, h.length_eq]
  exact doublesFrom_twins h 0 _

end Arguments

namespace Library

theorem apply_twins (f : MathFunction) (h : List.Forall₂ Value.Twin vs vs') :
    Agree Eq (apply f vs) (apply f vs') := by
  rw [apply, apply, Arguments.ensure, Arguments.ensure, h.length_eq]
  split
  · exact .refl _
  · refine (Arguments.doubles_twins h).elim_eq (fun xs => ?_) fun _ _ halike => halike
    exact agree_refl Eq.refl _

theorem call_twins (name : String) (h : List.Forall₂ Value.Twin vs vs') :
    Agree Eq (call name vs) (call name vs') := by
  rw [call, call]
  cases functions.get? name with
  | none => exact .refl _
  | some f =>
    simp only
    exact (apply_twins f h).elim_eq (fun x => rfl) fun _ _ halike => halike

end Library

/-! ## Result types -/

theorem coerceToInteger_twins (t : IntegerType) (h : v.Twin v') :
    Agree Eq (coerceToInteger t v) (coerceToInteger t v') := by
  rw [coerceToInteger, coerceToInteger, h.supports .int]
  split
  · refine h.toInt.elim_eq (fun n => ?_) fun _ _ halike => halike
    exact agree_refl Eq.refl _
  · exact .result t.name h

theorem coerceToDouble_twins (t : ResultType) (h : v.Twin v') :
    Agree Eq (coerceToDouble t v) (coerceToDouble t v') := by
  rw [coerceToDouble, coerceToDouble, h.supports .double]
  split
  · refine h.toDouble.elim_eq (fun x => ?_) fun _ _ halike => halike
    exact agree_refl Eq.refl _
  · exact .result t.name h

/-- Twins convert to the same value of any type but the one of all values. -/
theorem convertToType_twins {t : ResultType} (ht : t ≠ .any) (h : v.Twin v') :
    Agree Eq (convertToType t v) (convertToType t v') := by
  cases t with
  | any => exact absurd rfl ht
  | integer t => exact coerceToInteger_twins t h
  | float => exact coerceToDouble_twins .float h
  | float32 => exact coerceToDouble_twins .float32 h
  | float64 => exact coerceToDouble_twins .float64 h
  | bool =>
    rw [convertToType, convertToType, h.supports .bool]
    split
    · exact h.toBool.elim_eq (fun b => rfl) fun _ _ halike => halike
    · exact .result _ h
  | string =>
    rw [convertToType, convertToType, h.supports .string]
    split
    · exact h.toText.elim_eq (fun s => rfl) fun _ _ halike => halike
    · exact .result _ h

theorem coerce_twins (name : String) (h : v.Twin v') :
    Agree (fun w w' => w.Twin w' ∧ (name ≠ "any" → w = w')) (coerce (.named name) v)
      (coerce (.named name) v') := by
  rw [coerce, coerce]
  cases hname : ResultType.ofName? name with
  | none => exact .refl _
  | some t =>
    simp only [coerceToType_eq_convertToType]
    by_cases ht : t = .any
    · subst ht
      have hfind : ResultType.all.find? (fun t => t.name = name) = some .any := hname
      have hany := List.find?_some hfind
      rw [decide_eq_true_eq] at hany
      exact ⟨h, fun hne => absurd hany.symm hne⟩
    · refine (convertToType_twins ht h).mono ?_
      rintro w _ rfl
      exact ⟨.refl w, fun _ => rfl⟩

end Formula
