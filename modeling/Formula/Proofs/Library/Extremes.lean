import Mathlib.Data.List.Perm.Basic
import Formula.Proofs.Conversion.Paths
import Formula.Proofs.Double.Order

/-!
# Formula.Proofs.Library.Extremes

`max` and `min` of the library. They keep the first of their arguments that no other one goes
beyond, where NaN goes beyond nothing and nothing beyond it; so NaN is the result exactly if it
comes first (`Extreme.Chosen`). An argument that is no double is an error, the leftmost one first
(`extreme_call`).
-/

namespace Formula

namespace Double

variable {x y : Double} {p q : WithBot (WithTop Int)}

theorem lt_iff (hp : x.extended? = some p) (hq : y.extended? = some q) : x.lt y = true ↔ p < q := by
  obtain ⟨o, ho, hpq⟩ := order?_compares hp hq
  rw [lt, ho]
  cases o with
  | lt => exact iff_of_true rfl hpq
  | eq => exact iff_of_false (by decide) (not_lt_of_ge (le_of_eq (Eq.symm hpq)))
  | gt => exact iff_of_false (by decide) (not_lt_of_gt hpq)

theorem lt_of_isNaN (h : x.isNaN = true ∨ y.isNaN = true) : x.lt y = false := by
  rw [lt, order?_eq_none h]
  rfl

theorem isNaN_iff : x.isNaN = true ↔ x = .nan := by
  cases x <;> simp [isNaN]

theorem isZero_finite {s : Bool} {h : Format.double.Holds 0} : (finite s 0 h).isZero = true := by
  cases s <;> rfl

/-- Doubles of the same value are the same, up to the sign of zero. -/
theorem eq_or_isZero (hx : x.extended? = some p) (hy : y.extended? = some p) :
    x = y ∨ x.isZero = true ∧ y.isZero = true := by
  have hvalue : x.extended? = y.extended? := hx.trans hy.symm
  cases x with
  | nan => cases hx
  | infinite s =>
    cases y with
    | nan => cases hy
    | infinite t => cases s <;> cases t <;> simp [extended?] at hvalue ⊢
    | finite t n hn => cases s <;> simp [extended?] at hvalue
  | finite s m hm =>
    cases y with
    | nan => cases hy
    | infinite t => cases t <;> simp [extended?] at hvalue
    | finite t n hn =>
      have hunits : signed s m = signed t n :=
        WithTop.coe_injective (WithBot.coe_injective (Option.some.inj hvalue))
      obtain ⟨rfl, rfl | rfl⟩ := signed_inj hunits
      · exact .inl rfl
      · exact .inr ⟨isZero_finite, isZero_finite⟩

end Double

/-- The functions of the library that choose one of their arguments. -/
inductive Extreme where
  | greatest
  | least

namespace Extreme

variable {x : Extreme} {a p q : WithBot (WithTop Int)} {kept d m : Double} {ds rest : List Double}

def name : Extreme → String
  | greatest => "max"
  | least => "min"

/-- Whether the first value goes beyond the second in the direction that is looked for. -/
def Beyond : Extreme → WithBot (WithTop Int) → WithBot (WithTop Int) → Prop
  | greatest, p, q => q < p
  | least, p, q => p < q

theorem Beyond.irrefl (x : Extreme) (p : WithBot (WithTop Int)) : ¬ x.Beyond p p := by
  cases x <;> exact lt_irrefl p

theorem Beyond.trans (h : x.Beyond p q) (h' : x.Beyond q a) : x.Beyond p a := by
  cases x with
  | greatest => exact lt_trans h' h
  | least => exact lt_trans h h'

theorem Beyond.of_not (h : x.Beyond p q) (h' : ¬ x.Beyond a q) : x.Beyond p a := by
  cases x with
  | greatest => exact lt_of_le_of_lt (not_lt.mp h') h
  | least => exact lt_of_lt_of_le h (not_lt.mp h')

theorem Beyond.eq_of_not (h : ¬ x.Beyond p q) (h' : ¬ x.Beyond q p) : p = q := by
  cases x with
  | greatest => exact le_antisymm (not_lt.mp h) (not_lt.mp h')
  | least => exact le_antisymm (not_lt.mp h') (not_lt.mp h)

/-- What is chosen from a list: NaN if it comes first, and otherwise the first number that no number
of the list goes beyond. -/
inductive Chosen (x : Extreme) : List Double → Double → Prop where
  | nan (rest : List Double) : Chosen x (.nan :: rest) .nan
  | number {before after : List Double} {m : Double} {p : WithBot (WithTop Int)} :
      m.extended? = some p → (before ++ m :: after).head? ≠ some .nan →
      (∀ d ∈ before, ∀ q, d.extended? = some q → x.Beyond p q) →
      (∀ d ∈ after, ∀ q, d.extended? = some q → ¬ x.Beyond q p) →
      Chosen x (before ++ m :: after) m

/-! ## The fold -/

/-- Which of two numbers is kept. -/
def keep : Extreme → Double → Double → Double
  | greatest, kept, d => if kept.lt d then d else kept
  | least, kept, d => if d.lt kept then d else kept

theorem keep_of_isNaN (h : kept.isNaN = true ∨ d.isNaN = true) : x.keep kept d = kept := by
  cases x with
  | greatest => rw [keep, Double.lt_of_isNaN h, if_neg (by simp)]
  | least => rw [keep, Double.lt_of_isNaN h.symm, if_neg (by simp)]

theorem keep_of_beyond (hp : kept.extended? = some p) (hq : d.extended? = some q)
    (h : x.Beyond q p) : x.keep kept d = d := by
  cases x with
  | greatest => rw [keep, if_pos ((Double.lt_iff hp hq).mpr h)]
  | least => rw [keep, if_pos ((Double.lt_iff hq hp).mpr h)]

theorem keep_of_not_beyond (hp : kept.extended? = some p) (hq : d.extended? = some q)
    (h : ¬ x.Beyond q p) : x.keep kept d = kept := by
  cases x with
  | greatest => rw [keep, if_neg (mt (Double.lt_iff hp hq).mp h)]
  | least => rw [keep, if_neg (mt (Double.lt_iff hq hp).mp h)]

theorem head?_concat_ne (h : ds.head? ≠ some .nan) (hne : ds ≠ []) :
    (ds ++ [d]).head? ≠ some .nan := by
  rwa [List.head?_append_of_ne_nil _ hne]

/-- One more number: it is chosen if it goes beyond the one that was. -/
theorem Chosen.step (h : x.Chosen ds kept) (d : Double) : x.Chosen (ds ++ [d]) (x.keep kept d) := by
  cases h with
  | nan rest =>
    rw [keep_of_isNaN (.inl rfl)]
    exact .nan (rest ++ [d])
  | @number before after _ p hp hhead hbefore hafter =>
    have hhead' := head?_concat_ne (d := d) hhead (by simp)
    by_cases hd : ∃ q, d.extended? = some q ∧ x.Beyond q p
    · obtain ⟨q, hq, hbeyond⟩ := hd
      rw [keep_of_beyond hp hq hbeyond]
      refine .number hq hhead' (fun c hc r hr => ?_) (by simp)
      rcases List.mem_append.mp hc with hc | hc
      · exact hbeyond.trans (hbefore c hc r hr)
      · rcases List.mem_cons.mp hc with rfl | hc
        · cases hp.symm.trans hr
          exact hbeyond
        · exact hbeyond.of_not (hafter c hc r hr)
    · have hkeep : x.keep kept d = kept := by
        cases hnan : d.isNaN with
        | true => exact keep_of_isNaN (.inr hnan)
        | false =>
          obtain ⟨q, hq⟩ := Double.exists_extended? hnan
          exact keep_of_not_beyond hp hq fun hbeyond => hd ⟨q, hq, hbeyond⟩
      rw [hkeep]
      rw [List.append_assoc, List.cons_append] at hhead' ⊢
      refine .number hp hhead' hbefore fun c hc r hr => ?_
      rcases List.mem_append.mp hc with hc | hc
      · exact hafter c hc r hr
      · cases List.mem_singleton.mp hc
        exact fun hbeyond => hd ⟨r, hr, hbeyond⟩

theorem Chosen.run (h : x.Chosen ds kept) (rest : List Double) :
    x.Chosen (ds ++ rest) (rest.foldl x.keep kept) := by
  induction rest generalizing ds kept with
  | nil => rwa [List.append_nil]
  | cons d rest ih =>
    have hrest := ih (h.step d)
    rwa [List.append_assoc] at hrest

/-- What the library does with its numbers. -/
def fold : Extreme → Double → List Double → Double
  | greatest => Double.maximum
  | least => Double.minimum

theorem chosen_fold (x : Extreme) (first : Double) (rest : List Double) :
    x.Chosen (first :: rest) (x.fold first rest) := by
  have hfold : x.fold first rest = rest.foldl x.keep first := by cases x <;> rfl
  have hfirst : x.Chosen [first] first := by
    cases hnan : first.isNaN with
    | true =>
      rw [Double.isNaN_iff.mp hnan]
      exact .nan []
    | false =>
      obtain ⟨p, hp⟩ := Double.exists_extended? hnan
      have hhead : ([] ++ [first] : List Double).head? ≠ some .nan := by
        rintro h
        cases h
        cases hnan
      exact .number hp hhead (by simp) (by simp)
  rw [hfold]
  exact hfirst.run rest

/-! ## What is chosen -/

theorem Chosen.eq_nan (h : x.Chosen ds m) (hhead : ds.head? = some .nan) : m = .nan := by
  cases h with
  | nan rest => rfl
  | number hp hne hbefore hafter => exact absurd hhead hne

/-- If NaN does not come first, a number of the list is chosen. -/
theorem Chosen.mem (h : x.Chosen ds m) (hhead : ds.head? ≠ some .nan) :
    m ∈ ds ∧ ∃ p, m.extended? = some p := by
  cases h with
  | nan rest => exact absurd rfl hhead
  | @number before after _ p hp hne hbefore hafter => exact ⟨by simp, p, hp⟩

/-- No number of the list goes beyond the chosen one. -/
theorem Chosen.not_beyond (h : x.Chosen ds m) (hp : m.extended? = some p) (hd : d ∈ ds)
    (hq : d.extended? = some q) : ¬ x.Beyond q p := by
  cases h with
  | nan rest => cases hp
  | @number before after _ p' hp' hne hbefore hafter =>
    cases hp'.symm.trans hp
    rcases List.mem_append.mp hd with hd | hd
    · exact fun hbeyond => Beyond.irrefl x q (hbeyond.trans (hbefore d hd q hq))
    · rcases List.mem_cons.mp hd with rfl | hd
      · cases hp.symm.trans hq
        exact Beyond.irrefl x p
      · exact hafter d hd q hq

/-- The order of the numbers decides only which of the zeros is chosen, once it is clear whether NaN
comes first. -/
theorem Chosen.of_perm {ds' : List Double} {m' : Double} (h : x.Chosen ds m)
    (h' : x.Chosen ds' m') (hperm : ds.Perm ds')
    (hhead : ds.head? = some .nan ↔ ds'.head? = some .nan) :
    m = m' ∨ m.isZero = true ∧ m'.isZero = true := by
  by_cases hnan : ds.head? = some .nan
  · rw [h.eq_nan hnan, h'.eq_nan (hhead.mp hnan)]
    exact .inl rfl
  · obtain ⟨hm, p, hp⟩ := h.mem hnan
    obtain ⟨hm', q, hq⟩ := h'.mem (mt hhead.mpr hnan)
    have heq : p = q := Beyond.eq_of_not (h'.not_beyond hq (hperm.mem_iff.mp hm) hp)
      (h.not_beyond hp (hperm.mem_iff.mpr hm') hq)
    subst heq
    exact Double.eq_or_isZero hp hq

end Extreme

/-! ## Arguments -/

/-- Why an argument gives no double: there is no such conversion, or it fails. -/
inductive Value.Unfit (v : Value) : Error → Prop where
  | unsupported : v.supports .double = false →
      Unfit v (.typeMismatch (.argumentNotConvertible .double))
  | fails {err : Error} : v.supports .double = true → v.Fails .double err → Unfit v err

theorem Value.fits_or_unfit (v : Value) : (∃ d, v.toDouble = .ok d) ∨ ∃ err, v.Unfit err := by
  cases hsupports : v.supports .double with
  | false => exact .inr ⟨_, .unsupported hsupports⟩
  | true =>
    cases h : v.toDouble with
    | ok d => exact .inl ⟨d, rfl⟩
    | error err =>
      refine .inr ⟨err, .fails hsupports ((Value.convert_eq_error_iff hsupports).mp ?_)⟩
      exact map_eq_error_iff.mpr h

namespace Arguments

variable {args : List Value} {v : Value} {i : Nat} {err : Error}

theorem double_of_getElem? (h : args[i]? = some v) : double args i =
    if v.supports .double then v.toDouble
    else .error (.typeMismatch (.argumentNotConvertible .double)) := by
  rw [double, convertible, at?_of_getElem? h]
  dsimp only
  cases v.supports .double <;> rfl

theorem double_of_fits {d : Double} (h : args[i]? = some v) (hd : v.toDouble = .ok d) :
    double args i = .ok d := by
  rw [double_of_getElem? h, if_pos (Value.supports_of_toDouble hd), hd]

theorem double_of_unfit (h : args[i]? = some v) (hv : v.Unfit err) :
    double args i = .error err := by
  rw [double_of_getElem? h]
  cases hv with
  | unsupported hno => rw [if_neg (by simp [hno])]
  | fails hsupports hfails =>
    rw [if_pos hsupports]
    exact map_eq_error_iff.mp (Value.convert_of_fails hfails)

theorem getElem?_length (before after : List Value) (v : Value) :
    (before ++ v :: after)[before.length]? = some v := by
  simp

/-- Arguments that all convert, after others. -/
theorem doublesFrom_of_fits {rest : List Value} {ds : List Double}
    (h : rest.Forall₂ (fun v d => v.toDouble = .ok d) ds) (before : List Value) :
    doublesFrom (before ++ rest) before.length rest.length = .ok ds := by
  induction h generalizing before with
  | nil => rfl
  | @cons v d rest ds hd _ ih =>
    have hrest := ih (before ++ [v])
    rw [List.append_assoc, List.singleton_append, List.length_append, List.length_singleton] at hrest
    rw [List.length_cons, doublesFrom, double_of_fits (getElem?_length before rest v) hd]
    simp only [hrest]

/-- The leftmost argument that does not convert decides the error. -/
theorem doublesFrom_of_unfit {fit after : List Value} (hfit : ∀ u ∈ fit, ∃ d, u.toDouble = .ok d)
    (hv : v.Unfit err) (before : List Value) :
    doublesFrom (before ++ (fit ++ v :: after)) before.length (fit ++ v :: after).length =
      .error err := by
  induction fit generalizing before with
  | nil =>
    rw [List.nil_append, List.length_cons, doublesFrom,
      double_of_unfit (getElem?_length before after v) hv]
  | cons u fit ih =>
    obtain ⟨⟨d, hd⟩, hrest⟩ := List.forall_mem_cons.mp hfit
    have hlater := ih hrest (before ++ [u])
    rw [List.append_assoc, List.singleton_append, List.length_append, List.length_singleton] at hlater
    rw [List.cons_append, List.length_cons, doublesFrom, double_of_fits (getElem?_length ..) hd]
    simp only [hlater]

theorem exists_leftmost (h : ∃ v ∈ args, ∀ d, v.toDouble ≠ .ok d) :
    ∃ fit v after err, args = fit ++ v :: after ∧ (∀ u ∈ fit, ∃ d, u.toDouble = .ok d) ∧
      v.Unfit err := by
  induction args with
  | nil => simp at h
  | cons u rest ih =>
    rcases u.fits_or_unfit with hu | ⟨err, hu⟩
    · have hrest : ∃ v ∈ rest, ∀ d, v.toDouble ≠ .ok d := by
        obtain ⟨v, hv, hno⟩ := h
        rcases List.mem_cons.mp hv with rfl | hv
        · obtain ⟨d, hd⟩ := hu
          exact absurd hd (hno d)
        · exact ⟨v, hv, hno⟩
      obtain ⟨fit, v, after, err, rfl, hfit, hv⟩ := ih hrest
      exact ⟨u :: fit, v, after, err, rfl, List.forall_mem_cons.mpr ⟨hu, hfit⟩, hv⟩
    · exact ⟨[], u, rest, err, rfl, by simp, hu⟩

end Arguments

/-! ## Calls -/

namespace Extreme

variable {x : Extreme} {args : List Value} {ds : List Double} {err : Error}

theorem call_eq (x : Extreme) (args : List Value) : Library.call x.name args =
    match Library.apply (.variadic fun d rest => .ok (x.fold d rest)) args with
    | .error e => .error e
    | .ok d => .ok (.double d) := by
  cases x <;> rfl

theorem call_of_few (h : args.length < 2) :
    Library.call x.name args = .error (.invalidArity (.atLeast 2)) := by
  have hadmits : ¬ (Arity.atLeast 2).admits args.length = true := by
    simp only [Arity.admits, decide_eq_true_eq]
    omega
  rw [call_eq, Library.apply, Library.arity, Arguments.ensure, if_neg hadmits]

theorem call_of_error (h : 2 ≤ args.length) (herr : Arguments.doubles args = .error err) :
    Library.call x.name args = .error err := by
  have hadmits : (Arity.atLeast 2).admits args.length = true := decide_eq_true h
  rw [call_eq, Library.apply, Library.arity, Arguments.ensure, if_pos hadmits, herr]

theorem call_of_doubles {d : Double} {rest : List Double} (h : 2 ≤ args.length)
    (hds : Arguments.doubles args = .ok (d :: rest)) :
    Library.call x.name args = .ok (.double (x.fold d rest)) := by
  have hadmits : (Arity.atLeast 2).admits args.length = true := decide_eq_true h
  rw [call_eq, Library.apply, Library.arity, Arguments.ensure, if_pos hadmits, hds]

theorem exists_call (h : 2 ≤ args.length)
    (hds : args.Forall₂ (fun v d => v.toDouble = .ok d) ds) :
    ∃ m, Library.call x.name args = .ok (.double m) ∧ x.Chosen ds m := by
  have hdoubles : Arguments.doubles args = .ok ds := Arguments.doublesFrom_of_fits hds []
  cases ds with
  | nil =>
    cases hds
    simp at h
  | cons d rest => exact ⟨x.fold d rest, call_of_doubles h hdoubles, chosen_fold x d rest⟩

end Extreme

/-- With fewer than two arguments `max` and `min` complain of their number. Otherwise the leftmost
argument that gives no double decides the error. If all give one, NaN is the result if it comes
first, and else the first of the numbers that no other one goes beyond; in another order of the
arguments only the sign of a zero can change, unless NaN comes to or from the first place. -/
theorem extreme_call (x : Extreme) (args : List Value) :
    (args.length < 2 → Library.call x.name args = .error (.invalidArity (.atLeast 2))) ∧
    (2 ≤ args.length → (∃ v ∈ args, ∀ d, v.toDouble ≠ .ok d) →
      ∃ before v after err, args = before ++ v :: after ∧
        (∀ u ∈ before, ∃ d, u.toDouble = .ok d) ∧ v.Unfit err ∧
        Library.call x.name args = .error err) ∧
    (2 ≤ args.length → ∀ ds, args.Forall₂ (fun v d => v.toDouble = .ok d) ds →
      ∃ m, Library.call x.name args = .ok (.double m) ∧ x.Chosen ds m ∧
        (∀ p q, m.extended? = some p → ∀ d ∈ ds, d.extended? = some q → ¬ x.Beyond q p) ∧
        ∀ args' ds', args.Perm args' → args'.Forall₂ (fun v d => v.toDouble = .ok d) ds' →
          (ds.head? = some .nan ↔ ds'.head? = some .nan) →
          ∃ m', Library.call x.name args' = .ok (.double m') ∧
            (m = m' ∨ m.isZero = true ∧ m'.isZero = true)) := by
  refine ⟨Extreme.call_of_few, fun h hunfit => ?_, fun h ds hds => ?_⟩
  · obtain ⟨before, v, after, err, rfl, hbefore, hv⟩ := Arguments.exists_leftmost hunfit
    have hdoubles : Arguments.doubles (before ++ v :: after) = .error err :=
      Arguments.doublesFrom_of_unfit hbefore hv []
    exact ⟨before, v, after, err, rfl, hbefore, hv, Extreme.call_of_error h hdoubles⟩
  · obtain ⟨m, hm, hchosen⟩ := Extreme.exists_call (x := x) h hds
    refine ⟨m, hm, hchosen, fun p q hp d hd hq => hchosen.not_beyond hp hd hq,
      fun args' ds' hperm hds' hhead => ?_⟩
    obtain ⟨m', hm', hchosen'⟩ := Extreme.exists_call (x := x) (hperm.length_eq ▸ h) hds'
    have hunique : Relator.RightUnique fun (v : Value) d => v.toDouble = .ok d :=
      fun v d d' hd hd' => Except.ok.inj (hd.symm.trans hd')
    have hdoubles : ds.Perm ds' := List.rel_perm_imp hunique hds hds' hperm
    exact ⟨m', hm', hchosen.of_perm hchosen' hdoubles hhead⟩

end Formula
