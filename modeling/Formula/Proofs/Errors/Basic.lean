import Formula.Resolver
import Formula.Value.Convert

/-!
# Formula.Proofs.Errors.Basic

Which errors a result may be. `Yields P Q` says of a result that it is a value with `Q` or an error
with `P`. A value is `Tame` if the conversions of the host objects in it fail only with the errors
that hosts may raise, and then so do its own, beside refusals of the engine (`Value.Tame.toDouble`
and the like). Of the errors of a sequence, for its length or an item, nothing is said.
-/

namespace Formula

/-- A value that `Q` holds of, or an error that `P` holds of. -/
def Yields {α : Type} (P : Error → Prop) (Q : α → Prop) : Except Error α → Prop
  | .ok a => Q a
  | .error e => P e

section Yields

variable {α β : Type} {P P' : Error → Prop} {Q : α → Prop} {x : Except Error α}

theorem Yields.mono (h : Yields P Q x) (hP : ∀ e, P e → P' e) : Yields P' Q x := by
  cases x with
  | ok a => exact h
  | error e => exact hP e h

theorem Yields.or (h : Yields P Q x) : Yields (fun e => P e ∨ P' e) Q x :=
  h.mono fun _ => .inl

theorem Yields.error {e : Error} (h : Yields P Q x) (he : x = .error e) : P e := by
  rw [he] at h
  exact h

theorem Yields.value {a : α} (h : Yields P Q x) (ha : x = .ok a) : Q a := by
  rw [ha] at h
  exact h

/-- Tasks in a row yield what the last of them yields. -/
theorem yields_andThen {R : β → Prop} {first : Task α} {next : α → Task β} {past : List Query}
    (hfirst : Yields P Q (first past).result)
    (hnext : ∀ queries a, first past = ⟨queries, .ok a⟩ → Q a →
      Yields P R (next a (past ++ queries)).result) :
    Yields P R (first.andThen next past).result := by
  rw [Task.andThen]
  rcases h : first past with ⟨queries, e | a⟩
  · rw [h] at hfirst
    exact hfirst
  · rw [h] at hfirst
    exact hnext queries a h hfirst

end Yields

/-- The refusals of what no source text says. -/
inductive Error.Internal : Error → Prop where
  | unary (op : Operator) : Internal (.invalidOperation (.unsupportedUnary op))
  | binary (op : Operator) : Internal (.invalidOperation (.unsupportedBinary op))
  | expression (type : String) : Internal (.invalidOperation (.notAnExpression type))

/-- An error of one of the kinds that the engine makes, for a cause that a source text can give. -/
def Error.Proper (e : Error) : Prop :=
  (∃ kind, e.kind? = some kind ∧ kind ≠ .expression) ∧ ¬ e.Internal

/-- What the surroundings raise, or a proper error. -/
def Ordinary (raised : Error → Prop) (e : Error) : Prop :=
  raised e ∨ e.Proper

section Proper

variable {raised : Error → Prop}

theorem proper_typeMismatch (cause : Mismatch) : (Error.typeMismatch cause).Proper :=
  ⟨⟨.typeMismatch, rfl, by decide⟩, nofun⟩

theorem ordinary_mismatch (cause : Mismatch) : Ordinary raised (.typeMismatch cause) :=
  .inr (proper_typeMismatch cause)

end Proper

/-! ## Values -/

/-- The conversions that a host object offers fail only with errors that hosts raise. -/
structure Host.Tame (raised : Error → Prop) (object : Host) : Prop where
  double : ∀ e, object.double = some (.error e) → raised e
  int : ∀ e, object.int = some (.error e) → raised e
  string : ∀ e, object.string = some (.error e) → raised e
  bool : ∀ e, object.bool = some (.error e) → raised e

/-- All host objects in a value are tame. -/
inductive Value.Tame (raised : Error → Prop) : Value → Prop where
  | null : Tame raised .null
  | bool (b : Bool) : Tame raised (.bool b)
  | int (n : Int) : Tame raised (.int n)
  | double (x : Double) : Tame raised (.double x)
  | string (s : String) : Tame raised (.string s)
  | bytes (data : List UInt8) : Tame raised (.bytes data)
  | list {items : List Value} : (∀ item ∈ items, Tame raised item) → Tame raised (.list items)
  | tuple {items : List Value} : (∀ item ∈ items, Tame raised item) → Tame raised (.tuple items)
  | record {fields : List (String × Value)} :
      (∀ field ∈ fields, Tame raised field.2) → Tame raised (.record fields)
  | host {object : Host} : object.Tame raised →
      (∀ items n item, object.sequence = some items → items.item n = .ok item →
        Tame raised item) →
      Tame raised (.host object)

theorem mem_of_itemAt {items : List Value} {index : Int} {item : Value}
    (h : itemAt items index = .ok item) : item ∈ items := by
  rw [itemAt] at h
  split at h
  · cases h
  · split at h
    · cases h
      exact List.mem_of_getElem? ‹_›
    · cases h

namespace Value

variable {raised : Error → Prop} {v : Value}

/-- The items of a tame sequence are tame. -/
theorem Tame.item {items : Sequence Value} {n : Nat} {item : Value} (h : v.Tame raised)
    (hv : v.sequence? = some items) (hitem : items.item n = .ok item) : item.Tame raised := by
  cases h with
  | list hitems | tuple hitems =>
    cases hv
    rw [Sequence.item_ofList] at hitem
    exact hitems item (mem_of_itemAt hitem)
  | host _ hitems => exact hitems items n item hv hitem
  | _ => cases hv

/-! ## Conversions -/

/-- A conversion that a host object offers. -/
theorem offered_yields {α : Type} {offered : Option (Except Error α)} {result : Except Error α}
    (h : ∀ e, offered = some (.error e) → raised e) (hoffered : offered = some result) :
    Yields (Ordinary raised) (fun _ => True) result := by
  cases result with
  | ok a => trivial
  | error e => exact .inl (h e hoffered)

theorem doubleOfInt_yields (n : Int) :
    Yields (Ordinary raised) (fun _ => True) (doubleOfInt n) := by
  rw [doubleOfInt, Double.fromInt]
  cases Double.ofInt n with
  | infinite s => exact ordinary_mismatch _
  | nan | finite s n h => trivial

theorem Tame.toDouble (h : v.Tame raised) :
    Yields (Ordinary raised) (fun _ => True) v.toDouble := by
  cases h with
  | int n => exact doubleOfInt_yields n
  | double x => trivial
  | @host object hobject _ =>
    rw [Value.toDouble]
    cases hd : object.double with
    | none => exact ordinary_mismatch _
    | some result =>
      cases result with
      | error e => exact .inl (hobject.double e hd)
      | ok number =>
        cases number with
        | double x => trivial
        | int n => exact doubleOfInt_yields n
        | bool b => trivial
  | _ => exact ordinary_mismatch _

/-- An integral double has an integer part. -/
theorem truncate_of_isIntegral {x : Double} (h : x.isIntegral = true) : ∃ n, x.truncate = .ok n := by
  cases x with
  | nan | infinite s => simp [Double.isIntegral] at h
  | finite s n holds => exact ⟨_, rfl⟩

theorem Tame.toInt (h : v.Tame raised) : Yields (Ordinary raised) (fun _ => True) v.toInt := by
  cases h with
  | int n => trivial
  | double x =>
    rw [Value.toInt]
    split
    · obtain ⟨n, hn⟩ := truncate_of_isIntegral ‹_›
      rw [hn]
      trivial
    · exact ordinary_mismatch _
  | @host object hobject _ =>
    rw [Value.toInt]
    cases hint : object.int with
    | none => exact ordinary_mismatch _
    | some result => exact offered_yields hobject.int hint
  | _ => exact ordinary_mismatch _

theorem Tame.toText (h : v.Tame raised) : Yields (Ordinary raised) (fun _ => True) v.toText := by
  cases h with
  | string s | int n | double x => trivial
  | @host object hobject _ =>
    rw [Value.toText]
    cases hstring : object.string with
    | none => exact ordinary_mismatch _
    | some result => exact offered_yields hobject.string hstring
  | _ => exact ordinary_mismatch _

theorem Tame.toBool (h : v.Tame raised) : Yields (Ordinary raised) (fun _ => True) v.toBool := by
  cases h with
  | bool b => trivial
  | @host object hobject _ =>
    rw [Value.toBool]
    cases hbool : object.bool with
    | none => exact ordinary_mismatch _
    | some result => exact offered_yields hobject.bool hbool
  | _ => exact ordinary_mismatch _

end Value
end Formula
