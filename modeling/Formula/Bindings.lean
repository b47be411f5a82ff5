/-!
# Formula.Bindings

Names bound to things. Binding a name again takes the place of what it was bound to.
-/

namespace Formula

abbrev Bindings (α : Type) := List (String × α)

namespace Bindings

def get? {α : Type} (table : Bindings α) (name : String) : Option α :=
  table.lookup name

def unbind {α : Type} (table : Bindings α) (name : String) : Bindings α :=
  table.filter fun entry => entry.1 ≠ name

def bind {α : Type} (table : Bindings α) (name : String) (a : α) : Bindings α :=
  (name, a) :: table.unbind name

theorem get?_nil {α : Type} (name : String) : get? ([] : Bindings α) name = none := rfl

theorem get?_cons {α : Type} (entry : String × α) (rest : Bindings α) (name : String) :
    get? (entry :: rest) name = if name = entry.1 then some entry.2 else get? rest name := by
  obtain ⟨key, a⟩ := entry
  unfold get?
  by_cases h : name = key
  · subst h
    rw [List.lookup_cons_self, if_pos rfl]
  · have hb : (name == key) = false := beq_eq_false_iff_ne.mpr h
    rw [List.lookup_cons, hb, if_neg h]

theorem get?_unbind {α : Type} (table : Bindings α) (name other : String) :
    (table.unbind name).get? other = if other = name then none else table.get? other := by
  induction table with
  | nil => simp [unbind, get?]
  | cons entry rest ih =>
    unfold unbind at ih ⊢
    by_cases hk : entry.1 = name
    · rw [List.filter_cons_of_neg (by simp [hk]), ih, get?_cons, hk]
      by_cases ho : other = name <;> simp [ho]
    · rw [List.filter_cons_of_pos (by simp [hk]), get?_cons, ih, get?_cons]
      by_cases ho : other = name
      · simp [ho, Ne.symm hk]
      · simp [ho]

theorem get?_bind {α : Type} (table : Bindings α) (name other : String) (a : α) :
    (table.bind name a).get? other = if other = name then some a else table.get? other := by
  rw [bind, get?_cons, get?_unbind]
  by_cases h : other = name <;> simp [h]

end Bindings
end Formula
