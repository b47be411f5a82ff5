import Mathlib.Data.List.Basic
import Formula.Expr.Parse

/-!
# Formula.Proofs.Grammar.Basic

The grammar of expressions, stated apart from the functions that read it. `Derives tier tokens e`
says that the whole list is a sentence of a tier and that `e` is the tree of its derivation. Tiers
1 to 8 are the binary ones, each a chain of operands of the next tier that leans to the left; tier
9 holds the primaries. Parentheses leave no node in the tree.

`Stops` says what may follow a sentence that is read as far as it goes.
-/

namespace Formula
namespace Grammar

/-- The operators of the binary tiers, from the loosest to the tightest. -/
def operators : Nat → List Operator
  | 1 => [.or]
  | 2 => [.and]
  | 3 => [.equal, .notEqual]
  | 4 => [.greater, .greaterOrEqual, .less, .lessOrEqual]
  | 5 => [.bitwiseOr]
  | 6 => [.bitwiseAnd]
  | 7 => [.plus, .minus]
  | 8 => [.multiply, .divide, .modulo]
  | _ => []

/-- The tier of primaries. -/
def primary : Nat := 9

/-- Lists of tokens joined by commas. -/
inductive CommaSeparated : List (List Token) → List Token → Prop where
  | none : CommaSeparated [] []
  | one (ts : List Token) : CommaSeparated [ts] ts
  | more {comma : Token} {first second joined : List Token} {others : List (List Token)} :
      comma.lexeme = .comma → CommaSeparated (second :: others) joined →
      CommaSeparated (first :: second :: others) (first ++ comma :: joined)

theorem CommaSeparated.mem {pieces : List (List Token)} {ts piece : List Token} {t : Token}
    (h : CommaSeparated pieces ts) (hpiece : piece ∈ pieces) (ht : t ∈ piece) : t ∈ ts := by
  induction h with
  | none => simp at hpiece
  | one ts =>
    rw [List.mem_singleton] at hpiece
    rwa [hpiece] at ht
  | more _ _ ih =>
    rcases List.mem_cons.mp hpiece with rfl | hpiece
    · exact List.mem_append_left _ ht
    · exact List.mem_append_right _ (List.mem_cons_of_mem _ (ih hpiece))

inductive Derives : Nat → List Token → Expr → Prop where
  | number {t : Token} {x : Double} :
      t.lexeme = .number x → Derives primary [t] (.literal (.number x))
  | string {t : Token} {s : String} :
      t.lexeme = .string s → Derives primary [t] (.literal (.string s))
  | boolean {t : Token} {b : Bool} :
      t.lexeme = .boolean b → Derives primary [t] (.literal (.boolean b))
  | var {t : Token} {name : String} :
      t.lexeme = .var name → Derives primary [t] (.var name)
  | index {t opening closing : Token} {name : String} {ts : List Token} {i : Expr} :
      t.lexeme = .var name → opening.lexeme = .lbracket → Derives 1 ts i →
      closing.lexeme = .rbracket →
      Derives primary (t :: opening :: (ts ++ [closing])) (.index name i)
  | call {t opening closing : Token} {name : String} {args : List (List Token × Expr)}
      {ts : List Token} :
      t.lexeme = .identifier name → opening.lexeme = .lparen →
      (∀ arg ∈ args, Derives 1 arg.1 arg.2) → CommaSeparated (args.map Prod.fst) ts →
      closing.lexeme = .rparen →
      Derives primary (t :: opening :: (ts ++ [closing])) (.call name (args.map Prod.snd))
  | group {opening closing : Token} {ts : List Token} {e : Expr} :
      opening.lexeme = .lparen → Derives 1 ts e → closing.lexeme = .rparen →
      Derives primary (opening :: (ts ++ [closing])) e
  | negation {t : Token} {ts : List Token} {e : Expr} :
      t.lexeme = .operator .not → Derives primary ts e →
      Derives primary (t :: ts) (.unary .not e)
  | operand {tier : Nat} {ts : List Token} {e : Expr} :
      tier < primary → Derives (tier + 1) ts e → Derives tier ts e
  | binary {tier : Nat} {t : Token} {op : Operator} {ls rs : List Token} {l r : Expr} :
      t.lexeme = .operator op → op ∈ operators tier → Derives tier ls l →
      Derives (tier + 1) rs r → Derives tier (ls ++ t :: rs) (.binary l op r)

theorem Derives.ne_nil {tier : Nat} {ts : List Token} {e : Expr} (h : Derives tier ts e) :
    ts ≠ [] := by
  induction h with
  | operand _ _ ih => exact ih
  | _ => simp

theorem Derives.length_pos {tier : Nat} {ts : List Token} {e : Expr} (h : Derives tier ts e) :
    0 < ts.length :=
  List.length_pos_iff.mpr h.ne_nil

theorem Derives.call_nil {t opening closing : Token} {name : String}
    (ht : t.lexeme = .identifier name) (ho : opening.lexeme = .lparen)
    (hc : closing.lexeme = .rparen) : Derives primary [t, opening, closing] (.call name []) :=
  @Derives.call t opening closing name [] [] ht ho (by simp) .none hc

/-- A sentence of a tier is a sentence of every looser one. -/
theorem Derives.of_le {j k : Nat} {ts : List Token} {e : Expr} (h : Derives k ts e)
    (hk : k ≤ primary) : j ≤ k → Derives j ts e := by
  intro hjk
  induction hjk with
  | refl => exact h
  | @step k _ ih => exact ih (.operand hk h) (Nat.le_of_succ_le hk)

theorem Derives.loosest {ts : List Token} {e : Expr} (h : Derives primary ts e) : Derives 1 ts e :=
  h.of_le (Nat.le_refl _) (by decide)

/-- The table of the binary tiers agrees with the binding strength of each operator. -/
theorem mem_operators_iff {tier : Nat} {op : Operator} (ht : tier < primary) :
    op ∈ operators tier ↔ op.precedence.rank = tier := by
  have hop : op ∈ Operator.all := by cases op <;> decide
  have hall : ∀ k : Fin 9, ∀ o ∈ Operator.all, o ∈ operators k ↔ o.precedence.rank = k := by
    decide
  exact hall ⟨tier, ht⟩ op hop

theorem lt_primary_of_mem {tier : Nat} {op : Operator} (h : op ∈ operators tier) :
    tier < primary := by
  unfold operators at h
  split at h <;> first | (unfold primary; omega) | simp at h

theorem ne_not_of_mem {tier : Nat} {op : Operator} (h : op ∈ operators tier) : op ≠ .not := by
  rintro rfl
  unfold operators at h
  split at h <;> simp at h

theorem tier_pos_of_mem {tier : Nat} {op : Operator} (h : op ∈ operators tier) : 1 ≤ tier := by
  cases tier with
  | zero => simp [operators] at h
  | succ tier => omega

/-! ## What may follow -/

/-- What follows a sentence `p` of a tier does not go on with it: neither with an operator of that
tier or a tighter one, nor with a bracket after a variable. -/
def Stops (tier : Nat) (p rest : List Token) : Prop :=
  ∀ t, rest.head? = some t →
    (∀ op k, t.lexeme = .operator op → tier ≤ k → op ∉ operators k) ∧
    (t.lexeme = .lbracket → ∀ v name, p.getLast? = some v → v.lexeme ≠ .var name)

theorem stops_nil (tier : Nat) (p : List Token) : Stops tier p [] := by
  intro t ht
  simp at ht

theorem Stops.mono {j k : Nat} {p rest : List Token} (h : Stops j p rest) (hjk : j ≤ k) :
    Stops k p rest := by
  intro t ht
  obtain ⟨hop, hbracket⟩ := h t ht
  exact ⟨fun op i hl hi => hop op i hl (Nat.le_trans hjk hi), hbracket⟩

/-- Only the last token of a sentence matters for what may follow. -/
theorem Stops.congr {tier : Nat} {p q rest : List Token} (h : Stops tier p rest)
    (hpq : p.getLast? = q.getLast?) : Stops tier q rest := by
  intro t ht
  obtain ⟨hop, hbracket⟩ := h t ht
  exact ⟨hop, fun hl v name hv => hbracket hl v name (hpq ▸ hv)⟩

/-- Nothing goes on with a primary that ends in another token than a variable. -/
theorem stops_primary {p rest : List Token}
    (h : ∀ v name, p.getLast? = some v → v.lexeme ≠ .var name) : Stops primary p rest := by
  intro t _
  refine ⟨fun op k _ hk hmem => ?_, fun _ => h⟩
  exact absurd (lt_primary_of_mem hmem) (Nat.not_lt.mpr hk)

/-- What follows does not go on with a tier if it stops all tighter ones and does not start with
an operator of this tier. -/
theorem Stops.of_succ {tier : Nat} {p rest : List Token} (h : Stops (tier + 1) p rest)
    (hop : ∀ t op, rest.head? = some t → t.lexeme = .operator op → op ∉ operators tier) :
    Stops tier p rest := by
  intro t ht
  obtain ⟨htighter, hbracket⟩ := h t ht
  refine ⟨fun op k hl hk => ?_, hbracket⟩
  rcases Nat.eq_or_lt_of_le hk with rfl | hlt
  · exact hop t op ht hl
  · exact htighter op k hl hlt

/-- A sentence of a tier with its tree that what follows does not go on with. -/
def Maximal (tier : Nat) (p : List Token) (e : Expr) (rest : List Token) : Prop :=
  Derives tier p e ∧ Stops tier p rest

end Grammar
end Formula
