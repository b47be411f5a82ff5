import Formula.Proofs.Grammar.Viable

/-!
# Formula.Proofs.Grammar.Progress

The rules of the grammar at a cursor in a list of tokens. With ten of fuel for each token ahead and
for the end, every rule comes to an end, and always to the same one (`Production.run_stable`). It
takes tokens from the cursor on, at least one if it succeeds, and these derive what it answers with
(`Production.run_ends`). What stands before the cursor makes no difference (`rule_progress`).
-/

namespace Formula
namespace Parser

open Grammar

variable {fuel f g : Nat} {tokens rest : List Token} {t : Token}

/-- A call after the name of the function. -/
def parseFunctionCall (fuel : Nat) (function : String) (tokens : List Token) : Step Expr :=
  match expect .lparen (.call function []) tokens with
  | .ok _ inside => parseCall fuel function inside
  | stopped => stopped

theorem parseFunctionCall_cons (fuel : Nat) (function : String) (t : Token) (rest : List Token) :
    parseFunctionCall fuel function (t :: rest) =
      if t.kind = .lparen then parseCall fuel function rest
      else .fail (.at (.expected .lparen t.text) t.position) rest := by
  rw [parseFunctionCall, expect]
  by_cases h : t.kind = .lparen
  · rw [if_pos h, if_pos h]
  · rw [if_neg h, if_neg h]

/-- An identifier is the name in a call if a parenthesis follows. -/
theorem parsePrimary_identifier {name : String} (h : t.lexeme = .identifier name) :
    parsePrimary (fuel + 1) (t :: rest) =
      if Begins .lparen rest then parseFunctionCall fuel name rest
      else .fail (.at (.unexpectedIdentifier name) t.position) rest := by
  obtain ⟨l, position, text⟩ := t
  cases h
  cases rest with
  | nil =>
    rw [if_neg (by simp [Begins])]
    rfl
  | cons opening inside =>
    obtain ⟨l, position, text⟩ := opening
    cases l with
    | lparen =>
      rw [if_pos ⟨_, _, rfl, rfl⟩]
      rfl
    | _ =>
      rw [if_neg (by simp [Begins])]
      rfl

/-- The rules of the grammar: the binary tiers from the loosest on, the primaries, and the calls
after the name of the function. -/
inductive Production where
  | binary (tier : Fin 8)
  | primary
  | call (function : String)

/-- A rule that fails has taken some of the tokens, and leaves the others. -/
theorem append_of_fail {rule : Rule} {fault : ParseFault} (hproper : rule.Proper)
    (h : rule.run fuel tokens = .fail fault rest) : ∃ p, tokens = p ++ rest := by
  cases run_blames fuel rule tokens fault rest hproper h with
  | ended _ _ => exact ⟨tokens, by simp⟩
  | @name p _ t _ _ _ _ _ => exact ⟨p ++ [t], by simp⟩
  | @token p _ t _ _ _ _ => exact ⟨p ++ [t], by simp⟩

namespace Production

def run (fuel : Nat) : Production → List Token → Step Expr
  | binary k => parseTier fuel (k.val + 1)
  | primary => parsePrimary fuel
  | call function => parseFunctionCall fuel function

/-- The tree is derived from the tokens by the rule, for a call from the name and the tokens. -/
def Derives : Production → List Token → Expr → Prop
  | binary k, p, e => Grammar.Derives (k.val + 1) p e
  | primary, p, e => Grammar.Derives Grammar.primary p e
  | call function, p, e =>
    ∀ t, t.lexeme = .identifier function → Grammar.Derives Grammar.primary (t :: p) e

/-- A rule comes to an end: it takes tokens that derive its answer, or takes some and fails. -/
def Ends (rule : Production) (tokens : List Token) : Step Expr → Prop
  | .ok e rest => ∃ p, p ≠ [] ∧ tokens = p ++ rest ∧ rule.Derives p e
  | .fail _ rest => ∃ p, tokens = p ++ rest
  | .exhausted => False

theorem proper_binary (k : Fin 8) : (Rule.tier (k.val + 1)).Proper := by
  show k.val + 1 ≤ 9
  omega

theorem run_stable (rule : Production) (hf : 10 * (tokens.length + 1) ≤ f)
    (hg : 10 * (tokens.length + 1) ≤ g) : rule.run f tokens = rule.run g tokens := by
  cases rule with
  | binary k =>
    exact (run_settled f g (.tier (k.val + 1)) tokens (proper_binary k)
      (by simp only [Rule.need]; omega)).1
  | primary => exact (run_settled f g .primary tokens trivial (by simp only [Rule.need]; omega)).1
  | call function =>
    cases tokens with
    | nil => rfl
    | cons t inside =>
      rw [List.length_cons] at hf hg
      have hcall : parseCall f function inside = parseCall g function inside :=
        (run_settled f g (.call function) inside trivial (by simp only [Rule.need]; omega)).1
      rw [run, parseFunctionCall_cons, hcall]
      exact (parseFunctionCall_cons g function t inside).symm

/-- A rule of the grammar that takes some tokens itself and goes on with a rule of the parser. -/
theorem ends_of_rule {rule : Production} {r : Rule} {p : List Token} (hproper : r.Proper)
    (hneed : r.need tokens ≤ fuel)
    (hreads : ∀ q e rest, r.Reads q e rest → p ++ q ≠ [] ∧ rule.Derives (p ++ q) e) :
    rule.Ends (p ++ tokens) (r.run fuel tokens) := by
  cases h : r.run fuel tokens with
  | ok e rest =>
    obtain ⟨q, rfl, hq⟩ := run_reads fuel r tokens e rest hproper h
    obtain ⟨hne, hd⟩ := hreads q e rest hq
    exact ⟨p ++ q, hne, by rw [List.append_assoc], hd⟩
  | fail fault rest =>
    obtain ⟨q, rfl⟩ := append_of_fail hproper h
    exact ⟨p ++ q, by rw [List.append_assoc]⟩
  | exhausted => exact (run_settled fuel fuel r tokens hproper (by omega)).2 h

theorem run_ends (rule : Production) (h : 10 * (tokens.length + 1) ≤ fuel) :
    rule.Ends tokens (rule.run fuel tokens) := by
  cases rule with
  | binary k =>
    exact ends_of_rule (p := []) (proper_binary k) (by simp only [Rule.need]; omega)
      fun q e rest hq => ⟨hq.1.ne_nil, hq.1⟩
  | primary =>
    exact ends_of_rule (r := .primary) (p := []) trivial (by simp only [Rule.need]; omega)
      fun q e rest hq => ⟨hq.1.ne_nil, hq.1⟩
  | call function =>
    cases tokens with
    | nil => exact ⟨[], rfl⟩
    | cons opening inside =>
      rw [List.length_cons] at h
      rw [run, parseFunctionCall_cons]
      by_cases ho : opening.kind = .lparen
      · have hl : opening.lexeme = .lparen := lexeme_eq_of_kind ho (by simp)
        rw [if_pos ho]
        exact ends_of_rule (r := .call function) (p := [opening]) trivial
          (by simp only [Rule.need]; omega)
          fun q e rest hq => ⟨List.cons_ne_nil _ _, fun t ht => (hq t opening ht hl).1⟩
      · rw [if_neg ho]
        exact ⟨[opening], rfl⟩

end Production

/-! ## Cursors -/

/-- Where a rule ends: with an answer or a fault, and the cursor that it leaves. -/
inductive Landing where
  | ok (e : Expr) (cursor : Nat)
  | fail (fault : ParseFault) (cursor : Nat)

/-- The same further on in a list of tokens. -/
def Landing.shift (distance : Nat) : Landing → Landing
  | ok e cursor => ok e (distance + cursor)
  | fail fault cursor => fail fault (distance + cursor)

/-- A step ends at a place in the list of tokens: what it leaves unread is what stands from its
cursor on. -/
inductive Lands (tokens : List Token) : Step Expr → Landing → Prop where
  | ok {e : Expr} {cursor : Nat} : cursor ≤ tokens.length →
      Lands tokens (.ok e (tokens.drop cursor)) (.ok e cursor)
  | fail {fault : ParseFault} {cursor : Nat} : cursor ≤ tokens.length →
      Lands tokens (.fail fault (tokens.drop cursor)) (.fail fault cursor)

theorem drop_taken (before p rest : List Token) :
    (before ++ (p ++ rest)).drop (before.length + p.length) = rest := by
  rw [← List.append_assoc, ← List.length_append, List.drop_left]

theorem taken_between (before p rest : List Token) :
    ((before ++ (p ++ rest)).take (before.length + p.length)).drop before.length = p := by
  rw [← List.append_assoc, ← List.length_append, List.take_left, List.drop_left]

theorem taken_le_length (before p rest : List Token) :
    before.length + p.length ≤ (before ++ (p ++ rest)).length := by
  simp only [List.length_append]
  omega

/-- A rule of the grammar that starts at a cursor comes to one end, whatever stands before the
cursor and however much fuel it has beyond ten, the number of rules, for each token ahead and for
their end. It succeeds with the cursor further on but not beyond the end, and the tokens in between
derive its answer, or it fails with the cursor no further back. -/
theorem rule_progress (rule : Production) (ahead : List Token) :
    ∃ landing : Landing, ∀ before fuel, 10 * (ahead.length + 1) ≤ fuel →
      Lands (before ++ ahead) (rule.run fuel ((before ++ ahead).drop before.length))
        (landing.shift before.length) ∧
      match landing.shift before.length with
      | .ok e cursor => before.length < cursor ∧ cursor ≤ (before ++ ahead).length ∧
          rule.Derives (((before ++ ahead).take cursor).drop before.length) e
      | .fail _ cursor => before.length ≤ cursor ∧ cursor ≤ (before ++ ahead).length := by
  have hends := rule.run_ends (Nat.le_refl (10 * (ahead.length + 1)))
  have hstable (fuel : Nat) (hfuel : 10 * (ahead.length + 1) ≤ fuel) :=
    rule.run_stable hfuel (Nat.le_refl (10 * (ahead.length + 1)))
  cases hrun : rule.run (10 * (ahead.length + 1)) ahead with
  | ok e rest =>
    rw [hrun] at hends
    obtain ⟨p, hne, rfl, hd⟩ := hends
    refine ⟨.ok e p.length, fun before fuel hfuel => ?_⟩
    have hpos : 0 < p.length := List.length_pos_iff.mpr hne
    have hlen := taken_le_length before p rest
    have hlands := @Lands.ok _ e _ hlen
    rw [drop_taken] at hlands
    rw [List.drop_left, hstable fuel hfuel, hrun]
    refine ⟨hlands, by omega, hlen, ?_⟩
    rwa [taken_between]
  | fail fault rest =>
    rw [hrun] at hends
    obtain ⟨p, rfl⟩ := hends
    refine ⟨.fail fault p.length, fun before fuel hfuel => ?_⟩
    have hlen := taken_le_length before p rest
    have hlands := @Lands.fail _ fault _ hlen
    rw [drop_taken] at hlands
    rw [List.drop_left, hstable fuel hfuel, hrun]
    exact ⟨hlands, Nat.le_add_right _ _, hlen⟩
  | exhausted =>
    rw [hrun] at hends
    exact hends.elim

end Parser
end Formula
