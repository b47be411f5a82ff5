import Formula.Proofs.Grammar.Basic

/-!
# Formula.Proofs.Grammar.Reading

What the rules of the parser read. The six rules are taken as one type, so that a fact about all of
them is one statement, by induction on the fuel that they run on.

`run_reads`: whatever a rule takes off the tokens is a derivation of the tree that it answers with,
and what it leaves unread does not go on with it.
-/

namespace Formula
namespace Parser

open Grammar

/-- The rules of the parser, with what they are given beside the tokens. -/
inductive Rule where
  | tier (tier : Nat)
  | chain (tier : Nat) (left : Expr)
  | primary
  | index (name : String)
  | call (function : String)
  | arguments (function : String) (args : List Expr)

namespace Rule

def run (fuel : Nat) : Rule → List Token → Step Expr
  | tier k => parseTier fuel k
  | chain k left => parseChain fuel k left
  | primary => parsePrimary fuel
  | index name => parseIndex fuel name
  | call function => parseCall fuel function
  | arguments function args => parseArguments fuel function args

/-- Whether the rule is used at a tier that there is. -/
def Proper : Rule → Prop
  | tier k => k ≤ Grammar.primary
  | chain k _ => k < Grammar.primary
  | _ => True

/-- The tokens `p` are what the rule takes to answer with `e` when `rest` follows. What a rule
takes goes on from what was taken before it was called. -/
def Reads : Rule → List Token → Expr → List Token → Prop
  | tier k, p, e, rest => Maximal k p e rest
  | chain k left, p, e, rest =>
    ∀ before, Derives k before left → Stops (k + 1) before (p ++ rest) →
      Maximal k (before ++ p) e rest
  | primary, p, e, rest => Maximal Grammar.primary p e rest
  | index name, p, e, rest =>
    ∀ t, t.lexeme = .var name → Maximal Grammar.primary (t :: p) e rest
  | call function, p, e, rest =>
    ∀ t opening, t.lexeme = .identifier function → opening.lexeme = .lparen →
      Maximal Grammar.primary (t :: opening :: p) e rest
  | arguments function args, p, e, _ =>
    ∃ (more : List (List Token × Expr)) (ts : List Token) (closing : Token),
      p = ts ++ [closing] ∧ more ≠ [] ∧ (∀ arg ∈ more, Derives 1 arg.1 arg.2) ∧
      CommaSeparated (more.map Prod.fst) ts ∧ closing.lexeme = .rparen ∧
      e = .call function (args ++ more.map Prod.snd)

end Rule

theorem proper_one : (Rule.tier 1).Proper := by
  show 1 ≤ 9
  decide

theorem expect_eq_ok {kind : TokenKind} {value e : Expr} {tokens rest : List Token}
    (h : expect kind value tokens = .ok e rest) :
    ∃ t, tokens = t :: rest ∧ t.kind = kind ∧ e = value := by
  cases tokens with
  | nil => simp [expect] at h
  | cons t ts =>
    simp only [expect] at h
    split at h
    · rename_i hk
      cases h
      exact ⟨t, rfl, hk, rfl⟩
    · cases h

/-- A bracket is told by the kind of its token. -/
theorem lexeme_eq_of_kind {t : Token} {l : Lexeme} (h : t.kind = l.kind)
    (hl : l ∈ [.lparen, .rparen, .lbracket, .rbracket]) : t.lexeme = l := by
  obtain ⟨m, position, text⟩ := t
  have hkind : m.kind = l.kind := h
  simp only [List.mem_cons, List.not_mem_nil, or_false] at hl
  rcases hl with rfl | rfl | rfl | rfl <;> cases m <;> first | rfl | cases hkind

theorem operatorOf?_eq_some {k : Nat} (hk : k < Grammar.primary) {tokens rest : List Token}
    {op : Operator} (h : operatorOf? k tokens = some (op, rest)) :
    ∃ t, tokens = t :: rest ∧ t.lexeme = .operator op ∧ op ∈ operators k := by
  unfold operatorOf? at h
  split at h
  · rename_i o position text ts
    split at h
    · rename_i hr
      cases h
      exact ⟨⟨.operator op, position, text⟩, rfl, rfl, (mem_operators_iff hk).mpr hr⟩
    · cases h
  · cases h

theorem not_mem_of_operatorOf?_eq_none {k : Nat} (hk : k < Grammar.primary) {tokens : List Token}
    (h : operatorOf? k tokens = none) (t : Token) (op : Operator) (ht : tokens.head? = some t)
    (hl : t.lexeme = .operator op) : op ∉ operators k := by
  cases tokens with
  | nil => simp at ht
  | cons u ts =>
    obtain ⟨l, position, text⟩ := u
    cases ht
    cases hl
    intro hmem
    simp [operatorOf?, (mem_operators_iff hk).mp hmem] at h

section Rules

variable {fuel : Nat} {tokens rest : List Token} {e : Expr}

/-- Every rule reads what it should on this fuel. -/
def Sound (fuel : Nat) : Prop :=
  ∀ (rule : Rule) (tokens : List Token) (e : Expr) (rest : List Token), rule.Proper →
    rule.run fuel tokens = .ok e rest → ∃ p, tokens = p ++ rest ∧ rule.Reads p e rest

theorem tier_reads (ih : Sound fuel) {k : Nat} (hk : k ≤ Grammar.primary)
    (h : parseTier (fuel + 1) k tokens = .ok e rest) :
    ∃ p, tokens = p ++ rest ∧ Maximal k p e rest := by
  simp only [parseTier] at h
  split at h
  · rename_i hlt
    cases hleft : parseTier fuel (k + 1) tokens with
    | ok left after =>
      rw [hleft] at h
      obtain ⟨before, rfl, hd, hs⟩ := ih (.tier (k + 1)) tokens left after hlt hleft
      obtain ⟨p, rfl, hp⟩ := ih (.chain k left) after e rest hlt h
      exact ⟨before ++ p, by rw [List.append_assoc], hp before (.operand hlt hd) hs⟩
    | fail fault after => simp [hleft] at h
    | exhausted => simp [hleft] at h
  · rename_i hge
    have hp : k = Grammar.primary := Nat.le_antisymm hk (Nat.not_lt.mp hge)
    subst hp
    exact ih .primary tokens e rest trivial h

theorem chain_reads (ih : Sound fuel) {k : Nat} {left : Expr} (hk : k < Grammar.primary)
    (h : parseChain (fuel + 1) k left tokens = .ok e rest) :
    ∃ p, tokens = p ++ rest ∧ (Rule.chain k left).Reads p e rest := by
  simp only [parseChain] at h
  split at h
  · rename_i hnone
    cases h
    refine ⟨[], rfl, fun before hd hs => ?_⟩
    rw [List.append_nil]
    exact ⟨hd, hs.of_succ (not_mem_of_operatorOf?_eq_none hk hnone)⟩
  · rename_i op after hsome
    obtain ⟨t, rfl, hl, hmem⟩ := operatorOf?_eq_some hk hsome
    cases hright : parseTier fuel (k + 1) after with
    | ok right later =>
      rw [hright] at h
      obtain ⟨rs, rfl, hd, hs⟩ := ih (.tier (k + 1)) after right later hk hright
      obtain ⟨p, rfl, hp⟩ := ih (.chain k (.binary left op right)) later e rest hk h
      refine ⟨t :: rs ++ p, by simp, fun before hbefore _ => ?_⟩
      have hlast : rs.getLast? = (before ++ t :: rs).getLast? := by
        rw [List.getLast?_append_of_ne_nil _ (List.cons_ne_nil t rs),
          List.getLast?_cons_of_ne_nil hd.ne_nil]
      rw [← List.append_assoc]
      exact hp (before ++ t :: rs) (.binary hl hmem hbefore hd) (hs.congr hlast)
    | fail fault later => simp [hright] at h
    | exhausted => simp [hright] at h

/-- Nothing goes on with a primary whose last token is not a variable. -/
theorem stops_closed (before ts : List Token) {closing : Token}
    (h : ∀ name, closing.lexeme ≠ .var name) :
    Stops Grammar.primary (before ++ (ts ++ [closing])) rest := by
  refine stops_primary fun v name hv => ?_
  rw [← List.append_assoc, List.getLast?_concat] at hv
  cases hv
  exact h name

theorem index_reads (ih : Sound fuel) {name : String}
    (h : parseIndex (fuel + 1) name tokens = .ok e rest) :
    ∃ p, tokens = p ++ rest ∧ (Rule.index name).Reads p e rest := by
  unfold parseIndex at h
  split at h
  · rename_i position text inside
    cases hindex : parseTier fuel 1 inside with
    | ok i after =>
      rw [hindex] at h
      obtain ⟨ts, rfl, hd, _⟩ := ih (.tier 1) inside i after proper_one hindex
      obtain ⟨closing, rfl, hk, rfl⟩ := expect_eq_ok h
      have hl : closing.lexeme = .rbracket := lexeme_eq_of_kind hk (by simp)
      refine ⟨⟨.lbracket, position, text⟩ :: (ts ++ [closing]), by simp, fun t ht => ⟨?_, ?_⟩⟩
      · exact .index ht rfl hd hl
      · exact stops_closed [t, ⟨.lbracket, position, text⟩] ts (by simp [hl])
    | fail fault after => simp [hindex] at h
    | exhausted => simp [hindex] at h
  · rename_i hno
    cases h
    refine ⟨[], rfl, fun t ht => ⟨.var ht, fun u hu => ⟨?_, fun hl => ?_⟩⟩⟩
    · exact fun op k _ hk hmem => absurd (lt_primary_of_mem hmem) (Nat.not_lt.mpr hk)
    · obtain ⟨l, position, text⟩ := u
      cases hl
      cases tokens with
      | nil => simp at hu
      | cons first others =>
        cases hu
        exact absurd rfl (hno position text others)

theorem call_reads (ih : Sound fuel) {function : String}
    (h : parseCall (fuel + 1) function tokens = .ok e rest) :
    ∃ p, tokens = p ++ rest ∧ (Rule.call function).Reads p e rest := by
  unfold parseCall at h
  split at h
  · rename_i position text after
    cases h
    refine ⟨[⟨.rparen, position, text⟩], rfl, fun t opening ht ho => ⟨?_, ?_⟩⟩
    · exact .call_nil ht ho rfl
    · exact stops_closed [t, opening] [] (by simp)
  · obtain ⟨p, rfl, more, ts, closing, rfl, _, hd, hsep, hl, rfl⟩ :=
      ih (.arguments function []) tokens e rest trivial h
    refine ⟨ts ++ [closing], rfl, fun t opening ht ho => ⟨?_, ?_⟩⟩
    · exact .call ht ho hd hsep hl
    · exact stops_closed [t, opening] ts (by simp [hl])

theorem arguments_reads (ih : Sound fuel) {function : String} {args : List Expr}
    (h : parseArguments (fuel + 1) function args tokens = .ok e rest) :
    ∃ p, tokens = p ++ rest ∧ (Rule.arguments function args).Reads p e rest := by
  simp only [parseArguments] at h
  cases harg : parseTier fuel 1 tokens with
  | fail fault after => simp [harg] at h
  | exhausted => simp [harg] at h
  | ok arg after =>
    rw [harg] at h
    obtain ⟨ts, rfl, hd, _⟩ := ih (.tier 1) tokens arg after proper_one harg
    cases after with
    | nil => simp at h
    | cons t later =>
      simp only at h
      split at h
      · rename_i hl
        cases h
        exact ⟨ts ++ [t], by simp, [(ts, arg)], ts, t, rfl, by simp, by simpa using hd,
          .one ts, hl, by simp⟩
      · rename_i hl
        obtain ⟨p, rfl, more, joined, closing, rfl, hne, hmore, hsep, hclose, rfl⟩ :=
          ih (.arguments function (args ++ [arg])) later e rest trivial h
        refine ⟨ts ++ t :: (joined ++ [closing]), by simp, (ts, arg) :: more, ts ++ t :: joined,
          closing, by simp, by simp, ?_, ?_, hclose, by simp⟩
        · simpa [hd] using hmore
        · cases more with
          | nil => exact absurd rfl hne
          | cons second others => exact .more hl hsep
      · cases h

theorem primary_reads (ih : Sound fuel) (h : parsePrimary (fuel + 1) tokens = .ok e rest) :
    ∃ p, tokens = p ++ rest ∧ Maximal Grammar.primary p e rest := by
  cases tokens with
  | nil => simp [parsePrimary] at h
  | cons t ts =>
    simp only [parsePrimary] at h
    split at h
    · rename_i x hl
      cases h
      exact ⟨[t], rfl, .number hl, stops_closed [] [] (by simp [hl])⟩
    · rename_i s hl
      cases h
      exact ⟨[t], rfl, .string hl, stops_closed [] [] (by simp [hl])⟩
    · rename_i b hl
      cases h
      exact ⟨[t], rfl, .boolean hl, stops_closed [] [] (by simp [hl])⟩
    · rename_i op hl
      split at h
      · rename_i hnot
        cases hoperand : parsePrimary fuel ts with
        | ok operand after =>
          rw [hoperand] at h
          cases h
          obtain ⟨p, rfl, hd, hs⟩ := ih .primary ts operand rest trivial hoperand
          refine ⟨t :: p, rfl, .negation (hnot ▸ hl) hd, hs.congr ?_⟩
          rw [List.getLast?_cons_of_ne_nil hd.ne_nil]
        | fail fault after => simp [hoperand] at h
        | exhausted => simp [hoperand] at h
      · cases h
    · rename_i name hl
      obtain ⟨p, rfl, hp⟩ := ih (.index name) ts e rest trivial h
      exact ⟨t :: p, rfl, hp t hl⟩
    · rename_i name hl
      split at h
      · rename_i position text inside
        obtain ⟨p, rfl, hp⟩ := ih (.call name) inside e rest trivial h
        exact ⟨t :: ⟨.lparen, position, text⟩ :: p, rfl, hp t _ hl rfl⟩
      · cases h
    · rename_i hl
      cases hinner : parseTier fuel 1 ts with
      | ok inner after =>
        rw [hinner] at h
        obtain ⟨inside, rfl, hd, _⟩ := ih (.tier 1) ts inner after proper_one hinner
        obtain ⟨closing, rfl, hk, rfl⟩ := expect_eq_ok h
        have hc : closing.lexeme = .rparen := lexeme_eq_of_kind hk (by simp)
        refine ⟨t :: (inside ++ [closing]), by simp, .group hl hd hc, ?_⟩
        exact stops_closed [t] inside (by simp [hc])
      | fail fault after => simp [hinner] at h
      | exhausted => simp [hinner] at h
    · cases h

/-- What a rule takes off the tokens derives its answer, and the rest does not go on with it. -/
theorem run_reads (fuel : Nat) : Sound fuel := by
  induction fuel with
  | zero =>
    intro rule tokens e rest _ h
    cases rule <;> simp [Rule.run, parseTier, parseChain, parsePrimary, parseIndex, parseCall,
      parseArguments] at h
  | succ fuel ih =>
    intro rule tokens e rest hproper h
    cases rule with
    | tier k => exact tier_reads ih hproper h
    | chain k left => exact chain_reads ih hproper h
    | primary => exact primary_reads ih h
    | index name => exact index_reads ih h
    | call function => exact call_reads ih h
    | arguments function args => exact arguments_reads ih h

end Rules
end Parser
end Formula
