import Formula.Proofs.Grammar.Recognition

/-!
# Formula.Proofs.Grammar.Dangling

Identifiers that no parenthesis follows. In a sentence of the grammar an identifier is the name of
a call, so the parser never gets past such a one: what it leaves unread still holds it
(`Derives.dangling`), it does not complain that the tokens ended (`persists`), and so `parse`
refuses the tokens with a parse error (`parse_dangling`).
-/

namespace Formula

/-- Some identifier among the lexemes is not followed by an opening parenthesis. -/
def Dangling : List Lexeme → Prop
  | [] => False
  | l :: rest => (∃ name, l = .identifier name ∧ rest.head? ≠ some .lparen) ∨ Dangling rest

theorem dangling_append (before : List Lexeme) {after : List Lexeme} (h : Dangling after) :
    Dangling (before ++ after) := by
  induction before with
  | nil => exact h
  | cons l before ih => exact .inr ih

/-- Only an identifier can itself be dangling. -/
theorem dangling_of_cons {l : Lexeme} {rest : List Lexeme} (hl : ∀ name, l ≠ .identifier name)
    (h : Dangling (l :: rest)) : Dangling rest := by
  rcases h with ⟨name, hname, _⟩ | h
  · exact absurd hname (hl name)
  · exact h

theorem dangling_of_call {name : String} {rest : List Lexeme}
    (h : Dangling (.identifier name :: .lparen :: rest)) : Dangling rest := by
  rcases h with ⟨_, _, hopen⟩ | h
  · exact absurd rfl hopen
  · exact dangling_of_cons (by simp) h

/-- Tokens of which one is a dangling identifier. -/
def DanglingTokens (tokens : List Token) : Prop :=
  Dangling (tokens.map Token.lexeme)

namespace Grammar

theorem CommaSeparated.dangling {pieces : List (List Token)} {ts : List Token}
    (h : CommaSeparated pieces ts)
    (hd : ∀ piece ∈ pieces, ∀ rest, DanglingTokens (piece ++ rest) → DanglingTokens rest)
    (rest : List Token) (hts : DanglingTokens (ts ++ rest)) : DanglingTokens rest := by
  induction h with
  | none => exact hts
  | one ts => exact hd ts (by simp) rest hts
  | @more comma first second joined others hcomma _ ih =>
    rw [List.append_assoc] at hts
    have hjoined := hd first (by simp) _ hts
    refine ih (fun piece hpiece => hd piece (List.mem_cons_of_mem _ hpiece)) ?_
    exact dangling_of_cons (by simp [hcomma]) hjoined

/-- No identifier dangles within a sentence. -/
theorem Derives.dangling {k : Nat} {p : List Token} {e : Expr} (h : Derives k p e) :
    ∀ rest, DanglingTokens (p ++ rest) → DanglingTokens rest := by
  induction h with
  | number hl | string hl | boolean hl | var hl =>
    intro rest hd
    exact dangling_of_cons (by simp [hl]) hd
  | @index t opening closing name ts i hl ho _ hc ih =>
    intro rest hd
    rw [List.cons_append, List.cons_append, List.append_assoc] at hd
    have hinside := dangling_of_cons (by simp [ho]) (dangling_of_cons (by simp [hl]) hd)
    exact dangling_of_cons (by simp [hc]) (ih _ hinside)
  | @call t opening closing name args ts hl ho _ hsep hc ih =>
    intro rest hd
    rw [List.cons_append, List.cons_append, List.append_assoc] at hd
    have hinside : DanglingTokens (ts ++ ([closing] ++ rest)) := by
      unfold DanglingTokens at hd
      rw [List.map_cons, List.map_cons, hl, ho] at hd
      exact dangling_of_call hd
    refine dangling_of_cons (by simp [hc]) (hsep.dangling (fun piece hpiece => ?_) _ hinside)
    obtain ⟨arg, harg, rfl⟩ := List.mem_map.mp hpiece
    exact ih arg harg
  | @group opening closing ts e ho _ hc ih =>
    intro rest hd
    rw [List.cons_append, List.append_assoc] at hd
    exact dangling_of_cons (by simp [hc]) (ih _ (dangling_of_cons (by simp [ho]) hd))
  | negation hl _ ih =>
    intro rest hd
    exact ih rest (dangling_of_cons (by simp [hl]) hd)
  | operand _ _ ih => exact ih
  | @binary tier t op ls rs l r hl _ _ _ ihl ihr =>
    intro rest hd
    rw [List.append_assoc, List.cons_append] at hd
    exact ihr rest (dangling_of_cons (by simp [hl]) (ihl _ hd))

end Grammar

namespace Parser

open Grammar

theorem dangling_of_tier {fuel k : Nat} {tokens rest : List Token} {e : Expr}
    (hk : k ≤ Grammar.primary) (h : parseTier fuel k tokens = .ok e rest)
    (hd : DanglingTokens tokens) : DanglingTokens rest := by
  obtain ⟨p, rfl, hp, _⟩ := run_reads fuel (.tier k) tokens e rest hk h
  exact hp.dangling rest hd

/-- Whether a rule does not complain that the tokens ended. -/
def NotEnded (outcome : Step Expr) : Prop :=
  ∀ rest, outcome ≠ .fail .ended rest

theorem notEnded_expect {kind : TokenKind} {e : Expr} {tokens : List Token}
    (hd : DanglingTokens tokens) : NotEnded (expect kind e tokens) := by
  intro rest
  cases tokens with
  | nil => exact absurd hd id
  | cons t ts =>
    simp only [expect]
    split <;> simp

section NotEnded

variable {fuel : Nat} {tokens : List Token}

/-- On this fuel no rule complains that the tokens ended while one of them dangles. -/
def Persists (fuel : Nat) : Prop :=
  ∀ (rule : Rule) (tokens : List Token), rule.Proper → DanglingTokens tokens →
    NotEnded (rule.run fuel tokens)

theorem notEnded_tier (ih : Persists fuel) {k : Nat} (hd : DanglingTokens tokens) :
    NotEnded (parseTier (fuel + 1) k tokens) := by
  rw [parseTier]
  split
  · rename_i hlt
    have htier := ih (.tier (k + 1)) tokens hlt hd
    split
    · rename_i left rest hleft
      exact ih (.chain k left) rest hlt (dangling_of_tier hlt hleft hd)
    · exact htier
  · exact ih .primary tokens trivial hd

theorem notEnded_chain (ih : Persists fuel) {k : Nat} {left : Expr} (hk : k < Grammar.primary)
    (hd : DanglingTokens tokens) : NotEnded (parseChain (fuel + 1) k left tokens) := by
  rw [parseChain]
  split
  · exact fun rest => by simp
  · rename_i op ts hop
    obtain ⟨t, rfl, hl, _⟩ := operatorOf?_eq_some hk hop
    have hts : DanglingTokens ts := dangling_of_cons (by simp [hl]) hd
    have htier := ih (.tier (k + 1)) ts hk hts
    split
    · rename_i right rest hright
      exact ih (.chain k _) rest hk (dangling_of_tier hk hright hts)
    · exact htier

theorem notEnded_index (ih : Persists fuel) {name : String} (hd : DanglingTokens tokens) :
    NotEnded (parseIndex (fuel + 1) name tokens) := by
  unfold parseIndex
  split
  · rename_i inside
    have hinside : DanglingTokens inside := dangling_of_cons (by simp) hd
    have htier := ih (.tier 1) inside proper_one hinside
    split
    · rename_i index rest hindex
      exact notEnded_expect (dangling_of_tier proper_one hindex hinside)
    · exact htier
  · exact fun rest => by simp

theorem notEnded_call (ih : Persists fuel) {function : String} (hd : DanglingTokens tokens) :
    NotEnded (parseCall (fuel + 1) function tokens) := by
  unfold parseCall
  split
  · exact fun rest => by simp
  · exact ih (.arguments function []) tokens trivial hd

theorem notEnded_arguments (ih : Persists fuel) {function : String} {args : List Expr}
    (hd : DanglingTokens tokens) : NotEnded (parseArguments (fuel + 1) function args tokens) := by
  have htier := ih (.tier 1) tokens proper_one hd
  rw [parseArguments]
  split
  · rename_i arg harg
    exact absurd (dangling_of_tier proper_one harg hd) id
  · rename_i arg t rest harg
    have hrest := dangling_of_tier proper_one harg hd
    split
    · exact fun rest => by simp
    · rename_i hl
      exact ih (.arguments function _) rest trivial (dangling_of_cons (by simp [hl]) hrest)
    · exact fun rest => by simp
  · exact htier

theorem notEnded_primary (ih : Persists fuel) (hd : DanglingTokens tokens) :
    NotEnded (parsePrimary (fuel + 1) tokens) := by
  cases tokens with
  | nil => exact absurd hd id
  | cons t ts =>
    rw [parsePrimary]
    split
    · exact fun rest => by simp
    · exact fun rest => by simp
    · exact fun rest => by simp
    · rename_i op hl
      have hts : DanglingTokens ts := dangling_of_cons (by simp [hl]) hd
      have hprimary := ih .primary ts trivial hts
      split
      · split
        · exact fun rest => by simp
        · exact hprimary
      · exact fun rest => by simp [unexpected]
    · rename_i name hl
      exact ih (.index name) ts trivial (dangling_of_cons (by simp [hl]) hd)
    · rename_i name hl
      split
      · rename_i inside
        unfold DanglingTokens at hd
        rw [List.map_cons, hl] at hd
        exact ih (.call name) inside trivial (dangling_of_call hd)
      · exact fun rest => by simp
    · rename_i hl
      have hts : DanglingTokens ts := dangling_of_cons (by simp [hl]) hd
      have htier := ih (.tier 1) ts proper_one hts
      split
      · rename_i inner rest hinner
        exact notEnded_expect (dangling_of_tier proper_one hinner hts)
      · exact htier
    · exact fun rest => by simp [unexpected]

end NotEnded

theorem persists (fuel : Nat) : Persists fuel := by
  induction fuel with
  | zero =>
    intro rule tokens _ _ rest
    cases rule <;>
      simp [Rule.run, parseTier, parseChain, parsePrimary, parseIndex, parseCall, parseArguments]
  | succ fuel ih =>
    intro rule tokens hproper hd
    cases rule with
    | tier k => exact notEnded_tier ih hd
    | chain k left => exact notEnded_chain ih hproper hd
    | primary => exact notEnded_primary ih hd
    | index name => exact notEnded_index ih hd
    | call function => exact notEnded_call ih hd
    | arguments function args => exact notEnded_arguments ih hd

end Parser

open Formula.Parser Formula.Grammar

/-- Tokens with a dangling identifier are refused with a parse error. -/
theorem parse_dangling (source : Option String) {tokens : List Token}
    (hd : DanglingTokens tokens) : ∃ err, (parse .default source tokens).result = .error err ∧
      err.kind? = some .parse := by
  cases tokens with
  | nil => exact absurd hd id
  | cons t ts =>
    have herror : ∃ cause position,
        parseTokens false (t :: ts) = .error (.at cause position) := by
      rw [parseTokens_cons]
      cases hread : (Rule.tier 1).read (t :: ts) with
      | ok e rest =>
        cases rest with
        | nil => exact absurd (dangling_of_tier proper_one hread hd) id
        | cons u us => exact ⟨_, _, rfl⟩
      | fail fault rest =>
        cases fault with
        | ended => exact absurd hread (persists _ (.tier 1) _ proper_one hd rest)
        | «at» cause position => exact ⟨cause, position, rfl⟩
      | exhausted => exact absurd hread (read_ne_exhausted proper_one _)
    obtain ⟨cause, position, h⟩ := herror
    exact ⟨ParseFault.toError source (.at cause position), by simp [parse, Options.default, h], rfl⟩

end Formula
