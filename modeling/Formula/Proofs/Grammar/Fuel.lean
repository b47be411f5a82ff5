import Formula.Proofs.Grammar.Reading

/-!
# Formula.Proofs.Grammar.Fuel

The parser without its fuel. Ten for each token and for the end of the tokens is always enough for
a tier, and more fuel never changes an outcome (`run_settled`). So every rule has one outcome on a
list of tokens, `Rule.read`, and it satisfies the equations of the rules with no fuel in them.
-/

namespace Formula
namespace Parser

open Grammar

/-- Whether the tokens begin with one of the given lexeme. -/
def Begins (l : Lexeme) (tokens : List Token) : Prop :=
  ∃ t rest, tokens = t :: rest ∧ t.lexeme = l

instance (l : Lexeme) (tokens : List Token) : Decidable (Begins l tokens) :=
  match tokens with
  | [] => isFalse (by simp [Begins])
  | t :: rest => decidable_of_iff (t.lexeme = l) (by simp [Begins])

/-! ## One step of the rules that look at a token -/

section Step

variable {fuel : Nat} {tokens rest : List Token} {t : Token}

theorem parseIndex_open (h : t.lexeme = .lbracket) (name : String) :
    parseIndex (fuel + 1) name (t :: rest) =
      match parseTier fuel 1 rest with
      | .ok index rest => expect .rbracket (.index name index) rest
      | stopped => stopped := by
  obtain ⟨l, position, text⟩ := t
  cases h
  rfl

theorem parseIndex_else (h : ¬ Begins .lbracket tokens) (name : String) :
    parseIndex (fuel + 1) name tokens = .ok (.var name) tokens := by
  unfold parseIndex
  split
  · exact absurd ⟨_, _, rfl, rfl⟩ h
  · rfl

theorem parseCall_close (h : t.lexeme = .rparen) (function : String) :
    parseCall (fuel + 1) function (t :: rest) = .ok (.call function []) rest := by
  obtain ⟨l, position, text⟩ := t
  cases h
  rfl

theorem parseCall_else (h : ¬ Begins .rparen tokens) (function : String) :
    parseCall (fuel + 1) function tokens = parseArguments fuel function [] tokens := by
  rw [parseCall]
  intro position text rest hr
  exact h ⟨_, _, hr, rfl⟩

end Step

/-! ## Enough fuel -/

/-- Fuel that is enough for a rule: ten for each token, and how far the rule nests before it takes
one. -/
def Rule.need (rule : Rule) (tokens : List Token) : Nat :=
  match rule with
  | .tier k => 10 * tokens.length + (11 - k)
  | .chain _ _ | .primary | .index _ => 10 * tokens.length + 1
  | .call _ => 10 * tokens.length + 12
  | .arguments _ _ => 10 * tokens.length + 11

theorem length_lt_of_tier {fuel k : Nat} {tokens rest : List Token} {e : Expr}
    (hk : k ≤ Grammar.primary) (h : parseTier fuel k tokens = .ok e rest) :
    rest.length < tokens.length := by
  obtain ⟨p, rfl, hd, _⟩ := run_reads fuel (.tier k) tokens e rest hk h
  have := hd.length_pos
  rw [List.length_append]
  omega

/-- On either of two fuels that are enough the outcome is the same, and is one. -/
def Settled (f g : Nat) : Prop :=
  ∀ (rule : Rule) (tokens : List Token), rule.Proper → rule.need tokens ≤ min f g →
    rule.run f tokens = rule.run g tokens ∧ rule.run g tokens ≠ .exhausted

section Settled

variable {f g : Nat} {tokens : List Token}

theorem settled_tier (ih : Settled f g) {k : Nat} (hk : k ≤ Grammar.primary)
    (h : (Rule.tier k).need tokens ≤ min (f + 1) (g + 1)) :
    parseTier (f + 1) k tokens = parseTier (g + 1) k tokens ∧
      parseTier (g + 1) k tokens ≠ .exhausted := by
  simp only [Rule.need] at h
  simp only [parseTier]
  by_cases hlt : k < primaryTier
  · simp only [if_pos hlt]
    have hlt9 : k < 9 := hlt
    obtain ⟨heq, hne⟩ := ih (.tier (k + 1)) tokens hlt (by simp only [Rule.need]; omega)
    simp only [Rule.run] at heq hne
    rw [heq]
    cases hleft : parseTier g (k + 1) tokens with
    | ok left rest =>
      have hlen := length_lt_of_tier hlt hleft
      exact ih (.chain k left) rest hlt (by simp only [Rule.need]; omega)
    | fail fault rest => simp
    | exhausted => exact absurd hleft hne
  · simp only [if_neg hlt]
    have hk9 : k = 9 := Nat.le_antisymm hk (Nat.not_lt.mp hlt)
    exact ih .primary tokens trivial (by simp only [Rule.need]; omega)

theorem settled_chain (ih : Settled f g) {k : Nat} {left : Expr} (hk : k < Grammar.primary)
    (h : (Rule.chain k left).need tokens ≤ min (f + 1) (g + 1)) :
    parseChain (f + 1) k left tokens = parseChain (g + 1) k left tokens ∧
      parseChain (g + 1) k left tokens ≠ .exhausted := by
  simp only [Rule.need] at h
  simp only [parseChain]
  cases hop : operatorOf? k tokens with
  | none => simp
  | some found =>
    obtain ⟨op, rest⟩ := found
    obtain ⟨t, rfl, -, -⟩ := operatorOf?_eq_some hk hop
    rw [List.length_cons] at h
    obtain ⟨heq, hne⟩ := ih (.tier (k + 1)) rest hk (by simp only [Rule.need]; omega)
    simp only [Rule.run] at heq hne
    simp only [heq]
    cases hright : parseTier g (k + 1) rest with
    | ok right later =>
      have hlen := length_lt_of_tier hk hright
      exact ih (.chain k (.binary left op right)) later hk (by simp only [Rule.need]; omega)
    | fail fault later => simp
    | exhausted => exact absurd hright hne

theorem expect_ne_exhausted (kind : TokenKind) (value : Expr) (tokens : List Token) :
    expect kind value tokens ≠ .exhausted := by
  cases tokens with
  | nil => simp [expect]
  | cons t rest =>
    simp only [expect]
    split <;> simp

theorem settled_index (ih : Settled f g) {name : String}
    (h : (Rule.index name).need tokens ≤ min (f + 1) (g + 1)) :
    parseIndex (f + 1) name tokens = parseIndex (g + 1) name tokens ∧
      parseIndex (g + 1) name tokens ≠ .exhausted := by
  simp only [Rule.need] at h
  by_cases hopen : Begins .lbracket tokens
  · obtain ⟨t, inside, rfl, hl⟩ := hopen
    rw [List.length_cons] at h
    rw [parseIndex_open hl, parseIndex_open hl]
    obtain ⟨heq, hne⟩ := ih (.tier 1) inside proper_one (by simp only [Rule.need]; omega)
    simp only [Rule.run] at heq hne
    rw [heq]
    cases hindex : parseTier g 1 inside with
    | ok i rest => exact ⟨rfl, expect_ne_exhausted _ _ _⟩
    | fail fault rest => simp
    | exhausted => exact absurd hindex hne
  · rw [parseIndex_else hopen, parseIndex_else hopen]
    simp

theorem settled_call (ih : Settled f g) {function : String}
    (h : (Rule.call function).need tokens ≤ min (f + 1) (g + 1)) :
    parseCall (f + 1) function tokens = parseCall (g + 1) function tokens ∧
      parseCall (g + 1) function tokens ≠ .exhausted := by
  simp only [Rule.need] at h
  by_cases hclose : Begins .rparen tokens
  · obtain ⟨t, rest, rfl, hl⟩ := hclose
    rw [parseCall_close hl, parseCall_close hl]
    simp
  · rw [parseCall_else hclose, parseCall_else hclose]
    exact ih (.arguments function []) tokens trivial (by simp only [Rule.need]; omega)

theorem settled_arguments (ih : Settled f g) {function : String} {args : List Expr}
    (h : (Rule.arguments function args).need tokens ≤ min (f + 1) (g + 1)) :
    parseArguments (f + 1) function args tokens = parseArguments (g + 1) function args tokens ∧
      parseArguments (g + 1) function args tokens ≠ .exhausted := by
  simp only [Rule.need] at h
  simp only [parseArguments]
  obtain ⟨heq, hne⟩ := ih (.tier 1) tokens proper_one (by simp only [Rule.need]; omega)
  simp only [Rule.run] at heq hne
  rw [heq]
  cases harg : parseTier g 1 tokens with
  | ok arg rest =>
    have hlen := length_lt_of_tier proper_one harg
    cases rest with
    | nil => simp
    | cons t later =>
      rw [List.length_cons] at hlen
      simp only
      split
      · simp
      · exact ih (.arguments function (args ++ [arg])) later trivial
          (by simp only [Rule.need]; omega)
      · simp
  | fail fault rest => simp
  | exhausted => exact absurd harg hne

theorem settled_primary (ih : Settled f g)
    (h : Rule.primary.need tokens ≤ min (f + 1) (g + 1)) :
    parsePrimary (f + 1) tokens = parsePrimary (g + 1) tokens ∧
      parsePrimary (g + 1) tokens ≠ .exhausted := by
  simp only [Rule.need] at h
  cases tokens with
  | nil => simp [parsePrimary]
  | cons t rest =>
    rw [List.length_cons] at h
    simp only [parsePrimary]
    split
    · simp
    · simp
    · simp
    · split
      · obtain ⟨heq, hne⟩ := ih .primary rest trivial (by simp only [Rule.need]; omega)
        simp only [Rule.run] at heq hne
        rw [heq]
        cases hoperand : parsePrimary g rest with
        | ok operand later => simp
        | fail fault later => simp
        | exhausted => exact absurd hoperand hne
      · simp
    · exact ih (.index _) rest trivial (by simp only [Rule.need]; omega)
    · split
      · rename_i inside
        rw [List.length_cons] at h
        exact ih (.call _) inside trivial (by simp only [Rule.need]; omega)
      · simp
    · obtain ⟨heq, hne⟩ := ih (.tier 1) rest proper_one (by simp only [Rule.need]; omega)
      simp only [Rule.run] at heq hne
      rw [heq]
      cases hinner : parseTier g 1 rest with
      | ok inner later => exact ⟨rfl, expect_ne_exhausted _ _ _⟩
      | fail fault later => simp
      | exhausted => exact absurd hinner hne
    · simp

end Settled

theorem need_pos {rule : Rule} (tokens : List Token) (h : rule.Proper) :
    0 < rule.need tokens := by
  cases rule with
  | tier k =>
    have hk : k ≤ 9 := h
    simp only [Rule.need]
    omega
  | _ => simp [Rule.need]

theorem run_settled : ∀ f g : Nat, Settled f g := by
  intro f
  induction f with
  | zero =>
    intro g rule tokens hproper h
    have := need_pos tokens hproper
    omega
  | succ f ih =>
    intro g rule tokens hproper h
    cases g with
    | zero =>
      have := need_pos tokens hproper
      omega
    | succ g =>
      cases rule with
      | tier k => exact settled_tier (ih g) hproper h
      | chain k left => exact settled_chain (ih g) hproper h
      | primary => exact settled_primary (ih g) h
      | index name => exact settled_index (ih g) h
      | call function => exact settled_call (ih g) h
      | arguments function args => exact settled_arguments (ih g) h

/-! ## The equations without fuel -/

/-- The outcome of a rule on a list of tokens. -/
def Rule.read (rule : Rule) (tokens : List Token) : Step Expr :=
  rule.run (rule.need tokens) tokens

theorem run_eq_read (fuel : Nat) (rule : Rule) (tokens : List Token) (h : rule.Proper)
    (hfuel : rule.need tokens ≤ fuel) : rule.run fuel tokens = rule.read tokens :=
  (run_settled fuel (rule.need tokens) rule tokens h (by omega)).1

theorem read_ne_exhausted {rule : Rule} (h : rule.Proper) (tokens : List Token) :
    rule.read tokens ≠ .exhausted :=
  (run_settled _ _ rule tokens h (Nat.le_min.mpr ⟨Nat.le_refl _, Nat.le_refl _⟩)).2

section Read

variable {k : Nat} {tokens rest : List Token} {t : Token}

theorem read_tier (hk : k < Grammar.primary) (tokens : List Token) :
    (Rule.tier k).read tokens =
      match (Rule.tier (k + 1)).read tokens with
      | .ok left rest => (Rule.chain k left).read rest
      | stopped => stopped := by
  let fuel := 10 * tokens.length + 11
  have hread : parseTier (fuel + 1) k tokens = (Rule.tier k).read tokens :=
    run_eq_read (fuel + 1) (.tier k) tokens (Nat.le_of_lt hk) (by simp only [Rule.need, fuel]; omega)
  have hinner : parseTier fuel (k + 1) tokens = (Rule.tier (k + 1)).read tokens :=
    run_eq_read fuel (.tier (k + 1)) tokens hk (by simp only [Rule.need, fuel]; omega)
  rw [← hread, parseTier, if_pos (show k < primaryTier from hk), hinner]
  cases hleft : (Rule.tier (k + 1)).read tokens with
  | ok left rest =>
    have hlen := length_lt_of_tier hk hleft
    exact run_eq_read fuel (.chain k left) rest hk (by simp only [Rule.need, fuel]; omega)
  | fail fault rest => rfl
  | exhausted => rfl

theorem read_primaryTier (tokens : List Token) :
    (Rule.tier Grammar.primary).read tokens = Rule.primary.read tokens :=
  rfl

theorem read_chain_stop {left : Expr} (hk : k < Grammar.primary)
    (h : ∀ t op, tokens.head? = some t → t.lexeme = .operator op → op ∉ operators k) :
    (Rule.chain k left).read tokens = .ok left tokens := by
  have hnone : operatorOf? k tokens = none := by
    cases hop : operatorOf? k tokens with
    | none => rfl
    | some found =>
      obtain ⟨t, rfl, hl, hmem⟩ := operatorOf?_eq_some hk hop
      exact absurd hmem (h t found.1 rfl hl)
  show parseChain (10 * tokens.length + 1) k left tokens = _
  simp only [parseChain, hnone]

theorem read_chain_more {left : Expr} {op : Operator} (hl : t.lexeme = .operator op)
    (hmem : op ∈ operators k) :
    (Rule.chain k left).read (t :: rest) =
      match (Rule.tier (k + 1)).read rest with
      | .ok right later => (Rule.chain k (.binary left op right)).read later
      | stopped => stopped := by
  have hk : k < Grammar.primary := lt_primary_of_mem hmem
  obtain ⟨l, position, text⟩ := t
  cases hl
  let fuel := 10 * (rest.length + 1)
  have hinner : parseTier fuel (k + 1) rest = (Rule.tier (k + 1)).read rest :=
    run_eq_read fuel (.tier (k + 1)) rest hk (by simp only [Rule.need, fuel]; omega)
  show parseChain (fuel + 1) k left _ = _
  simp only [parseChain, operatorOf?, (mem_operators_iff hk).mp hmem, if_true, hinner]
  cases hright : (Rule.tier (k + 1)).read rest with
  | ok right later =>
    have hlen := length_lt_of_tier hk hright
    exact run_eq_read fuel (.chain k _) later hk (by simp only [Rule.need, fuel]; omega)
  | fail fault later => rfl
  | exhausted => rfl

theorem read_index_open (h : t.lexeme = .lbracket) (name : String) :
    (Rule.index name).read (t :: rest) =
      match (Rule.tier 1).read rest with
      | .ok index rest => expect .rbracket (.index name index) rest
      | stopped => stopped := by
  let fuel := 10 * (rest.length + 1)
  have hinner : parseTier fuel 1 rest = (Rule.tier 1).read rest :=
    run_eq_read fuel (.tier 1) rest proper_one (by simp only [Rule.need, fuel]; omega)
  show parseIndex (fuel + 1) name _ = _
  rw [parseIndex_open h, hinner]

theorem read_index_else (h : ¬ Begins .lbracket tokens) (name : String) :
    (Rule.index name).read tokens = .ok (.var name) tokens :=
  parseIndex_else h name

theorem read_call_close (h : t.lexeme = .rparen) (function : String) :
    (Rule.call function).read (t :: rest) = .ok (.call function []) rest :=
  parseCall_close h function

theorem read_call_else (h : ¬ Begins .rparen tokens) (function : String) :
    (Rule.call function).read tokens = (Rule.arguments function []).read tokens :=
  parseCall_else h function

theorem read_arguments (function : String) (args : List Expr) (tokens : List Token) :
    (Rule.arguments function args).read tokens =
      match (Rule.tier 1).read tokens with
      | .ok _ [] => .fail .ended []
      | .ok arg (t :: rest) =>
        match t.lexeme with
        | .rparen => .ok (.call function (args ++ [arg])) rest
        | .comma => (Rule.arguments function (args ++ [arg])).read rest
        | _ => .fail (.at (.unseparatedArguments function) t.position) rest
      | stopped => stopped := by
  let fuel := 10 * tokens.length + 10
  have hinner : parseTier fuel 1 tokens = (Rule.tier 1).read tokens :=
    run_eq_read fuel (.tier 1) tokens proper_one (by simp only [Rule.need, fuel]; omega)
  show parseArguments (fuel + 1) function args tokens = _
  rw [parseArguments, hinner]
  cases harg : (Rule.tier 1).read tokens with
  | ok arg rest =>
    cases rest with
    | nil => rfl
    | cons t later =>
      have hlen := length_lt_of_tier proper_one harg
      rw [List.length_cons] at hlen
      have hmore : parseArguments fuel function (args ++ [arg]) later =
          (Rule.arguments function (args ++ [arg])).read later :=
        run_eq_read fuel (.arguments function (args ++ [arg])) later trivial
          (by simp only [Rule.need, fuel]; omega)
      obtain ⟨lexeme, position, text⟩ := t
      cases lexeme with
      | comma => exact hmore
      | _ => rfl
  | fail fault rest => rfl
  | exhausted => rfl

theorem read_primary (t : Token) (rest : List Token) :
    Rule.primary.read (t :: rest) =
      match t.lexeme with
      | .number x => .ok (.literal (.number x)) rest
      | .string s => .ok (.literal (.string s)) rest
      | .boolean b => .ok (.literal (.boolean b)) rest
      | .operator op =>
        if op = .not then
          match Rule.primary.read rest with
          | .ok operand rest => .ok (.unary .not operand) rest
          | stopped => stopped
        else .fail (unexpected t) rest
      | .var name => (Rule.index name).read rest
      | .identifier name =>
        match rest with
        | ⟨.lparen, _, _⟩ :: inside => (Rule.call name).read inside
        | _ => .fail (.at (.unexpectedIdentifier name) t.position) rest
      | .lparen =>
        match (Rule.tier 1).read rest with
        | .ok inner rest => expect .rparen inner rest
        | stopped => stopped
      | _ => .fail (unexpected t) rest := by
  let fuel := 10 * (rest.length + 1)
  have hprimary : parsePrimary fuel rest = Rule.primary.read rest :=
    run_eq_read fuel .primary rest trivial (by simp only [Rule.need, fuel]; omega)
  have hindex (name : String) : parseIndex fuel name rest = (Rule.index name).read rest :=
    run_eq_read fuel (.index name) rest trivial (by simp only [Rule.need, fuel]; omega)
  have hinner : parseTier fuel 1 rest = (Rule.tier 1).read rest :=
    run_eq_read fuel (.tier 1) rest proper_one (by simp only [Rule.need, fuel]; omega)
  show parsePrimary (fuel + 1) _ = _
  obtain ⟨l, position, text⟩ := t
  cases l with
  | identifier name =>
    cases rest with
    | nil => rfl
    | cons opening inside =>
      obtain ⟨l, position, text⟩ := opening
      cases l with
      | lparen =>
        exact run_eq_read fuel (.call name) inside trivial
          (by simp only [Rule.need, fuel, List.length_cons]; omega)
      | _ => rfl
  | _ =>
    simp only [parsePrimary, hprimary, hindex, hinner]
    try rfl

end Read
end Parser
end Formula
