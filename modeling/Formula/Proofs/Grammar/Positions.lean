import Formula.Proofs.Grammar.Recognition

/-!
# Formula.Proofs.Grammar.Positions

The parser does not look at where tokens stand. It only reports it: each rule, on tokens without
their places, does what it does on the tokens themselves, with the place of a fault left out
(`run_unplaced`). So tokens that differ in their places have the same tree, or are refused with the
same error (`parse_unplaced`).
-/

namespace Formula

/-- A token without its place: its lexeme, and with it its kind, and its text. -/
def Token.unplaced (t : Token) : Token :=
  { t with position := 0 }

def ParseFault.unplaced : ParseFault → ParseFault
  | ended => ended
  | .at cause _ => .at cause 0

def Step.unplaced {α : Type} : Step α → Step α
  | ok value rest => ok value (rest.map Token.unplaced)
  | fail fault rest => fail fault.unplaced (rest.map Token.unplaced)
  | exhausted => exhausted

/-- The same value, or errors that are the same wherever they happened. -/
inductive SameOutcome {α : Type} : Except Error α → Except Error α → Prop where
  | ok (a : α) : SameOutcome (.ok a) (.ok a)
  | error {e e' : Error} : e.same e' = true → SameOutcome (.error e) (.error e')

namespace Parser

section Rules

variable {fuel : Nat}

/-- Every rule does the same on tokens without their places. -/
def Unplaced (fuel : Nat) : Prop :=
  ∀ (rule : Rule) (tokens : List Token),
    rule.run fuel (tokens.map Token.unplaced) = (rule.run fuel tokens).unplaced

theorem Unplaced.tier (ih : Unplaced fuel) (k : Nat) (tokens : List Token) :
    parseTier fuel k (tokens.map Token.unplaced) = (parseTier fuel k tokens).unplaced :=
  ih (.tier k) tokens

theorem Unplaced.primary (ih : Unplaced fuel) (tokens : List Token) :
    parsePrimary fuel (tokens.map Token.unplaced) = (parsePrimary fuel tokens).unplaced :=
  ih .primary tokens

theorem operatorOf?_unplaced (k : Nat) (tokens : List Token) :
    operatorOf? k (tokens.map Token.unplaced) =
      (operatorOf? k tokens).map fun found => (found.1, found.2.map Token.unplaced) := by
  cases tokens with
  | nil => rfl
  | cons t rest =>
    obtain ⟨l, position, text⟩ := t
    cases l with
    | operator op =>
      simp only [operatorOf?, List.map_cons, Token.unplaced]
      split <;> rfl
    | _ => rfl

theorem expect_unplaced (kind : TokenKind) (value : Expr) (tokens : List Token) :
    expect kind value (tokens.map Token.unplaced) = (expect kind value tokens).unplaced := by
  cases tokens with
  | nil => rfl
  | cons t rest =>
    by_cases hk : t.kind = kind
    · have hu : t.unplaced.kind = kind := hk
      rw [List.map_cons, expect, if_pos hu, expect, if_pos hk]
      rfl
    · have hu : ¬ t.unplaced.kind = kind := hk
      rw [List.map_cons, expect, if_neg hu, expect, if_neg hk]
      rfl

theorem tier_unplaced (ih : Unplaced fuel) (k : Nat) (tokens : List Token) :
    parseTier (fuel + 1) k (tokens.map Token.unplaced) =
      (parseTier (fuel + 1) k tokens).unplaced := by
  simp only [parseTier]
  split
  · rw [ih.tier]
    cases parseTier fuel (k + 1) tokens with
    | ok left rest => exact ih (.chain k left) rest
    | fail fault rest => rfl
    | exhausted => rfl
  · exact ih .primary tokens

theorem chain_unplaced (ih : Unplaced fuel) (k : Nat) (left : Expr) (tokens : List Token) :
    parseChain (fuel + 1) k left (tokens.map Token.unplaced) =
      (parseChain (fuel + 1) k left tokens).unplaced := by
  simp only [parseChain, operatorOf?_unplaced]
  cases operatorOf? k tokens with
  | none => rfl
  | some found =>
    obtain ⟨op, rest⟩ := found
    simp only [Option.map_some, ih.tier]
    cases parseTier fuel (k + 1) rest with
    | ok right rest => exact ih (.chain k (.binary left op right)) rest
    | fail fault rest => rfl
    | exhausted => rfl

theorem index_unplaced (ih : Unplaced fuel) (name : String) (tokens : List Token) :
    parseIndex (fuel + 1) name (tokens.map Token.unplaced) =
      (parseIndex (fuel + 1) name tokens).unplaced := by
  cases tokens with
  | nil => rfl
  | cons t inside =>
    obtain ⟨l, position, text⟩ := t
    cases l with
    | lbracket =>
      simp only [List.map_cons, Token.unplaced, parseIndex, ih.tier]
      cases parseTier fuel 1 inside with
      | ok index rest => exact expect_unplaced .rbracket _ rest
      | fail fault rest => rfl
      | exhausted => rfl
    | _ => rfl

theorem call_unplaced (ih : Unplaced fuel) (function : String) (tokens : List Token) :
    parseCall (fuel + 1) function (tokens.map Token.unplaced) =
      (parseCall (fuel + 1) function tokens).unplaced := by
  cases tokens with
  | nil => exact ih (.arguments function []) []
  | cons t rest =>
    obtain ⟨l, position, text⟩ := t
    cases l with
    | rparen => rfl
    | _ => exact ih (.arguments function []) (_ :: rest)

theorem arguments_unplaced (ih : Unplaced fuel) (function : String) (args : List Expr)
    (tokens : List Token) :
    parseArguments (fuel + 1) function args (tokens.map Token.unplaced) =
      (parseArguments (fuel + 1) function args tokens).unplaced := by
  simp only [parseArguments, ih.tier]
  cases parseTier fuel 1 tokens with
  | ok arg rest =>
    cases rest with
    | nil => rfl
    | cons t later =>
      obtain ⟨l, position, text⟩ := t
      cases l with
      | comma => exact ih (.arguments function (args ++ [arg])) later
      | _ => rfl
  | fail fault rest => rfl
  | exhausted => rfl

theorem primary_unplaced (ih : Unplaced fuel) (tokens : List Token) :
    parsePrimary (fuel + 1) (tokens.map Token.unplaced) =
      (parsePrimary (fuel + 1) tokens).unplaced := by
  cases tokens with
  | nil => rfl
  | cons t rest =>
    -- Once the lexeme is known both sides take the same branch and differ in a recursive call only.
    obtain ⟨l, position, text⟩ := t
    cases l with
    | operator op =>
      simp only [List.map_cons, Token.unplaced, parsePrimary, ih.primary]
      split
      · cases parsePrimary fuel rest <;> rfl
      · rfl
    | var name => exact ih (.index name) rest
    | identifier name =>
      cases rest with
      | nil => rfl
      | cons opening inside =>
        obtain ⟨l, position, text⟩ := opening
        cases l with
        | lparen => exact ih (.call name) inside
        | _ => rfl
    | lparen =>
      simp only [List.map_cons, Token.unplaced, parsePrimary, ih.tier]
      cases parseTier fuel 1 rest with
      | ok inner rest => exact expect_unplaced .rparen inner rest
      | fail fault rest => rfl
      | exhausted => rfl
    | _ => rfl

theorem run_unplaced (fuel : Nat) : Unplaced fuel := by
  -- Both sides run on the same fuel, since the parser gives it by the number of the tokens.
  induction fuel with
  | zero => intro rule tokens; cases rule <;> rfl
  | succ fuel ih =>
    intro rule tokens
    cases rule with
    | tier k => exact tier_unplaced ih k tokens
    | chain k left => exact chain_unplaced ih k left tokens
    | primary => exact primary_unplaced ih tokens
    | index name => exact index_unplaced ih name tokens
    | call function => exact call_unplaced ih function tokens
    | arguments function args => exact arguments_unplaced ih function args tokens

end Rules
end Parser

/-- What is read off tokens without their places, and what they are refused for. -/
theorem parseTokens_unplaced (lenient : Bool) (tokens : List Token) :
    parseTokens lenient (tokens.map Token.unplaced) =
      ((parseTokens lenient tokens).map fun parsed =>
        ⟨parsed.expr, parsed.rest.map Token.unplaced⟩).mapError ParseFault.unplaced := by
  cases tokens with
  | nil => rfl
  | cons t others =>
    have hread := (Parser.run_unplaced (Parser.fuelFor (t :: others).length)).tier 1 (t :: others)
    simp only [List.map_cons, parseTokens, List.length_cons, List.length_map] at hread ⊢
    rw [hread]
    cases Parser.parseTier (Parser.fuelFor (others.length + 1)) 1 (t :: others) with
    | ok e rest =>
      cases rest with
      | nil => rfl
      | cons u more => cases lenient <;> rfl
    | fail fault rest => rfl
    | exhausted => rfl

theorem ParseFault.toError_same {fault fault' : ParseFault} (h : fault.unplaced = fault'.unplaced)
    (source source' : Option String) :
    (fault.toError source).same (fault'.toError source') = true := by
  cases fault with
  | ended =>
    cases fault' with
    | ended => rfl
    | «at» cause position => cases h
  | «at» cause position =>
    cases fault' with
    | ended => cases h
    | «at» cause' position' =>
      obtain rfl : cause = cause' := (ParseFault.at.inj h).1
      exact decide_eq_true rfl

/-- Tokens that differ in their places only. -/
theorem parse_unplaced {tokens tokens' : List Token}
    (h : tokens.map Token.unplaced = tokens'.map Token.unplaced) (options : Options)
    (source source' : Option String) :
    SameOutcome (parse options source tokens).result (parse options source' tokens').result := by
  have hparse := parseTokens_unplaced options.allowTrailingTokens tokens
  rw [h, parseTokens_unplaced] at hparse
  cases hleft : parseTokens options.allowTrailingTokens tokens with
  | ok parsed =>
    cases hright : parseTokens options.allowTrailingTokens tokens' with
    | ok parsed' =>
      rw [hleft, hright] at hparse
      obtain ⟨he, -⟩ := Parsed.mk.inj (Except.ok.inj hparse)
      rw [parse_of_ok options source hleft, parse_of_ok options source' hright, he]
      exact .ok parsed.expr
    | error fault' =>
      rw [hleft, hright] at hparse
      cases hparse
  | error fault =>
    cases hright : parseTokens options.allowTrailingTokens tokens' with
    | ok parsed' =>
      rw [hleft, hright] at hparse
      cases hparse
    | error fault' =>
      rw [hleft, hright] at hparse
      rw [parse_of_error options source hleft, parse_of_error options source' hright]
      exact .error (ParseFault.toError_same (Except.error.inj hparse).symm source source')

end Formula
