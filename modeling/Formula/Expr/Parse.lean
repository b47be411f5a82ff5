import Formula.Error.Basic
import Formula.Expr.Basic
import Formula.Token.Basic

/-!
# Formula.Expr.Parse

Expressions from tokens. There are eight tiers of binary operators, each a left-associative chain
of operands of the next tier, and above them the primaries: literals, variables, indexed variables,
calls, negations of a primary, and expressions in parentheses.

The functions recurse on fuel; `parse` gives them enough for the number of tokens.
-/

namespace Formula

/-- Why parsing stopped: at the end of the tokens, or at a token. -/
inductive ParseFault where
  | ended
  | at (cause : SyntaxFault) (position : Nat)
deriving DecidableEq

/-- The outcome of a grammar rule with the tokens that it leaves unread. -/
inductive Step (α : Type) where
  | ok (value : α) (rest : List Token)
  | fail (fault : ParseFault) (rest : List Token)
  | exhausted

namespace Parser

def unexpected (t : Token) : ParseFault :=
  .at (.unexpectedToken t.text) t.position

/-- The operator of a binary tier that stands at the head of the tokens. -/
def operatorOf? (tier : Nat) : List Token → Option (Operator × List Token)
  | ⟨.operator op, _, _⟩ :: rest =>
    if op.precedence.rank = tier then some (op, rest) else none
  | _ => none

/-- Takes a token of the given kind, and answers with `value`. -/
def expect (kind : TokenKind) (value : Expr) : List Token → Step Expr
  | [] => .fail .ended []
  | t :: rest =>
    if t.kind = kind then .ok value rest
    else .fail (.at (.expected kind t.text) t.position) rest

/-- The number of the tier of primaries, above all binary tiers. -/
def primaryTier : Nat := Precedence.unary.rank

mutual

/-- An expression whose operators outside parentheses bind at least as tightly as `tier`. -/
def parseTier : Nat → Nat → List Token → Step Expr
  | 0, _, _ => .exhausted
  | fuel + 1, tier, tokens =>
    if tier < primaryTier then
      match parseTier fuel (tier + 1) tokens with
      | .ok left rest => parseChain fuel tier left rest
      | stopped => stopped
    else parsePrimary fuel tokens

/-- Further operands of a tier, folded to the left. -/
def parseChain : Nat → Nat → Expr → List Token → Step Expr
  | 0, _, _, _ => .exhausted
  | fuel + 1, tier, left, tokens =>
    match operatorOf? tier tokens with
    | none => .ok left tokens
    | some (op, rest) =>
      match parseTier fuel (tier + 1) rest with
      | .ok right rest => parseChain fuel tier (.binary left op right) rest
      | stopped => stopped

def parsePrimary : Nat → List Token → Step Expr
  | 0, _ => .exhausted
  | _ + 1, [] => .fail .ended []
  | fuel + 1, t :: rest =>
    match t.lexeme with
    | .number x => .ok (.literal (.number x)) rest
    | .string s => .ok (.literal (.string s)) rest
    | .boolean b => .ok (.literal (.boolean b)) rest
    | .operator op =>
      if op = .not then
        match parsePrimary fuel rest with
        | .ok operand rest => .ok (.unary .not operand) rest
        | stopped => stopped
      else .fail (unexpected t) rest
    | .var name => parseIndex fuel name rest
    | .identifier name =>
      match rest with
      | ⟨.lparen, _, _⟩ :: inside => parseCall fuel name inside
      | _ => .fail (.at (.unexpectedIdentifier name) t.position) rest
    | .lparen =>
      match parseTier fuel 1 rest with
      | .ok inner rest => expect .rparen inner rest
      | stopped => stopped
    | _ => .fail (unexpected t) rest

/-- What may follow the name of a variable. -/
def parseIndex : Nat → String → List Token → Step Expr
  | 0, _, _ => .exhausted
  | fuel + 1, name, tokens =>
    match tokens with
    | ⟨.lbracket, _, _⟩ :: inside =>
      match parseTier fuel 1 inside with
      | .ok index rest => expect .rbracket (.index name index) rest
      | stopped => stopped
    | _ => .ok (.var name) tokens

/-- A call after its opening parenthesis. -/
def parseCall : Nat → String → List Token → Step Expr
  | 0, _, _ => .exhausted
  | fuel + 1, function, tokens =>
    match tokens with
    | ⟨.rparen, _, _⟩ :: rest => .ok (.call function []) rest
    | _ => parseArguments fuel function [] tokens

/-- The arguments of a call after those already read. -/
def parseArguments : Nat → String → List Expr → List Token → Step Expr
  | 0, _, _, _ => .exhausted
  | fuel + 1, function, args, tokens =>
    match parseTier fuel 1 tokens with
    | .ok _ [] => .fail .ended []
    | .ok arg (t :: rest) =>
      match t.lexeme with
      | .rparen => .ok (.call function (args ++ [arg])) rest
      | .comma => parseArguments fuel function (args ++ [arg]) rest
      | _ => .fail (.at (.unseparatedArguments function) t.position) rest
    | stopped => stopped

end

/-- Enough fuel for a number of tokens: the rules nest no deeper than ten before they take one. -/
def fuelFor (count : Nat) : Nat := 10 * (count + 1)

end Parser

/-- An expression with the tokens after it, which a lenient reader ignores. -/
structure Parsed where
  expr : Expr
  rest : List Token

/-- The expression that a list of tokens starts with; with `lenient` unset there must be no more. -/
def parseTokens (lenient : Bool) (tokens : List Token) : Except ParseFault Parsed :=
  match tokens with
  | [] => .error (.at .emptyExpression 0)
  | _ :: _ =>
    match Parser.parseTier (Parser.fuelFor tokens.length) 1 tokens with
    | .ok expr [] => .ok ⟨expr, []⟩
    | .ok expr (t :: rest) =>
      if lenient then .ok ⟨expr, t :: rest⟩
      else .error (.at (.trailingToken t.text) t.position)
    | .fail fault _ => .error fault
    | .exhausted => .error .ended

/-- The error of a fault, with its place if the source text is known. -/
def ParseFault.toError (source : Option String) : ParseFault → Error
  | .ended => .missingOperand
  | .at cause position => .parse cause (source.map fun s => ⟨s, position⟩)

end Formula
