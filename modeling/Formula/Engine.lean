import Formula.Coerce
import Formula.Evaluate
import Formula.Expr.Parse
import Formula.Expr.Print
import Formula.Options
import Formula.Token.Scan

/-!
# Formula.Engine

From source text to result: tokens, expression, value, and the type that was asked for. The first
stage that fails decides the error.
-/

namespace Formula

def ignoredTokens (count : Nat) : LogRecord :=
  ⟨.debug, "expreval.parser", "Ignoring " ++ Decimal.natText count ++ " trailing token(s)"⟩

def parsedSource (source : String) (e : Expr) : LogRecord :=
  ⟨.debug, "expreval.parser", "Parsed " ++ Text.quoted source ++ " into " ++ e.print⟩

def evaluatedSource (source : String) (v : Value) : LogRecord :=
  ⟨.debug, "expreval.evaluator", "Evaluated " ++ Text.quoted source ++ " -> " ++ v.describe⟩

/-- The expression of a list of tokens; the source text is only for the place of an error. -/
def parse (options : Options) (source : Option String) (tokens : List Token) : Logged Expr :=
  match parseTokens options.allowTrailingTokens tokens with
  | .error fault => ⟨[], .error (fault.toError source)⟩
  | .ok ⟨e, []⟩ => ⟨[], .ok e⟩
  | .ok ⟨e, rest⟩ => ⟨[ignoredTokens rest.length], .ok e⟩

def parseSource (options : Options) (source : String) : Logged Expr :=
  match tokenize source with
  | .error e => ⟨[], .error e⟩
  | .ok tokens =>
    match parse options (some source) tokens with
    | ⟨records, .ok e⟩ => ⟨records ++ [parsedSource source e], .ok e⟩
    | failed => failed

/-- A result with everything that was asked and reported on the way to it. -/
structure Report (α : Type) where
  queries : List Query
  records : List LogRecord
  result : Except Error α

/-- The value of a source text, coerced to the target. -/
def evaluate (options : Options) (r : Resolvers) (target : Target) (source : String) :
    Report Value :=
  match parseSource options source with
  | ⟨records, .error e⟩ => ⟨[], records, .error e⟩
  | ⟨records, .ok e⟩ =>
    match e.evaluate r with
    | ⟨queries, .error e⟩ => ⟨queries, records, .error e⟩
    | ⟨queries, .ok v⟩ =>
      match coerce target v with
      | .error e => ⟨queries, records, .error e⟩
      | .ok w => ⟨queries, records ++ [evaluatedSource source w], .ok w⟩

end Formula
