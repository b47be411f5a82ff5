import Formula.Log
import Formula.Text.Blank
import Formula.Text.Lowercase

/-!
# Formula.Options

The engine's one option, which can be set by an environment variable.
-/

namespace Formula

structure Options where
  /-- Whether tokens after a complete expression are ignored instead of refused. -/
  allowTrailingTokens : Bool := false
deriving DecidableEq, Repr

namespace Options

def default : Options := {}

def trailingTokensVariable : String := "EXPREVAL_ALLOW_TRAILING_TOKENS"

def trueWords : List String := ["1", "true", "yes", "on"]

def falseWords : List String := ["0", "false", "no", "off"]

def unknownFlag (name value : String) : LogRecord :=
  ⟨.warning, "expreval.config",
    "Unknown " ++ name ++ " value '" ++ value
      ++ "'. Expected one of: 0, 1, false, no, off, on, true, yes. Using default 'False'."⟩

/-- A flag that is off unless its text, in any case and between any blanks, is a word for true. A
text that is neither that nor a word for false is reported. -/
def flag (name text : String) : Bool × List LogRecord :=
  let value := Text.trim (Text.lowercase text)
  if value = "" then (false, [])
  else if trueWords.contains value then (true, [])
  else if falseWords.contains value then (false, [])
  else (false, [unknownFlag name value])

/-- The options that environment variables set. -/
def ofEnvironment (lookup : String → Option String) : Options × List LogRecord :=
  let (value, records) := flag trailingTokensVariable ((lookup trailingTokensVariable).getD "")
  ({ allowTrailingTokens := value }, records)

end Options
end Formula
