import Formula.Error.Basic

/-!
# Formula.Log

What the engine reports about its work, and results that come with such reports.
-/

namespace Formula

inductive LogLevel where
  | debug
  | warning
deriving DecidableEq, Repr

def LogLevel.name : LogLevel → String
  | debug => "DEBUG"
  | warning => "WARNING"

structure LogRecord where
  level : LogLevel
  logger : String
  message : String
deriving DecidableEq

namespace LogRecord

/-- The record without its level. -/
def line (r : LogRecord) : String := r.logger ++ ": " ++ r.message

def render (r : LogRecord) : String := r.level.name ++ " " ++ r.line

end LogRecord

/-- A result with the records written on the way to it. -/
structure Logged (α : Type) where
  records : List LogRecord
  result : Except Error α

end Formula
