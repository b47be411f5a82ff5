import Formula.Engine
import Formula.Surroundings.Basic

/-!
# Formula.Session

A table of variables and a set of parsed expressions that live through a series of commands.
-/

namespace Formula

/-- What one command may choose for itself. -/
structure Settings where
  functions : Option (Chain FunctionSource)
  comparator : Option ComparatorRule
  target : Target
  options : Options

inductive Command where
  | set (name : String) (entry : Except Error Value)
  | unset (name : String)
  | parse (source key : String)
  | evaluate (source : String) (store : Option String)
  | run (key : String) (store : Option String)

structure Session where
  bindings : VariableTable
  kept : Bindings Expr

inductive Answer where
  | done (changed : Bool)
  | parsed (text : String)
  | failed (e : Error)
  | value (trace : List Query) (result : Except Error Value)
  | unknownKey

namespace Session

/-- Keeps a result under a name, if there is one to keep it under. -/
def keep (s : Session) (store : Option String) (result : Except Error Value) : Session :=
  match store, result with
  | some name, .ok v => { s with bindings := s.bindings.bind name (.ok v) }
  | _, _ => s

def surroundings (s : Session) (settings : Settings) : Surroundings :=
  ⟨some s.bindings, settings.functions, settings.comparator⟩

def step (s : Session) (settings : Settings) : Command → Session × Answer × List LogRecord
  | .set name entry => ({ s with bindings := s.bindings.bind name entry }, .done true, [])
  | .unset name =>
    ({ s with bindings := s.bindings.unbind name }, .done (s.bindings.get? name).isSome, [])
  | .parse source key =>
    match parseSource settings.options source with
    | ⟨records, .ok e⟩ => ({ s with kept := s.kept.bind key e }, .parsed e.print, records)
    | ⟨records, .error e⟩ => (s, .failed e, records)
  | .evaluate source store =>
    let around := s.surroundings settings
    let report := Formula.evaluate settings.options around.resolvers settings.target source
    (s.keep store report.result, .value (around.trace report.queries) report.result,
      report.records)
  | .run key store =>
    match s.kept.get? key with
    | none => (s, .unknownKey, [])
    | some e =>
      let around := s.surroundings settings
      let run := e.evaluate around.resolvers
      (s.keep store run.result, .value (around.trace run.queries) run.result, [])

/-- All answers of a series of commands, with the records written. -/
def perform (s : Session) : List (Settings × Command) → List Answer × List LogRecord
  | [] => ([], [])
  | (settings, command) :: rest =>
    let (next, answer, records) := s.step settings command
    let (answers, later) := next.perform rest
    (answer :: answers, records ++ later)

end Session
end Formula
