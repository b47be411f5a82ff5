import Formula.Resolver
import Formula.Surroundings.Comparator
import Formula.Surroundings.Function

/-!
# Formula.Surroundings.Basic

Surroundings of an evaluation that are given as data: a table of variables, functions from a chain
of sources, and a rule for comparisons. What is left out falls back to the defaults, and queries to
it are not part of the trace.
-/

namespace Formula

/-- A table of variables; looking one up may fail with an error of its own. -/
abbrev VariableTable := Bindings (Except Error Value)

def variableValue (table : VariableTable) (name : String) : Except Error Value :=
  match table.get? name with
  | some entry => entry
  | none => .error (.variableNotFound name)

structure Surroundings where
  bindings : Option VariableTable
  functions : Option (Chain FunctionSource)
  comparator : Option ComparatorRule

namespace Surroundings

def consult (functions : Chain FunctionSource) (name : String) (args : List Value) :
    Consultation FunctionSource :=
  functions.consult (FunctionSource.call name args) name

def resolvers (s : Surroundings) : Resolvers where
  var _ name :=
    match s.bindings with
    | some table => variableValue table name
    | none => .error (.variableNotFound name)
  function _ name args :=
    match s.functions with
    | some functions => (consult functions name args).result
    | none => .error (.functionNotFound name)
  compare past left right c :=
    match s.comparator with
    | some rule => rule.apply left right c
    | none => ({} : Resolvers).compare past left right c

/-- A query as the surroundings see it: once for each source that is asked, and not at all if the
defaults answer it. -/
def witnessed (s : Surroundings) (q : Query) : List Query :=
  match q with
  | .var _ => if s.bindings.isSome then [q] else []
  | .comparison _ _ _ => if s.comparator.isSome then [q] else []
  | .function name args =>
    match s.functions with
    | none => []
    | some functions => (consult functions name args).asked.map fun _ => q

def trace (s : Surroundings) (queries : List Query) : List Query :=
  queries.flatMap s.witnessed

end Surroundings
end Formula
