import Formula.Value.Basic

/-!
# Formula.Resolver

What an evaluation asks of its surroundings: the value of a variable, the result of a function, and
a comparison that the built-in rules do not decide. A `Run` keeps the queries in the order in which
they were made beside its result, also when it failed. Surroundings may answer the same query in
another way later on, so a `Task` is a run for each list of queries that were made before it.

Functions may come from several sources. In a `Chain` an earlier source hides later ones; a source
that does not know the name hands over to the next.
-/

namespace Formula

inductive Query where
  | var (name : String)
  | function (name : String) (args : List Value)
  | comparison (left : Value) (op : Comparison) (right : Value)

/-- The surroundings of an evaluation. What they answer may depend on the queries that were made
before. The defaults know no variable, no function and no comparison. -/
structure Resolvers where
  var : List Query → String → Except Error Value := fun _ name => .error (.variableNotFound name)
  function : List Query → String → List Value → Except Error Value := fun _ name _ =>
    .error (.functionNotFound name)
  compare : List Query → Value → Value → Comparison → Except Error Bool := fun _ left right _ =>
    .error (.invalidOperation (.incomparable left.classOf.name right.classOf.name))

/-- A result with the queries that were made for it. -/
structure Run (α : Type) where
  queries : List Query
  result : Except Error α

/-- A run that depends on the queries made before it. -/
def Task (α : Type) : Type := List Query → Run α

namespace Task

def ofResult {α : Type} (result : Except Error α) : Task α := fun _ => ⟨[], result⟩

def pure {α : Type} (a : α) : Task α := ofResult (.ok a)

def fail {α : Type} (e : Error) : Task α := ofResult (.error e)

/-- Goes on with the result, or stops at an error. -/
def andThen {α β : Type} (first : Task α) (next : α → Task β) : Task β := fun past =>
  match first past with
  | ⟨queries, .ok a⟩ =>
    let later := next a (past ++ queries)
    ⟨queries ++ later.queries, later.result⟩
  | ⟨queries, .error e⟩ => ⟨queries, .error e⟩

end Task

namespace Resolvers

def askVar (r : Resolvers) (name : String) : Task Value := fun past =>
  ⟨[.var name], r.var past name⟩

def callFunction (r : Resolvers) (name : String) (args : List Value) : Task Value := fun past =>
  ⟨[.function name args], r.function past name args⟩

def askComparison (r : Resolvers) (left right : Value) (c : Comparison) : Task Bool := fun past =>
  ⟨[.comparison left c right], r.compare past left right c⟩

/-- A call on its own, with no queries before it. -/
def askFunction (r : Resolvers) (name : String) (args : List Value) : Run Value :=
  r.callFunction name args []

end Resolvers

/-- Sources of functions in the order in which they are asked. -/
inductive Chain (α : Type) where
  | source (a : α)
  | chain (parts : List (Chain α))

/-- The sources that were asked, and the answer. -/
structure Consultation (α : Type) where
  asked : List α
  result : Except Error Value

namespace Chain

mutual

/-- Asks the sources of a chain for the function `name`. -/
def consult {α : Type} (ask : α → Except Error Value) (name : String) : Chain α → Consultation α
  | source a => ⟨[a], ask a⟩
  | chain parts => consultAll ask name parts

def consultAll {α : Type} (ask : α → Except Error Value) (name : String) :
    List (Chain α) → Consultation α
  | [] => ⟨[], .error (.functionNotFound name)⟩
  | part :: rest =>
    let first := consult ask name part
    match first.result with
    | .ok _ => first
    | .error e =>
      if e.isMissing name then
        let next := consultAll ask name rest
        ⟨first.asked ++ next.asked, next.result⟩
      else first

end

end Chain
end Formula
