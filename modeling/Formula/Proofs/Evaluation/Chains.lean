import Formula.Proofs.Errors.Surroundings

/-!
# Formula.Proofs.Evaluation.Chains

Chains of functions' sources in chains. A consultation that ends without a function is gone on with
by the next one (`Consultation.orElse`), which is associative, so that a chain asks what stands in it
as if the sources stood there without the chains around them (`consultAll_sources`). Asked one after
the other, the sources answer up to the first that does not pass the name on
(`consultAll_settled`), whatever the nesting (`consult_nested`).
-/

namespace Formula

theorem Error.isMissing_functionNotFound (name : String) :
    (functionNotFound name).isMissing name = true :=
  decide_eq_true rfl

namespace Consultation

variable {α : Type} {name : String}

/-- Goes on with a later consultation where the first one ends without a function of this name. -/
def orElse (name : String) (first later : Consultation α) : Consultation α :=
  match first.result with
  | .ok _ => first
  | .error e => if e.isMissing name then ⟨first.asked ++ later.asked, later.result⟩ else first

/-- Nothing was asked, and there is no function. -/
def empty (name : String) : Consultation α := ⟨[], .error (.functionNotFound name)⟩

/-- The consultation ends without a function of this name. -/
def Missing (name : String) (c : Consultation α) : Prop :=
  ∃ e, c.result = .error e ∧ e.isMissing name = true

/-- The same sources were asked, with the same answer or both times with the one that there is no
function of this name. -/
structure Alike (name : String) (c c' : Consultation α) : Prop where
  asked : c.asked = c'.asked
  result : c.result = c'.result ∨ c.Missing name ∧ c'.Missing name

theorem missing_empty : Missing name (empty name : Consultation α) :=
  ⟨_, rfl, Error.isMissing_functionNotFound name⟩

theorem orElse_of_missing {first : Consultation α} (h : first.Missing name)
    (later : Consultation α) :
    first.orElse name later = ⟨first.asked ++ later.asked, later.result⟩ := by
  obtain ⟨e, hresult, he⟩ := h
  rw [orElse, hresult]
  simp only [he, if_true]

theorem orElse_of_not_missing {first : Consultation α} (h : ¬ first.Missing name)
    (later : Consultation α) : first.orElse name later = first := by
  rw [orElse]
  cases hresult : first.result with
  | ok v => rfl
  | error e =>
    have he : ¬ e.isMissing name = true := fun he => h ⟨e, hresult, he⟩
    simp only [he]
    rfl

theorem empty_orElse (later : Consultation α) : (empty name).orElse name later = later :=
  orElse_of_missing missing_empty later

theorem orElse_assoc (first second third : Consultation α) :
    (first.orElse name second).orElse name third =
      first.orElse name (second.orElse name third) := by
  by_cases hfirst : first.Missing name
  · rw [orElse_of_missing hfirst, orElse_of_missing hfirst]
    by_cases hsecond : second.Missing name
    · rw [orElse_of_missing hsecond, orElse_of_missing, List.append_assoc]
      exact hsecond
    · rw [orElse_of_not_missing hsecond, orElse_of_not_missing]
      exact hsecond
  · rw [orElse_of_not_missing hfirst, orElse_of_not_missing hfirst, orElse_of_not_missing hfirst]

/-- After a consultation that has nothing left to ask only the wording of its error may differ. -/
theorem alike_orElse_empty (c : Consultation α) : Alike name (c.orElse name (empty name)) c := by
  by_cases hc : c.Missing name
  · rw [orElse_of_missing hc]
    exact ⟨List.append_nil _, .inr ⟨missing_empty (α := α), hc⟩⟩
  · rw [orElse_of_not_missing hc]
    exact ⟨rfl, .inl rfl⟩

end Consultation

namespace Chain

open Consultation

variable {α : Type} {ask : α → Except Error Value} {name : String}

/-- The source answers that there is no function of this name. -/
def Passes (ask : α → Except Error Value) (name : String) (a : α) : Prop :=
  ∃ e, ask a = .error e ∧ e.isMissing name = true

/-- What comes of asking sources from left to right: those before the first one that does not pass
have been asked, and that one answers; or all have, and there is no function of this name. -/
inductive Settled (ask : α → Except Error Value) (name : String) (sources : List α) :
    Consultation α → Prop where
  | answered {before after : List α} {a : α} : sources = before ++ a :: after →
      (∀ b ∈ before, Passes ask name b) → ¬ Passes ask name a →
      Settled ask name sources ⟨before ++ [a], ask a⟩
  | exhausted : (∀ a ∈ sources, Passes ask name a) →
      Settled ask name sources ⟨sources, .error (.functionNotFound name)⟩

theorem consultAll_nil : consultAll ask name [] = empty name := rfl

theorem consultAll_cons (part : Chain α) (rest : List (Chain α)) :
    consultAll ask name (part :: rest) =
      (consult ask name part).orElse name (consultAll ask name rest) := by
  rw [consultAll]
  rfl

theorem consultAll_append (parts parts' : List (Chain α)) :
    consultAll ask name (parts ++ parts') =
      (consultAll ask name parts).orElse name (consultAll ask name parts') := by
  induction parts with
  | nil => rw [List.nil_append, consultAll_nil, empty_orElse]
  | cons part rest ih =>
    rw [List.cons_append, consultAll_cons, consultAll_cons, ih, orElse_assoc]

mutual

/-- Before something else is asked, a chain may be replaced by the sources in it. -/
theorem consult_orElse (later : Consultation α) : ∀ c : Chain α,
    (consult ask name c).orElse name later =
      (consultAll ask name (c.sources.map source)).orElse name later
  | source a => by
    rw [sources, List.map_singleton, consultAll_cons, orElse_assoc, consultAll_nil, empty_orElse]
  | chain parts => by
    rw [consult, sources, consultAll_sources parts]

/-- A chain asks the sources in it as if no chains stood around them. -/
theorem consultAll_sources : ∀ parts : List (Chain α),
    consultAll ask name parts = consultAll ask name ((sourcesAll parts).map source)
  | [] => rfl
  | part :: rest => by
    rw [consultAll_cons, sourcesAll, List.map_append, consultAll_append, consult_orElse _ part,
      consultAll_sources rest]

end

theorem missing_source_iff (a : α) : (consult ask name (source a)).Missing name ↔ Passes ask name a :=
  Iff.rfl

theorem consultAll_settled (as : List α) :
    Settled ask name as (consultAll ask name (as.map source)) := by
  induction as with
  | nil => exact .exhausted (by simp)
  | cons a rest ih =>
    rw [List.map_cons, consultAll_cons]
    by_cases ha : Passes ask name a
    · rw [orElse_of_missing ((missing_source_iff a).mpr ha)]
      generalize consultAll ask name (rest.map source) = later at ih
      cases ih with
      | @answered before after b hrest hbefore hb =>
        have hsources : a :: rest = (a :: before) ++ b :: after := congrArg (a :: ·) hrest
        exact .answered hsources (List.forall_mem_cons.mpr ⟨ha, hbefore⟩) hb
      | exhausted hrest => exact .exhausted (List.forall_mem_cons.mpr ⟨ha, hrest⟩)
    · rw [orElse_of_not_missing (mt (missing_source_iff a).mp ha)]
      exact .answered (List.nil_append (a :: rest)).symm (by simp) ha

theorem consult_chain_singleton (c : Chain α) :
    consult ask name (chain [c]) = (consult ask name c).orElse name (empty name) :=
  consultAll_cons c []

/-- A chain that is nested in any way asks the sources in it from left to right, up to the first
that does not say that there is no function of this name, and gives the answer of that one as it
is; if there is none, it says so itself. So only the sources and their order matter: where the inner
chains begin and end makes no difference, nor does a chain of nothing. -/
theorem consult_nested (call : String → List Value → α → Except Error Value) (name : String)
    (args : List Value) :
    (∀ a, consult (call name args) name (source a) = ⟨[a], call name args a⟩) ∧
    (∀ parts, Settled (call name args) name (chain parts).sources
      (consult (call name args) name (chain parts))) ∧
    (∀ parts parts', (chain parts).sources = (chain parts').sources →
      consult (call name args) name (chain parts) =
        consult (call name args) name (chain parts')) ∧
    (∀ f g h, consult (call name args) name (chain [chain [f, g], h]) =
      consult (call name args) name (chain [f, chain [g, h]])) ∧
    ∀ f, Alike name (consult (call name args) name (chain [f, chain []]))
        (consult (call name args) name f) ∧
      Alike name (consult (call name args) name (chain [chain [], f]))
        (consult (call name args) name f) := by
  have hsources : ∀ parts parts' : List (Chain α), (chain parts).sources = (chain parts').sources →
      consult (call name args) name (chain parts) =
        consult (call name args) name (chain parts') := by
    intro parts parts' h
    rw [sources, sources] at h
    rw [consult, consult, consultAll_sources parts, consultAll_sources parts', h]
  have hunit : ∀ f, Alike name (consult (call name args) name (chain [f]))
      (consult (call name args) name f) := by
    intro f
    rw [consult_chain_singleton]
    exact alike_orElse_empty _
  refine ⟨fun a => rfl, fun parts => ?_, hsources, fun f g h => ?_, fun f => ⟨?_, ?_⟩⟩
  · rw [sources, consult, consultAll_sources]
    exact consultAll_settled _
  · exact hsources _ _ (by simp [sources, sourcesAll])
  · rw [hsources [f, chain []] [f] (by simp [sources, sourcesAll])]
    exact hunit f
  · rw [hsources [chain [], f] [f] (by simp [sources, sourcesAll])]
    exact hunit f

end Chain
end Formula
