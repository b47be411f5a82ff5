import Mathlib.Data.List.DropRight
import Mathlib.Logic.Relation
import Formula.Cli.Run

/-!
# Formula.Proofs.Cli.Assignments

Variables given on the command line. An item gives a name and a text, which are what stands before
and after its first `=` (`Gives`). A list of items makes a table unless one of them is malformed,
and in the table a name has the value of the last text that is given to it (`assignments_lookup`).
-/

namespace Formula

namespace Text

/-- The second text is the first one without the blanks at its ends. -/
structure Stripped (s t : List Char) : Prop where
  ends : ∃ front back, s = front ++ (t ++ back) ∧ (∀ c ∈ front, isBlank c = true) ∧
    ∀ c ∈ back, isBlank c = true
  head : ∀ c, t.head? = some c → isBlank c = false
  last : ∀ c, t.getLast? = some c → isBlank c = false

theorem rdropWhile_append_of_pos {p : Char → Bool} {s back : List Char}
    (h : ∀ c ∈ back, p c = true) : (s ++ back).rdropWhile p = s.rdropWhile p := by
  have hrev : ∀ c ∈ back.reverse, p c = true := fun c hc => h c (List.mem_reverse.mp hc)
  rw [List.rdropWhile, List.reverse_append, List.dropWhile_append_of_pos hrev, List.rdropWhile]

theorem stripped_dropWhile (s : List Char) :
    Stripped s ((s.dropWhile isBlank).rdropWhile isBlank) where
  ends := ⟨s.takeWhile isBlank, (s.dropWhile isBlank).rtakeWhile isBlank,
    by rw [List.rdropWhile_append_rtakeWhile, List.takeWhile_append_dropWhile],
    fun _ => List.mem_takeWhile_imp, fun _ => List.mem_rtakeWhile_imp⟩
  head c hc := by
    obtain ⟨back, hback⟩ := List.rdropWhile_prefix isBlank (s.dropWhile isBlank)
    have hhead := List.head?_dropWhile_not isBlank s
    rw [← hback, List.head?_append, hc] at hhead
    exact hhead
  last c hc := by
    have hne : (s.dropWhile isBlank).rdropWhile isBlank ≠ [] := by
      rintro hnil
      rw [hnil] at hc
      cases hc
    rw [List.getLast?_eq_some_getLast hne] at hc
    cases hc
    exact Bool.eq_false_iff.mpr (List.rdropWhile_last_not isBlank _ hne)

theorem Stripped.eq {s t : List Char} (h : Stripped s t) :
    t = (s.dropWhile isBlank).rdropWhile isBlank := by
  obtain ⟨front, back, rfl, hfront, hback⟩ := h.ends
  rw [List.dropWhile_append_of_pos hfront]
  cases ht : t with
  | nil =>
    rw [List.nil_append, List.dropWhile_eq_nil_iff.mpr hback, List.rdropWhile_nil]
  | cons c rest =>
    have hhead : ¬ isBlank c = true := by simp [h.head c (by rw [ht]; rfl)]
    rw [List.cons_append, List.dropWhile_cons_of_neg hhead, ← List.cons_append,
      rdropWhile_append_of_pos hback]
    refine (List.rdropWhile_eq_self_iff.mpr fun hne => ?_).symm
    have hlast := h.last _ (by rw [ht]; exact List.getLast?_eq_some_getLast hne)
    simp [hlast]

/-- What trimming leaves. -/
theorem stripped_iff {s t : String} : Stripped s.toList t.toList ↔ t = trim s := by
  have htrim : (trim s).toList = (s.toList.dropWhile isBlank).rdropWhile isBlank :=
    String.toList_ofList
  rw [← String.toList_inj, htrim]
  exact ⟨Stripped.eq, fun h => h ▸ stripped_dropWhile s.toList⟩

end Text

namespace Cli

variable {item item' name name' text text' : String} {items items' before after : List String}
  {table table' other : VariableTable}

/-! ## Items -/

/-- The name and the text that an item gives: what stands before its first `=`, without the blanks
at the ends, and what stands after it. -/
def Gives (item name text : String) : Prop :=
  ∃ before, item.toList = before ++ '=' :: text.toList ∧ '=' ∉ before ∧
    Text.Stripped before name.toList

/-- Whether an item is no assignment: it has no `=`, or a name of less than two characters, or one
that does not start with a sign of a variable. -/
inductive Malformed (item : String) : Prop where
  | unsplit : '=' ∉ item.toList → Malformed item
  | short {name text : String} : Gives item name text → name.length < 2 → Malformed item
  | unsigned {name text : String} : Gives item name text →
      name.toList.head? ≠ some '#' → name.toList.head? ≠ some '$' → Malformed item

theorem ne_equals_of_not_mem {s : List Char} (h : '=' ∉ s) : ∀ c ∈ s, decide (c ≠ '=') = true :=
  fun _ hc => decide_eq_true fun heq => h (heq ▸ hc)

theorem gives_or_unsplit (item : String) :
    '=' ∉ item.toList ∨ ∃ name text, Gives item name text := by
  by_cases h : '=' ∈ item.toList
  · obtain ⟨before, after, hitem, hbefore⟩ := List.eq_append_cons_of_mem h
    refine .inr ⟨Text.trim (String.ofList before), String.ofList after, before, ?_, hbefore, ?_⟩
    · rw [String.toList_ofList, hitem]
    · have hstripped := Text.stripped_iff.mpr (Eq.refl (Text.trim (String.ofList before)))
      rwa [String.toList_ofList] at hstripped
  · exact .inl h

theorem parseAssignment_of_unsplit (h : '=' ∉ item.toList) : parseAssignment item = none := by
  rw [parseAssignment, List.dropWhile_eq_nil_iff.mpr (ne_equals_of_not_mem h)]

theorem parseAssignment_of_gives (h : Gives item name text) : parseAssignment item =
    if isVariableName name.toList then some (name, decodeValue text) else none := by
  obtain ⟨before, hitem, hbefore, hname⟩ := h
  have hpos := ne_equals_of_not_mem hbefore
  have htrim : Text.trim (String.ofList before) = name := by
    refine (Text.stripped_iff.mp ?_).symm
    rwa [String.toList_ofList]
  simp only [parseAssignment, hitem, List.dropWhile_append_of_pos hpos,
    List.takeWhile_append_of_pos hpos, List.dropWhile_cons_of_neg, List.takeWhile_cons_of_neg,
    ne_eq, not_true_eq_false, decide_false, Bool.false_eq_true, not_false_eq_true, List.append_nil,
    htrim, String.ofList_toList]

theorem isVariableName_iff {s : List Char} : isVariableName s = true ↔
    2 ≤ s.length ∧ (s.head? = some '#' ∨ s.head? = some '$') := by
  match s with
  | [] => simp [isVariableName]
  | [c] => simp [isVariableName]
  | sign :: c :: rest => simp [isVariableName]

theorem parseAssignment_eq_none_iff : parseAssignment item = none ↔ Malformed item := by
  constructor
  · intro hnone
    rcases gives_or_unsplit item with hunsplit | ⟨name, text, hgives⟩
    · exact .unsplit hunsplit
    · have hname : ¬ isVariableName name.toList = true := by
        intro hname
        rw [parseAssignment_of_gives hgives, if_pos hname] at hnone
        cases hnone
      rw [isVariableName_iff, not_and_or, not_le, not_or, String.length_toList] at hname
      rcases hname with hshort | ⟨hnumber, hdollar⟩
      · exact .short hgives hshort
      · exact .unsigned hgives hnumber hdollar
  · intro hmalformed
    cases hmalformed with
    | unsplit hunsplit => exact parseAssignment_of_unsplit hunsplit
    | @short name text hgives hshort =>
      have hname : ¬ isVariableName name.toList = true := by
        rw [isVariableName_iff, String.length_toList]
        omega
      rw [parseAssignment_of_gives hgives, if_neg hname]
    | @unsigned name text hgives hnumber hdollar =>
      have hname : ¬ isVariableName name.toList = true := by
        rw [isVariableName_iff]
        rintro ⟨-, h | h⟩
        · exact hnumber h
        · exact hdollar h
      rw [parseAssignment_of_gives hgives, if_neg hname]

theorem parseAssignment_eq_some (h : ¬ Malformed item) (hgives : Gives item name text) :
    parseAssignment item = some (name, decodeValue text) := by
  have hparse := parseAssignment_of_gives hgives
  split at hparse
  · exact hparse
  · exact absurd (parseAssignment_eq_none_iff.mp hparse) h

theorem exists_gives (h : ¬ Malformed item) : ∃ name text, Gives item name text :=
  (gives_or_unsplit item).resolve_left (mt .unsplit h)

/-! ## Tables -/

theorem assignAll_malformed (h : Malformed item) (rest : List String) :
    assignAll table (item :: rest) = .error item := by
  rw [assignAll, parseAssignment_eq_none_iff.mpr h]

/-- One more item binds its name. -/
theorem assignAll_step (h : ¬ Malformed item) (hgives : Gives item name text)
    (rest : List String) : assignAll table (item :: rest) =
      assignAll (table.bind name (.ok (decodeValue text))) rest := by
  rw [assignAll, parseAssignment_eq_some h hgives]

/-- What makes a table starts with an item that binds its name. -/
theorem assignAll_cons_eq_ok {rest : List String}
    (h : assignAll table (item :: rest) = .ok table') :
    ∃ name text, ¬ Malformed item ∧ Gives item name text ∧
      assignAll (table.bind name (.ok (decodeValue text))) rest = .ok table' := by
  have hitem : ¬ Malformed item := by
    intro hitem
    rw [assignAll_malformed hitem] at h
    cases h
  obtain ⟨name, text, hgives⟩ := exists_gives hitem
  exact ⟨name, text, hitem, hgives, (assignAll_step hitem hgives rest).symm.trans h⟩

theorem assignAll_append (h : assignAll table before = .ok table') (rest : List String) :
    assignAll table (before ++ rest) = assignAll table' rest := by
  induction before generalizing table with
  | nil =>
    cases h
    rfl
  | cons item before ih =>
    obtain ⟨name, text, hitem, hgives, hbefore⟩ := assignAll_cons_eq_ok h
    rw [List.cons_append, assignAll_step hitem hgives, ih hbefore]

theorem not_malformed_of_ok (h : assignAll table items = .ok table') :
    ∀ item ∈ items, ¬ Malformed item := by
  induction items generalizing table with
  | nil => simp
  | cons item rest ih =>
    obtain ⟨name, text, hitem, -, hrest⟩ := assignAll_cons_eq_ok h
    exact List.forall_mem_cons.mpr ⟨hitem, ih hrest⟩

/-- Items of which none is malformed make a table. -/
theorem exists_assignAll (h : ∀ item ∈ items, ¬ Malformed item) (table : VariableTable) :
    ∃ table', assignAll table items = .ok table' := by
  induction items generalizing table with
  | nil => exact ⟨table, rfl⟩
  | cons item rest ih =>
    obtain ⟨hitem, hrest⟩ := List.forall_mem_cons.mp h
    obtain ⟨name, text, hgives⟩ := exists_gives hitem
    rw [assignAll_step hitem hgives]
    exact ih hrest _

/-- The first malformed item is the error. -/
theorem assignAll_eq_error_iff : assignAll table items = .error item ↔
    ∃ before after, items = before ++ item :: after ∧ (∀ i ∈ before, ¬ Malformed i) ∧
      Malformed item := by
  constructor
  · intro h
    induction items generalizing table with
    | nil => cases h
    | cons first rest ih =>
      by_cases hfirst : Malformed first
      · rw [assignAll_malformed hfirst] at h
        cases h
        exact ⟨[], rest, rfl, by simp, hfirst⟩
      · obtain ⟨name, text, hgives⟩ := exists_gives hfirst
        rw [assignAll_step hfirst hgives] at h
        obtain ⟨before, after, rfl, hbefore, hitem⟩ := ih h
        exact ⟨first :: before, after, rfl, List.forall_mem_cons.mpr ⟨hfirst, hbefore⟩, hitem⟩
  · rintro ⟨before, after, rfl, hbefore, hitem⟩
    obtain ⟨table', htable'⟩ := exists_assignAll hbefore table
    rw [assignAll_append htable', assignAll_malformed hitem]

/-! ## Lookups -/

/-- No item gives the name. -/
def Unnamed (items : List String) (name : String) : Prop :=
  ∀ item ∈ items, ∀ text, ¬ Gives item name text

/-- The last item that gives the name gives it with this text. -/
def GivenLast (items : List String) (name text : String) : Prop :=
  ∃ before item after, items = before ++ item :: after ∧ Gives item name text ∧ Unnamed after name

theorem unnamed_or_givenLast (items : List String) (name : String) :
    Unnamed items name ∨ ∃ text, GivenLast items name text := by
  induction items with
  | nil => exact .inl (by simp [Unnamed])
  | cons item rest ih =>
    rcases ih with hrest | ⟨text, before, last, after, rfl, hlast, hafter⟩
    · by_cases hitem : ∃ text, Gives item name text
      · obtain ⟨text, hgives⟩ := hitem
        exact .inr ⟨text, [], item, rest, rfl, hgives, hrest⟩
      · exact .inl (List.forall_mem_cons.mpr ⟨not_exists.mp hitem, hrest⟩)
    · exact .inr ⟨text, item :: before, last, after, rfl, hlast, hafter⟩

theorem get?_of_unnamed (h : assignAll table items = .ok table') (hname : Unnamed items name) :
    table'.get? name = table.get? name := by
  induction items generalizing table with
  | nil =>
    cases h
    rfl
  | cons item rest ih =>
    obtain ⟨hitem, hrest⟩ := List.forall_mem_cons.mp hname
    obtain ⟨name', text, -, hgives, htable⟩ := assignAll_cons_eq_ok h
    have hne : name ≠ name' := by
      rintro rfl
      exact hitem text hgives
    rw [ih htable hrest, Bindings.get?_bind, if_neg hne]

theorem get?_of_givenLast (h : assignAll table items = .ok table')
    (hlast : GivenLast items name text) : table'.get? name = some (.ok (decodeValue text)) := by
  obtain ⟨before, item, after, rfl, hgives, hafter⟩ := hlast
  have hproper := not_malformed_of_ok h
  obtain ⟨middle, hmiddle⟩ :=
    exists_assignAll (fun i hi => hproper i (List.mem_append_left _ hi)) table
  rw [assignAll_append hmiddle, assignAll_step (hproper item (by simp)) hgives] at h
  rw [get?_of_unnamed h hafter, Bindings.get?_bind, if_pos rfl]

/-! ## The order of the items -/

/-- Two lists of items that differ in the order of two neighbours with different names. -/
inductive Swapped : List String → List String → Prop where
  | swap (before after : List String) {item item' : String} :
      (∀ name text text', Gives item name text → ¬ Gives item' name text') →
      Swapped (before ++ item :: item' :: after) (before ++ item' :: item :: after)

/-- Two tables in which every name has the same value. -/
def Agree (table table' : VariableTable) : Prop :=
  ∀ name, table.get? name = table'.get? name

theorem Agree.bind (h : Agree table other) (name : String) (entry : Except Error Value) :
    Agree (table.bind name entry) (other.bind name entry) := by
  intro n
  rw [Bindings.get?_bind, Bindings.get?_bind, h n]

theorem agree_bind_comm (h : name ≠ name') (entry entry' : Except Error Value) :
    Agree ((table.bind name entry).bind name' entry')
      ((table.bind name' entry').bind name entry) := by
  intro n
  simp only [Bindings.get?_bind]
  by_cases hn : n = name
  · subst hn
    rw [if_neg h, if_pos rfl, if_pos rfl]
  · rw [if_neg hn, if_neg hn]

theorem assignAll_agree (hagree : Agree table other) (h : assignAll table items = .ok table') :
    ∃ other', assignAll other items = .ok other' ∧ Agree table' other' := by
  induction items generalizing table other with
  | nil =>
    cases h
    exact ⟨other, rfl, hagree⟩
  | cons item rest ih =>
    obtain ⟨name, text, hitem, hgives, hrest⟩ := assignAll_cons_eq_ok h
    rw [assignAll_step hitem hgives]
    exact ih (hagree.bind name _) hrest

theorem Swapped.agree (hswapped : Swapped items items') (h : assignAll table items = .ok table') :
    ∃ other', assignAll table items' = .ok other' ∧ Agree table' other' := by
  obtain @⟨before, after, item, item', hdistinct⟩ := hswapped
  have hproper := not_malformed_of_ok h
  have hitem := hproper item (by simp)
  have hitem' := hproper item' (by simp)
  obtain ⟨name, text, hgives⟩ := exists_gives hitem
  obtain ⟨name', text', hgives'⟩ := exists_gives hitem'
  have hne : name ≠ name' := by
    rintro rfl
    exact hdistinct name text text' hgives hgives'
  obtain ⟨middle, hmiddle⟩ :=
    exists_assignAll (fun i hi => hproper i (List.mem_append_left _ hi)) table
  rw [assignAll_append hmiddle, assignAll_step hitem hgives, assignAll_step hitem' hgives'] at h
  rw [assignAll_append hmiddle, assignAll_step hitem' hgives', assignAll_step hitem hgives]
  exact assignAll_agree (agree_bind_comm hne _ _) h

theorem reordered_agree (hreordered : Relation.ReflTransGen Swapped items items')
    (h : assignAll table items = .ok table') :
    ∃ other', assignAll table items' = .ok other' ∧ Agree table' other' := by
  induction hreordered with
  | refl => exact ⟨table', h, fun _ => rfl⟩
  | tail _ hswapped ih =>
    obtain ⟨middle, hmiddle, hagree⟩ := ih
    obtain ⟨other', hother', hagree'⟩ := hswapped.agree hmiddle
    exact ⟨other', hother', fun name => (hagree name).trans (hagree' name)⟩

/-! ## Evaluation -/

variable {lookup : String → Option String} {verbose : Bool} {e : Evaluation}

/-- The surroundings of an evaluation with a table of variables. -/
def surroundingsOf (e : Evaluation) (table : VariableTable) : Surroundings :=
  ⟨some table, if e.library then some (.source .library) else none, none⟩

/-- How an evaluation ends in some surroundings. -/
def outcomeIn (r : Resolvers) (lookup : String → Option String) (verbose : Bool)
    (e : Evaluation) : Outcome :=
  let (options, warnings) := optionsOf lookup e
  let report := Formula.evaluate options r (.named e.target.name) e.expression
  finish verbose (warnings ++ report.records) (report.result.map fun v => outputLine v.display)

theorem runEvaluation_of_ok (h : parseAssignments e.assignments = .ok table) :
    runEvaluation lookup verbose e =
      outcomeIn (surroundingsOf e table).resolvers lookup verbose e := by
  rw [runEvaluation, h]
  rfl

theorem Agree.resolvers (h : Agree table table') (e : Evaluation) :
    (surroundingsOf e table).resolvers = (surroundingsOf e table').resolvers := by
  have hvalue : variableValue table = variableValue table' := by
    funext name
    rw [variableValue, variableValue, h name]
  simp only [Surroundings.resolvers, surroundingsOf, hvalue]

theorem runEvaluation_reordered (h : parseAssignments e.assignments = .ok table)
    (hreordered : Relation.ReflTransGen Swapped e.assignments items) :
    runEvaluation lookup verbose { e with assignments := items } =
      runEvaluation lookup verbose e := by
  obtain ⟨other, hother, hagree⟩ := reordered_agree hreordered h
  have hitems : parseAssignments { e with assignments := items }.assignments = .ok other := hother
  rw [runEvaluation_of_ok h, hagree.resolvers e]
  exact runEvaluation_of_ok hitems

/-- The value of a text: the one that it is JSON of, or the text itself. -/
inductive Decodes (text : String) : Value → Prop where
  | json {v : Value} : Json.decode text = some v → Decodes text v
  | raw : Json.decode text = none → Decodes text (.string text)

theorem decodes_decodeValue (text : String) : Decodes text (decodeValue text) := by
  rw [decodeValue]
  cases h : Json.decode text with
  | none => exact .raw h
  | some v => exact .json h

/-- The items of a command line are refused exactly if one of them is malformed, and the first such
item is reported. Otherwise an evaluation looks up a name as the last text that an item gives it,
decoded, and finds no variable exactly if no item gives the name. Items with different names may
stand in any order. -/
theorem assignments_lookup (lookup : String → Option String) (verbose : Bool) (e : Evaluation) :
    ((∃ item, parseAssignments e.assignments = .error item) ↔
      ∃ item ∈ e.assignments, Malformed item) ∧
    (∀ item, parseAssignments e.assignments = .error item →
      (∃ before after, e.assignments = before ++ item :: after ∧
        (∀ i ∈ before, ¬ Malformed i) ∧ Malformed item) ∧
      runEvaluation lookup verbose e = .usage (some (malformedAssignment item))) ∧
    ∀ table, parseAssignments e.assignments = .ok table →
      runEvaluation lookup verbose e =
        outcomeIn (surroundingsOf e table).resolvers lookup verbose e ∧
      (∀ past name,
        (∀ text, GivenLast e.assignments name text →
          ∃ v, (surroundingsOf e table).resolvers.var past name = .ok v ∧ Decodes text v) ∧
        ((surroundingsOf e table).resolvers.var past name = .error (.variableNotFound name) ↔
          Unnamed e.assignments name)) ∧
      ∀ items, Relation.ReflTransGen Swapped e.assignments items →
        runEvaluation lookup verbose { e with assignments := items } =
          runEvaluation lookup verbose e := by
  refine ⟨⟨?_, ?_⟩, fun item h => ⟨assignAll_eq_error_iff.mp h, ?_⟩,
    fun table h => ⟨runEvaluation_of_ok h, fun past name => ⟨?_, ?_⟩, fun items hreordered =>
      runEvaluation_reordered h hreordered⟩⟩
  · rintro ⟨item, h⟩
    obtain ⟨before, after, hitems, -, hitem⟩ := assignAll_eq_error_iff.mp h
    exact ⟨item, by rw [hitems]; simp, hitem⟩
  · rintro ⟨item, hmem, hitem⟩
    cases h : parseAssignments e.assignments with
    | ok table => exact absurd hitem (not_malformed_of_ok h item hmem)
    | error first => exact ⟨first, rfl⟩
  · rw [runEvaluation, h]
  · intro text hlast
    refine ⟨decodeValue text, ?_, decodes_decodeValue text⟩
    show variableValue table name = _
    rw [variableValue, get?_of_givenLast h hlast]
  · show variableValue table name = _ ↔ _
    rcases unnamed_or_givenLast e.assignments name with hunnamed | ⟨text, hlast⟩
    · rw [variableValue, get?_of_unnamed h hunnamed, Bindings.get?_nil]
      exact iff_of_true rfl hunnamed
    · rw [variableValue, get?_of_givenLast h hlast]
      refine iff_of_false (fun heq => nomatch heq) fun hunnamed => ?_
      obtain ⟨before, item, after, hitems, hgives, -⟩ := hlast
      exact hunnamed item (by rw [hitems]; simp) text hgives

end Cli
end Formula
