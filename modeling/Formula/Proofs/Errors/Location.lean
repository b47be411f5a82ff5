import Mathlib.Data.List.Induction
import Formula.Proofs.Grammar.Refusal
import Formula.Proofs.Grammar.Lenient
import Formula.Proofs.Scanning.Faults
import Formula.Proofs.Decimal.Value

/-!
# Formula.Proofs.Errors.Location

Places of errors. The text before a position consists of whole lines and of the beginning of one
more (`Broken`); their numbers are the line and the column, and from these the position is found
again (`Location.position_eq`). The snippet is split into its lines (`Location.splitOn_render`), of
which the last has the caret as far on as the line before it has its margin and the beginning
(`Location.indent_eq`). A parse error names the place of a token or the end of the text
(`parseSource_position`). All of it together is `location_exact`.
-/

namespace Formula

/-! ## Lines -/

section Lines

theorem lines_eq_splitOn (s : List Char) : Text.lines s = s.splitOn '\n' := by
  rw [Text.lines]
  induction s with
  | nil => rfl
  | cons c rest ih =>
    rw [Text.linesBy, ih, List.splitOn_cons_eq_if_modifyHead]
    by_cases hc : c = '\n'
    · simp [hc]
    · have hne : (c == '\n') = false := by simpa using hc
      cases hrest : rest.splitOn '\n' with
      | nil => exact absurd hrest (List.splitOn_ne_nil '\n' rest)
      | cons first others => simp [hc, hne]

theorem splitOn_append_newline (cs ds : List Char) :
    (cs ++ '\n' :: ds).splitOn '\n' = cs.splitOn '\n' ++ ds.splitOn '\n' := by
  simp only [List.splitOn_eq_splitOnP]
  exact List.splitOnP_append_cons cs ds (by decide)

theorem length_splitOn (cs : List Char) : (cs.splitOn '\n').length = cs.count '\n' + 1 := by
  induction cs with
  | nil => rfl
  | cons c rest ih =>
    rw [List.splitOn_cons_eq_if_modifyHead, List.count_cons]
    by_cases hc : (c == '\n') = true
    · simp [hc, ih]
    · simp [hc, ih]

/-- The line that a text without a newline begins. -/
theorem splitOn_of_not_mem {cur : List Char} (hcur : '\n' ∉ cur) (after : List Char) :
    ∃ others, (cur ++ after).splitOn '\n' = (cur ++ after.takeWhile (· ≠ '\n')) :: others := by
  have hline : ∀ c ∈ cur ++ after.takeWhile (· ≠ '\n'), (c == '\n') = false := by
    intro c hc
    rcases List.mem_append.mp hc with hc | hc
    · exact beq_false_of_ne fun h => hcur (h ▸ hc)
    · simpa using List.mem_takeWhile_imp hc
  have hcut : cur ++ after = (cur ++ after.takeWhile (· ≠ '\n')) ++ after.dropWhile (· ≠ '\n') := by
    rw [List.append_assoc, List.takeWhile_append_dropWhile]
  rw [hcut, List.splitOn_eq_splitOnP]
  cases hrest : after.dropWhile (· ≠ '\n') with
  | nil => exact ⟨[], by rw [List.append_nil, List.splitOnP_eq_singleton hline]⟩
  | cons d more =>
    have hd : (d == '\n') = true := by
      have hhead := List.head?_dropWhile_not (· ≠ '\n') after
      rw [hrest] at hhead
      simpa using hhead
    exact ⟨_, List.splitOnP_append_cons_of_forall_mem hline d hd more⟩

/-- A text as the lines that it completes and the beginning of one more. -/
structure Broken (before : List Char) (whole : List (List Char)) (begun : List Char) : Prop where
  not_mem : '\n' ∉ begun
  reverse : before.reverse.takeWhile (· ≠ '\n') = begun.reverse
  count : before.count '\n' = whole.length
  length : (whole.map List.length).sum + whole.length + begun.length = before.length
  lines : ∀ after, (before ++ after).splitOn '\n' = whole ++ (begun ++ after).splitOn '\n'

theorem exists_broken (before : List Char) : ∃ whole begun, Broken before whole begun := by
  -- From the left to the right, since each newline closes the line that is begun.
  induction before using List.reverseRecOn with
  | nil => exact ⟨[], [], by simp, rfl, rfl, rfl, fun _ => rfl⟩
  | append_singleton before c ih =>
    obtain ⟨whole, begun, hnot, hbegun, hcount, hlength, hlines⟩ := ih
    by_cases hc : c = '\n'
    · subst hc
      refine ⟨whole ++ [begun], [], by simp, by simp, by simp [hcount], ?_, fun after => ?_⟩
      · simp
        omega
      · have hwhole := hlines []
        rw [List.append_nil, List.append_nil, List.splitOn_eq_singleton hnot] at hwhole
        rw [List.append_assoc, List.singleton_append, splitOn_append_newline, hwhole]
        rfl
    · refine ⟨whole, begun ++ [c], by simp [hnot, Ne.symm hc], ?_, ?_, ?_, fun after => ?_⟩
      · simpa [hc] using hbegun
      · simp [hc, hcount]
      · simp
        omega
      · rw [List.append_assoc, hlines, List.append_assoc]

end Lines

/-! ## Lines and columns -/

namespace Location

variable {l : Location} {whole : List (List Char)} {begun : List Char}

theorem line_of_broken (h : Broken l.before whole begun) : l.line = whole.length + 1 := by
  rw [line, h.count]

theorem lineStart_of_broken (h : Broken l.before whole begun) :
    l.lineStart = (whole.map List.length).sum + whole.length := by
  rw [lineStart, h.reverse, List.length_reverse, ← h.length]
  omega

/-- A position in the text or at its end. -/
def Inside (l : Location) : Prop :=
  0 ≤ l.position ∧ l.position ≤ l.source.length

theorem position_eq_length (h : l.Inside) : l.position = l.before.length := by
  obtain ⟨hlow, hhigh⟩ := h
  rw [← String.length_toList] at hhigh
  rw [before, cut, if_neg (by omega), List.length_take]
  omega

theorem column_of_broken (hl : l.Inside) (h : Broken l.before whole begun) :
    l.column = begun.length + 1 := by
  have hlength := h.length
  rw [column, position_eq_length hl, lineStart_of_broken h]
  omega

/-- The line of a position goes on to the next newline. -/
theorem exists_line (h : Broken l.before whole begun) :
    ∃ others, l.source.toList.splitOn '\n' =
      whole ++ (begun ++ (l.source.toList.drop l.before.length).takeWhile (· ≠ '\n')) :: others := by
  have hcut : l.source.toList = l.before ++ l.source.toList.drop l.before.length := by
    rw [before, List.length_take, ← List.drop_eq_drop_min, List.take_append_drop]
  obtain ⟨others, hothers⟩ := splitOn_of_not_mem h.not_mem (l.source.toList.drop l.before.length)
  refine ⟨others, ?_⟩
  conv => lhs; rw [hcut, h.lines, hothers]

theorem lineText_of_broken (h : Broken l.before whole begun) :
    l.lineText = begun ++ (l.source.toList.drop l.before.length).takeWhile (· ≠ '\n') := by
  obtain ⟨others, hothers⟩ := exists_line h
  rw [lineText, lines_eq_splitOn, hothers, line_of_broken h, Nat.add_sub_cancel,
    List.getElem?_append_right (Nat.le_refl _), Nat.sub_self]
  rfl

theorem newline_not_mem_lineText (l : Location) : '\n' ∉ l.lineText := by
  obtain ⟨whole, begun, h⟩ := exists_broken l.before
  rw [lineText_of_broken h, List.mem_append, not_or]
  exact ⟨h.not_mem, fun hmem => by simpa using List.mem_takeWhile_imp hmem⟩

theorem line_le (l : Location) : l.line ≤ (l.source.toList.splitOn '\n').length := by
  rw [line, length_splitOn]
  exact Nat.succ_le_succ ((List.take_sublist _ _).count_le '\n')

theorem getElem?_line (l : Location) :
    (l.source.toList.splitOn '\n')[l.line - 1]? = some l.lineText := by
  have hlt : l.line - 1 < (l.source.toList.splitOn '\n').length := by
    have hle := line_le l
    have hpos : 0 < l.line := Nat.succ_pos _
    omega
  rw [lineText, lines_eq_splitOn, List.getElem?_eq_getElem hlt]

/-! ## Snippets -/

theorem newline_not_mem_natDigits (n : Nat) : '\n' ∉ Decimal.natDigits n := by
  intro hmem
  obtain ⟨d, hd, heq⟩ := Decimal.allDigits_natDigits n _ hmem
  have hall : ∀ i : Fin 10, '\n' ≠ Decimal.digitChar i := by decide
  exact hall ⟨d, hd⟩ heq

theorem newline_not_mem_intDigits (n : Int) : '\n' ∉ Decimal.intDigits n := by
  rw [Decimal.intDigits]
  split <;> simp [newline_not_mem_natDigits]

theorem newline_not_mem_margin (l : Location) : '\n' ∉ l.margin := by
  simp [margin, newline_not_mem_natDigits]

/-- The line and the column of a place as a snippet names them. -/
def header (l : Location) : List Char :=
  ("line " ++ Decimal.natText l.line ++ ", column " ++ Decimal.intText l.column).toList

theorem newline_not_mem_header (l : Location) : '\n' ∉ l.header := by
  simp [header, Decimal.natText, Decimal.intText, newline_not_mem_natDigits,
    newline_not_mem_intDigits]

/-- A snippet has three lines. -/
theorem splitOn_render (l : Location) :
    l.render.toList.splitOn '\n' =
      [l.header, l.margin ++ l.lineText, List.replicate l.indent ' ' ++ ['^']] := by
  have hrender : l.render.toList = l.header ++ '\n' ::
      ((l.margin ++ l.lineText) ++ '\n' :: (List.replicate l.indent ' ' ++ ['^'])) := by
    simp [render, header]
  have htext : '\n' ∉ l.margin ++ l.lineText := by
    simp [newline_not_mem_margin, newline_not_mem_lineText]
  have hcaret : '\n' ∉ List.replicate l.indent ' ' ++ ['^'] := by simp
  rw [hrender, splitOn_append_newline, splitOn_append_newline,
    List.splitOn_eq_singleton l.newline_not_mem_header, List.splitOn_eq_singleton htext,
    List.splitOn_eq_singleton hcaret]
  rfl

/-- The position is found again from the line and the column. -/
theorem position_eq (hl : l.Inside) :
    (((l.source.toList.splitOn '\n').take (l.line - 1)).map List.length).sum + (l.line - 1 : Nat) +
      (l.column - 1) = l.position := by
  obtain ⟨whole, begun, h⟩ := exists_broken l.before
  obtain ⟨others, hothers⟩ := exists_line h
  rw [hothers, line_of_broken h, column_of_broken hl h, Nat.add_sub_cancel,
    List.take_left, position_eq_length hl, ← h.length]
  push_cast
  omega

/-- The caret stands below the character at the position, or below the end of its line. -/
theorem indent_eq (hl : l.Inside) :
    ∃ j : Nat, (j : Int) = l.column - 1 ∧ l.indent = l.margin.length + j ∧ j ≤ l.lineText.length ∧
      l.lineText[j]? = l.source.toList[l.position.toNat]?.filter (· ≠ '\n') := by
  obtain ⟨whole, begun, h⟩ := exists_broken l.before
  have hcolumn := column_of_broken hl h
  have hposition : l.position.toNat = l.before.length := by
    rw [position_eq_length hl, Int.toNat_natCast]
  refine ⟨begun.length, by omega, ?_, ?_, ?_⟩
  · rw [indent, hcolumn]
    omega
  · rw [lineText_of_broken h, List.length_append]
    exact Nat.le_add_right _ _
  · rw [lineText_of_broken h, List.getElem?_append_right (Nat.le_refl _), Nat.sub_self,
      ← List.head?_eq_getElem?, List.head?_takeWhile, List.head?_drop, hposition]

end Location

/-! ## Places of parse errors -/

/-- What is refused with trailing tokens allowed is refused without, for the same fault. -/
theorem parseTokens_strict_of_error {lenient : Bool} {tokens : List Token} {fault : ParseFault}
    (h : parseTokens lenient tokens = .error fault) : parseTokens false tokens = .error fault := by
  by_cases hsplit : ∃ p e rest, Split tokens p e rest
  · obtain ⟨p, e, rest, hp⟩ := hsplit
    cases lenient with
    | false => exact h
    | true => cases (parseTokens_lenient_of_split hp).symm.trans h
  · obtain ⟨fault', hfault⟩ := parseTokens_of_no_split hsplit
    rw [hfault false, ← hfault lenient, h]

/-- Tokens are refused at the start of one of them, unless there are none. -/
theorem position_of_fault {lenient : Bool} {tokens : List Token} {cause : SyntaxFault} {p : Nat}
    (h : parseTokens lenient tokens = .error (.at cause p)) :
    p = 0 ∨ ∃ t ∈ tokens, p = t.position := by
  by_cases hne : tokens = []
  · subst hne
    cases h
    exact .inl rfl
  · rcases fault_of_refusal hne (parseTokens_strict_of_error h) with ⟨hended, -⟩ | hat
    · cases hended
    · obtain ⟨cause', i, t, hfault, ht, -⟩ := hat
      cases hfault
      exact .inr ⟨t, List.mem_of_getElem? ht, rfl⟩

theorem position_of_tokenize {source : String} {e : Error} (h : tokenize source = .error e) :
    ∃ cause, ∃ p : Nat, e = .parse cause (some ⟨source, p⟩) ∧ p < source.length := by
  unfold tokenize at h
  split at h
  · cases h
  · rename_i cause p hfailure
    cases h
    have hscan : scanFrom 0 false source.toList = ⟨(scan source).tokens, some (cause, p)⟩ := by
      rw [← hfailure]
      rfl
    obtain ⟨before, c, rest, hsource, rfl, -⟩ := scanFrom_failure hscan
    refine ⟨cause, 0 + before.length, rfl, ?_⟩
    rw [← String.length_toList, hsource]
    simp

/-- A parse error of a source text has a place in it. -/
theorem parseSource_position {options : Options} {source : String} {e : Error}
    (h : (parseSource options source).result = .error e) (hkind : e.kind? = some .parse) :
    ∃ cause, ∃ p : Nat, e = .parse cause (some ⟨source, p⟩) ∧ p ≤ source.length := by
  cases htokens : tokenize source with
  | error e' =>
    simp only [parseSource, htokens] at h
    cases h
    obtain ⟨cause, p, rfl, hp⟩ := position_of_tokenize htokens
    exact ⟨cause, p, rfl, Nat.le_of_lt hp⟩
  | ok tokens =>
    rw [parseSource_of_tokenize htokens] at h
    cases hparse : parseTokens options.allowTrailingTokens tokens with
    | ok parsed => cases (parse_of_ok options (some source) hparse).symm.trans h
    | error fault =>
      cases (parse_of_error options (some source) hparse).symm.trans h
      cases fault with
      | ended => cases hkind
      | «at» cause p =>
        refine ⟨cause, p, rfl, ?_⟩
        rcases position_of_fault hparse with rfl | ⟨t, ht, rfl⟩
        · exact Nat.zero_le _
        · have hscan := scan_of_tokenize htokens
          have hlaid : Laid 0 source.toList (scan source).tokens :=
            laid_of_scanFrom (congrArg Scan.failure hscan)
          rw [hscan] at hlaid
          have hend := hlaid.le_end t ht
          rw [Nat.zero_add, String.length_toList] at hend
          exact Nat.le_of_add_right_le hend

/-- From the line and the column of a position in a text, or of its end, the position is found
again, so that no two positions have the same. In the snippet the caret stands below the character
at the position, or below the end of its line if that is a newline or the end of the text. Even of a
position outside the text the line is one of the text. The parse errors of a text have their
places in it. -/
theorem location_exact (source : String) :
    (∀ p : Nat, p ≤ source.length →
      let l : Location := ⟨source, p⟩
      1 ≤ l.column ∧
      (((source.toList.splitOn '\n').take (l.line - 1)).map List.length).sum + (l.line - 1 : Nat) +
        (l.column - 1) = p) ∧
    (∀ p q : Nat, p ≤ source.length → q ≤ source.length →
      (⟨source, p⟩ : Location).line = (⟨source, q⟩ : Location).line →
      (⟨source, p⟩ : Location).column = (⟨source, q⟩ : Location).column → p = q) ∧
    (∀ p : Nat, p ≤ source.length →
      let l : Location := ⟨source, p⟩
      ∃ (text : List Char) (j : Nat), (source.toList.splitOn '\n')[l.line - 1]? = some text ∧
        (j : Int) = l.column - 1 ∧
        l.render.toList.splitOn '\n' =
          [l.header, l.margin ++ text, List.replicate (l.margin.length + j) ' ' ++ ['^']] ∧
        j ≤ text.length ∧ text[j]? = source.toList[p]?.filter (· ≠ '\n')) ∧
    (∀ p : Int,
      let l : Location := ⟨source, p⟩
      1 ≤ l.line ∧ l.line ≤ (source.toList.splitOn '\n').length ∧
      (source.toList.splitOn '\n')[l.line - 1]? = some l.lineText) ∧
    ∀ (options : Options) (e : Error), (parseSource options source).result = .error e →
      e.kind? = some .parse → ∃ p : Nat, e.location? = some ⟨source, p⟩ ∧ p ≤ source.length := by
  have hinside (p : Nat) (hp : p ≤ source.length) : Location.Inside ⟨source, p⟩ :=
    ⟨Int.natCast_nonneg p, Int.ofNat_le.mpr hp⟩
  refine ⟨fun p hp => ?_, fun p q hp hq hline hcolumn => ?_, fun p hp => ?_, fun p => ?_,
    fun options e h hkind => ?_⟩
  · obtain ⟨j, hj, -⟩ := Location.indent_eq (hinside p hp)
    exact ⟨by omega, Location.position_eq (hinside p hp)⟩
  · have hleft := Location.position_eq (hinside p hp)
    rw [hline, hcolumn] at hleft
    exact Int.ofNat.inj (hleft.symm.trans (Location.position_eq (hinside q hq)))
  · intro l
    obtain ⟨j, hj, hindent, hle, hchar⟩ := Location.indent_eq (hinside p hp)
    refine ⟨l.lineText, j, l.getElem?_line, hj, ?_, hle, hchar⟩
    rw [l.splitOn_render, hindent]
  · intro l
    exact ⟨Nat.succ_pos _, l.line_le, l.getElem?_line⟩
  · obtain ⟨cause, p, rfl, hp⟩ := parseSource_position h hkind
    exact ⟨p, rfl, hp⟩

end Formula
