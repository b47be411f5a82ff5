import Mathlib.Data.List.DropRight
import Formula.Proofs.Scanning.Faults

/-!
# Formula.Proofs.Scanning.Subtraction

A minus after an operand subtracts, with or without layout around it. A text that is read to its end
can be cut between any two of its tokens (`scanFrom_append`), and texts can be put together where
the last token of the first does not go on in the second (`Spaced.append`). No operand goes on with
a minus and a minus after an operand goes on with nothing, so the layout around it can be replaced
(`tokenize_minus`).
-/

namespace Formula

/-- The kinds of tokens that an operand can end with. -/
def operandEndings : List TokenKind :=
  [.number, .string, .boolean, .var, .rparen, .rbracket]

theorem endsOperand_iff_mem (k : TokenKind) : k.endsOperand = true ↔ k ∈ operandEndings := by
  cases k <;> decide

/-- A text with other layout on both sides of the character at a position. -/
def respaced (source : String) (position : Nat) (left right : String) : String :=
  String.ofList
    ((source.toList.take position).rdropWhile isLayout ++ left.toList ++
      (source.toList.drop position).take 1 ++ right.toList ++
      (source.toList.drop (position + 1)).dropWhile isLayout)

/-! ## Cutting a text between tokens -/

/-- Nothing or a text whose last character is no layout. -/
def Trimmed (cs : List Char) : Prop :=
  ∀ c, cs.getLast? = some c → isLayout c = false

theorem Trimmed.append {cs ds : List Char} (hcs : Trimmed cs) (hds : Trimmed ds) :
    Trimmed (cs ++ ds) := by
  intro c hc
  rw [List.getLast?_append, Option.or_eq_some_iff] at hc
  rcases hc with hc | ⟨-, hc⟩
  · exact hds c hc
  · exact hcs c hc

theorem Trimmed.rdropWhile_append {cs gap : List Char} (hcs : Trimmed cs)
    (hgap : ∀ c ∈ gap, isLayout c = true) : (cs ++ gap).rdropWhile isLayout = cs := by
  have hrev : ∀ c ∈ gap.reverse, isLayout c = true := fun c hc => hgap c (List.mem_reverse.mp hc)
  rw [List.rdropWhile, List.reverse_append, List.dropWhile_append_of_pos hrev]
  cases hlast : cs.reverse with
  | nil => simpa using hlast
  | cons c more =>
    have hc : isLayout c = false := hcs c (by rw [← List.head?_reverse, hlast]; rfl)
    rw [List.dropWhile_cons_of_neg (by simp [hc]), ← hlast, List.reverse_reverse]

/-- No token ends with layout. -/
theorem Lexeme.Spelled.trimmed {l : Lexeme} {cs : List Char} (h : l.Spelled cs) : Trimmed cs := by
  intro c hc
  rw [← Bool.not_eq_true]
  intro hlayout
  obtain ⟨hvariable, hname, hnumber, hletter, hdigit⟩ := mark_ne_part (mark_of_isLayout hlayout)
  have hspelling := h.spelling
  have hmem := List.mem_of_getLast? hc
  cases l with
  | number x =>
    obtain ⟨sign, d, tail, rfl, hsign, hd, hparts⟩ := hspelling
    have hparts : ∀ y ∈ d :: tail, isNumberPart y = true :=
      List.forall_mem_cons.mpr ⟨by rw [isNumberPart, hd, Bool.true_or], hparts⟩
    rcases List.mem_append.mp hmem with hmem | hmem
    · rcases hsign with rfl | rfl
      · cases hmem
      · cases List.mem_singleton.mp hmem
        cases hlayout
    · cases hnumber.symm.trans (hparts c hmem)
  | string s =>
    obtain ⟨body, rfl, -⟩ := hspelling
    rw [← List.cons_append, List.getLast?_concat] at hc
    cases hc
    cases hlayout
  | boolean b =>
    rcases hspelling with rfl | rfl <;> cases hc <;> cases hlayout
  | identifier name =>
    obtain ⟨d, tail, rfl, hd, -, hparts, -⟩ := hspelling
    rcases List.mem_cons.mp hmem with rfl | hmem
    · cases hletter.symm.trans hd
    · cases hname.symm.trans (hparts c hmem)
  | var name =>
    obtain ⟨d, first, tail, rfl, hd, -, hparts, -⟩ := hspelling
    rcases List.mem_cons.mp hmem with rfl | hmem
    · rcases hd with rfl | rfl <;> cases hlayout
    · cases hvariable.symm.trans (hparts c hmem)
  | operator op =>
    obtain ⟨found, rfl⟩ := hspelling
    cases found <;> cases hc <;> cases hlayout
  | lparen | rparen | comma | lbracket | rbracket =>
    cases hspelling
    cases hc
    cases hlayout

section Cut

variable {position : Nat} {afterOperand : Bool} {cs : List Char} {earlier later : List Token}

/-- A text that is read to its end is cut after one of its tokens, and each part is read into the
tokens that stand in it. -/
theorem scanFrom_append (h : scanFrom position afterOperand cs = ⟨earlier ++ later, none⟩) :
    ∃ before rest, cs = before ++ rest ∧ Trimmed before ∧
      scanFrom position afterOperand before = ⟨earlier, none⟩ ∧
      scanFrom (position + before.length) (endsOperandAfter afterOperand earlier) rest =
        ⟨later, none⟩ := by
  induction position, afterOperand, cs using scanFrom.induct generalizing earlier with
  | case1 position afterOperand =>
    rw [scanFrom] at h
    obtain ⟨rfl, rfl⟩ := List.append_eq_nil_iff.mp (Scan.mk.inj h).1.symm
    exact ⟨[], [], rfl, by simp [Trimmed], by rw [scanFrom], by rw [scanFrom]⟩
  | case2 position afterOperand c rest hr ih =>
    cases earlier with
    | nil => exact ⟨[], c :: rest, rfl, by simp [Trimmed], by rw [scanFrom], h⟩
    | cons t earlier =>
      rw [scanFrom, hr] at h
      obtain ⟨before, later, rfl, htrimmed, hbefore, hlater⟩ := ih h
      refine ⟨c :: before, later, rfl, ?_, ?_, ?_⟩
      · cases before with
        | nil =>
          rw [scanFrom] at hbefore
          cases hbefore
        | cons d before => exact htrimmed
      · rw [scanFrom, read_of_isLayout (isLayout_of_skip hr)]
        exact hbefore
      · rwa [List.length_cons, Nat.add_comm before.length, ← Nat.add_assoc]
  | case3 position afterOperand c rest l extra hr ih =>
    cases earlier with
    | nil => exact ⟨[], c :: rest, rfl, by simp [Trimmed], by rw [scanFrom], h⟩
    | cons t earlier =>
      rw [scanFrom, hr, List.cons_append] at h
      dsimp only at h
      generalize hfollowing : scanFrom (position + 1 + extra) l.kind.endsOperand (rest.drop extra) =
        following at h
      obtain ⟨tokens, failure⟩ := following
      cases h
      obtain ⟨before, others, hdrop, htrimmed, hbefore, hlater⟩ := ih hfollowing
      obtain ⟨hextra, hspelled⟩ := read_spelled hr
      refine ⟨(c :: rest.take extra) ++ before, others, ?_, hspelled.trimmed.append htrimmed,
        scanFrom_token hr hdrop hbefore, ?_⟩
      · rw [List.append_assoc, ← hdrop, List.cons_append, List.take_append_drop]
      · rw [endsOperandAfter_cons, List.length_append, List.length_cons,
          List.length_take_of_le hextra]
        have hposition : position + (extra + 1 + before.length) =
            position + 1 + extra + before.length := by omega
        rw [hposition]
        exact hlater
  | case4 position afterOperand c rest cause' hr =>
    rw [scanFrom, hr] at h
    cases (Scan.mk.inj h).2

/-- The first token of a text stands after layout, and the rest is read after it. -/
theorem scanFrom_head {t : Token}
    (h : scanFrom position afterOperand cs = ⟨t :: later, none⟩) :
    ∃ gap c tail extra, cs = gap ++ c :: tail ∧ (∀ d ∈ gap, isLayout d = true) ∧
      t = ⟨t.lexeme, position + gap.length, String.ofList (c :: tail.take extra)⟩ ∧
      read afterOperand c tail = .token t.lexeme extra ∧
      scanFrom (t.position + 1 + extra) t.kind.endsOperand (tail.drop extra) = ⟨later, none⟩ := by
  induction position, afterOperand, cs using scanFrom.induct with
  | case1 =>
    rw [scanFrom] at h
    cases h
  | case2 position afterOperand c rest hr ih =>
    rw [scanFrom, hr] at h
    obtain ⟨gap, d, tail, extra, rfl, hgap, ht, hread, hlater⟩ := ih h
    refine ⟨c :: gap, d, tail, extra, rfl,
      List.forall_mem_cons.mpr ⟨isLayout_of_skip hr, hgap⟩, ?_, hread, hlater⟩
    rwa [List.length_cons, Nat.add_comm gap.length, ← Nat.add_assoc]
  | case3 position afterOperand c rest l extra hr ih =>
    rw [scanFrom, hr] at h
    dsimp only at h
    generalize hfollowing : scanFrom (position + 1 + extra) l.kind.endsOperand (rest.drop extra) =
      following at h
    obtain ⟨tokens, failure⟩ := following
    cases h
    exact ⟨[], c, rest, extra, rfl, by simp, rfl, hr, hfollowing⟩
  | case4 position afterOperand c rest cause hr =>
    rw [scanFrom, hr] at h
    cases h

/-- Layout in front of a text moves its tokens and nothing else. -/
theorem scanFrom_dropWhile (position : Nat) (afterOperand : Bool) (cs : List Char) :
    scanFrom position afterOperand cs =
      scanFrom (position + (cs.takeWhile isLayout).length) afterOperand
        (cs.dropWhile isLayout) := by
  induction cs generalizing position with
  | nil => rfl
  | cons c rest ih =>
    by_cases hc : isLayout c = true
    · have hposition : position + ((rest.takeWhile isLayout).length + 1) =
          position + 1 + (rest.takeWhile isLayout).length := by omega
      rw [scanFrom, read_of_isLayout hc, List.takeWhile_cons_of_pos hc,
        List.dropWhile_cons_of_pos hc, List.length_cons, hposition]
      exact ih (position + 1)
    · rw [List.takeWhile_cons_of_neg hc, List.dropWhile_cons_of_neg hc, List.length_nil,
        Nat.add_zero]

end Cut

/-! ## Putting texts together -/

section Spaced

variable {afterOperand : Bool} {cs ds : List Char} {earlier later : List Token}

/-- What is read to its end consists of its tokens and of layout. -/
theorem spaced_of_scanFrom {position : Nat}
    (h : (scanFrom position afterOperand cs).failure = none) :
    Spaced afterOperand (scanFrom position afterOperand cs).tokens cs := by
  induction position, afterOperand, cs using scanFrom.induct with
  | case1 => rw [scanFrom]; exact .nil
  | case2 position afterOperand c rest hr ih =>
    rw [scanFrom, hr] at h ⊢
    exact .skip (isLayout_of_skip hr) (ih h)
  | case3 position afterOperand c rest l extra hr ih =>
    rw [scanFrom, hr] at h ⊢
    have hspaced := Spaced.token (fits_of_read hr position) (endsRun_of_read hr) (ih h)
    rwa [String.toList_ofList, List.cons_append, List.take_append_drop] at hspaced
  | case4 position afterOperand c rest cause hr =>
    rw [scanFrom, hr] at h
    cases h

theorem Spaced.eq_nil (h : Spaced afterOperand earlier cs) (hcs : cs = []) : earlier = [] := by
  cases h with
  | nil => rfl
  | skip => cases hcs
  | token hfits => exact absurd (List.append_eq_nil_iff.mp hcs).1 hfits.spelled.ne_nil

/-- A text may follow another if it does not go on with the last token there. -/
theorem Spaced.append (hcs : Spaced afterOperand earlier cs)
    (hlast : ∀ t, earlier.getLast? = some t → ∀ b, EndsRun (t.lexeme.goesOn b) ds)
    (hds : Spaced (endsOperandAfter afterOperand earlier) later ds) :
    Spaced afterOperand (earlier ++ later) (cs ++ ds) := by
  induction hcs with
  | nil => exact hds
  | skip hc _ ih => exact .skip hc (ih hlast hds)
  | @token afterOperand t tokens rest hfits hends hrest ih =>
    rw [List.append_assoc]
    refine .token hfits ?_ (ih (fun u hu => hlast u ?_) ?_)
    · -- Without more text there are no more tokens, and `ds` comes right after this one.
      cases rest with
      | nil =>
        cases hrest.eq_nil rfl
        exact hlast t rfl afterOperand
      | cons c more => exact hends
    · rw [List.getLast?_cons, hu]
      rfl
    · rwa [← endsOperandAfter_cons]

/-- No operand goes on with layout and a minus. -/
theorem endsRun_minus {l : Lexeme} (hl : l.kind.endsOperand = true) {gap : List Char}
    (hgap : ∀ c ∈ gap, isLayout c = true) (afterOperand : Bool) (cs : List Char) :
    EndsRun (l.goesOn afterOperand) (gap ++ '-' :: cs) := by
  cases gap with
  | nil =>
    intro c hc
    cases hc
    cases l with
    | identifier | operator | lparen | comma | lbracket => cases hl
    | number x => exact (mark_ne_part (by decide)).2.2.1
    | var name => exact (mark_ne_part (by decide)).1
    | _ => rfl
  | cons c gap =>
    refine endsRun_of_layout l afterOperand fun d hd => ?_
    cases hd
    exact hgap c (by simp)

end Spaced

/-! ## The minus of a subtraction -/

/-- Only a minus is read as one. -/
theorem read_eq_minus {afterOperand : Bool} {c : Char} {rest : List Char} {extra : Nat}
    (h : read afterOperand c rest = .token (.operator .minus) extra) : c = '-' ∧ extra = 0 := by
  obtain ⟨hextra, hspelling, hmeaning⟩ := read_spelled h
  obtain ⟨op, hop⟩ := hspelling
  rw [hop] at hmeaning
  cases (spelled_operator op).meaning.symm.trans hmeaning
  obtain ⟨hc, htake⟩ := List.cons_eq_cons.mp hop
  refine ⟨hc, ?_⟩
  rw [← List.length_take_of_le hextra, htake]
  rfl

/-- After an operand a minus goes on with nothing. -/
theorem spaced_minus {cs : List Char} {later : List Token} (position : Nat)
    (h : Spaced false later cs) :
    Spaced true (⟨.operator .minus, position, String.ofList ['-']⟩ :: later) ('-' :: cs) := by
  have hfits : Token.Fits true ⟨.operator .minus, position, String.ofList ['-']⟩ :=
    ⟨spelled_operator .minus, fun _ hkind => by cases hkind⟩
  have hspaced := Spaced.token hfits (fun _ _ => rfl) h
  rwa [String.toList_ofList] at hspaced

/-- A minus stands after layout, and after it the rest is read as in the place of an operand. -/
theorem scanFrom_minus {position : Nat} {afterOperand : Bool} {cs : List Char} {t : Token}
    {later : List Token} (h : scanFrom position afterOperand cs = ⟨t :: later, none⟩)
    (ht : t.lexeme = .operator .minus) :
    ∃ gap tail, cs = gap ++ '-' :: tail ∧ (∀ d ∈ gap, isLayout d = true) ∧
      t = ⟨.operator .minus, position + gap.length, String.ofList ['-']⟩ ∧
      read afterOperand '-' tail = .token (.operator .minus) 0 ∧
      scanFrom (position + gap.length + 1) false tail = ⟨later, none⟩ := by
  obtain ⟨gap, c, tail, extra, rfl, hgap, hplace, hread, hlater⟩ := scanFrom_head h
  rw [ht] at hplace hread
  obtain ⟨rfl, rfl⟩ := read_eq_minus hread
  subst hplace
  exact ⟨gap, tail, rfl, hgap, rfl, hread, hlater⟩

theorem endsOperandAfter_concat (before : Bool) (tokens : List Token) (t : Token) :
    endsOperandAfter before (tokens ++ [t]) = t.kind.endsOperand := by
  rw [endsOperandAfter, List.getLast?_concat]

theorem exists_of_endsOperandAfter {tokens : List Token}
    (h : endsOperandAfter false tokens = true) :
    ∃ earlier t, tokens = earlier ++ [t] ∧ t.kind.endsOperand = true := by
  cases hlast : tokens.getLast? with
  | none =>
    rw [endsOperandAfter, hlast] at h
    cases h
  | some t =>
    obtain ⟨earlier, rfl⟩ := List.getLast?_eq_some_iff.mp hlast
    rw [endsOperandAfter_concat] at h
    exact ⟨earlier, t, rfl, h⟩

theorem Fitting.fits {afterOperand : Bool} {earlier later : List Token} {t : Token}
    (h : Fitting afterOperand (earlier ++ t :: later)) :
    t.Fits (endsOperandAfter afterOperand earlier) := by
  induction earlier generalizing afterOperand with
  | nil =>
    cases h with
    | cons hfits _ => exact hfits
  | cons u earlier ih =>
    cases h with
    | cons _ hrest =>
      rw [endsOperandAfter_cons]
      exact ih hrest

/-- The text around a minus that follows an operand. -/
theorem respaced_eq {before gap tail : List Char} (hbefore : Trimmed before)
    (hgap : ∀ c ∈ gap, isLayout c = true) (left right : String) :
    (respaced (String.ofList (before ++ (gap ++ '-' :: tail))) (before.length + gap.length)
      left right).toList =
      before ++ (left.toList ++ '-' :: (right.toList ++ tail.dropWhile isLayout)) := by
  have hlength : before.length + gap.length = (before ++ gap).length := by rw [List.length_append]
  rw [respaced, String.toList_ofList, String.toList_ofList, ← List.append_assoc, hlength,
    List.take_left, List.drop_left, hbefore.rdropWhile_append hgap, ← List.drop_drop,
    List.drop_left]
  simp

/-- Layout around a minus that follows an operand can be replaced by any other. -/
theorem tokenize_respaced {source : String} {earlier later : List Token} {t u : Token}
    (h : scanFrom 0 false source.toList = ⟨earlier ++ t :: u :: later, none⟩)
    (ht : t.kind.endsOperand = true) (hu : u.lexeme = .operator .minus) {left right : String}
    (hleft : ∀ c ∈ left.toList, isLayout c = true)
    (hright : ∀ c ∈ right.toList, isLayout c = true) :
    ∃ again, tokenize (respaced source u.position left right) = .ok again ∧
      again.map Token.unplaced = (earlier ++ t :: u :: later).map Token.unplaced := by
  rw [List.append_cons] at h
  obtain ⟨before, rest, hsource, htrimmed, hbefore, hrest⟩ := scanFrom_append h
  rw [endsOperandAfter_concat, ht] at hrest
  obtain ⟨gap, tail, rfl, hgap, rfl, -, hlater⟩ := scanFrom_minus hrest hu
  obtain rfl : source = String.ofList (before ++ (gap ++ '-' :: tail)) := by
    rw [← hsource, String.ofList_toList]
  have hearlier := spaced_of_scanFrom (congrArg Scan.failure hbefore)
  rw [hbefore] at hearlier
  rw [scanFrom_dropWhile] at hlater
  have htail := spaced_of_scanFrom (congrArg Scan.failure hlater)
  rw [hlater] at htail
  have hminus := spaced_minus (0 + before.length + gap.length) (spaced_layout hright htail)
  have hlast : ∀ v, (earlier ++ [t]).getLast? = some v → ∀ b, EndsRun (v.lexeme.goesOn b)
      (left.toList ++ '-' :: (right.toList ++ tail.dropWhile isLayout)) := by
    intro v hv b
    rw [List.getLast?_concat] at hv
    cases hv
    exact endsRun_minus ht hleft b _
  have hall := hearlier.append hlast
    (by rw [endsOperandAfter_concat, ht]; exact spaced_layout hleft hminus)
  rw [← respaced_eq htrimmed hgap left right, ← List.append_cons] at hall
  obtain ⟨hfailure, htokens⟩ := scanFrom_of_spaced hall 0
  rw [Nat.zero_add] at *
  exact ⟨_, by rw [tokenize, scan, hfailure], htokens⟩

/-- Right before a digit a minus subtracts only after an operand. -/
theorem endsOperandAfter_of_digit {cs : List Char} {earlier later : List Token} {u : Token} {d : Char}
    (h : scanFrom 0 false cs = ⟨earlier ++ u :: later, none⟩) (hu : u.lexeme = .operator .minus)
    (hd : cs[u.position + 1]? = some d) (hdigit : Text.isDigit d = true) :
    endsOperandAfter false earlier = true := by
  obtain ⟨before, rest, rfl, -, -, hrest⟩ := scanFrom_append h
  obtain ⟨gap, tail, rfl, -, rfl, hread, -⟩ := scanFrom_minus hrest hu
  have hnext : tail.head? = some d := by
    have hcut : before ++ (gap ++ '-' :: tail) = (before ++ gap ++ ['-']) ++ tail := by simp
    have hplace : 0 + before.length + gap.length + 1 = (before ++ gap ++ ['-']).length := by
      simp [Nat.add_assoc]
    rw [List.head?_eq_getElem?, ← hd, hcut, hplace, List.getElem?_append_right (Nat.le_refl _),
      Nat.sub_self]
  have hstarts : startsWithDigit tail = true := by
    cases tail <;> cases hnext
    exact hdigit
  rw [← Bool.not_eq_false]
  intro hnone
  rw [hnone, read_minus hstarts, readNumber] at hread
  split at hread <;> cases hread

/-- A minus that belongs to a number never follows an operand, and one that subtracts always does if
a digit comes right after it. Between an operand and a minus that subtracts, and after the minus, any
layout does and also none: all tokens are read again and differ in their places only. -/
theorem tokenize_minus {source : String} {tokens : List Token} (h : tokenize source = .ok tokens) :
    (∀ earlier t u later, tokens = earlier ++ t :: u :: later → u.kind = .number →
      u.text.toList.head? = some '-' → t.kind ∉ operandEndings) ∧
    (∀ earlier u later d, tokens = earlier ++ u :: later → u.lexeme = .operator .minus →
      source.toList[u.position + 1]? = some d → Text.isDigit d = true →
      ∃ before t, earlier = before ++ [t] ∧ t.kind ∈ operandEndings) ∧
    ∀ earlier t u later, tokens = earlier ++ t :: u :: later → t.kind ∈ operandEndings →
      u.lexeme = .operator .minus → ∀ left right : String,
      (∀ c ∈ left.toList ++ right.toList, c = ' ' ∨ c = '\t' ∨ c = '\n') →
      ∃ again, tokenize (respaced source u.position left right) = .ok again ∧
        again.map Token.unplaced = tokens.map Token.unplaced := by
  have hscan : scanFrom 0 false source.toList = ⟨tokens, none⟩ := scan_of_tokenize h
  refine ⟨fun earlier t u later htokens hu hminus ht => ?_,
    fun earlier u later d htokens hu hd hdigit => ?_,
    fun earlier t u later htokens ht hu left right hlayout => ?_⟩
  · have hfitting := fitting_of_scanFrom 0 false source.toList
    rw [hscan, htokens, List.append_cons] at hfitting
    have hfits := hfitting.fits
    rw [endsOperandAfter_concat] at hfits
    exact hfits.unsigned ((endsOperand_iff_mem t.kind).mpr ht) hu hminus
  · rw [htokens] at hscan
    have hafter := endsOperandAfter_of_digit hscan hu hd hdigit
    obtain ⟨before, t, rfl, ht⟩ := exists_of_endsOperandAfter hafter
    exact ⟨before, t, rfl, (endsOperand_iff_mem t.kind).mp ht⟩
  · subst htokens
    have hall : ∀ c ∈ left.toList ++ right.toList, isLayout c = true := by
      intro c hc
      simpa [isLayout, or_assoc] using hlayout c hc
    rw [List.forall_mem_append] at hall
    exact tokenize_respaced hscan ((endsOperand_iff_mem t.kind).mpr ht) hu hall.1 hall.2

/-- Three minuses, of which the last belongs to a number; there is other layout around the second. -/
theorem tokenize_minus_respaced :
    let source := "2.-1 --3"
    ∃ tokens, tokenize source = .ok tokens ∧
      tokens.map Token.text = ["2.", "-", "1", "-", "-3"] ∧
      respaced source 5 "\t" " \n" = "2.-1\t- \n-3" ∧
      ∃ again, tokenize "2.-1\t- \n-3" = .ok again ∧
        again.map Token.unplaced = tokens.map Token.unplaced := by
  intro source
  have hscan : scan source = ⟨[⟨.number (Decimal.toDouble false ⟨2, 0⟩), 0, "2."⟩,
      ⟨.operator .minus, 2, "-"⟩, ⟨.number (Decimal.toDouble false ⟨1, 0⟩), 3, "1"⟩,
      ⟨.operator .minus, 5, "-"⟩, ⟨.number (Decimal.toDouble true ⟨3, 0⟩), 6, "-3"⟩], none⟩ := by
    decide +kernel
  have htokens : tokenize source = .ok (scan source).tokens := by
    rw [tokenize, hscan]
  have hrespaced : respaced source 5 "\t" " \n" = "2.-1\t- \n-3" := by decide +kernel
  obtain ⟨-, -, hall⟩ := tokenize_minus htokens
  rw [hscan] at hall
  have hagain := hall [⟨.number (Decimal.toDouble false ⟨2, 0⟩), 0, "2."⟩,
    ⟨.operator .minus, 2, "-"⟩] _ _ _ rfl (by decide) rfl "\t" " \n" (by simp)
  rw [hrespaced] at hagain
  refine ⟨_, htokens, ?_, hrespaced, ?_⟩
  · rw [hscan]
    rfl
  · rw [hscan]
    exact hagain

end Formula
