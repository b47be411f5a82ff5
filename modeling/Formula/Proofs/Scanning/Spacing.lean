import Formula.Proofs.Grammar.Positions
import Formula.Proofs.Scanning.Head
import Formula.Proofs.Scanning.Places

/-!
# Formula.Proofs.Scanning.Spacing

Layout between tokens does not matter. What is read at the head of a text depends on what was read
before in the minus of a number only, and ends before a character that does not go on with it
(`read_of_fits`). No layout goes on with a lexeme, so that tokens that were read off a text are read
again, in the same order, from their texts with layout between them (`scanFrom_of_spaced`). With
them the tree is the same, or the error (`parseSource_spaced`).
-/

namespace Formula

/-! ## Reading a token again -/

/-- Whether a character right after a lexeme is read as more of it. -/
def Lexeme.goesOn (afterOperand : Bool) : Lexeme → Char → Bool
  | number _, c => isNumberPart c
  | identifier _, c => isNamePart c
  | var _, c => isVariablePart c
  | operator .not, c | operator .greater, c | operator .less, c => c = '='
  | operator .bitwiseAnd, c => c = '&'
  | operator .bitwiseOr, c => c = '|'
  | operator .minus, c => !afterOperand && Text.isDigit c
  | _, _ => false

/-- A token that is read where it stands: a number after an operand has no minus of its own. -/
structure Token.Fits (afterOperand : Bool) (t : Token) : Prop where
  spelled : t.lexeme.Spelled t.text.toList
  unsigned : afterOperand = true → t.kind = .number → t.text.toList.head? ≠ some '-'

section Read

variable {afterOperand : Bool} {c : Char} {tail rest : List Char} {l : Lexeme}

theorem read_of_numeral {x : Double} (hspelled : (Lexeme.number x).Spelled (c :: tail))
    (hminus : c = '-' → afterOperand = false) (hrest : EndsRun isNumberPart rest) :
    read afterOperand c (tail ++ rest) = .token (.number x) tail.length := by
  obtain ⟨sign, d, digits, heq, hsign, hd, hparts⟩ := hspelled.spelling
  obtain ⟨y, hy, hxy⟩ := Option.map_eq_some_iff.mp hspelled.meaning
  cases hxy
  rcases hsign with rfl | rfl
  · cases heq
    exact read_numeral (.inl hd) hparts hy hrest
  · cases heq
    refine read_numeral (.inr ⟨rfl, hminus rfl, hd⟩) (List.forall_mem_cons.mpr ⟨?_, hparts⟩) hy hrest
    rw [isNumberPart, hd, Bool.true_or]

/-- What does not go on with an operator does not make a longer one of it. -/
theorem doubleOperator?_of_not_goesOn {op : Operator} {d : Char} (hsingle : singleOperator? c = some op)
    (h : (Lexeme.operator op).goesOn afterOperand d = false) : doubleOperator? c d = none := by
  cases hdouble : doubleOperator? c d with
  | none => rfl
  | some longer =>
    unfold doubleOperator? at hdouble
    split at hdouble <;> cases hdouble <;> cases hsingle <;> cases h

/-- An operator has one character or two. -/
theorem operator_characters (op : Operator) :
    (∃ c, op.spelling.toList = [c] ∧ singleOperator? c = some op) ∨
      ∃ c d, op.spelling.toList = [c, d] ∧ doubleOperator? c d = some op := by
  cases op <;> first | exact .inl ⟨_, rfl, rfl⟩ | exact .inr ⟨_, _, rfl, rfl⟩

theorem read_of_operator {op : Operator} (hspelling : op.spelling.toList = c :: tail)
    (hrest : EndsRun ((Lexeme.operator op).goesOn afterOperand) rest) :
    read afterOperand c (tail ++ rest) = .token (.operator op) tail.length := by
  rcases operator_characters op with ⟨first, heq, hop⟩ | ⟨first, second, heq, hop⟩
  · cases heq.symm.trans hspelling
    refine read_single hop (fun d hd => doubleOperator?_of_not_goesOn hop (hrest d hd)) ?_
    rintro rfl rfl
    cases rest with
    | nil => rfl
    | cons d more => exact hrest d rfl
  · cases heq.symm.trans hspelling
    exact read_double hop

/-- A token is read again where it fits if what follows does not go on with it. -/
theorem read_of_fits {t : Token} (h : t.Fits afterOperand) (htext : t.text.toList = c :: tail)
    (hrest : EndsRun (t.lexeme.goesOn afterOperand) rest) :
    read afterOperand c (tail ++ rest) = .token t.lexeme tail.length := by
  obtain ⟨l, position, text⟩ := t
  obtain ⟨hspelled, hunsigned⟩ := h
  dsimp only at *
  rw [htext] at hspelled hunsigned
  have hspelling := hspelled.spelling
  have hmeaning := hspelled.meaning
  cases l with
  | number x =>
    refine read_of_numeral hspelled (fun hc => ?_) hrest
    cases afterOperand with
    | false => rfl
    | true => exact absurd (congrArg some hc) (hunsigned rfl rfl)
  | string s =>
    obtain ⟨body, heq, hbody⟩ := hspelling
    cases heq
    cases hmeaning
    simpa using read_quoted afterOperand hbody
  | boolean b =>
    rcases hspelling with heq | heq <;> cases heq <;> cases hmeaning <;> rfl
  | identifier name =>
    cases hmeaning
    exact read_name afterOperand hspelling hrest
  | var name =>
    cases hmeaning
    exact read_variable afterOperand hspelling hrest
  | operator op =>
    obtain ⟨op', hop⟩ := hspelling
    rw [hop] at hmeaning
    cases (spelled_operator op').meaning.symm.trans hmeaning
    exact read_of_operator hop.symm hrest
  | lparen | rparen | comma | lbracket | rbracket =>
    cases hspelling
    rfl

/-- What was read fits where it was read. -/
theorem fits_of_read {extra : Nat} (h : read afterOperand c rest = .token l extra) (position : Nat) :
    Token.Fits afterOperand ⟨l, position, String.ofList (c :: rest.take extra)⟩ := by
  obtain ⟨-, hspelled⟩ := read_spelled h
  refine ⟨by rwa [String.toList_ofList], fun hafter hkind hhead => ?_⟩
  rw [String.toList_ofList] at hhead
  cases hhead
  -- Of the rules that read a minus, the one of numbers asks that no operand stands before it.
  cases reads_of_read h with
  | trueValue hword => cases (List.cons_prefix_cons.mp hword).1
  | falseValue hword => cases (List.cons_prefix_cons.mp hword).1
  | var hc => rcases hc with hc | hc <;> cases hc
  | string hc => cases hc
  | number hc =>
    rcases hc with hdigit | ⟨-, hbefore, -⟩
    · exact absurd hdigit (by decide)
    · cases hbefore.symm.trans hafter
  | punctuation hl => cases hl
  | operator => cases hkind
  | identifier hletter => exact absurd hletter (by decide)

theorem endsRun_takeWhile (p : Char → Bool) (cs : List Char) :
    EndsRun p (cs.drop (cs.takeWhile p).length) := by
  intro d hd
  have hdrop : cs.drop (cs.takeWhile p).length = cs.dropWhile p := by
    have hsplit := congrArg (List.drop (cs.takeWhile p).length)
      (List.takeWhile_append_dropWhile (p := p) (l := cs))
    rwa [List.drop_left, eq_comm] at hsplit
  have hhead := List.head?_dropWhile_not p cs
  rwa [← hdrop, hd] at hhead

/-- What makes no longer operator does not go on with one of a single character. -/
theorem goesOn_eq_false {op : Operator} {d : Char} (hsingle : singleOperator? c = some op)
    (hdouble : doubleOperator? c d = none)
    (hminus : op = .minus → afterOperand = false → Text.isDigit d = false) :
    (Lexeme.operator op).goesOn afterOperand d = false := by
  rw [← Bool.not_eq_true]
  intro hgoes
  unfold singleOperator? at hsingle
  split at hsingle <;> cases hsingle
  case h_2 =>
    have hdigit : afterOperand = false ∧ Text.isDigit d = true := by
      simpa [Lexeme.goesOn] using hgoes
    cases (hminus rfl hdigit.1).symm.trans hdigit.2
  all_goals first
    | cases hgoes
    | cases of_decide_eq_true hgoes
      cases hdouble

/-- In the place of an operand a minus before a digit belongs to the number. -/
theorem read_minus (hrest : startsWithDigit rest = true) :
    read false '-' rest = readNumber '-' rest := by
  rw [read]
  simp [isLayout, trueWord, falseWord, hrest]

theorem endsRun_of_operator {op : Operator} {extra : Nat}
    (h : read afterOperand c rest = .token (.operator op) extra)
    (hop : operatorAt? c rest = some (op, extra)) :
    EndsRun ((Lexeme.operator op).goesOn afterOperand) (rest.drop extra) := by
  unfold operatorAt? at hop
  split at hop
  · rename_i found hfound
    cases hop
    have hnone : ∀ d, (Lexeme.operator op).goesOn afterOperand d = false := by
      cases rest with
      | nil => cases hfound
      | cons d more =>
        have hdouble : doubleOperator? c d = some op := hfound
        unfold doubleOperator? at hdouble
        split at hdouble <;> cases hdouble <;> exact fun _ => rfl
    exact fun d _ => hnone d
  · rename_i hdouble
    obtain ⟨found, hsingle, heq⟩ := Option.map_eq_some_iff.mp hop
    cases heq
    intro d hd
    rw [List.drop_zero] at hd
    rw [hd] at hdouble
    refine goesOn_eq_false hsingle hdouble ?_
    rintro rfl rfl
    rw [← Bool.not_eq_true]
    intro hdigit
    have hstarts : startsWithDigit rest = true := by
      cases rest <;> cases hd
      exact hdigit
    obtain rfl : c = '-' := by
      unfold singleOperator? at hsingle
      split at hsingle <;> cases hsingle
      rfl
    rw [read_minus hstarts, readNumber] at h
    split at h <;> cases h

/-- What was read ends before the first character that does not go on with it. -/
theorem endsRun_of_read {extra : Nat} (h : read afterOperand c rest = .token l extra) :
    EndsRun (l.goesOn afterOperand) (rest.drop extra) := by
  cases reads_of_read h with
  | trueValue => exact fun _ _ => rfl
  | falseValue => exact fun _ _ => rfl
  | var _ hvar =>
    unfold readVariable at hvar
    split at hvar
    · cases hvar
    · dsimp only at hvar
      split at hvar
      · split at hvar <;> cases hvar
        exact endsRun_takeWhile isVariablePart _
      · cases hvar
  | string _ hstring =>
    unfold readString at hstring
    dsimp only at hstring
    split at hstring <;> cases hstring
    exact fun _ _ => rfl
  | number _ hnumber =>
    unfold readNumber at hnumber
    dsimp only at hnumber
    split at hnumber <;> cases hnumber
    exact endsRun_takeWhile isNumberPart rest
  | punctuation hl =>
    unfold punctuation? at hl
    split at hl <;> cases hl <;> exact fun _ _ => rfl
  | operator hop => exact endsRun_of_operator h hop
  | identifier _ _ _ _ hname =>
    cases hname
    exact endsRun_takeWhile isNamePart rest

end Read

/-! ## Texts with layout between tokens -/

/-- Tokens each of which fits where the one before it ends. -/
inductive Fitting : Bool → List Token → Prop where
  | nil {afterOperand : Bool} : Fitting afterOperand []
  | cons {afterOperand : Bool} {t : Token} {tokens : List Token} :
      t.Fits afterOperand → Fitting t.kind.endsOperand tokens → Fitting afterOperand (t :: tokens)

/-- A text that consists of the texts of tokens, each of which ends before what follows, and of
layout. -/
inductive Spaced : Bool → List Token → List Char → Prop where
  | nil {afterOperand : Bool} : Spaced afterOperand [] []
  | skip {afterOperand : Bool} {tokens : List Token} {c : Char} {cs : List Char} :
      isLayout c = true → Spaced afterOperand tokens cs → Spaced afterOperand tokens (c :: cs)
  | token {afterOperand : Bool} {t : Token} {tokens : List Token} {cs : List Char} :
      t.Fits afterOperand → EndsRun (t.lexeme.goesOn afterOperand) cs →
      Spaced t.kind.endsOperand tokens cs → Spaced afterOperand (t :: tokens) (t.text.toList ++ cs)

section Scan

variable {afterOperand : Bool} {tokens : List Token} {cs : List Char}

theorem fitting_of_scanFrom (position : Nat) (afterOperand : Bool) (cs : List Char) :
    Fitting afterOperand (scanFrom position afterOperand cs).tokens := by
  induction position, afterOperand, cs using scanFrom.induct with
  | case1 => rw [scanFrom]; exact .nil
  | case2 position afterOperand c rest hr ih => rw [scanFrom, hr]; exact ih
  | case3 position afterOperand c rest l extra hr ih =>
    rw [scanFrom, hr]
    exact .cons (fits_of_read hr position) ih
  | case4 position afterOperand c rest cause hr => rw [scanFrom, hr]; exact .nil

theorem read_of_isLayout {c : Char} (h : isLayout c = true) (rest : List Char) :
    read afterOperand c rest = .skip := by
  rw [read, if_pos h]

/-- The tokens of such a text are the tokens that it was made of. -/
theorem scanFrom_of_spaced (h : Spaced afterOperand tokens cs) :
    ∀ position, (scanFrom position afterOperand cs).failure = none ∧
      (scanFrom position afterOperand cs).tokens.map Token.unplaced =
        tokens.map Token.unplaced := by
  induction h with
  | nil => intro position; simp [scanFrom]
  | @skip afterOperand tokens c cs hc _ ih =>
    intro position
    rw [scanFrom, read_of_isLayout hc]
    exact ih (position + 1)
  | @token afterOperand t tokens cs hfits hends _ ih =>
    intro position
    cases htext : t.text.toList with
    | nil => exact absurd htext hfits.spelled.ne_nil
    | cons c tail =>
      obtain ⟨hfailure, htokens⟩ := ih (position + 1 + tail.length)
      rw [List.cons_append, scanFrom, read_of_fits hfits htext hends]
      simp only [List.drop_left, List.take_left, List.map_cons]
      refine ⟨hfailure, congrArg₂ List.cons ?_ htokens⟩
      rw [← htext, String.ofList_toList]
      rfl

theorem spaced_layout {gap : List Char} (hgap : ∀ c ∈ gap, isLayout c = true)
    (h : Spaced afterOperand tokens cs) : Spaced afterOperand tokens (gap ++ cs) := by
  induction gap with
  | nil => exact h
  | cons c gap ih =>
    obtain ⟨hc, hmore⟩ := List.forall_mem_cons.mp hgap
    exact .skip hc (ih hmore)

/-- No layout goes on with a lexeme. -/
theorem endsRun_of_layout (l : Lexeme) (afterOperand : Bool)
    (h : ∀ c, cs.head? = some c → isLayout c = true) : EndsRun (l.goesOn afterOperand) cs := by
  intro c hc
  have hlayout := h c hc
  obtain ⟨hvariable, hname, hnumber, -⟩ := mark_ne_part (mark_of_isLayout hlayout)
  cases l with
  | number x => exact hnumber
  | identifier name => exact hname
  | var name => exact hvariable
  | operator op =>
    simp only [isLayout, Bool.or_eq_true, decide_eq_true_eq] at hlayout
    rcases hlayout with (rfl | rfl) | rfl <;> cases op <;> cases afterOperand <;> rfl
  | _ => rfl

end Scan

/-- Texts one after the other, with gaps before, between and after them. -/
def spaced (gap : Nat → String) : List String → String
  | [] => gap 0
  | text :: texts => gap 0 ++ text ++ spaced (fun k => gap (k + 1)) texts

/-- Gaps of spaces, tabs and newlines, which are not empty between two of so many texts. -/
structure Separates (gap : Nat → String) (count : Nat) : Prop where
  layout : ∀ k ≤ count, ∀ c ∈ (gap k).toList, c = ' ' ∨ c = '\t' ∨ c = '\n'
  between : ∀ k, 0 < k → k < count → gap k ≠ ""

theorem Separates.isLayout {gap : Nat → String} {count k : Nat} (h : Separates gap count)
    (hk : k ≤ count) : ∀ c ∈ (gap k).toList, Formula.isLayout c = true := by
  intro c hc
  simpa [Formula.isLayout, or_assoc] using h.layout k hk c hc

theorem Separates.tail {gap : Nat → String} {count : Nat} (h : Separates gap (count + 1)) :
    Separates (fun k => gap (k + 1)) count where
  layout k hk := h.layout (k + 1) (Nat.succ_le_succ hk)
  between k _ hk := h.between (k + 1) (Nat.succ_pos k) (Nat.succ_lt_succ hk)

/-- After a text comes layout, or nothing. -/
theorem Separates.after_text {gap : Nat → String} (texts : List String)
    (h : Separates gap (texts.length + 1)) (c : Char)
    (hc : (spaced (fun k => gap (k + 1)) texts).toList.head? = some c) :
    Formula.isLayout c = true := by
  cases texts with
  | nil => exact h.isLayout (Nat.le_refl 1) c (List.mem_of_mem_head? hc)
  | cons text texts =>
    cases hgap : (gap 1).toList with
    | nil => exact absurd (String.toList_eq_nil_iff.mp hgap) (h.between 1 Nat.one_pos (by simp))
    | cons d more =>
      simp only [spaced, String.toList_append, Nat.zero_add, hgap, List.cons_append] at hc
      cases hc
      exact h.isLayout (Nat.le_add_left 1 _) c (by simp [hgap])

theorem spaced_of_fitting {afterOperand : Bool} {tokens : List Token}
    (h : Fitting afterOperand tokens) :
    ∀ gap, Separates gap tokens.length →
      Spaced afterOperand tokens (spaced gap (tokens.map Token.text)).toList := by
  induction h with
  | nil =>
    intro gap hgap
    simpa [spaced] using spaced_layout (hgap.isLayout (Nat.le_refl 0)) .nil
  | @cons afterOperand t tokens hfits _ ih =>
    intro gap hgap
    rw [List.map_cons, spaced, String.toList_append, String.toList_append, List.append_assoc]
    have hends := endsRun_of_layout t.lexeme afterOperand
      (Separates.after_text (tokens.map Token.text) (by simpa using hgap))
    exact spaced_layout (hgap.isLayout (Nat.zero_le _)) (.token hfits hends (ih _ hgap.tail))

theorem tokenize_spaced {source : String} {tokens : List Token} (h : tokenize source = .ok tokens)
    {gap : Nat → String} (hgap : Separates gap tokens.length) :
    ∃ again, tokenize (spaced gap (tokens.map Token.text)) = .ok again ∧
      again.map Token.unplaced = tokens.map Token.unplaced := by
  have hscan : scanFrom 0 false source.toList = ⟨tokens, none⟩ := scan_of_tokenize h
  have hfitting := fitting_of_scanFrom 0 false source.toList
  rw [hscan] at hfitting
  obtain ⟨hfailure, htokens⟩ := scanFrom_of_spaced (spaced_of_fitting hfitting gap hgap) 0
  exact ⟨_, by rw [tokenize, scan, hfailure], htokens⟩

/-- Between the texts of the tokens of a source text any spaces, tabs and newlines do, and before and
after them also none. All tokens are read again and differ in their places only, and they are parsed
into the same tree or refused with the same error. -/
theorem parseSource_spaced {source : String} {tokens : List Token}
    (h : tokenize source = .ok tokens) {gap : Nat → String} (hgap : Separates gap tokens.length) :
    (∃ again, tokenize (spaced gap (tokens.map Token.text)) = .ok again ∧
      again.map Token.unplaced = tokens.map Token.unplaced) ∧
    ∀ options, SameOutcome (parseSource options source).result
      (parseSource options (spaced gap (tokens.map Token.text))).result := by
  obtain ⟨again, hagain, htokens⟩ := tokenize_spaced h hgap
  refine ⟨⟨again, hagain, htokens⟩, fun options => ?_⟩
  rw [parseSource_of_tokenize h, parseSource_of_tokenize hagain]
  exact parse_unplaced htokens.symm options (some source) _

/-- Two minuses without layout, of which the second belongs to a number. -/
theorem parseSource_spaced_fused_minus :
    let gap : Nat → String := fun k => if k = 1 then "\t" else if k = 2 then "\n" else ""
    ∃ tokens, tokenize "#a--2" = .ok tokens ∧ tokens.map Token.text = ["#a", "-", "-2"] ∧
      Separates gap tokens.length ∧
      (∃ again, tokenize "#a\t-\n-2" = .ok again ∧
        again.map Token.unplaced = tokens.map Token.unplaced) ∧
      ∀ options, SameOutcome (parseSource options "#a--2").result
        (parseSource options "#a\t-\n-2").result := by
  intro gap
  have hscan : scan "#a--2" = ⟨[⟨.var "#a", 0, "#a"⟩, ⟨.operator .minus, 2, "-"⟩,
      ⟨.number (Decimal.toDouble true ⟨2, 0⟩), 3, "-2"⟩], none⟩ := by
    decide +kernel
  have htokens : tokenize "#a--2" = .ok (scan "#a--2").tokens := by
    rw [tokenize, hscan]
  have hgap : Separates gap (scan "#a--2").tokens.length := by
    rw [hscan]
    refine ⟨fun k _ c hc => ?_, fun k hpos hk => ?_⟩
    · have hc : c = '\t' ∨ c = '\n' := by
        dsimp only [gap] at hc
        split at hc
        · exact .inl (by simpa using hc)
        · split at hc
          · exact .inr (by simpa using hc)
          · simp at hc
      exact .inr hc
    · have hk3 : k < 3 := hk
      obtain rfl | rfl : k = 1 ∨ k = 2 := by omega
      · decide
      · decide
  have htext : (scan "#a--2").tokens.map Token.text = ["#a", "-", "-2"] := by
    rw [hscan]
    rfl
  have hspaced := parseSource_spaced htokens hgap
  rw [htext] at hspaced
  exact ⟨_, htokens, htext, hgap, hspaced⟩

end Formula
