import Formula.Proofs.Decimal.Reading
import Formula.Proofs.Scanning.Basic

/-!
# Formula.Proofs.Scanning.Head

One lexeme at the head of a text. Each kind is read off whole if what follows does not go on with
it, as a mark or the end of the text never does. What may stand after an operand in a printed
expression starts with a mark, and is read in the same way whatever stands before it (`Follows`).
-/

namespace Formula

/-! ## Marks -/

/-- The ASCII characters with a meaning of their own. -/
def marks : List Char :=
  [' ', '\t', '\n', '#', '$', '\'', '(', ')', ',', '[', ']', '=', '!', '&', '|', '>', '<', '+',
    '-', '*', '/', '%']

/-- Marks are no part of a name or a number. -/
theorem mark_ne_part {m : Char} (h : m ∈ marks) :
    isVariablePart m = false ∧ isNamePart m = false ∧ isNumberPart m = false ∧
      Text.isLetter m = false ∧ Text.isDigit m = false := by
  have hall : marks.all (fun m => !(isVariablePart m || isNamePart m || isNumberPart m ||
      Text.isLetter m || Text.isDigit m)) = true := by decide
  simpa [and_assoc] using List.all_eq_true.mp hall m h

theorem mark_of_isLayout {c : Char} (h : isLayout c = true) : c ∈ marks := by
  simp only [isLayout, Bool.or_eq_true, decide_eq_true_eq] at h
  rcases h with (rfl | rfl) | rfl <;> decide

theorem not_mark_of_letter {c : Char} (h : Text.isLetter c = true) : c ∉ marks := by
  intro hc
  rw [(mark_ne_part hc).2.2.2.1] at h
  cases h

theorem not_mark_of_digit {c : Char} (h : Text.isDigit c = true) : c ∉ marks := by
  intro hc
  rw [(mark_ne_part hc).2.2.2.2] at h
  cases h

/-- A run of the characters `p` does not go on into `cs`. -/
def EndsRun (p : Char → Bool) (cs : List Char) : Prop :=
  ∀ c, cs.head? = some c → p c = false

section Runs

variable {p : Char → Bool} {word cs rest : List Char}

theorem takeWhile_append_of_endsRun (hcs : ∀ c ∈ cs, p c = true) (hrest : EndsRun p rest) :
    (cs ++ rest).takeWhile p = cs := by
  rw [List.takeWhile_append_of_pos hcs]
  cases rest with
  | nil => simp
  | cons c rest => simp [hrest c rfl]

/-- A word of these characters stands before the end of a run only if it stands in what comes
before. -/
theorem prefix_of_endsRun (hword : ∀ c ∈ word, p c = true) (hrest : EndsRun p rest)
    (h : word <+: cs ++ rest) : word <+: cs := by
  rcases List.prefix_or_prefix_of_prefix h (List.prefix_append cs rest) with hcs | ⟨t, rfl⟩
  · exact hcs
  · cases t with
    | nil => rw [List.append_nil]
    | cons x t =>
      obtain ⟨more, hmore⟩ := (List.prefix_append_right_inj cs).mp h
      have hx : p x = false := hrest x (by rw [← hmore]; rfl)
      cases (hword x (by simp)).symm.trans hx

end Runs

/-- What starts with a mark, or nothing at all. -/
def Marked (cs : List Char) : Prop :=
  ∀ c, cs.head? = some c → c ∈ marks

theorem Marked.endsRun {p : Char → Bool} {cs : List Char} (h : Marked cs)
    (hp : ∀ m ∈ marks, p m = false) : EndsRun p cs :=
  fun c hc => hp c (h c hc)

theorem trueWord_name : ∀ c ∈ trueWord, isNamePart c = true :=
  List.all_eq_true.mp (by decide)

theorem falseWord_name : ∀ c ∈ falseWord, isNamePart c = true :=
  List.all_eq_true.mp (by decide)

/-! ## Reading one lexeme -/

section Read

variable {afterOperand : Bool} {c : Char} {tail rest : List Char}

/-- A character that is no mark is neither layout, nor punctuation, nor an operator. -/
theorem read_of_not_mark {c : Char} (hc : c ∉ marks) (htrue : ¬ trueWord <+: c :: rest)
    (hfalse : ¬ falseWord <+: c :: rest) :
    read afterOperand c rest =
      if Text.isDigit c then readNumber c rest
      else if Text.isLetter c then readIdentifier c rest
      else .fault (.unexpectedCharacter c) := by
  have hlayout : ¬ isLayout c = true := fun h => hc (mark_of_isLayout h)
  have hpunctuation : punctuation? c = none := by
    unfold punctuation?
    split <;> first | rfl | exact absurd (by decide) hc
  have hsingle : singleOperator? c = none := by
    unfold singleOperator?
    split <;> first | rfl | exact absurd (by decide) hc
  have hdouble : ∀ d, doubleOperator? c d = none := by
    intro d
    unfold doubleOperator?
    split <;> first | rfl | exact absurd (by decide) hc
  have hoperator : operatorAt? c rest = none := by
    unfold operatorAt?
    cases rest <;> simp [hdouble, hsingle]
  have hname : ¬ (c = '#' ∨ c = '$') := by
    rintro (rfl | rfl) <;> exact hc (by decide)
  have hquote : c ≠ '\'' := by
    rintro rfl
    exact hc (by decide)
  have hminus : c ≠ '-' := by
    rintro rfl
    exact hc (by decide)
  unfold read
  simp [hlayout, htrue, hfalse, hname, hquote, hminus, hpunctuation, hoperator]

theorem read_name (afterOperand : Bool) (hname : IsFunctionName (c :: tail))
    (hrest : EndsRun isNamePart rest) :
    read afterOperand c (tail ++ rest) =
      .token (.identifier (String.ofList (c :: tail))) tail.length := by
  obtain ⟨_, _, heq, hletter, hdigit, hparts, htrue, hfalse⟩ := hname
  cases heq
  have hstart (word : List Char) (hword : ∀ x ∈ word, isNamePart x = true)
      (hno : ¬ word <+: c :: tail) : ¬ word <+: c :: (tail ++ rest) :=
    fun hpre => hno (prefix_of_endsRun hword hrest hpre)
  rw [read_of_not_mark (not_mark_of_letter hletter) (hstart _ trueWord_name htrue)
    (hstart _ falseWord_name hfalse), hdigit, hletter]
  simp only [Bool.false_eq_true, if_false, if_true, readIdentifier,
    takeWhile_append_of_endsRun hparts hrest]

theorem read_variable (afterOperand : Bool) (hname : IsVariableName (c :: tail))
    (hrest : EndsRun isVariablePart rest) :
    read afterOperand c (tail ++ rest) = .token (.var (String.ofList (c :: tail))) tail.length := by
  obtain ⟨_, first, more, heq, hc, hfirst, hparts, hlast⟩ := hname
  cases heq
  have hread : read afterOperand c ((first :: more) ++ rest) =
      readVariable c ((first :: more) ++ rest) := by
    rcases hc with rfl | rfl <;> rfl
  have htake := takeWhile_append_of_endsRun hparts hrest
  rw [hread]
  rw [List.cons_append] at htake ⊢
  unfold readVariable
  simp only [hfirst, if_true, htake, hlast, if_false]

theorem read_quoted (afterOperand : Bool) {body : List Char} (hbody : '\'' ∉ body) :
    read afterOperand '\'' (body ++ '\'' :: rest) =
      .token (.string (String.ofList body)) (body.length + 1) := by
  have htake : (body ++ '\'' :: rest).takeWhile (· ≠ '\'') = body := by
    refine takeWhile_append_of_endsRun (fun c hc => ?_) (fun c hc => ?_)
    · rw [decide_eq_true_eq]
      rintro rfl
      exact hbody hc
    · cases hc
      rfl
  have hread : read afterOperand '\'' (body ++ '\'' :: rest) =
      readString (body ++ '\'' :: rest) := rfl
  rw [hread, readString, htake]
  simp

/-- The minus of a number is read with it where no operand stands before it. -/
theorem read_numeral {x : Double}
    (hc : Text.isDigit c = true ∨ c = '-' ∧ afterOperand = false ∧ startsWithDigit tail = true)
    (htail : ∀ d ∈ tail, isNumberPart d = true) (hx : numberOf? (c :: tail) = some x)
    (hrest : EndsRun isNumberPart rest) :
    read afterOperand c (tail ++ rest) = .token (.number x) tail.length := by
  have hread : read afterOperand c (tail ++ rest) = readNumber c (tail ++ rest) := by
    rcases hc with hdigit | ⟨rfl, rfl, hdigit⟩
    · have hword (d : Char) (word : List Char) (hd : Text.isDigit d = false) :
          ¬ d :: word <+: c :: (tail ++ rest) := by
        intro hpre
        rw [(List.cons_prefix_cons.mp hpre).1, hdigit] at hd
        cases hd
      rw [read_of_not_mark (not_mark_of_digit hdigit) (hword 't' _ (by decide))
        (hword 'f' _ (by decide)), if_pos hdigit]
    · cases tail with
      | nil => cases hdigit
      | cons d more =>
        have hd : Text.isDigit d = true := hdigit
        rw [read]
        simp [isLayout, trueWord, falseWord, startsWithDigit, hd]
  rw [hread, readNumber, takeWhile_append_of_endsRun htail hrest, hx]

theorem read_double {d : Char} {op : Operator} (h : doubleOperator? c d = some op) :
    read afterOperand c (d :: rest) = .token (.operator op) 1 := by
  unfold doubleOperator? at h
  split at h <;> cases h <;> cases afterOperand <;> rfl

/-- An operator of one character is read as such unless it is the start of a longer one, or the
minus of a number. -/
theorem read_single {op : Operator} (h : singleOperator? c = some op)
    (hdouble : ∀ d, rest.head? = some d → doubleOperator? c d = none)
    (hminus : op = .minus → afterOperand = false → startsWithDigit rest = false) :
    read afterOperand c rest = .token (.operator op) 0 := by
  have hop : operatorAt? c rest = some (op, 0) := by
    cases rest with
    | nil => simp [operatorAt?, h]
    | cons d more => simp [operatorAt?, h, hdouble d rfl]
  unfold read
  rw [hop]
  unfold singleOperator? at h
  split at h <;> cases h
  case h_2 =>
    cases afterOperand with
    | true => rfl
    | false =>
      have hdigit : Text.isDigit '-' = false := by decide
      simp [isLayout, trueWord, falseWord, punctuation?, hdigit, hminus rfl rfl]
  all_goals rfl

end Read

/-! ## Steps of the scanner -/

section Step

variable {afterOperand : Bool} {c : Char} {tail rest : List Char} {l : Lexeme} {ls : List Lexeme}

/-- A lexeme of which `tail` is all but the first character. -/
theorem Lexes.token_append (hr : read afterOperand c (tail ++ rest) = .token l tail.length)
    (h : Lexes l.kind.endsOperand rest ls) : Lexes afterOperand (c :: (tail ++ rest)) (l :: ls) :=
  .token hr (by rwa [List.drop_left])

theorem Lexes.mark (hr : read afterOperand c rest = .token l 0)
    (h : Lexes l.kind.endsOperand rest ls) : Lexes afterOperand (c :: rest) (l :: ls) :=
  .token hr h

theorem lexes_space (h : Lexes afterOperand rest ls) : Lexes afterOperand (' ' :: rest) ls :=
  .skip rfl h

theorem lexes_lparen (h : Lexes false rest ls) :
    Lexes afterOperand ('(' :: rest) (.lparen :: ls) :=
  .mark rfl h

theorem lexes_rparen (h : Lexes true rest ls) :
    Lexes afterOperand (')' :: rest) (.rparen :: ls) :=
  .mark rfl h

theorem lexes_lbracket (h : Lexes false rest ls) :
    Lexes afterOperand ('[' :: rest) (.lbracket :: ls) :=
  .mark rfl h

theorem lexes_rbracket (h : Lexes true rest ls) :
    Lexes afterOperand (']' :: rest) (.rbracket :: ls) :=
  .mark rfl h

theorem lexes_comma (h : Lexes false rest ls) :
    Lexes afterOperand (',' :: rest) (.comma :: ls) :=
  .mark rfl h

theorem lexes_true (h : Lexes true rest ls) :
    Lexes afterOperand (trueWord ++ rest) (.boolean true :: ls) :=
  .token rfl h

theorem lexes_false (h : Lexes true rest ls) :
    Lexes afterOperand (falseWord ++ rest) (.boolean false :: ls) :=
  .token rfl h

/-- Before a space an operator is read as such, whatever stands before it. -/
theorem read_operator (afterOperand : Bool) (rest : List Char) (op : Operator) :
    ∃ c cs, op.spelling.toList = c :: cs ∧
      read afterOperand c (cs ++ ' ' :: rest) = .token (.operator op) cs.length := by
  cases op <;> cases afterOperand <;> exact ⟨_, _, rfl, rfl⟩

theorem lexes_operator (op : Operator) (h : Lexes false rest ls) :
    Lexes afterOperand (op.spelling.toList ++ ' ' :: rest) (.operator op :: ls) := by
  obtain ⟨c, cs, hspelling, hr⟩ := read_operator afterOperand rest op
  rw [hspelling]
  exact .token_append hr (lexes_space h)

/-- A negation is read as such unless an equals sign follows. -/
theorem lexes_not (hc : c ≠ '=') (h : Lexes false (c :: rest) ls) :
    Lexes afterOperand ('!' :: c :: rest) (.operator .not :: ls) := by
  refine .token (read_single rfl (fun d hd => ?_) nofun) h
  cases hd
  unfold doubleOperator?
  split <;> simp_all

end Step

section Names

variable {afterOperand : Bool} {rest : List Char} {ls : List Lexeme}

theorem lexes_string {s : String} (hs : '\'' ∉ s.toList) (h : Lexes true rest ls) :
    Lexes afterOperand ('\'' :: (s.toList ++ '\'' :: rest)) (.string s :: ls) := by
  have hread : read afterOperand '\'' (s.toList ++ '\'' :: rest) = _ := read_quoted afterOperand hs
  rw [String.ofList_toList] at hread
  refine .token hread ?_
  rw [← List.drop_drop, List.drop_left]
  exact h

theorem lexes_var {name : String} (hname : IsVariableName name.toList) (hrest : Marked rest)
    (h : Lexes true rest ls) :
    Lexes afterOperand (name.toList ++ rest) (.var name :: ls) := by
  obtain ⟨c, tail, heq⟩ : ∃ c tail, name.toList = c :: tail := by
    obtain ⟨c, first, more, heq, -⟩ := hname
    exact ⟨c, first :: more, heq⟩
  rw [heq] at hname ⊢
  have hread := read_variable afterOperand hname
    (hrest.endsRun fun m hm => (mark_ne_part hm).1)
  rw [← heq, String.ofList_toList] at hread
  exact .token_append hread h

theorem lexes_identifier {name : String} (hname : IsFunctionName name.toList) (hrest : Marked rest)
    (h : Lexes false rest ls) :
    Lexes afterOperand (name.toList ++ rest) (.identifier name :: ls) := by
  obtain ⟨c, tail, heq⟩ : ∃ c tail, name.toList = c :: tail := by
    obtain ⟨c, tail, heq, -⟩ := hname
    exact ⟨c, tail, heq⟩
  rw [heq] at hname ⊢
  have hread := read_name afterOperand hname
    (hrest.endsRun fun m hm => (mark_ne_part hm).2.1)
  rw [← heq, String.ofList_toList] at hread
  exact .token_append hread h

end Names

/-! ## Numbers -/

open Decimal in
/-- A number is read as such where no operand stands before it. -/
theorem lexes_number {cs rest : List Char} {x : Double} {ls : List Lexeme} (hcs : IsNumberText cs)
    (hx : numberOf? cs = some x) (hrest : ∀ c, rest.head? = some c → isNumberPart c = false)
    (h : Lexes true rest ls) : Lexes false (cs ++ rest) (.number x :: ls) := by
  obtain ⟨s, d, tail, rfl, hd, htail⟩ := hcs
  have hdigit := isDigit_digitChar hd
  cases s with
  | true =>
    have hpart : isNumberPart (digitChar d) = true := by simp [isNumberPart, hdigit]
    exact .token_append (read_numeral (.inr ⟨rfl, rfl, hdigit⟩)
      (List.forall_mem_cons.mpr ⟨hpart, htail⟩) hx hrest) h
  | false => exact .token_append (read_numeral (.inl hdigit) htail hx hrest) h

/-! ## What follows an operand -/

/-- A text that may stand after an operand, and is read as these lexemes there and elsewhere. -/
def Follows (rest : List Char) (ls : List Lexeme) : Prop :=
  Marked rest ∧ ∀ afterOperand, Lexes afterOperand rest ls

theorem marked_cons {c : Char} (rest : List Char) (hc : c ∈ marks) : Marked (c :: rest) := by
  intro d hd
  cases hd
  exact hc

section Follows

variable {rest : List Char} {ls : List Lexeme}

theorem follows_nil : Follows [] [] :=
  ⟨fun c hc => by simp at hc, fun _ => .nil⟩

theorem follows_rparen (h : Lexes true rest ls) : Follows (')' :: rest) (.rparen :: ls) :=
  ⟨marked_cons rest (by decide), fun _ => lexes_rparen h⟩

theorem follows_rbracket (h : Lexes true rest ls) : Follows (']' :: rest) (.rbracket :: ls) :=
  ⟨marked_cons rest (by decide), fun _ => lexes_rbracket h⟩

theorem follows_comma (h : Lexes false rest ls) : Follows (',' :: ' ' :: rest) (.comma :: ls) :=
  ⟨marked_cons _ (by decide), fun _ => lexes_comma (lexes_space h)⟩

theorem follows_operator (op : Operator) (h : Lexes false rest ls) :
    Follows (' ' :: (op.spelling.toList ++ ' ' :: rest)) (.operator op :: ls) :=
  ⟨marked_cons _ (by decide), fun _ => lexes_space (lexes_operator op h)⟩

end Follows

end Formula
