import Formula.Proofs.Scanning.Basic

/-!
# Formula.Proofs.Scanning.Places

Where the tokens of a source text stand and how they are written there. What is read at the head of
a text is spelled as its kind is spelled, and means what a text of that kind means (`read_spelled`).
A text that is read to its end is laid out as its tokens with layout between them (`Laid`), so that
the tokens and the layout make up the whole text (`tokenize_layout`).
-/

namespace Formula

/-! ## Spellings -/

/-- An optional minus, a digit, then digits and points. -/
def IsNumeral (cs : List Char) : Prop :=
  ∃ sign d tail, cs = sign ++ d :: tail ∧ (sign = [] ∨ sign = ['-']) ∧ Text.isDigit d = true ∧
    ∀ c ∈ tail, isNumberPart c = true

namespace TokenKind

/-- How the texts of a kind of tokens are spelled. -/
def Spelling : TokenKind → List Char → Prop
  | number, cs => IsNumeral cs
  | string, cs => ∃ body, cs = '\'' :: (body ++ ['\'']) ∧ '\'' ∉ body
  | boolean, cs => cs = trueWord ∨ cs = falseWord
  | identifier, cs => IsFunctionName cs
  | var, cs => IsVariableName cs
  | operator, cs => ∃ op : Operator, cs = op.spelling.toList
  | lparen, cs => cs = ['(']
  | rparen, cs => cs = [')']
  | comma, cs => cs = [',']
  | lbracket, cs => cs = ['[']
  | rbracket, cs => cs = [']']

/-- The lexeme that a text of a kind stands for. -/
def meaning? : TokenKind → List Char → Option Lexeme
  | number, cs => (numberOf? cs).map .number
  | string, cs => some (.string (String.ofList cs.tail.dropLast))
  | boolean, cs => some (.boolean (cs = trueWord))
  | identifier, cs => some (.identifier (String.ofList cs))
  | var, cs => some (.var (String.ofList cs))
  | operator, cs => (Operator.ofSpelling? (String.ofList cs)).map .operator
  | lparen, _ => some .lparen
  | rparen, _ => some .rparen
  | comma, _ => some .comma
  | lbracket, _ => some .lbracket
  | rbracket, _ => some .rbracket

end TokenKind

/-- The text is a spelling of the lexeme's kind and means this lexeme. -/
structure Lexeme.Spelled (l : Lexeme) (cs : List Char) : Prop where
  spelling : l.kind.Spelling cs
  meaning : l.kind.meaning? cs = some l

theorem Lexeme.Spelled.ne_nil {l : Lexeme} {cs : List Char} (h : l.Spelled cs) : cs ≠ [] := by
  have hs := h.spelling
  rintro rfl
  cases l with
  | number x =>
    obtain ⟨sign, d, tail, heq, _⟩ := hs
    simp at heq
  | string s =>
    obtain ⟨body, heq, _⟩ := hs
    cases heq
  | boolean b => rcases hs with heq | heq <;> cases heq
  | identifier name =>
    obtain ⟨c, tail, heq, _⟩ := hs
    cases heq
  | var name =>
    obtain ⟨c, first, tail, heq, _⟩ := hs
    cases heq
  | operator op =>
    obtain ⟨o, heq⟩ := hs
    cases o <;> cases heq
  | lparen | rparen | comma | lbracket | rbracket => cases hs

/-- A token that takes `extra` characters after the first: so many there are, and the text that
they make is spelled as the lexeme. -/
def SpelledAt (l : Lexeme) (c : Char) (rest : List Char) (extra : Nat) : Prop :=
  extra ≤ rest.length ∧ l.Spelled (c :: rest.take extra)

section Read

variable {c : Char} {rest : List Char} {l : Lexeme} {extra : Nat}

theorem take_length_takeWhile (p : Char → Bool) (cs : List Char) :
    cs.take (cs.takeWhile p).length = cs.takeWhile p :=
  (List.prefix_iff_eq_take.mp (List.takeWhile_prefix p)).symm

theorem spelledAt_takeWhile {p : Char → Bool} (h : l.Spelled (c :: rest.takeWhile p)) :
    SpelledAt l c rest (rest.takeWhile p).length :=
  ⟨(List.takeWhile_prefix p).length_le, by rwa [take_length_takeWhile]⟩

theorem spelledAt_readNumber
    (hc : Text.isDigit c = true ∨ c = '-' ∧ startsWithDigit rest = true)
    (h : readNumber c rest = .token l extra) : SpelledAt l c rest extra := by
  unfold readNumber at h
  dsimp only at h
  split at h
  · rename_i x hx
    cases h
    refine spelledAt_takeWhile ⟨?_, by simp [Lexeme.kind, TokenKind.meaning?, hx]⟩
    rcases hc with hdigit | ⟨rfl, hdigit⟩
    · exact ⟨[], c, _, rfl, .inl rfl, hdigit, fun x hx => List.mem_takeWhile_imp hx⟩
    · cases rest with
      | nil => cases hdigit
      | cons d more =>
        have hd : Text.isDigit d = true := hdigit
        rw [List.takeWhile_cons_of_pos (by simp [isNumberPart, hd])]
        exact ⟨['-'], d, _, rfl, .inr rfl, hd, fun x hx => List.mem_takeWhile_imp hx⟩
  · cases h

theorem spelledAt_readVariable (hc : c = '#' ∨ c = '$') (h : readVariable c rest = .token l extra) :
    SpelledAt l c rest extra := by
  have hwritten := written_readVariable hc h
  unfold readVariable at h
  split at h
  · cases h
  · split at h
    · dsimp only at h
      split at h
      · cases h
      · cases h
        rw [Lexeme.Written, String.toList_ofList] at hwritten
        exact spelledAt_takeWhile ⟨hwritten, rfl⟩
    · cases h

/-- What stands before the first quote, if there is one, and after it. -/
theorem exists_of_quote (h : (rest.takeWhile (· ≠ '\'')).length ≠ rest.length) :
    ∃ more, rest = rest.takeWhile (· ≠ '\'') ++ '\'' :: more := by
  cases hdrop : rest.dropWhile (· ≠ '\'') with
  | nil =>
    rw [List.dropWhile_eq_nil_iff, ← List.takeWhile_eq_self_iff] at hdrop
    rw [hdrop] at h
    exact absurd rfl h
  | cons d more =>
    have hne : rest.dropWhile (· ≠ '\'') ≠ [] := by
      rw [hdrop]
      exact List.cons_ne_nil d more
    have hquote : d = '\'' := by
      have hhead := List.head_dropWhile_not (· ≠ '\'') hne
      simp only [hdrop, List.head_cons] at hhead
      simpa using hhead
    subst hquote
    refine ⟨more, ?_⟩
    rw [← hdrop, List.takeWhile_append_dropWhile]

theorem spelledAt_readString (h : readString rest = .token l extra) :
    SpelledAt l '\'' rest extra := by
  have hwritten := written_readString h
  unfold readString at h
  dsimp only at h
  split at h
  · cases h
  · rename_i hlength
    cases h
    rw [Lexeme.Written, String.toList_ofList] at hwritten
    obtain ⟨more, hmore⟩ := exists_of_quote hlength
    generalize rest.takeWhile (· ≠ '\'') = body at hwritten hmore
    subst hmore
    refine ⟨by simp, ?_⟩
    rw [List.take_length_add_append]
    exact ⟨⟨body, rfl, hwritten⟩, by simp [Lexeme.kind, TokenKind.meaning?]⟩

theorem spelledAt_readIdentifier (hletter : Text.isLetter c = true)
    (hdigit : Text.isDigit c = false) (htrue : ¬ trueWord <+: c :: rest)
    (hfalse : ¬ falseWord <+: c :: rest) (h : readIdentifier c rest = .token l extra) :
    SpelledAt l c rest extra := by
  have hwritten := written_readIdentifier hletter hdigit htrue hfalse h
  cases h
  rw [Lexeme.Written, String.toList_ofList] at hwritten
  exact spelledAt_takeWhile ⟨hwritten, rfl⟩

theorem spelled_punctuation (h : punctuation? c = some l) : l.Spelled [c] := by
  unfold punctuation? at h
  split at h <;> cases h <;> exact ⟨rfl, rfl⟩

theorem spelled_operator (op : Operator) : (Lexeme.operator op).Spelled op.spelling.toList where
  spelling := ⟨op, rfl⟩
  meaning := by simp [Lexeme.kind, TokenKind.meaning?, Operator.ofSpelling_spelling]

theorem spelling_of_double {c d : Char} {op : Operator} (h : doubleOperator? c d = some op) :
    op.spelling.toList = [c, d] := by
  unfold doubleOperator? at h
  split at h <;> cases h <;> rfl

theorem spelling_of_single {op : Operator} (h : singleOperator? c = some op) :
    op.spelling.toList = [c] := by
  unfold singleOperator? at h
  split at h <;> cases h <;> rfl

theorem spelledAt_operator {op : Operator} (h : operatorAt? c rest = some (op, extra)) :
    SpelledAt (.operator op) c rest extra := by
  unfold operatorAt? at h
  split at h
  · rename_i found hfound
    cases h
    cases rest with
    | nil => cases hfound
    | cons d more =>
      refine ⟨by simp, ?_⟩
      have hspelling := spelling_of_double hfound
      have hspelled := spelled_operator op
      rw [hspelling] at hspelled
      exact hspelled
  · obtain ⟨found, hfound, heq⟩ := Option.map_eq_some_iff.mp h
    cases heq
    refine ⟨by simp, ?_⟩
    have hspelled := spelled_operator op
    rw [spelling_of_single hfound] at hspelled
    exact hspelled

theorem spelled_true : (Lexeme.boolean true).Spelled trueWord :=
  ⟨.inl rfl, rfl⟩

theorem spelled_false : (Lexeme.boolean false).Spelled falseWord :=
  ⟨.inr rfl, rfl⟩

theorem spelledAt_word {d : Char} {word : List Char} (h : (d :: word) <+: c :: rest)
    (hspelled : l.Spelled (d :: word)) : SpelledAt l c rest word.length := by
  obtain ⟨rfl, hword⟩ := List.cons_prefix_cons.mp h
  exact ⟨hword.length_le, by rwa [← List.prefix_iff_eq_take.mp hword]⟩

/-- What is read as a token is spelled as its kind and means the lexeme. -/
theorem read_spelled {afterOperand : Bool} (h : read afterOperand c rest = .token l extra) :
    SpelledAt l c rest extra := by
  cases reads_of_read h with
  | trueValue hword => exact spelledAt_word hword spelled_true
  | falseValue hword => exact spelledAt_word hword spelled_false
  | var hc h => exact spelledAt_readVariable hc h
  | string hc h =>
    subst hc
    exact spelledAt_readString h
  | number hc h => exact spelledAt_readNumber (hc.imp_right fun hminus => ⟨hminus.1, hminus.2.2⟩) h
  | punctuation hl => exact ⟨Nat.zero_le _, spelled_punctuation hl⟩
  | operator hop => exact spelledAt_operator hop
  | identifier hletter hdigit htrue hfalse h =>
    exact spelledAt_readIdentifier hletter hdigit htrue hfalse h

end Read

/-! ## Layout -/

/-- From a position on, the text consists of these tokens, each spelled as its lexeme, and of
characters that are skipped. -/
inductive Laid : Nat → List Char → List Token → Prop where
  | nil {position : Nat} : Laid position [] []
  | skip {position : Nat} {c : Char} {rest : List Char} {tokens : List Token} :
      isLayout c = true → Laid (position + 1) rest tokens → Laid position (c :: rest) tokens
  | token {t : Token} {rest : List Char} {tokens : List Token} :
      t.lexeme.Spelled t.text.toList → Laid (t.position + t.text.length) rest tokens →
      Laid t.position (t.text.toList ++ rest) (t :: tokens)

/-- The scanner skips layout only. -/
theorem isLayout_of_skip {afterOperand : Bool} {c : Char} {rest : List Char}
    (h : read afterOperand c rest = .skip) : isLayout c = true := by
  by_contra hlayout
  unfold read readVariable readString readNumber readIdentifier at h
  rw [if_neg hlayout] at h
  dsimp only at h
  repeat' split at h
  all_goals cases h

theorem laid_of_scanFrom {position : Nat} {afterOperand : Bool} {cs : List Char}
    (h : (scanFrom position afterOperand cs).failure = none) :
    Laid position cs (scanFrom position afterOperand cs).tokens := by
  induction position, afterOperand, cs using scanFrom.induct with
  | case1 => rw [scanFrom]; exact .nil
  | case2 position afterOperand c rest hr ih =>
    rw [scanFrom, hr] at h ⊢
    exact .skip (isLayout_of_skip hr) (ih h)
  | case3 position afterOperand c rest l extra hr ih =>
    rw [scanFrom, hr] at h ⊢
    obtain ⟨hextra, hspelled⟩ := read_spelled hr
    let t : Token := ⟨l, position, String.ofList (c :: rest.take extra)⟩
    have htext : t.text.toList = c :: rest.take extra := String.toList_ofList
    have hlength : t.text.length = 1 + extra := by
      rw [← String.length_toList, htext]
      simp [Nat.min_eq_left hextra, Nat.add_comm]
    have hcs : c :: rest = t.text.toList ++ rest.drop extra := by
      rw [htext, List.cons_append, List.take_append_drop]
    rw [hcs]
    refine Laid.token (t := t) (by rwa [htext]) ?_
    rw [hlength, ← Nat.add_assoc]
    exact ih h
  | case4 position afterOperand c rest cause hr =>
    rw [scanFrom, hr] at h
    cases h

namespace Laid

variable {position : Nat} {cs : List Char} {tokens : List Token}

theorem spelled (h : Laid position cs tokens) : ∀ t ∈ tokens, t.lexeme.Spelled t.text.toList := by
  induction h with
  | nil => simp
  | skip _ _ ih => exact ih
  | token hspelled _ ih => simpa [hspelled] using ih

theorem le_position (h : Laid position cs tokens) : ∀ t ∈ tokens, position ≤ t.position := by
  induction h with
  | nil => simp
  | skip _ _ ih => exact fun t ht => Nat.le_of_succ_le (ih t ht)
  | token _ _ ih =>
    intro t ht
    rcases List.mem_cons.mp ht with rfl | ht
    · exact Nat.le_refl _
    · exact Nat.le_of_add_right_le (ih t ht)

theorem le_end (h : Laid position cs tokens) :
    ∀ t ∈ tokens, t.position + t.text.length ≤ position + cs.length := by
  induction h with
  | nil => simp
  | skip _ _ ih =>
    intro t ht
    rw [List.length_cons, Nat.add_comm _ 1, ← Nat.add_assoc]
    exact ih t ht
  | @token u rest tokens _ _ ih =>
    intro t ht
    rw [List.length_append, String.length_toList, ← Nat.add_assoc]
    rcases List.mem_cons.mp ht with rfl | ht
    · exact Nat.le_add_right _ _
    · exact ih t ht

/-- Each token ends before the next one starts. -/
theorem pairwise (h : Laid position cs tokens) :
    tokens.Pairwise fun a b => a.position + a.text.length ≤ b.position := by
  induction h with
  | nil => exact .nil
  | skip _ _ ih => exact ih
  | token _ hrest ih => exact .cons hrest.le_position ih

/-- The text of each token is what the whole text has at its position. -/
theorem slice (h : Laid position cs tokens) : ∀ before : List Char, before.length = position →
    ∀ t ∈ tokens, ((before ++ cs).drop t.position).take t.text.length = t.text.toList := by
  induction h with
  | nil => simp
  | @skip position c rest tokens _ _ ih =>
    intro before hbefore t ht
    have hcs : before ++ c :: rest = (before ++ [c]) ++ rest := by simp
    rw [hcs]
    exact ih (before ++ [c]) (by simp [hbefore]) t ht
  | @token u rest tokens _ _ ih =>
    intro before hbefore t ht
    rcases List.mem_cons.mp ht with rfl | ht
    · rw [← hbefore, List.drop_left, ← String.length_toList, List.take_left]
    · rw [← List.append_assoc]
      exact ih (before ++ u.text.toList) (by simp [hbefore, String.length_toList]) t ht

/-- A character in none of the tokens is one that is skipped. -/
theorem layout (h : Laid position cs tokens) : ∀ i c, cs[i]? = some c →
    (∀ t ∈ tokens, position + i < t.position ∨ t.position + t.text.length ≤ position + i) →
    isLayout c = true := by
  induction h with
  | nil => simp
  | @skip position c rest tokens hc _ ih =>
    intro i d hd houtside
    cases i with
    | zero =>
      cases hd
      exact hc
    | succ i =>
      refine ih i d hd fun t ht => ?_
      rw [Nat.add_assoc, Nat.add_comm 1 i]
      exact houtside t ht
  | @token u rest tokens _ _ ih =>
    intro i d hd houtside
    have hu : u.text.length ≤ i := by
      rcases houtside u (by simp) with hlt | hle
      · omega
      · omega
    rw [List.getElem?_append_right (by rwa [String.length_toList])] at hd
    refine ih (i - u.text.toList.length) d hd fun t ht => ?_
    have hthis := houtside t (by simp [ht])
    rw [String.length_toList]
    omega

end Laid

/-- The tokens of a text stand in it one after the other without overlapping, each where its
position says and as its text says. All other characters of the text are spaces, tabs and newlines.
The text of a token is spelled as its kind is, and kind and text determine the lexeme. -/
theorem tokenize_layout {source : String} {tokens : List Token} (h : tokenize source = .ok tokens) :
    tokens.Pairwise (fun a b => a.position < b.position) ∧
    tokens.Pairwise (fun a b => a.position + a.text.length ≤ b.position) ∧
    (∀ t ∈ tokens, (source.toList.drop t.position).take t.text.length = t.text.toList) ∧
    (∀ i c, source.toList[i]? = some c →
      (∀ t ∈ tokens, i < t.position ∨ t.position + t.text.length ≤ i) →
      c = ' ' ∨ c = '\t' ∨ c = '\n') ∧
    ∀ t ∈ tokens, t.kind.Spelling t.text.toList ∧ t.kind.meaning? t.text.toList = some t.lexeme := by
  unfold tokenize at h
  split at h
  · rename_i hfailure
    cases h
    have hlaid : Laid 0 source.toList (scan source).tokens := laid_of_scanFrom hfailure
    have hspelled := hlaid.spelled
    refine ⟨?_, hlaid.pairwise, hlaid.slice [] rfl, fun i c hc houtside => ?_,
      fun t ht => ⟨(hspelled t ht).spelling, (hspelled t ht).meaning⟩⟩
    · refine hlaid.pairwise.imp_of_mem fun {a b} ha _ hab => ?_
      have hpos := List.length_pos_iff.mpr (hspelled a ha).ne_nil
      rw [String.length_toList] at hpos
      omega
    · have hlayout := hlaid.layout i c hc (by simpa using houtside)
      simpa [isLayout, or_assoc] using hlayout
  · cases h

/-- A truth value before a name, and a minus that subtracts before one that belongs to a number. -/
theorem tokenize_layout_fused_minus :
    ∃ tokens, tokenize "trueish(1 --2)" = .ok tokens ∧
      tokens.map Token.position = [0, 4, 7, 8, 10, 11, 13] ∧
      tokens.map Token.text = ["true", "ish", "(", "1", "-", "-2", ")"] ∧
      tokens.Pairwise (fun a b => a.position + a.text.length ≤ b.position) ∧
      ∀ t ∈ tokens, t.kind.meaning? t.text.toList = some t.lexeme := by
  have hscan : scan "trueish(1 --2)" = ⟨[⟨.boolean true, 0, "true"⟩, ⟨.identifier "ish", 4, "ish"⟩,
      ⟨.lparen, 7, "("⟩, ⟨.number (Decimal.toDouble false ⟨1, 0⟩), 8, "1"⟩, ⟨.operator .minus, 10, "-"⟩,
      ⟨.number (Decimal.toDouble true ⟨2, 0⟩), 11, "-2"⟩, ⟨.rparen, 13, ")"⟩], none⟩ := by
    decide +kernel
  have htokens : tokenize "trueish(1 --2)" = .ok (scan "trueish(1 --2)").tokens := by
    rw [tokenize, hscan]
  obtain ⟨-, hpairwise, -, -, hmeaning⟩ := tokenize_layout htokens
  refine ⟨_, htokens, ?_, ?_, hpairwise, fun t ht => (hmeaning t ht).2⟩
  · rw [hscan]
    rfl
  · rw [hscan]
    rfl

end Formula
