import Formula.Proofs.Scanning.Spacing

/-!
# Formula.Proofs.Scanning.Faults

Where reading stops, and why. No token depends on the characters after it, so a text that is cut
where reading stops is read to its end, into the same tokens (`scanFrom_failure`). What stands there
is one of five things that are no lexeme, each with a fault of its own (`BadLexeme`), and the fault
that is reported is the one of what stands there (`tokenize_failure`).
-/

namespace Formula

/-- What stands in the place of a token, and why it is none. -/
inductive BadLexeme (afterOperand : Bool) (c : Char) (rest : List Char) : SyntaxFault → Prop where
  /-- No text that starts here is spelled as a lexeme, and none of the other faults starts here. -/
  | character : (∀ l cs, cs <+: c :: rest → ¬ Lexeme.Spelled l cs) → c ≠ '\'' → c ≠ '#' → c ≠ '$' →
      Text.isDigit c = false → BadLexeme afterOperand c rest (.unexpectedCharacter c)
  | string : c = '\'' → '\'' ∉ rest → BadLexeme afterOperand c rest .unterminatedString
  | variableStart : c = '#' ∨ c = '$' → (∀ d, rest.head? = some d → isNamePart d = false) →
      BadLexeme afterOperand c rest .variableStart
  | variableEnd {d : Char} : c = '#' ∨ c = '$' → rest.head? = some d → isNamePart d = true →
      (rest.takeWhile isVariablePart).getLast? = some '.' →
      BadLexeme afterOperand c rest .variableEnd
  | number : Text.isDigit c = true ∨ c = '-' ∧ afterOperand = false ∧ startsWithDigit rest = true →
      numberOf? (c :: rest.takeWhile isNumberPart) = none →
      BadLexeme afterOperand c rest
        (.invalidNumber (String.ofList (c :: rest.takeWhile isNumberPart)))

section Read

variable {afterOperand : Bool} {c : Char} {rest more others : List Char} {l : Lexeme} {extra : Nat}
  {cause cause' : SyntaxFault}

theorem operatorAt?_eq_none (h : operatorAt? c rest = none) (op : Operator) :
    ¬ op.spelling.toList <+: c :: rest := by
  unfold operatorAt? at h
  split at h
  · cases h
  · rename_i hdouble
    rw [Option.map_eq_none_iff] at h
    intro hstart
    rcases operator_characters op with ⟨first, heq, hop⟩ | ⟨first, second, heq, hop⟩
    · rw [heq] at hstart
      obtain ⟨rfl, -⟩ := List.cons_prefix_cons.mp hstart
      cases h.symm.trans hop
    · rw [heq] at hstart
      obtain ⟨rfl, hsecond⟩ := List.cons_prefix_cons.mp hstart
      obtain ⟨after, rfl⟩ := hsecond
      cases hdouble.symm.trans hop

/-- What no rule reads is the start of no lexeme. -/
theorem not_spelled_of_rules (htrue : ¬ trueWord <+: c :: rest) (hfalse : ¬ falseWord <+: c :: rest)
    (hname : ¬ (c = '#' ∨ c = '$')) (hquote : c ≠ '\'') (hdigit : Text.isDigit c = false)
    (hpunctuation : punctuation? c = none) (hoperator : operatorAt? c rest = none)
    (hletter : ¬ Text.isLetter c = true) (l : Lexeme) (cs : List Char) (hcs : cs <+: c :: rest) :
    ¬ l.Spelled cs := by
  intro hspelled
  have hspelling := hspelled.spelling
  cases l with
  | number x =>
    obtain ⟨sign, d, tail, rfl, rfl | rfl, hd, -⟩ := hspelling
    · obtain ⟨rfl, -⟩ := List.cons_prefix_cons.mp hcs
      cases hdigit.symm.trans hd
    · refine operatorAt?_eq_none hoperator .minus ?_
      exact List.cons_prefix_cons.mpr ⟨(List.cons_prefix_cons.mp hcs).1, List.nil_prefix⟩
  | string s =>
    obtain ⟨body, rfl, -⟩ := hspelling
    exact hquote (List.cons_prefix_cons.mp hcs).1.symm
  | boolean b =>
    rcases hspelling with rfl | rfl
    · exact htrue hcs
    · exact hfalse hcs
  | identifier name =>
    obtain ⟨d, tail, rfl, hd, -⟩ := hspelling
    obtain ⟨rfl, -⟩ := List.cons_prefix_cons.mp hcs
    exact hletter hd
  | var name =>
    obtain ⟨d, first, tail, rfl, hd, -⟩ := hspelling
    obtain ⟨rfl, -⟩ := List.cons_prefix_cons.mp hcs
    exact hname hd
  | operator op =>
    obtain ⟨found, rfl⟩ := hspelling
    exact operatorAt?_eq_none hoperator found hcs
  | lparen | rparen | comma | lbracket | rbracket =>
    cases hspelling
    obtain ⟨rfl, -⟩ := List.cons_prefix_cons.mp hcs
    cases hpunctuation

theorem badLexeme_of_readVariable (hc : c = '#' ∨ c = '$')
    (h : readVariable c rest = .fault cause) : BadLexeme afterOperand c rest cause := by
  unfold readVariable at h
  split at h
  · cases h
    exact .variableStart hc (by simp)
  · rename_i first more
    split at h
    · rename_i hfirst
      dsimp only at h
      split at h
      · rename_i hlast
        cases h
        exact .variableEnd hc rfl hfirst hlast
      · cases h
    · rename_i hfirst
      cases h
      refine .variableStart hc fun d hd => ?_
      cases hd
      exact Bool.not_eq_true _ ▸ hfirst

theorem badLexeme_of_readString (hc : c = '\'') (h : readString rest = .fault cause) :
    BadLexeme afterOperand c rest cause := by
  unfold readString at h
  dsimp only at h
  split at h
  · rename_i hlength
    cases h
    refine .string hc fun hquote => ?_
    have hall := (List.takeWhile_prefix (· ≠ '\'')).eq_of_length hlength
    rw [List.takeWhile_eq_self_iff] at hall
    simpa using hall _ hquote
  · cases h

theorem badLexeme_of_readNumber
    (hc : Text.isDigit c = true ∨ c = '-' ∧ afterOperand = false ∧ startsWithDigit rest = true)
    (h : readNumber c rest = .fault cause) : BadLexeme afterOperand c rest cause := by
  unfold readNumber at h
  dsimp only at h
  split at h
  · cases h
  · rename_i hnone
    cases h
    exact .number hc hnone

/-- Where reading stops, something stands that is no lexeme, and no layout. -/
theorem badLexeme_of_read (h : read afterOperand c rest = .fault cause) :
    isLayout c = false ∧ BadLexeme afterOperand c rest cause := by
  unfold read at h
  split at h
  · cases h
  · rename_i hlayout
    refine ⟨Bool.not_eq_true _ ▸ hlayout, ?_⟩
    split at h
    · cases h
    · rename_i htrue
      split at h
      · cases h
      · rename_i hfalse
        split at h
        · rename_i hc
          exact badLexeme_of_readVariable (by simpa using hc) h
        · rename_i hname
          split at h
          · rename_i hquote
            exact badLexeme_of_readString hquote h
          · rename_i hquote
            split at h
            · rename_i hnumber
              exact badLexeme_of_readNumber (by simpa [and_assoc] using hnumber) h
            · rename_i hnumber
              split at h
              · cases h
              · rename_i hpunctuation
                split at h
                · cases h
                · rename_i hoperator
                  split at h
                  · cases h
                  · rename_i hletter
                    cases h
                    simp only [Bool.or_eq_true, decide_eq_true_eq, not_or] at hname
                    simp only [Bool.or_eq_true, not_or, Bool.not_eq_true] at hnumber
                    refine .character (not_spelled_of_rules (by simpa using htrue)
                      (by simpa using hfalse) (not_or.mpr hname) hquote hnumber.1 hpunctuation
                      hoperator hletter) hquote hname.1 hname.2 hnumber.1

/-- The fault that the first character has if anything is wrong with what it starts. -/
def faultOf (afterOperand : Bool) (c : Char) (rest : List Char) : SyntaxFault :=
  if c = '\'' then .unterminatedString
  else if c = '#' ∨ c = '$' then
    if rest.head?.any isNamePart then .variableEnd else .variableStart
  else if Text.isDigit c ∨ c = '-' ∧ afterOperand = false ∧ startsWithDigit rest then
    .invalidNumber (String.ofList (c :: rest.takeWhile isNumberPart))
  else .unexpectedCharacter c

theorem BadLexeme.eq_faultOf (h : BadLexeme afterOperand c rest cause) :
    cause = faultOf afterOperand c rest := by
  cases h with
  | character hspelled hquote hhash hdollar hdigit =>
    have hminus : c ≠ '-' := by
      rintro rfl
      refine hspelled (.operator .minus) ['-'] ?_ (spelled_operator .minus)
      exact List.cons_prefix_cons.mpr ⟨rfl, List.nil_prefix⟩
    simp [faultOf, hquote, hhash, hdollar, hdigit, hminus]
  | string hc => rw [faultOf, if_pos hc]
  | variableStart hc hhead =>
    have hany : rest.head?.any isNamePart = false := by
      cases hrest : rest.head? with
      | none => rfl
      | some d => exact hhead d hrest
    rcases hc with rfl | rfl <;> simp [faultOf, hany]
  | variableEnd hc hhead hpart =>
    rcases hc with rfl | rfl <;> simp [faultOf, hhead, hpart]
  | number hc =>
    have hmarks : c ≠ '\'' ∧ c ≠ '#' ∧ c ≠ '$' := by
      rcases hc with hdigit | ⟨rfl, -⟩
      · refine ⟨?_, ?_, ?_⟩ <;> rintro rfl <;> exact absurd hdigit (by decide)
      · decide
    simp [faultOf, hmarks, hc]

/-- Nothing has two faults at once. -/
theorem BadLexeme.unique (h : BadLexeme afterOperand c rest cause)
    (h' : BadLexeme afterOperand c rest cause') : cause = cause' :=
  h.eq_faultOf.trans h'.eq_faultOf.symm

/-- What is read does not depend on the characters after it. -/
theorem read_of_append (h : read afterOperand c (more ++ others) = .token l extra)
    (hextra : extra ≤ more.length) : read afterOperand c more = .token l extra := by
  have hends : EndsRun (l.goesOn afterOperand) (more.drop extra) := by
    intro d hd
    refine endsRun_of_read h d ?_
    rw [List.drop_append_of_le_length hextra]
    cases hdrop : more.drop extra with
    | nil => rw [hdrop] at hd; cases hd
    | cons first tail => rwa [hdrop] at hd
  have hfits := fits_of_read h 0
  rw [List.take_append_of_le_length hextra] at hfits
  have hread := read_of_fits hfits String.toList_ofList hends
  rwa [List.take_append_drop, List.length_take_of_le hextra] at hread

end Read

/-- Whether an operand ends with the last token, or did so before the first one. -/
def endsOperandAfter (before : Bool) (tokens : List Token) : Bool :=
  match tokens.getLast? with
  | some t => t.kind.endsOperand
  | none => before

theorem endsOperandAfter_cons (before : Bool) (t : Token) (tokens : List Token) :
    endsOperandAfter before (t :: tokens) = endsOperandAfter t.kind.endsOperand tokens := by
  cases tokens with
  | nil => rfl
  | cons u tokens => rw [endsOperandAfter, endsOperandAfter, List.getLast?_cons_cons]; rfl

/-- A token at the head of a text is read with a part of what follows it as it is with the whole. -/
theorem scanFrom_token {position : Nat} {afterOperand : Bool} {c : Char}
    {rest before others : List Char} {l : Lexeme} {extra : Nat} {tokens : List Token}
    {failure : Option (SyntaxFault × Nat)} (hr : read afterOperand c rest = .token l extra)
    (hdrop : rest.drop extra = before ++ others)
    (h : scanFrom (position + 1 + extra) l.kind.endsOperand before = ⟨tokens, failure⟩) :
    scanFrom position afterOperand (c :: (rest.take extra ++ before)) =
      ⟨⟨l, position, String.ofList (c :: rest.take extra)⟩ :: tokens, failure⟩ := by
  obtain ⟨hextra, -⟩ := read_spelled hr
  have hlength : (rest.take extra).length = extra := List.length_take_of_le hextra
  have hrest : rest = (rest.take extra ++ before) ++ others := by
    rw [List.append_assoc, ← hdrop, List.take_append_drop]
  have hwhole : read afterOperand c ((rest.take extra ++ before) ++ others) = .token l extra := by
    rwa [← hrest]
  have hread : read afterOperand c (rest.take extra ++ before) = .token l extra := by
    refine read_of_append hwhole ?_
    rw [List.length_append, hlength]
    exact Nat.le_add_right extra _
  rw [scanFrom, hread]
  simp only [List.drop_left' hlength, List.take_left' hlength, h]

/-- Reading stops at a character that is read as a fault, and the text before it is read to its
end. -/
theorem scanFrom_failure {position : Nat} {afterOperand : Bool} {cs : List Char}
    {tokens : List Token} {cause : SyntaxFault} {p : Nat}
    (h : scanFrom position afterOperand cs = ⟨tokens, some (cause, p)⟩) :
    ∃ before c rest, cs = before ++ c :: rest ∧ p = position + before.length ∧
      scanFrom position afterOperand before = ⟨tokens, none⟩ ∧
      read (endsOperandAfter afterOperand tokens) c rest = .fault cause := by
  induction position, afterOperand, cs using scanFrom.induct generalizing tokens with
  | case1 =>
    rw [scanFrom] at h
    cases h
  | case2 position afterOperand c rest hr ih =>
    rw [scanFrom, hr] at h
    obtain ⟨before, d, others, rfl, rfl, hbefore, hd⟩ := ih h
    refine ⟨c :: before, d, others, rfl, by simp; omega, ?_, hd⟩
    rw [scanFrom, read_of_isLayout (isLayout_of_skip hr)]
    exact hbefore
  | case3 position afterOperand c rest l extra hr ih =>
    rw [scanFrom, hr] at h
    obtain ⟨hextra, -⟩ := read_spelled hr
    dsimp only at h
    generalize hfollowing : scanFrom (position + 1 + extra) l.kind.endsOperand (rest.drop extra) =
      following at h
    obtain ⟨later, failure⟩ := following
    cases h
    obtain ⟨before, d, others, hdrop, rfl, hbefore, hd⟩ := ih hfollowing
    refine ⟨c :: (rest.take extra ++ before), d, others, ?_, ?_, scanFrom_token hr hdrop hbefore, ?_⟩
    · rw [List.cons_append, List.append_assoc, ← hdrop, List.take_append_drop]
    · rw [List.length_cons, List.length_append, List.length_take_of_le hextra]
      omega
    · rw [endsOperandAfter_cons]
      exact hd
  | case4 position afterOperand c rest cause' hr =>
    rw [scanFrom, hr] at h
    cases h
    exact ⟨[], c, rest, rfl, rfl, by rw [scanFrom], hr⟩

/-- A source text that is refused has a first character that starts no token. Up to there the text
is read as it would be on its own, into the tokens before the failure. The character is no layout
and starts something that is no lexeme, of one kind and no other, and the fault is the one of this
kind. -/
theorem tokenize_failure {source : String} {e : Error} (h : tokenize source = .error e) :
    ∃ cause, ∃ p : Nat, ∃ c, e = .parse cause (some ⟨source, p⟩) ∧ p < source.length ∧
      tokenize (String.ofList (source.toList.take p)) = .ok (scan source).tokens ∧
      source.toList[p]? = some c ∧ (c ≠ ' ' ∧ c ≠ '\t' ∧ c ≠ '\n') ∧
      ∀ cause', BadLexeme (endsOperandAfter false (scan source).tokens) c
        (source.toList.drop (p + 1)) cause' ↔ cause' = cause := by
  unfold tokenize at h
  split at h
  · cases h
  · rename_i cause p hfailure
    cases h
    have hscan : scanFrom 0 false source.toList = ⟨(scan source).tokens, some (cause, p)⟩ := by
      rw [← hfailure]
      rfl
    obtain ⟨before, c, rest, hsource, rfl, hbefore, hread⟩ := scanFrom_failure hscan
    obtain ⟨hlayout, hbad⟩ := badLexeme_of_read hread
    simp only [Nat.zero_add] at *
    have hdrop : source.toList.drop (before.length + 1) = rest := by
      simp [hsource]
    refine ⟨cause, before.length, c, rfl, ?_, ?_, ?_, ?_, fun cause' => ?_⟩
    · rw [← String.length_toList, hsource]
      simp
    · have hcut : scan (String.ofList (source.toList.take before.length)) =
          ⟨(scan source).tokens, none⟩ := by
        rw [scan, String.toList_ofList, hsource, List.take_left]
        exact hbefore
      rw [tokenize, hcut]
    · rw [hsource]
      simp
    · simpa [isLayout, and_assoc] using hlayout
    · rw [hdrop]
      exact ⟨fun h' => h'.unique hbad, fun heq => heq ▸ hbad⟩

/-- A minus that belongs to a malformed number: before it the text ends in an operator that might
have been longer. -/
theorem tokenize_failure_fused_minus :
    let source := "1<-2.3.4 ="
    tokenize source = .error (.parse (.invalidNumber "-2.3.4") (some ⟨source, 2⟩)) ∧
      tokenize "1<" = .ok (scan source).tokens ∧
      (scan source).tokens.map Token.text = ["1", "<"] ∧
      ∀ cause, BadLexeme false '-' "2.3.4 =".toList cause ↔ cause = .invalidNumber "-2.3.4" := by
  intro source
  have hscan : scan source = ⟨[⟨.number (Decimal.toDouble false ⟨1, 0⟩), 0, "1"⟩,
      ⟨.operator .less, 1, "<"⟩], some (.invalidNumber "-2.3.4", 2)⟩ := by
    decide +kernel
  have herror : tokenize source =
      .error (.parse (.invalidNumber "-2.3.4") (some ⟨source, 2⟩)) := by
    rw [tokenize, hscan]
    rfl
  obtain ⟨cause, p, c, he, -, hcut, hc, -, hbad⟩ := tokenize_failure herror
  injection he with hcause hlocation
  injection hlocation with hlocation
  injection hlocation with _ hp
  obtain rfl : p = 2 := Int.ofNat.inj hp.symm
  have hbefore : String.ofList (source.toList.take 2) = "1<" := by decide
  have hminus : source.toList[2]? = some '-' := by decide
  have hafter : source.toList.drop 3 = "2.3.4 =".toList := by decide
  have hoperand : endsOperandAfter false (scan source).tokens = false := by rw [hscan]; rfl
  cases hminus.symm.trans hc
  rw [hbefore] at hcut
  rw [hafter, hoperand, ← hcause] at hbad
  have htexts : (scan source).tokens.map Token.text = ["1", "<"] := by rw [hscan]; rfl
  exact ⟨herror, hcut, htexts, hbad⟩

end Formula
