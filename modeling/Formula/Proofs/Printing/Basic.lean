import Formula.Expr.Print
import Formula.Proofs.Grammar.Basic
import Formula.Proofs.Scanning.Head

/-!
# Formula.Proofs.Printing.Basic

The printed form of an expression as lexemes. `Printable` is what holds of every expression that
comes out of a source text: its names and strings are in the notation of their kinds, `!` is its
only unary operator and no binary one. The text of a printable expression is read as
`Expr.lexemes`, up to what follows it (`lexes_print`).
-/

namespace Formula

/-- The expressions that source texts have. -/
inductive Expr.Printable : Expr → Prop where
  | number (x : Double) : Printable (.literal (.number x))
  | string {s : String} : '\'' ∉ s.toList → Printable (.literal (.string s))
  | boolean (b : Bool) : Printable (.literal (.boolean b))
  | var {name : String} : IsVariableName name.toList → Printable (.var name)
  | index {name : String} {i : Expr} :
      IsVariableName name.toList → Printable i → Printable (.index name i)
  | call {function : String} {args : List Expr} :
      IsFunctionName function.toList → (∀ arg ∈ args, Printable arg) →
      Printable (.call function args)
  | unary {operand : Expr} : Printable operand → Printable (.unary .not operand)
  | binary {left right : Expr} {op : Operator} {tier : Nat} :
      Printable left → op ∈ Grammar.operators tier → Printable right →
      Printable (.binary left op right)

open Grammar in
theorem printable_of_derives {tier : Nat} {ts : List Token} {e : Expr} (h : Derives tier ts e)
    (hts : ∀ t ∈ ts, t.lexeme.Written) : e.Printable := by
  induction h with
  | number => exact .number _
  | @string t s hl =>
    have hw := hts t (by simp)
    rw [hl] at hw
    exact .string hw
  | boolean => exact .boolean _
  | @var t name hl =>
    have hw := hts t (by simp)
    rw [hl] at hw
    exact .var hw
  | @index t _ _ name ts i hl _ _ _ ih =>
    have hw := hts t (by simp)
    rw [hl] at hw
    exact .index hw (ih fun u hu => hts u (by simp [hu]))
  | @call t _ _ name args ts hl _ _ hsep _ ih =>
    have hw := hts t (by simp)
    rw [hl] at hw
    refine .call hw fun e he => ?_
    obtain ⟨arg, harg, rfl⟩ := List.mem_map.mp he
    refine ih arg harg fun u hu => hts u ?_
    have hmem := hsep.mem (List.mem_map_of_mem harg) hu
    simp [hmem]
  | group _ _ _ ih => exact ih fun u hu => hts u (by simp [hu])
  | negation _ _ ih => exact .unary (ih fun u hu => hts u (by simp [hu]))
  | operand _ _ ih => exact ih hts
  | binary _ hmem _ _ ihl ihr =>
    exact .binary (ihl fun u hu => hts u (by simp [hu])) hmem
      (ihr fun u hu => hts u (by simp [hu]))

/-! ## Lexemes -/

/-- The lexemes that the display of a number is read as. -/
def Double.lexemes (x : Double) : List Lexeme :=
  (scan x.display).tokens.map Token.lexeme

namespace Expr

mutual

/-- The lexemes of the printed form. -/
def lexemes : Expr → List Lexeme
  | literal (.number x) => x.lexemes
  | literal (.string s) => [.string s]
  | literal (.boolean b) => [.boolean b]
  | var name => [.var name]
  | index name i => .var name :: .lbracket :: (lexemes i ++ [.rbracket])
  | call function args => .identifier function :: .lparen :: (lexemesAll args ++ [.rparen])
  | unary op operand => .operator op :: lexemes operand
  | binary left op right =>
    .lparen :: (lexemes left ++ .operator op :: (lexemes right ++ [.rparen]))

def lexemesAll : List Expr → List Lexeme
  | [] => []
  | [arg] => lexemes arg
  | arg :: rest => lexemes arg ++ .comma :: lexemesAll rest

end

mutual

/-- The numbers among the literals. -/
def numbers : Expr → List Double
  | literal (.number x) => [x]
  | literal _ | var _ => []
  | index _ i => numbers i
  | call _ args => numbersAll args
  | unary _ operand => numbers operand
  | binary left _ right => numbers left ++ numbers right

def numbersAll : List Expr → List Double
  | [] => []
  | arg :: rest => numbers arg ++ numbersAll rest

end

mutual

/-- The expression with all zeros positive. -/
def positiveZeros : Expr → Expr
  | literal (.number x) => literal (.number x.positiveZero)
  | literal value => literal value
  | var name => var name
  | index name i => index name (positiveZeros i)
  | call function args => call function (positiveZerosAll args)
  | unary op operand => unary op (positiveZeros operand)
  | binary left op right => binary (positiveZeros left) op (positiveZeros right)

def positiveZerosAll : List Expr → List Expr
  | [] => []
  | arg :: rest => positiveZeros arg :: positiveZerosAll rest

end

end Expr

/-! ## The display of numbers -/

theorem Decimal.IsNumberText.head {cs : List Char} (h : IsNumberText cs) :
    ∃ c rest, cs = c :: rest ∧ c ≠ '=' := by
  obtain ⟨s, d, tail, rfl, hd, _⟩ := h
  cases s with
  | true => exact ⟨'-', _, rfl, by decide⟩
  | false =>
    have hall : ∀ i : Fin 10, digitChar i ≠ '=' := by decide
    exact ⟨digitChar d, tail, rfl, hall ⟨d, hd⟩⟩

namespace Double

theorem display_toList (x : Double) : x.display.toList = x.displayChars :=
  String.toList_ofList

/-- The lexemes of a display are found by reading it before any text that may follow. -/
theorem lexemes_eq {x : Double} {ks : List Lexeme}
    (h : ∀ rest ls, Follows rest ls → Lexes false (x.displayChars ++ rest) (ks ++ ls)) :
    x.lexemes = ks := by
  have hall := h [] [] follows_nil
  rw [List.append_nil, List.append_nil, ← display_toList] at hall
  exact ((lexes_iff_scanFrom 0).mp hall).2

theorem lexes_word {word : String} (hword : IsFunctionName word.toList) {rest : List Char}
    {ls : List Lexeme} (h : Follows rest ls) :
    Lexes false (word.toList ++ rest) (.identifier word :: ls) :=
  lexes_identifier hword h.1 (h.2 false)

theorem inf_name : IsFunctionName "inf".toList :=
  ⟨'i', ['n', 'f'], rfl, by decide, by decide, List.all_eq_true.mp (by decide), by decide,
    by decide⟩

theorem nan_name : IsFunctionName "nan".toList :=
  ⟨'n', ['a', 'n'], rfl, by decide, by decide, List.all_eq_true.mp (by decide), by decide,
    by decide⟩

/-- What the display of a number that is not plain is read as: an identifier, with the numbers
around it if there are digits. -/
theorem display_not_plain {x : Double} (hx : ¬ x.Plain) : ∃ before name after,
    (∀ l, after.head? = some l → l.kind = .number) ∧
    (∀ rest ls, Follows rest ls →
      Lexes false (x.displayChars ++ rest) ((before ++ .identifier name :: after) ++ ls)) ∧
    ∃ c cs, x.displayChars = c :: cs ∧ c ≠ '=' := by
  cases x with
  | nan =>
    exact ⟨[], "nan", [], by simp, fun rest ls h => lexes_word nan_name h, 'n', _, rfl, by decide⟩
  | infinite s =>
    cases s with
    | true =>
      refine ⟨[.operator .minus], "inf", [], by simp, fun rest ls h => ?_, '-', _, rfl, by decide⟩
      exact .mark rfl (lexes_word inf_name h)
    | false =>
      exact ⟨[], "inf", [], by simp, fun rest ls h => lexes_word inf_name h, 'i', _, rfl, by decide⟩
  | finite s n hn =>
    obtain ⟨mantissa, exponent, y, z, heq, hmantissa, hy, hexponent, hz⟩ := display_small hx
    rw [heq]
    refine ⟨[.number y], "e", [.number z], by simp [Lexeme.kind], fun rest ls h => ?_, ?_⟩
    · have hnumber : ∀ c, rest.head? = some c → isNumberPart c = false :=
        fun c hc => (mark_ne_part (h.1 c hc)).2.2.1
      have htail : Lexes false ('-' :: exponent ++ rest) (.number z :: ls) :=
        lexes_number hexponent hz hnumber (h.2 true)
      have hword : read true 'e' ('-' :: exponent ++ rest) = .token (.identifier "e") 0 := rfl
      have he : Lexes true ('e' :: ('-' :: exponent ++ rest)) (.identifier "e" :: .number z :: ls) :=
        .mark hword htail
      rw [List.append_assoc]
      refine lexes_number hmantissa hy (fun c hc => ?_) he
      cases hc
      decide
    · obtain ⟨c, cs, rfl, hc⟩ := hmantissa.head
      exact ⟨c, _, rfl, hc⟩

theorem lexes_plain {x : Double} (hx : x.Plain) {rest : List Char} {ls : List Lexeme}
    (h : Follows rest ls) :
    Lexes false (x.displayChars ++ rest) ([.number x.positiveZero] ++ ls) := by
  obtain ⟨htext, hvalue⟩ := numberOf_display hx
  exact lexes_number htext hvalue (fun c hc => (mark_ne_part (h.1 c hc)).2.2.1) (h.2 true)

theorem lexemes_plain {x : Double} (hx : x.Plain) : x.lexemes = [.number x.positiveZero] :=
  lexemes_eq fun _ _ => lexes_plain hx

theorem lexes_display (x : Double) {rest : List Char} {ls : List Lexeme} (h : Follows rest ls) :
    Lexes false (x.displayChars ++ rest) (x.lexemes ++ ls) := by
  by_cases hx : x.Plain
  · rw [lexemes_plain hx]
    exact lexes_plain hx h
  · obtain ⟨before, name, after, _, hlexes, _⟩ := display_not_plain hx
    rw [lexemes_eq hlexes]
    exact hlexes rest ls h

theorem display_head (x : Double) : ∃ c cs, x.displayChars = c :: cs ∧ c ≠ '=' := by
  by_cases hx : x.Plain
  · exact (numberOf_display hx).1.head
  · obtain ⟨_, _, _, _, _, hhead⟩ := display_not_plain hx
    exact hhead

end Double

/-! ## The text of expressions -/

namespace Expr

theorem printable_head {e : Expr} (h : e.Printable) :
    ∃ c, e.print.toList.head? = some c ∧ c ≠ '=' := by
  cases h with
  | number x =>
    obtain ⟨c, cs, heq, hc⟩ := x.display_head
    exact ⟨c, by rw [print, Literal.print, Double.display_toList, heq, List.head?_cons], hc⟩
  | string _ => exact ⟨'\'', by simp [print, Literal.print], by decide⟩
  | boolean b =>
    cases b with
    | true => exact ⟨'t', rfl, by decide⟩
    | false => exact ⟨'f', rfl, by decide⟩
  | var hname | index hname _ =>
    obtain ⟨c, first, tail, heq, hc, _⟩ := hname
    refine ⟨c, by simp [print, heq], ?_⟩
    rcases hc with rfl | rfl <;> decide
  | call hname _ =>
    obtain ⟨c, tail, heq, hletter, _⟩ := hname
    refine ⟨c, by simp [print, heq], ?_⟩
    rintro rfl
    exact not_mark_of_letter hletter (by decide)
  | unary _ => exact ⟨'!', by simp [print, Operator.spelling], by decide⟩
  | binary _ _ _ => exact ⟨'(', by simp [print], by decide⟩

/-- The text of an expression is read as its lexemes before whatever follows. -/
def LexesBefore (e : Expr) : Prop :=
  ∀ rest ls, Follows rest ls → Lexes false (e.print.toList ++ rest) (e.lexemes ++ ls)

theorem lexes_printAll {args : List Expr} (hargs : ∀ arg ∈ args, LexesBefore arg)
    {rest : List Char} {ls : List Lexeme} (h : Lexes true rest ls) :
    Lexes false ((printAll args).toList ++ ')' :: rest) (lexemesAll args ++ .rparen :: ls) := by
  induction args with
  | nil => exact lexes_rparen h
  | cons arg others ih =>
    have harg := hargs arg (by simp)
    have hothers := ih fun a ha => hargs a (by simp [ha])
    cases others with
    | nil => exact harg _ _ (follows_rparen h)
    | cons second others =>
      have hfollow := harg _ _ (follows_comma hothers)
      simpa [printAll, lexemesAll] using hfollow

theorem lexes_print {e : Expr} (h : e.Printable) : LexesBefore e := by
  induction h with
  | number x =>
    intro rest ls hf
    rw [print, Literal.print, Double.display_toList]
    exact x.lexes_display hf
  | @string s hs =>
    intro rest ls hf
    have hstring : Lexes false _ _ := lexes_string hs (hf.2 true)
    simpa [print, Literal.print, lexemes] using hstring
  | boolean b =>
    intro rest ls hf
    cases b with
    | true => exact lexes_true (hf.2 true)
    | false => exact lexes_false (hf.2 true)
  | var hname =>
    intro rest ls hf
    exact lexes_var hname hf.1 (hf.2 true)
  | @index name i hname _ ih =>
    intro rest ls hf
    have hindex := ih _ _ (follows_rbracket (hf.2 true))
    have hvar : Lexes false _ _ := lexes_var hname (marked_cons _ (by decide))
      (lexes_lbracket hindex)
    simpa [print, lexemes] using hvar
  | @call function args hname _ ih =>
    intro rest ls hf
    have hcall : Lexes false _ _ := lexes_identifier hname (marked_cons _ (by decide))
      (lexes_lparen (lexes_printAll ih (hf.2 true)))
    simpa [print, lexemes] using hcall
  | @unary operand hoperand ih =>
    intro rest ls hf
    obtain ⟨c, hhead, hc⟩ := printable_head hoperand
    obtain ⟨cs, heq⟩ := List.head?_eq_some_iff.mp hhead
    have hinside := ih rest ls hf
    rw [heq] at hinside
    have hnot : Lexes false _ _ := lexes_not hc hinside
    simpa [print, lexemes, Operator.spelling, heq] using hnot
  | @binary left right op tier _ _ _ ihl ihr =>
    intro rest ls hf
    have hright := ihr _ _ (follows_rparen (hf.2 true))
    have hleft := ihl _ _ (follows_operator op hright)
    have hgroup : Lexes false _ _ := lexes_lparen hleft
    simpa [print, lexemes] using hgroup

theorem tokenize_print {e : Expr} (h : e.Printable) :
    ∃ tokens, tokenize e.print = .ok tokens ∧ tokens.map Token.lexeme = e.lexemes := by
  have hall := lexes_print h [] [] follows_nil
  rw [List.append_nil, List.append_nil] at hall
  exact tokenize_of_lexes hall

end Expr
end Formula
