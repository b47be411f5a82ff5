import Formula.Proofs.Grammar.Dangling
import Formula.Proofs.Printing.Basic

/-!
# Formula.Proofs.Printing.RoundTrip

Printing an expression and parsing the text again. If all its numbers are plain the lexemes of the
printed form are a sentence of the grammar with the same tree, up to the sign of zeros; any other
number leaves a dangling identifier among them. So the text is either parsed into the expression
that was printed or refused (`parseSource_print`).
-/

namespace Formula

open Formula.Grammar

/-! ## Plain numbers -/

theorem derives_arguments {args : List Expr}
    (hargs : ∀ arg ∈ args, ∀ ts : List Token, ts.map Token.lexeme = arg.lexemes →
      Derives primary ts arg.positiveZeros) :
    ∀ ts : List Token, ts.map Token.lexeme = Expr.lexemesAll args →
      ∃ pieces : List (List Token × Expr), pieces.map Prod.snd = Expr.positiveZerosAll args ∧
        (∀ piece ∈ pieces, Derives 1 piece.1 piece.2) ∧
        CommaSeparated (pieces.map Prod.fst) ts := by
  induction args with
  | nil =>
    intro ts hts
    rw [Expr.lexemesAll, List.map_eq_nil_iff] at hts
    subst hts
    exact ⟨[], rfl, by simp, .none⟩
  | cons arg others ih =>
    intro ts hts
    have harg := hargs arg (by simp)
    cases others with
    | nil =>
      have hd : Derives 1 ts arg.positiveZeros := (harg ts hts).loosest
      exact ⟨[(ts, arg.positiveZeros)], rfl, by simpa using hd, .one ts⟩
    | cons second others =>
      rw [Expr.lexemesAll, List.map_eq_append_iff] at hts
      · obtain ⟨first, later, rfl, hfirst, hlater⟩ := hts
        obtain ⟨comma, joined, rfl, hcomma, hjoined⟩ := List.map_eq_cons_iff.mp hlater
        have hd : Derives 1 first arg.positiveZeros := (harg first hfirst).loosest
        obtain ⟨pieces, hsnd, hpieces, hsep⟩ := ih (fun a ha => hargs a (by simp [ha])) joined hjoined
        cases pieces with
        | nil => simp [Expr.positiveZerosAll] at hsnd
        | cons piece pieces =>
          refine ⟨(first, arg.positiveZeros) :: piece :: pieces, ?_, ?_, .more hcomma hsep⟩
          · rw [List.map_cons, hsnd]
            rfl
          · intro p hp
            rcases List.mem_cons.mp hp with rfl | hp
            · exact hd
            · exact hpieces p hp
      · simp

theorem mem_numbersAll {args : List Expr} {arg : Expr} (h : arg ∈ args) {x : Double}
    (hx : x ∈ arg.numbers) : x ∈ Expr.numbersAll args := by
  induction args with
  | nil => simp at h
  | cons first others ih =>
    rw [Expr.numbersAll, List.mem_append]
    rcases List.mem_cons.mp h with rfl | h
    · exact .inl hx
    · exact .inr (ih h)

/-- The printed form of an expression with plain numbers is a primary with the same tree. -/
theorem derives_of_printable {e : Expr} (h : e.Printable) :
    (∀ x ∈ e.numbers, x.Plain) → ∀ ts : List Token, ts.map Token.lexeme = e.lexemes →
      Derives primary ts e.positiveZeros := by
  induction h with
  | number x =>
    intro hplain ts hts
    rw [Expr.lexemes, Double.lexemes_plain (hplain x (by simp [Expr.numbers]))] at hts
    obtain ⟨t, rfl, hl⟩ := List.map_eq_singleton_iff.mp hts
    exact .number hl
  | string =>
    intro _ ts hts
    obtain ⟨t, rfl, hl⟩ := List.map_eq_singleton_iff.mp hts
    exact .string hl
  | boolean b =>
    intro _ ts hts
    obtain ⟨t, rfl, hl⟩ := List.map_eq_singleton_iff.mp hts
    exact .boolean hl
  | var =>
    intro _ ts hts
    obtain ⟨t, rfl, hl⟩ := List.map_eq_singleton_iff.mp hts
    exact .var hl
  | index _ _ ih =>
    intro hplain ts hts
    obtain ⟨t, _, rfl, hl, hts⟩ := List.map_eq_cons_iff.mp hts
    obtain ⟨opening, _, rfl, ho, hts⟩ := List.map_eq_cons_iff.mp hts
    obtain ⟨inside, _, rfl, hinside, hts⟩ := List.map_eq_append_iff.mp hts
    obtain ⟨closing, rfl, hc⟩ := List.map_eq_singleton_iff.mp hts
    have hd := ih (fun x hx => hplain x (by simpa [Expr.numbers] using hx)) inside hinside
    exact .index hl ho hd.loosest hc
  | @call function args _ _ ih =>
    intro hplain ts hts
    obtain ⟨t, _, rfl, hl, hts⟩ := List.map_eq_cons_iff.mp hts
    obtain ⟨opening, _, rfl, ho, hts⟩ := List.map_eq_cons_iff.mp hts
    obtain ⟨inside, _, rfl, hinside, hts⟩ := List.map_eq_append_iff.mp hts
    obtain ⟨closing, rfl, hc⟩ := List.map_eq_singleton_iff.mp hts
    have hargs : ∀ arg ∈ args, ∀ us : List Token, us.map Token.lexeme = arg.lexemes →
        Derives primary us arg.positiveZeros :=
      fun arg harg => ih arg harg fun x hx => hplain x (mem_numbersAll harg hx)
    obtain ⟨pieces, hsnd, hpieces, hsep⟩ := derives_arguments hargs inside hinside
    rw [Expr.positiveZeros, ← hsnd]
    exact .call hl ho hpieces hsep hc
  | unary _ ih =>
    intro hplain ts hts
    obtain ⟨t, inside, rfl, hl, hts⟩ := List.map_eq_cons_iff.mp hts
    exact .negation hl (ih (fun x hx => hplain x (by simpa [Expr.numbers] using hx)) inside hts)
  | @binary left right op tier _ hmem _ ihl ihr =>
    intro hplain ts hts
    obtain ⟨opening, _, rfl, ho, hts⟩ := List.map_eq_cons_iff.mp hts
    obtain ⟨ls, _, rfl, hls, hts⟩ := List.map_eq_append_iff.mp hts
    obtain ⟨t, _, rfl, hl, hts⟩ := List.map_eq_cons_iff.mp hts
    obtain ⟨rs, _, rfl, hrs, hts⟩ := List.map_eq_append_iff.mp hts
    obtain ⟨closing, rfl, hc⟩ := List.map_eq_singleton_iff.mp hts
    have hlt : tier < primary := lt_primary_of_mem hmem
    have hdl := ihl (fun x hx => hplain x (by simp [Expr.numbers, hx])) ls hls
    have hdr := ihr (fun x hx => hplain x (by simp [Expr.numbers, hx])) rs hrs
    have hbinary : Derives tier (ls ++ t :: rs) (.binary left.positiveZeros op right.positiveZeros) :=
      .binary hl hmem (hdl.of_le (Nat.le_refl _) hlt.le) (hdr.of_le (Nat.le_refl _) hlt)
    have hgroup := Derives.group ho (hbinary.of_le hlt.le (tier_pos_of_mem hmem)) hc
    simpa [Expr.positiveZeros] using hgroup

/-! ## Other numbers -/

theorem dangling_arguments {args : List Expr} {rest : List Lexeme}
    (hargs : ∀ arg ∈ args, (∃ x ∈ arg.numbers, ¬ x.Plain) → ∀ ls : List Lexeme,
      ls.head? ≠ some .lparen → Dangling (arg.lexemes ++ ls))
    (hx : ∃ x ∈ Expr.numbersAll args, ¬ x.Plain) :
    Dangling (Expr.lexemesAll args ++ .rparen :: rest) := by
  induction args with
  | nil => simp [Expr.numbersAll] at hx
  | cons arg others ih =>
    obtain ⟨x, hmem, hnot⟩ := hx
    rw [Expr.numbersAll, List.mem_append] at hmem
    have harg := hargs arg (by simp)
    cases others with
    | nil =>
      rcases hmem with hmem | hmem
      · exact harg ⟨x, hmem, hnot⟩ _ (by simp)
      · simp [Expr.numbersAll] at hmem
    | cons second others =>
      rw [Expr.lexemesAll, List.append_assoc, List.cons_append]
      · rcases hmem with hmem | hmem
        · exact harg ⟨x, hmem, hnot⟩ _ (by simp)
        · have hlater := ih (fun a ha => hargs a (by simp [ha])) ⟨x, hmem, hnot⟩
          exact dangling_append _ (.inr hlater)
      · simp

theorem dangling_number {x : Double} (hx : ¬ x.Plain) {ls : List Lexeme}
    (hls : ls.head? ≠ some .lparen) : Dangling (x.lexemes ++ ls) := by
  obtain ⟨before, name, after, hafter, hlexes, _⟩ := Double.display_not_plain hx
  rw [Double.lexemes_eq hlexes, List.append_assoc]
  refine dangling_append _ (.inl ⟨name, rfl, ?_⟩)
  cases after with
  | nil => exact hls
  | cons l after =>
    intro hopen
    cases hopen
    have hkind := hafter _ rfl
    simp [Lexeme.kind] at hkind

theorem dangling_of_printable {e : Expr} (h : e.Printable) :
    (∃ x ∈ e.numbers, ¬ x.Plain) → ∀ ls : List Lexeme, ls.head? ≠ some .lparen →
      Dangling (e.lexemes ++ ls) := by
  induction h with
  | number x =>
    rintro ⟨y, hy, hnot⟩ ls hls
    rw [Expr.numbers, List.mem_singleton] at hy
    subst hy
    exact dangling_number hnot hls
  | string | boolean | var => simp [Expr.numbers]
  | @index name i _ _ ih =>
    rintro hx ls -
    have hinside := ih (by simpa [Expr.numbers] using hx) (.rbracket :: ls) (by simp)
    have hall := dangling_append [.var name, .lbracket] hinside
    simpa [Expr.lexemes] using hall
  | @call function args _ _ ih =>
    rintro hx ls -
    have hinside : Dangling (Expr.lexemesAll args ++ .rparen :: ls) :=
      dangling_arguments ih (by simpa [Expr.numbers] using hx)
    have hall := dangling_append [.identifier function, .lparen] hinside
    simpa [Expr.lexemes] using hall
  | unary _ ih =>
    intro hx ls hls
    exact .inr (ih (by simpa [Expr.numbers] using hx) ls hls)
  | @binary left right op _ _ _ _ ihl ihr =>
    rintro ⟨x, hmem, hnot⟩ ls -
    rw [Expr.numbers, List.mem_append] at hmem
    have hinside : Dangling (left.lexemes ++ (.operator op :: (right.lexemes ++ .rparen :: ls))) := by
      rcases hmem with hmem | hmem
      · exact ihl ⟨x, hmem, hnot⟩ _ (by simp)
      · have hright := ihr ⟨x, hmem, hnot⟩ (.rparen :: ls) (by simp)
        exact dangling_append _ (.inr hright)
    have hall := dangling_append [.lparen] hinside
    simpa [Expr.lexemes] using hall

/-! ## Zeros -/

theorem Double.displayChars_positiveZero (x : Double) :
    x.positiveZero.displayChars = x.displayChars := by
  cases x with
  | nan | infinite s => rfl
  | finite s n h =>
    by_cases hn : n = 0
    · subst hn
      cases s <;> simp [positiveZero, displayChars, toInt?, signed]
    · simp [positiveZero, hn]

theorem Expr.printAll_positiveZeros {args : List Expr}
    (h : ∀ arg ∈ args, arg.positiveZeros.print = arg.print) :
    printAll (positiveZerosAll args) = printAll args := by
  induction args with
  | nil => rfl
  | cons arg others ih =>
    have harg := h arg (by simp)
    have hothers := ih fun a ha => h a (by simp [ha])
    cases others with
    | nil => simpa [positiveZerosAll, printAll] using harg
    | cons second others =>
      simp only [positiveZerosAll, printAll] at hothers ⊢
      rw [harg, hothers]

/-- The sign of zeros does not show in the printed form. -/
theorem Expr.print_positiveZeros {e : Expr} (h : e.Printable) : e.positiveZeros.print = e.print := by
  induction h with
  | number x =>
    simp only [positiveZeros, print, Literal.print, Double.display,
      Double.displayChars_positiveZero]
  | string | boolean | var => rfl
  | index _ _ ih => simp only [positiveZeros, print, ih]
  | call _ _ ih => simp only [positiveZeros, print, printAll_positiveZeros ih]
  | unary _ ih => simp only [positiveZeros, print, ih]
  | binary _ _ _ ihl ihr => simp only [positiveZeros, print, ihl, ihr]

/-! ## Source texts -/

/-- What a source text is parsed into is the tree of its tokens. -/
theorem parseSource_eq_ok_iff (source : String) (e : Expr) :
    (parseSource .default source).result = .ok e ↔
      ∃ tokens, tokenize source = .ok tokens ∧ Derives 1 tokens e := by
  cases h : tokenize source with
  | error err =>
    simp [parseSource, h]
  | ok tokens =>
    rw [parseSource_of_tokenize h, parse_default_eq_ok_iff]
    simp

theorem printable_of_parseSource {source : String} {e : Expr}
    (h : (parseSource .default source).result = .ok e) : e.Printable := by
  obtain ⟨tokens, htokens, hd⟩ := (parseSource_eq_ok_iff source e).mp h
  refine printable_of_derives hd fun t ht => ?_
  exact (lexes_of_tokenize htokens).written _ (List.mem_map_of_mem ht)

/-- The printed form of an expression from a source text is parsed into the same expression, up to
the sign of zeros, if all its numbers are plain, and is then a fixed point; with any other number
it is refused with a parse error. -/
theorem parseSource_print (source : String) (e : Expr)
    (h : (parseSource .default source).result = .ok e) :
    ((∀ x ∈ e.numbers, x.Plain) →
      (parseSource .default e.print).result = .ok e.positiveZeros ∧
        e.positiveZeros.print = e.print) ∧
    ((∃ x ∈ e.numbers, ¬ x.Plain) →
      ∃ err, (parseSource .default e.print).result = .error err ∧ err.kind? = some .parse) := by
  have hprintable := printable_of_parseSource h
  obtain ⟨tokens, htokens, hlexemes⟩ := Expr.tokenize_print hprintable
  constructor
  · intro hplain
    refine ⟨(parseSource_eq_ok_iff _ _).mpr ⟨tokens, htokens, ?_⟩, Expr.print_positiveZeros hprintable⟩
    exact (derives_of_printable hprintable hplain tokens hlexemes).loosest
  · intro hx
    have hdangling : DanglingTokens tokens := by
      have hall := dangling_of_printable hprintable hx [] (by simp)
      rwa [List.append_nil, ← hlexemes] at hall
    rw [parseSource_of_tokenize htokens]
    exact parse_dangling (some e.print) hdangling

theorem parseSource_number {source : String} {x : Double} {text : String}
    (h : scan source = ⟨[⟨.number x, 0, text⟩], none⟩) :
    (parseSource .default source).result = .ok (.literal (.number x)) := by
  refine (parseSource_eq_ok_iff _ _).mpr ⟨[⟨.number x, 0, text⟩], by simp [tokenize, h], ?_⟩
  exact (Derives.number rfl).loosest

/-- A negative zero comes back positive, and a hundred-thousandth does not come back. -/
theorem parseSource_print_zero_and_small :
    (∃ e, (parseSource .default "-0").result = .ok e ∧ e.print = "0" ∧
      (parseSource .default e.print).result = .ok e.positiveZeros) ∧
    (∃ e, (parseSource .default "0.00001").result = .ok e ∧
      ∃ err, (parseSource .default e.print).result = .error err ∧ err.kind? = some .parse) := by
  constructor
  · have hscan : scan "-0" =
        ⟨[⟨.number (.finite true 0 (Double.zero_holds _)), 0, "-0"⟩], none⟩ := by
      decide +kernel
    have h := parseSource_number hscan
    refine ⟨_, h, by decide +kernel, ((parseSource_print "-0" _ h).1 ?_).1⟩
    simp [Expr.numbers, Double.Plain]
  · have hscan : scan "0.00001" =
        ⟨[⟨.number (Decimal.toDouble false ⟨1, -5⟩), 0, "0.00001"⟩], none⟩ := by
      decide +kernel
    have h := parseSource_number hscan
    refine ⟨_, h, (parseSource_print "0.00001" _ h).2 ⟨_, List.mem_singleton.mpr rfl, ?_⟩⟩
    decide +kernel

end Formula
