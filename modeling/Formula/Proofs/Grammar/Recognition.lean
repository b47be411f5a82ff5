import Formula.Engine
import Formula.Proofs.Grammar.Fuel

/-!
# Formula.Proofs.Grammar.Recognition

The parser recognises the grammar. A sentence of a tier that what follows does not go on with is
read whole, into the tree of its derivation (`read_of_maximal`); with `run_reads` this determines
what a tier reads (`read_tier_eq_ok_iff`), so no list of tokens has two trees, and `parse` accepts
the sentences of the loosest tier and nothing else (`parse_eq_ok_iff_derives`).
-/

namespace Formula
namespace Parser

open Grammar

theorem not_begins_rparen {k : Nat} {p : List Token} {e : Expr} (h : Derives k p e)
    (rest : List Token) : ¬ Begins .rparen (p ++ rest) := by
  have hhead : ∀ (t : Token) (ts : List Token), t.lexeme ≠ .rparen → ¬ Begins .rparen (t :: ts) := by
    rintro t ts hne ⟨u, us, hu, hl⟩
    cases hu
    exact hne hl
  induction h generalizing rest with
  | operand _ _ ih => exact ih rest
  | binary _ _ _ _ ihl _ =>
    rw [List.append_assoc]
    exact ihl _
  | number hl | string hl | boolean hl | var hl | negation hl | index hl | call hl | group hl =>
    exact hhead _ _ (by simp [hl])

theorem not_begins_joined {pieces : List (List Token × Expr)} {ts : List Token}
    (hd : ∀ piece ∈ pieces, Derives 1 piece.1 piece.2)
    (hsep : CommaSeparated (pieces.map Prod.fst) ts) (hne : pieces ≠ []) (rest : List Token) :
    ¬ Begins .rparen (ts ++ rest) := by
  cases pieces with
  | nil => exact absurd rfl hne
  | cons first others =>
    have hfirst : Derives 1 first.1 first.2 := hd first (by simp)
    cases others with
    | nil =>
      cases hsep
      exact not_begins_rparen hfirst rest
    | cons second others =>
      cases hsep
      rw [List.append_assoc]
      exact not_begins_rparen hfirst _

/-- A token that is neither an operator nor an opening bracket goes on with no sentence. -/
theorem stops_of_lexeme {k : Nat} (p : List Token) {t : Token} (rest : List Token)
    (hop : ∀ op, t.lexeme ≠ .operator op) (hbracket : t.lexeme ≠ .lbracket) :
    Stops k p (t :: rest) := by
  intro u hu
  cases hu
  exact ⟨fun op j hl => absurd hl (hop op), fun hl => absurd hl hbracket⟩

/-- An operator of a tier goes on with no sentence of a tighter one. -/
theorem stops_of_operator {k : Nat} (p : List Token) {t : Token} {op : Operator}
    (rest : List Token) (hl : t.lexeme = .operator op) (hmem : op ∈ operators k) :
    Stops (k + 1) p (t :: rest) := by
  intro u hu
  cases hu
  refine ⟨fun o j ho hj hmem' => ?_, fun hbracket => by simp [hl] at hbracket⟩
  cases ho.symm.trans hl
  have hk := (mem_operators_iff (lt_primary_of_mem hmem)).mp hmem
  have hj' := (mem_operators_iff (lt_primary_of_mem hmem')).mp hmem'
  omega

/-- How the readers of primaries and tiers go about a sentence: a primary is read whole, and a
sentence of a binary tier is read up to where the chain of its tier may go on. -/
def ReadWhole (k : Nat) (p : List Token) (e : Expr) : Prop :=
  (k = Grammar.primary → ∀ rest, Stops k p rest → Rule.primary.read (p ++ rest) = .ok e rest) ∧
  (k < Grammar.primary → ∀ rest, Stops (k + 1) p rest →
    (Rule.tier k).read (p ++ rest) = (Rule.chain k e).read rest)

theorem ReadWhole.read_tier {k : Nat} {p rest : List Token} {e : Expr} (h : ReadWhole k p e)
    (hk : k ≤ Grammar.primary) (hs : Stops k p rest) :
    (Rule.tier k).read (p ++ rest) = .ok e rest := by
  rcases Nat.eq_or_lt_of_le hk with rfl | hlt
  · rw [read_primaryTier]
    exact h.1 rfl rest hs
  · rw [h.2 hlt rest (hs.mono (Nat.le_succ k))]
    exact read_chain_stop hlt fun t op ht hl => (hs t ht).1 op k hl (Nat.le_refl k)

theorem readWhole_primary {p : List Token} {e : Expr}
    (h : ∀ rest, Stops Grammar.primary p rest → Rule.primary.read (p ++ rest) = .ok e rest) :
    ReadWhole Grammar.primary p e :=
  ⟨fun _ => h, fun hlt => absurd hlt (Nat.lt_irrefl _)⟩

theorem expect_ok {kind : TokenKind} {t : Token} (h : t.kind = kind) (e : Expr)
    (rest : List Token) : expect kind e (t :: rest) = .ok e rest := by
  simp [expect, h]

theorem read_arguments_of_derives {function : String} {closing : Token}
    (hclose : closing.lexeme = .rparen) (rest : List Token) :
    ∀ (more : List (List Token × Expr)) (args : List Expr) (ts : List Token), more ≠ [] →
      (∀ arg ∈ more, ReadWhole 1 arg.1 arg.2) → CommaSeparated (more.map Prod.fst) ts →
      (Rule.arguments function args).read (ts ++ closing :: rest) =
        .ok (.call function (args ++ more.map Prod.snd)) rest := by
  intro more
  induction more with
  | nil => intro args ts hne; exact absurd rfl hne
  | cons arg others ih =>
    intro args ts _ hread hsep
    have harg : ReadWhole 1 arg.1 arg.2 := hread arg (by simp)
    rw [read_arguments]
    cases others with
    | nil =>
      cases hsep
      have hstop : Stops 1 arg.1 (closing :: rest) :=
        stops_of_lexeme arg.1 rest (by simp [hclose]) (by simp [hclose])
      rw [harg.read_tier proper_one hstop]
      simp [hclose]
    | cons second others =>
      cases hsep with
      | @more comma _ _ joined _ hcomma hsep =>
        have hstop : Stops 1 arg.1 (comma :: (joined ++ closing :: rest)) :=
          stops_of_lexeme arg.1 _ (by simp [hcomma]) (by simp [hcomma])
        rw [List.append_assoc, List.cons_append, harg.read_tier proper_one hstop]
        simp only [hcomma]
        rw [ih (args ++ [arg.2]) joined (by simp) (fun a ha => hread a (by simp [ha])) hsep]
        simp

theorem readWhole_of_derives {k : Nat} {p : List Token} {e : Expr} (h : Derives k p e) :
    ReadWhole k p e := by
  induction h with
  | number hl | string hl | boolean hl =>
    refine readWhole_primary fun rest _ => ?_
    rw [List.singleton_append, read_primary, hl]
  | @var t name hl =>
    refine readWhole_primary fun rest hs => ?_
    rw [List.singleton_append, read_primary, hl]
    refine read_index_else ?_ name
    rintro ⟨u, us, rfl, hu⟩
    exact (hs u rfl).2 hu t name rfl hl
  | @index t opening closing name ts i hl ho _ hc ih =>
    refine readWhole_primary fun rest _ => ?_
    have hstop : Stops 1 ts (closing :: rest) :=
      stops_of_lexeme ts rest (by simp [hc]) (by simp [hc])
    rw [List.cons_append, List.cons_append, List.append_assoc, read_primary, hl]
    simp only [List.singleton_append]
    rw [read_index_open ho, ih.read_tier proper_one hstop]
    exact expect_ok (by simp [Token.kind, hc, Lexeme.kind]) _ rest
  | @call t opening closing name args ts hl ho hd hsep hc ih =>
    refine readWhole_primary fun rest _ => ?_
    obtain ⟨l, position, text⟩ := opening
    cases ho
    rw [List.cons_append, List.cons_append, List.append_assoc, read_primary, hl]
    simp only [List.singleton_append]
    cases args with
    | nil =>
      cases hsep
      exact read_call_close hc name
    | cons arg others =>
      have hhead : ¬ Begins .rparen (ts ++ closing :: rest) :=
        not_begins_joined (fun a ha => hd a ha) hsep (by simp) _
      rw [read_call_else hhead]
      exact read_arguments_of_derives hc rest (arg :: others) [] ts (by simp) ih hsep
  | @group opening closing ts e ho _ hc ih =>
    refine readWhole_primary fun rest _ => ?_
    have hstop : Stops 1 ts (closing :: rest) :=
      stops_of_lexeme ts rest (by simp [hc]) (by simp [hc])
    rw [List.cons_append, List.append_assoc, read_primary, ho]
    simp only [List.singleton_append]
    rw [ih.read_tier proper_one hstop]
    exact expect_ok (by simp [Token.kind, hc, Lexeme.kind]) _ rest
  | @negation t ts e hl hd ih =>
    refine readWhole_primary fun rest hs => ?_
    have hstop : Stops Grammar.primary ts rest :=
      hs.congr (List.getLast?_cons_of_ne_nil hd.ne_nil)
    rw [List.cons_append, read_primary, hl]
    simp only [if_true, ih.1 rfl rest hstop]
  | @operand tier ts e hlt _ ih =>
    refine ⟨fun heq => absurd hlt (heq ▸ Nat.lt_irrefl _), fun _ rest hs => ?_⟩
    rw [Parser.read_tier hlt, ih.read_tier hlt hs]
  | @binary tier t op ls rs l r hl hmem hdl hdr ihl ihr =>
    have hlt : tier < Grammar.primary := lt_primary_of_mem hmem
    refine ⟨fun heq => absurd hlt (heq ▸ Nat.lt_irrefl _), fun _ rest hs => ?_⟩
    have hlast : (ls ++ t :: rs).getLast? = rs.getLast? := by
      rw [List.getLast?_append_of_ne_nil _ (List.cons_ne_nil t rs),
        List.getLast?_cons_of_ne_nil hdr.ne_nil]
    rw [List.append_assoc, List.cons_append, ihl.2 hlt _ (stops_of_operator ls _ hl hmem),
      read_chain_more hl hmem, ihr.read_tier hlt (hs.congr hlast)]

/-- A tier reads exactly the sentences that what follows does not go on with. -/
theorem read_tier_eq_ok_iff {k : Nat} (hk : k ≤ Grammar.primary) (tokens : List Token) (e : Expr)
    (rest : List Token) :
    (Rule.tier k).read tokens = .ok e rest ↔ ∃ p, tokens = p ++ rest ∧ Maximal k p e rest := by
  constructor
  · intro h
    exact run_reads _ (.tier k) tokens e rest hk h
  · rintro ⟨p, rfl, hd, hs⟩
    exact (readWhole_of_derives hd).read_tier hk hs

theorem read_expr_eq_ok_iff (tokens : List Token) (e : Expr) :
    (Rule.tier 1).read tokens = .ok e [] ↔ Derives 1 tokens e := by
  rw [read_tier_eq_ok_iff proper_one]
  constructor
  · rintro ⟨p, rfl, hd, _⟩
    rwa [List.append_nil]
  · intro h
    exact ⟨tokens, by simp, h, stops_nil 1 tokens⟩

/-- No list of tokens is a sentence with two trees. -/
theorem derives_unique {tokens : List Token} {e e' : Expr} (h : Derives 1 tokens e)
    (h' : Derives 1 tokens e') : e = e' := by
  have heq := ((read_expr_eq_ok_iff tokens e).mpr h).symm.trans
    ((read_expr_eq_ok_iff tokens e').mpr h')
  cases heq
  rfl

end Parser

open Formula.Parser Formula.Grammar

/-- The parser in terms of what the loosest tier reads. -/
theorem parseTokens_cons (lenient : Bool) (t : Token) (ts : List Token) :
    parseTokens lenient (t :: ts) =
      match (Rule.tier 1).read (t :: ts) with
      | .ok e [] => .ok ⟨e, []⟩
      | .ok e (u :: rest) =>
        if lenient then .ok ⟨e, u :: rest⟩ else .error (.at (.trailingToken u.text) u.position)
      | .fail fault _ => .error fault
      | .exhausted => .error .ended := by
  have hread : parseTier (fuelFor (t :: ts).length) 1 (t :: ts) = (Rule.tier 1).read (t :: ts) :=
    run_eq_read (fuelFor (t :: ts).length) (.tier 1) (t :: ts) proper_one
      (by simp only [Rule.need, fuelFor]; omega)
  cases h : (Rule.tier 1).read (t :: ts) with
  | ok e rest =>
    cases rest with
    | nil => simp only [parseTokens, hread, h]
    | cons u rest => simp only [parseTokens, hread, h]
  | fail fault rest => simp only [parseTokens, hread, h]
  | exhausted => simp only [parseTokens, hread, h]

/-- A strict reading takes the sentences of the loosest tier and refuses all else. -/
theorem parseTokens_strict (tokens : List Token) :
    (∃ e, Derives 1 tokens e ∧ parseTokens false tokens = .ok ⟨e, []⟩) ∨
    ((¬ ∃ e, Derives 1 tokens e) ∧ ∃ fault, parseTokens false tokens = .error fault) := by
  cases tokens with
  | nil => exact .inr ⟨fun ⟨e, h⟩ => h.ne_nil rfl, _, rfl⟩
  | cons t ts =>
    have hiff := read_expr_eq_ok_iff (t :: ts)
    rw [parseTokens_cons]
    cases hread : (Rule.tier 1).read (t :: ts) with
    | ok e rest =>
      cases rest with
      | nil => exact .inl ⟨e, (hiff e).mp hread, rfl⟩
      | cons u us =>
        refine .inr ⟨fun ⟨e', h⟩ => ?_, _, rfl⟩
        rw [← hiff, hread] at h
        cases h
    | fail fault rest =>
      refine .inr ⟨fun ⟨e', h⟩ => ?_, _, rfl⟩
      rw [← hiff, hread] at h
      cases h
    | exhausted => exact absurd hread (read_ne_exhausted proper_one _)

section Parse

variable {tokens : List Token}

theorem parse_of_ok {parsed : Parsed} (options : Options) (source : Option String)
    (h : parseTokens options.allowTrailingTokens tokens = .ok parsed) :
    (parse options source tokens).result = .ok parsed.expr := by
  obtain ⟨e, rest⟩ := parsed
  rw [parse, h]
  cases rest <;> rfl

theorem parse_of_error {fault : ParseFault} (options : Options) (source : Option String)
    (h : parseTokens options.allowTrailingTokens tokens = .error fault) :
    (parse options source tokens).result = .error (fault.toError source) := by
  rw [parse, h]

theorem parseSource_of_tokenize {options : Options} {source : String}
    (h : tokenize source = .ok tokens) :
    (parseSource options source).result = (parse options (some source) tokens).result := by
  simp only [parseSource, h]
  split
  · rename_i records e hp
    rw [hp]
  · rfl

theorem parseSource_of_scan {options : Options} {source : String}
    (h : scan source = ⟨tokens, none⟩) :
    (parseSource options source).result = (parse options (some source) tokens).result :=
  parseSource_of_tokenize (by rw [tokenize, h])

end Parse

theorem kind_toError (source : Option String) (fault : ParseFault) :
    (fault.toError source).kind? = some .parse ∨
      (fault.toError source).kind? = some .missingOperand := by
  cases fault with
  | ended => exact .inr rfl
  | «at» cause position => exact .inl rfl

theorem parse_default_eq_ok_iff (source : Option String) (tokens : List Token) (e : Expr) :
    (parse .default source tokens).result = .ok e ↔ Derives 1 tokens e := by
  rcases parseTokens_strict tokens with ⟨e', hd, h⟩ | ⟨hno, fault, h⟩
  · have hp : (parse .default source tokens).result = .ok e' := by
      simp [parse, Options.default, h]
    rw [hp]
    constructor
    · intro heq
      cases heq
      exact hd
    · intro he
      rw [derives_unique he hd]
  · have hp : (parse .default source tokens).result = .error (fault.toError source) := by
      simp [parse, Options.default, h]
    rw [hp]
    exact ⟨fun heq => (by cases heq), fun he => absurd ⟨e, he⟩ hno⟩

/-- With default options a list of tokens is parsed exactly if the whole of it is a sentence of the
grammar, into the only tree that it has; any other list is refused with a parse error or for a
missing operand. -/
theorem parse_eq_ok_iff_derives (source : Option String) (tokens : List Token) :
    (∀ e, (parse .default source tokens).result = .ok e ↔ Derives 1 tokens e) ∧
    (∀ e e', Derives 1 tokens e → Derives 1 tokens e' → e = e') ∧
    ((¬ ∃ e, Derives 1 tokens e) → ∃ err, (parse .default source tokens).result = .error err ∧
      (err.kind? = some .parse ∨ err.kind? = some .missingOperand)) := by
  refine ⟨parse_default_eq_ok_iff source tokens, fun e e' => derives_unique, fun hno => ?_⟩
  rcases parseTokens_strict tokens with ⟨e', hd, _⟩ | ⟨_, fault, h⟩
  · exact absurd ⟨e', hd⟩ hno
  · exact ⟨fault.toError source, by simp [parse, Options.default, h], kind_toError source fault⟩

end Formula
