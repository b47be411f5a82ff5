import Formula.Proofs.Grammar.Dangling
import Formula.Proofs.Grammar.Lenient

/-!
# Formula.Proofs.Grammar.Viable

Beginnings of sentences, and what the rules of the parser blame when they fail. `Viable tokens` says
that the tokens can be extended to a sentence; `Rule.Open` says the same for what a single rule
takes. A rule fails in one of three ways (`Blame`): the tokens end while they are still open, or a
name is not followed by a parenthesis, or a token comes that fails the rule whatever comes after
it. In each of them all tokens before the blamed one are open (`run_blames`).
-/

namespace Formula

open Formula.Grammar

/-- The tokens are the beginning of a sentence. -/
def Viable (tokens : List Token) : Prop :=
  ∃ more e, Derives 1 (tokens ++ more) e

/-- The last token is an identifier. -/
def EndsInName (tokens : List Token) : Prop :=
  ∃ t name, tokens.getLast? = some t ∧ t.lexeme = .identifier name

section EndsInName

variable {p q : List Token} {t : Token}

theorem Viable.of_append (h : Viable (p ++ q)) : Viable p := by
  obtain ⟨more, e, hd⟩ := h
  exact ⟨q ++ more, e, by rwa [← List.append_assoc]⟩

theorem not_endsInName_nil : ¬ EndsInName [] := by
  rintro ⟨t, name, ht, _⟩
  cases ht

theorem endsInName_concat : EndsInName (p ++ [t]) ↔ ∃ name, t.lexeme = .identifier name := by
  simp [EndsInName]

theorem not_endsInName_concat (h : ∀ name, t.lexeme ≠ .identifier name) :
    ¬ EndsInName (p ++ [t]) := by
  rw [endsInName_concat]
  rintro ⟨name, hname⟩
  exact h name hname

theorem not_endsInName_append (hp : ¬ EndsInName p) (hq : ¬ EndsInName q) :
    ¬ EndsInName (p ++ q) := by
  cases q with
  | nil => rwa [List.append_nil]
  | cons t ts =>
    rintro ⟨u, name, hu, hl⟩
    rw [List.getLast?_append_of_ne_nil _ (List.cons_ne_nil t ts)] at hu
    exact hq ⟨u, name, hu, hl⟩

/-- A sentence does not end in an identifier, since that would dangle. -/
theorem not_endsInName_of_derives {k : Nat} {e : Expr} (h : Derives k p e) : ¬ EndsInName p := by
  rintro ⟨t, name, ht, hl⟩
  obtain ⟨before, rfl⟩ := List.getLast?_eq_some_iff.mp ht
  refine h.dangling [] ?_
  rw [List.append_nil, DanglingTokens, List.map_append]
  exact dangling_append _ (.inl ⟨name, hl, by simp⟩)

/-- No token but an opening parenthesis goes on after an identifier. -/
theorem not_viable_of_name {name : String} {u : Token} (hl : t.lexeme = .identifier name)
    (hu : u.lexeme ≠ .lparen) : ¬ Viable (p ++ [t, u]) := by
  rintro ⟨more, e, h⟩
  refine h.dangling [] ?_
  rw [List.append_nil, List.append_assoc, DanglingTokens, List.map_append]
  exact dangling_append _ (.inl ⟨name, hl, by simpa using hu⟩)

end EndsInName

namespace Parser

/-- What a rule takes and the tree that it makes of it, whatever follows. -/
def Rule.Takes : Rule → List Token → Expr → Prop
  | tier k, p, e => Derives k p e
  | chain k left, p, e => ∀ before, Derives k before left → Derives k (before ++ p) e
  | primary, p, e => Derives Grammar.primary p e
  | index name, p, e => ∀ t, t.lexeme = .var name → Derives Grammar.primary (t :: p) e
  | call function, p, e => ∀ t opening, t.lexeme = .identifier function →
      opening.lexeme = .lparen → Derives Grammar.primary (t :: opening :: p) e
  | arguments function args, p, e =>
    ∃ (more : List (List Token × Expr)) (ts : List Token) (closing : Token),
      p = ts ++ [closing] ∧ more ≠ [] ∧ (∀ arg ∈ more, Derives 1 arg.1 arg.2) ∧
      CommaSeparated (more.map Prod.fst) ts ∧ closing.lexeme = .rparen ∧
      e = .call function (args ++ more.map Prod.snd)

/-- The tokens are the beginning of something that the rule takes. -/
def Rule.Open (rule : Rule) (p : List Token) : Prop :=
  ∃ more e, rule.Takes (p ++ more) e

/-! ## Completions -/

def closeParen : Token := ⟨.rparen, 0, ")"⟩

def closeBracket : Token := ⟨.rbracket, 0, "]"⟩

section Open

variable {k : Nat} {p q ts : List Token} {t opening : Token} {e left right : Expr}
  {function : String} {args : List Expr}

theorem open_of_derives (h : Derives k p e) : (Rule.tier k).Open p :=
  ⟨[], e, by rwa [List.append_nil]⟩

theorem open_operand (hk : k < Grammar.primary) (h : (Rule.tier (k + 1)).Open q) :
    (Rule.tier k).Open q := by
  obtain ⟨more, e, hd⟩ := h
  exact ⟨more, e, .operand hk hd⟩

theorem open_after_operand (hp : Derives k p left) (h : (Rule.chain k left).Open q) :
    (Rule.tier k).Open (p ++ q) := by
  obtain ⟨more, e, hd⟩ := h
  exact ⟨more, e, by rw [List.append_assoc]; exact hd p hp⟩

theorem open_right {op : Operator} (hl : t.lexeme = .operator op) (hmem : op ∈ operators k)
    (h : (Rule.tier (k + 1)).Open q) : (Rule.chain k left).Open ([t] ++ q) := by
  obtain ⟨more, e, hd⟩ := h
  exact ⟨more, .binary left op e, fun before hbefore => .binary hl hmem hbefore hd⟩

theorem open_after_right {op : Operator} (hl : t.lexeme = .operator op) (hmem : op ∈ operators k)
    (hp : Derives (k + 1) p right) (h : (Rule.chain k (.binary left op right)).Open q) :
    (Rule.chain k left).Open (t :: p ++ q) := by
  obtain ⟨more, e, hd⟩ := h
  refine ⟨more, e, fun before hbefore => ?_⟩
  have hall := hd (before ++ t :: p) (.binary hl hmem hbefore hp)
  simpa using hall

theorem open_negation (hl : t.lexeme = .operator .not) (h : Rule.primary.Open q) :
    Rule.primary.Open ([t] ++ q) := by
  obtain ⟨more, e, hd⟩ := h
  exact ⟨more, _, .negation hl hd⟩

theorem open_index {name : String} (hl : t.lexeme = .var name) (h : (Rule.index name).Open q) :
    Rule.primary.Open ([t] ++ q) := by
  obtain ⟨more, e, hd⟩ := h
  exact ⟨more, e, hd t hl⟩

theorem open_bracket {name : String} (ho : opening.lexeme = .lbracket)
    (h : (Rule.tier 1).Open q) : (Rule.index name).Open ([opening] ++ q) := by
  obtain ⟨more, e, hd⟩ := h
  refine ⟨more ++ [closeBracket], .index name e, fun t ht => ?_⟩
  have hall := Derives.index ht ho hd (rfl : closeBracket.lexeme = .rbracket)
  simpa using hall

theorem open_group (ho : opening.lexeme = .lparen) (h : (Rule.tier 1).Open q) :
    Rule.primary.Open ([opening] ++ q) := by
  obtain ⟨more, e, hd⟩ := h
  refine ⟨more ++ [closeParen], e, ?_⟩
  have hall := Derives.group ho hd (rfl : closeParen.lexeme = .rparen)
  simpa [Rule.Takes] using hall

theorem open_call (hl : t.lexeme = .identifier function) (ho : opening.lexeme = .lparen)
    (h : (Rule.call function).Open q) : Rule.primary.Open ([t, opening] ++ q) := by
  obtain ⟨more, e, hd⟩ := h
  exact ⟨more, e, hd t opening hl ho⟩

theorem open_nil : Rule.primary.Open [] :=
  ⟨[⟨.boolean true, 0, "true"⟩], _, .boolean rfl⟩

theorem open_name (hl : t.lexeme = .identifier function) : Rule.primary.Open [t] :=
  ⟨[⟨.lparen, 0, "("⟩, ⟨.rparen, 0, ")"⟩], _, .call_nil hl rfl rfl⟩

theorem open_first_argument (h : (Rule.arguments function []).Open q) :
    (Rule.call function).Open q := by
  obtain ⟨more, e, pieces, ts, closing, heq, _, hd, hsep, hc, rfl⟩ := h
  refine ⟨more, .call function (pieces.map Prod.snd), fun t opening hl ho => ?_⟩
  rw [heq]
  exact .call hl ho hd hsep hc

theorem open_argument (h : (Rule.tier 1).Open q) : (Rule.arguments function args).Open q := by
  obtain ⟨more, e, hd⟩ := h
  refine ⟨more ++ [closeParen], .call function (args ++ [e]), [(q ++ more, e)], q ++ more,
    closeParen, ?_, by simp, ?_, .one _, rfl, rfl⟩
  · rw [List.append_assoc]
  · intro arg harg
    cases List.mem_singleton.mp harg
    exact hd

theorem open_after_argument (hp : Derives 1 p e) (hcomma : t.lexeme = .comma)
    (h : (Rule.arguments function (args ++ [e])).Open q) :
    (Rule.arguments function args).Open (p ++ [t] ++ q) := by
  obtain ⟨more, _, pieces, ts, closing, heq, hne, hd, hsep, hc, rfl⟩ := h
  refine ⟨more, .call function (args ++ e :: pieces.map Prod.snd), (p, e) :: pieces, p ++ t :: ts,
    closing, by simp [heq], by simp, ?_, ?_, hc, rfl⟩
  · simpa [hp] using hd
  · cases pieces with
    | nil => exact absurd rfl hne
    | cons second others => exact .more hcomma hsep

end Open

/-! ## What is blamed -/

/-- How a rule fails on tokens: at their end, at a name that no parenthesis follows, or at a token
that fails it whatever comes after. The last list holds what is left unread. -/
inductive Blame (rule : Rule) : List Token → ParseFault → List Token → Prop where
  | ended {tokens : List Token} : rule.Open tokens → ¬ EndsInName tokens →
      Blame rule tokens .ended []
  | name {p rest : List Token} {t : Token} {name : String} {cause : SyntaxFault} :
      t.lexeme = .identifier name → (∀ u, rest.head? = some u → u.lexeme ≠ .lparen) →
      rule.Open (p ++ [t]) → Blame rule (p ++ t :: rest) (.at cause t.position) rest
  | token {p rest : List Token} {t : Token} {cause : SyntaxFault} :
      rule.Open p → ¬ EndsInName p →
      (∀ rest', rule.read (p ++ t :: rest') = .fail (.at cause t.position) rest') →
      Blame rule (p ++ t :: rest) (.at cause t.position) rest

/-- A rule that calls another after it took some tokens blames what the other one does. -/
theorem Blame.lift {inner outer : Rule} {tokens rest : List Token} {fault : ParseFault}
    (h : Blame inner tokens fault rest) (p : List Token)
    (hopen : ∀ q, inner.Open q → outer.Open (p ++ q)) (hname : ¬ EndsInName p)
    (hread : ∀ tokens', tokens'.head? = tokens.head? → ∀ cause position rest',
      inner.read tokens' = .fail (.at cause position) rest' →
      outer.read (p ++ tokens') = .fail (.at cause position) rest') :
    Blame outer (p ++ tokens) fault rest := by
  cases h with
  | ended ho hn => exact .ended (hopen _ ho) (not_endsInName_append hname hn)
  | @name before _ t _ _ hl hhead ho =>
    rw [← List.append_assoc]
    refine .name hl hhead ?_
    rw [List.append_assoc]
    exact hopen _ ho
  | @token before _ t _ ho hn hfail =>
    rw [← List.append_assoc]
    refine .token (hopen _ ho) (not_endsInName_append hname hn) fun rest' => ?_
    rw [List.append_assoc]
    refine hread _ ?_ _ _ _ (hfail rest')
    cases before <;> rfl

theorem read_tier_append {k : Nat} {p tokens tokens' : List Token} {e : Expr}
    (hk : k ≤ Grammar.primary) (h : Maximal k p e tokens) (hhead : tokens'.head? = tokens.head?) :
    (Rule.tier k).read (p ++ tokens') = .ok e tokens' := by
  refine (read_tier_eq_ok_iff hk _ _ _).mpr ⟨p, rfl, h.1, fun t ht => ?_⟩
  exact h.2 t (hhead ▸ ht)

section Blames

variable {fuel : Nat} {tokens rest : List Token} {fault : ParseFault}

/-- Where a closing token is missing, the token in its place is blamed. -/
theorem expect_blames {outer : Rule} {kind : TokenKind} {value : Expr} {p after : List Token}
    (hopen : outer.Open p) (hname : ¬ EndsInName p)
    (hread : ∀ after', after'.head? = after.head? →
      outer.read (p ++ after') = expect kind value after')
    (h : expect kind value after = .fail fault rest) : Blame outer (p ++ after) fault rest := by
  cases after with
  | nil =>
    cases h
    rw [List.append_nil]
    exact .ended hopen hname
  | cons t ts =>
    simp only [expect] at h
    split at h
    · cases h
    · rename_i hk
      cases h
      refine .token hopen hname fun rest' => ?_
      rw [hread (t :: rest') rfl, expect, if_neg hk]

/-- Every rule that fails on this fuel has something to blame. -/
def Blames (fuel : Nat) : Prop :=
  ∀ (rule : Rule) (tokens : List Token) (fault : ParseFault) (rest : List Token), rule.Proper →
    rule.run fuel tokens = .fail fault rest → Blame rule tokens fault rest

theorem tier_blames (ih : Blames fuel) {k : Nat} (hk : k ≤ Grammar.primary)
    (h : parseTier (fuel + 1) k tokens = .fail fault rest) :
    Blame (.tier k) tokens fault rest := by
  simp only [parseTier] at h
  split at h
  · rename_i hlt
    cases hleft : parseTier fuel (k + 1) tokens with
    | ok left after =>
      rw [hleft] at h
      obtain ⟨p, rfl, hp⟩ := run_reads fuel (.tier (k + 1)) tokens left after hlt hleft
      refine (ih (.chain k left) after fault rest hlt h).lift p
        (fun q => open_after_operand (.operand hlt hp.1)) (not_endsInName_of_derives hp.1)
        fun tokens' hhead cause position rest' hfail => ?_
      rw [read_tier hlt, read_tier_append hlt hp hhead]
      exact hfail
    | fail fault' rest' =>
      rw [hleft] at h
      cases h
      refine (ih (.tier (k + 1)) tokens fault rest hlt hleft).lift [] (fun q => open_operand hlt)
        not_endsInName_nil fun tokens' _ cause position rest' hfail => ?_
      rw [List.nil_append, read_tier hlt, hfail]
    | exhausted => simp [hleft] at h
  · rename_i hge
    have hp : k = Grammar.primary := Nat.le_antisymm hk (Nat.not_lt.mp hge)
    subst hp
    exact (ih .primary tokens fault rest trivial h).lift [] (fun q hq => hq) not_endsInName_nil
      fun tokens' _ cause position rest' hfail => hfail

theorem chain_blames (ih : Blames fuel) {k : Nat} {left : Expr} (hk : k < Grammar.primary)
    (h : parseChain (fuel + 1) k left tokens = .fail fault rest) :
    Blame (.chain k left) tokens fault rest := by
  simp only [parseChain] at h
  split at h
  · cases h
  · rename_i op after hsome
    obtain ⟨t, rfl, hl, hmem⟩ := operatorOf?_eq_some hk hsome
    cases hright : parseTier fuel (k + 1) after with
    | ok right later =>
      rw [hright] at h
      obtain ⟨p, rfl, hp⟩ := run_reads fuel (.tier (k + 1)) after right later hk hright
      have hname : ¬ EndsInName (t :: p) :=
        not_endsInName_append (p := [t]) (not_endsInName_concat (p := []) (by simp [hl]))
          (not_endsInName_of_derives hp.1)
      refine (ih (.chain k (.binary left op right)) later fault rest hk h).lift (t :: p)
        (fun q => open_after_right hl hmem hp.1) hname
        fun tokens' hhead cause position rest' hfail => ?_
      rw [List.cons_append, read_chain_more hl hmem, read_tier_append hk hp hhead]
      exact hfail
    | fail fault' rest' =>
      rw [hright] at h
      cases h
      refine (ih (.tier (k + 1)) after fault rest hk hright).lift [t]
        (fun q => open_right hl hmem) (not_endsInName_concat (p := []) (by simp [hl]))
        fun tokens' _ cause position rest' hfail => ?_
      rw [List.singleton_append, read_chain_more hl hmem, hfail]
    | exhausted => simp [hright] at h

theorem index_blames (ih : Blames fuel) {name : String}
    (h : parseIndex (fuel + 1) name tokens = .fail fault rest) :
    Blame (.index name) tokens fault rest := by
  by_cases hopen : Begins .lbracket tokens
  · obtain ⟨opening, inside, rfl, ho⟩ := hopen
    have hname : ¬ EndsInName [opening] := not_endsInName_concat (p := []) (by simp [ho])
    rw [parseIndex_open ho] at h
    cases hindex : parseTier fuel 1 inside with
    | ok i after =>
      rw [hindex] at h
      obtain ⟨p, rfl, hp⟩ := run_reads fuel (.tier 1) inside i after proper_one hindex
      refine expect_blames (p := [opening] ++ p) (open_bracket ho (open_of_derives hp.1))
        (not_endsInName_append hname (not_endsInName_of_derives hp.1)) (fun after' hhead => ?_) h
      rw [List.append_assoc, List.singleton_append, read_index_open ho,
        read_tier_append proper_one hp hhead]
    | fail fault' rest' =>
      rw [hindex] at h
      cases h
      refine (ih (.tier 1) inside fault rest proper_one hindex).lift [opening]
        (fun q => open_bracket ho) hname fun tokens' _ cause position rest' hfail => ?_
      rw [List.singleton_append, read_index_open ho, hfail]
    | exhausted => simp [hindex] at h
  · rw [parseIndex_else hopen] at h
    cases h

theorem call_blames (ih : Blames fuel) {function : String}
    (h : parseCall (fuel + 1) function tokens = .fail fault rest) :
    Blame (.call function) tokens fault rest := by
  by_cases hclose : Begins .rparen tokens
  · obtain ⟨t, after, rfl, hl⟩ := hclose
    rw [parseCall_close hl] at h
    cases h
  · rw [parseCall_else hclose] at h
    refine (ih (.arguments function []) tokens fault rest trivial h).lift []
      (fun q => open_first_argument) not_endsInName_nil
      fun tokens' hhead cause position rest' hfail => ?_
    rw [List.nil_append, read_call_else ?_, hfail]
    rintro ⟨t, after, rfl, hl⟩
    cases tokens with
    | nil => cases hhead
    | cons u us =>
      cases hhead
      exact hclose ⟨t, us, rfl, hl⟩

theorem arguments_blames (ih : Blames fuel) {function : String} {args : List Expr}
    (h : parseArguments (fuel + 1) function args tokens = .fail fault rest) :
    Blame (.arguments function args) tokens fault rest := by
  simp only [parseArguments] at h
  cases harg : parseTier fuel 1 tokens with
  | ok arg after =>
    rw [harg] at h
    obtain ⟨p, rfl, hp⟩ := run_reads fuel (.tier 1) tokens arg after proper_one harg
    have hname := not_endsInName_of_derives hp.1
    cases after with
    | nil =>
      cases h
      rw [List.append_nil]
      exact .ended (open_argument (open_of_derives hp.1)) hname
    | cons t later =>
      have hread : ∀ later', (Rule.tier 1).read (p ++ t :: later') = .ok arg (t :: later') :=
        fun later' => read_tier_append proper_one hp rfl
      simp only at h
      split at h
      · cases h
      · rename_i hcomma
        have hlift := (ih (.arguments function (args ++ [arg])) later fault rest trivial h).lift
          (p ++ [t]) (fun q => open_after_argument hp.1 hcomma)
          (not_endsInName_concat (by simp [hcomma]))
          fun tokens' _ cause position rest' hfail => by
            rw [List.append_assoc, List.singleton_append, read_arguments, hread]
            simp only [hcomma, hfail]
        rwa [List.append_assoc] at hlift
      · rename_i hclose hcomma
        cases h
        refine .token (open_argument (open_of_derives hp.1)) hname fun later' => ?_
        rw [read_arguments, hread]
        simp only
  | fail fault' rest' =>
    rw [harg] at h
    cases h
    refine (ih (.tier 1) tokens fault rest proper_one harg).lift [] (fun q => open_argument)
      not_endsInName_nil fun tokens' _ cause position rest' hfail => ?_
    rw [List.nil_append, read_arguments, hfail]
  | exhausted => simp [harg] at h

theorem primary_blames (ih : Blames fuel)
    (h : parsePrimary (fuel + 1) tokens = .fail fault rest) :
    Blame .primary tokens fault rest := by
  cases tokens with
  | nil =>
    cases h
    exact .ended open_nil not_endsInName_nil
  | cons t ts =>
    have hfirst : (∀ name, t.lexeme ≠ .identifier name) → ¬ EndsInName [t] :=
      not_endsInName_concat (p := [])
    simp only [parsePrimary] at h
    split at h
    · cases h
    · cases h
    · cases h
    · rename_i op hl
      split at h
      · rename_i hnot
        subst hnot
        cases hoperand : parsePrimary fuel ts with
        | ok operand after => simp [hoperand] at h
        | fail fault' rest' =>
          rw [hoperand] at h
          cases h
          refine (ih .primary ts fault rest trivial hoperand).lift [t] (fun q => open_negation hl)
            (hfirst (by simp [hl])) fun tokens' _ cause position rest' hfail => ?_
          rw [List.singleton_append, read_primary, hl]
          simp only [if_true, hfail]
        | exhausted => simp [hoperand] at h
      · rename_i hnot
        cases h
        refine .token (p := []) open_nil not_endsInName_nil fun rest' => ?_
        rw [List.nil_append, read_primary, hl]
        simp only [if_neg hnot, unexpected]
    · rename_i name hl
      refine (ih (.index name) ts fault rest trivial h).lift [t] (fun q => open_index hl)
        (hfirst (by simp [hl])) fun tokens' _ cause position rest' hfail => ?_
      rw [List.singleton_append, read_primary, hl]
      exact hfail
    · rename_i name hl
      split at h
      · rename_i position text inside
        refine (ih (.call name) inside fault rest trivial h).lift [t, ⟨.lparen, position, text⟩]
          (fun q => open_call hl rfl) (not_endsInName_concat (p := [t]) (by simp))
          fun tokens' _ cause position' rest' hfail => ?_
        rw [List.cons_append, List.singleton_append, read_primary, hl]
        exact hfail
      · rename_i hno
        cases h
        refine .name (p := []) hl (fun u hu ho => ?_) (open_name hl)
        obtain ⟨l, position, text⟩ := u
        cases ho
        cases rest with
        | nil => cases hu
        | cons v others =>
          cases hu
          exact hno position text others rfl
    · rename_i hl
      have hname := hfirst (by simp [hl])
      cases hinner : parseTier fuel 1 ts with
      | ok inner after =>
        rw [hinner] at h
        obtain ⟨p, rfl, hp⟩ := run_reads fuel (.tier 1) ts inner after proper_one hinner
        refine expect_blames (p := [t] ++ p) (open_group hl (open_of_derives hp.1))
          (not_endsInName_append hname (not_endsInName_of_derives hp.1)) (fun after' hhead => ?_) h
        rw [List.append_assoc, List.singleton_append, read_primary, hl]
        simp only [read_tier_append proper_one hp hhead]
      | fail fault' rest' =>
        rw [hinner] at h
        cases h
        refine (ih (.tier 1) ts fault rest proper_one hinner).lift [t] (fun q => open_group hl)
          hname fun tokens' _ cause position rest' hfail => ?_
        rw [List.singleton_append, read_primary, hl]
        simp only [hfail]
      | exhausted => simp [hinner] at h
    · cases h
      refine .token (p := []) open_nil not_endsInName_nil fun rest' => ?_
      rw [List.nil_append, read_primary]
      simp only [unexpected]

/-- A rule that fails blames the end of the tokens, a name, or a token. -/
theorem run_blames (fuel : Nat) : Blames fuel := by
  induction fuel with
  | zero =>
    intro rule tokens fault rest _ h
    cases rule <;> simp [Rule.run, parseTier, parseChain, parsePrimary, parseIndex, parseCall,
      parseArguments] at h
  | succ fuel ih =>
    intro rule tokens fault rest hproper h
    cases rule with
    | tier k => exact tier_blames ih hproper h
    | chain k left => exact chain_blames ih hproper h
    | primary => exact primary_blames ih h
    | index name => exact index_blames ih h
    | call function => exact call_blames ih h
    | arguments function args => exact arguments_blames ih h

end Blames

end Parser
end Formula
