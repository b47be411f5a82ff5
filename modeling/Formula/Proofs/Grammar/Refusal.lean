import Formula.Proofs.Grammar.Viable

/-!
# Formula.Proofs.Grammar.Refusal

Which error a strict reading is refused with, and at which token (`parse_refusal`). It complains
about a missing operand exactly if the tokens can still become a sentence and do not end in an
identifier. Otherwise it points at the first token with which they no longer can, or at the
identifier before that token, or at the identifier at the end.
-/

namespace Formula

open Formula.Grammar Formula.Parser

/-- The first token with which the tokens are no longer the beginning of a sentence. -/
structure FirstDead (tokens : List Token) (k : Nat) : Prop where
  lt : k < tokens.length
  dead : ¬ Viable (tokens.take (k + 1))
  viable : ∀ j < k, Viable (tokens.take (j + 1))

/-- The token that a refusal is about: an identifier at the end of tokens that could go on, or the
first dead token, unless the token before that is an identifier, which then stands for a call
without parentheses. -/
inductive Blamed (tokens : List Token) : Nat → Prop where
  | last {i : Nat} : Viable tokens → EndsInName tokens → tokens.length = i + 1 → Blamed tokens i
  | name {i : Nat} : FirstDead tokens (i + 1) → EndsInName (tokens.take (i + 1)) → Blamed tokens i
  | token {k : Nat} : FirstDead tokens k → ¬ EndsInName (tokens.take k) → Blamed tokens k

section Dead

variable {p tokens rest : List Token} {t : Token} {k : Nat}

theorem FirstDead.not_viable (h : FirstDead tokens k) : ¬ Viable tokens := by
  intro hv
  rw [← List.take_append_drop (k + 1) tokens] at hv
  exact h.dead hv.of_append

theorem Blamed.not_open (h : Blamed tokens k) : ¬ (Viable tokens ∧ ¬ EndsInName tokens) := by
  rintro ⟨hv, hn⟩
  cases h with
  | last _ hname _ => exact hn hname
  | name hdead _ => exact hdead.not_viable hv
  | token hdead _ => exact hdead.not_viable hv

theorem firstDead_of_append (hp : Viable p) (ht : ¬ Viable (p ++ [t])) :
    FirstDead (p ++ t :: rest) p.length where
  lt := by simp
  dead := by
    rw [List.take_length_add_append]
    exact ht
  viable := by
    intro j hj
    rw [List.take_append_of_le_length (by omega)]
    rw [← List.take_append_drop (j + 1) p] at hp
    exact hp.of_append

theorem blamed_token (hp : Viable p) (hname : ¬ EndsInName p) (ht : ¬ Viable (p ++ [t])) :
    Blamed (p ++ t :: rest) p.length :=
  .token (firstDead_of_append hp ht) (by rwa [List.take_left])

theorem blamed_name {name : String} (hl : t.lexeme = .identifier name)
    (hp : Viable (p ++ [t])) (hrest : ∀ u, rest.head? = some u → u.lexeme ≠ .lparen) :
    Blamed (p ++ t :: rest) p.length := by
  cases rest with
  | nil => exact .last hp (endsInName_concat.mpr ⟨name, hl⟩) (by simp)
  | cons u more =>
    have hdead : ¬ Viable (p ++ [t] ++ [u]) := by
      rw [List.append_assoc]
      exact not_viable_of_name hl (hrest u rfl)
    have hfirst : FirstDead (p ++ [t] ++ u :: more) (p ++ [t]).length :=
      firstDead_of_append hp hdead
    rw [List.append_assoc, List.length_append] at hfirst
    refine .name hfirst ?_
    rw [List.take_length_add_append]
    exact endsInName_concat.mpr ⟨name, hl⟩

/-- Tokens after which no sentence is ever read are no beginning of one. -/
theorem not_viable_of_read (h : ∀ rest' e, (Rule.tier 1).read (p ++ t :: rest') ≠ .ok e []) :
    ¬ Viable (p ++ [t]) := by
  rintro ⟨more, e, hd⟩
  rw [List.append_assoc, List.singleton_append] at hd
  exact h more e ((read_expr_eq_ok_iff _ _).mpr hd)

end Dead

section Refusal

variable {tokens : List Token} {fault : ParseFault}

/-- What a refusal is about: the end of the tokens, while they are still open, or a token. -/
theorem fault_of_refusal (hne : tokens ≠ []) (h : parseTokens false tokens = .error fault) :
    (fault = .ended ∧ Viable tokens ∧ ¬ EndsInName tokens) ∨
    ∃ cause i t, fault = .at cause t.position ∧ tokens[i]? = some t ∧ Blamed tokens i := by
  have htoken (p rest : List Token) (t : Token) : (p ++ t :: rest)[p.length]? = some t := by simp
  cases tokens with
  | nil => exact absurd rfl hne
  | cons first others =>
    rw [parseTokens_cons] at h
    cases hread : (Rule.tier 1).read (first :: others) with
    | ok e rest =>
      rw [hread] at h
      cases rest with
      | nil => cases h
      | cons u more =>
        cases h
        obtain ⟨p, heq, hp⟩ := (read_tier_eq_ok_iff proper_one _ _ _).mp hread
        have hdead : ¬ Viable (p ++ [u]) := by
          refine not_viable_of_read fun rest' e' hread' => ?_
          cases (read_tier_append proper_one hp (by rfl)).symm.trans hread'
        rw [heq]
        exact .inr ⟨_, p.length, u, rfl, htoken p more u,
          blamed_token (open_of_derives hp.1) (not_endsInName_of_derives hp.1) hdead⟩
    | fail fault' rest =>
      rw [hread] at h
      cases h
      have hblame : Blame (.tier 1) (first :: others) fault rest :=
        run_blames _ (.tier 1) _ _ _ proper_one hread
      generalize first :: others = tokens at hblame
      cases hblame with
      | ended ho hn => exact .inl ⟨rfl, ho, hn⟩
      | @name p _ t _ _ hl hhead ho =>
        exact .inr ⟨_, p.length, t, rfl, htoken p rest t, blamed_name hl ho hhead⟩
      | @token p _ t _ ho hn hfail =>
        have hdead : ¬ Viable (p ++ [t]) := by
          refine not_viable_of_read fun rest' e' hread' => ?_
          cases (hfail rest').symm.trans hread'
        exact .inr ⟨_, p.length, t, rfl, htoken p rest t, blamed_token ho hn hdead⟩
    | exhausted => exact absurd hread (read_ne_exhausted proper_one _)

/-- Tokens that a strict reading refuses miss an operand exactly if they can be extended to a
sentence and do not end in an identifier. Otherwise they are refused with a parse error, which
points at the token that is to blame. -/
theorem parse_refusal {source : Option String} {err : Error} (hne : tokens ≠ [])
    (h : (parse .default source tokens).result = .error err) :
    (err = .missingOperand ↔ Viable tokens ∧ ¬ EndsInName tokens) ∧
    (err ≠ .missingOperand → err.kind? = some .parse ∧ ∃ i t, Blamed tokens i ∧
      tokens[i]? = some t ∧ err.location? = source.map fun s => ⟨s, t.position⟩) := by
  cases hparse : parseTokens false tokens with
  | ok parsed => cases (parse_of_ok .default source hparse).symm.trans h
  | error fault =>
    cases (parse_of_error .default source hparse).symm.trans h
    rcases fault_of_refusal hne hparse with ⟨rfl, hopen⟩ | ⟨cause, i, t, rfl, ht, hblamed⟩
    · exact ⟨⟨fun _ => hopen, fun _ => rfl⟩, fun hno => absurd rfl hno⟩
    · exact ⟨⟨nofun, fun hopen => absurd hopen hblamed.not_open⟩,
        fun _ => ⟨rfl, i, t, hblamed, ht, rfl⟩⟩

/-- A name without parentheses is to blame, not the truth value after it. -/
theorem parse_refusal_bare_name :
    let tokens : List Token :=
      [⟨.lparen, 0, "("⟩, ⟨.identifier "f", 1, "f"⟩, ⟨.boolean true, 3, "true"⟩]
    (parse .default (some "(f true") tokens).result =
        .error (.parse (.unexpectedIdentifier "f") (some ⟨"(f true", 1⟩)) ∧
      Blamed tokens 1 ∧ ¬ Viable tokens := by
  intro tokens
  have h : (parse .default (some "(f true") tokens).result =
      .error (.parse (.unexpectedIdentifier "f") (some ⟨"(f true", 1⟩)) := rfl
  obtain ⟨hmissing, hblame⟩ := parse_refusal (List.cons_ne_nil _ _) h
  obtain ⟨-, i, t, hblamed, ht, hlocation⟩ := hblame nofun
  have hi : i = 1 := by
    match i with
    | 0 => cases ht; simp [Error.location?] at hlocation
    | 1 => rfl
    | 2 => cases ht; simp [Error.location?] at hlocation
    | i + 3 => cases ht
  refine ⟨h, hi ▸ hblamed, fun hv => ?_⟩
  have hname : ¬ EndsInName tokens := not_endsInName_concat (p := tokens.take 2) (by simp)
  cases hmissing.mpr ⟨hv, hname⟩

end Refusal

end Formula
