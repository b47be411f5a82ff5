import Formula.Proofs.Grammar.Recognition

/-!
# Formula.Proofs.Grammar.Lenient

Reading the longest expression that the tokens start with. Tokens have at most one `Split` into a
sentence and what does not go on with it. A lenient reading takes its first part and a strict one
complains about the first token of its second part; without a split both fail in the same way
(`parse_lenient`).
-/

namespace Formula

open Formula.Grammar Formula.Parser

/-- A sentence with its tree, then what does not go on with it: nothing, or first a token that is
no binary operator and, after a variable, no opening bracket. -/
structure Split (tokens p : List Token) (e : Expr) (rest : List Token) : Prop where
  append : tokens = p ++ rest
  derives : Derives 1 p e
  no_operator : ∀ t op, rest.head? = some t → t.lexeme = .operator op → op = .not
  no_bracket : ∀ t v name, rest.head? = some t → p.getLast? = some v → v.lexeme = .var name →
    t.lexeme ≠ .lbracket

/-- Every operator but the negation is one of a binary tier. -/
theorem exists_mem_operators {op : Operator} (h : op ≠ .not) :
    ∃ k, 1 ≤ k ∧ op ∈ operators k := by
  refine ⟨op.precedence.rank, ?_⟩
  cases op with
  | not => exact absurd rfl h
  | _ => decide

section Split

variable {tokens p rest : List Token} {e : Expr}

theorem split_iff_maximal : Split tokens p e rest ↔ tokens = p ++ rest ∧ Maximal 1 p e rest := by
  constructor
  · intro h
    refine ⟨h.append, h.derives, fun t ht => ⟨fun op k hl _ hmem => ?_,
      fun hl v name hv hvar => ?_⟩⟩
    · exact ne_not_of_mem hmem (h.no_operator t op ht hl)
    · exact h.no_bracket t v name ht hv hvar hl
  · rintro ⟨happend, hderives, hstops⟩
    refine ⟨happend, hderives, fun t op ht hl => ?_, fun t v name ht hv hvar hl => ?_⟩
    · by_contra hnot
      obtain ⟨k, hk, hmem⟩ := exists_mem_operators hnot
      exact (hstops t ht).1 op k hl hk hmem
    · exact (hstops t ht).2 hl v name hv hvar

/-- The loosest tier reads the first part of a split. -/
theorem read_eq_ok_iff_split :
    (Rule.tier 1).read tokens = .ok e rest ↔ ∃ p, Split tokens p e rest := by
  simp only [split_iff_maximal]
  exact read_tier_eq_ok_iff proper_one tokens e rest

/-- Tokens are split in one way only. -/
theorem Split.unique {p' rest' : List Token} {e' : Expr} (h : Split tokens p e rest)
    (h' : Split tokens p' e' rest') : p = p' ∧ e = e' ∧ rest = rest' := by
  have hread := read_eq_ok_iff_split.mpr ⟨p, h⟩
  have hread' := read_eq_ok_iff_split.mpr ⟨p', h'⟩
  obtain ⟨rfl, rfl⟩ := Step.ok.inj (hread.symm.trans hread')
  exact ⟨List.append_cancel_right (h.append.symm.trans h'.append), rfl, rfl⟩

theorem parseTokens_lenient_of_split (h : Split tokens p e rest) :
    parseTokens true tokens = .ok ⟨e, rest⟩ := by
  have hread := read_eq_ok_iff_split.mpr ⟨p, h⟩
  cases tokens with
  | nil => exact absurd (List.append_eq_nil_iff.mp h.append.symm).1 h.derives.ne_nil
  | cons first others =>
    rw [parseTokens_cons, hread]
    cases rest <;> rfl

theorem parseTokens_strict_of_split (h : Split tokens p e rest) :
    parseTokens false tokens = match rest with
      | [] => .ok ⟨e, []⟩
      | t :: _ => .error (.at (.trailingToken t.text) t.position) := by
  have hread := read_eq_ok_iff_split.mpr ⟨p, h⟩
  cases tokens with
  | nil => exact absurd (List.append_eq_nil_iff.mp h.append.symm).1 h.derives.ne_nil
  | cons first others =>
    rw [parseTokens_cons, hread]
    cases rest <;> rfl

/-- Tokens without a split are refused for a fault that has nothing to do with what may follow. -/
theorem parseTokens_of_no_split (h : ¬ ∃ p e rest, Split tokens p e rest) :
    ∃ fault, ∀ lenient, parseTokens lenient tokens = .error fault := by
  cases tokens with
  | nil => exact ⟨_, fun _ => rfl⟩
  | cons first others =>
    cases hread : (Rule.tier 1).read (first :: others) with
    | ok e rest =>
      obtain ⟨p, hp⟩ := read_eq_ok_iff_split.mp hread
      exact absurd ⟨p, e, rest, hp⟩ h
    | fail fault rest => exact ⟨fault, fun lenient => by rw [parseTokens_cons, hread]⟩
    | exhausted => exact absurd hread (read_ne_exhausted proper_one _)

end Split

/-- With trailing tokens allowed, a list of tokens is parsed exactly if it has a split, which is
then the only one, into the tree of its first part. Without a split it is refused with the error of
a strict reading. A strict reading takes the tokens exactly if nothing is left of the split, and
otherwise refuses them at the first token that is left. -/
theorem parse_lenient (source : Option String) (tokens : List Token) :
    (∀ e, (parse ⟨true⟩ source tokens).result = .ok e ↔ ∃ p rest, Split tokens p e rest) ∧
    (∀ p e rest p' e' rest', Split tokens p e rest → Split tokens p' e' rest' →
      p = p' ∧ e = e' ∧ rest = rest') ∧
    ((¬ ∃ p e rest, Split tokens p e rest) → ∃ err,
      (parse ⟨true⟩ source tokens).result = .error err ∧
      (parse .default source tokens).result = .error err) ∧
    (∀ p e rest, Split tokens p e rest →
      (∀ e', (parse .default source tokens).result = .ok e' ↔ rest = [] ∧ e' = e) ∧
      ∀ t more, rest = t :: more → (parse .default source tokens).result =
        .error (.parse (.trailingToken t.text) (source.map fun s => ⟨s, t.position⟩))) := by
  refine ⟨fun e => ⟨fun h => ?_, ?_⟩, fun p e rest p' e' rest' h h' => h.unique h', fun hno => ?_,
    fun p e rest h => ?_⟩
  · by_cases hsplit : ∃ p e rest, Split tokens p e rest
    · obtain ⟨p, e', rest, hp⟩ := hsplit
      have hparse := parse_of_ok ⟨true⟩ source (parseTokens_lenient_of_split hp)
      cases hparse.symm.trans h
      exact ⟨p, rest, hp⟩
    · obtain ⟨fault, hfault⟩ := parseTokens_of_no_split hsplit
      cases (parse_of_error ⟨true⟩ source (hfault true)).symm.trans h
  · rintro ⟨p, rest, hp⟩
    exact parse_of_ok ⟨true⟩ source (parseTokens_lenient_of_split hp)
  · obtain ⟨fault, hfault⟩ := parseTokens_of_no_split hno
    exact ⟨fault.toError source, parse_of_error ⟨true⟩ source (hfault true),
      parse_of_error .default source (hfault false)⟩
  · have hstrict := parseTokens_strict_of_split h
    cases rest with
    | nil =>
      have hparse := parse_of_ok .default source hstrict
      refine ⟨fun e' => ?_, by simp⟩
      rw [hparse]
      simp [eq_comm]
    | cons t more =>
      have hparse := parse_of_error .default source hstrict
      refine ⟨fun e' => by simp [hparse], fun u others heq => ?_⟩
      cases heq
      exact hparse

end Formula
