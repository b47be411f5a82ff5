import Mathlib.Data.List.TakeWhile
import Formula.Token.Scan

/-!
# Formula.Proofs.Scanning.Basic

Reading a text off without the places of its tokens. `Lexes afterOperand cs ls` says that all of
`cs` is read, into the lexemes `ls`; this is what the scanner does from any position
(`lexes_iff_scanFrom`). What a lexeme that was read may look like is `Lexeme.Written`.
-/

namespace Formula

/-- The whole text is read, into these lexemes. -/
inductive Lexes : Bool → List Char → List Lexeme → Prop where
  | nil {afterOperand : Bool} : Lexes afterOperand [] []
  | skip {afterOperand : Bool} {c : Char} {rest : List Char} {ls : List Lexeme} :
      read afterOperand c rest = .skip → Lexes afterOperand rest ls →
      Lexes afterOperand (c :: rest) ls
  | token {afterOperand : Bool} {c : Char} {rest : List Char} {l : Lexeme} {extra : Nat}
      {ls : List Lexeme} :
      read afterOperand c rest = .token l extra →
      Lexes l.kind.endsOperand (rest.drop extra) ls → Lexes afterOperand (c :: rest) (l :: ls)

theorem scanFrom_of_lexes {afterOperand : Bool} {cs : List Char} {ls : List Lexeme}
    (h : Lexes afterOperand cs ls) :
    ∀ position, (scanFrom position afterOperand cs).failure = none ∧
      (scanFrom position afterOperand cs).tokens.map Token.lexeme = ls := by
  induction h with
  | nil => intro position; simp [scanFrom]
  | skip hr _ ih =>
    intro position
    rw [scanFrom, hr]
    exact ih (position + 1)
  | @token _ _ _ _ extra _ hr _ ih =>
    intro position
    obtain ⟨hfailure, htokens⟩ := ih (position + 1 + extra)
    rw [scanFrom, hr]
    exact ⟨hfailure, by rw [List.map_cons, htokens]⟩

theorem lexes_of_scanFrom {position : Nat} {afterOperand : Bool} {cs : List Char}
    (h : (scanFrom position afterOperand cs).failure = none) :
    Lexes afterOperand cs ((scanFrom position afterOperand cs).tokens.map Token.lexeme) := by
  induction position, afterOperand, cs using scanFrom.induct with
  | case1 => rw [scanFrom]; exact .nil
  | case2 position afterOperand c rest hr ih =>
    rw [scanFrom, hr] at h ⊢
    exact .skip hr (ih h)
  | case3 position afterOperand c rest l extra hr ih =>
    rw [scanFrom, hr] at h ⊢
    exact .token hr (ih h)
  | case4 position afterOperand c rest cause hr =>
    rw [scanFrom, hr] at h
    simp at h

theorem lexes_iff_scanFrom (position : Nat) {afterOperand : Bool} {cs : List Char}
    {ls : List Lexeme} :
    Lexes afterOperand cs ls ↔ (scanFrom position afterOperand cs).failure = none ∧
      (scanFrom position afterOperand cs).tokens.map Token.lexeme = ls := by
  constructor
  · intro h
    exact scanFrom_of_lexes h position
  · rintro ⟨hfailure, rfl⟩
    exact lexes_of_scanFrom hfailure

theorem tokenize_of_lexes {source : String} {ls : List Lexeme} (h : Lexes false source.toList ls) :
    ∃ tokens, tokenize source = .ok tokens ∧ tokens.map Token.lexeme = ls := by
  obtain ⟨hfailure, htokens⟩ := (lexes_iff_scanFrom 0).mp h
  refine ⟨(scan source).tokens, ?_, htokens⟩
  have hscan : (scan source).failure = none := hfailure
  simp [tokenize, hscan]

theorem scan_of_tokenize {source : String} {tokens : List Token}
    (h : tokenize source = .ok tokens) : scan source = ⟨tokens, none⟩ := by
  unfold tokenize at h
  split at h
  · rename_i hfailure
    cases h
    rw [← hfailure]
  · cases h

theorem lexes_of_tokenize {source : String} {tokens : List Token}
    (h : tokenize source = .ok tokens) : Lexes false source.toList (tokens.map Token.lexeme) := by
  have hscan : scanFrom 0 false source.toList = ⟨tokens, none⟩ := scan_of_tokenize h
  exact (lexes_iff_scanFrom 0).mpr (by rw [hscan]; exact ⟨rfl, rfl⟩)

/-! ## How lexemes are written -/

/-- A prefix character, then parts of a name with points between them. -/
def IsVariableName (cs : List Char) : Prop :=
  ∃ c first tail, cs = c :: first :: tail ∧ (c = '#' ∨ c = '$') ∧ isNamePart first = true ∧
    (∀ x ∈ first :: tail, isVariablePart x = true) ∧ (first :: tail).getLast? ≠ some '.'

/-- A letter, then parts of a name, but not a truth value at the start. -/
def IsFunctionName (cs : List Char) : Prop :=
  ∃ c tail, cs = c :: tail ∧ Text.isLetter c = true ∧ Text.isDigit c = false ∧
    (∀ x ∈ tail, isNamePart x = true) ∧ ¬ trueWord <+: cs ∧ ¬ falseWord <+: cs

/-- What is read as a lexeme is written in the notation of its kind. -/
def Lexeme.Written : Lexeme → Prop
  | .string s => '\'' ∉ s.toList
  | .identifier name => IsFunctionName name.toList
  | .var name => IsVariableName name.toList
  | _ => True

section Read

variable {c : Char} {rest : List Char} {l : Lexeme} {extra : Nat}

theorem written_readVariable (hc : c = '#' ∨ c = '$')
    (h : readVariable c rest = .token l extra) : l.Written := by
  unfold readVariable at h
  split at h
  · cases h
  · rename_i first more
    split at h
    · rename_i hfirst
      dsimp only at h
      split at h
      · cases h
      · rename_i hlast
        cases h
        have hpart : isVariablePart first = true := by simp [isVariablePart, hfirst]
        rw [List.takeWhile_cons_of_pos hpart] at hlast ⊢
        refine ⟨c, first, more.takeWhile isVariablePart, by simp, hc, hfirst, fun x hx => ?_, hlast⟩
        rcases List.mem_cons.mp hx with rfl | hx
        · exact hpart
        · exact List.mem_takeWhile_imp hx
    · cases h

theorem written_readString (h : readString rest = .token l extra) : l.Written := by
  unfold readString at h
  dsimp only at h
  split at h
  · cases h
  · cases h
    intro hmem
    rw [String.toList_ofList] at hmem
    simpa using List.mem_takeWhile_imp hmem

theorem written_readNumber (h : readNumber c rest = .token l extra) : l.Written := by
  unfold readNumber at h
  dsimp only at h
  split at h
  · cases h
    trivial
  · cases h

theorem written_readIdentifier (hletter : Text.isLetter c = true) (hdigit : Text.isDigit c = false)
    (htrue : ¬ trueWord <+: c :: rest) (hfalse : ¬ falseWord <+: c :: rest)
    (h : readIdentifier c rest = .token l extra) : l.Written := by
  cases h
  have hstart : c :: rest.takeWhile isNamePart <+: c :: rest :=
    (List.cons_prefix_cons).mpr ⟨rfl, List.takeWhile_prefix _⟩
  refine ⟨c, rest.takeWhile isNamePart, by simp, hletter, hdigit,
    fun x hx => List.mem_takeWhile_imp hx, ?_, ?_⟩
  · rw [String.toList_ofList]
    exact fun hword => htrue (hword.trans hstart)
  · rw [String.toList_ofList]
    exact fun hword => hfalse (hword.trans hstart)

theorem written_punctuation (h : punctuation? c = some l) : l.Written := by
  unfold punctuation? at h
  split at h <;> cases h <;> trivial

/-- The rule by which a lexeme is read at the head of a text, with what the rules before it leave of
the text. -/
inductive Reads (afterOperand : Bool) (c : Char) (rest : List Char) : Lexeme → Nat → Prop where
  | trueValue : trueWord <+: c :: rest → Reads afterOperand c rest (.boolean true) 3
  | falseValue : falseWord <+: c :: rest → Reads afterOperand c rest (.boolean false) 4
  | var {l : Lexeme} {extra : Nat} : c = '#' ∨ c = '$' → readVariable c rest = .token l extra →
      Reads afterOperand c rest l extra
  | string {l : Lexeme} {extra : Nat} : c = '\'' → readString rest = .token l extra →
      Reads afterOperand c rest l extra
  | number {l : Lexeme} {extra : Nat} :
      Text.isDigit c = true ∨ c = '-' ∧ afterOperand = false ∧ startsWithDigit rest = true →
      readNumber c rest = .token l extra → Reads afterOperand c rest l extra
  | punctuation {l : Lexeme} : punctuation? c = some l → Reads afterOperand c rest l 0
  | operator {op : Operator} {extra : Nat} : operatorAt? c rest = some (op, extra) →
      Reads afterOperand c rest (.operator op) extra
  | identifier {l : Lexeme} {extra : Nat} : Text.isLetter c = true → Text.isDigit c = false →
      ¬ trueWord <+: c :: rest → ¬ falseWord <+: c :: rest →
      readIdentifier c rest = .token l extra → Reads afterOperand c rest l extra

theorem reads_of_read {afterOperand : Bool} (h : read afterOperand c rest = .token l extra) :
    Reads afterOperand c rest l extra := by
  unfold read at h
  split at h
  · cases h
  · split at h
    · rename_i htrue
      cases h
      exact .trueValue (List.isPrefixOf_iff_prefix.mp htrue)
    · rename_i htrue
      split at h
      · rename_i hfalse
        cases h
        exact .falseValue (List.isPrefixOf_iff_prefix.mp hfalse)
      · rename_i hfalse
        split at h
        · rename_i hc
          exact .var (by simpa using hc) h
        · split at h
          · rename_i hquote
            exact .string hquote h
          · split at h
            · rename_i hnumber
              exact .number (by simpa [and_assoc] using hnumber) h
            · rename_i hnumber
              split at h
              · rename_i hpunctuation
                cases h
                exact .punctuation hpunctuation
              · split at h
                · rename_i hoperator
                  cases h
                  exact .operator hoperator
                · split at h
                  · rename_i hletter
                    simp only [Bool.or_eq_true, not_or, Bool.not_eq_true] at hnumber
                    exact .identifier hletter hnumber.1 (by simpa using htrue)
                      (by simpa using hfalse) h
                  · cases h

theorem written_read {afterOperand : Bool} (h : read afterOperand c rest = .token l extra) :
    l.Written := by
  cases reads_of_read h with
  | trueValue => trivial
  | falseValue => trivial
  | var hc h => exact written_readVariable hc h
  | string _ h => exact written_readString h
  | number _ h => exact written_readNumber h
  | punctuation hl => exact written_punctuation hl
  | operator => trivial
  | identifier hletter hdigit htrue hfalse h =>
    exact written_readIdentifier hletter hdigit htrue hfalse h

end Read

theorem Lexes.written {afterOperand : Bool} {cs : List Char} {ls : List Lexeme}
    (h : Lexes afterOperand cs ls) : ∀ l ∈ ls, l.Written := by
  induction h with
  | nil => simp
  | skip _ _ ih => exact ih
  | token hr _ ih =>
    intro l hl
    rcases List.mem_cons.mp hl with rfl | hl
    · exact written_read hr
    · exact ih l hl

end Formula
