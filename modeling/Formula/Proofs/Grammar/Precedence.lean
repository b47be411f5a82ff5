import Formula.Proofs.Grammar.Lenient

/-!
# Formula.Proofs.Grammar.Precedence

Binary operators without the ladder of tiers. Primaries with operators between them are one tree:
what stands on both sides of the last operator of the loosest tier is a tree of its own, and that
operator joins the two (`tree_links`). The chains of the grammar, tier by tier, derive the same tree
(`derives_tree`), so this is what such tokens are parsed into, however many there are
(`parse_row`).
-/

namespace Formula
namespace Grammar

/-- The tokens of one primary with its tree. -/
structure Operand where
  tokens : List Token
  expr : Expr
  derives : Derives primary tokens expr

/-- A binary operator with the primary after it. -/
structure Link where
  token : Token
  op : Operator
  operand : Operand
  lexeme : token.lexeme = .operator op
  binary : op ≠ .not

namespace Link

def tier (link : Link) : Nat := link.op.precedence.rank

theorem mem_operators (link : Link) : link.op ∈ operators link.tier := by
  obtain ⟨k, -, hk⟩ := exists_mem_operators link.binary
  rwa [tier, (mem_operators_iff (lt_primary_of_mem hk)).mp hk]

theorem tier_lt (link : Link) : link.tier < primary := lt_primary_of_mem link.mem_operators

theorem tier_pos (link : Link) : 1 ≤ link.tier := tier_pos_of_mem link.mem_operators

end Link

/-- The tokens of a primary and of the links after it. -/
def rowTokens (first : Operand) (links : List Link) : List Token :=
  first.tokens ++ links.flatMap fun link => link.token :: link.operand.tokens

/-- Links with one among them at which they are cut. -/
structure Cut where
  before : List Link
  link : Link
  after : List Link

namespace Cut

def links (c : Cut) : List Link := c.before ++ c.link :: c.after

/-- The cut is at the last operator of the loosest tier. -/
structure Loosest (c : Cut) : Prop where
  before : ∀ link ∈ c.before, c.link.tier ≤ link.tier
  after : ∀ link ∈ c.after, c.link.tier < link.tier

theorem length_before_lt (c : Cut) : c.before.length < c.links.length := by
  simp only [links, List.length_append, List.length_cons]
  omega

theorem length_after_lt (c : Cut) : c.after.length < c.links.length := by
  simp only [links, List.length_append, List.length_cons]
  omega

theorem rowTokens_links (first : Operand) (c : Cut) :
    rowTokens first c.links =
      rowTokens first c.before ++ c.link.token :: rowTokens c.link.operand c.after := by
  simp [rowTokens, links]

/-- No other operator before the last of the loosest tier is the last of the loosest tier. -/
theorem Loosest.not_earlier {c : Cut} {before between after : List Link} {link : Link}
    (h : c.Loosest) (h' : Loosest ⟨before, link, after⟩)
    (hbefore : before = c.before ++ c.link :: between) (hafter : link ∈ c.after) : False := by
  have hle : link.tier ≤ c.link.tier := h'.before c.link (by simp [hbefore])
  have hlt : c.link.tier < link.tier := h.after link hafter
  omega

/-- Links have one such cut. -/
theorem Loosest.unique {c c' : Cut} (h : c.Loosest) (h' : c'.Loosest) (hlinks : c.links = c'.links) :
    c = c' := by
  obtain ⟨before, link, after⟩ := c
  obtain ⟨before', link', after'⟩ := c'
  rcases List.append_eq_append_iff.mp hlinks with ⟨between, hb, ha⟩ | ⟨between, hb, ha⟩
  · cases between with
    | nil =>
      rw [List.append_nil] at hb
      cases hb
      cases ha
      rfl
    | cons _ between =>
      cases ha
      exact (h.not_earlier h' hb (by simp)).elim
  · cases between with
    | nil =>
      rw [List.append_nil] at hb
      cases hb
      cases ha
      rfl
    | cons _ between =>
      cases ha
      exact (h'.not_earlier h hb (by simp)).elim

end Cut

/-- A link and those after it, cut at the last operator of the loosest tier. -/
def cut : Link → List Link → Cut
  | link, [] => ⟨[], link, []⟩
  | link, next :: rest =>
    let later := cut next rest
    if later.link.tier ≤ link.tier then ⟨link :: later.before, later.link, later.after⟩
    else ⟨[], link, next :: rest⟩

theorem links_cut (link : Link) (rest : List Link) : (cut link rest).links = link :: rest := by
  induction rest generalizing link with
  | nil => rfl
  | cons next rest ih =>
    rw [cut]
    split
    · exact congrArg (link :: ·) (ih next)
    · rfl

theorem loosest_cut (link : Link) (rest : List Link) : (cut link rest).Loosest := by
  induction rest generalizing link with
  | nil => exact ⟨by simp [cut], by simp [cut]⟩
  | cons next rest ih =>
    obtain ⟨hbefore, hafter⟩ := ih next
    rw [cut]
    split
    · rename_i hle
      exact ⟨List.forall_mem_cons.mpr ⟨hle, hbefore⟩, hafter⟩
    · rename_i hlt
      have hlt' : link.tier < (cut next rest).link.tier := Nat.lt_of_not_le hlt
      refine ⟨by simp, fun other hother => ?_⟩
      rw [← links_cut next rest, Cut.links, List.mem_append, List.mem_cons] at hother
      rcases hother with hother | rfl | hother
      · exact Nat.lt_of_lt_of_le hlt' (hbefore other hother)
      · exact hlt'
      · exact Nat.lt_trans hlt' (hafter other hother)

/-- The tree of a primary and the links after it: the last operator of the loosest tier joins the
trees of what stands before it and after it. -/
def tree (first : Operand) : List Link → Expr
  | [] => first.expr
  | link :: rest =>
    .binary (tree first (cut link rest).before) (cut link rest).link.op
      (tree (cut link rest).link.operand (cut link rest).after)
termination_by links => links.length
decreasing_by
  · exact links_cut link rest ▸ (cut link rest).length_before_lt
  · exact links_cut link rest ▸ (cut link rest).length_after_lt

theorem tree_links (first : Operand) {c : Cut} (h : c.Loosest) :
    tree first c.links =
      .binary (tree first c.before) c.link.op (tree c.link.operand c.after) := by
  cases hlinks : c.links with
  | nil =>
    rw [Cut.links] at hlinks
    simp at hlinks
  | cons link rest =>
    obtain rfl : cut link rest = c :=
      (loosest_cut link rest).unique h ((links_cut link rest).trans hlinks.symm)
    rw [tree]

/-- The tree is derived in every tier that no operator is looser than. -/
theorem derives_tree (first : Operand) (links : List Link) {k : Nat} (hk : k ≤ primary)
    (hlinks : ∀ link ∈ links, k ≤ link.tier) :
    Derives k (rowTokens first links) (tree first links) := by
  induction first, links using tree.induct generalizing k with
  | case1 first =>
    rw [tree, rowTokens, List.flatMap_nil, List.append_nil]
    exact first.derives.of_le (Nat.le_refl _) hk
  | case2 first link rest ihbefore ihafter =>
    have hloosest := loosest_cut link rest
    rw [← links_cut link rest] at hlinks ⊢
    generalize cut link rest = c at *
    rw [tree_links first hloosest, Cut.rowTokens_links]
    -- Before the cut stands the same tier or a tighter one, after it a tighter one.
    have hbefore := ihbefore (Nat.le_of_lt c.link.tier_lt) hloosest.before
    have hafter := ihafter c.link.tier_lt hloosest.after
    have hderives := Derives.binary c.link.lexeme c.link.mem_operators hbefore hafter
    exact hderives.of_le (Nat.le_of_lt c.link.tier_lt) (hlinks c.link (by simp [Cut.links]))

end Grammar

open Grammar

/-- Primaries with binary operators between them, of any number and any mix of tiers, are parsed
into a tree that is told without tiers of chains: a primary on its own is its tree, and of several
the last operator of the loosest tier joins the trees of what stands on its two sides. -/
theorem parse_row (options : Options) (source : Option String) (first : Operand)
    (links : List Link) :
    (parse options source (rowTokens first links)).result = .ok (tree first links) ∧
    (∀ operand : Operand, tree operand [] = operand.expr) ∧
    (∀ (operand : Operand) (c : Cut), c.Loosest → tree operand c.links =
      .binary (tree operand c.before) c.link.op (tree c.link.operand c.after)) ∧
    ∀ link rest, ∃ c : Cut, c.Loosest ∧ c.links = link :: rest := by
  have hderives : Derives 1 (rowTokens first links) (tree first links) :=
    derives_tree first links (by decide) fun link _ => link.tier_pos
  have hsplit : Split (rowTokens first links) (rowTokens first links) (tree first links) [] :=
    split_iff_maximal.mpr ⟨(List.append_nil _).symm, hderives, stops_nil 1 _⟩
  have hparsed : parseTokens options.allowTrailingTokens (rowTokens first links) =
      .ok ⟨tree first links, []⟩ := by
    cases options.allowTrailingTokens with
    | true => exact parseTokens_lenient_of_split hsplit
    | false => exact parseTokens_strict_of_split hsplit
  refine ⟨parse_of_ok options source hparsed, fun operand => ?_, fun operand c => tree_links operand,
    fun link rest => ⟨_, loosest_cut link rest, links_cut link rest⟩⟩
  rw [tree]

example :
    let operand (name : String) : Operand := ⟨[⟨.var name, 0, name⟩], .var name, .var rfl⟩
    let link (op : Operator) (h : op ≠ .not) (name : String) : Link :=
      ⟨⟨.operator op, 0, op.spelling⟩, op, operand name, rfl, h⟩
    (tree (operand "#a") [link .minus (by decide) "#b", link .multiply (by decide) "#c",
      link .minus (by decide) "#d", link .less (by decide) "#e"]).print =
      "(((#a - (#b * #c)) - #d) < #e)" := by
  cbv

end Formula
