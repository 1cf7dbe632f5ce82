import Mathlib
import Outline.Proofs.Symbol.Preorder
import Outline.Proofs.Symbol.Segments

/-!
# The symbol of a name path

A name path leads to a symbol when it has one segment for each symbol on the way from the top level
down to it, and every segment selects its symbol among the symbols beside it. Following the segments
finds this symbol, and there is no other one.
-/

namespace Outline

/-! ### Selecting by a segment -/

namespace NamePath

/-- `s` is number `n`, counted from zero, of the symbols called `name`. -/
def IsNth (siblings : List Symbol) (name : String) (n : Nat) (s : Symbol) : Prop :=
  ∃ before after, siblings = before ++ s :: after ∧ s.name = name ∧
    before.countP (·.name == name) = n

/-- A segment selects a symbol: by its name, if anything has that name, and else by the number of
the symbol among those of one name. -/
inductive Selects (siblings : List Symbol) (segment : String) (s : Symbol) : Prop where
  | named (first : IsNth siblings segment 0 s)
  | numbered (name : String) (n : Nat) (unnamed : ∀ t ∈ siblings, t.name ≠ segment)
      (written : Numbered segment name n) (nth : IsNth siblings name n s)

variable {siblings : List Symbol} {segment name : String} {n : Nat} {s : Symbol}

lemma isNth_cons_iff {t : Symbol} :
    IsNth (t :: siblings) name n s ↔ t = s ∧ s.name = name ∧ n = 0 ∨
      ∃ m, IsNth siblings name m s ∧ n = m + if t.name == name then 1 else 0 := by
  constructor
  · rintro ⟨before, after, hsiblings, hname, rfl⟩
    cases before with
    | nil =>
      rw [List.nil_append, List.cons_eq_cons] at hsiblings
      exact .inl ⟨hsiblings.1, hname, rfl⟩
    | cons first before =>
      rw [List.cons_append, List.cons_eq_cons] at hsiblings
      obtain ⟨rfl, rfl⟩ := hsiblings
      exact .inr ⟨_, ⟨before, after, rfl, hname, rfl⟩, List.countP_cons⟩
  · rintro (⟨rfl, hname, rfl⟩ | ⟨m, ⟨before, after, rfl, hname, rfl⟩, rfl⟩)
    · exact ⟨[], siblings, rfl, hname, rfl⟩
    · exact ⟨t :: before, after, rfl, hname, List.countP_cons⟩

lemma getElem?_filter_eq_some_iff :
    (siblings.filter (·.name == name))[n]? = some s ↔ IsNth siblings name n s := by
  induction siblings generalizing n with
  | nil => simp [IsNth]
  | cons t siblings ih =>
    rw [isNth_cons_iff]
    by_cases ht : t.name = name
    · rw [List.filter_cons_of_pos (by simpa using ht)]
      simp only [ht, beq_self_eq_true, if_true]
      cases n with
      | zero =>
        constructor
        · rintro ⟨⟩
          exact .inl ⟨rfl, ht, rfl⟩
        · rintro (⟨rfl, -, -⟩ | ⟨m, -, hm⟩)
          · rfl
          · cases hm
      | succ n =>
        rw [List.getElem?_cons_succ, ih]
        constructor
        · exact fun h => .inr ⟨n, h, rfl⟩
        · rintro (⟨-, -, hn⟩ | ⟨m, h, hm⟩)
          · cases hn
          · cases hm
            exact h
    · rw [List.filter_cons_of_neg (by simpa using ht), ih]
      constructor
      · exact fun h => .inr ⟨n, h, by simp [ht]⟩
      · rintro (⟨rfl, hname, -⟩ | ⟨m, h, hm⟩)
        · exact absurd hname ht
        · simp only [beq_eq_false_iff_ne.mpr ht, Bool.false_eq_true, if_false] at hm
          rwa [hm]

lemma find?_eq_some_iff_isNth :
    siblings.find? (·.name == segment) = some s ↔ IsNth siblings segment 0 s := by
  rw [← List.head?_filter, List.head?_eq_getElem?, getElem?_filter_eq_some_iff]

lemma pick_eq_some_iff : pick siblings segment = some s ↔ Selects siblings segment s := by
  unfold pick
  constructor
  · intro h
    split at h
    · rename_i found hfound
      cases h
      exact .named (find?_eq_some_iff_isNth.mp hfound)
    · rename_i hnone
      obtain ⟨⟨name, n⟩, hsplit, hnth⟩ := Option.bind_eq_some_iff.mp h
      refine .numbered name n ?_ (splitOrdinal?_eq_some_iff.mp hsplit)
        (getElem?_filter_eq_some_iff.mp hnth)
      simpa using hnone
  · rintro (hfirst | ⟨name, n, hunnamed, hwritten, hnth⟩)
    · rw [find?_eq_some_iff_isNth.mpr hfirst]
    · have hnone : siblings.find? (·.name == segment) = none := by simpa using hunnamed
      rw [hnone]
      exact Option.bind_eq_some_iff.mpr ⟨(name, n), splitOrdinal?_eq_some_iff.mpr hwritten,
        getElem?_filter_eq_some_iff.mpr hnth⟩

lemma Selects.mem (h : Selects siblings segment s) : s ∈ siblings := by
  rcases h with ⟨before, after, rfl, -⟩ | ⟨_, _, -, -, before, after, rfl, -⟩
  · simp
  · simp

end NamePath

open NamePath

namespace SymbolTree

variable {tree : SymbolTree} {s p : Symbol} {chain : List Symbol}

/-! ### The way to a symbol -/

/-- The symbols that stand beside a symbol, itself included. -/
def siblings (tree : SymbolTree) (s : Symbol) : List Symbol :=
  tree.symbols.filter (·.parent == s.parent)

lemma siblings_of_mem_roots (h : s ∈ tree.roots) : tree.siblings s = tree.roots := by
  rw [siblings, (mem_roots_iff.mp h).2, roots]

lemma siblings_of_mem_children (h : s ∈ tree.children p) :
    tree.siblings s = tree.children p := by
  rw [siblings, (mem_children_iff.mp h).2, children]

/-- The symbols from the top level down to a symbol, which is the last of them. -/
inductive Lineage (tree : SymbolTree) : List Symbol → Symbol → Prop where
  | root {s : Symbol} (h : s ∈ tree.roots) : Lineage tree [s] s
  | child {chain : List Symbol} {p s : Symbol} (hp : Lineage tree chain p)
      (h : s ∈ tree.children p) : Lineage tree (chain ++ [s]) s

lemma Lineage.ne_nil (h : tree.Lineage chain s) : chain ≠ [] := by
  cases h with
  | root h => exact List.cons_ne_nil _ _
  | child hp h => simp

lemma lineage_concat_iff {t : Symbol} :
    tree.Lineage (chain ++ [t]) s ↔
      t = s ∧ (chain = [] ∧ s ∈ tree.roots ∨ ∃ p, tree.Lineage chain p ∧ s ∈ tree.children p) := by
  constructor
  · intro h
    generalize hwhole : chain ++ [t] = whole at h
    cases h with
    | root h =>
      obtain ⟨rfl, hlast⟩ := List.append_inj' (hwhole.trans (List.nil_append [s]).symm) rfl
      cases hlast
      exact ⟨rfl, .inl ⟨rfl, h⟩⟩
    | child hp h =>
      obtain ⟨rfl, hlast⟩ := List.append_inj' hwhole rfl
      cases hlast
      exact ⟨rfl, .inr ⟨_, hp, h⟩⟩
  · rintro ⟨rfl, ⟨rfl, h⟩ | ⟨p, hp, h⟩⟩
    · exact .root h
    · exact .child hp h

/-! ### Following segments -/

/-- Follows segments from the top level down. -/
def follow (tree : SymbolTree) : List String → Option Symbol
  | []              => none
  | segment :: rest => (pick tree.roots segment).bind (descend tree · rest)

lemma resolve_eq_follow (tree : SymbolTree) (path : String) :
    tree.resolve path = tree.follow (NamePath.segments path) := rfl

lemma descend_concat (tree : SymbolTree) (s : Symbol) (segments : List String) (segment : String) :
    descend tree s (segments ++ [segment]) =
      (descend tree s segments).bind fun p => pick (tree.children p) segment := by
  induction segments generalizing s with
  | nil => simp [descend]
  | cons first rest ih => simp [descend, ih, Option.bind_assoc]

lemma follow_concat (tree : SymbolTree) {segments : List String} (hne : segments ≠ [])
    (segment : String) :
    tree.follow (segments ++ [segment]) =
      (tree.follow segments).bind fun p => pick (tree.children p) segment := by
  obtain ⟨first, rest, rfl⟩ := List.exists_cons_of_ne_nil hne
  simp [follow, descend_concat, Option.bind_assoc]

lemma forall₂_concat_iff {α β : Type} {R : α → β → Prop} {as : List α} {a : α} {bs : List β} :
    List.Forall₂ R (as ++ [a]) bs ↔
      ∃ front b, bs = front ++ [b] ∧ List.Forall₂ R as front ∧ R a b := by
  induction as generalizing bs with
  | nil =>
    constructor
    · rintro (_ | ⟨hab, ⟨⟩⟩)
      exact ⟨[], _, rfl, .nil, hab⟩
    · rintro ⟨front, b, rfl, ⟨⟩, hab⟩
      exact .cons hab .nil
  | cons first as ih =>
    rw [List.cons_append, List.forall₂_cons_left_iff]
    constructor
    · rintro ⟨b, rest, hfirst, hrest, rfl⟩
      obtain ⟨front, last, rfl, hfront, hlast⟩ := ih.mp hrest
      exact ⟨b :: front, last, rfl, .cons hfirst hfront, hlast⟩
    · rintro ⟨_, last, rfl, _ | ⟨hfirst, hfront⟩, hlast⟩
      exact ⟨_, _, hfirst, ih.mpr ⟨_, last, rfl, hfront, hlast⟩, rfl⟩

/-- Following segments finds the symbol whose lineage they select, level by level. -/
lemma follow_eq_some_iff {segments : List String} :
    tree.follow segments = some s ↔ ∃ chain, tree.Lineage chain s ∧
      List.Forall₂ (fun segment t => Selects (tree.siblings t) segment t) segments chain := by
  -- from the last segment, because a lineage grows at its end
  induction segments using List.reverseRecOn generalizing s with
  | nil =>
    constructor
    · rintro ⟨⟩
    · rintro ⟨chain, hchain, hselects⟩
      cases hselects
      exact absurd rfl hchain.ne_nil
  | append_singleton segments segment ih =>
    simp only [forall₂_concat_iff]
    by_cases hne : segments = []
    · subst hne
      have hfirst : tree.follow ([] ++ [segment]) = pick tree.roots segment := by
        simp [follow, descend]
      rw [hfirst, pick_eq_some_iff]
      constructor
      · intro h
        refine ⟨[s], .root h.mem, [], s, rfl, .nil, ?_⟩
        rwa [siblings_of_mem_roots h.mem]
      · rintro ⟨_, hchain, _, t, rfl, ⟨⟩, h⟩
        obtain ⟨rfl, ⟨-, hroot⟩ | ⟨p, hp, -⟩⟩ := lineage_concat_iff.mp hchain
        · rwa [siblings_of_mem_roots hroot] at h
        · exact absurd rfl hp.ne_nil
    · rw [follow_concat tree hne, Option.bind_eq_some_iff]
      simp only [ih, pick_eq_some_iff]
      constructor
      · rintro ⟨p, ⟨chain, hchain, hselects⟩, hlast⟩
        refine ⟨chain ++ [s], .child hchain hlast.mem, chain, s, rfl, hselects, ?_⟩
        rwa [siblings_of_mem_children hlast.mem]
      · rintro ⟨_, hchain, chain, t, rfl, hselects, hlast⟩
        obtain ⟨rfl, ⟨rfl, -⟩ | ⟨p, hp, hchild⟩⟩ := lineage_concat_iff.mp hchain
        · cases hselects
          exact absurd rfl hne
        · rw [siblings_of_mem_children hchild] at hlast
          exact ⟨p, ⟨chain, hp, hselects⟩, hlast⟩

/-- A name path resolves by the segments between the slashes around it. -/
lemma resolve_eq_some_iff {path : String} :
    tree.resolve path = some s ↔ ∃ core segments chain, Trims path core ∧ core ≠ "" ∧
      Cuts core segments ∧ tree.Lineage chain s ∧
      List.Forall₂ (fun segment t => Selects (tree.siblings t) segment t) segments chain := by
  rw [resolve_eq_follow]
  constructor
  · intro h
    have hne : NamePath.segments path ≠ [] := by
      intro hnil
      rw [hnil] at h
      cases h
    obtain ⟨core, htrims, hnonempty, hcuts⟩ := (segments_eq_iff hne).mp rfl
    obtain ⟨chain, hchain, hselects⟩ := follow_eq_some_iff.mp h
    exact ⟨core, _, chain, htrims, hnonempty, hcuts, hchain, hselects⟩
  · rintro ⟨core, segments, chain, htrims, hnonempty, hcuts, hchain, hselects⟩
    rw [(segments_eq_iff hcuts.ne_nil).mpr ⟨core, htrims, hnonempty, hcuts⟩]
    exact follow_eq_some_iff.mpr ⟨chain, hchain, hselects⟩

/-! ### Trees of answers -/

variable {uri : Uri} {raw : List RawSymbol}

lemma Lineage.mem (h : tree.Lineage chain s) : s ∈ tree.symbols := by
  cases h with
  | root h => exact (mem_roots_iff.mp h).1
  | child hp h => exact (mem_children_iff.mp h).1

lemma outer_of_mem_roots (h : s ∈ (build uri raw).roots) : s.depth = 0 ∧ s.namePath = s.name := by
  obtain ⟨hs, hnone⟩ := mem_roots_iff.mp h
  cases tied_of_mem_build hs with
  | root _ hdepth hpath => exact ⟨hdepth, hpath⟩
  | child p _ hparent _ _ _ _ => cases hnone.symm.trans hparent

lemma inner_of_mem_children (hp : p ∈ (build uri raw).symbols)
    (h : s ∈ (build uri raw).children p) :
    s.depth = p.depth + 1 ∧ s.namePath = p.namePath ++ "/" ++ s.name := by
  obtain ⟨hs, hparent⟩ := mem_children_iff.mp h
  cases tied_of_mem_build hs with
  | root hnone _ _ => cases hnone.symm.trans hparent
  | child q hq hparent' _ hdepth hpath _ =>
    have hid : q.id = p.id := Option.some.inj (hparent'.symm.trans hparent)
    rw [← eq_of_id_eq (map_id_build uri raw) hq hp hid]
    exact ⟨hdepth, hpath⟩

lemma Lineage.length_eq (h : (build uri raw).Lineage chain s) : chain.length = s.depth + 1 := by
  induction h with
  | root h => rw [(outer_of_mem_roots h).1, List.length_singleton]
  | child hp h ih =>
    rw [(inner_of_mem_children hp.mem h).1, List.length_append, ih, List.length_singleton]

/-- A name path leads to a symbol: between the slashes around it, it has a segment for each symbol
from the top level down, and every segment selects its symbol among those beside it. -/
inductive LeadsTo (tree : SymbolTree) (path : String) (s : Symbol) : Prop where
  | intro {core : String} {segments : List String} {chain : List Symbol} (trims : Trims path core)
      (nonempty : core ≠ "") (cuts : Cuts core segments) (levels : segments.length = s.depth + 1)
      (lineage : tree.Lineage chain s)
      (selects : List.Forall₂ (fun segment t => Selects (tree.siblings t) segment t) segments chain)

/-- A name path resolves to the symbol that it leads to, and it leads to one symbol at most. -/
theorem resolve_build_eq_some_iff (uri : Uri) (raw : List RawSymbol) (path : String) :
    (∀ s, (build uri raw).resolve path = some s ↔ (build uri raw).LeadsTo path s) ∧
      Set.Subsingleton fun s => (build uri raw).LeadsTo path s := by
  have hresolve (s : Symbol) :
      (build uri raw).resolve path = some s ↔ (build uri raw).LeadsTo path s := by
    rw [resolve_eq_some_iff]
    constructor
    · rintro ⟨core, segments, chain, htrims, hnonempty, hcuts, hchain, hselects⟩
      refine .intro htrims hnonempty hcuts ?_ hchain hselects
      rw [hselects.length_eq, hchain.length_eq]
    · rintro ⟨htrims, hnonempty, hcuts, -, hchain, hselects⟩
      exact ⟨_, _, _, htrims, hnonempty, hcuts, hchain, hselects⟩
  refine ⟨hresolve, fun s hs t ht => ?_⟩
  exact Option.some.inj (((hresolve s).mpr hs).symm.trans ((hresolve t).mpr ht))

end SymbolTree

end Outline
