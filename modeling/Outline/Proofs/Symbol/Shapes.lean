import Mathlib
import Outline.Proofs.Symbol.Forest
import Outline.Proofs.Symbol.Nesting

/-!
# The two shapes of an answer

A server may send symbols nested in each other or as a flat list. Where the ranges of a forest tell
what is inside what, both shapes give the same symbols with the same name paths and depths. The
symbols of both trees are `Nested`: each stands inside the last one that contains it. Two lists of
the same symbols that are both nested agree, since a symbol finds the same parent in each.
-/

namespace Outline

/-! ### Nested lists of symbols -/

/-- Symbols that stand in the order of their numbers, each of them inside the last one that contains
it, and behind all that contain it. -/
structure Nested (symbols : List Symbol) : Prop where
  ids    : symbols.map Symbol.id = List.range symbols.length
  tied   : ∀ s ∈ symbols, Tied symbols s
  before : ∀ s ∈ symbols, ∀ t ∈ symbols, s.head.Contains t.head → s.id < t.id
  last   : ∀ s ∈ symbols, LastContaining symbols s.head s.parent

/-- Of two symbols that contain a third one, one contains the other. -/
def Laminar (symbols : List Symbol) : Prop :=
  ∀ s ∈ symbols, ∀ t ∈ symbols, ∀ u ∈ symbols, s.head.Contains u.head → t.head.Contains u.head →
    s.id ≠ t.id → s.head.Contains t.head ∨ t.head.Contains s.head

/-- What both shapes of an answer have of a symbol: its name, kind and range. -/
def SymbolHead.common (h : SymbolHead) : Option String × Option SymbolKind × Option Range :=
  (some h.name, h.kind, h.range)

/-- A symbol by its name path, kind, range and depth. -/
def Symbol.entry (s : Symbol) : String × Option SymbolKind × Option Range × Nat :=
  (s.namePath, s.head.kind, s.range, s.depth)

lemma SymbolHead.contains_congr {a b c d : SymbolHead} (hac : a.common = c.common)
    (hbd : b.common = d.common) : a.Contains b ↔ c.Contains d := by
  simp only [common, Prod.mk.injEq] at hac hbd
  simp only [Contains, hac.2.2, hbd.2.2]

lemma Symbol.entry_eq {s t : Symbol} (hcommon : s.head.common = t.head.common)
    (hpath : s.namePath = t.namePath) (hdepth : s.depth = t.depth) : s.entry = t.entry := by
  simp only [SymbolHead.common, Prod.mk.injEq] at hcommon
  simp only [entry, range, hpath, hdepth, hcommon]

/-- Two lists that hold the same symbols, place by place, as far as both shapes have them. -/
def Match (symbols others : List Symbol) : Prop :=
  symbols.map (fun s => s.head.common) = others.map fun s => s.head.common

namespace Match

variable {symbols others : List Symbol}

lemma common_eq (h : Match symbols others) {i : Nat} {s t : Symbol} (hs : symbols[i]? = some s)
    (ht : others[i]? = some t) : s.head.common = t.head.common := by
  have := congrArg (·[i]?) h
  simpa [hs, ht] using this

lemma exists_right (h : Match symbols others) {i : Nat} {s : Symbol} (hs : symbols[i]? = some s) :
    ∃ t, others[i]? = some t := by
  have := congrArg (·[i]?) h
  simp only [List.getElem?_map, hs, Option.map_some] at this
  obtain ⟨t, ht, -⟩ := Option.map_eq_some_iff.mp this.symm
  exact ⟨t, ht⟩

lemma exists_left (h : Match symbols others) {i : Nat} {t : Symbol} (ht : others[i]? = some t) :
    ∃ s, symbols[i]? = some s :=
  exists_right (Eq.symm h) ht

/-- Containment is the same on both sides. -/
lemma contains_iff (h : Match symbols others) {i j : Nat} {s s' t t' : Symbol}
    (hs : symbols[i]? = some s) (hs' : symbols[j]? = some s') (ht : others[i]? = some t)
    (ht' : others[j]? = some t') : s.head.Contains s'.head ↔ t.head.Contains t'.head :=
  SymbolHead.contains_congr (h.common_eq hs ht) (h.common_eq hs' ht')

end Match

namespace Nested

variable {symbols matched others : List Symbol}

/-- A symbol that contains `s`, and that no other one behind it does, is the parent of `s`. -/
lemma parent_eq (h : Nested symbols) {p s : Symbol} (hp : p ∈ symbols) (hs : s ∈ symbols)
    (hps : p.head.Contains s.head)
    (hmax : ∀ q ∈ symbols, q.head.Contains s.head → p.id ≤ q.id → q = p) :
    s.parent = some p.id := by
  have hlast := h.last s hs
  cases hparent : s.parent with
  | none =>
    rw [hparent] at hlast
    exact absurd hps (hlast p hp)
  | some k =>
    rw [hparent] at hlast
    obtain ⟨⟨q, hq, rfl, hqs⟩, hle⟩ := hlast
    rw [hmax q hq hqs (hle p hp hps)]

/-- A symbol that nothing contains has no parent. -/
lemma parent_eq_none (h : Nested symbols) {s : Symbol} (hs : s ∈ symbols)
    (hnone : ∀ c ∈ symbols, ¬ c.head.Contains s.head) : s.parent = none := by
  have hlast := h.last s hs
  cases hparent : s.parent with
  | none => rfl
  | some k =>
    rw [hparent] at hlast
    obtain ⟨⟨c, hc, -, hcs⟩, -⟩ := hlast
    exact absurd hcs (hnone c hc)

/-- The parent of `t` in one list is matched with the parent of `s` in the other one. -/
lemma parent_of_match (h : Nested symbols) (hlaminar : Laminar symbols) (hothers : Nested others)
    (hperm : matched.Perm symbols) (hmatch : Match matched others) {i j : Nat} {s q t p : Symbol}
    (hs : matched[i]? = some s) (ht : others[i]? = some t) (hq : matched[j]? = some q)
    (hp : others[j]? = some p) (hparent : t.parent = some p.id) : s.parent = some q.id := by
  have hmem : ∀ {k : Nat} {x : Symbol}, matched[k]? = some x → x ∈ symbols :=
    fun hx => hperm.mem_iff.mp (List.mem_of_getElem? hx)
  have hlast := hothers.last t (List.mem_of_getElem? ht)
  rw [hparent] at hlast
  obtain ⟨⟨c, hc, hid, hct⟩, hle⟩ := hlast
  rw [eq_of_id_eq hothers.ids hc (List.mem_of_getElem? hp) hid] at hct
  refine h.parent_eq (hmem hq) (hmem hs) ((hmatch.contains_iff hq hs hp ht).mpr hct) ?_
  intro r hr hrs hqr
  by_contra hne
  have hids : q.id ≠ r.id := fun hid => hne (eq_of_id_eq h.ids hr (hmem hq) hid.symm)
  obtain ⟨k, hk⟩ := List.mem_iff_getElem?.mp (hperm.mem_iff.mpr hr)
  obtain ⟨u, hu⟩ := hmatch.exists_right hk
  rcases hlaminar q (hmem hq) r hr s (hmem hs) ((hmatch.contains_iff hq hs hp ht).mpr hct) hrs hids
    with hcontains | hcontains
  · -- `r` would stand between `q` and `s`, so its counterpart would be the parent of `t`
    have hbefore := hothers.before p (List.mem_of_getElem? hp) u (List.mem_of_getElem? hu)
      ((hmatch.contains_iff hq hk hp hu).mp hcontains)
    have hlate := hle u (List.mem_of_getElem? hu) ((hmatch.contains_iff hk hs hu ht).mp hrs)
    omega
  · have := h.before r hr q (hmem hq) hcontains
    omega

/-- Matched symbols of two nested lists have the same name path and depth. -/
lemma entry_eq_entry (h : Nested symbols) (hlaminar : Laminar symbols) (hothers : Nested others)
    (hperm : matched.Perm symbols) (hmatch : Match matched others) {i : Nat} {s t : Symbol}
    (hs : matched[i]? = some s) (ht : others[i]? = some t) : s.entry = t.entry := by
  induction i using Nat.strongRecOn generalizing s t with
  | _ i ih =>
    have hcommon := hmatch.common_eq hs ht
    have hname : s.name = t.name := Option.some.inj (congrArg Prod.fst hcommon)
    have hsmem : s ∈ symbols := hperm.mem_iff.mp (List.mem_of_getElem? hs)
    have htmem := List.mem_of_getElem? ht
    have hti : t.id = i := by
      obtain ⟨hi, rfl⟩ := List.getElem?_eq_some_iff.mp ht
      have := congrArg (·[i]?) hothers.ids
      simpa [hi] using this
    cases hothers.tied t htmem with
    | root hparent hdepth hpath =>
      have hnone : s.parent = none := by
        refine h.parent_eq_none hsmem fun c hc hcs => ?_
        obtain ⟨k, hk⟩ := List.mem_iff_getElem?.mp (hperm.mem_iff.mpr hc)
        obtain ⟨u, hu⟩ := hmatch.exists_right hk
        have hlast := hothers.last t htmem
        rw [hparent] at hlast
        exact hlast u (List.mem_of_getElem? hu) ((hmatch.contains_iff hk hs hu ht).mp hcs)
      cases h.tied s hsmem with
      | root _ hdepth' hpath' =>
        exact Symbol.entry_eq hcommon (by rw [hpath, hpath', hname]) (by rw [hdepth, hdepth'])
      | child q _ hparent' _ _ _ _ =>
        rw [hnone] at hparent'
        cases hparent'
    | child p hp hparent hlt hdepth hpath _ =>
      have hpget := getElem?_id_of_mem hothers.ids hp
      obtain ⟨q, hq⟩ := hmatch.exists_left hpget
      have hsparent := h.parent_of_match hlaminar hothers hperm hmatch hs ht hq hpget hparent
      have hentry := ih p.id (by omega) hq hpget
      simp only [Symbol.entry, Prod.mk.injEq] at hentry
      cases h.tied s hsmem with
      | root hparent' _ _ =>
        rw [hsparent] at hparent'
        cases hparent'
      | child q' hq' hparent' _ hdepth' hpath' _ =>
        rw [hsparent, Option.some.injEq] at hparent'
        have hqq : q = q' :=
          eq_of_id_eq h.ids (hperm.mem_iff.mp (List.mem_of_getElem? hq)) hq' hparent'
        subst hqq
        refine Symbol.entry_eq hcommon ?_ ?_
        · rw [hpath, hpath', hname, hentry.1]
        · rw [hdepth, hdepth', hentry.2.2.2]

/-- Two nested lists of the same symbols give them the same entries. -/
lemma map_entry_perm (h : Nested symbols) (hlaminar : Laminar symbols) (hothers : Nested others)
    (hcommon : (others.map fun s => s.head.common).Perm (symbols.map fun s => s.head.common)) :
    (symbols.map Symbol.entry).Perm (others.map Symbol.entry) := by
  obtain ⟨matched, hmatch, hperm⟩ : Relation.Comp
      (fun l l' => l = l'.map fun s : Symbol => s.head.common) List.Perm
      (others.map fun s => s.head.common) symbols := by
    rwa [List.eq_map_comp_perm]
  have hmatch : Match matched others := hmatch.symm
  have hentries : matched.map Symbol.entry = others.map Symbol.entry := by
    refine List.ext_getElem? fun i => ?_
    rw [List.getElem?_map, List.getElem?_map]
    cases hs : matched[i]? with
    | none =>
      cases ht : others[i]? with
      | none => rfl
      | some t =>
        obtain ⟨s, hs'⟩ := hmatch.exists_left ht
        rw [hs] at hs'
        cases hs'
    | some s =>
      obtain ⟨t, ht⟩ := hmatch.exists_right hs
      rw [ht, Option.map_some, Option.map_some,
        h.entry_eq_entry hlaminar hothers hperm hmatch hs ht]
  rw [← hentries]
  exact (hperm.map Symbol.entry).symm

end Nested

/-! ### The flat shape -/

/-- What both shapes of an answer have of an entry: its name, kind and range. -/
def RawInfo.common (i : RawInfo) : Option String × Option SymbolKind × Option Range :=
  (i.name, i.kind, i.effectiveRange)

lemma RawInfo.common_of_head? {uri : Uri} {i : RawInfo} {h : SymbolHead}
    (hh : i.head? uri = some h) : h.common = i.common := by
  unfold head? at hh
  cases hname : i.name with
  | none =>
    rw [hname] at hh
    cases hh
  | some name =>
    rw [hname] at hh
    by_cases hempty : name.isEmpty = true
    · simp [hempty] at hh
    · simp only [hempty, Bool.false_eq_true, if_false, Option.some.injEq] at hh
      rw [← hh, SymbolHead.common, common, hname]

lemma RawInfo.isSome_head? (uri : Uri) {i : RawInfo} {name : String} (hname : i.name = some name)
    (hne : name ≠ "") : (i.head? uri).isSome := by
  have hempty : ¬ name.isEmpty = true := fun h => hne (String.isEmpty_iff.mp h)
  simp [head?, hname, hempty]

lemma map_common_filterMap {uri : Uri} {raw : List RawSymbol}
    (hnamed : ∀ s ∈ raw, (s.info.head? uri).isSome) :
    (raw.filterMap fun s => s.info.head? uri).map SymbolHead.common =
      raw.map fun s => s.info.common := by
  induction raw with
  | nil => rfl
  | cons s raw ih =>
    obtain ⟨h, hh⟩ := Option.isSome_iff_exists.mp (hnamed s List.mem_cons_self)
    rw [List.filterMap_cons, hh, List.map_cons, List.map_cons, RawInfo.common_of_head? hh,
      ih fun t ht => hnamed t (List.mem_cons_of_mem s ht)]

/-- A tree of a flat answer is nested. -/
lemma nested_of_isFlat (uri : Uri) {raw : List RawSymbol} (hflat : ∀ s ∈ raw, s.isFlat = true) :
    Nested (SymbolTree.build uri raw).symbols where
  ids := map_id_build uri raw
  tied := by
    have hdescends : Descends 0 (nest [] (flatHeads uri raw)) :=
      @descends_nest [] _ (flatHeads_sorted uri raw)
    rw [build_of_isFlat hflat]
    exact fun s hs => tied_of_mem_tieRows hdescends hs
  before := by
    intro s hs t ht hcontains
    have hsorted : (SymbolTree.build uri raw).symbols.Pairwise
        fun a b => a.head.le b.head = true := by
      have hheads := flatHeads_sorted uri raw
      rw [← map_head_nest [] (flatHeads uri raw), ← map_head_tieRows [] 0,
        ← build_of_isFlat hflat] at hheads
      exact List.pairwise_map.mp hheads
    by_contra hlt
    rcases Nat.lt_or_eq_of_le (Nat.le_of_not_lt hlt) with hlt | heq
    · have hids := map_id_build uri raw
      obtain ⟨hti, hteq⟩ := List.getElem?_eq_some_iff.mp (getElem?_id_of_mem hids ht)
      obtain ⟨hsi, hseq⟩ := List.getElem?_eq_some_iff.mp (getElem?_id_of_mem hids hs)
      have hle := List.pairwise_iff_getElem.mp hsorted t.id s.id hti hsi hlt
      rw [hteq, hseq] at hle
      exact hcontains.not_le hle
    · rw [eq_of_id_eq (map_id_build uri raw) ht hs heq] at hcontains
      exact SymbolHead.not_contains_self _ hcontains
  last := lastContaining_of_isFlat uri hflat

/-! ### The nested shape -/

/-- A forest whose symbols all have names and ranges, and whose ranges strictly contain each other
exactly along its branches. -/
structure RangesTell (forest : List RawSymbol) : Prop where
  named  : ∀ n ∈ RawSymbol.nodesOf forest, ∃ name, n.2.name = some name ∧ name ≠ ""
  ranged : ∀ n ∈ RawSymbol.nodesOf forest, n.2.range.isSome
  nested : ∀ m ∈ RawSymbol.nodesOf forest, ∀ n ∈ RawSymbol.nodesOf forest,
    ∀ r ∈ m.2.range, ∀ q ∈ n.2.range, (r.strictlyContains q = true ↔ m.1.Above n.1)

/-- `n` is the node of the symbol `s` in the tree of a forest. -/
structure NodeOf (forest : List RawSymbol) (uri : Uri) (s : Symbol) (n : Address × RawInfo) :
    Prop where
  found : (RawSymbol.nodesOf forest)[s.id]? = some n
  head  : n.2.head? uri = some s.head

lemma NodeOf.address {forest : List RawSymbol} {uri : Uri} {s : Symbol} {n : Address × RawInfo}
    (h : NodeOf forest uri s n) :
    ((RawSymbol.nodesOf forest).map Prod.fst)[s.id]? = some n.1 := by
  rw [List.getElem?_map, h.found, Option.map_some]

namespace RangesTell

variable {forest : List RawSymbol}

/-- Such a forest is not taken for a flat answer. -/
lemma build_eq (h : RangesTell forest) (uri : Uri) :
    (SymbolTree.build uri forest).symbols = tieRows [] 0 (RawSymbol.rowsOfList uri 0 forest) := by
  unfold SymbolTree.build outlineOf
  cases forest with
  | nil => rfl
  | cons s forest =>
    obtain ⟨info, children⟩ := s
    have hmem : ([0], info) ∈ RawSymbol.nodesOf (.mk info children :: forest) := by
      rw [RawSymbol.nodesOf, RawSymbol.nodesOfList, RawSymbol.nodes]
      exact List.mem_cons_self
    obtain ⟨r, hr⟩ := Option.isSome_iff_exists.mp (h.ranged _ hmem)
    simp [RawSymbol.isFlat, RawSymbol.info, show info.range = some r from hr]

lemma map_rows (h : RangesTell forest) (uri : Uri) :
    (RawSymbol.rowsOfList uri 0 forest).map (fun row => (row.depth + 1, some row.head)) =
      (RawSymbol.nodesOf forest).map fun n => (n.1.length, n.2.head? uri) := by
  refine @RawSymbol.map_rowsOfList uri [] 0 rfl 0 forest fun n hn => ?_
  obtain ⟨name, hname, hne⟩ := h.named n hn
  exact RawInfo.isSome_head? uri hname hne

lemma map_symbols (h : RangesTell forest) (uri : Uri) :
    (SymbolTree.build uri forest).symbols.map (fun s => (s.depth + 1, some s.head)) =
      (RawSymbol.nodesOf forest).map fun n => (n.1.length, n.2.head? uri) := by
  rw [← h.map_rows uri, h.build_eq uri]
  conv_rhs => rw [← map_row_tieRows [] 0 (RawSymbol.rowsOfList uri 0 forest), List.map_map]
  rfl

lemma addressed (h : RangesTell forest) (uri : Uri) :
    Addressed (SymbolTree.build uri forest).symbols ((RawSymbol.nodesOf forest).map Prod.fst) where
  ids := map_id_build uri forest
  tied := by
    have hchain := (RawSymbol.listing_nodesOfList [] 0 forest).chain [] (List.prefix_refl [])
    have hlengths : (RawSymbol.rowsOfList uri 0 forest).map (fun row => row.depth + 1) =
        ((RawSymbol.nodesOf forest).map Prod.fst).map List.length := by
      simpa [Function.comp_def] using congrArg (List.map Prod.fst) (h.map_rows uri)
    rw [h.build_eq uri]
    exact fun s hs => tied_of_mem_tieRows (descends_of_follows hlengths hchain) hs
  lengths := by
    simpa [Function.comp_def] using congrArg (List.map Prod.fst) (h.map_symbols uri)
  listing := RawSymbol.listing_nodesOfList [] 0 forest

/-- Every symbol of the tree has its node in the forest. -/
lemma exists_node (h : RangesTell forest) {uri : Uri} {s : Symbol}
    (hs : s ∈ (SymbolTree.build uri forest).symbols) : ∃ n, NodeOf forest uri s n := by
  have hget := congrArg (·[s.id]?) (h.map_symbols uri)
  simp only [List.getElem?_map, getElem?_id_of_mem (map_id_build uri forest) hs,
    Option.map_some] at hget
  obtain ⟨n, hn, heq⟩ := Option.map_eq_some_iff.mp hget.symm
  exact ⟨n, hn, congrArg Prod.snd heq⟩

lemma range_eq (h : RangesTell forest) {uri : Uri} {s : Symbol} {n : Address × RawInfo}
    (hn : NodeOf forest uri s n) : ∃ r, n.2.range = some r ∧ s.head.range = some r := by
  obtain ⟨r, hr⟩ := Option.isSome_iff_exists.mp (h.ranged n (List.mem_of_getElem? hn.found))
  refine ⟨r, hr, ?_⟩
  have := congrArg (·.2.2) (RawInfo.common_of_head? hn.head)
  simpa [SymbolHead.common, RawInfo.common, RawInfo.effectiveRange, hr] using this

/-- Among the symbols of the tree, to contain is to be above. -/
lemma contains_iff (h : RangesTell forest) {uri : Uri} {s t : Symbol} {m n : Address × RawInfo}
    (hm : NodeOf forest uri s m) (hn : NodeOf forest uri t n) :
    s.head.Contains t.head ↔ m.1.Above n.1 := by
  obtain ⟨r, hr, hsr⟩ := h.range_eq hm
  obtain ⟨q, hq, htq⟩ := h.range_eq hn
  rw [← h.nested m (List.mem_of_getElem? hm.found) n (List.mem_of_getElem? hn.found) r hr q hq]
  simp [SymbolHead.Contains, hsr, htq]

/-- Every symbol of the tree stands inside the last one that contains it, though building the tree
looked at no range. -/
lemma lastContaining_build (h : RangesTell forest) {uri : Uri} {s : Symbol}
    (hs : s ∈ (SymbolTree.build uri forest).symbols) :
    LastContaining (SymbolTree.build uri forest).symbols s.head s.parent := by
  have haddressed := h.addressed uri
  obtain ⟨n, hn⟩ := h.exists_node hs
  cases haddressed.tied s hs with
  | root hparent hdepth _ =>
    rw [hparent]
    intro c hc hcontains
    obtain ⟨m, hm⟩ := h.exists_node hc
    have hlen := ((h.contains_iff hm hn).mp hcontains).prefix_dropLast.length_le
    have hpos := haddressed.listing.length_lt (List.mem_of_getElem? hm.address)
    rw [List.length_dropLast, haddressed.length_eq hs hn.address, hdepth] at hlen
    rw [List.length_nil] at hpos
    omega
  | child p hp hparent _ hdepth _ _ =>
    obtain ⟨k, hk⟩ := h.exists_node hp
    have hdrop := haddressed.parent_address hs hp hparent hn.address hk.address
    rw [hparent]
    refine ⟨⟨p, hp, rfl, (h.contains_iff hk hn).mpr ⟨?_, ?_⟩⟩, ?_⟩
    · rw [hdrop]
      exact List.dropLast_prefix n.1
    · intro heq
      have hlen := haddressed.length_eq hs hn.address
      rw [← heq, haddressed.length_eq hp hk.address, hdepth] at hlen
      omega
    · intro c hc hcontains
      obtain ⟨m, hm⟩ := h.exists_node hc
      have hbegins : m.1 <+: k.1 := hdrop ▸ ((h.contains_iff hm hn).mp hcontains).prefix_dropLast
      by_cases heq : m.1 = k.1
      · have hcp := haddressed.eq_of_address_eq hc hp hm.address (heq ▸ hk.address)
        exact Nat.le_of_eq (congrArg Symbol.id hcp)
      · exact Nat.le_of_lt (haddressed.id_lt_of_above hc hp hm.address hk.address ⟨hbegins, heq⟩)

lemma nested_build (h : RangesTell forest) (uri : Uri) :
    Nested (SymbolTree.build uri forest).symbols where
  ids    := map_id_build uri forest
  tied   := (h.addressed uri).tied
  before := by
    intro s hs t ht hcontains
    obtain ⟨m, hm⟩ := h.exists_node hs
    obtain ⟨n, hn⟩ := h.exists_node ht
    exact (h.addressed uri).id_lt_of_above hs ht hm.address hn.address
      ((h.contains_iff hm hn).mp hcontains)
  last   := fun _ hs => h.lastContaining_build hs

/-- Two ancestors of a node are on one branch. -/
lemma laminar_build (h : RangesTell forest) (uri : Uri) :
    Laminar (SymbolTree.build uri forest).symbols := by
  intro s hs t ht u hu hsu htu hne
  obtain ⟨m, hm⟩ := h.exists_node hs
  obtain ⟨n, hn⟩ := h.exists_node ht
  obtain ⟨k, hk⟩ := h.exists_node hu
  have hmn : m.1 ≠ n.1 := by
    intro heq
    have hst := (h.addressed uri).eq_of_address_eq hs ht hm.address (heq ▸ hn.address)
    exact hne (congrArg Symbol.id hst)
  rcases List.prefix_or_prefix_of_prefix ((h.contains_iff hm hk).mp hsu).1
    ((h.contains_iff hn hk).mp htu).1 with hbegins | hbegins
  · exact .inl ((h.contains_iff hm hn).mpr ⟨hbegins, hmn⟩)
  · exact .inr ((h.contains_iff hn hm).mpr ⟨hbegins, hmn.symm⟩)

lemma map_common_build (h : RangesTell forest) (uri : Uri) :
    (SymbolTree.build uri forest).symbols.map (fun s => s.head.common) =
      (RawSymbol.nodesOf forest).map fun n => n.2.common := by
  have hmap := congrArg (List.map Prod.snd) (h.map_symbols uri)
  simp only [List.map_map, Function.comp_def] at hmap
  refine List.ext_getElem? fun i => ?_
  have hget := congrArg (·[i]?) hmap
  simp only [List.getElem?_map] at hget ⊢
  cases hs : (SymbolTree.build uri forest).symbols[i]? with
  | none =>
    rw [hs, Option.map_none, eq_comm, Option.map_eq_none_iff] at hget
    rw [hget, Option.map_none, Option.map_none]
  | some s =>
    rw [hs, Option.map_some] at hget
    obtain ⟨n, hn, hhead⟩ := Option.map_eq_some_iff.mp hget.symm
    rw [hn, Option.map_some, Option.map_some, RawInfo.common_of_head? hhead]

end RangesTell

/-! ### Both shapes -/

lemma map_common_build_of_isFlat {uri : Uri} {raw : List RawSymbol}
    (hflat : ∀ s ∈ raw, s.isFlat = true) (hnamed : ∀ s ∈ raw, (s.info.head? uri).isSome) :
    ((SymbolTree.build uri raw).symbols.map fun s => s.head.common).Perm
      (raw.map fun s => s.info.common) := by
  have hheads : (SymbolTree.build uri raw).symbols.map Symbol.head = flatHeads uri raw := by
    rw [build_of_isFlat hflat, map_head_tieRows, map_head_nest]
  have hsorted : (flatHeads uri raw).Perm (raw.filterMap fun s => s.info.head? uri) :=
    List.mergeSort_perm _ _
  rw [← map_common_filterMap hnamed]
  rw [← hheads] at hsorted
  simpa only [List.map_map, Function.comp_def] using hsorted.map SymbolHead.common

/-- Where the ranges of a forest tell what is inside what, sending its symbols as a flat list, in
any order, gives the same symbols with the same name paths, kinds, ranges and depths as sending them
nested. -/
theorem build_nested_perm_build_flat (uri : Uri) (forest flat : List RawSymbol)
    (hforest : RangesTell forest) (hflat : ∀ s ∈ flat, s.isFlat = true)
    (hsame : (flat.map fun s => s.info.common).Perm
      ((RawSymbol.nodesOf forest).map fun n => n.2.common)) :
    ((SymbolTree.build uri forest).symbols.map Symbol.entry).Perm
      ((SymbolTree.build uri flat).symbols.map Symbol.entry) := by
  have hnamed : ∀ s ∈ flat, (s.info.head? uri).isSome := by
    intro s hs
    obtain ⟨n, hn, hcommon⟩ := List.mem_map.mp (hsame.mem_iff.mp (List.mem_map_of_mem hs))
    obtain ⟨name, hname, hne⟩ := hforest.named n hn
    exact RawInfo.isSome_head? uri ((congrArg Prod.fst hcommon).symm.trans hname) hne
  refine (hforest.nested_build uri).map_entry_perm (hforest.laminar_build uri)
    (nested_of_isFlat uri hflat) ?_
  rw [hforest.map_common_build uri]
  exact (map_common_build_of_isFlat hflat hnamed).trans hsame

/-- A symbol of a nested answer with a name, a range and the symbols in it. -/
def nestedEntry (name : String) (range : Range) (children : List RawSymbol) : RawSymbol :=
  .mk { name := some name, kind := none, detail := none, range := some range,
        selectionRange := none, location := none, containerName := none } (some children)

/-- A class of two methods, one of them with a local function, and a function behind it. -/
def classForest : List RawSymbol :=
  [nestedEntry "Class" ⟨⟨0, 0⟩, ⟨9, 0⟩⟩
      [nestedEntry "method" ⟨⟨1, 0⟩, ⟨4, 0⟩⟩ [nestedEntry "local" ⟨⟨2, 0⟩, ⟨3, 0⟩⟩ []],
        nestedEntry "method" ⟨⟨5, 0⟩, ⟨8, 0⟩⟩ []],
    nestedEntry "function" ⟨⟨9, 0⟩, ⟨12, 0⟩⟩ []]

/-- The same symbols as a flat list. -/
def classEntries : List RawSymbol :=
  [flatEntry "local" (some ⟨⟨2, 0⟩, ⟨3, 0⟩⟩), flatEntry "function" (some ⟨⟨9, 0⟩, ⟨12, 0⟩⟩),
    flatEntry "method" (some ⟨⟨5, 0⟩, ⟨8, 0⟩⟩), flatEntry "Class" (some ⟨⟨0, 0⟩, ⟨9, 0⟩⟩),
    flatEntry "method" (some ⟨⟨1, 0⟩, ⟨4, 0⟩⟩)]

theorem build_classForest_perm_build_classEntries :
    ((SymbolTree.build default classForest).symbols.map Symbol.namePath =
      ["Class", "Class/method", "Class/method/local", "Class/method", "function"]) ∧
    ((SymbolTree.build default classForest).symbols.map Symbol.entry).Perm
      ((SymbolTree.build default classEntries).symbols.map Symbol.entry) := by
  refine ⟨by cbv, build_nested_perm_build_flat default classForest classEntries ⟨?_, ?_, ?_⟩
    (by decide) (by decide)⟩
  · decide
  · decide
  · decide

end Outline
