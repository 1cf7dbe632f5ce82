import Mathlib
import Outline.Proofs.Symbol.Shapes

/-!
# No symbol lost, no symbol invented

A tree holds every entry of an answer that has a name, unless something above it has none, and it
holds nothing else. The entries of an answer with children come in preorder. Those of a flat answer
are moved to the order of their ranges, but each of them is still there once.
-/

namespace Outline

/-! ### What is kept of an entry -/

/-- What is known of a symbol by itself: name, kind, detail, range, range of the name, document. -/
abbrev Card :=
  Option String × Option SymbolKind × Option String × Option Range × Option Range × Uri

def SymbolHead.card (h : SymbolHead) : Card :=
  (some h.name, h.kind, h.detail, h.range, h.selectionRange, h.uri)

namespace RawInfo

/-- The entry has a name, which is not empty. -/
def isNamed (i : RawInfo) : Bool := i.name.any (· ≠ "")

/-- What an entry of an answer about the document `uri` says. It is in that document unless it names
another one. -/
def card (uri : Uri) (i : RawInfo) : Card :=
  (i.name, i.kind, i.detail, i.effectiveRange, i.selectionRange,
    (i.location.bind RawLocation.uri).getD uri)

variable {uri : Uri} {i : RawInfo} {h : SymbolHead}

lemma isNamed_eq_isSome_head? (uri : Uri) (i : RawInfo) : i.isNamed = (i.head? uri).isSome := by
  unfold head? isNamed
  cases i.name with
  | none => rfl
  | some name => by_cases hname : name = "" <;> simp [hname]

lemma card_of_head? (hh : i.head? uri = some h) : h.card = i.card uri := by
  unfold head? at hh
  split at hh
  · cases hh
  · rename_i name hname
    split at hh
    · cases hh
    · cases hh
      rw [SymbolHead.card, card, hname]

end RawInfo

/-- An entry is listed when it and all that is above it have names. -/
def Listed (nodes : List (Address × RawInfo)) (n : Address × RawInfo) : Prop :=
  ∀ m ∈ nodes, m.1 <+: n.1 → m.2.isNamed = true

instance (nodes : List (Address × RawInfo)) : DecidablePred (Listed nodes) := fun n =>
  inferInstanceAs (Decidable (∀ m ∈ nodes, m.1 <+: n.1 → m.2.isNamed = true))

variable {as bs ns : List (Address × RawInfo)} {r : Address × RawInfo}

/-- Below an entry with a name, its name does not matter; below one without, nothing is listed. -/
lemma filter_listed_cons (hbelow : ∀ n ∈ ns, r.1.Above n.1) :
    (r :: ns).filter (Listed (r :: ns)) =
      if r.2.isNamed then r :: ns.filter (Listed ns) else [] := by
  split
  · rename_i hnamed
    have hfirst : Listed (r :: ns) r := by
      intro m hm hprefix
      rcases List.mem_cons.mp hm with rfl | hm
      · exact hnamed
      · -- nothing below `r` is also above it
        have habove := hbelow m hm
        exact absurd (habove.1.eq_of_length_le hprefix.length_le) habove.2
    rw [List.filter_cons, if_pos (decide_eq_true hfirst)]
    refine congrArg _ (List.filter_congr fun n _ => decide_eq_decide.mpr ?_)
    exact (List.forall_mem_cons).trans (and_iff_right fun _ => hnamed)
  · rename_i hunnamed
    refine List.filter_eq_nil_iff.mpr fun n hn hlisted => hunnamed ?_
    refine of_decide_eq_true hlisted r List.mem_cons_self ?_
    rcases List.mem_cons.mp hn with rfl | hn
    · exact List.prefix_refl _
    · exact (hbelow n hn).1

/-- Entries of which none is above the other are listed each by themselves. -/
lemma filter_listed_append (hapart : ∀ a ∈ as, ∀ b ∈ bs, ¬ a.1 <+: b.1 ∧ ¬ b.1 <+: a.1) :
    (as ++ bs).filter (Listed (as ++ bs)) = as.filter (Listed as) ++ bs.filter (Listed bs) := by
  rw [List.filter_append]
  congr 1
  · refine List.filter_congr fun a ha => decide_eq_decide.mpr ?_
    exact List.forall_mem_append.trans
      (and_iff_left fun b hb hprefix => absurd hprefix (hapart a ha b hb).2)
  · refine List.filter_congr fun b hb => decide_eq_decide.mpr ?_
    exact List.forall_mem_append.trans
      (and_iff_right fun a ha hprefix => absurd hprefix (hapart a ha b hb).1)

namespace RawSymbol

variable {uri : Uri}

lemma above_of_mem_nodesOfChildren {address : Address} {children : Option (List RawSymbol)}
    {n : Address × RawInfo} (hn : n ∈ nodesOfChildren address children) : address.Above n.1 := by
  have hlisting := listing_nodesOfChildren address children
  have hmem := List.mem_map_of_mem (f := Prod.fst) hn
  refine ⟨hlisting.base_prefix hmem, fun heq => ?_⟩
  exact Nat.lt_irrefl _ (heq ▸ hlisting.length_lt hmem)

/-- A node is inside the sibling that it belongs to. -/
lemma prefix_of_mem_nodes {address : Address} {s : RawSymbol} {n : Address × RawInfo}
    (hn : n ∈ nodes address s) : address <+: n.1 := by
  obtain ⟨info, children⟩ := s
  rw [nodes] at hn
  rcases List.mem_cons.mp hn with rfl | hn
  · exact List.prefix_refl _
  · exact (above_of_mem_nodesOfChildren hn).1

/-- Nothing in a sibling is above or below anything in the siblings behind it. -/
lemma apart_of_mem_nodesOfList {address : Address} {i : Nat} {s : RawSymbol} {ss : List RawSymbol}
    {a b : Address × RawInfo} (ha : a ∈ nodes (address ++ [i]) s)
    (hb : b ∈ nodesOfList address (i + 1) ss) : ¬ a.1 <+: b.1 ∧ ¬ b.1 <+: a.1 := by
  have hi := prefix_of_mem_nodes ha
  obtain ⟨j, hij, hj⟩ :=
    (listing_nodesOfList address (i + 1) ss).below b.1 (List.mem_map_of_mem hb)
  have hne : i ≠ j := by omega
  exact ⟨fun h => Listing.not_prefix_both hne (hi.trans h) hj,
    fun h => Listing.not_prefix_both hne hi (hj.trans h)⟩

/-! ### Answers with children -/

mutual

lemma map_card_rows (address : Address) (depth : Nat) (s : RawSymbol) :
    (rows uri depth s).map (fun row => row.head.card) =
      ((nodes address s).filter (Listed (nodes address s))).map fun n => n.2.card uri := by
  match s with
  | .mk info children =>
    rw [rows, nodes, filter_listed_cons fun n hn => above_of_mem_nodesOfChildren hn,
      RawInfo.isNamed_eq_isSome_head? uri]
    cases hhead : info.head? uri with
    | none => rfl
    | some head =>
      simp only [Option.isSome_some, if_true, List.map_cons, RawInfo.card_of_head? hhead,
        map_card_rowsOfChildren address (depth + 1) children]

lemma map_card_rowsOfChildren (address : Address) (depth : Nat)
    (children : Option (List RawSymbol)) :
    (rowsOfChildren uri depth children).map (fun row => row.head.card) =
      ((nodesOfChildren address children).filter
        (Listed (nodesOfChildren address children))).map fun n => n.2.card uri := by
  match children with
  | none => rfl
  | some ss => exact map_card_rowsOfList address depth 0 ss

/-- The rows of a forest are its listed nodes. -/
lemma map_card_rowsOfList (address : Address) (depth i : Nat) (ss : List RawSymbol) :
    (rowsOfList uri depth ss).map (fun row => row.head.card) =
      ((nodesOfList address i ss).filter
        (Listed (nodesOfList address i ss))).map fun n => n.2.card uri := by
  match ss with
  | [] => rfl
  | s :: ss =>
    rw [rowsOfList, nodesOfList, List.map_append, map_card_rows (address ++ [i]) depth s,
      map_card_rowsOfList address depth (i + 1) ss, ← List.map_append,
      filter_listed_append fun a ha b hb => apart_of_mem_nodesOfList ha hb]

end

end RawSymbol

/-! ### Trees -/

end Outline
