import Mathlib.Data.List.Nodup
import Outline.Proofs.Symbol.Ties

/-!
# Forests of symbols

The nodes of a nested answer in preorder, each with its address: the place among its siblings of
every node on the way to it. A node is a proper ancestor of another one when its address is a proper
beginning of the other's. In preorder, a node stands directly below an ancestor of the node before
it or below that node itself, so the depths alone tell which node is the parent.
-/

namespace Outline

/-! ### Nodes and their addresses -/

/-- The places among the siblings on the way from the top to a node. -/
abbrev Address := List Nat

/-- `a` is the address of a proper ancestor of the node at `b`. -/
def Address.Above (a b : Address) : Prop := a <+: b ∧ a ≠ b

instance (a b : Address) : Decidable (a.Above b) := inferInstanceAs (Decidable (_ ∧ _))

/-- A proper ancestor of a node is above its parent or is its parent. -/
lemma Address.Above.prefix_dropLast {a b : Address} (h : a.Above b) : a <+: b.dropLast := by
  refine List.prefix_of_prefix_length_le h.1 (List.dropLast_prefix b) ?_
  have hle := h.1.length_le
  have hne : a.length ≠ b.length := fun hlen => h.2 (h.1.eq_of_length hlen)
  rw [List.length_dropLast]
  omega

namespace RawSymbol

mutual

/-- A symbol at an address and what is in it, in preorder. -/
def nodes (address : Address) : RawSymbol → List (Address × RawInfo)
  | .mk info children => (address, info) :: nodesOfChildren address children

def nodesOfChildren (address : Address) : Option (List RawSymbol) → List (Address × RawInfo)
  | none    => []
  | some ss => nodesOfList address 0 ss

/-- Siblings below an address, the first of them at place `i`. -/
def nodesOfList (address : Address) (i : Nat) : List RawSymbol → List (Address × RawInfo)
  | []      => []
  | s :: ss => nodes (address ++ [i]) s ++ nodesOfList address (i + 1) ss

end

/-- All symbols of a nested answer in preorder. -/
def nodesOf (forest : List RawSymbol) : List (Address × RawInfo) := nodesOfList [] 0 forest

end RawSymbol

/-! ### Addresses in preorder -/

/-- `b` is directly below `a` or below something above `a`. -/
def Address.Follows (a b : Address) : Prop := b.dropLast <+: a

/-- Addresses, in preorder, of siblings below `base` and of all that is in them, where the first
sibling stands at place `i`. -/
structure Listing (base : Address) (i : Nat) (addresses : List Address) : Prop where
  below : ∀ a ∈ addresses, ∃ j, i ≤ j ∧ base ++ [j] <+: a
  nodup : addresses.Nodup
  chain : ∀ previous, base <+: previous → List.IsChain Address.Follows (previous :: addresses)

namespace Listing

variable {base : Address} {i : Nat} {as bs : List Address}

lemma nil (base : Address) (i : Nat) : Listing base i [] where
  below := by simp
  nodup := List.nodup_nil
  chain := by simp

lemma base_prefix (h : Listing base i as) {a : Address} (ha : a ∈ as) : base <+: a := by
  obtain ⟨j, -, hj⟩ := h.below a ha
  exact (List.prefix_append base [j]).trans hj

lemma length_lt (h : Listing base i as) {a : Address} (ha : a ∈ as) : base.length < a.length := by
  obtain ⟨j, -, hj⟩ := h.below a ha
  have := hj.length_le
  rw [List.length_append, List.length_singleton] at this
  omega

/-- Two siblings at different places have nothing below them in common. -/
lemma not_prefix_both {base a : Address} {j k : Nat} (hjk : j ≠ k) (hj : base ++ [j] <+: a)
    (hk : base ++ [k] <+: a) : False := by
  have hlen : (base ++ [j]).length = (base ++ [k]).length := by simp
  have := (List.prefix_of_prefix_length_le hj hk (Nat.le_of_eq hlen)).eq_of_length hlen
  exact hjk (by simpa using this)

/-- A listing that starts below `base` can go on with one that starts there too. -/
lemma isChain_append {x : Address} (hx : base <+: x) (has : ∀ a ∈ as, base <+: a)
    (hchain : List.IsChain Address.Follows (x :: as))
    (hbs : ∀ previous, base <+: previous → List.IsChain Address.Follows (previous :: bs)) :
    List.IsChain Address.Follows (x :: (as ++ bs)) := by
  induction as generalizing x with
  | nil => exact hbs x hx
  | cons a as ih =>
    rw [List.isChain_cons_cons] at hchain
    rw [List.cons_append, List.isChain_cons_cons]
    exact ⟨hchain.1, ih (has a List.mem_cons_self) (fun b hb => has b (List.mem_cons_of_mem a hb))
      hchain.2⟩

/-- A sibling with what is in it, followed by the siblings behind it. -/
lemma cons (h : Listing (base ++ [i]) 0 as) (hbs : Listing base (i + 1) bs) :
    Listing base i ((base ++ [i]) :: as ++ bs) where
  below := by
    intro a ha
    rcases List.mem_append.mp ha with ha | ha
    · refine ⟨i, Nat.le_refl i, ?_⟩
      rcases List.mem_cons.mp ha with rfl | ha
      · exact List.prefix_refl _
      · exact h.base_prefix ha
    · obtain ⟨j, hij, hj⟩ := hbs.below a ha
      exact ⟨j, by omega, hj⟩
  nodup := by
    refine List.nodup_append'.mpr ⟨?_, hbs.nodup, ?_⟩
    · refine List.nodup_cons.mpr ⟨fun hmem => ?_, h.nodup⟩
      exact Nat.lt_irrefl _ (h.length_lt hmem)
    · intro a ha hb
      obtain ⟨j, hij, hj⟩ := hbs.below a hb
      refine not_prefix_both (show i ≠ j by omega) ?_ hj
      rcases List.mem_cons.mp ha with rfl | ha
      · exact List.prefix_refl _
      · exact h.base_prefix ha
  chain := by
    intro previous hprevious
    rw [List.cons_append, List.isChain_cons_cons]
    refine ⟨by rwa [Address.Follows, List.dropLast_concat], ?_⟩
    refine isChain_append (List.prefix_append base [i]) (fun a ha => ?_)
      (h.chain _ (List.prefix_refl _)) hbs.chain
    exact (List.prefix_append base [i]).trans (h.base_prefix ha)

end Listing

namespace RawSymbol

mutual

/-- A node and then what is in it. -/
lemma listing_nodes (address : Address) (s : RawSymbol) :
    ∃ as, (nodes address s).map Prod.fst = address :: as ∧ Listing address 0 as := by
  match s with
  | .mk info children =>
    rw [nodes, List.map_cons]
    exact ⟨_, rfl, listing_nodesOfChildren address children⟩

lemma listing_nodesOfChildren (address : Address) (children : Option (List RawSymbol)) :
    Listing address 0 ((nodesOfChildren address children).map Prod.fst) := by
  match children with
  | none => exact Listing.nil address 0
  | some ss => exact listing_nodesOfList address 0 ss

lemma listing_nodesOfList (address : Address) (i : Nat) (ss : List RawSymbol) :
    Listing address i ((nodesOfList address i ss).map Prod.fst) := by
  match ss with
  | [] => exact Listing.nil address i
  | s :: ss =>
    obtain ⟨as, has, hlisting⟩ := listing_nodes (address ++ [i]) s
    rw [nodesOfList, List.map_append, has]
    exact hlisting.cons (listing_nodesOfList address (i + 1) ss)

end

/-! ### The rows of a forest -/

mutual

lemma map_rows (uri : Uri) {address : Address} {depth : Nat} (haddress : address.length = depth + 1)
    (s : RawSymbol) (hnamed : ∀ n ∈ nodes address s, (n.2.head? uri).isSome) :
    (rows uri depth s).map (fun row => (row.depth + 1, some row.head)) =
      (nodes address s).map fun n => (n.1.length, n.2.head? uri) := by
  match s with
  | .mk info children =>
    rw [nodes, List.forall_mem_cons] at hnamed
    obtain ⟨head, hhead⟩ := Option.isSome_iff_exists.mp hnamed.1
    rw [rows, nodes, hhead]
    simp only [List.map_cons, map_rowsOfChildren uri haddress children hnamed.2, haddress, hhead]

lemma map_rowsOfChildren (uri : Uri) {address : Address} {depth : Nat}
    (haddress : address.length = depth) (children : Option (List RawSymbol))
    (hnamed : ∀ n ∈ nodesOfChildren address children, (n.2.head? uri).isSome) :
    (rowsOfChildren uri depth children).map (fun row => (row.depth + 1, some row.head)) =
      (nodesOfChildren address children).map fun n => (n.1.length, n.2.head? uri) := by
  match children with
  | none => rfl
  | some ss => exact map_rowsOfList uri haddress 0 ss hnamed

/-- Where all symbols have names, the rows of a forest are its nodes. -/
lemma map_rowsOfList (uri : Uri) {address : Address} {depth : Nat}
    (haddress : address.length = depth) (i : Nat) (ss : List RawSymbol)
    (hnamed : ∀ n ∈ nodesOfList address i ss, (n.2.head? uri).isSome) :
    (rowsOfList uri depth ss).map (fun row => (row.depth + 1, some row.head)) =
      (nodesOfList address i ss).map fun n => (n.1.length, n.2.head? uri) := by
  match ss with
  | [] => rfl
  | s :: ss =>
    rw [nodesOfList, List.forall_mem_append] at hnamed
    have hbelow : (address ++ [i]).length = depth + 1 := by
      rw [List.length_append, haddress, List.length_singleton]
    rw [rowsOfList, nodesOfList, List.map_append, List.map_append, map_rows uri hbelow s hnamed.1,
      map_rowsOfList uri haddress (i + 1) ss hnamed.2]

end

end RawSymbol

lemma descends_of_follows {rows : List Row} {as : List Address} {previous : Address}
    (hlengths : rows.map (fun row => row.depth + 1) = as.map List.length)
    (hchain : List.IsChain Address.Follows (previous :: as)) : Descends previous.length rows := by
  induction rows generalizing as previous with
  | nil => trivial
  | cons row rows ih =>
    cases as with
    | nil => cases hlengths
    | cons a as =>
      rw [List.map_cons, List.map_cons, List.cons_eq_cons] at hlengths
      rw [List.isChain_cons_cons] at hchain
      have hle := hchain.1.length_le
      rw [List.length_dropLast] at hle
      refine ⟨by omega, ?_⟩
      rw [hlengths.1]
      exact ih hlengths.2 hchain.2

/-! ### Parents -/

/-- When all addresses between a node and an earlier one are at least as long as the node's own, and
the earlier one is shorter by one place, the earlier one is the parent. -/
lemma parent_of_between {as : List Address} (hchain : List.IsChain Address.Follows as)
    {p i : Nat} {a b : Address} (hpi : p < i) (hb : as[p]? = some b) (ha : as[i]? = some a)
    (hlen : a.length = b.length + 1)
    (hbetween : ∀ k c, as[k]? = some c → p < k → k < i → a.length ≤ c.length) :
    b = a.dropLast := by
  have hlast : a.dropLast.length = b.length := by
    rw [List.length_dropLast, hlen, Nat.add_sub_cancel]
  -- going back from the node, everything down to the earlier one begins with the parent's address
  have hback : ∀ m k c, k + m + 1 = i → p ≤ k → as[k]? = some c → a.dropLast <+: c := by
    intro m
    induction m with
    | zero =>
      intro k c hk _ hc
      obtain ⟨hki, rfl⟩ := List.getElem?_eq_some_iff.mp hc
      subst hk
      obtain ⟨hi, rfl⟩ := List.getElem?_eq_some_iff.mp ha
      exact List.isChain_iff_getElem.mp hchain k hi
    | succ m ih =>
      intro k c hk hpk hc
      obtain ⟨hi, -⟩ := List.getElem?_eq_some_iff.mp ha
      have hnext : as[k + 1]? = some as[k + 1] := List.getElem?_eq_getElem (by omega)
      have hih := ih (k + 1) _ (by omega) (by omega) hnext
      have hlong := hbetween (k + 1) _ hnext (by omega) (by omega)
      obtain ⟨hki, rfl⟩ := List.getElem?_eq_some_iff.mp hc
      have hfollows : (as[k + 1]).dropLast <+: as[k] :=
        List.isChain_iff_getElem.mp hchain k (by omega)
      refine List.IsPrefix.trans ?_ hfollows
      refine List.prefix_of_prefix_length_le hih (List.dropLast_prefix _) ?_
      rw [List.length_dropLast, List.length_dropLast]
      omega
  exact ((hback (i - p - 1) p b (by omega) (Nat.le_refl p) hb).eq_of_length hlast).symm

/-- The symbols of a forest with the addresses of their nodes. -/
structure Addressed (symbols : List Symbol) (as : List Address) : Prop where
  ids     : symbols.map Symbol.id = List.range symbols.length
  tied    : ∀ s ∈ symbols, Tied symbols s
  lengths : symbols.map (fun s => s.depth + 1) = as.map List.length
  listing : Listing [] 0 as

namespace Addressed

variable {symbols : List Symbol} {as : List Address} {s t : Symbol} {a b : Address}

lemma exists_address (h : Addressed symbols as) (hs : s ∈ symbols) : ∃ a, as[s.id]? = some a := by
  have := congrArg (·[s.id]?) h.lengths
  simp only [List.getElem?_map, getElem?_id_of_mem h.ids hs, Option.map_some] at this
  obtain ⟨a, ha, -⟩ := Option.map_eq_some_iff.mp this.symm
  exact ⟨a, ha⟩

lemma length_eq (h : Addressed symbols as) (hs : s ∈ symbols) (ha : as[s.id]? = some a) :
    a.length = s.depth + 1 := by
  have := congrArg (·[s.id]?) h.lengths
  simpa [getElem?_id_of_mem h.ids hs, ha] using this.symm

lemma isChain (h : Addressed symbols as) : List.IsChain Address.Follows as :=
  (h.listing.chain [] (List.prefix_refl [])).of_cons

lemma symbol_of_address (h : Addressed symbols as) {i : Nat} (ha : as[i]? = some a) :
    ∃ s ∈ symbols, s.id = i := by
  have := congrArg (·[i]?) h.lengths
  simp only [List.getElem?_map, ha, Option.map_some] at this
  obtain ⟨s, hs, -⟩ := Option.map_eq_some_iff.mp this
  exact ⟨s, List.mem_of_getElem? hs, id_of_getElem? h.ids hs⟩

lemma eq_of_address_eq (h : Addressed symbols as) (hs : s ∈ symbols) (ht : t ∈ symbols)
    (ha : as[s.id]? = some a) (hb : as[t.id]? = some a) : s = t := by
  obtain ⟨hlt, -⟩ := List.getElem?_eq_some_iff.mp ha
  exact eq_of_id_eq h.ids hs ht ((List.getElem?_inj hlt h.listing.nodup).mp (ha.trans hb.symm))

/-- The parent of a symbol has the address of the symbol less its last place. -/
lemma parent_address (h : Addressed symbols as) (hs : s ∈ symbols) (ht : t ∈ symbols)
    (hparent : s.parent = some t.id) (ha : as[s.id]? = some a) (hb : as[t.id]? = some b) :
    b = a.dropLast := by
  cases h.tied s hs with
  | root hnone _ _ =>
    rw [hnone] at hparent
    cases hparent
  | child p hp hparent' hlt hdepth _ hbetween =>
    rw [hparent, Option.some.injEq] at hparent'
    obtain rfl := eq_of_id_eq h.ids ht hp hparent'
    refine parent_of_between h.isChain hlt hb ha ?_ fun k c hc htk hks => ?_
    · rw [h.length_eq hs ha, h.length_eq ht hb, hdepth]
    · obtain ⟨u, hu, rfl⟩ := h.symbol_of_address hc
      have := hbetween u hu htk hks
      rw [h.length_eq hs ha, h.length_eq hu hc]
      omega

/-- Proper ancestors come first. -/
lemma id_lt_of_above (h : Addressed symbols as) (hs : s ∈ symbols) (ht : t ∈ symbols)
    (ha : as[s.id]? = some a) (hb : as[t.id]? = some b) (hab : a.Above b) : s.id < t.id := by
  generalize hn : t.id = n
  induction n using Nat.strongRecOn generalizing t b with
  | _ n ih =>
    have hbegins := hab.prefix_dropLast
    cases h.tied t ht with
    | root _ hdepth _ =>
      -- nothing is above a node of the top level
      have hlen := hbegins.length_le
      have hpos := h.listing.length_lt (List.mem_of_getElem? ha)
      rw [List.length_dropLast, h.length_eq ht hb, hdepth] at hlen
      rw [List.length_nil] at hpos
      omega
    | child p hp hparent hlt _ _ _ =>
      obtain ⟨c, hc⟩ := h.exists_address hp
      have hparentaddress := h.parent_address ht hp hparent hb hc
      by_cases hac : a = c
      · subst hac
        rw [h.eq_of_address_eq hs hp ha hc]
        omega
      · have := ih p.id (by omega) hp hc ⟨hparentaddress ▸ hbegins, hac⟩ rfl
        omega

end Addressed

end Outline
