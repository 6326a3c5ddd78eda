import Mathlib.Data.Finset.Card
import Mathlib.Logic.Function.Iterate
import SchemaPages.Yaml.Value

/-!
# Where reading a document has an end

A mapping that is read as a scalar stands for its default value, and that may be such a mapping
again. Either this leads to a node with a text of its own in fewer steps than there are nodes, or it
leads back to a node that was met before and goes on for ever (`Evaluation.textOf_endless`).

Apart from that, a document of any size and depth is read. A reader that calls itself for what is
inside of a collection has room for some depth only, and what the halves of a pair are as characters
of a text depends on what texts are. `Modest` says of a text that neither comes up.
-/

namespace SchemaPages.Yaml

namespace Evaluation

variable {nodes : Nodes} {id : NodeId} {fuel : Nat}

/-- The default value of a mapping, if it has one. -/
def default? (nodes : Nodes) (id : NodeId) : Option NodeId :=
  ((nodes.node id).entries.find? fun (key, _) => nodes.tag key = .value).map Prod.snd

/-- The default value of a mapping, and any other node itself. -/
def behind (nodes : Nodes) (id : NodeId) : NodeId :=
  (default? nodes id).getD id

theorem behind_eq {next : NodeId} (h : default? nodes id = some next) : behind nodes id = next := by
  rw [behind, h, Option.getD_some]

/-- A mapping with a default value has its text. -/
theorem textOf_of_default {next : NodeId} (h : default? nodes id = some next) :
    textOf nodes (fuel + 1) id = textOf nodes fuel next := by
  obtain ⟨entry, hentry, rfl⟩ := Option.map_eq_some_iff.mp h
  rw [Node.entries] at hentry
  rw [textOf]
  cases hcontent : (nodes.node id).content with
  | mapping entries =>
    rw [hcontent] at hentry
    simp only [hentry]
  | _ =>
    rw [hcontent] at hentry
    cases hentry

/-- Another node has a text of its own, or none. -/
theorem textOf_ne_endless (h : default? nodes id = none) :
    textOf nodes (fuel + 1) id ≠ .error .endless := by
  rw [default?, Option.map_eq_none_iff, Node.entries] at h
  rw [textOf]
  cases hcontent : (nodes.node id).content with
  | mapping entries =>
    rw [hcontent] at h
    simp only [h]
    exact nofun
  | _ => exact nofun

/-- The steps run out where each of them finds a default value. -/
theorem textOf_eq_endless_iff : textOf nodes fuel id = .error .endless ↔
    ∀ n < fuel, (default? nodes ((behind nodes)^[n] id)).isSome := by
  induction fuel generalizing id with
  | zero => exact iff_of_true rfl fun n hn => absurd hn (Nat.not_lt_zero n)
  | succ fuel ih =>
    cases hdefault : default? nodes id with
    | none =>
      refine iff_of_false (textOf_ne_endless hdefault) fun h => ?_
      have hsome := h 0 fuel.succ_pos
      rw [Function.iterate_zero_apply, hdefault] at hsome
      cases hsome
    | some next =>
      rw [textOf_of_default hdefault, ih]
      constructor
      · rintro h (_ | n) hn
        · rw [Function.iterate_zero_apply, hdefault]
          rfl
        · rw [Function.iterate_succ_apply, behind_eq hdefault]
          exact h n (Nat.lt_of_succ_lt_succ hn)
      · intro h n hn
        have hsome := h (n + 1) (Nat.succ_lt_succ hn)
        rwa [Function.iterate_succ_apply, behind_eq hdefault] at hsome

theorem lt_size_of_default (h : (default? nodes id).isSome) : id < nodes.size := by
  by_contra hsize
  have habsent : nodes.node id = .absent := by
    rw [Nodes.node, Array.getElem?_eq_none (Nat.le_of_not_lt hsize), Option.getD_none]
  rw [default?, habsent] at h
  cases h

/-- **Default values that lead back.** More steps than there are nodes meet some node twice, and
what comes behind it comes again and again. -/
theorem textOf_endless (h : textOf nodes (nodes.size + 1) id = .error .endless) (fuel : Nat) :
    textOf nodes fuel id = .error .endless := by
  rw [textOf_eq_endless_iff] at h ⊢
  have hmaps : ∀ n ∈ Finset.range (nodes.size + 1),
      (behind nodes)^[n] id ∈ Finset.range nodes.size := fun n hn =>
    Finset.mem_range.mpr (lt_size_of_default (h n (Finset.mem_range.mp hn)))
  obtain ⟨a, b, hb, hab, hsame⟩ : ∃ a b, b ≤ nodes.size ∧ a < b ∧
      (behind nodes)^[a] id = (behind nodes)^[b] id := by
    obtain ⟨a, ha, b, hb, hne, hsame⟩ :=
      Finset.exists_ne_map_eq_of_card_lt_of_maps_to (by simp) hmaps
    rw [Finset.mem_range] at ha hb
    rcases Nat.lt_or_gt_of_ne hne with hlt | hlt
    · exact ⟨a, b, Nat.le_of_lt_succ hb, hlt, hsame⟩
    · exact ⟨b, a, Nat.le_of_lt_succ ha, hlt, hsame.symm⟩
  -- behind the second of the two, each node was met as many steps before as lie between them
  have hall : ∀ n, (default? nodes ((behind nodes)^[n] id)).isSome := by
    intro n
    induction n using Nat.strongRecOn with
    | ind n ih =>
      by_cases hn : n < nodes.size + 1
      · exact h n hn
      · have hbefore : (behind nodes)^[n] id = (behind nodes)^[n - b + a] id := by
          rw [Function.iterate_add_apply, hsame, ← Function.iterate_add_apply]
          congr 2
          omega
        rw [hbefore]
        exact ih _ (by omega)
  exact fun n _ => hall n

end Evaluation

/-! ### Depth -/

/-- Whether a token opens a collection. -/
def Token.opens : Token → Bool
  | .blockSequenceStart | .blockMappingStart | .flowSequenceStart | .flowMappingStart => true
  | _ => false

/-- Whether a token closes a collection. -/
def Token.closes : Token → Bool
  | .blockEnd | .flowSequenceEnd | .flowMappingEnd => true
  | _ => false

/-- Whether a token names a node that stands elsewhere. -/
def Token.isAlias : Token → Bool
  | .alias _ => true
  | _ => false

/-- How many collections lie in each other at most, of those that tokens open and of `depth` ones
around them. -/
def nesting (depth : Nat) : List Token → Nat
  | [] => depth
  | token :: rest =>
    if token.opens then nesting (depth + 1) rest
    else if token.closes then max depth (nesting (depth - 1) rest)
    else nesting depth rest

/-- A depth at which every reader has room left. -/
def depthLimit : Nat := 100

/-- A document that is not too deep to be read, and that holds no half of a pair. Whoever follows an
alias may go down once more from where it leads to. The replacement character stands for a half. -/
structure Modest (text : String) : Prop where
  shallow : nesting 0 (Tokens.ofText text.toList).list *
    ((Tokens.ofText text.toList).list.countP Token.isAlias + 1) ≤ depthLimit
  whole : ∀ content isPlain, Token.scalar content isPlain ∈ (Tokens.ofText text.toList).list →
    '\uFFFD' ∉ content.toList

end SchemaPages.Yaml
