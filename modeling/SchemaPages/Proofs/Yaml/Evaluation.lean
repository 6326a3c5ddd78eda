import Mathlib.Data.List.Perm.Subperm
import SchemaPages.Proofs.Yaml.Nodes
import SchemaPages.Yaml.Value

/-!
# Evaluating ordinary documents

A document is ordinary if its scalars have values, its collections are sequences and mappings, and
the keys of its mappings are texts. Then there is nothing to merge, and evaluation does what one
expects: each node that is met comes to stand for its content (`Nodes.part`).

Collections are met before they are filled, in the same order, so at any time a node that has been
met is done, or it is a collection that is yet to be filled (`Kept`). No collection is met twice, so
there are not more of them than nodes, and all are filled in the end (`exists_evaluate`).
-/

namespace SchemaPages.Yaml

namespace Nodes

/-- The text of a scalar. -/
def text (nodes : Nodes) (id : NodeId) : String :=
  match (nodes.node id).content with
  | .scalar text => text
  | _ => ""

/-- Whether a node is a text. -/
def IsText (nodes : Nodes) (id : NodeId) : Prop :=
  nodes[id]? = some ⟨.text, .scalar (nodes.text id)⟩

/-- The nodes that a collection holds. -/
def inner (nodes : Nodes) (id : NodeId) : List NodeId :=
  match (nodes.node id).content with
  | .scalar _ => []
  | .sequence items => items
  | .mapping entries => entries.map Prod.snd

/-- What a mapping with keys that are texts stands for. -/
def named (nodes : Nodes) (entries : List Entry) : List (Scalar × NodeId) :=
  entries.map fun (key, value) => (.text (nodes.text key), value)

/-- What an ordinary node stands for. -/
def part (nodes : Nodes) (id : NodeId) : Part :=
  match nodes.node id with
  | ⟨tag, .scalar text⟩ => .scalar ((Scalar.ofText tag text).toOption.getD .null)
  | ⟨_, .sequence items⟩ => .sequence items
  | ⟨_, .mapping entries⟩ => .mapping (Pairs.ofList (Nodes.named nodes entries))

theorem node_eq {nodes : Nodes} {id : NodeId} {node : Node} (h : nodes[id]? = some node) :
    nodes.node id = node := by
  rw [Nodes.node, h]
  rfl

end Nodes

namespace Evaluation

/-- Whether a node is a scalar with a value, a sequence, or a mapping with texts for keys, with all
that is in it among some nodes. -/
inductive Ordinary (nodes : Nodes) (among : NodeId → Prop) (id : NodeId) : Prop where
  | scalar (tag : Tag) (text : String) (value : Scalar)
      (hnode : nodes[id]? = some ⟨tag, .scalar text⟩) (htag : emptyPart? tag = none)
      (hvalue : Scalar.ofText tag text = .ok value)
  | sequence (items : List NodeId) (hnode : nodes[id]? = some ⟨.sequence, .sequence items⟩)
      (hitems : ∀ item ∈ items, among item)
  | mapping (entries : List Entry) (hnode : nodes[id]? = some ⟨.mapping, .mapping entries⟩)
      (hkeys : ∀ entry ∈ entries, Nodes.IsText nodes entry.1)
      (hentries : ∀ entry ∈ entries, among entry.1 ∧ among entry.2)

/-! ### What has been evaluated -/

/-- Whether a node has been met. -/
def Met (parts : Parts) (id : NodeId) : Prop :=
  ∃ part, parts[id]?.join = some part

/-- Whether a node stands for its content, and what is in it has been met. -/
def Done (nodes : Nodes) (parts : Parts) (id : NodeId) : Prop :=
  parts[id]?.join = some (Nodes.part nodes id) ∧ ∀ inner ∈ Nodes.inner nodes id, Met parts inner

/-- Whether what has been met is in order, where the first collections have been filled. -/
structure Kept (nodes : Nodes) (among : NodeId → Prop) (filled : Nat) (s : Evaluation) : Prop where
  nodes_eq : s.nodes = nodes
  size_eq : s.parts.size = nodes.size
  filled_le : filled ≤ s.collections.size
  nodup : s.collections.toList.Nodup
  collections : ∀ id ∈ s.collections, Met s.parts id ∧ emptyPart? (nodes.tag id) ≠ none
  among : ∀ id, Met s.parts id → among id
  done : ∀ id, Met s.parts id →
    Done nodes s.parts id ∨ ∃ place, filled ≤ place ∧ s.collections[place]? = some id

/-- Whether nothing has been changed but for nodes that are met for the first time. -/
structure Grown (s t : Evaluation) : Prop where
  parts : ∀ (id : NodeId) (part : Part),
    s.parts[id]?.join = some part → t.parts[id]?.join = some part
  collections : ∀ (place : Nat) (id : NodeId),
    s.collections[place]? = some id → t.collections[place]? = some id

variable {nodes : Nodes} {among : NodeId → Prop} {filled : Nat} {s t u : Evaluation} {id : NodeId}
  {parts : Parts} {part : Part}

theorem Grown.refl (s : Evaluation) : Grown s s :=
  ⟨fun _ _ h => h, fun _ _ h => h⟩

theorem Grown.trans (h : Grown s t) (hnext : Grown t u) : Grown s u :=
  ⟨fun id part hpart => hnext.parts id part (h.parts id part hpart),
    fun place id hplace => hnext.collections place id (h.collections place id hplace)⟩

theorem Grown.met (h : Grown s t) (hmet : Met s.parts id) : Met t.parts id :=
  hmet.imp fun part => h.parts id part

theorem Ordinary.lt_size (h : Ordinary nodes among id) : id < nodes.size := by
  cases h with
  | scalar tag text value hnode => exact (Array.getElem?_eq_some_iff.mp hnode).1
  | sequence items hnode => exact (Array.getElem?_eq_some_iff.mp hnode).1
  | mapping entries hnode => exact (Array.getElem?_eq_some_iff.mp hnode).1

theorem join_setIfInBounds_self (hid : id < parts.size) (part : Part) :
    (parts.setIfInBounds id (some part))[id]?.join = some part := by
  rw [Array.getElem?_setIfInBounds_self_of_lt hid]
  rfl

theorem join_setIfInBounds_ne {other : NodeId} (h : other ≠ id) (part : Part) :
    (parts.setIfInBounds id (some part))[other]?.join = parts[other]?.join := by
  rw [Array.getElem?_setIfInBounds_ne (Ne.symm h)]

/-! ### Meeting nodes -/

theorem get_ok (s : Evaluation) : (get : Evaluating Evaluation) s = .ok (s, s) :=
  rfl

theorem meet_of_met (h : s.parts[id]?.join = some part) : meet id s = .ok (part, s) := by
  rw [meet, bind_ok (get_ok s)]
  dsimp only
  rw [h]
  rfl

theorem meet_of_collection (h : s.parts[id]?.join = none)
    (hpart : emptyPart? (s.nodes.tag id) = some part) :
    meet id s = .ok (part, { s with
      parts := s.parts.setIfInBounds id (some part)
      collections := s.collections.push id }) := by
  rw [meet, bind_ok (get_ok s)]
  dsimp only
  rw [h]
  dsimp only
  rw [hpart]
  rfl

theorem meet_of_scalar {value : Scalar} (h : s.parts[id]?.join = none)
    (htag : emptyPart? (s.nodes.tag id) = none) (hvalue : scalarOf s.nodes id = .ok value) :
    meet id s = .ok (.scalar value,
      { s with parts := s.parts.setIfInBounds id (some (.scalar value)) }) := by
  rw [meet, bind_ok (get_ok s)]
  dsimp only
  rw [h]
  dsimp only
  rw [htag]
  dsimp only
  rw [hvalue]
  rfl

/-- What an ordinary node is: a scalar that stands for its value, or a collection. -/
theorem Ordinary.scalarOf_eq {value : Scalar} {tag : Tag} {text : String}
    (hnode : nodes[id]? = some ⟨tag, .scalar text⟩) (hvalue : Scalar.ofText tag text = .ok value) :
    scalarOf nodes id = .ok value ∧ Nodes.part nodes id = .scalar value := by
  have hid := Nodes.node_eq hnode
  constructor
  · rw [scalarOf, textOf, hid, Nodes.tag, hid]
    cases tag <;> exact hvalue
  · rw [Nodes.part, hid]
    change Part.scalar ((Scalar.ofText tag text).toOption.getD .null) = _
    rw [hvalue]
    rfl

/-- A part that is set for the first time changes no other. -/
theorem join_of_set (hnew : ¬ Met parts id) {other : NodeId} {found : Part}
    (h : parts[other]?.join = some found) :
    (parts.setIfInBounds id (some part))[other]?.join = some found := by
  have hne : other ≠ id := by
    rintro rfl
    exact hnew ⟨found, h⟩
  rw [join_setIfInBounds_ne hne, h]

theorem Met.lt_size (h : Met parts id) : id < parts.size := by
  obtain ⟨part, hpart⟩ := h
  rw [Option.join_eq_some_iff] at hpart
  exact (Array.getElem?_eq_some_iff.mp hpart).1

theorem met_set_iff (hid : id < parts.size) {other : NodeId} :
    Met (parts.setIfInBounds id (some part)) other ↔ other = id ∨ Met parts other := by
  by_cases hother : other = id
  · subst hother
    exact iff_of_true ⟨part, join_setIfInBounds_self hid part⟩ (.inl rfl)
  · rw [Met, join_setIfInBounds_ne hother]
    exact ⟨.inr, fun h => h.resolve_left hother⟩

theorem getElem?_push_of_some {ids : Array NodeId} {place other : Nat}
    (h : ids[place]? = some other) : (ids.push id)[place]? = some other := by
  have hlt : place < ids.size := (Array.getElem?_eq_some_iff.mp h).1
  rw [Array.getElem?_push_lt hlt, ← h, Array.getElem?_eq_getElem hlt]

/-- A scalar is done when it is met. -/
theorem Kept.meetScalar (h : Kept nodes among filled s) (hid : among id) (hsize : id < nodes.size)
    (hnew : ¬ Met s.parts id) (hinner : Nodes.inner nodes id = []) :
    Kept nodes among filled
      { s with parts := s.parts.setIfInBounds id (some (Nodes.part nodes id)) } := by
  have hbound : id < s.parts.size := h.size_eq ▸ hsize
  refine ⟨h.nodes_eq, ?_, h.filled_le, h.nodup, ?_, ?_, ?_⟩
  · exact Array.size_setIfInBounds.trans h.size_eq
  · exact fun other hother => (h.collections other hother).imp_left fun hmet =>
      (met_set_iff hbound).mpr (.inr hmet)
  · intro other hmet
    rcases (met_set_iff hbound).mp hmet with rfl | hmet
    · exact hid
    · exact h.among other hmet
  · intro other hmet
    rcases (met_set_iff hbound).mp hmet with rfl | hmet
    · refine .inl ⟨join_setIfInBounds_self hbound _, fun inner hmem => ?_⟩
      rw [hinner] at hmem
      exact absurd hmem List.not_mem_nil
    · refine (h.done other hmet).imp_left fun hdone =>
        ⟨join_of_set hnew hdone.1, fun inner hmem => ?_⟩
      exact (met_set_iff hbound).mpr (.inr (hdone.2 inner hmem))

/-- A collection that is met is to be filled after the others. -/
theorem Kept.meetCollection (h : Kept nodes among filled s) (hid : among id)
    (hsize : id < nodes.size) (hnew : ¬ Met s.parts id)
    (htag : emptyPart? (nodes.tag id) ≠ none) (part : Part) :
    Kept nodes among filled { s with
      parts := s.parts.setIfInBounds id (some part)
      collections := s.collections.push id } := by
  have hbound : id < s.parts.size := h.size_eq ▸ hsize
  refine ⟨h.nodes_eq, ?_, ?_, ?_, ?_, ?_, ?_⟩
  · exact Array.size_setIfInBounds.trans h.size_eq
  · rw [Array.size_push]
    exact Nat.le_succ_of_le h.filled_le
  · rw [Array.toList_push, List.nodup_append]
    refine ⟨h.nodup, List.pairwise_singleton _ id, ?_⟩
    rintro other hother _ hsame rfl
    rw [List.mem_singleton] at hsame
    exact hnew (hsame ▸ (h.collections other (Array.mem_toList_iff.mp hother)).1)
  · intro other hother
    rcases Array.mem_push.mp hother with hother | rfl
    · exact (h.collections other hother).imp_left fun hmet => (met_set_iff hbound).mpr (.inr hmet)
    · exact ⟨(met_set_iff hbound).mpr (.inl rfl), htag⟩
  · intro other hmet
    rcases (met_set_iff hbound).mp hmet with rfl | hmet
    · exact hid
    · exact h.among other hmet
  · intro other hmet
    rcases (met_set_iff hbound).mp hmet with rfl | hmet
    · exact .inr ⟨s.collections.size, h.filled_le, Array.getElem?_push_size⟩
    · refine (h.done other hmet).imp
        (fun hdone => ⟨join_of_set hnew hdone.1, fun inner hmem => ?_⟩) ?_
      · exact (met_set_iff hbound).mpr (.inr (hdone.2 inner hmem))
      · exact Exists.imp fun place => And.imp_right getElem?_push_of_some

variable (hclosed : ∀ id, among id → Ordinary nodes among id)

include hclosed

/-- Meeting a node keeps what has been met in order. -/
theorem exists_meet (h : Kept nodes among filled s) (hid : among id) :
    ∃ part t, meet id s = .ok (part, t) ∧ Kept nodes among filled t ∧ Grown s t ∧ Met t.parts id ∧
      (emptyPart? (nodes.tag id) = none → part = Nodes.part nodes id) := by
  have hsize : id < nodes.size := (hclosed id hid).lt_size
  have hbound : id < s.parts.size := h.size_eq ▸ hsize
  rcases hmet : s.parts[id]?.join with _ | part
  · -- a node that is met for the first time
    have hnew : ¬ Met s.parts id := by
      rintro ⟨part, hpart⟩
      exact absurd (hmet.symm.trans hpart) (Option.some_ne_none _).symm
    rcases htag : emptyPart? (nodes.tag id) with _ | part
    · cases hclosed id hid with
      | scalar tag text value hnode _ hvalue =>
        obtain ⟨hscalar, hpart⟩ := Ordinary.scalarOf_eq hnode hvalue
        have hmeet := meet_of_scalar hmet (h.nodes_eq ▸ htag) (h.nodes_eq ▸ hscalar)
        have hinner : Nodes.inner nodes id = [] := by rw [Nodes.inner, Nodes.node_eq hnode]
        rw [← hpart] at hmeet
        refine ⟨_, _, hmeet, h.meetScalar hid hsize hnew hinner,
          ⟨fun _ _ => join_of_set hnew, fun _ _ hplace => hplace⟩,
          (met_set_iff hbound).mpr (.inl rfl), fun _ => rfl⟩
      | sequence items hnode =>
        rw [Nodes.tag, Nodes.node_eq hnode] at htag
        cases htag
      | mapping entries hnode =>
        rw [Nodes.tag, Nodes.node_eq hnode] at htag
        cases htag
    · have hmeet := meet_of_collection hmet (h.nodes_eq ▸ htag)
      have hsome : emptyPart? (nodes.tag id) ≠ none := by
        rw [htag]
        exact Option.some_ne_none part
      refine ⟨part, _, hmeet, h.meetCollection hid hsize hnew hsome part,
        ⟨fun _ _ => join_of_set hnew, ?_⟩, (met_set_iff hbound).mpr (.inl rfl),
        fun hnone => absurd hnone (Option.some_ne_none part)⟩
      exact fun _ _ => getElem?_push_of_some
  · refine ⟨part, s, meet_of_met hmet, h, Grown.refl s, ⟨part, hmet⟩, fun htag => ?_⟩
    rcases h.done id ⟨part, hmet⟩ with hdone | ⟨place, -, hplace⟩
    · exact Option.some.inj (hmet.symm.trans hdone.1)
    · exact absurd htag (h.collections id (Array.mem_of_getElem? hplace)).2

/-- Meeting nodes one after the other keeps what has been met in order. -/
theorem exists_meetAll {items : List NodeId} (hitems : ∀ item ∈ items, among item)
    (h : Kept nodes among filled s) :
    ∃ t, (items.forM fun item => discard (meet item)) s = .ok ((), t) ∧
      Kept nodes among filled t ∧ Grown s t ∧ ∀ item ∈ items, Met t.parts item := by
  induction items generalizing s with
  | nil => exact ⟨s, rfl, h, Grown.refl s, fun _ hitem => absurd hitem List.not_mem_nil⟩
  | cons item rest ih =>
    obtain ⟨hitem, hrest⟩ := List.forall_mem_cons.mp hitems
    obtain ⟨part, t, hmeet, ht, hgrown, hmet, -⟩ := exists_meet hclosed h hitem
    obtain ⟨u, hall, hu, hlater, hrestMet⟩ := ih hrest ht
    refine ⟨u, ?_, hu, hgrown.trans hlater, List.forall_mem_cons.mpr ⟨hlater.met hmet, hrestMet⟩⟩
    change (discard (meet item) >>= fun _ => rest.forM fun item => discard (meet item)) s = _
    rw [bind_ok (discard_ok hmeet), hall]

/-- The key of a mapping is a text. -/
theorem exists_meetKey {text : String} (h : Kept nodes among filled s) (hid : among id)
    (hnode : nodes[id]? = some ⟨.text, .scalar text⟩) :
    ∃ t, meetKey id s = .ok (.text text, t) ∧ Kept nodes among filled t ∧ Grown s t := by
  obtain ⟨part, t, hmeet, ht, hgrown, -, hpart⟩ := exists_meet hclosed h hid
  have htag : emptyPart? (nodes.tag id) = none := by
    rw [Nodes.tag, Nodes.node_eq hnode]
    rfl
  rw [hpart htag, (Ordinary.scalarOf_eq hnode rfl).2] at hmeet
  refine ⟨t, ?_, ht, hgrown⟩
  rw [meetKey, bind_ok hmeet]
  rfl

/-- Meeting the keys and values of a mapping keeps what has been met in order. -/
theorem exists_meetNamed {entries : List Entry}
    (hkeys : ∀ entry ∈ entries, Nodes.IsText nodes entry.1)
    (hentries : ∀ entry ∈ entries, among entry.1 ∧ among entry.2)
    (h : Kept nodes among filled s) :
    ∃ t, (entries.mapM fun (key, value) => do
        let name ← meetKey key
        discard (meet value)
        return (name, value)) s = .ok (Nodes.named nodes entries, t) ∧
      Kept nodes among filled t ∧ Grown s t ∧ ∀ entry ∈ entries, Met t.parts entry.2 := by
  induction entries generalizing s with
  | nil => exact ⟨s, rfl, h, Grown.refl s, fun _ hentry => absurd hentry List.not_mem_nil⟩
  | cons entry rest ih =>
    obtain ⟨hkey, hrestKeys⟩ := List.forall_mem_cons.mp hkeys
    obtain ⟨⟨hname, hvalue⟩, hrest⟩ := List.forall_mem_cons.mp hentries
    obtain ⟨t, hmeetKey, ht, hfirst⟩ := exists_meetKey hclosed h hname hkey
    obtain ⟨part, u, hmeet, hu, hsecond, hmet, -⟩ := exists_meet hclosed ht hvalue
    obtain ⟨v, hall, hv, hlater, hrestMet⟩ := ih hrestKeys hrest hu
    refine ⟨v, ?_, hv, hfirst.trans (hsecond.trans hlater),
      List.forall_mem_cons.mpr ⟨hlater.met hmet, hrestMet⟩⟩
    rw [List.mapM_cons]
    have hstep : (do
        let name ← meetKey entry.1
        discard (meet entry.2)
        return (name, entry.2) : Evaluating (Scalar × NodeId)) s =
          .ok ((.text (Nodes.text nodes entry.1), entry.2), u) := by
      rw [bind_ok hmeetKey, bind_ok (discard_ok hmeet)]
      rfl
    rw [bind_ok hstep, bind_ok hall]
    rfl

/-! ### Filling collections -/

omit hclosed in
theorem modify_eq_self {node : Node} (hnode : nodes[id]? = some node) {f : Node → Node}
    (hf : f node = node) : nodes.modify id f = nodes := by
  refine Array.ext_getElem? fun other => ?_
  rw [Array.getElem?_modify]
  split
  · next hsame => rw [← hsame, hnode, Option.map_some, hf]
  · rfl

omit hclosed in
/-- Keys that are texts stay what they are. -/
theorem forM_makeOrdinary {entries : List Entry}
    (hkeys : ∀ entry ∈ entries, Nodes.IsText nodes entry.1) :
    (entries.forM fun (key, _) => Merging.makeOrdinary key) nodes = .ok ((), nodes) := by
  induction entries with
  | nil => rfl
  | cons entry rest ih =>
    obtain ⟨hkey, hrest⟩ := List.forall_mem_cons.mp hkeys
    have hfirst : Merging.makeOrdinary entry.1 nodes = .ok ((), nodes) :=
      congrArg (fun nodes => Except.ok ((), nodes)) (modify_eq_self hkey rfl)
    change (Merging.makeOrdinary entry.1 >>= fun _ =>
      rest.forM fun (key, _) => Merging.makeOrdinary key) nodes = _
    rw [bind_ok hfirst, ih hrest]

omit hclosed in
/-- Where no key is special there is nothing to merge. -/
theorem flatten_eq {entries : List Entry} (hnode : nodes[id]? = some ⟨.mapping, .mapping entries⟩)
    (hkeys : ∀ entry ∈ entries, Nodes.IsText nodes entry.1)
    (entryCount : Nat) : Merging.flatten entryCount id nodes = .ok (entries, nodes) := by
  have hentries : (nodes.node id).entries = entries := by rw [Nodes.node_eq hnode]; rfl
  have hget : Merging.node id nodes = .ok (⟨.mapping, .mapping entries⟩, nodes) := by
    rw [← Nodes.node_eq hnode]
    rfl
  have hnone : (nodes.node id).entries.find? (fun (key, _) => nodes.tag key = .merge) = none := by
    rw [hentries, List.find?_eq_none]
    intro entry hentry
    have htag : nodes.tag entry.1 = .text := by rw [Nodes.tag, Nodes.node_eq (hkeys entry hentry)]
    simp [htag]
  have hremove : Merging.removeFirst id nodes = .ok (none, nodes) := by
    have hnodes : (get : Merging Nodes) nodes = .ok (nodes, nodes) := rfl
    rw [Merging.removeFirst, bind_ok hnodes]
    dsimp only
    rw [hnone]
    rfl
  have htake : Merging.takeOver (entryCount + 1) id nodes = .ok ([], nodes) := by
    rw [Merging.takeOver, bind_ok hremove]
    rfl
  have hset : Merging.setEntries id ([] ++ entries) nodes = .ok ((), nodes) :=
    congrArg (fun nodes => Except.ok ((), nodes)) (modify_eq_self hnode rfl)
  rw [Merging.flatten, Merging.flattenBy, bind_ok hget]
  dsimp only
  rw [bind_ok htake, bind_ok hget]
  dsimp only [Node.entries]
  rw [bind_ok (forM_makeOrdinary hkeys), bind_ok hset]
  rfl

omit hclosed in
/-- A collection is done when its contents have been met and it is filled with them. -/
theorem Kept.fill (h : Kept nodes among filled t) (hplace : t.collections[filled]? = some id)
    (hmet : Met t.parts id) (hinner : ∀ inner ∈ Nodes.inner nodes id, Met t.parts inner) :
    Kept nodes among (filled + 1)
      { t with parts := t.parts.setIfInBounds id (some (Nodes.part nodes id)) } := by
  have hbound : id < t.parts.size := hmet.lt_size
  have hsame : ∀ {other}, Met (t.parts.setIfInBounds id (some (Nodes.part nodes id))) other ↔
      Met t.parts other := by
    intro other
    rw [met_set_iff hbound, or_iff_right_of_imp]
    rintro rfl
    exact hmet
  refine ⟨h.nodes_eq, Array.size_setIfInBounds.trans h.size_eq,
    (Array.getElem?_eq_some_iff.mp hplace).1, h.nodup, ?_, ?_, ?_⟩
  · exact fun other hother => (h.collections other hother).imp_left hsame.mpr
  · exact fun other hother => h.among other (hsame.mp hother)
  · intro other hother
    by_cases heq : other = id
    · subst heq
      exact .inl ⟨join_setIfInBounds_self hbound _, fun inner hmem => hsame.mpr (hinner inner hmem)⟩
    · rcases h.done other (hsame.mp hother) with hdone | ⟨place, hle, hlater⟩
      · refine .inl ⟨(join_setIfInBounds_ne heq _).trans hdone.1, fun inner hmem => ?_⟩
        exact hsame.mpr (hdone.2 inner hmem)
      · refine .inr ⟨place, Nat.lt_of_le_of_ne hle ?_, hlater⟩
        rintro rfl
        exact heq (Option.some.inj (hlater.symm.trans hplace))

/-- The items of a sequence are met. -/
theorem exists_meetItems {items : List NodeId}
    (hsequence : nodes[id]? = some ⟨.sequence, .sequence items⟩)
    (hitems : ∀ item ∈ items, among item) (h : Kept nodes among filled s) :
    ∃ t, meetItems id s = .ok (items, t) ∧ Kept nodes among filled t ∧ Grown s t ∧
      ∀ item ∈ items, Met t.parts item := by
  obtain ⟨t, hall, ht, hgrown, hmet⟩ := exists_meetAll hclosed hitems h
  have hnodes := h.nodes_eq
  subst hnodes
  have hnode : node id s = .ok (s.nodes.node id, s) := rfl
  rw [Nodes.node_eq hsequence] at hnode
  refine ⟨t, ?_, ht, hgrown, hmet⟩
  rw [meetItems, bind_ok hnode]
  dsimp only
  rw [bind_ok hall]
  rfl

/-- The keys and values of a mapping are met. -/
theorem exists_meetEntries {entries : List Entry}
    (hmapping : nodes[id]? = some ⟨.mapping, .mapping entries⟩)
    (hkeys : ∀ entry ∈ entries, Nodes.IsText nodes entry.1)
    (hentries : ∀ entry ∈ entries, among entry.1 ∧ among entry.2) (h : Kept nodes among filled s) :
    ∃ t, meetEntries id s = .ok (Pairs.ofList (Nodes.named nodes entries), t) ∧
      Kept nodes among filled t ∧ Grown s t ∧ ∀ entry ∈ entries, Met t.parts entry.2 := by
  obtain ⟨t, hall, ht, hgrown, hmet⟩ := exists_meetNamed hclosed hkeys hentries h
  have hnodes := h.nodes_eq
  subst hnodes
  have hflatten : (liftM (Merging.flatten s.entryCount id s.nodes) :
      Evaluating (List Entry × Nodes)) s = .ok ((entries, s.nodes), s) := by
    rw [flatten_eq hmapping hkeys]
    rfl
  have hset : (set { s with nodes := s.nodes } : Evaluating Unit) s = .ok ((), s) := rfl
  refine ⟨t, ?_, ht, hgrown, hmet⟩
  rw [meetEntries, bind_ok (get_ok s)]
  dsimp only
  rw [bind_ok hflatten]
  dsimp only
  rw [bind_ok hset, bind_ok hall]
  rfl

/-- The next collection is filled with what is in it. -/
theorem exists_fill (h : Kept nodes among filled s) (hplace : s.collections[filled]? = some id) :
    ∃ t, fill id s = .ok ((), t) ∧ Kept nodes among (filled + 1) t ∧
      ∀ other, Met s.parts other → Met t.parts other := by
  have hid := h.collections id (Array.mem_of_getElem? hplace)
  have hnode : node id s = .ok (nodes.node id, s) := by
    rw [← h.nodes_eq]
    rfl
  cases hclosed id (h.among id hid.1) with
  | scalar tag text value hscalar htag =>
    refine absurd ?_ hid.2
    rw [Nodes.tag, Nodes.node_eq hscalar, htag]
  | sequence items hsequence hitems =>
    obtain ⟨t, hmeet, ht, hgrown, hmet⟩ := exists_meetItems hclosed hsequence hitems h
    have hinner : Nodes.inner nodes id = items := by
      rw [Nodes.inner, Nodes.node_eq hsequence]
    refine ⟨_, ?_, ht.fill (hgrown.collections filled id hplace) (hgrown.met hid.1)
      (hinner.symm ▸ hmet), fun other hother => ?_⟩
    · rw [fill, bind_ok hnode, Nodes.part, Nodes.node_eq hsequence]
      dsimp only [emptyPart?]
      rw [bind_ok hmeet]
      rfl
    · exact (met_set_iff (hgrown.met hid.1).lt_size).mpr (.inr (hgrown.met hother))
  | mapping entries hmapping hkeys hentries =>
    obtain ⟨t, hmeet, ht, hgrown, hmet⟩ := exists_meetEntries hclosed hmapping hkeys hentries h
    have hinner : Nodes.inner nodes id = entries.map Prod.snd := by
      rw [Nodes.inner, Nodes.node_eq hmapping]
    refine ⟨_, ?_, ht.fill (hgrown.collections filled id hplace) (hgrown.met hid.1) ?_,
      fun other hother => ?_⟩
    · rw [fill, bind_ok hnode, Nodes.part, Nodes.node_eq hmapping]
      dsimp only [emptyPart?]
      rw [bind_ok hmeet]
      rfl
    · rw [hinner, List.forall_mem_map]
      exact hmet
    · exact (met_set_iff (hgrown.met hid.1).lt_size).mpr (.inr (hgrown.met hother))

/-- The collections are as many as the nodes at most, since none is met twice. -/
theorem Kept.size_collections_le (h : Kept nodes among filled s) :
    s.collections.size ≤ nodes.size := by
  have hsub : s.collections.toList ⊆ List.range nodes.size := by
    intro other hother
    have hmet := (h.collections other (Array.mem_toList_iff.mp hother)).1
    exact List.mem_range.mpr (hclosed other (h.among other hmet)).lt_size
  have hle := (List.subperm_of_subset h.nodup hsub).length_le
  rwa [List.length_range, Array.length_toList] at hle

omit hclosed in
/-- Where no collection is left, all that has been met is done. -/
theorem Kept.all_done (h : Kept nodes among filled s) (hsize : s.collections.size ≤ filled)
    (hmet : Met s.parts id) : Done nodes s.parts id := by
  refine (h.done id hmet).resolve_right ?_
  rintro ⟨place, hle, hplace⟩
  have hlt : place < s.collections.size := (Array.getElem?_eq_some_iff.mp hplace).1
  omega

/-- All collections are filled in the end. -/
theorem exists_fillFrom {fuel : Nat} (hfuel : nodes.size ≤ filled + fuel)
    (h : Kept nodes among filled s) :
    ∃ t, fillFrom fuel filled s = .ok ((), t) ∧
      (∀ id, Met s.parts id → Met t.parts id) ∧ ∀ id, Met t.parts id → Done nodes t.parts id := by
  induction fuel generalizing filled s with
  | zero =>
    have hsize : s.collections.size ≤ filled := Nat.le_trans (h.size_collections_le hclosed) hfuel
    exact ⟨s, rfl, fun _ hmet => hmet, fun _ => h.all_done hsize⟩
  | succ fuel ih =>
    rcases hplace : s.collections[filled]? with _ | id
    · have hsize : s.collections.size ≤ filled := Array.getElem?_eq_none_iff.mp hplace
      refine ⟨s, ?_, fun _ hmet => hmet, fun _ => h.all_done hsize⟩
      rw [fillFrom, bind_ok (get_ok s)]
      rw [hplace]
      rfl
    · obtain ⟨t, hfill, ht, hmet⟩ := exists_fill hclosed h hplace
      obtain ⟨u, hrest, hlater, hdone⟩ := ih (by omega) ht
      refine ⟨u, ?_, fun id hid => hlater id (hmet id hid), hdone⟩
      rw [fillFrom, bind_ok (get_ok s)]
      rw [hplace]
      dsimp only
      rw [bind_ok hfill, hrest]

/-- **Ordinary documents are evaluated.** Every node that is met comes to stand for its content, and
so do the nodes in it. -/
theorem exists_evaluate (root : NodeId) (hroot : among root) :
    ∃ parts, evaluate ⟨nodes, root⟩ = .ok parts ∧ Met parts root ∧
      ∀ id, Met parts id → Done nodes parts id := by
  have hnone : ∀ id, ¬ Met (nodes.map fun _ => (none : Option Part)) id := by
    rintro id ⟨part, hpart⟩
    rw [Option.join_eq_some_iff, Array.getElem?_map, Option.map_eq_some_iff] at hpart
    obtain ⟨_, -, hnone⟩ := hpart
    cases hnone
  have hstart : Kept nodes among 0 (start ⟨nodes, root⟩) := by
    refine ⟨rfl, Array.size_map, Nat.zero_le _, List.nodup_nil, ?_, ?_, ?_⟩
    · exact fun id hid => absurd hid (Array.not_mem_empty id)
    · exact fun id hid => absurd hid (hnone id)
    · exact fun id hid => absurd hid (hnone id)
  obtain ⟨part, t, hmeet, ht, -, hmet, -⟩ := exists_meet hclosed hstart hroot
  obtain ⟨u, hfill, hlater, hdone⟩ := exists_fillFrom hclosed (Nat.le_add_left _ 0) ht
  refine ⟨u.parts, ?_, hlater root hmet, hdone⟩
  have hsteps : (do
      discard (meet root)
      fillFrom nodes.size 0 : Evaluating Unit).run (start ⟨nodes, root⟩) = .ok ((), u) := by
    change (discard (meet root) >>= fun _ => fillFrom nodes.size 0) _ = _
    rw [bind_ok (discard_ok hmeet), hfill]
  rw [evaluate]
  dsimp only
  rw [hsteps]
  rfl

end Evaluation

end SchemaPages.Yaml
