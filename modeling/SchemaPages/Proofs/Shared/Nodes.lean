import SchemaPages.Proofs.Shared.Tokens
import SchemaPages.Proofs.Yaml.Nodes

/-!
# The nodes of JSON texts

The tokens of a JSON text are read as nodes that stand for its values: a scalar for each word,
number and text, and a collection with the numbers of what it holds for each array and object
(`Spelling.In`). A collection has its number before its contents are read and is filled afterwards,
so the contents are looked for behind it only: there the table grows and does not change
(`Spelling.exists_read`).
-/

namespace SchemaPages.Yaml

/-- Whether a node has a number in a table, which is some number or a greater one. -/
def Nodes.HasFrom (nodes : Nodes) (least : Nat) (id : NodeId) (node : Node) : Prop :=
  least ≤ id ∧ nodes[id]? = some node

/-- Whether the nodes from a number on are also in another table. -/
def Nodes.StayFrom (nodes after : Nodes) (least : Nat) : Prop :=
  ∀ id node, nodes.HasFrom least id node → after[id]? = some node

namespace Nodes

variable {nodes after last : Nodes} {least lower : Nat} {id : NodeId} {node new : Node}

theorem HasFrom.mono (h : nodes.HasFrom least id node) (hlower : lower ≤ least)
    (hstay : nodes.StayFrom after least) : after.HasFrom lower id node :=
  ⟨hlower.trans h.1, hstay id node h⟩

theorem StayFrom.mono (h : nodes.StayFrom after lower) (hlower : lower ≤ least) :
    nodes.StayFrom after least :=
  fun id node hnode => h id node ⟨hlower.trans hnode.1, hnode.2⟩

theorem StayFrom.trans (h : nodes.StayFrom after least) (hlast : after.StayFrom last least) :
    nodes.StayFrom last least :=
  fun id node hnode => hlast id node ⟨hnode.1, h id node hnode⟩

/-- Where all nodes stay there are not less of them. -/
theorem StayFrom.size_le (h : nodes.StayFrom after 0) : nodes.size ≤ after.size := by
  rcases hsize : nodes.size with _ | last
  · exact Nat.zero_le _
  · have hlast : last < nodes.size := hsize ▸ Nat.lt_succ_self last
    have hnode := h last nodes[last] ⟨Nat.zero_le _, Array.getElem?_eq_getElem hlast⟩
    exact (Array.getElem?_eq_some_iff.mp hnode).1

theorem stayFrom_push (nodes : Nodes) (node : Node) : nodes.StayFrom (nodes.push node) 0 := by
  rintro id found ⟨-, hfound⟩
  have hid : id < nodes.size := (Array.getElem?_eq_some_iff.mp hfound).1
  rw [Array.getElem?_push_lt hid, ← hfound, Array.getElem?_eq_getElem hid]

theorem hasFrom_push (nodes : Nodes) (node : Node) :
    HasFrom (nodes.push node) nodes.size nodes.size node :=
  ⟨Nat.le_refl _, Array.getElem?_push_size⟩

/-- Filling a collection that was added first leaves all other nodes as they are. -/
theorem stayFrom_fill (h : StayFrom (nodes.push node) after 0) (new : Node) :
    nodes.StayFrom (after.setIfInBounds nodes.size new) 0 ∧
      after.StayFrom (after.setIfInBounds nodes.size new) (nodes.size + 1) ∧
        HasFrom (after.setIfInBounds nodes.size new) nodes.size nodes.size new := by
  have hother : ∀ id, id ≠ nodes.size →
      (after.setIfInBounds nodes.size new)[id]? = after[id]? :=
    fun id hid => Array.getElem?_setIfInBounds_ne (Ne.symm hid)
  refine ⟨?_, ?_, Nat.le_refl _, ?_⟩
  · rintro id found ⟨hleast, hfound⟩
    have hid : id < nodes.size := (Array.getElem?_eq_some_iff.mp hfound).1
    rw [hother id (Nat.ne_of_lt hid)]
    exact ((stayFrom_push nodes node).trans h) id found ⟨hleast, hfound⟩
  · rintro id found ⟨hleast, hfound⟩
    rw [hother id (Nat.ne_of_gt hleast)]
    exact hfound
  · have hsize : nodes.size < after.size :=
      (Array.getElem?_eq_some_iff.mp (h _ _ ((hasFrom_push nodes node).mono
        (Nat.zero_le _) fun _ _ hnode => hnode.2))).1
    rw [Array.getElem?_setIfInBounds_self_of_lt hsize]

end Nodes

namespace Node

variable {s t u : Reader} {more : List Token}

/-! ### Reading tokens -/

theorem peek_cons {token : Token} (h : s.tokens = token :: more) :
    peek s = .ok (some token, s) := by
  obtain ⟨tokens, fault, handles, names, nodes⟩ := s
  obtain rfl : tokens = token :: more := h
  rfl

theorem pass_cons {token : Token} (h : s.tokens = token :: more) :
    pass s = .ok ((), { s with tokens := more }) := by
  change Except.ok ((), { s with tokens := s.tokens.tail }) = _
  rw [h]
  rfl

/-- Whether a token begins a value in brackets. -/
inductive Begins : Token → Prop where
  | scalar (text : String) (isPlain : Bool) : Begins (.scalar text isPlain)
  | sequence : Begins .flowSequenceStart
  | mapping : Begins .flowMappingStart

theorem readProperties_of_begins {token : Token} (h : s.tokens = token :: more)
    (hbegins : Begins token) : readProperties s = .ok (⟨none, none⟩, s) := by
  have hname : readName s = .ok (none, s) := by
    rw [readName, bind_ok (peek_cons h)]
    cases hbegins <;> rfl
  have htag : readTag s = .ok (none, s) := by
    rw [readTag, bind_ok (peek_cons h)]
    cases hbegins <;> rfl
  rw [readProperties, bind_ok hname, bind_ok htag]
  rfl

/-- The tag of a scalar without properties. -/
def plainTag (text : String) (isPlain : Bool) : Tag :=
  if isPlain then Tag.ofPlain text else .text

theorem read_scalar {text : String} {isPlain : Bool} (h : s.tokens = .scalar text isPlain :: more)
    (setting : Setting) (fuel : Nat) :
    read setting (fuel + 1) s = .ok (s.nodes.size,
      { s with tokens := more, nodes := s.nodes.push ⟨plainTag text isPlain, .scalar text⟩ }) := by
  rw [read, bind_ok (peek_cons h)]
  dsimp only
  rw [bind_ok (readProperties_of_begins h (.scalar text isPlain)), bind_ok (peek_cons h)]
  dsimp only
  rw [bind_ok (pass_cons h)]
  rfl

/-- A collection gets its number before its contents are read, and is filled afterwards. -/
theorem addSequence_ok {items : Reading (List NodeId)} {ids : List NodeId}
    (hitems : items { s with nodes := s.nodes.push ⟨.sequence, .sequence []⟩ } = .ok (ids, t)) :
    addSequence ⟨none, none⟩ items s = .ok (s.nodes.size,
      { t with nodes := t.nodes.setIfInBounds s.nodes.size ⟨.sequence, .sequence ids⟩ }) := by
  change (items { s with nodes := s.nodes.push ⟨.sequence, .sequence []⟩ } >>= _) = _
  rw [hitems]
  rfl

theorem addMapping_ok {contents : Reading (List Entry)} {entries : List Entry}
    (hentries : contents { s with nodes := s.nodes.push ⟨.mapping, .mapping []⟩ } =
      .ok (entries, t)) :
    addMapping ⟨none, none⟩ contents s = .ok (s.nodes.size,
      { t with nodes := t.nodes.setIfInBounds s.nodes.size ⟨.mapping, .mapping entries⟩ }) := by
  change (contents { s with nodes := s.nodes.push ⟨.mapping, .mapping []⟩ } >>= _) = _
  rw [hentries]
  rfl

theorem read_sequence {fuel : Nat} {ids : List NodeId} (h : s.tokens = .flowSequenceStart :: more)
    (setting : Setting) (hitems : readFlowItems true fuel
      { s with tokens := more, nodes := s.nodes.push ⟨.sequence, .sequence []⟩ } = .ok (ids, t)) :
    read setting (fuel + 1) s = .ok (s.nodes.size,
      { t with nodes := t.nodes.setIfInBounds s.nodes.size ⟨.sequence, .sequence ids⟩ }) := by
  rw [read, bind_ok (peek_cons h)]
  dsimp only
  rw [bind_ok (readProperties_of_begins h .sequence), bind_ok (peek_cons h)]
  dsimp only
  rw [bind_ok (pass_cons h)]
  exact addSequence_ok (s := { s with tokens := more }) hitems

theorem read_mapping {fuel : Nat} {entries : List Entry}
    (h : s.tokens = .flowMappingStart :: more) (setting : Setting)
    (hentries : readFlowEntries true fuel
      { s with tokens := more, nodes := s.nodes.push ⟨.mapping, .mapping []⟩ } =
        .ok (entries, t)) :
    read setting (fuel + 1) s = .ok (s.nodes.size,
      { t with nodes := t.nodes.setIfInBounds s.nodes.size ⟨.mapping, .mapping entries⟩ }) := by
  rw [read, bind_ok (peek_cons h)]
  dsimp only
  rw [bind_ok (readProperties_of_begins h .mapping), bind_ok (peek_cons h)]
  dsimp only
  rw [bind_ok (pass_cons h)]
  exact addMapping_ok (s := { s with tokens := more }) hentries

theorem readFlowItems_close (h : s.tokens = .flowSequenceEnd :: more) (first : Bool) (fuel : Nat) :
    readFlowItems first (fuel + 1) s = .ok ([], { s with tokens := more }) := by
  rw [readFlowItems, bind_ok (peek_cons h)]
  dsimp only
  rw [bind_ok (pass_cons h)]
  rfl

theorem readFlowEntries_close (h : s.tokens = .flowMappingEnd :: more) (first : Bool)
    (fuel : Nat) : readFlowEntries first (fuel + 1) s = .ok ([], { s with tokens := more }) := by
  rw [readFlowEntries, bind_ok (peek_cons h)]
  dsimp only
  rw [bind_ok (pass_cons h)]
  rfl

/-- A value that begins here is not left out. -/
theorem readUnless_of_begins {ends : List Token} {setting : Setting} {fuel : Nat} {token : Token}
    (h : s.tokens = token :: more) (hends : ends.contains token = false) :
    readUnless ends setting (fuel + 1) s = read setting fuel s := by
  have hnext : nextIs ends s = .ok (false, s) := by
    rw [nextIs, bind_ok (peek_cons h), Option.any_some, hends]
    rfl
  rw [readUnless, bind_ok hnext]
  rfl

theorem readFlowItems_item {first : Bool} {fuel : Nat} {token : Token} {id : NodeId}
    {ids : List NodeId} (h : s.tokens = Json.commaTokens first ++ token :: more)
    (hbegins : Begins token)
    (hvalue : read .flow fuel { s with tokens := token :: more } = .ok (id, t))
    (hrest : readFlowItems false fuel t = .ok (ids, u)) :
    readFlowItems first (fuel + 1) s = .ok (id :: ids, u) := by
  have hpeek : peek { s with tokens := token :: more } =
      .ok (some token, { s with tokens := token :: more }) := peek_cons rfl
  rw [readFlowItems]
  cases first with
  | true =>
    have hs : { s with tokens := token :: more } = s :=
      congrArg (fun tokens => { s with tokens }) h.symm
    rw [hs] at hpeek hvalue
    rw [bind_ok hpeek]
    cases hbegins <;>
    · dsimp only
      rw [if_neg (by decide), bind_ok hpeek]
      dsimp only
      rw [bind_ok hvalue, bind_ok hrest]
      rfl
  | false =>
    replace h : s.tokens = .flowEntry :: token :: more := h
    rw [bind_ok (peek_cons h)]
    dsimp only
    rw [if_pos Bool.not_false, if_pos rfl, bind_ok (pass_cons h), bind_ok hpeek]
    cases hbegins <;>
    · dsimp only
      rw [bind_ok hvalue, bind_ok hrest]
      rfl

theorem readFlowEntries_member {first : Bool} {fuel : Nat} {name : String} {token : Token}
    {id : NodeId} {entries : List Entry}
    (h : s.tokens = Json.commaTokens first ++
      .key :: .scalar name false :: .value :: token :: more)
    (hbegins : Begins token)
    (hvalue : read .flow fuel { s with
      tokens := token :: more
      nodes := s.nodes.push ⟨.text, .scalar name⟩ } = .ok (id, t))
    (hrest : readFlowEntries false (fuel + 2) t = .ok (entries, u)) :
    readFlowEntries first (fuel + 3) s = .ok ((s.nodes.size, id) :: entries, u) := by
  have hkeyToken : peek { s with tokens := .key :: .scalar name false :: .value :: token :: more } =
      .ok (some .key, { s with tokens := .key :: .scalar name false :: .value :: token :: more }) :=
    peek_cons rfl
  have hkey : readUnless [.value, .flowEntry, .flowMappingEnd] .flow (fuel + 2)
      { s with tokens := .scalar name false :: .value :: token :: more } =
        .ok (s.nodes.size, { s with
          tokens := .value :: token :: more
          nodes := s.nodes.push ⟨.text, .scalar name⟩ }) := by
    rw [readUnless_of_begins rfl rfl]
    exact read_scalar (s := { s with tokens := .scalar name false :: .value :: token :: more }) rfl
      .flow fuel
  have hreadValue : readValue [.flowEntry, .flowMappingEnd] .flow (fuel + 2)
      { s with
        tokens := .value :: token :: more
        nodes := s.nodes.push ⟨.text, .scalar name⟩ } = .ok (id, t) := by
    rw [readValue, bind_ok (peek_cons rfl)]
    dsimp only
    rw [bind_ok (pass_cons rfl), readUnless_of_begins rfl (by cases hbegins <;> rfl)]
    exact hvalue
  rw [readFlowEntries]
  cases first with
  | true =>
    replace h : s.tokens = .key :: .scalar name false :: .value :: token :: more := h
    rw [bind_ok (peek_cons h)]
    dsimp only
    rw [if_neg (by decide), bind_ok (peek_cons h)]
    dsimp only
    rw [bind_ok (pass_cons h), bind_ok hkey, bind_ok hreadValue, bind_ok hrest]
    rfl
  | false =>
    replace h : s.tokens = .flowEntry :: .key :: .scalar name false :: .value :: token :: more := h
    rw [bind_ok (peek_cons h)]
    dsimp only
    rw [if_pos Bool.not_false, if_pos rfl, bind_ok (pass_cons h), bind_ok hkeyToken]
    dsimp only
    rw [bind_ok (pass_cons rfl), bind_ok hkey, bind_ok hreadValue, bind_ok hrest]
    rfl

end Node

end SchemaPages.Yaml

namespace SchemaPages.Json

open Yaml (Content Entry Node NodeId Nodes Tag)

/-! ### Values in a table of nodes -/

mutual

/-- Whether a value is in a table of nodes under a number, with all its parts from some number on.
-/
def Spelling.In (nodes : Nodes) (least : Nat) (id : NodeId) : Spelling → Prop
  | .plain value => nodes.HasFrom least id
      ⟨Tag.ofPlain (String.ofList value.chars), .scalar (String.ofList value.chars)⟩
  | .text strokes => nodes.HasFrom least id ⟨.text, .scalar (meantText strokes)⟩
  | .array _ items =>
    ∃ ids, nodes.HasFrom least id ⟨.sequence, .sequence ids⟩ ∧ items.In nodes least ids
  | .object _ members =>
    ∃ entries, nodes.HasFrom least id ⟨.mapping, .mapping entries⟩ ∧ members.In nodes least entries

/-- Whether items are in a table of nodes under some numbers. -/
def Items.In (nodes : Nodes) (least : Nat) (ids : List NodeId) : Items → Prop
  | .close => ids = []
  | .item _ value _ rest =>
    ∃ id more, ids = id :: more ∧ value.In nodes least id ∧ rest.In nodes least more

/-- Whether members are in a table of nodes under some numbers. -/
def Members.In (nodes : Nodes) (least : Nat) (entries : List Entry) : Members → Prop
  | .close => entries = []
  | .member _ name _ _ value _ rest =>
    ∃ key id more, entries = (key, id) :: more ∧
      nodes.HasFrom least key ⟨.text, .scalar (meantText name)⟩ ∧
        value.In nodes least id ∧ rest.In nodes least more

end

section

variable {nodes after : Nodes} {least lower : Nat}

mutual

/-- What is in a table stays in it if the nodes from a number on stay. -/
theorem Spelling.In.mono (hlower : lower ≤ least) (h : nodes.StayFrom after least) {id : NodeId} :
    ∀ {value : Spelling}, value.In nodes least id → value.In after lower id
  | .plain _, hnode => Nodes.HasFrom.mono hnode hlower h
  | .text _, hnode => Nodes.HasFrom.mono hnode hlower h
  | .array _ _, ⟨ids, hnode, hitems⟩ => ⟨ids, hnode.mono hlower h, hitems.mono hlower h⟩
  | .object _ _, ⟨entries, hnode, hmembers⟩ =>
    ⟨entries, hnode.mono hlower h, hmembers.mono hlower h⟩

theorem Items.In.mono (hlower : lower ≤ least) (h : nodes.StayFrom after least)
    {ids : List NodeId} : ∀ {items : Items}, items.In nodes least ids → items.In after lower ids
  | .close, hnil => hnil
  | .item _ _ _ _, ⟨id, more, hids, hvalue, hitems⟩ =>
    ⟨id, more, hids, hvalue.mono hlower h, hitems.mono hlower h⟩

theorem Members.In.mono (hlower : lower ≤ least) (h : nodes.StayFrom after least)
    {entries : List Entry} :
    ∀ {members : Members}, members.In nodes least entries → members.In after lower entries
  | .close, hnil => hnil
  | .member _ _ _ _ _ _ _, ⟨key, id, more, hentries, hkey, hvalue, hmembers⟩ =>
    ⟨key, id, more, hentries, hkey.mono hlower h, hvalue.mono hlower h, hmembers.mono hlower h⟩

end

end

/-! ### Reading values -/

open Yaml (Token)
open Yaml.Node (Begins Reader Setting readFlowItems readFlowEntries)

/-- Whether a step of reading passes the tokens in front of some others and finds what is in the
table of nodes then, where nodes have been added only. -/
def Finds {α : Type} (s : Reader) (rest : List Token) (outcome : Except Yaml.Fault (α × Reader))
    (isIn : Nodes → Nat → α → Prop) : Prop :=
  ∃ found after, outcome = .ok (found, { s with tokens := rest, nodes := after }) ∧
    s.nodes.StayFrom after 0 ∧ isIn after s.nodes.size found

theorem Spelling.exists_tokens (value : Spelling) :
    ∃ token more, value.tokens = token :: more ∧ Begins token := by
  cases value with
  | plain value => exact ⟨_, _, rfl, .scalar _ _⟩
  | text strokes => exact ⟨_, _, rfl, .scalar _ _⟩
  | array gap items => exact ⟨_, _, rfl, .sequence⟩
  | object gap members => exact ⟨_, _, rfl, .mapping⟩

mutual

/-- A value is read from its tokens. -/
theorem Spelling.finds (value : Spelling) (setting : Setting) (fuel : Nat)
    (hfuel : 3 * value.tokens.length ≤ fuel) {s : Reader} {rest : List Token}
    (hs : s.tokens = value.tokens ++ rest) :
    Finds s rest (Node.read setting fuel s) fun nodes least id => value.In nodes least id :=
  match value with
  | .plain value => by
    replace hfuel : 3 ≤ fuel := hfuel
    obtain ⟨fuel, rfl⟩ : ∃ n, fuel = n + 1 := Nat.exists_eq_add_one.mpr (by omega)
    exact ⟨_, _, Node.read_scalar hs setting fuel, Nodes.stayFrom_push _ _, Nodes.hasFrom_push _ _⟩
  | .text strokes => by
    replace hfuel : 3 ≤ fuel := hfuel
    obtain ⟨fuel, rfl⟩ : ∃ n, fuel = n + 1 := Nat.exists_eq_add_one.mpr (by omega)
    exact ⟨_, _, Node.read_scalar hs setting fuel, Nodes.stayFrom_push _ _, Nodes.hasFrom_push _ _⟩
  | .array _ items => by
    rw [Spelling.tokens, List.length_cons] at hfuel
    obtain ⟨fuel, rfl⟩ : ∃ n, fuel = n + 1 := Nat.exists_eq_add_one.mpr (by omega)
    obtain ⟨ids, after, hread, hstay, hitems⟩ := items.finds true fuel (by omega)
      (s := { s with
        tokens := items.tokens true ++ rest
        nodes := s.nodes.push ⟨.sequence, .sequence []⟩ }) rfl
    obtain ⟨hold, hlater, hnew⟩ := Nodes.stayFrom_fill hstay ⟨.sequence, .sequence ids⟩
    rw [Array.size_push] at hitems
    exact ⟨_, _, Node.read_sequence hs setting hread, hold, ids, hnew,
      hitems.mono (Nat.le_succ _) hlater⟩
  | .object _ members => by
    rw [Spelling.tokens, List.length_cons] at hfuel
    obtain ⟨fuel, rfl⟩ : ∃ n, fuel = n + 1 := Nat.exists_eq_add_one.mpr (by omega)
    obtain ⟨entries, after, hread, hstay, hmembers⟩ := members.finds true fuel (by omega)
      (s := { s with
        tokens := members.tokens true ++ rest
        nodes := s.nodes.push ⟨.mapping, .mapping []⟩ }) rfl
    obtain ⟨hold, hlater, hnew⟩ := Nodes.stayFrom_fill hstay ⟨.mapping, .mapping entries⟩
    rw [Array.size_push] at hmembers
    exact ⟨_, _, Node.read_mapping hs setting hread, hold, entries, hnew,
      hmembers.mono (Nat.le_succ _) hlater⟩

/-- The items of an array are read from their tokens. -/
theorem Items.finds (items : Items) (first : Bool) (fuel : Nat)
    (hfuel : 3 * (items.tokens first).length ≤ fuel) {s : Reader} {rest : List Token}
    (hs : s.tokens = items.tokens first ++ rest) :
    Finds s rest (readFlowItems first fuel s) fun nodes least ids => items.In nodes least ids :=
  match items with
  | .close => by
    replace hfuel : 3 ≤ fuel := hfuel
    obtain ⟨fuel, rfl⟩ : ∃ n, fuel = n + 1 := Nat.exists_eq_add_one.mpr (by omega)
    exact ⟨[], s.nodes, Node.readFlowItems_close hs first fuel, fun _ _ hnode => hnode.2, rfl⟩
  | .item _ value _ items => by
    rw [Items.tokens] at hfuel hs
    obtain ⟨token, more, htokens, hbegins⟩ := value.exists_tokens
    have hfirst : 0 < value.tokens.length := by
      rw [htokens]
      exact Nat.succ_pos _
    have hlast : 0 < (items.tokens false).length := by cases items <;> exact Nat.succ_pos _
    simp only [List.length_append] at hfuel
    obtain ⟨fuel, rfl⟩ : ∃ n, fuel = n + 1 := Nat.exists_eq_add_one.mpr (by omega)
    obtain ⟨id, between, hvalue, hstay, hin⟩ := value.finds .flow fuel (by omega)
      (s := { s with tokens := value.tokens ++ (items.tokens false ++ rest) }) rfl
    obtain ⟨ids, after, hitems, hlater, hins⟩ := items.finds false fuel (by omega)
      (s := { s with tokens := items.tokens false ++ rest, nodes := between }) rfl
    rw [htokens] at hvalue
    rw [htokens, List.append_assoc, List.append_assoc] at hs
    refine ⟨id :: ids, after, Node.readFlowItems_item hs hbegins hvalue hitems,
      hstay.trans hlater, id, ids, rfl, ?_, ?_⟩
    · exact hin.mono (Nat.le_refl _) (hlater.mono (Nat.zero_le _))
    · exact hins.mono hstay.size_le fun _ _ hnode => hnode.2

/-- The members of an object are read from their tokens. -/
theorem Members.finds (members : Members) (first : Bool) (fuel : Nat)
    (hfuel : 3 * (members.tokens first).length ≤ fuel) {s : Reader} {rest : List Token}
    (hs : s.tokens = members.tokens first ++ rest) :
    Finds s rest (readFlowEntries first fuel s) fun nodes least entries =>
      members.In nodes least entries :=
  match members with
  | .close => by
    replace hfuel : 3 ≤ fuel := hfuel
    obtain ⟨fuel, rfl⟩ : ∃ n, fuel = n + 1 := Nat.exists_eq_add_one.mpr (by omega)
    exact ⟨[], s.nodes, Node.readFlowEntries_close hs first fuel, fun _ _ hnode => hnode.2, rfl⟩
  | .member _ name _ _ value _ members => by
    rw [Members.tokens] at hfuel hs
    obtain ⟨token, more, htokens, hbegins⟩ := value.exists_tokens
    simp only [List.length_append, List.length_cons] at hfuel
    obtain ⟨fuel, rfl⟩ : ∃ n, fuel = n + 3 := Nat.exists_eq_add_of_le' (by omega)
    obtain ⟨id, between, hvalue, hstay, hin⟩ := value.finds .flow fuel (by omega)
      (s := { s with
        tokens := value.tokens ++ (members.tokens false ++ rest)
        nodes := s.nodes.push ⟨.text, .scalar (meantText name)⟩ }) rfl
    obtain ⟨entries, after, hmembers, hlater, hins⟩ :=
      members.finds false (fuel + 2) (by omega)
        (s := { s with tokens := members.tokens false ++ rest, nodes := between }) rfl
    rw [htokens] at hvalue
    rw [htokens] at hs
    simp only [List.append_assoc, List.cons_append] at hs
    have hkey := (Nodes.hasFrom_push s.nodes ⟨.text, .scalar (meantText name)⟩).mono
      (Nat.le_refl _) ((hstay.trans hlater).mono (Nat.zero_le _))
    have hsize : s.nodes.size ≤ (s.nodes.push ⟨.text, .scalar (meantText name)⟩).size := by
      rw [Array.size_push]
      exact Nat.le_succ _
    refine ⟨(s.nodes.size, id) :: entries, after,
      Node.readFlowEntries_member hs hbegins hvalue hmembers,
      (Nodes.stayFrom_push _ _).trans (hstay.trans hlater), s.nodes.size, id, entries, rfl, hkey,
      ?_, ?_⟩
    · exact hin.mono hsize (hlater.mono (Nat.zero_le _))
    · exact hins.mono (hsize.trans hstay.size_le) fun _ _ hnode => hnode.2

end

/-- **The nodes of a JSON text.** The tokens of a value in brackets are one document, whose root is
this value. -/
theorem Spelling.exists_ofTokens (value : Spelling) :
    ∃ nodes root, Yaml.Document.ofTokens ⟨value.tokens, none⟩ = .ok (some ⟨nodes, root⟩) ∧
      value.In nodes 0 root := by
  obtain ⟨token, more, htokens, hbegins⟩ := value.exists_tokens
  set start : Reader := ⟨value.tokens, none, Yaml.Document.defaultHandles, [], #[]⟩ with hstart
  obtain ⟨root, nodes, hread, -, hin⟩ := value.finds .block
    (4 * value.tokens.length + 4) (by omega) (s := start) (List.append_nil _).symm
  refine ⟨nodes, root, ?_, hin⟩
  have hfirst : Yaml.Document.readFirst (4 * value.tokens.length + 4) start =
      .ok (some root, { start with tokens := [], nodes }) := by
    rw [Yaml.Document.readFirst, Yaml.bind_ok (Node.peek_cons htokens)]
    cases hbegins <;>
    · dsimp only
      rw [Yaml.bind_ok hread]
      rfl
  have hend : Yaml.Document.readEnd (4 * value.tokens.length + 4)
      { start with tokens := [], nodes } = .ok ((), { start with tokens := [], nodes }) := rfl
  rw [Yaml.Document.ofTokens, Yaml.Document.readOnly, StateT.run', Yaml.bind_ok hfirst]
  dsimp only
  rw [Yaml.bind_ok hend]
  rfl

end SchemaPages.Json
