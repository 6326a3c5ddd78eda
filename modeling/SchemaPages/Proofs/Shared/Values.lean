import SchemaPages.Proofs.Pairs
import SchemaPages.Proofs.Shared.Nodes
import SchemaPages.Proofs.Shared.Scalars
import SchemaPages.Proofs.Yaml.Evaluation

/-!
# The values of JSON texts in YAML

The nodes of a JSON text are ordinary: its keys are texts, so nothing is merged, and every word and
number has a value. So evaluation does not fail, and what it returns is the value that can be seen
from the spelling, down to the depth at which one looks (`Document.load_eq`). It is the value of the
JSON text if all words and numbers mean the same in both notations (`Spelling.loaded_eq`).
-/

namespace SchemaPages.Yaml

namespace Value

/-- A value down to a depth, where collections are shown empty. -/
def cut : Nat → Value → Value
  | _, .scalar value => .scalar value
  | _, .set members => .set members
  | 0, .sequence _ => .sequence []
  | depth + 1, .sequence items => .sequence (items.map (cut depth))
  | 0, .mapping _ => .mapping []
  | depth + 1, .mapping entries => .mapping (entries.map fun (key, value) => (key, cut depth value))

mutual

/-- A JSON value as a value of YAML. -/
def ofJson : Json → Value
  | .null => .scalar .null
  | .bool value => .scalar (.bool value)
  | .integer value => .scalar (.integer value)
  | .float value => .scalar (.float value)
  | .string value => .scalar (.text value)
  | .array items => .sequence (ofItems items)
  | .object members => .mapping (ofMembers members)

/-- The items of a JSON array as values of YAML. -/
def ofItems : List Json → List Value
  | [] => []
  | item :: rest => ofJson item :: ofItems rest

/-- The members of a JSON object as entries of YAML. -/
def ofMembers : List (String × Json) → List (Scalar × Value)
  | [] => []
  | (name, value) :: rest => (.text name, ofJson value) :: ofMembers rest

end

theorem cut_scalar (depth : Nat) (value : Scalar) : (scalar value).cut depth = .scalar value := by
  rw [cut]

theorem ofParts_scalar {parts : Parts} {id : NodeId} {value : Scalar}
    (h : parts[id]?.join = some (.scalar value)) (depth : Nat) :
    ofParts parts depth id = .scalar value := by
  cases depth with
  | zero => rw [ofParts, h]
  | succ depth => rw [ofParts, h]

theorem ofItems_eq_map (items : List Json) : ofItems items = items.map ofJson := by
  induction items with
  | nil => rw [ofItems, List.map_nil]
  | cons item rest ih => rw [ofItems, ih, List.map_cons]

theorem ofMembers_eq_map (members : List (String × Json)) :
    ofMembers members = members.map (Prod.map Scalar.text ofJson) := by
  induction members with
  | nil => rw [ofMembers, List.map_nil]
  | cons member rest ih =>
    obtain ⟨name, value⟩ := member
    rw [ofMembers, ih, List.map_cons, Prod.map_apply]

end Value

end SchemaPages.Yaml

namespace SchemaPages.Json

open Yaml (Entry NodeId Nodes Scalar Tag Value)
open Yaml.Evaluation (Done Met Ordinary)

/-! ### The value of a spelling -/

mutual

/-- The value that a text is read as in YAML. -/
def Spelling.loaded : Spelling → Value
  | .plain value => .scalar value.scalar
  | .text strokes => .scalar (.text (meantText strokes))
  | .array _ items => .sequence items.loaded
  | .object _ members => .mapping (Pairs.ofList members.loaded)

/-- The values that items are read as. -/
def Items.loaded : Items → List Value
  | .close => []
  | .item _ value _ rest => value.loaded :: rest.loaded

/-- The entries that members are read as; names may come again. -/
def Members.loaded : Members → List (Scalar × Value)
  | .close => []
  | .member _ name _ _ value _ rest => (.text (meantText name), value.loaded) :: rest.loaded

end

/-- The items of an array. -/
def Items.toList : Items → List Spelling
  | .close => []
  | .item _ value _ rest => value :: rest.toList

/-- The names and values of members; names may come again. -/
def Members.entries : Members → List (String × Spelling)
  | .close => []
  | .member _ name _ _ value _ rest => (meantText name, value) :: rest.entries

/-- The value of a member of an object; of several ones with a name the last one counts. -/
def Spelling.member? (name : String) : Spelling → Option Spelling
  | .object _ members => (Pairs.ofList members.entries).lookup name
  | _ => none

theorem Items.values_eq_map (items : Items) : items.values = items.toList.map Spelling.value :=
  match items with
  | .close => rfl
  | .item _ _ _ rest => congrArg (List.cons _) rest.values_eq_map

theorem Items.loaded_eq_map (items : Items) : items.loaded = items.toList.map Spelling.loaded :=
  match items with
  | .close => rfl
  | .item _ _ _ rest => congrArg (List.cons _) rest.loaded_eq_map

theorem Members.values_eq_map (members : Members) :
    members.values = members.entries.map (Prod.map id Spelling.value) :=
  match members with
  | .close => rfl
  | .member _ _ _ _ _ _ rest => congrArg (List.cons _) rest.values_eq_map

theorem Members.loaded_eq_map (members : Members) :
    members.loaded = members.entries.map (Prod.map Scalar.text Spelling.loaded) :=
  match members with
  | .close => rfl
  | .member _ _ _ _ _ _ rest => congrArg (List.cons _) rest.loaded_eq_map

mutual

/-- Whether all words and numbers in a value mean the same in both notations. -/
def Spelling.Alike : Spelling → Prop
  | .plain value => value.isShared
  | .text _ => True
  | .array _ items => items.Alike
  | .object _ members => members.Alike

/-- Whether all words and numbers in items mean the same in both notations. -/
def Items.Alike : Items → Prop
  | .close => True
  | .item _ value _ rest => value.Alike ∧ rest.Alike

/-- Whether all words and numbers in members mean the same in both notations. -/
def Members.Alike : Members → Prop
  | .close => True
  | .member _ _ _ _ value _ rest => value.Alike ∧ rest.Alike

end

theorem Plain.ofJson_value {value : Plain} (h : value.isShared) :
    Value.ofJson value.value = .scalar value.scalar := by
  cases value with
  | word entry hentry =>
    have hwords : entry = ("null", .null) ∨ entry = ("true", .bool true) ∨
        entry = ("false", .bool false) ∨ ∃ word x, entry = (word, .float x) := by
      have hentry : entry ∈ wordValues := hentry
      simp only [wordValues, List.mem_cons, List.not_mem_nil, or_false] at hentry
      rcases hentry with rfl | rfl | rfl | rfl | rfl | rfl <;> simp
    rcases hwords with rfl | rfl | rfl | ⟨word, x, rfl⟩
    · rfl
    · rfl
    · rfl
    · cases h
  | number n =>
    change Value.ofJson (if n.isInteger then .integer n.integer else .float n.float) =
      .scalar (if n.isInteger then .integer n.integer
        else if n.isShared then .float n.float else .text (String.ofList n.chars))
    by_cases hinteger : n.isInteger
    · rw [if_pos hinteger, if_pos hinteger, Value.ofJson]
    · have hshared : n.isShared := h
      rw [if_neg hinteger, if_neg hinteger, if_pos hshared, Value.ofJson]

theorem beq_text (name other : String) : (Scalar.text name == .text other) = (name == other) :=
  rfl

/-- A number that is not known as one, and a word for a number, is read as a text. -/
theorem Plain.scalar_of_not_isShared {value : Plain} (h : ¬ value.isShared) :
    value.scalar = .text (String.ofList value.chars) ∧ ∃ x, value.value = .float x := by
  cases value with
  | word entry hentry =>
    obtain ⟨word, found⟩ := entry
    cases found with
    | float x => exact ⟨congrArg Scalar.text String.ofList_toList.symm, x, rfl⟩
    | _ => exact absurd rfl h
  | number n =>
    have hshared : ¬ n.isShared := h
    have hinteger : ¬ n.isInteger := fun hinteger =>
      hshared (by rw [Numeral.isShared, hinteger, Bool.true_or])
    refine ⟨?_, n.float, if_neg hinteger⟩
    change (if n.isInteger then Scalar.integer n.integer
      else if n.isShared then .float n.float else .text (String.ofList n.chars)) = _
    rw [if_neg hinteger, if_neg hshared]
    rfl

/-- What is written plainly is meant as a scalar. -/
theorem Plain.exists_ofJson_value (value : Plain) :
    ∃ scalar, Value.ofJson value.value = .scalar scalar := by
  by_cases hshared : value.isShared
  · exact ⟨_, Plain.ofJson_value hshared⟩
  · obtain ⟨-, x, hx⟩ := Plain.scalar_of_not_isShared hshared
    exact ⟨.float x, by rw [hx, Value.ofJson]⟩

mutual

/-- Where all words and numbers mean the same, the value is the one of the JSON text. -/
theorem Spelling.loaded_eq : ∀ {value : Spelling}, value.Alike →
    value.loaded = Value.ofJson value.value
  | .plain _, h => (Plain.ofJson_value h).symm
  | .text _, _ => by
    rw [Spelling.loaded, Spelling.value, Value.ofJson]
  | .array _ _, h => by
    rw [Spelling.loaded, Spelling.value, Value.ofJson, Items.loaded_eq h]
  | .object _ _, h => by
    rw [Spelling.loaded, Spelling.value, Value.ofJson, Members.loaded_eq h, Value.ofMembers_eq_map,
      Value.ofMembers_eq_map, Pairs.map_ofList beq_text]

theorem Items.loaded_eq : ∀ {items : Items}, items.Alike → items.loaded = Value.ofItems items.values
  | .close, _ => by rw [Items.loaded, Items.values, Value.ofItems]
  | .item _ _ _ _, ⟨hvalue, hitems⟩ => by
    rw [Items.loaded, Items.values, Value.ofItems, Spelling.loaded_eq hvalue,
      Items.loaded_eq hitems]

theorem Members.loaded_eq : ∀ {members : Members}, members.Alike →
    members.loaded = Value.ofMembers members.values
  | .close, _ => by rw [Members.loaded, Members.values, Value.ofMembers]
  | .member _ _ _ _ _ _ _, ⟨hvalue, hmembers⟩ => by
    rw [Members.loaded, Members.values, Value.ofMembers, Spelling.loaded_eq hvalue,
      Members.loaded_eq hmembers]

end

/-! ### Evaluation -/

variable {nodes : Nodes} {parts : Yaml.Parts}

/-- Whether some value that both notations know is in a table of nodes under a number. -/
def Stands (nodes : Nodes) (id : NodeId) : Prop :=
  ∃ value : Spelling, value.Common ∧ value.In nodes 0 id

theorem Items.In.stands : ∀ {items : Items} {ids : List NodeId}, items.In nodes 0 ids →
    items.Common → ∀ id ∈ ids, Stands nodes id
  | .close, _, rfl, _ => fun _ hid => absurd hid List.not_mem_nil
  | .item _ value _ _, _, ⟨_, _, rfl, hvalue, hitems⟩, ⟨hcommon, hrest⟩ =>
    List.forall_mem_cons.mpr ⟨⟨value, hcommon, hvalue⟩, hitems.stands hrest⟩

theorem text_eq {id : NodeId} {name : String} (h : nodes[id]? = some ⟨.text, .scalar name⟩) :
    Nodes.text nodes id = name := by
  rw [Nodes.text, Nodes.node_eq h]

theorem isText {id : NodeId} {name : String} (h : nodes[id]? = some ⟨.text, .scalar name⟩) :
    Nodes.IsText nodes id := by
  rw [Nodes.IsText, text_eq h, h]

theorem Members.In.stands : ∀ {members : Members} {entries : List Entry},
    members.In nodes 0 entries → members.Common → ∀ entry ∈ entries,
      Nodes.IsText nodes entry.1 ∧ Stands nodes entry.1 ∧ Stands nodes entry.2
  | .close, _, rfl, _ => fun _ hentry => absurd hentry List.not_mem_nil
  | .member _ name _ _ value _ _, _, ⟨_, _, _, rfl, hkey, hvalue, hmembers⟩,
      ⟨⟨hname, _⟩, hcommon, hrest⟩ =>
    List.forall_mem_cons.mpr
      ⟨⟨isText hkey.2, ⟨.text name, hname, hkey⟩, ⟨value, hcommon, hvalue⟩⟩, hmembers.stands hrest⟩

/-- The nodes of a JSON text are ordinary. -/
theorem Stands.ordinary {id : NodeId} (h : Stands nodes id) : Ordinary nodes (Stands nodes) id := by
  obtain ⟨value, hcommon, hvalue⟩ := h
  cases value with
  | plain value =>
    obtain ⟨hempty, htext⟩ := Plain.ofText_eq hcommon
    exact .scalar _ _ value.scalar hvalue.2 hempty htext
  | text strokes => exact .scalar .text _ (.text (meantText strokes)) hvalue.2 rfl rfl
  | array gap items =>
    obtain ⟨ids, hnode, hitems⟩ := hvalue
    exact .sequence ids hnode.2 (hitems.stands hcommon)
  | object gap members =>
    obtain ⟨entries, hnode, hmembers⟩ := hvalue
    have hstands := hmembers.stands hcommon
    exact .mapping entries hnode.2 (fun entry hentry => (hstands entry hentry).1)
      fun entry hentry => (hstands entry hentry).2

/-! ### The value as a tree -/

theorem Items.In.map_eq {α : Type} {f : NodeId → α} {g : Value → α} :
    ∀ {items : Items} {ids : List NodeId}, items.In nodes 0 ids → items.Common →
      (∀ id ∈ ids, ∀ value : Spelling, value.Common → value.In nodes 0 id → f id = g value.loaded) →
        ids.map f = items.loaded.map g
  | .close, _, rfl, _, _ => by rw [Items.loaded, List.map_nil, List.map_nil]
  | .item _ value _ _, _, ⟨_, _, rfl, hvalue, hitems⟩, ⟨hcommon, hothers⟩, h => by
    obtain ⟨hfirst, hrest⟩ := List.forall_mem_cons.mp h
    rw [Items.loaded, List.map_cons, List.map_cons, hfirst value hcommon hvalue,
      hitems.map_eq hothers hrest]

theorem Members.In.map_eq {α : Type} {f : NodeId → α} {g : Value → α} :
    ∀ {members : Members} {entries : List Entry}, members.In nodes 0 entries → members.Common →
      (∀ entry ∈ entries, ∀ value : Spelling, value.Common → value.In nodes 0 entry.2 →
        f entry.2 = g value.loaded) →
        (Nodes.named nodes entries).map (Prod.map id f) = members.loaded.map (Prod.map id g)
  | .close, _, rfl, _, _ => by rw [Members.loaded]; rfl
  | .member _ _ _ _ value _ _, _, ⟨_, _, _, rfl, hkey, hvalue, hmembers⟩, ⟨_, hcommon, hothers⟩,
      h => by
    obtain ⟨hfirst, hrest⟩ := List.forall_mem_cons.mp h
    have htail := hmembers.map_eq hothers hrest
    rw [Nodes.named] at htail ⊢
    rw [Members.loaded, List.map_cons, List.map_cons, List.map_cons, htail, Prod.map_apply,
      Prod.map_apply, text_eq hkey.2, hfirst value hcommon hvalue]

/-- A value that is evaluated is the one of its spelling, as far as one looks. -/
theorem Spelling.In.ofParts_eq (hdone : ∀ id, Met parts id → Done nodes parts id) (depth : Nat)
    {value : Spelling} {place : NodeId} (hcommon : value.Common) (hvalue : value.In nodes 0 place)
    (hmet : Met parts place) :
    Value.ofParts parts depth place = value.loaded.cut depth := by
  induction depth generalizing value place with
  | zero =>
    obtain ⟨hpart, -⟩ := hdone place hmet
    cases value with
    | plain value =>
      rw [(Ordinary.scalarOf_eq hvalue.2 (Plain.ofText_eq hcommon).2).2] at hpart
      exact Value.ofParts_scalar hpart 0
    | text strokes =>
      rw [(Ordinary.scalarOf_eq hvalue.2 rfl).2] at hpart
      exact Value.ofParts_scalar hpart 0
    | array gap items =>
      obtain ⟨ids, hnode, -⟩ := hvalue
      rw [Nodes.part, Nodes.node_eq hnode.2] at hpart
      rw [Value.ofParts, hpart]
      rfl
    | object gap members =>
      obtain ⟨entries, hnode, -⟩ := hvalue
      rw [Nodes.part, Nodes.node_eq hnode.2] at hpart
      rw [Value.ofParts, hpart]
      rfl
  | succ depth ih =>
    obtain ⟨hpart, hinner⟩ := hdone place hmet
    cases value with
    | plain value =>
      rw [(Ordinary.scalarOf_eq hvalue.2 (Plain.ofText_eq hcommon).2).2] at hpart
      exact Value.ofParts_scalar hpart (depth + 1)
    | text strokes =>
      rw [(Ordinary.scalarOf_eq hvalue.2 rfl).2] at hpart
      exact Value.ofParts_scalar hpart (depth + 1)
    | array gap items =>
      obtain ⟨ids, hnode, hitems⟩ := hvalue
      rw [Nodes.part, Nodes.node_eq hnode.2] at hpart
      rw [Nodes.inner, Nodes.node_eq hnode.2] at hinner
      rw [Value.ofParts, hpart, Spelling.loaded, Value.cut]
      exact congrArg Value.sequence
        (hitems.map_eq hcommon fun item hitem value hitemCommon hin =>
          ih hitemCommon hin (hinner item hitem))
    | object gap members =>
      obtain ⟨entries, hnode, hmembers⟩ := hvalue
      rw [Nodes.part, Nodes.node_eq hnode.2] at hpart
      rw [Nodes.inner, Nodes.node_eq hnode.2] at hinner
      have hentries := hmembers.map_eq (f := Value.ofParts parts depth) (g := Value.cut depth)
        hcommon fun entry hentry value hentryCommon hin =>
          ih hentryCommon hin (hinner entry.2 (List.mem_map_of_mem hentry))
      rw [Value.ofParts, hpart, Spelling.loaded, Value.cut]
      refine congrArg Value.mapping ?_
      calc (Pairs.ofList (Nodes.named nodes entries)).map (Prod.map id (Value.ofParts parts depth))
          = Pairs.ofList ((Nodes.named nodes entries).map
              (Prod.map id (Value.ofParts parts depth))) := Pairs.map_ofList (fun _ _ => rfl) _ _
        _ = Pairs.ofList (members.loaded.map (Prod.map id (Value.cut depth))) := by rw [hentries]
        _ = (Pairs.ofList members.loaded).map (Prod.map id (Value.cut depth)) :=
          (Pairs.map_ofList (fun _ _ => rfl) _ _).symm

/-- **The value of a JSON text in YAML.** An object whose text both notations read alike is loaded
with the value of its spelling. -/
theorem Document.load_eq {document : Document} (h : document.Shared) {gap : Gap} {members : Members}
    (hvalue : document.value = .object gap members) (depth : Nat) :
    Yaml.load depth document.text = .ok (document.value.loaded.cut depth) := by
  obtain ⟨nodes, root, hnodes, hin⟩ := document.value.exists_ofTokens
  obtain ⟨parts, hparts, hmet, hdone⟩ :=
    Yaml.Evaluation.exists_evaluate (fun _ => Stands.ordinary) root
      ⟨document.value, h.common, hin⟩
  rw [Yaml.load, Document.text, String.toList_ofList, Document.ofText_eq h hvalue, hnodes]
  change (do return Value.ofParts (← Yaml.Evaluation.evaluate ⟨nodes, root⟩) depth root) = _
  rw [hparts]
  exact congrArg Except.ok (hin.ofParts_eq hdone depth h.common hmet)

end SchemaPages.Json
