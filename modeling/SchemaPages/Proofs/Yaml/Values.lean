import SchemaPages.Proofs.Yaml.Limits
import SchemaPages.Proofs.Yaml.Nodes

/-!
# Faults of values

Merging the mappings of a document and evaluating its nodes adds the faults of its scalars to those
of its tokens. Together they are all faults that loading a document can lead to (`explains_load`).
-/

namespace SchemaPages.Yaml

/-- Whether a step has the faults of documents only, whatever state it starts from. -/
abbrev SoundStep {σ α : Type} (step : StateT σ (Except Fault) α) : Prop :=
  Sound (fun _ => True) step

/-! ### Merging -/

namespace Merging

theorem sound_node (id : NodeId) : SoundStep (node id) :=
  sound_get_bind fun _ _ => sound_pure _

theorem sound_setEntries (id : NodeId) (entries : List Entry) : SoundStep (setEntries id entries) :=
  sound_modify fun _ _ => trivial

theorem sound_makeOrdinary (key : NodeId) : SoundStep (makeOrdinary key) :=
  sound_modify fun _ _ => trivial

theorem sound_removeFirst (id : NodeId) : SoundStep (removeFirst id) := by
  refine sound_get_bind fun nodes _ => ?_
  dsimp only
  split
  · exact sound_pure _
  · exact (sound_setEntries _ _).bind fun _ => sound_pure _

theorem sound_flattenBy {takeOver : NodeId → Merging (List Entry)}
    (h : ∀ id, SoundStep (takeOver id)) (id : NodeId) : SoundStep (flattenBy takeOver id) := by
  refine (sound_node _).bind fun found => ?_
  split
  · exact (h _).bind fun _ => (sound_node _).bind fun _ =>
      (sound_forM (fun _ => sound_makeOrdinary _) _).bind fun _ =>
        (sound_setEntries _ _).bind fun _ => sound_pure _
  · exact sound_throw .malformed

theorem sound_takeOver (fuel : Nat) (id : NodeId) : SoundStep (takeOver fuel id) := by
  induction fuel generalizing id with
  | zero => exact sound_throw .malformed
  | succ fuel ih =>
    have hrest : ∀ found : List Entry,
        SoundStep (do return found ++ (← takeOver fuel id) : Merging (List Entry)) :=
      fun _ => (ih _).bind fun _ => sound_pure _
    rw [takeOver]
    refine (sound_removeFirst _).bind fun value => ?_
    split
    · exact sound_pure _
    · refine (sound_node _).bind fun found => ?_
      dsimp only
      split
      · exact (sound_mapM (sound_flattenBy ih) _).bind fun _ => (sound_pure _).bind hrest
      · exact (sound_flattenBy ih _).bind hrest

theorem sound_flatten (entryCount : Nat) (id : NodeId) : SoundStep (flatten entryCount id) :=
  sound_flattenBy (sound_takeOver _) id

end Merging

/-! ### Evaluation -/

namespace Evaluation

theorem textOf_eq_error {nodes : Nodes} {fuel : Nat} {id : NodeId} {fault : Fault}
    (h : textOf nodes fuel id = .error fault) : fault = .malformed ∨ fault = .endless := by
  induction fuel generalizing id with
  | zero =>
    cases h
    exact .inr rfl
  | succ fuel ih =>
    rw [textOf] at h
    split at h
    · cases h
    · cases h
      exact .inl rfl
    · split at h
      · exact ih h
      · cases h
        exact .inl rfl

/-- With a step for each node and one more, only what has no end is given up. -/
theorem explains_textOf (nodes : Nodes) (id : NodeId) :
    Explains (textOf nodes (nodes.size + 1) id) := by
  intro fault h
  rcases textOf_eq_error h with rfl | rfl
  · exact .malformed
  · exact .endless (textOf_endless h)

theorem explains_scalarOf (nodes : Nodes) (id : NodeId) : Explains (scalarOf nodes id) := by
  refine (explains_textOf _ _).bind fun text => ?_
  split
  · exact explains_error .mappedTimestamp
  · exact Scalar.explains_ofText _ _

theorem sound_node (id : NodeId) : SoundStep (node id) :=
  sound_get_bind fun _ _ => sound_pure _

theorem sound_setPart (id : NodeId) (part : Part) : SoundStep (setPart id part) :=
  sound_modify fun _ _ => trivial

theorem sound_meet (id : NodeId) : SoundStep (meet id) := by
  refine sound_get_bind fun s _ => ?_
  split
  · exact sound_pure _
  · split
    · refine (sound_setPart _ _).bind fun _ => Sound.bind ?_ fun _ => sound_pure _
      exact sound_modify fun _ _ => trivial
    · exact (sound_monadLift (explains_scalarOf _ _)).bind fun _ =>
        (sound_setPart _ _).bind fun _ => sound_pure _

theorem sound_meetKey (id : NodeId) : SoundStep (meetKey id) := by
  refine (sound_meet _).bind fun part => ?_
  split
  · exact sound_pure _
  · exact sound_throw .malformed

theorem sound_meetItems (id : NodeId) : SoundStep (meetItems id) := by
  refine (sound_node _).bind fun node => ?_
  split
  · exact (sound_forM (fun _ => (sound_meet _).discard) _).bind fun _ => sound_pure _
  · exact sound_throw .malformed

theorem sound_meetEntries (id : NodeId) : SoundStep (meetEntries id) := by
  refine sound_get_bind fun s _ => ?_
  refine (sound_monadLift ((Merging.sound_flatten _ _).explains_run trivial)).bind fun found => ?_
  refine (sound_set trivial).bind fun _ => Sound.bind (sound_mapM (fun entry => ?_) _) fun _ =>
    sound_pure _
  exact (sound_meetKey _).bind fun _ => (sound_meet _).discard.bind fun _ => sound_pure _

theorem sound_meetPair (id : NodeId) : SoundStep (meetPair id) := by
  refine (sound_node _).bind fun node => ?_
  split
  · exact (sound_meet _).discard.bind fun _ => (sound_meet _).discard.bind fun _ => sound_pure _
  · exact sound_throw .malformed

theorem sound_meetPairs (id : NodeId) : SoundStep (meetPairs id) := by
  refine (sound_node _).bind fun node => ?_
  split
  · exact sound_mapM sound_meetPair _
  · exact sound_throw .malformed

theorem sound_fill (id : NodeId) : SoundStep (fill id) := by
  refine (sound_node _).bind fun node => ?_
  split
  · exact (sound_meetItems _).bind fun _ => sound_setPart _ _
  · exact (sound_meetPairs _).bind fun _ => sound_setPart _ _
  · exact (sound_meetEntries _).bind fun _ => sound_setPart _ _
  · exact (sound_meetEntries _).bind fun _ => sound_setPart _ _
  · exact sound_pure _

theorem sound_fillFrom (fuel next : Nat) : SoundStep (fillFrom fuel next) := by
  induction fuel generalizing next with
  | zero => exact sound_pure _
  | succ fuel ih =>
    refine sound_get_bind fun s _ => ?_
    split
    · exact sound_pure _
    · exact (sound_fill _).bind fun _ => ih _

theorem explains_evaluate (document : Document) : Explains (evaluate document) := by
  have hsteps : SoundStep (do
      discard (meet document.root)
      fillFrom document.nodes.size 0) :=
    (sound_meet _).discard.bind fun _ => sound_fillFrom _ _
  exact (hsteps.explains_run trivial).bind fun _ => explains_ok _

end Evaluation

/-- **Loading a document has few faults.** Whatever the text is, and however deep its value is
looked at, it is loaded, or it is malformed, or its fault is that of an escape, a number, a truth
value, a timestamp or a default value without end. -/
theorem explains_load (depth : Nat) (text : String) : Explains (load depth text) := by
  refine (Document.explains_ofTokens (Tokens.explained_ofText _)).bind fun document => ?_
  split
  · exact explains_ok _
  · exact (Evaluation.explains_evaluate _).bind fun _ => explains_ok _

end SchemaPages.Yaml
