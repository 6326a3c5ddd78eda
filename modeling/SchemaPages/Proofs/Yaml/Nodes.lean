import SchemaPages.Proofs.Yaml.Tokens
import SchemaPages.Yaml.Node.Reader

/-!
# Faults of nodes

Reading the nodes of a document is a sequence of steps that change a state. A step is sound if it
keeps what is known of the state and fails with faults that a document can have only (`Sound`). What
is known of the tokens is that the fault behind them is such a fault: it comes up when they are read
to their end, and everything else that is wrong with them makes the document malformed
(`explains_ofTokens`).
-/

namespace SchemaPages.Yaml

/-- Whether a step keeps a property of the state, and has the faults of documents only. -/
def Sound {σ α : Type} (kept : σ → Prop) (step : StateT σ (Except Fault) α) : Prop :=
  ∀ s, kept s → Explains (step s) ∧ ∀ value after, step s = .ok (value, after) → kept after

section

variable {σ α β : Type} {kept : σ → Prop} {step : StateT σ (Except Fault) α}
  {next : α → StateT σ (Except Fault) β}

theorem sound_pure (value : α) : Sound kept (pure value) := by
  refine fun s hs => ⟨explains_ok _, ?_⟩
  rintro _ _ ⟨⟩
  exact hs

theorem sound_throw {fault : Fault} (h : fault.Explained) :
    Sound kept (throw fault : StateT σ (Except Fault) α) :=
  fun _ _ => ⟨explains_error h, fun _ _ h => nomatch h⟩

theorem Sound.bind (h : Sound kept step) (hnext : ∀ value, Sound kept (next value)) :
    Sound kept (step >>= next) := by
  intro s hs
  obtain ⟨hfaults, hkept⟩ := h s hs
  -- the rest of the steps starts in the state that the first one leaves
  have hrun : (step >>= next) s = (step s >>= fun (value, after) => next value after) := rfl
  rw [hrun]
  rcases hstep : step s with fault | ⟨value, after⟩
  · exact ⟨explains_error (hfaults fault hstep), fun _ _ h => nomatch h⟩
  · exact hnext value after (hkept value after hstep)

/-- A step that succeeds hands over its value and its state. -/
theorem bind_ok {s after : σ} {value : α} (h : step s = .ok (value, after)) :
    (step >>= next) s = next value after := by
  change (step s >>= fun (value, after) => next value after) = _
  rw [h]
  rfl

theorem discard_ok {s after : σ} {value : α} (h : step s = .ok (value, after)) :
    (discard step) s = .ok ((), after) := by
  change (step >>= fun _ => pure ()) s = _
  rw [bind_ok h]
  rfl

/-- The state that is looked at has the property. -/
theorem sound_get_bind {next : σ → StateT σ (Except Fault) β}
    (h : ∀ s, kept s → Sound kept (next s)) : Sound kept (get >>= next) :=
  fun s hs => h s hs s hs

theorem sound_set {s : σ} (h : kept s) :
    Sound kept (set s : StateT σ (Except Fault) PUnit) := by
  refine fun _ _ => ⟨explains_ok _, ?_⟩
  rintro _ _ ⟨⟩
  exact h

theorem sound_modify {f : σ → σ} (h : ∀ s, kept s → kept (f s)) :
    Sound kept (modify f : StateT σ (Except Fault) PUnit) := by
  refine fun s hs => ⟨explains_ok _, ?_⟩
  rintro _ _ ⟨⟩
  exact h s hs

theorem sound_ite {condition : Prop} [Decidable condition] {other : StateT σ (Except Fault) α}
    (h : Sound kept step) (hother : Sound kept other) :
    Sound kept (if condition then step else other) := by
  split
  · exact h
  · exact hother

theorem sound_mapM {step : α → StateT σ (Except Fault) β} (h : ∀ value, Sound kept (step value))
    (values : List α) : Sound kept (values.mapM step) := by
  induction values with
  | nil => exact sound_pure _
  | cons value rest ih =>
    rw [List.mapM_cons]
    exact (h value).bind fun _ => ih.bind fun _ => sound_pure _

theorem sound_forM {step : α → StateT σ (Except Fault) PUnit} (h : ∀ value, Sound kept (step value))
    (values : List α) : Sound kept (values.forM step) := by
  induction values with
  | nil => exact sound_pure _
  | cons value rest ih => exact (h value).bind fun _ => ih

theorem sound_optionMapM {step : α → StateT σ (Except Fault) β}
    (h : ∀ value, Sound kept (step value)) (value : Option α) : Sound kept (value.mapM step) := by
  cases value with
  | none => exact sound_pure _
  | some value => exact (h value).bind fun _ => sound_pure _

theorem sound_monadLift {outcome : Except Fault α} (h : Explains outcome) :
    Sound kept (monadLift outcome : StateT σ (Except Fault) α) := by
  intro s hs
  cases outcome with
  | error fault => exact ⟨explains_error (h fault rfl), fun _ _ h => nomatch h⟩
  | ok value =>
    refine ⟨explains_ok _, ?_⟩
    rintro _ _ ⟨⟩
    exact hs

theorem Sound.explains_run (h : Sound kept step) {s : σ} (hs : kept s) : Explains (step.run s) :=
  (h s hs).1

theorem Sound.discard (h : Sound kept step) : Sound kept (discard step) :=
  h.bind fun _ => sound_pure _

end

/-! ### Reading nodes -/

namespace Node

/-- Whether the fault behind the tokens is one that a document can have. -/
def Reader.Explained (s : Reader) : Prop :=
  ∀ fault ∈ s.fault, fault.Explained

variable {α : Type}

theorem sound_refuse : Sound Reader.Explained (refuse : Reading α) :=
  sound_throw .malformed

theorem sound_pass : Sound Reader.Explained pass :=
  sound_modify fun _ h => h

/-- At the end of the tokens the fault behind them comes up. -/
theorem sound_peek : Sound Reader.Explained peek := by
  refine sound_get_bind fun s hs => ?_
  split
  · exact sound_pure _
  · exact sound_pure _
  · next hfault => exact sound_throw (hs _ hfault)

theorem sound_nextIs (tokens : List Token) : Sound Reader.Explained (nextIs tokens) :=
  sound_peek.bind fun _ => sound_pure _

theorem sound_readTag : Sound Reader.Explained readTag := by
  refine sound_peek.bind fun token => ?_
  split
  · exact sound_pass.bind fun _ => sound_pure _
  · exact sound_pure _

theorem sound_readName : Sound Reader.Explained readName := by
  refine sound_peek.bind fun token => ?_
  split
  · exact sound_pass.bind fun _ => sound_pure _
  · exact sound_pure _

theorem sound_tagName (tag : Option String × String) : Sound Reader.Explained (tagName tag) := by
  rcases tag with ⟨_ | handle, suffix⟩
  · exact sound_pure _
  · refine sound_get_bind fun s _ => ?_
    split
    · exact sound_pure _
    · exact sound_refuse

theorem sound_readProperties : Sound Reader.Explained readProperties := by
  have hend : ∀ (tag : Option (Option String × String)) (name : Option String),
      Sound Reader.Explained (do return ⟨name, ← tag.mapM tagName⟩ : Reading Properties) :=
    fun tag _ => (sound_optionMapM sound_tagName tag).bind fun _ => sound_pure _
  refine sound_readName.bind fun before => sound_readTag.bind fun tag => ?_
  dsimp only
  exact sound_ite (sound_readName.bind (hend tag)) ((sound_pure before).bind (hend tag))

theorem sound_add (node : Node) : Sound Reader.Explained (add node) := by
  refine sound_get_bind fun s _ => Sound.bind ?_ fun _ => sound_pure _
  exact sound_modify fun _ h => h

theorem sound_declare (properties : Properties) (id : NodeId) :
    Sound Reader.Explained (declare properties id) := by
  rw [declare]
  split
  · exact sound_pure _
  · exact sound_get_bind fun _ _ => sound_ite sound_refuse (sound_modify fun _ h => h)

theorem sound_addScalar (properties : Properties) (text : String) (isPlain : Bool) :
    Sound Reader.Explained (addScalar properties text isPlain) :=
  (sound_add _).bind fun _ => (sound_declare _ _).bind fun _ => sound_pure _

theorem sound_addSequence (properties : Properties) {items : Reading (List NodeId)}
    (h : Sound Reader.Explained items) : Sound Reader.Explained (addSequence properties items) := by
  refine (sound_add _).bind fun _ => (sound_declare _ _).bind fun _ => h.bind fun _ =>
    Sound.bind ?_ fun _ => sound_pure _
  exact sound_modify fun _ h => h

theorem sound_addMapping (properties : Properties) {entries : Reading (List Entry)}
    (h : Sound Reader.Explained entries) :
    Sound Reader.Explained (addMapping properties entries) := by
  refine (sound_add _).bind fun _ => (sound_declare _ _).bind fun _ => h.bind fun _ =>
    Sound.bind ?_ fun _ => sound_pure _
  exact sound_modify fun _ h => h

/-- Whether all readers of nodes are sound within a number of steps. -/
structure SoundWithin (fuel : Nat) : Prop where
  read : ∀ setting, Sound Reader.Explained (read setting fuel)
  readUnless : ∀ ends setting, Sound Reader.Explained (readUnless ends setting fuel)
  readBlockItems : Sound Reader.Explained (readBlockItems fuel)
  readLooseItems : Sound Reader.Explained (readLooseItems fuel)
  readBlockEntries : Sound Reader.Explained (readBlockEntries fuel)
  readValue : ∀ ends setting, Sound Reader.Explained (readValue ends setting fuel)
  readFlowItems : ∀ first, Sound Reader.Explained (readFlowItems first fuel)
  readFlowEntries : ∀ first, Sound Reader.Explained (readFlowEntries first fuel)

section

variable {fuel : Nat}

theorem sound_read (h : SoundWithin fuel) (setting : Setting) :
    Sound Reader.Explained (read setting (fuel + 1)) := by
  rw [read]
  refine sound_peek.bind fun token => ?_
  split
  · refine sound_pass.bind fun _ => sound_get_bind fun s _ => ?_
    split
    · exact sound_pure _
    · exact sound_refuse
  · refine sound_readProperties.bind fun properties => sound_peek.bind fun token => ?_
    split
    · exact sound_pass.bind fun _ => sound_addScalar _ _ _
    · exact sound_pass.bind fun _ => sound_addSequence _ (h.readFlowItems _)
    · exact sound_pass.bind fun _ => sound_addMapping _ (h.readFlowEntries _)
    · exact sound_ite (sound_addSequence _ h.readLooseItems) <|
        sound_ite (sound_pass.bind fun _ => sound_addSequence _ h.readBlockItems) <|
          sound_ite (sound_pass.bind fun _ => sound_addMapping _ h.readBlockEntries) <|
            sound_ite (sound_addScalar _ _ _) sound_refuse

theorem sound_readUnless (h : SoundWithin fuel) (ends : List Token) (setting : Setting) :
    Sound Reader.Explained (readUnless ends setting (fuel + 1)) := by
  rw [readUnless]
  exact (sound_nextIs _).bind fun _ => sound_ite (sound_add _) (h.read _)

theorem sound_readBlockItems (h : SoundWithin fuel) :
    Sound Reader.Explained (readBlockItems (fuel + 1)) := by
  rw [readBlockItems]
  refine sound_peek.bind fun token => ?_
  split
  · exact sound_pass.bind fun _ => (h.readUnless _ _).bind fun _ =>
      h.readBlockItems.bind fun _ => sound_pure _
  · exact sound_pass.bind fun _ => sound_pure _
  · exact sound_refuse

theorem sound_readLooseItems (h : SoundWithin fuel) :
    Sound Reader.Explained (readLooseItems (fuel + 1)) := by
  rw [readLooseItems]
  refine sound_peek.bind fun token => ?_
  split
  · exact sound_pass.bind fun _ => (h.readUnless _ _).bind fun _ =>
      h.readLooseItems.bind fun _ => sound_pure _
  · exact sound_pure _

theorem sound_readBlockEntries (h : SoundWithin fuel) :
    Sound Reader.Explained (readBlockEntries (fuel + 1)) := by
  rw [readBlockEntries]
  refine sound_peek.bind fun token => ?_
  split
  · exact sound_pass.bind fun _ => (h.readUnless _ _).bind fun _ =>
      (h.readValue _ _).bind fun _ => h.readBlockEntries.bind fun _ => sound_pure _
  · exact sound_pass.bind fun _ => sound_pure _
  · exact sound_refuse

theorem sound_readValue (h : SoundWithin fuel) (ends : List Token) (setting : Setting) :
    Sound Reader.Explained (readValue ends setting (fuel + 1)) := by
  rw [readValue]
  refine sound_peek.bind fun token => ?_
  split
  · exact sound_pass.bind fun _ => h.readUnless _ _
  · exact sound_add _

/-- In brackets, what is read behind another entry is separated from it. -/
theorem sound_separated {α : Type} {entry : Reading α} (h : Sound Reader.Explained entry)
    (first : Bool) (token : Option Token) :
    Sound Reader.Explained (do
      if !first then
        if token = some .flowEntry then pass else refuse
      entry) :=
  sound_ite (sound_ite (sound_pass.bind fun _ => h) (sound_refuse.bind fun _ => h)) h

theorem sound_readFlowItems (h : SoundWithin fuel) (first : Bool) :
    Sound Reader.Explained (readFlowItems first (fuel + 1)) := by
  rw [readFlowItems]
  refine sound_peek.bind fun token => ?_
  split
  · exact sound_pass.bind fun _ => sound_pure _
  · refine sound_separated (sound_peek.bind fun token => ?_) first _
    split
    · exact sound_pass.bind fun _ => sound_pure _
    · exact sound_pass.bind fun _ => (h.readUnless _ _).bind fun _ =>
        (h.readValue _ _).bind fun _ => (sound_addMapping _ (sound_pure _)).bind fun _ =>
          (h.readFlowItems _).bind fun _ => sound_pure _
    · exact (h.read _).bind fun _ => (h.readFlowItems _).bind fun _ => sound_pure _

theorem sound_readFlowEntries (h : SoundWithin fuel) (first : Bool) :
    Sound Reader.Explained (readFlowEntries first (fuel + 1)) := by
  rw [readFlowEntries]
  refine sound_peek.bind fun token => ?_
  split
  · exact sound_pass.bind fun _ => sound_pure _
  · refine sound_separated (sound_peek.bind fun token => ?_) first _
    split
    · exact sound_pass.bind fun _ => sound_pure _
    · exact sound_pass.bind fun _ => (h.readUnless _ _).bind fun _ =>
        (h.readValue _ _).bind fun _ => (h.readFlowEntries _).bind fun _ => sound_pure _
    · exact (h.read _).bind fun _ => (sound_add _).bind fun _ =>
        (h.readFlowEntries _).bind fun _ => sound_pure _

end

/-- Reading nodes is sound, however many steps it takes. -/
theorem soundWithin (fuel : Nat) : SoundWithin fuel := by
  -- each reader calls the others with one step less, so they are all sound together
  induction fuel with
  | zero =>
    exact ⟨fun _ => sound_refuse, fun _ _ => sound_refuse, sound_refuse, sound_refuse, sound_refuse,
      fun _ _ => sound_refuse, fun _ => sound_refuse, fun _ => sound_refuse⟩
  | succ fuel ih =>
    exact ⟨sound_read ih, sound_readUnless ih, sound_readBlockItems ih, sound_readLooseItems ih,
      sound_readBlockEntries ih, sound_readValue ih, sound_readFlowItems ih,
      sound_readFlowEntries ih⟩

end Node

/-! ### Reading documents -/

namespace Document

open Node

theorem sound_readDirectives (fuel : Nat) (versioned : Bool) (handles : List (String × String)) :
    Sound Reader.Explained (readDirectives fuel versioned handles) := by
  induction fuel generalizing versioned handles with
  | zero => exact sound_refuse
  | succ fuel ih =>
    rw [readDirectives]
    refine sound_peek.bind fun token => ?_
    split
    · exact sound_pass.bind fun _ => sound_ite sound_refuse (ih _ _)
    · exact sound_pass.bind fun _ => sound_ite sound_refuse (ih _ _)
    · exact sound_pass.bind fun _ => ih _ _
    · exact sound_pure _

theorem sound_passEnds (fuel : Nat) : Sound Reader.Explained (passEnds fuel) := by
  induction fuel with
  | zero => exact sound_refuse
  | succ fuel ih =>
    exact (sound_nextIs _).bind fun _ => sound_ite (sound_pass.bind fun _ => ih) (sound_pure _)

theorem sound_readExplicit (fuel : Nat) : Sound Reader.Explained (readExplicit fuel) := by
  refine (sound_passEnds _).bind fun _ => sound_peek.bind fun token => ?_
  split
  · exact sound_pure _
  · refine (sound_readDirectives _ _ _).bind fun _ => (sound_nextIs _).bind fun _ =>
      sound_ite (sound_pass.bind fun _ => Sound.bind ?_ fun _ => sound_peek.bind fun token => ?_)
        sound_refuse
    · exact sound_modify fun _ h => h
    · have hadd : Sound Reader.Explained (do return some (← add absent)) :=
        (sound_add _).bind fun _ => sound_pure _
      split
      · exact hadd
      · exact hadd
      · exact hadd
      · exact hadd
      · exact ((soundWithin _).read _).bind fun _ => sound_pure _

theorem sound_readFirst (fuel : Nat) : Sound Reader.Explained (readFirst fuel) := by
  refine sound_peek.bind fun token => ?_
  split
  · exact sound_readExplicit _
  · exact sound_readExplicit _
  · exact sound_readExplicit _
  · exact ((soundWithin _).read _).bind fun _ => sound_pure _

theorem sound_readEnd (fuel : Nat) : Sound Reader.Explained (readEnd fuel) :=
  (sound_passEnds _).bind fun _ => sound_peek.bind fun _ =>
    sound_ite ((sound_readDirectives _ _ _).discard.bind fun _ => sound_refuse) (sound_pure _)

theorem sound_readOnly (fuel : Nat) : Sound Reader.Explained (readOnly fuel) := by
  refine (sound_readFirst _).bind fun root => ?_
  split
  · exact sound_pure _
  · exact (sound_readEnd _).bind fun _ => sound_get_bind fun _ _ => sound_pure _

/-- Reading a document out of tokens fails as the tokens do, or because it is malformed. -/
theorem explains_ofTokens {tokens : Tokens} (h : tokens.Explained) : Explains (ofTokens tokens) :=
  (Sound.explains_run (sound_readOnly _) (s := ⟨_, _, _, _, _⟩) h).map _

end Document

end SchemaPages.Yaml
