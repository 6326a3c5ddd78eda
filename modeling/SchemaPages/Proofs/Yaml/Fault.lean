import SchemaPages.Yaml.Token.Quoted
import SchemaPages.Yaml.Value

/-!
# Where a fault of a document comes from

Every rule of the notation that a document breaks makes it malformed. All other faults come from a
few places: an escape whose code is no character, a number with too many digits, a scalar that is
read as a truth value, an integer, a float or a timestamp and has no value as one, and a mapping
that is its own default value (`Fault.Explained`). Readers that are put together from readers with
such faults have such faults only, and so do the readers of scalars (`Scalar.explains_ofText`).
-/

namespace SchemaPages.Yaml

/-- The faults that a document can have. -/
inductive Fault.Explained : Fault → Prop
  | malformed : Explained .malformed
  /-- A text is no integer in a base. -/
  | integer {base : Nat} {text : String} (hbase : base ∈ [2, 8, 10, 16])
      (h : Number.readInt base text = none) : Explained (Scalar.integerFault base text)
  /-- An integer has too many decimal digits. -/
  | digits {count : Nat} (h : Number.digitLimit < count) : Explained (digitsFault count)
  /-- A text is no float. -/
  | float {text : String} (h : Number.readFloat text = none) : Explained (Scalar.floatFault text)
  /-- An integer is beyond all floats, such as the worth of a group of base sixty. -/
  | integerTooLarge {n : Int} (h : Number.floatOfInt n = none) :
      Explained (.tooLarge Number.tooLargeForFloat)
  /-- Nothing of a number is left without its underscores and its sign. -/
  | emptyNumber : Explained Scalar.emptyNumberFault
  /-- A word is no truth value. -/
  | word {word : String} (h : boolWords.lookup word = none) : Explained (Scalar.wordFault word)
  /-- A text is no timestamp. -/
  | noTimestamp {text : List Char} (h : Timestamp.read? text = none) :
      Explained Scalar.noTimestampFault
  /-- A timestamp is the default value of a mapping. -/
  | mappedTimestamp : Explained Scalar.mappedTimestampFault
  /-- There is no such point in time. -/
  | moment {t : Timestamp} {fault : TimeFault} (h : t.fault? = some fault) :
      Explained (.noValue fault.message)
  /-- A code is no character. -/
  | code {n : Nat} (h : 0x110000 ≤ n) : Explained (Quoted.codeFault n)
  /-- From default value to default value there is no end. -/
  | endless {nodes : Nodes} {id : NodeId}
      (h : ∀ fuel, Evaluation.textOf nodes fuel id = .error .endless) : Explained .endless

/-- Whether a reader fails with such faults only. -/
def Explains {α : Type} (outcome : Except Fault α) : Prop :=
  ∀ fault, outcome = .error fault → fault.Explained

section

variable {α β : Type} {outcome : Except Fault α} {next : α → Except Fault β}

theorem explains_ok (value : α) : Explains (.ok value) :=
  fun _ h => nomatch h

theorem explains_error {fault : Fault} (h : fault.Explained) :
    Explains (.error fault : Except Fault α) := by
  rintro _ ⟨⟩
  exact h

theorem explains_malformed : Explains (malformed : Except Fault α) :=
  explains_error .malformed

theorem Explains.bind (h : Explains outcome) (hnext : ∀ value, Explains (next value)) :
    Explains (outcome >>= next) := by
  cases outcome with
  | error fault => exact explains_error (h fault rfl)
  | ok value => exact hnext value

theorem Explains.map (h : Explains outcome) (f : α → β) : Explains (outcome.map f) := by
  cases outcome with
  | error fault => exact explains_error (h fault rfl)
  | ok value => exact explains_ok _

theorem explains_mapM {f : α → Except Fault β} (h : ∀ value, Explains (f value))
    (values : List α) : Explains (values.mapM f) := by
  induction values with
  | nil => exact explains_ok _
  | cons value rest ih =>
    rw [List.mapM_cons]
    exact (h value).bind fun _ => ih.bind fun _ => explains_ok _

theorem explains_ite {condition : Prop} [Decidable condition] {other : Except Fault α}
    (h : Explains outcome) (hother : Explains other) :
    Explains (if condition then outcome else other) := by
  split
  · exact h
  · exact hother

end

/-! ### Scalars -/

namespace Scalar

theorem explains_integerIn {base : Nat} (hbase : base ∈ [2, 8, 10, 16]) (text : String) :
    Explains (integerIn base text) := by
  rw [integerIn]
  split
  · next h => exact explains_error (.digits h.2)
  · split
    · exact explains_ok _
    · next h => exact explains_error (.integer hbase h)

theorem explains_floatIn (text : String) : Explains (floatIn text) := by
  rw [floatIn]
  split
  · exact explains_ok _
  · next h => exact explains_error (.float h)

-- The bound of all floats is a number of a thousand bits, which no unfolding is to evaluate.
attribute [local irreducible] Number.floatOfInt

theorem sumGroups_cons (weight : Nat) (sum x : Float) (rest : List Float) :
    sumGroups weight sum (x :: rest) =
      match Number.floatOfInt weight with
      | some factor => sumGroups (60 * weight) (sum + x * factor) rest
      | none => .error (.tooLarge Number.tooLargeForFloat) :=
  rfl

theorem explains_sumGroups (weight : Nat) (sum : Float) (groups : List Float) :
    Explains (sumGroups weight sum groups) := by
  induction groups generalizing weight sum with
  | nil => exact explains_ok _
  | cons x rest ih =>
    rw [sumGroups_cons]
    split
    · exact ih _ _
    · next hnone => exact explains_error (.integerTooLarge hnone)

theorem explains_unsignedInteger (text : List Char) : Explains (unsignedInteger text) := by
  rw [unsignedInteger.eq_def]
  split
  · exact explains_error .emptyNumber
  · exact explains_ok _
  · exact explains_integerIn (by decide) _
  · exact explains_integerIn (by decide) _
  · exact explains_integerIn (by decide) _
  · exact explains_ite ((explains_mapM (explains_integerIn (by decide)) _).map _)
      (explains_integerIn (by decide) _)

theorem explains_unsignedFloat (text : List Char) : Explains (unsignedFloat text) :=
  explains_ite (explains_ok _) <| explains_ite (explains_ok _) <|
    explains_ite ((explains_mapM explains_floatIn _).bind fun _ => explains_sumGroups _ _ _)
      (explains_floatIn _)

theorem explains_readFloat (text : String) : Explains (readFloat text) := by
  rw [readFloat]
  split
  · exact explains_error .emptyNumber
  · exact (explains_unsignedFloat _).map _

theorem explains_bytesFrom (count bits pads : Nat) (text : List Char) :
    Explains (bytesFrom count bits pads text) := by
  induction text generalizing count bits pads with
  | nil => exact explains_ite (explains_ok _) explains_malformed
  | cons c rest ih =>
    refine explains_ite ?_ ?_
    · exact explains_ite (explains_ite (explains_ok _) (ih _ _ _)) (ih _ _ _)
    · split
      · exact ih _ _ _
      · split
        · exact ih _ _ _
        all_goals exact (ih _ _ _).map _

theorem explains_readBool (text : String) : Explains (readBool text) := by
  rw [readBool]
  split
  · exact explains_ok _
  · next h => exact explains_error (.word h)

theorem explains_readMoment (text : String) : Explains (readMoment text) := by
  rw [readMoment]
  split
  · next h => exact explains_error (.noTimestamp h)
  · split
    · exact explains_ok _
    · next h => exact explains_error (.moment h)

/-- A scalar is malformed under its tag, or is no truth value, integer, float or point in time. -/
theorem explains_ofText (tag : Tag) (text : String) : Explains (ofText tag text) := by
  cases tag with
  | null => exact explains_ok _
  | bool => exact (explains_readBool text).map _
  | integer => exact ((explains_unsignedInteger _).map _).map _
  | float => exact (explains_readFloat text).map _
  | binary => exact (explains_ite (explains_bytesFrom _ _ _ _) explains_malformed).map _
  | timestamp => exact (explains_readMoment text).map _
  | text => exact explains_ok _
  | _ => exact explains_malformed

end Scalar

end SchemaPages.Yaml
