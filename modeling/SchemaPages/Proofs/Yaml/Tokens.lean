import SchemaPages.Proofs.Yaml.Fault
import SchemaPages.Yaml.Token.Lexer

/-!
# Faults of tokens

Dividing a text into tokens leads to faults that a document can have only: everything is malformed
but an escape between double quotes whose code is no character (`Tokens.explained_ofText`). The
proofs go along the readers, from quoted scalars to the next token of a text.
-/

namespace SchemaPages.Yaml

/-! ### Quoted scalars -/

namespace Quoted

theorem explains_emptyLines (fuel : Nat) (c : Cursor) : Explains (emptyLines fuel c) := by
  induction fuel generalizing c with
  | zero => exact explains_malformed
  | succ fuel ih =>
    refine explains_ite explains_malformed ?_
    dsimp only
    split
    · exact (ih _).map _
    · exact explains_ok _

theorem explains_gap (fuel : Nat) (c : Cursor) : Explains (gap fuel c) := by
  rw [gap]
  dsimp only
  split
  · exact (explains_emptyLines _ _).map _
  · exact explains_ok _

theorem explains_code (digits : Nat) (c : Cursor) : Explains (code digits c) := by
  rw [code]
  split
  · exact explains_malformed
  · split
    · exact explains_ok _
    · next h => exact explains_error (.code (Nat.not_lt.mp h))

theorem explains_escape (fuel : Nat) (c : Cursor) : Explains (escape fuel c) := by
  rw [escape]
  split
  · exact explains_malformed
  · split
    · exact explains_ok _
    · split
      · exact (explains_code _ _).map _
      · split
        · exact (explains_emptyLines _ _).map _
        · exact explains_malformed

theorem explains_doubleCodes (fuel : Nat) (c : Cursor) : Explains (doubleCodes fuel c) := by
  induction fuel generalizing c with
  | zero => exact explains_malformed
  | succ fuel ih =>
    rw [doubleCodes]
    split
    · exact explains_malformed
    · exact explains_ok _
    · have hmore : ∀ found : List Nat × Cursor, Explains (do
          let more ← doubleCodes fuel found.2
          return (found.1 ++ more.1, more.2)) := fun _ => (ih _).bind fun _ => explains_ok _
      dsimp only
      exact explains_ite ((explains_escape _ _).bind hmore) <|
        explains_ite (((explains_gap _ _).map _).bind hmore) ((explains_ok _).bind hmore)

theorem explains_singleChars (fuel : Nat) (c : Cursor) : Explains (singleChars fuel c) := by
  induction fuel generalizing c with
  | zero => exact explains_malformed
  | succ fuel ih =>
    rw [singleChars]
    split
    · exact explains_malformed
    · exact (ih _).map _
    · exact explains_ok _
    · have hmore : ∀ found : List Char × Cursor, Explains (do
          let more ← singleChars fuel found.2
          return (found.1 ++ more.1, more.2)) := fun _ => (ih _).bind fun _ => explains_ok _
      dsimp only
      exact explains_ite ((explains_gap _ _).bind hmore) ((explains_ok _).bind hmore)

theorem explains_scalar (c : Cursor) : Explains (scalar c) :=
  explains_ite ((explains_doubleCodes _ _).map _) ((explains_singleChars _ _).map _)

end Quoted

/-! ### Properties and directives -/

theorem explains_nameAt (c : Cursor) : Explains (nameAt c) := by
  rw [nameAt]
  split
  · exact explains_malformed
  · exact explains_ok _

theorem explains_anchorName (c : Cursor) : Explains (anchorName c) :=
  (explains_nameAt _).bind fun _ => explains_ite (explains_ok _) explains_malformed

theorem explains_escapedBytes (fuel : Nat) (c : Cursor) : Explains (escapedBytes fuel c) := by
  induction fuel generalizing c with
  | zero => exact explains_malformed
  | succ fuel ih =>
    rw [escapedBytes]
    split
    · split
      · exact (ih _).map _
      · exact explains_malformed
    · exact explains_malformed
    · exact explains_ok _

theorem explains_identifierChars (fuel : Nat) (c : Cursor) :
    Explains (identifierChars fuel c) := by
  induction fuel generalizing c with
  | zero => exact explains_malformed
  | succ fuel ih =>
    rw [identifierChars]
    split
    · refine (explains_escapedBytes _ _).bind fun _ => ?_
      dsimp only
      split
      · exact (ih _).bind fun _ => explains_ok _
      · exact explains_malformed
    · exact explains_ite ((ih _).map _) (explains_ok _)
    · exact explains_ok _

theorem explains_identifier (c : Cursor) : Explains (identifier c) := by
  refine (explains_identifierChars _ _).bind fun found => ?_
  split
  · exact explains_malformed
  · exact explains_ok _

theorem explains_handle (c : Cursor) : Explains (handle c) := by
  rw [handle.eq_def]
  split
  · exact explains_ok _
  · exact explains_ite (explains_ok _) explains_malformed
  · exact explains_malformed

theorem explains_tagAt (c : Cursor) : Explains (tagAt c) := by
  have hend : ∀ found : Token × Cursor, Explains (
      if startsOrEnds isSpaceOrBreak found.2.rest then pure found else malformed) :=
    fun _ => explains_ite (explains_ok _) explains_malformed
  rw [tagAt.eq_def]
  dsimp only
  split
  · exact (explains_identifier _).bind fun _ =>
      explains_ite ((explains_ok _).bind hend) (explains_malformed.bind hend)
  · exact explains_ite ((explains_ok _).bind hend) <| explains_ite
      ((explains_handle _).bind fun _ => (explains_identifier _).bind fun _ =>
        (explains_ok _).bind hend)
      ((explains_identifier _).bind fun _ => (explains_ok _).bind hend)
  · exact explains_malformed.bind hend

theorem explains_versionNumber (c : Cursor) : Explains (versionNumber c) := by
  rw [versionNumber]
  split
  · exact explains_malformed
  · split
    · next h => exact explains_error (.digits h)
    · exact explains_ok _

theorem explains_directiveEnd (c : Cursor) : Explains (directiveEnd c) := by
  rw [directiveEnd]
  split
  · exact explains_ok _
  · exact explains_ite (explains_ok _) explains_malformed

theorem explains_directiveAt (c : Cursor) : Explains (directiveAt c) := by
  refine (explains_nameAt _).bind fun _ => explains_ite explains_malformed <|
    explains_ite ?_ <| explains_ite ?_ ?_
  · refine (explains_versionNumber _).bind fun _ => explains_ite explains_malformed ?_
    exact (explains_versionNumber _).bind fun _ =>
      explains_ite ((explains_directiveEnd _).bind fun _ => explains_ok _) explains_malformed
  · refine (explains_handle _).bind fun _ => explains_ite explains_malformed ?_
    exact (explains_identifier _).bind fun _ =>
      explains_ite ((explains_directiveEnd _).bind fun _ => explains_ok _) explains_malformed
  · exact (explains_directiveEnd _).bind fun _ => explains_ok _

/-! ### Block scalars -/

namespace Block

theorem explains_header (c : Cursor) : Explains (header c) :=
  explains_ite explains_malformed (explains_ite (explains_ok _) explains_malformed)

theorem explains_restOfLine (c : Cursor) : Explains (restOfLine c) := by
  rw [restOfLine]
  split
  · exact explains_ok _
  · exact explains_ite (explains_ok _) explains_malformed

theorem explains_scalar (parent : Int) (c : Cursor) : Explains (scalar parent c) :=
  (explains_header _).bind fun _ => (explains_restOfLine _).bind fun _ => explains_ok _

end Block

/-! ### Tokens -/

namespace Lexer

theorem explains_forgetStale (s : Lexer) : Explains s.forgetStale :=
  explains_ite explains_malformed (explains_ok _)

theorem explains_forgetKey (s : Lexer) : Explains s.forgetKey :=
  explains_ite explains_malformed (explains_ok _)

theorem explains_saveKey (s : Lexer) : Explains s.saveKey :=
  explains_ite ((explains_forgetKey _).bind fun _ => explains_ok _) (explains_ok _)

theorem explains_atMargin (s : Lexer) : Explains s.atMargin :=
  (explains_forgetKey _).bind fun _ => explains_ok _

theorem explains_openFlow (s : Lexer) (token : Token) : Explains (s.openFlow token) :=
  (explains_saveKey _).bind fun _ => explains_ok _

theorem explains_closeFlow (s : Lexer) (token : Token) : Explains (s.closeFlow token) :=
  (explains_forgetKey _).bind fun _ => explains_ite (explains_ok _) explains_malformed

theorem explains_entryMark (s : Lexer) (opening token : Token) (keyAllowed : Bool) :
    Explains (s.entryMark opening token keyAllowed) :=
  explains_ite explains_malformed ((explains_forgetKey _).bind fun _ => explains_ok _)

theorem explains_valueMark (s : Lexer) : Explains s.valueMark := by
  rw [valueMark]
  split
  · exact explains_ok _
  · exact explains_entryMark _ _ _ _

theorem explains_content (s : Lexer) {read : Cursor → Lexing Token}
    (h : ∀ c, Explains (read c)) : Explains (s.content read) :=
  (explains_saveKey _).bind fun _ => (h _).bind fun _ => explains_ok _

theorem explains_plain (s : Lexer) : Explains s.plain :=
  (explains_saveKey _).bind fun _ => explains_ok _

theorem explains_token (s : Lexer) (c : Char) (rest : List Char) : Explains (s.token c rest) := by
  have hboundary : ∀ next : Lexer → Lexer,
      Explains (do return next (← s.atMargin) : Except Fault Lexer) := fun next =>
    (explains_atMargin s).bind fun _ => explains_ok _
  have hname : ∀ toToken : String → Token, Explains (s.content fun c =>
      (anchorName c).map fun found => (toToken found.1, found.2)) := fun _ =>
    explains_content s fun c => (explains_anchorName c).map _
  rw [token]
  -- one branch for each mark that a token can begin with, in the order in which they are tried
  refine explains_ite ((explains_atMargin s).bind fun _ =>
    (explains_directiveAt _).bind fun _ => explains_ok _) ?_
  refine explains_ite (hboundary _) (explains_ite (hboundary _) ?_)
  refine explains_ite (explains_openFlow _ _) (explains_ite (explains_openFlow _ _) ?_)
  refine explains_ite (explains_closeFlow _ _) (explains_ite (explains_closeFlow _ _) ?_)
  refine explains_ite ((explains_forgetKey _).bind fun _ => explains_ok _) ?_
  refine explains_ite (explains_entryMark _ _ _ _) (explains_ite (explains_entryMark _ _ _ _) ?_)
  refine explains_ite (explains_valueMark s) ?_
  refine explains_ite (hname _) (explains_ite (hname _) ?_)
  refine explains_ite (explains_content s explains_tagAt) ?_
  refine explains_ite ((explains_forgetKey _).bind fun _ =>
    (Block.explains_scalar _ _).bind fun _ => explains_ok _) ?_
  refine explains_ite (explains_content s Quoted.explains_scalar) ?_
  exact explains_ite (explains_plain s) explains_malformed

theorem explains_step (s : Lexer) : Explains s.step := by
  refine (explains_forgetStale _).bind fun s => ?_
  dsimp only
  split
  · exact (explains_forgetKey _).bind fun _ => explains_ok _
  · exact (explains_token _ _ _).bind fun _ => explains_ok _

end Lexer

/-- Whether the fault behind tokens, if there is one, is one that a document can have. -/
def Tokens.Explained (tokens : Tokens) : Prop :=
  ∀ fault ∈ tokens.fault, fault.Explained

theorem Lexer.explained_run (s : Lexer) (fuel : Nat) : (s.run fuel).Explained := by
  induction fuel generalizing s with
  | zero =>
    rintro _ ⟨⟩
    exact .malformed
  | succ fuel ih =>
    rw [run]
    split
    · next fault hstep =>
      rintro _ ⟨⟩
      exact explains_step s fault hstep
    · split
      · rintro _ ⟨⟩
      · exact ih _

theorem Tokens.explained_ofText (text : List Char) : (Tokens.ofText text).Explained := by
  rw [ofText]
  split
  · exact Lexer.explained_run _ _
  · rintro _ ⟨⟩
    exact .malformed

end SchemaPages.Yaml
