import SchemaPages.Proofs.Shared.Steps
import SchemaPages.Proofs.Yaml.Limits

/-!
# The tokens of JSON texts

A JSON text is divided into tokens as its spelling says: brackets, commas and scalars in their
order, and in front of a member the token of a key (`Spelling.tokens`). For that its characters must
be among those that both notations share, its names joined to their colons, and its escapes whole
characters (`Document.Shared`).
Between brackets a value is passed in at most as many steps as it has characters, which follows by
induction over its spelling (`Spelling.reaches`).
-/

namespace SchemaPages.Json

open Yaml (Lexer Token isShared)
open Yaml.Lexer (Passes)

/-! ### What is expected -/

/-- The token of the comma in front of what is not first. -/
def commaTokens (first : Bool) : List Token :=
  if first then [] else [.flowEntry]

mutual

/-- The tokens of a value. -/
def Spelling.tokens : Spelling → List Token
  | .plain value => [.scalar (String.ofList value.chars) true]
  | .text strokes => [.scalar (meantText strokes) false]
  | .array _ items => .flowSequenceStart :: items.tokens true
  | .object _ members => .flowMappingStart :: members.tokens true

/-- The tokens of items up to the closing bracket. -/
def Items.tokens (first : Bool) : Items → List Token
  | .close => [.flowSequenceEnd]
  | .item _ value _ rest => commaTokens first ++ (value.tokens ++ rest.tokens false)

/-- The tokens of members up to the closing brace. -/
def Members.tokens (first : Bool) : Members → List Token
  | .close => [.flowMappingEnd]
  | .member _ name _ _ value _ rest =>
    commaTokens first ++ (.key :: .scalar (meantText name) false :: .value ::
      (value.tokens ++ rest.tokens false))

end

mutual

/-- Whether a value is written as both notations know it: all names are joined to their colons, no
escape is half of a pair, and no integer has too many digits. -/
def Spelling.Common : Spelling → Prop
  | .plain value => value.Short
  | .text strokes => Whole strokes
  | .array _ items => items.Common
  | .object _ members => members.Common

/-- Whether items are written as both notations know them. -/
def Items.Common : Items → Prop
  | .close => True
  | .item _ value _ rest => value.Common ∧ rest.Common

/-- Whether members are written as both notations know them. -/
def Members.Common : Members → Prop
  | .close => True
  | .member _ name colon _ value _ rest =>
    (Whole name ∧ JoinedName name colon) ∧ value.Common ∧ rest.Common

end

variable {s : Lexer} {depth : Nat} {read : List Token} {rest : List Char}

theorem Items.marked (items : Items) (rest : List Char) :
    Yaml.Plain.Marked (items.chars false ++ rest) := by
  cases items <;> exact ⟨_, _, rfl, rfl⟩

theorem Members.marked (members : Members) (rest : List Char) :
    Yaml.Plain.Marked (members.chars false ++ rest) := by
  cases members <;> exact ⟨_, _, rfl, rfl⟩

/-- What is not first stands behind a comma, and a name may stand there. -/
theorem exists_passes_comma {first : Bool} (h : s.At depth read (comma first ++ rest)) :
    ∃ t, Passes (comma first).length s t ∧ t.At depth (read ++ commaTokens first) rest ∧
      ((first = true → s.keyAllowed = true) → t.keyAllowed = true) := by
  cases first with
  | true =>
    refine ⟨s, fun fuel => rfl, ?_, fun hallowed => hallowed rfl⟩
    rw [commaTokens, if_pos rfl, List.append_nil]
    exact h
  | false =>
    obtain ⟨t, hpasses, ht, hkey⟩ := Lexer.At.exists_comma h
    exact ⟨t, hpasses, ht, fun _ => hkey⟩

mutual

/-- A value in brackets is divided into its tokens. -/
theorem Spelling.reaches (value : Spelling) (hshared : ∀ c ∈ value.chars, isShared c)
    (hcommon : value.Common) {gap : Gap} (hgap : ∀ c ∈ gap.val, isShared c) {rest : List Char}
    (hmarked : Yaml.Plain.Marked rest) {s : Lexer} {depth : Nat} {read : List Token}
    (h : s.At (depth + 1) read (value.chars ++ (gap.val ++ rest))) :
    s.Reaches value.chars (depth + 1) (read ++ value.tokens) rest :=
  match value with
  | .plain value => by
    have hgap : ∀ d ∈ gap.val, Yaml.isSharedGap d :=
      fun d hd => Yaml.isSharedGap_of_isSpace (gap.property d hd) (hgap d hd)
    obtain ⟨t, hpasses, ht⟩ := h.exists_plain hgap hmarked
    obtain ⟨c, tail, hchars, -⟩ := value.exists_head
    exact ⟨1, t, by simp [Spelling.chars, hchars], hpasses, ht⟩
  | .text strokes => by
    have hinner : ∀ d ∈ innerChars strokes, isShared d := fun d hd =>
      hshared d (List.mem_cons_of_mem _ (List.mem_append_left _ hd))
    obtain ⟨t, hpasses, ht⟩ := h.exists_text hinner hcommon
    exact ⟨1, t, by simp [Spelling.chars, quotedChars], hpasses, ht.of_gap hgap⟩
  | .array before items => by
    obtain ⟨hbefore, hitems⟩ := List.forall_mem_append.mp (List.forall_mem_cons.mp hshared).2
    rw [Spelling.chars, List.cons_append, List.append_assoc] at h
    obtain ⟨t, hopen, ht, -⟩ := h.exists_open (.inl ⟨rfl, rfl⟩)
    obtain ⟨n, u, hn, hpasses, hu⟩ := items.reaches true hitems hcommon (ht.of_gap hbefore)
    refine ⟨1 + n, u, ?_, hopen.trans hpasses, ?_⟩
    · rw [Spelling.chars, List.length_cons, List.length_append]
      omega
    · rw [List.append_assoc] at hu
      exact hu.of_gap hgap
  | .object before members => by
    obtain ⟨hbefore, hmembers⟩ := List.forall_mem_append.mp (List.forall_mem_cons.mp hshared).2
    rw [Spelling.chars, List.cons_append, List.append_assoc] at h
    obtain ⟨t, hopen, ht, hkey⟩ := h.exists_open (.inr ⟨rfl, rfl⟩)
    obtain ⟨n, u, hn, hpasses, hu⟩ :=
      members.reaches true hmembers hcommon (ht.of_gap hbefore) fun _ => hkey
    refine ⟨1 + n, u, ?_, hopen.trans hpasses, ?_⟩
    · rw [Spelling.chars, List.length_cons, List.length_append]
      omega
    · rw [List.append_assoc] at hu
      exact hu.of_gap hgap

/-- The items of an array are divided into their tokens. -/
theorem Items.reaches (items : Items) (first : Bool) (hshared : ∀ c ∈ items.chars first, isShared c)
    (hcommon : items.Common) {rest : List Char} {s : Lexer} {depth : Nat} {read : List Token}
    (h : s.At (depth + 1) read (items.chars first ++ rest)) :
    s.Reaches (items.chars first) depth (read ++ items.tokens first) rest :=
  match items with
  | .close => by
    obtain ⟨t, hpasses, ht⟩ := h.exists_close (.inl ⟨rfl, rfl⟩)
    exact ⟨1, t, Nat.le_refl 1, hpasses, ht⟩
  | .item before value after items => by
    rw [Items.chars] at h hshared ⊢
    simp only [List.forall_mem_append] at hshared
    obtain ⟨-, hbefore, hvalue, hafter, hitems⟩ := hshared
    rw [List.append_assoc] at h
    obtain ⟨t, hcomma, ht, -⟩ := exists_passes_comma h
    rw [List.append_assoc, List.append_assoc, List.append_assoc] at ht
    obtain ⟨m, u, hm, hfirst, hu⟩ := value.reaches hvalue hcommon.1 hafter (items.marked rest)
      (ht.of_gap hbefore)
    obtain ⟨n, v, hn, hrest, hv⟩ := items.reaches false hitems hcommon.2 hu
    refine ⟨_, v, ?_, hcomma.trans (hfirst.trans hrest), ?_⟩
    · simp only [List.length_append]
      omega
    · rw [List.append_assoc, List.append_assoc] at hv
      exact hv

/-- The members of an object are divided into their tokens. -/
theorem Members.reaches (members : Members) (first : Bool)
    (hshared : ∀ c ∈ members.chars first, isShared c) (hcommon : members.Common)
    {rest : List Char} {s : Lexer} {depth : Nat} {read : List Token}
    (h : s.At (depth + 1) read (members.chars first ++ rest))
    (hallowed : first = true → s.keyAllowed = true) :
    s.Reaches (members.chars first) depth (read ++ members.tokens first) rest :=
  match members with
  | .close => by
    obtain ⟨t, hpasses, ht⟩ := h.exists_close (.inr ⟨rfl, rfl⟩)
    exact ⟨1, t, Nat.le_refl 1, hpasses, ht⟩
  | .member before name colon between value after members => by
    rw [Members.chars] at h hshared ⊢
    simp only [List.forall_mem_append, List.forall_mem_cons] at hshared
    obtain ⟨-, hbefore, hname, -, -, hbetween, hvalue, hafter, hmembers⟩ := hshared
    have hinner : ∀ d ∈ innerChars name, isShared d := fun d hd =>
      hname d (List.mem_cons_of_mem _ (List.mem_append_left _ hd))
    rw [List.append_assoc] at h
    obtain ⟨t, hcomma, ht, hkey⟩ := exists_passes_comma h
    simp only [List.append_assoc, List.cons_append] at ht
    obtain ⟨u, hmark, hu⟩ := (ht.of_gap hbefore).exists_name hinner hcommon.1.1 hcommon.1.2
      (hkey hallowed)
    obtain ⟨m, v, hm, hfirst, hv⟩ := value.reaches hvalue hcommon.2.1 hafter (members.marked rest)
      (hu.of_gap hbetween)
    obtain ⟨n, w, hn, hrest, hw⟩ := members.reaches false hmembers hcommon.2.2 hv fun h => nomatch h
    refine ⟨_, w, ?_, hcomma.trans (hmark.trans (hfirst.trans hrest)), ?_⟩
    · simp only [List.length_append, List.length_cons, quotedChars]
      omega
    · simp only [List.append_assoc, List.cons_append, List.nil_append] at hw
      exact hw

end

/-! ### Whole texts -/

/-- At the end of a text the tokens are complete. -/
theorem run_of_end (h : s.At depth read []) (fuel : Nat) : s.run (fuel + 1) = ⟨read, none⟩ := by
  have hsolid : Yaml.Solid [] := fun _ hc => nomatch hc
  have hfuel : s.cursor.rest.length < s.cursor.fuel := Nat.lt_succ_of_le h.cursor.1
  obtain ⟨⟨hhas, hcursor, -⟩, -⟩ := h.faces hsolid hfuel
  have hend : (Lexer.skipToToken s.cursor.fuel s).withoutStale.cursor.rest = [] := hcursor
  have hstep : s.step =
      .ok ((Lexer.skipToToken s.cursor.fuel s).withoutStale.setKey none, true) := by
    simp only [Lexer.step, hhas.forgetStale, bind, Except.bind, hhas.withoutStale.unwind, hend,
      hhas.withoutStale.forgetKey]
    rfl
  have htokens : ((Lexer.skipToToken s.cursor.fuel s).withoutStale.setKey none).tokens =
      read.reverse := hhas.tokens
  rw [Lexer.run, hstep]
  simp [htokens]

/-- A document whose text both notations read alike: its characters may occur in both, it is written
as both notations know it, and it is not too deep to be read. -/
structure Document.Shared (document : Document) : Prop where
  allowed : ∀ c ∈ document.chars, Yaml.isAllowed c
  shared : ∀ c ∈ document.chars, isShared c
  common : document.value.Common
  shallow : Yaml.nesting 0 document.value.tokens ≤ Yaml.depthLimit

/-- **The tokens of a JSON text.** An object is divided into the tokens of its spelling. -/
theorem Document.ofText_eq {document : Document} (h : document.Shared) {gap : Gap}
    {members : Members} (hvalue : document.value = .object gap members) :
    Yaml.Tokens.ofText document.chars = ⟨document.value.tokens, none⟩ := by
  have hmark : document.chars.head? ≠ some '\uFEFF' := by
    intro hhead
    obtain ⟨more, hmore⟩ := List.head?_eq_some_iff.mp hhead
    exact document.head_ne more hmore
  have hstart : Lexer.start document.chars =
      ⟨Yaml.Cursor.start document.chars, [], 0, -1, [], true, [none]⟩ := by
    rw [Lexer.start, if_neg hmark]
    rfl
  have hchars : document.chars = document.before.val ++
      '{' :: (gap.val ++ (members.chars true ++ document.after.val)) := by
    rw [Document.chars, hvalue, Spelling.chars, List.cons_append, List.append_assoc]
  have hat : (Lexer.start document.chars).At 0 [] (document.before.val ++
      '{' :: (gap.val ++ (members.chars true ++ document.after.val))) := by
    rw [hstart]
    refine ⟨⟨rfl, rfl, rfl, ?_, rfl, rfl⟩, Yaml.Cursor.Before.of_rest (Nat.le_refl _) hchars⟩
    simp
  have hshared := h.shared
  have hcommon := h.common
  rw [hchars] at hshared
  rw [hvalue] at hcommon
  simp only [List.forall_mem_append, List.forall_mem_cons] at hshared
  obtain ⟨hbefore, -, hgap, hmembers, hafter⟩ := hshared
  obtain ⟨t, hopen, ht, hkey⟩ := (hat.of_gap hbefore).exists_open (.inr ⟨rfl, rfl⟩)
  obtain ⟨n, u, hn, hpasses, hu⟩ :=
    members.reaches true hmembers hcommon (ht.of_gap hgap) fun _ => hkey
  rw [← List.append_nil document.after.val] at hu
  obtain ⟨fuel, hfuel⟩ :
      ∃ fuel, (Lexer.start document.chars).cursor.fuel = fuel + (1 + (1 + n)) := by
    refine Nat.exists_eq_add_of_le' ?_
    have hlength := congrArg List.length hchars
    simp only [List.length_append, List.length_cons] at hlength
    rw [hstart]
    change 1 + (1 + n) ≤ document.chars.length + 1
    omega
  rw [Yaml.Tokens.ofText, if_pos (List.all_eq_true.mpr h.allowed), hfuel, ← Nat.add_assoc,
    hopen.trans hpasses, run_of_end (hu.of_gap hafter), hvalue]
  rfl

end SchemaPages.Json
