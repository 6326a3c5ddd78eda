import SchemaPages.Proofs.Shared.Plain
import SchemaPages.Yaml.Token.Lexer

/-!
# The steps of the lexer on JSON texts

Each step of the lexer reads one token, and what it does depends on the character that the token
starts with. Between brackets and outside of all blocks there are only a few of its states, known up
to what is of no more account (`Lexer.Has`): the tokens so far, the depth of the brackets, and where
the cursor is, up to a gap (`Lexer.At`). For each sort of token a step leads from one such state to
another. A name takes two, since it turns out to be a key at its colon only, and the colon must
stand on the line of the name and not too far from it (`Json.JoinedName`).
-/

namespace SchemaPages.Json

open Yaml (keyLimit)

/-- Whether a colon stands on the line of the name in front of it, and near enough for a key. -/
structure JoinedName (name : List Stroke) (colon : Gap) : Prop where
  line : ∀ c ∈ colon.val, c = ' '
  near : (quotedChars name).length + colon.val.length ≤ keyLimit

end SchemaPages.Json

namespace SchemaPages.Yaml

open Json (Stroke innerChars quotedChars meantText)

namespace Lexer

variable {s t : Lexer} {depth : Nat} {read : List Token} {c : Char} {rest more : List Char}

/-! ### States -/

/-- Whether some tokens have been read, at a depth of brackets outside of all blocks, and no key is
required. -/
structure Has (s : Lexer) (depth : Nat) (read : List Token) : Prop where
  tokens : s.tokens = read.reverse
  count : s.count = read.length
  keys : s.keys.length = depth + 1
  optional : ∀ key ∈ s.keys, ∀ found ∈ key, found.required = false
  indent : s.indent = -1
  outer : s.outer = []

/-- Whether some tokens have been read and the cursor is in front of the rest of the text. -/
structure At (s : Lexer) (depth : Nat) (read : List Token) (rest : List Char) : Prop where
  has : s.Has depth read
  cursor : s.cursor.Before rest

/-- Whether some tokens have been read and the cursor is at the rest of the text. -/
structure Faces (s : Lexer) (depth : Nat) (read : List Token) (rest : List Char) : Prop where
  has : s.Has depth read
  cursor : s.cursor.rest = rest
  size : rest.length ≤ s.cursor.size

theorem Has.push (h : s.Has depth read) (token : Token) :
    (s.push token).Has depth (read ++ [token]) where
  tokens := by rw [Lexer.push, h.tokens, List.reverse_append]; rfl
  count := by rw [Lexer.push, h.count, List.length_append]; rfl
  keys := h.keys
  optional := h.optional
  indent := h.indent
  outer := h.outer

theorem Has.moveTo (h : s.Has depth read) (cursor : Cursor) : (s.moveTo cursor).Has depth read :=
  ⟨h.tokens, h.count, h.keys, h.optional, h.indent, h.outer⟩

theorem Has.allowKey (h : s.Has depth read) (keyAllowed : Bool) :
    (s.allowKey keyAllowed).Has depth read :=
  ⟨h.tokens, h.count, h.keys, h.optional, h.indent, h.outer⟩

theorem Has.setKey (h : s.Has depth read) {key : Option PossibleKey}
    (hkey : ∀ found ∈ key, found.required = false) : (s.setKey key).Has depth read where
  tokens := h.tokens
  count := h.count
  keys := by rw [Lexer.setKey, List.length_cons, List.length_tail, h.keys]; rfl
  optional := List.forall_mem_cons.mpr
    ⟨hkey, fun key hmem => h.optional key (List.mem_of_mem_tail hmem)⟩
  indent := h.indent
  outer := h.outer

theorem Has.inFlow (h : s.Has (depth + 1) read) : s.inFlow = true := by
  simp [Lexer.inFlow, h.keys]

/-- Outside of all blocks there is none to end. -/
theorem Has.unwind (h : s.Has depth read) (column : Int) : s.unwind column = s := by
  rw [Lexer.unwind, h.outer, closeBlocks]
  split
  · rfl
  · rw [← h.outer]

theorem Has.forgetKey (h : s.Has depth read) : s.forgetKey = .ok (s.setKey none) := by
  have hkey : s.currentKey.any (·.required) = false := by
    rw [Option.any_eq_false]
    intro found hfound
    rw [currentKey, Option.join_eq_some_iff, List.head?_eq_some_iff] at hfound
    obtain ⟨tail, hkeys⟩ := hfound
    simpa using h.optional (some found) (by rw [hkeys]; exact List.mem_cons_self) found rfl
  rw [Lexer.forgetKey, hkey]
  rfl

/-- Inside of brackets a key may stand anywhere. -/
theorem Has.saveKey (h : s.Has (depth + 1) read) (hallowed : s.keyAllowed = true) :
    s.saveKey = .ok (s.setKey
      (some ⟨read.length, false, s.cursor.index, s.cursor.line, s.cursor.column⟩)) := by
  rw [Lexer.saveKey, if_pos hallowed, h.forgetKey, h.inFlow, ← h.count]
  rfl

theorem Has.exists_saveKey (h : s.Has depth read) :
    ∃ t, s.saveKey = .ok t ∧ t.Has depth read ∧ t.cursor = s.cursor := by
  rw [Lexer.saveKey]
  split
  · rw [h.forgetKey]
    refine ⟨_, rfl, (h.setKey (by simp)).setKey ?_, rfl⟩
    rintro _ ⟨⟩
    simp [h.indent]
  · exact ⟨s, rfl, h, rfl⟩

/-- The state without the possible keys whose colon can no longer follow. -/
def withoutStale (s : Lexer) : Lexer :=
  { s with keys := s.keys.map (·.filter fun key => !s.isStale key) }

theorem Has.withoutStale (h : s.Has depth read) : s.withoutStale.Has depth read where
  tokens := h.tokens
  count := h.count
  keys := by rw [Lexer.withoutStale, List.length_map, h.keys]
  optional := by
    intro key hkey found hfound
    obtain ⟨old, hold, rfl⟩ := List.mem_map.mp hkey
    exact h.optional old hold found (Option.mem_filter_iff.mp hfound).1
  indent := h.indent
  outer := h.outer

theorem Has.forgetStale (h : s.Has depth read) : s.forgetStale = .ok s.withoutStale := by
  have hnone : s.keys.any (·.any fun key => s.isStale key && key.required) = false := by
    rw [List.any_eq_false]
    intro key hkey
    rw [Bool.not_eq_true, Option.any_eq_false]
    intro found hfound
    rw [h.optional key hkey found hfound]
    simp
  rw [Lexer.forgetStale, hnone]
  rfl

/-! ### Steps -/

/-- Passing a gap changes nothing else, and leads up to the next token. -/
theorem At.faces (h : s.At depth read rest) (hsolid : Solid rest) {fuel : Nat}
    (hfuel : s.cursor.rest.length < fuel) :
    (skipToToken fuel s).Faces depth read rest ∧
      (s.keyAllowed = true → (skipToToken fuel s).keyAllowed = true) := by
  induction fuel generalizing s with
  | zero => exact absurd hfuel (Nat.not_lt_zero _)
  | succ fuel ih =>
    obtain ⟨hskip, hpeek⟩ := h.cursor.skip hsolid
    have hlength : (s.cursor.skip (· = ' ')).rest.length ≤ s.cursor.rest.length := by
      rw [Cursor.rest_skip]
      exact List.length_dropWhile_le _ _
    rw [skipToToken]
    simp only [if_neg (hskip.peek_ne hsolid)]
    rcases hskip.lineBreak? hsolid hpeek with ⟨hrest, hnone⟩ | ⟨d, line, hbreak, hline, -, hless⟩
    · simp only [hnone]
      exact ⟨⟨h.has.moveTo _, hrest, hrest ▸ hskip.1⟩, id⟩
    · simp only [hbreak]
      have hline : ((s.moveTo line).allowKey (s.keyAllowed || !s.inFlow)).At depth read rest :=
        ⟨(h.has.moveTo _).allowKey _, hline⟩
      obtain ⟨hfaces, hkeys⟩ := ih hline (by change line.rest.length < fuel; omega)
      refine ⟨hfaces, fun hallowed => hkeys ?_⟩
      change (s.keyAllowed || !s.inFlow) = true
      rw [hallowed]
      rfl

/-- Whether the lexer comes from one state to another in a number of steps. -/
def Passes (n : Nat) (s t : Lexer) : Prop :=
  ∀ fuel, s.run (fuel + n) = t.run fuel

theorem Passes.trans {u : Lexer} {m n : Nat} (h : Passes m s t) (hnext : Passes n t u) :
    Passes (m + n) s u := by
  intro fuel
  rw [Nat.add_comm m n, ← Nat.add_assoc, h, hnext]

theorem passes_of_step (h : s.step = .ok (t, false)) : Passes 1 s t := by
  intro fuel
  rw [run, h]
  rfl

/-- The state in which the next token is read. -/
def ready (s : Lexer) : Lexer :=
  (skipToToken s.cursor.fuel s).withoutStale

theorem At.ready (h : s.At depth read rest) (hsolid : Solid rest) :
    s.ready.Faces depth read rest ∧ (s.keyAllowed = true → s.ready.keyAllowed = true) := by
  have hfuel : s.cursor.rest.length < s.cursor.fuel := Nat.lt_succ_of_le h.cursor.1
  obtain ⟨⟨hhas, hcursor, hsize⟩, hkeys⟩ := h.faces hsolid hfuel
  exact ⟨⟨hhas.withoutStale, hcursor, hsize⟩, hkeys⟩

/-- A step reads the token that the rest of the text starts with. -/
theorem At.passes (h : s.At depth read (c :: more)) (hsolid : Solid (c :: more))
    (htoken : s.ready.token c more = .ok t) : Passes 1 s t := by
  have hfuel : s.cursor.rest.length < s.cursor.fuel := Nat.lt_succ_of_le h.cursor.1
  obtain ⟨⟨hhas, hcursor, -⟩, -⟩ := h.faces hsolid hfuel
  have hmore : s.ready.cursor.rest = c :: more := hcursor
  rw [Lexer.ready] at htoken hmore
  refine passes_of_step ?_
  simp only [step, hhas.forgetStale, bind, Except.bind, hhas.withoutStale.unwind, hmore, htoken]
  rfl

/-! ### Marks -/

/-- A mark is no document boundary. -/
theorem Faces.atBoundary (h : s.Faces depth read (c :: more)) (mark : Char) (hc : c ≠ mark) :
    s.cursor.atBoundary mark = false := by
  rw [Cursor.atBoundary, h.cursor]
  split
  · next heq =>
    obtain ⟨rfl, -⟩ := List.cons.inj heq
    simp [hc]
  · rfl

/-- Passing the mark that the rest of the text starts with. -/
theorem Faces.mark (h : s.Faces depth read (c :: more)) {after : List Token} {next : Nat}
    (ht : t.Has next after) (hcursor : t.cursor = s.cursor) (token : Token) :
    (t.mark token).At next (after ++ [token]) more := by
  refine ⟨(ht.push token).moveTo _, Cursor.Before.of_rest ?_ ?_⟩
  · change t.cursor.next.rest.length ≤ t.cursor.next.size
    have := h.size
    rw [hcursor, Cursor.rest_next, Cursor.size_next, h.cursor, List.tail_cons]
    exact Nat.le_of_succ_le this
  · change t.cursor.next.rest = more
    rw [hcursor, Cursor.rest_next, h.cursor, List.tail_cons]

/-- A bracket opens a level. -/
theorem Faces.openFlow (h : s.Faces depth read (c :: more)) (token : Token) :
    ∃ t, s.openFlow token = .ok t ∧ t.At (depth + 1) (read ++ [token]) more ∧
      t.keyAllowed = true := by
  obtain ⟨t, hsave, ht, hcursor⟩ := h.has.exists_saveKey
  have hnested : ({ t with keys := none :: t.keys }.allowKey true).Has (depth + 1) read :=
    ⟨ht.tokens, ht.count, congrArg Nat.succ ht.keys,
      List.forall_mem_cons.mpr ⟨by simp, ht.optional⟩, ht.indent, ht.outer⟩
  refine ⟨_, ?_, h.mark hnested hcursor token, rfl⟩
  rw [Lexer.openFlow, hsave]
  rfl

/-- A bracket closes a level. -/
theorem Faces.closeFlow (h : s.Faces (depth + 1) read (c :: more)) (token : Token) :
    ∃ t, s.closeFlow token = .ok t ∧ t.At depth (read ++ [token]) more := by
  have hkey : (s.setKey none).Has (depth + 1) read := h.has.setKey (by simp)
  have houter : ({ s.setKey none with keys := (s.setKey none).keys.tail }.allowKey false).Has
      depth read := by
    refine ⟨hkey.tokens, hkey.count, ?_, ?_, hkey.indent, hkey.outer⟩
    · change (s.setKey none).keys.tail.length = depth + 1
      rw [List.length_tail, hkey.keys]
      rfl
    · exact fun key hmem => hkey.optional key (List.mem_of_mem_tail hmem)
  refine ⟨_, ?_, h.mark houter rfl token⟩
  rw [Lexer.closeFlow, h.has.forgetKey]
  simp only [bind, Except.bind, hkey.inFlow]
  rfl

/-- A comma begins another entry. -/
theorem Faces.comma (h : s.Faces depth read (c :: more)) :
    ∃ t, (do return (← (s.allowKey true).forgetKey).mark .flowEntry : Except Fault Lexer) = .ok t ∧
      t.At depth (read ++ [.flowEntry]) more ∧ t.keyAllowed = true := by
  have hhas : ((s.allowKey true).setKey none).Has depth read :=
    (h.has.allowKey true).setKey (by simp)
  refine ⟨_, ?_, h.mark hhas rfl .flowEntry, rfl⟩
  rw [(h.has.allowKey true).forgetKey]
  rfl

theorem At.exists_open (h : s.At depth read (c :: rest)) {token : Token}
    (hmark : c = '[' ∧ token = .flowSequenceStart ∨ c = '{' ∧ token = .flowMappingStart) :
    ∃ t, Passes 1 s t ∧ t.At (depth + 1) (read ++ [token]) rest ∧ t.keyAllowed = true := by
  have hsolid : Solid (c :: rest) := by
    rintro _ ⟨⟩
    rcases hmark with ⟨rfl, -⟩ | ⟨rfl, -⟩ <;> decide
  have hready := (h.ready hsolid).1
  obtain ⟨t, hopen, ht⟩ := hready.openFlow token
  refine ⟨t, h.passes hsolid ?_, ht⟩
  rcases hmark with ⟨rfl, rfl⟩ | ⟨rfl, rfl⟩ <;>
    simp [Lexer.token, hready.atBoundary '-' (by decide), hready.atBoundary '.' (by decide), hopen]

theorem At.exists_close (h : s.At (depth + 1) read (c :: rest)) {token : Token}
    (hmark : c = ']' ∧ token = .flowSequenceEnd ∨ c = '}' ∧ token = .flowMappingEnd) :
    ∃ t, Passes 1 s t ∧ t.At depth (read ++ [token]) rest := by
  have hsolid : Solid (c :: rest) := by
    rintro _ ⟨⟩
    rcases hmark with ⟨rfl, -⟩ | ⟨rfl, -⟩ <;> decide
  have hready := (h.ready hsolid).1
  obtain ⟨t, hclose, ht⟩ := hready.closeFlow token
  refine ⟨t, h.passes hsolid ?_, ht⟩
  rcases hmark with ⟨rfl, rfl⟩ | ⟨rfl, rfl⟩ <;>
    simp [Lexer.token, hready.atBoundary '-' (by decide), hready.atBoundary '.' (by decide), hclose]

theorem At.exists_comma (h : s.At depth read (',' :: rest)) :
    ∃ t, Passes 1 s t ∧ t.At depth (read ++ [.flowEntry]) rest ∧ t.keyAllowed = true := by
  have hsolid : Solid (',' :: rest) := by
    rintro _ ⟨⟩
    decide
  have hready := (h.ready hsolid).1
  obtain ⟨t, hcomma, ht⟩ := hready.comma
  refine ⟨t, h.passes hsolid ?_, ht⟩
  simp [Lexer.token, hready.atBoundary '-' (by decide), hready.atBoundary '.' (by decide)]
  exact hcomma

/-! ### Scalars -/

theorem Faces.quoted {strokes : List Stroke} (hshared : ∀ d ∈ innerChars strokes, isShared d)
    (hwhole : Json.Whole strokes) (h : s.Faces depth read (quotedChars strokes ++ rest)) :
    Quoted.scalar s.cursor = .ok (.scalar (meantText strokes) false,
      s.cursor.advance (quotedChars strokes).length) := by
  have hlength : (quotedChars strokes).length = (innerChars strokes).length + 2 := by
    simp [quotedChars]
  have hpeek : s.cursor.peek = some '"' := by
    rw [Cursor.peek, h.cursor]
    rfl
  have hinner : s.cursor.next.rest = innerChars strokes ++ '"' :: rest := by
    rw [Cursor.rest_next, h.cursor, quotedChars, List.cons_append, List.tail_cons,
      List.append_assoc]
    rfl
  have hfuel : (innerChars strokes).length < s.cursor.fuel := by
    have := h.size
    rw [List.length_append, hlength] at this
    rw [Cursor.fuel]
    omega
  rw [Quoted.scalar, if_pos hpeek, Quoted.doubleCodes_inner strokes hshared hinner hfuel, hlength,
    hwhole.meantText_eq]
  rfl

/-- The text between quotes that the rest of the text starts with. -/
theorem Faces.token_quoted {strokes : List Stroke}
    (h : s.Faces depth read (quotedChars strokes ++ rest)) :
    s.token '"' (innerChars strokes ++ ['"'] ++ rest) = s.content Quoted.scalar := by
  simp [Lexer.token, h.atBoundary '-' (by decide), h.atBoundary '.' (by decide)]

theorem content_eq (reader : Cursor → Lexing Token) {token : Token} {after : Cursor}
    (hsave : s.saveKey = .ok t) (hread : reader t.cursor = .ok (token, after)) :
    s.content reader = .ok (((t.allowKey false).push token).moveTo after) := by
  simp only [content, hsave, bind, Except.bind, hread]
  rfl

/-- Passing a text that the rest of the text starts with. -/
theorem Faces.advance {text : List Char} (h : s.Faces depth read (text ++ rest))
    {after : List Token} (ht : t.Has depth after)
    (hcursor : t.cursor = s.cursor.advance text.length) : t.At depth after rest := by
  have hrest : t.cursor.rest = rest := by
    rw [hcursor]
    exact Cursor.rest_advance_append h.cursor
  refine ⟨ht, Cursor.Before.of_rest ?_ hrest⟩
  have := h.size
  rw [List.length_append] at this
  rw [hrest, hcursor, Cursor.size_advance]
  omega

theorem At.exists_text {strokes : List Stroke} (hshared : ∀ d ∈ innerChars strokes, isShared d)
    (hwhole : Json.Whole strokes) (h : s.At depth read (quotedChars strokes ++ rest)) :
    ∃ t, Passes 1 s t ∧ t.At depth (read ++ [.scalar (meantText strokes) false]) rest := by
  have hsolid : Solid (quotedChars strokes ++ rest) := by
    rintro _ ⟨⟩
    decide
  have hready := (h.ready hsolid).1
  obtain ⟨t, hsave, ht, hcursor⟩ := hready.has.exists_saveKey
  have hcontent := content_eq Quoted.scalar hsave (hcursor ▸ hready.quoted hshared hwhole)
  exact ⟨_, h.passes hsolid (hready.token_quoted.trans hcontent),
    hready.advance (((ht.allowKey false).push _).moveTo _) (congrArg (Cursor.advance · _) hcursor)⟩

/-- The spaces behind a name do not end its line. -/
theorem skipToToken_spaces {spaces : List Char} (hspaces : ∀ d ∈ spaces, d = ' ')
    (hcursor : s.cursor.rest = spaces ++ rest) (hsolid : Solid rest) (fuel : Nat) :
    skipToToken (fuel + 1) s = s.moveTo (s.cursor.advance spaces.length) := by
  have hafter : (s.cursor.advance spaces.length).rest = rest := Cursor.rest_advance_append hcursor
  have hhead : ∀ d ∈ rest.head?, d ≠ ' ' := by
    rintro _ hd rfl
    exact absurd (hsolid ' ' hd).1 (by decide)
  have htake : s.cursor.rest.takeWhile (· = ' ') = spaces := by
    rw [hcursor, List.takeWhile_append_of_pos (by simpa using hspaces)]
    cases rest with
    | nil => simp
    | cons d more =>
      rw [List.takeWhile_cons_of_neg (by simpa using hhead d rfl), List.append_nil]
  have hpeek : (s.cursor.advance spaces.length).peek ≠ some '#' := by
    rw [Cursor.peek, hafter]
    exact fun heq => (hsolid '#' heq).2 rfl
  have hbreak : (s.cursor.advance spaces.length).lineBreak? = none := by
    refine Cursor.lineBreak?_eq_none fun d hd => ?_
    have hd := (hsolid d (hafter ▸ hd)).1
    rw [isGapOrBreak, Bool.or_eq_false_iff] at hd
    exact hd.2
  rw [skipToToken, Cursor.skip, htake]
  simp only [if_neg hpeek, hbreak]

/-- A key is marked in front of the token that turns out to be one. -/
theorem Has.insertKey {token : Token} (h : s.Has depth (read ++ [token])) :
    (s.insertAt read.length .key).Has depth (read ++ [.key, token]) := by
  have hlater : s.count - read.length = 1 := by
    rw [h.count, List.length_append, Nat.add_sub_cancel_left]
    rfl
  refine ⟨?_, ?_, h.keys, h.optional, h.indent, h.outer⟩
  · rw [insertAt, hlater, h.tokens]
    simp
  · rw [insertAt, h.count]
    simp

/-- A colon in time makes a key of the name in front of it. -/
theorem At.exists_colon {token : Token} {colon : List Char} {key : PossibleKey}
    (h : s.At (depth + 1) (read ++ [token]) (colon ++ ':' :: rest))
    (hcolon : ∀ d ∈ colon, d = ' ') (hcursor : s.cursor.rest = colon ++ ':' :: rest)
    (hkey : s.currentKey = some key) (hplace : key.place = read.length)
    (hline : s.cursor.line = key.line)
    (hnear : s.cursor.index + colon.length - key.index ≤ keyLimit) :
    ∃ t, Passes 1 s t ∧ t.At (depth + 1) (read ++ [.key, token, .value]) rest := by
  have hsolid : Solid (':' :: rest) := by
    rintro _ ⟨⟩
    decide
  have hgap : ∀ d ∈ colon, isSharedGap d := by
    intro d hd
    rw [hcolon d hd]
    rfl
  have hbefore : s.At (depth + 1) (read ++ [token]) (':' :: rest) := ⟨h.has, h.cursor.of_gap hgap⟩
  have hready := (hbefore.ready hsolid).1
  have hspaces : skipToToken s.cursor.fuel s = s.moveTo (s.cursor.advance colon.length) :=
    skipToToken_spaces hcolon hcursor hsolid s.cursor.size
  have hbreaks : ∀ d ∈ colon, isBreak d = false := by
    intro d hd
    rw [hcolon d hd]
    rfl
  obtain ⟨hsameLine, hindex⟩ := Cursor.line_advance hcursor hbreaks
  have hfresh : (s.moveTo (s.cursor.advance colon.length)).isStale key = false := by
    simp [isStale, moveTo, hsameLine, hline, hindex, hnear]
  have hcurrent : s.ready.currentKey = some key := by
    rw [currentKey, Option.join_eq_some_iff, List.head?_eq_some_iff] at hkey
    obtain ⟨tail, hkeys⟩ := hkey
    rw [Lexer.ready, hspaces, withoutStale, currentKey]
    change (List.map _ s.keys).head?.join = some key
    rw [hkeys, List.map_cons, List.head?_cons, Option.join_some, Option.filter_some_pos]
    rw [hfresh]
    rfl
  have hhas : ((s.ready.setKey none).insertAt key.place .key).Has (depth + 1)
      (read ++ [.key, token]) := by
    rw [hplace]
    exact (hready.has.setKey (by simp)).insertKey
  refine ⟨(((s.ready.setKey none).insertAt key.place .key).allowKey false).mark .value,
    hbefore.passes hsolid ?_, ?_⟩
  · have hmark : s.ready.token ':' rest = s.ready.valueMark := by
      simp [Lexer.token, hready.atBoundary '-' (by decide), hready.atBoundary '.' (by decide),
        hready.has.inFlow]
    rw [hmark, valueMark, hcurrent]
    simp only [hhas.inFlow]
    rfl
  · have hmarked := hready.mark (hhas.allowKey false) rfl .value
    rwa [List.append_assoc] at hmarked

/-- A name with its colon is a key. -/
theorem At.exists_name {name : List Stroke} {colon : Json.Gap}
    (hshared : ∀ d ∈ innerChars name, isShared d) (hwhole : Json.Whole name)
    (hjoined : Json.JoinedName name colon)
    (h : s.At (depth + 1) read (quotedChars name ++ (colon.val ++ ':' :: rest)))
    (hallowed : s.keyAllowed = true) :
    ∃ t, Passes 2 s t ∧
      t.At (depth + 1) (read ++ [.key, .scalar (meantText name) false, .value]) rest := by
  have hsolid : Solid (quotedChars name ++ (colon.val ++ ':' :: rest)) := by
    rintro _ ⟨⟩
    decide
  obtain ⟨hready, hkeys⟩ := h.ready hsolid
  have hsave := hready.has.saveKey (hkeys hallowed)
  have hquoted := hready.quoted hshared hwhole
  have hcontent := content_eq Quoted.scalar hsave hquoted
  -- the name is a scalar with a possible key in front of it
  set named := (((s.ready.setKey (some ⟨read.length, false, s.ready.cursor.index,
    s.ready.cursor.line, s.ready.cursor.column⟩)).allowKey false).push
      (.scalar (meantText name) false)).moveTo
        (s.ready.cursor.advance (quotedChars name).length) with hnamed
  have hfirst : Passes 1 s named := h.passes hsolid (hready.token_quoted.trans hcontent)
  have hat : named.At (depth + 1) (read ++ [.scalar (meantText name) false])
      (colon.val ++ ':' :: rest) :=
    hready.advance ((((hready.has.setKey (by simp)).allowKey false).push _).moveTo _) rfl
  have hname : ∀ d ∈ quotedChars name, isBreak d = false := by
    refine List.forall_mem_cons.mpr ⟨rfl, List.forall_mem_append.mpr ⟨fun d hd => ?_, ?_⟩⟩
    · exact Quoted.isBreak_eq_false hd (hshared d hd)
    · exact List.forall_mem_singleton.mpr rfl
  obtain ⟨hline, hindex⟩ := Cursor.line_advance hready.cursor hname
  obtain ⟨t, hcolon, ht⟩ := hat.exists_colon hjoined.line
    (Cursor.rest_advance_append hready.cursor) rfl rfl hline (by
      have := hjoined.near
      change (s.ready.cursor.advance (quotedChars name).length).index + colon.val.length -
        s.ready.cursor.index ≤ keyLimit
      rw [hindex]
      omega)
  exact ⟨t, hfirst.trans hcolon, ht⟩

/-- A word or a number begins a plain scalar. -/
theorem Faces.token_plain (h : s.Faces (depth + 1) read (c :: more)) (hc : Json.startsPlain c)
    (hminus : c = '-' → ∃ d tail, more = d :: tail ∧ isGapOrBreak d = false ∧ d ≠ '-') :
    s.token c more = s.plain := by
  have hne : ∀ d, Json.startsPlain d = false → c ≠ d := by
    rintro d hd rfl
    exact absurd (hd.symm.trans hc) Bool.false_ne_true
  have hdash : s.cursor.atBoundary '-' = false := by
    by_cases hsign : c = '-'
    · obtain ⟨d, tail, rfl, -, hd⟩ := hminus hsign
      rw [Cursor.atBoundary, h.cursor]
      split
      · next heq =>
        obtain ⟨rfl, rfl, -⟩ := by simpa using heq
        simp [hd]
      · rfl
    · exact h.atBoundary '-' hsign
  have halone : (c = '-' && startsOrEnds isGapOrBreak more) = false := by
    by_cases hsign : c = '-'
    · obtain ⟨d, tail, rfl, hgap, -⟩ := hminus hsign
      simp [startsOrEnds, hgap]
    · simp [hsign]
  have hstarts : startsPlain s.inFlow c more = true := by
    by_cases hsign : c = '-'
    · have hmore : startsOrEnds isGapOrBreak more = false := by simpa [hsign] using halone
      simp [startsPlain, hsign, hmore]
    · have hmarks : "-?:,[]\x7b\x7d#&*!|>'\"%@`".toList.all
          fun d => d = '-' || !Json.startsPlain d := by decide
      have hmark : "-?:,[]\x7b\x7d#&*!|>'\"%@`".toList.contains c = false := by
        rw [Bool.eq_false_iff, ne_eq, List.contains_iff_mem]
        intro hmem
        have hstop : Json.startsPlain c = false := by
          simpa [hsign] using List.all_eq_true.mp hmarks c hmem
        exact hne c hstop rfl
      have hgap : isGapOrBreak c = false := by
        simp [isGapOrBreak, isBreak, hne ' ' rfl, hne '\t' rfl, hne '\n' rfl, hne '\r' rfl,
          hne '\x85' rfl, hne '\u2028' rfl, hne '\u2029' rfl]
      rw [startsPlain, hmark, hgap]
      rfl
  simp [Lexer.token, hdash, h.atBoundary '.' (hne '.' rfl), halone, hstarts, hne '%' rfl,
    hne '[' rfl, hne '{' rfl, hne ']' rfl, hne '}' rfl, hne ',' rfl, hne '?' rfl, hne ':' rfl,
    hne '*' rfl, hne '&' rfl, hne '!' rfl, hne '|' rfl, hne '>' rfl, hne '\'' rfl, hne '"' rfl]

theorem At.exists_plain {value : Json.Plain} {gap : List Char} (hgap : ∀ d ∈ gap, isSharedGap d)
    (hmarked : Plain.Marked rest) (h : s.At (depth + 1) read (value.chars ++ (gap ++ rest))) :
    ∃ t, Passes 1 s t ∧
      t.At (depth + 1) (read ++ [.scalar (String.ofList value.chars) true]) rest := by
  obtain ⟨c, tail, hchars, hc⟩ := value.exists_head
  have hlexeme : ∀ d ∈ value.chars, Plain.isLexemeChar d := value.isLexemeChar
  have hsolid : Solid (value.chars ++ (gap ++ rest)) := by
    rw [hchars]
    rintro _ ⟨⟩
    have hfirst : Plain.isLexemeChar c := hlexeme c (hchars ▸ List.mem_cons_self)
    exact ⟨Plain.isGapOrBreak_of_isLexemeChar hfirst, Plain.ne_of_isLexemeChar hfirst rfl⟩
  have hready := (h.ready hsolid).1
  obtain ⟨t, hsave, ht, hcursor⟩ := hready.has.exists_saveKey
  obtain ⟨lineEnded, after, hwords, hafter, -⟩ := Plain.exists_words hlexeme hgap hmarked
    hready.cursor (hready.cursor ▸ hready.size) (t.indent + 1).toNat s.ready.cursor.size
  refine ⟨((t.allowKey lineEnded).push (.scalar (String.ofList value.chars) true)).moveTo after,
    ?_, ((ht.allowKey lineEnded).push _).moveTo after, hafter⟩
  have htoken : s.ready.token c (tail ++ (gap ++ rest)) = s.ready.plain := by
    rw [hchars] at hready
    refine hready.token_plain hc fun hsign => ?_
    obtain ⟨d, more, rfl, hd, hdash⟩ := Json.Plain.exists_of_minus (hsign ▸ hchars)
    exact ⟨d, _, rfl, Plain.isGapOrBreak_of_isLexemeChar hd, hdash⟩
  have hplain : s.ready.plain = .ok (((t.allowKey lineEnded).push
      (.scalar (String.ofList value.chars) true)).moveTo after) := by
    simp only [plain, hsave, bind, Except.bind, ht.inFlow, Plain.scalar, hcursor]
    rw [Cursor.fuel, hwords]
    rfl
  rw [hchars] at h hsolid
  exact h.passes hsolid (htoken.trans hplain)

/-! ### Values -/

/-- A gap may be passed later. -/
theorem At.of_gap {gap : Json.Gap} (hshared : ∀ d ∈ gap.val, isShared d)
    (h : s.At depth read (gap.val ++ rest)) : s.At depth read rest := by
  refine ⟨h.has, h.cursor.of_gap fun d hd => ?_⟩
  exact isSharedGap_of_isSpace (gap.property d hd) (hshared d hd)

/-- Whether the lexer comes to have read some tokens, up to the rest of the text, in at most as many
steps as a text has characters. -/
def Reaches (s : Lexer) (text : List Char) (depth : Nat) (read : List Token) (rest : List Char) :
    Prop :=
  ∃ n t, n ≤ text.length ∧ Passes n s t ∧ t.At depth read rest

end Lexer

end SchemaPages.Yaml
