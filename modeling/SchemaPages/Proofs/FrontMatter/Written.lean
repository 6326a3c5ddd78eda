import SchemaPages.FrontMatter.Basic
import SchemaPages.Proofs.Text.Lines
import SchemaPages.Proofs.Text.Trim

/-!
# Definitions that are joined and written

A definition that is joined from two has the entries of the first one and then those of the second
one, or it is malformed where the first of them is (`parse_append`). Every entry of a definition is
plain: it has a key, neither its key nor its value is marked off by blanks, and it holds no
character that would end it (`plain_of_parse`). Plain entries can be written: what they are written
as is a definition that has exactly these entries (`parse_written`). The induction there is on the
entries, and each step joins the definition of one entry with that of the rest.
-/

namespace SchemaPages.FrontMatter

open Text (isBlank splitAtChar trimChars Trimmed)

variable {entries : Entries} {entry : String × String} {segment : List Char}
  {segments : List (List Char)}

/-- Whether an entry has a key, no blanks around its key and its value, no colon in its key, and no
semicolon. -/
structure Plain (entry : String × String) : Prop where
  key_ne_empty : entry.1 ≠ ""
  key : Trimmed entry.1.toList
  colon_not_mem_key : ':' ∉ entry.1.toList
  semicolon_not_mem_key : ';' ∉ entry.1.toList
  value : Trimmed entry.2.toList
  semicolon_not_mem_value : ';' ∉ entry.2.toList

/-- The definition of an entry. -/
def writtenEntry (entry : String × String) : String :=
  entry.1 ++ ":" ++ entry.2

/-- The definition of entries, with semicolons between them. -/
def written (entries : Entries) : String :=
  ";".intercalate (entries.map writtenEntry)

/-! ### Definitions that are joined -/

/-- The entries of the first definition and then those of the second one, or the error of the first
one that is malformed. -/
def joined : Except Malformed Entries → Except Malformed Entries → Except Malformed Entries
  | .ok first, .ok second => .ok (first ++ second)
  | .ok _, .error error => .error error
  | .error error, _ => .error error

theorem ofSegments_append (segments others : List (List Char)) :
    ofSegments (segments ++ others) = joined (ofSegments segments) (ofSegments others) := by
  induction segments with
  | nil =>
    rw [List.nil_append, ofSegments]
    cases ofSegments others <;> rfl
  | cons segment rest ih =>
    rw [List.cons_append, ofSegments, ofSegments, ih]
    split
    · rfl
    · cases entry? segment with
      | none => rfl
      | some entry => cases ofSegments rest <;> cases ofSegments others <;> rfl

theorem parse_append (first second : String) :
    parse (first ++ ";" ++ second) = joined (parse first) (parse second) := by
  have hlist : (first ++ ";" ++ second).toList = first.toList ++ ';' :: second.toList := by simp
  rw [parse, hlist, Text.splitAtChar_append, ofSegments_append]
  rfl

/-! ### Entries that are read -/

theorem plain_of_segment (h : entry? segment = some entry) (hmark : ';' ∉ segment) :
    Plain entry := by
  unfold entry? at h
  split at h
  · cases h
  next key value hcut =>
    obtain ⟨rfl, hcolon⟩ := Text.eq_append_of_cutFirst hcut
    obtain ⟨hkey, hvalue⟩ := not_or.mp (mt List.mem_append.mpr hmark)
    split at h
    · cases h
    next hne =>
      cases h
      exact {
        key_ne_empty := fun hempty => hne (by simpa using hempty)
        key := by simpa using Text.trimmed_trimChars key
        colon_not_mem_key := by simpa using mt Text.mem_of_mem_trimChars hcolon
        semicolon_not_mem_key := by simpa using mt Text.mem_of_mem_trimChars hkey
        value := by simpa using Text.trimmed_trimChars value
        semicolon_not_mem_value := by
          simpa using mt Text.mem_of_mem_trimChars (mt (List.mem_cons_of_mem ':') hvalue) }

theorem plain_of_ofSegments (h : ofSegments segments = .ok entries)
    (hmark : ∀ segment ∈ segments, ';' ∉ segment) : ∀ entry ∈ entries, Plain entry := by
  induction segments generalizing entries with
  | nil =>
    cases h
    exact fun _ hnone => absurd hnone List.not_mem_nil
  | cons segment rest ih =>
    obtain ⟨hsegment, hrest⟩ := List.forall_mem_cons.mp hmark
    rw [ofSegments] at h
    split at h
    · exact ih h hrest
    · split at h
      · cases h
      next first hfirst =>
        cases hothers : ofSegments rest with
        | error error => simp [hothers, Functor.map, Except.map] at h
        | ok others =>
          rw [hothers] at h
          cases h
          exact List.forall_mem_cons.mpr ⟨plain_of_segment hfirst hsegment, ih hothers hrest⟩

/-- The entries of a definition are plain. -/
theorem plain_of_parse {text : String} (h : parse text = .ok entries) :
    ∀ entry ∈ entries, Plain entry :=
  plain_of_ofSegments h fun _ => Text.not_mem_of_mem_splitAtChar

/-! ### Entries that are written -/

/-- The definition of a plain entry is cut into its key and its value again. -/
theorem entry?_writtenEntry (h : Plain entry) :
    entry? (writtenEntry entry).toList = some entry := by
  have hlist : (writtenEntry entry).toList = entry.1.toList ++ ':' :: entry.2.toList := by
    simp [writtenEntry]
  unfold entry?
  rw [hlist, Text.cutFirst_append_cons h.colon_not_mem_key]
  simp only [Text.trimChars_of_trimmed h.key, Text.trimChars_of_trimmed h.value]
  split
  · next hempty => exact absurd (String.toList_eq_nil_iff.mp hempty) h.key_ne_empty
  · simp

theorem parse_writtenEntry (h : Plain entry) : parse (writtenEntry entry) = .ok [entry] := by
  have hmark : ';' ∉ (writtenEntry entry).toList := by
    simp [writtenEntry, h.semicolon_not_mem_key, h.semicolon_not_mem_value]
  have hblank : ¬ (writtenEntry entry).toList.all isBlank := fun hall =>
    absurd (List.all_eq_true.mp hall ':' (by simp [writtenEntry])) (by decide)
  rw [parse, Text.splitAtChar_of_not_mem hmark, ofSegments, if_neg hblank, entry?_writtenEntry h]
  rfl

/-- Plain entries are read back from what they are written as. -/
theorem parse_written (h : ∀ entry ∈ entries, Plain entry) :
    parse (written entries) = .ok entries := by
  induction entries with
  | nil => rfl
  | cons entry rest ih =>
    obtain ⟨hentry, hrest⟩ := List.forall_mem_cons.mp h
    rcases rest with _ | ⟨second, others⟩
    · rw [written, List.map_singleton, String.intercalate_singleton, parse_writtenEntry hentry]
    · have hwritten : written (entry :: second :: others) =
          writtenEntry entry ++ ";" ++ written (second :: others) := by
        rw [written, List.map_cons, List.map_cons, String.intercalate_cons_cons]
        rfl
      rw [hwritten, parse_append, parse_writtenEntry hentry, ih hrest]
      rfl

/-- **Definitions join and can be written.** A definition that is joined from two has the entries of
both in their order, or else the error of the first one that is malformed. The entries that a
definition can have are exactly the lists of plain entries, and these are read back from what they
are written as. -/
theorem parse_joins_and_undoes_writing :
    (∀ first second : String,
      parse (first ++ ";" ++ second) =
        match parse first, parse second with
        | .ok entries, .ok others => .ok (entries ++ others)
        | .ok _, .error error => .error error
        | .error error, _ => .error error) ∧
      (∀ (text : String) (entries : Entries), parse text = .ok entries →
        ∀ entry ∈ entries, Plain entry) ∧
      ∀ entries : Entries, (∀ entry ∈ entries, Plain entry) →
        parse (";".intercalate (entries.map fun entry => entry.1 ++ ":" ++ entry.2)) =
          .ok entries := by
  refine ⟨fun first second => ?_, fun text entries => plain_of_parse,
    fun entries => parse_written⟩
  rw [parse_append]
  cases parse first <;> cases parse second <;> rfl

/-- An entry whose value holds colons, and one without a value. -/
def linkEntries : Entries :=
  [("link", "http://a:1/"), ("draft", "")]

/-- What such entries are written as is read back; a definition without a colon behind it is where
the whole is malformed, and blanks around the parts of a definition are no part of its entries. -/
theorem parse_joins_and_undoes_writing_link :
    (∀ entry ∈ linkEntries, Plain entry) ∧
      parse "link:http://a:1/;draft:" = .ok linkEntries ∧
      parse "link:http://a:1/;draft:;title" = .error ⟨"title"⟩ ∧
      ∃ entries, parse " link : http://a:1/ ;; draft:" = .ok entries ∧
        ∀ entry ∈ entries, Plain entry := by
  have hplain : ∀ entry ∈ linkEntries, Plain entry := by
    rw [linkEntries, List.forall_mem_cons, List.forall_mem_singleton]
    exact ⟨⟨by decide, by decide, by decide, by decide, by decide, by decide⟩,
      ⟨by decide, by decide, by decide, by decide, by decide, by decide⟩⟩
  obtain ⟨hjoins, hreads, hwrites⟩ := parse_joins_and_undoes_writing
  have hlinks : parse "link:http://a:1/;draft:" = .ok linkEntries := hwrites linkEntries hplain
  have hblanks : parse " link : http://a:1/ ;; draft:" = .ok linkEntries := by decide +kernel
  refine ⟨hplain, hlinks, ?_, linkEntries, hblanks, hreads _ _ hblanks⟩
  have hwhole := hjoins "link:http://a:1/;draft:" "title"
  rw [hlinks] at hwhole
  exact hwhole

end SchemaPages.FrontMatter
