import SchemaPages.FrontMatter.Block
import SchemaPages.Proofs.Pages.Anchor
import SchemaPages.Proofs.Pairs
import SchemaPages.Proofs.Text.Replace

/-!
# Filling placeholders

The values of the front matter are filled in two passes: first the name of the document is put in
and then its title, in what comes of that. A name that lies inside the placeholder of the title
could complete it, as `tit` does in `{{document}le}`. The names of the documents do not, and for
every such name the two passes are one over the value as it was given (`fill_eq_fillAtOnce`). Keys
are not filled. So the block of a document is the mapping of the keys in the order in which they
come first, each with its last value, in which both placeholders are replaced at once
(`block_eq_filledAtOnce`).
-/

namespace SchemaPages.FrontMatter

open Text (Occurs)

variable {entries : Entries} {document : String}

/-- Whether a name cannot complete a placeholder of the title: it holds no braces and does not lie
in what stands between them. -/
structure LeavesTitle (document : String) : Prop where
  opening : '\x7b' ∉ document.toList
  closing : '\x7d' ∉ document.toList
  part : ¬ Occurs document "title"

/-- A value in which both placeholders are replaced in one pass from left to right. What is put in
is not looked at again. -/
def fillAtOnce (document title value : String) : String :=
  Text.replaceEach [(documentPlaceholder, document), (titlePlaceholder, title)] value

/-- The keys in the order in which they come first, each with its last value, filled in one pass. -/
def filledAtOnce (entries : Entries) (document title : String) : Entries :=
  (entries.map Prod.fst).eraseDups.map fun key =>
    (key, fillAtOnce document title ((entries.reverse.lookup key).getD ""))

/-! ### Values -/

/-- The name of a document does not complete a placeholder of the title, so filling in two passes is
filling in one. -/
theorem fill_eq_fillAtOnce (h : LeavesTitle document) (title value : String) :
    fill document title value = fillAtOnce document title value := by
  have hdocument : documentPlaceholder.toList = '\x7b' :: ("document".toList ++ ['\x7d']) := rfl
  have htitle : titlePlaceholder.toList = '\x7b' :: ("title".toList ++ ['\x7d']) := rfl
  have htwice : Text.replaceTwice documentPlaceholder.toList document.toList
      titlePlaceholder.toList title.toList value.toList =
        Text.replaceEachFrom [(documentPlaceholder.toList, document.toList),
          (titlePlaceholder.toList, title.toList)] 0 value.toList := by
    rw [hdocument, htitle]
    exact Text.replaceTwice_eq (by decide) (by decide) h.opening h.closing h.part value.toList
  rw [fill, Text.replaceAll, Text.replaceAll, String.toList_ofList, fillAtOnce, Text.replaceEach]
  exact congrArg String.ofList htwice

/-! ### Entries -/

theorem lookup_map_fill (fill : String → String) (entries : Entries) (key : String) :
    (entries.map fun (key, value) => (key, fill value)).lookup key =
      (entries.lookup key).map fill := by
  induction entries with
  | nil => rfl
  | cons entry rest ih =>
    obtain ⟨other, value⟩ := entry
    rw [List.map_cons, List.lookup_cons, List.lookup_cons, ih]
    cases key == other <;> rfl

theorem valuesFor_eq_filledAtOnce (h : LeavesTitle document) (entries : Entries) (title : String) :
    valuesFor entries document title = filledAtOnce entries document title := by
  have hkeys : (entries.map fun (key, value) => (key, fill document title value)).map Prod.fst =
      entries.map Prod.fst := by
    rw [List.map_map]
    rfl
  rw [valuesFor, Pairs.ofList_eq _ (fill document title ""), hkeys, filledAtOnce]
  refine List.map_congr_left fun key _ => ?_
  rw [← List.map_reverse, lookup_map_fill, Option.getD_map, fill_eq_fillAtOnce h]

/-- A block that is not empty is a mapping between two lines of dashes, with a blank line behind. -/
theorem block_eq (hentries : entries ≠ []) (document title : String) :
    block entries document title =
      "---\n" ++ Yaml.blockMapping (valuesFor entries document title) ++ "---\n\n" := by
  have hfence : "---\n" ++ "\n" = "---\n\n" := rfl
  rw [block, if_neg (by simpa using hentries), ← hfence, ← String.append_assoc]
  rfl

/-- **Placeholders are filled in one pass.** Take entries, a title, and a name that cannot complete
a placeholder of the title, as none of the names of the documents can. The front matter of a
document with this name is the mapping, between lines of dashes, of the keys as they are given, in
the order in which they come first, each with its last value, in which every placeholder of the name
and of the title is replaced in one pass from left to right. -/
theorem block_eq_filledAtOnce (hentries : entries ≠ []) (hname : LeavesTitle document)
    (title : String) :
    block entries document title =
        "---\n" ++ Yaml.blockMapping (filledAtOnce entries document title) ++ "---\n\n" ∧
      ∀ name ∈ Pages.documentNames, LeavesTitle name := by
  have hall : ∀ name ∈ Pages.documentNames,
      '\x7b' ∉ name.toList ∧ '\x7d' ∉ name.toList ∧ ¬ name.toList <:+: "title".toList := by
    decide
  refine ⟨?_, fun name hmem => ?_⟩
  · rw [block_eq hentries, valuesFor_eq_filledAtOnce hname]
  · obtain ⟨hopening, hclosing, hpart⟩ := hall name hmem
    exact ⟨hopening, hclosing, hpart⟩

/-- Entries with a key that comes twice, a placeholder between braces, and one in a key. -/
def nestedEntries : Entries :=
  [("name", "\x7btitle\x7d"), ("\x7btitle\x7d", "page"),
    ("name", "\x7b\x7bdocument\x7dle\x7d of \x7btitle\x7d")]

/-- In the front matter of the objects, a title that looks like a placeholder stays as it is, and so
do a key and a placeholder that is not closed. -/
theorem block_eq_filledAtOnce_nested :
    nestedEntries ≠ [] ∧ LeavesTitle "objects" ∧
      block nestedEntries "objects" "\x7bdocument\x7d" =
        "---\n" ++ Yaml.blockMapping
          [("name", "\x7bobjectsle\x7d of \x7bdocument\x7d"), ("\x7btitle\x7d", "page")] ++
          "---\n\n" := by
  have hpart : ¬ "objects".toList <:+: "title".toList := by decide
  have hname : LeavesTitle "objects" := ⟨by decide, by decide, hpart⟩
  have hfilled : filledAtOnce nestedEntries "objects" "\x7bdocument\x7d" =
      [("name", "\x7bobjectsle\x7d of \x7bdocument\x7d"), ("\x7btitle\x7d", "page")] := by
    decide +kernel
  refine ⟨by decide, hname, ?_⟩
  rw [← hfilled]
  exact (block_eq_filledAtOnce (by decide) hname _).1

/-- A name that lies inside the placeholder of the title completes it, and then the title is put in.
-/
example : fill "tit" "Home" "\x7b\x7bdocument\x7dle\x7d" = "Home" ∧
    fillAtOnce "tit" "Home" "\x7b\x7bdocument\x7dle\x7d" = "\x7btitle\x7d" := by
  decide +kernel

end SchemaPages.FrontMatter
