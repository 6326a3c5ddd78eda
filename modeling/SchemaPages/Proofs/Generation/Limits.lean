import SchemaPages.Proofs.Generation.Pause
import SchemaPages.Proofs.Settings.Breakdown

/-!
# What a host has room for

What is read here may be of any size and depth, a path may hold any character, and a pause is noted
down however long it is. A host has its limits: a reader that calls itself for what lies inside has
room for some depth only, an integer has a greatest number of digits, no path holds NUL, half of a
pair cannot be written, and no clock waits for a time that is no number. `Modest` says of a request
that its run stays far from all of them, so that a host can do as it is asked. Since the limits are
not modelled, no proof needs these bounds; they say for which requests a result about breakdowns is
one about real hosts.
-/

namespace SchemaPages

namespace Json

/-- How many arrays and objects lie in each other at most, of those that characters open and of
`depth` ones around them. The flag tells whether the characters start between quotes. -/
def nesting : Bool → Nat → List Char → Nat
  | _, depth, [] => depth
  | true, depth, '\\' :: _ :: rest => nesting true depth rest
  | true, depth, c :: rest => nesting (c != '"') depth rest
  | false, depth, c :: rest =>
    if c = '[' ∨ c = '{' then nesting false (depth + 1) rest
    else if c = ']' ∨ c = '}' then max depth (nesting false (depth - 1) rest)
    else nesting (c = '"') depth rest

/-- A text that is not too deep to be read, that has no integer with too many digits, and in which
no half of a pair stands alone. The replacement character stands for a half. -/
structure Modest (text : String) : Prop where
  shallow : nesting false 0 text.toList ≤ Yaml.depthLimit
  short : ∀ digits, digits <:+: text.toList → digits.all Char.isDigit →
    digits.length ≤ Number.digitLimit
  whole : ∀ opening codes rest, '"' :: opening <:+ text.toList →
    readCodes ('"' :: opening) opening = .ok (codes, rest) → '\uFFFD' ∉ charsOfCodes codes

end Json

namespace Generation

open Host (Reply State)

/-- The longest pause that counts as one that a host can make, about thirty years. -/
def longestWait : Float := 1e9

/-- A request for which a host has room, and whose messages do not break the client: the paths that
are given and configured have names that a file can have, and what is read is modest. -/
structure Modest (request : Request) (before : State) : Prop where
  replies : ∀ fault, Reply.broken fault ∉ before.replies
  given : ∀ text, some text ∈ [request.jsonPath, request.schemaPath, request.outDir] →
    '\x00' ∉ text.toList
  configuration : ∀ text, request.configPath = some text → Settings.Modest before text
  planned : ∀ plan after, (readPlan request).exec before = (.ok plan, after) →
    ∀ path, some path ∈ [plan.source.jsonPath, plan.output.outDir] → '\x00' ∉ path.text.toList
  answer : ∀ plan planned text after, (readPlan request).exec before = (.ok plan, planned) →
    (Introspection.readText plan.source).exec planned = (.ok text, after) → Json.Modest text
  pauses : ∀ seconds ∈ request.pauses before before.replies,
    IsWait seconds ∧ seconds ≤ longestWait

end Generation

end SchemaPages
