import TypedGraphQL.Proofs.Introspection.Accepted
import TypedGraphQL.Proofs.Introspection.Kept

namespace TypedGraphQL

theorem Json.read_text {value : Json} (free : value.NumberFree)
    (shallow : value.depth < depthLimit) : read value.text = .ok value := by
  rw [read, readPrefix_of_isText (isText_text free) shallow]
  rfl

namespace Introspection.Document

theorem read_of_read {text : String} {node : Json}
    (read : Json.read text = .ok node) :
    Document.read text =
      match ofJson? node with
      | some document => .ok document
      | none => .error (.json shapeMismatch) := by
  rw [Json.read] at read
  obtain ⟨⟨value, trailing⟩, parsed, read⟩ := bind_eq_ok_iff.mp read
  cases trailing with
  | some fault => cases read
  | none =>
      obtain rfl : value = node := Except.ok.inj read
      rw [Document.read, parsed]
      cases found : ofJson? value <;> simp [found]

theorem ofJson?_enveloped {entries before after : List (String × Json)}
    (bare : "data" ∉ entries.map Prod.fst)
    (beside : ∀ key ∈ (before ++ after).map Prod.fst,
      key ≠ "data" ∧ key ≠ "__schema") :
    ofJson? (.object (before ++ ("data", .object entries) :: after)) =
      ofJson? (.object entries) := by
  have noData : "data" ∉ (before ++ after).map Prod.fst :=
    fun member => (beside _ member).1 rfl
  have noSchema : "__schema" ∉ (before ++ after).map Prod.fst :=
    fun member => (beside _ member).2 rfl
  rw [List.map_append, List.mem_append, not_or] at noData noSchema
  have data : member? (before ++ ("data", .object entries) :: after) "data" =
      some (some (.object entries)) :=
    member?_of_unique noData.1 noData.2
  have schema : member? (before ++ ("data", .object entries) :: after)
      "__schema" = some none :=
    member?_of_missing (by simpa using noSchema)
  have holder :
      holder? (.object (before ++ ("data", .object entries) :: after)) = none := by
    simp [holder?, members?, schema]
  rw [ofJson?, ofJson?, envelope?, envelope?, data, member?_of_missing bare, holder]
  cases found : holder? (.object entries) <;> simp [found]

theorem schema_eq_of_kept {first second : Json} {document other : Document}
    (firstRead : ofJson? first = some document)
    (secondRead : ofJson? second = some other)
    (same : kept first = kept second) : document.schema = other.schema := by
  have relevant : document.relevant = other.relevant := by
    have read := holder?_kept firstRead
    rw [same, holder?_kept secondRead] at read
    exact (Option.some.inj read).symm
  calc
    document.schema = document.relevant.schema := document.schema_relevant.symm
    _ = other.relevant.schema := by rw [relevant]
    _ = other.schema := other.schema_relevant

end Introspection.Document

open Introspection (Document shapeMismatch)

namespace Schema

theorem parse_of_read {text : String} {node : Json}
    (read : Json.read text = .ok node) :
    parse text =
      match Document.ofJson? node with
      | some document => document.schema
      | none => .error (.json shapeMismatch) := by
  rw [parse, Document.read_of_read read]
  cases Document.ofJson? node <;> rfl

/--
An object without data of its own is parsed as it is when it is the data of a
response that has no schema beside them, whether that succeeds or not.  Two
documents of the right shape are parsed alike if they differ only in what is not
kept: unknown keys, types of the introspection system, names of wrappers,
references inside of named ones and lists that are none of a type's kind.
-/
theorem parse_indifferent :
    (∀ {bare enveloped : String} {entries before after : List (String × Json)},
      Json.read bare = .ok (.object entries) →
        Json.read enveloped =
            .ok (.object (before ++ ("data", .object entries) :: after)) →
          "data" ∉ entries.map Prod.fst →
            (∀ key ∈ (before ++ after).map Prod.fst,
                key ≠ "data" ∧ key ≠ "__schema") →
              parse enveloped = parse bare) ∧
      ∀ {first second : String} {node other : Json},
        Json.read first = .ok node → Json.read second = .ok other →
          (Document.ofJson? node).isSome → (Document.ofJson? other).isSome →
            Document.kept node = Document.kept other →
              parse first = parse second := by
  constructor
  · intro bare enveloped entries before after bareRead envelopedRead noData beside
    rw [parse_of_read bareRead, parse_of_read envelopedRead,
      Document.ofJson?_enveloped noData beside]
  · intro first second node other firstRead secondRead nodeShaped otherShaped same
    obtain ⟨document, found⟩ := Option.isSome_iff_exists.mp nodeShaped
    obtain ⟨otherDocument, otherFound⟩ := Option.isSome_iff_exists.mp otherShaped
    rw [parse_of_read firstRead, parse_of_read secondRead, found, otherFound]
    exact Document.schema_eq_of_kept found otherFound same

end Schema

namespace Introspection

def malformedReference : Json :=
  record ["kind"] [.string "NON_NULL"]

def malformedField : Json :=
  record ["name", "type"] [.string "malformed", malformedReference]

def bareQuery : Json :=
  let result := record ["kind", "name"] [.string "UNION", .string "Result"]
  let type := record ["kind", "ofType"] [.string "LIST", result]
  record ["kind", "name", "fields"]
    [.string "OBJECT", .string "Query",
      .array [record ["name", "type"] [.string "search", type]]]

def crowdedQuery : Json :=
  let result :=
    record ["kind", "name", "ofType"]
      [.string "UNION", .string "Result", malformedReference]
  let type :=
    record ["kind", "name", "ofType"] [.string "LIST", .string "Results", result]
  record ["kind", "name", "fields", "possibleTypes"]
    [.string "OBJECT", .string "Query",
      .array [record ["name", "type"] [.string "search", type]],
      .array [malformedReference]]

def bareResult : Json :=
  record ["kind", "name", "possibleTypes"]
    [.string "UNION", .string "Result",
      .array [record ["kind", "name"] [.string "OBJECT", .string "Query"]]]

def crowdedResult : Json :=
  record ["kind", "name", "fields", "possibleTypes"]
    [.string "UNION", .string "Result", .array [malformedField],
      .array [record ["kind", "name"] [.string "OBJECT", .string "Query"]]]

def malformedMeta : Json :=
  record ["kind", "name", "fields"]
    [.string "OBJECT", .string "__Type", .array [malformedField]]

def bareSearch : List (String × Json) :=
  [("__schema",
    record ["queryType", "types"]
      [record ["name"] [.string "Query"], .array [bareQuery, bareResult]])]

def crowdedSearch : List (String × Json) :=
  [("__schema",
    record ["directives", "queryType", "types"]
      [.array [.null], record ["kind", "name"] [.null, .string "Query"],
        .array [malformedMeta, crowdedQuery, crowdedResult]])]

section Search

attribute [local simp] malformedReference malformedField bareQuery crowdedQuery
  bareResult crowdedResult malformedMeta bareSearch crowdedSearch record

theorem isSome_search :
    (Document.ofJson? (.object bareSearch)).isSome ∧
      (Document.ofJson? (.object crowdedSearch)).isSome := by
  simp [Document.ofJson?, envelope?, holder?, schema?, rootName?, list?,
    fullType?, field?, memberOf?, members?, member?, text?, optionalText?, flag?,
    listOrMissing?, optionalList?, Reference.ofJson?, Reference.ofEntries?,
    Reference.optional?, Kind.ofJson?, Kind.ofName?, Kind.all, Kind.name]

theorem numberFree_search :
    (Json.object bareSearch).NumberFree ∧ (Json.object crowdedSearch).NumberFree := by
  simp [Json.NumberFree, Json.EntriesNumberFree, Json.ItemsNumberFree]

attribute [local simp] keptRecord keptEntry keptItems kindIn? members? member?
  Kind.ofJson? Kind.ofName? Kind.all Kind.name Kind.wraps Kind.lists
  FullType.kept FullType.keptPart FullType.keptItem FullType.keys Field.kept
  Field.keptPart Reference.kept Reference.keptEntries Reference.isAround
  Reference.keys

theorem kept_crowdedQuery : FullType.kept crowdedQuery = FullType.kept bareQuery := by
  simp

theorem kept_crowdedResult :
    FullType.kept crowdedResult = FullType.kept bareResult := by
  simp

end Search

theorem kept_crowdedSearch :
    Document.kept (.object crowdedSearch) = Document.kept (.object bareSearch) := by
  have types : keptTypes (.array [malformedMeta, crowdedQuery, crowdedResult]) =
      keptTypes (.array [bareQuery, bareResult]) := by
    have isMeta : FullType.isMetaRecord malformedMeta = true := by decide
    have own : ∀ type ∈ [bareQuery, crowdedQuery, bareResult, crowdedResult],
        FullType.isMetaRecord type = false := by decide
    simp only [List.forall_mem_cons] at own
    simp [keptTypes, isMeta, own, kept_crowdedQuery, kept_crowdedResult]
  simp [Document.kept, Document.holder, member?, bareSearch, crowdedSearch, record,
    keptHolder, keptSchema, keptSchemaPart, keptRoot, keptRecord, keptEntry, types]

end Introspection

open Introspection

theorem Schema.parse_indifferent_search :
    parse (Json.object [("data", .object bareSearch), ("extensions", .null)]).text =
        parse (Json.object bareSearch).text ∧
      parse (Json.object crowdedSearch).text =
        parse (Json.object bareSearch).text := by
  have bareRead : Json.read (Json.object bareSearch).text =
      .ok (.object bareSearch) :=
    Json.read_text numberFree_search.1 (by decide)
  have envelopedRead :
      Json.read
          (Json.object [("data", .object bareSearch), ("extensions", .null)]).text =
        .ok (.object ([] ++ ("data", .object bareSearch) :: [("extensions", .null)])) :=
    Json.read_text ⟨numberFree_search.1, trivial, trivial⟩ (by decide)
  have crowdedRead : Json.read (Json.object crowdedSearch).text =
      .ok (.object crowdedSearch) :=
    Json.read_text numberFree_search.2 (by decide)
  exact ⟨parse_indifferent.1 bareRead envelopedRead (by decide) (by decide),
    parse_indifferent.2 crowdedRead bareRead isSome_search.2 isSome_search.1
      kept_crowdedSearch⟩

end TypedGraphQL
