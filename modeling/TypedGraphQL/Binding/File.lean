import TypedGraphQL.Binding.Enum
import TypedGraphQL.Binding.Input
import TypedGraphQL.Binding.Marker
import TypedGraphQL.Text.Lines

namespace TypedGraphQL.Generator

def accessorBlock (generator : Generator) (typeName : String) (place : Section)
    (fields : List Field) (possibleTypes : List String) : Block :=
  ⟨.fields,
    (generator.accessorTrait typeName place fields possibleTypes).code
      generator.runtime⟩

def typeBlocks (generator : Generator) (type : NamedType) : List Block :=
  match type.body with
  | .scalar =>
    ((generator.scalarAlias? type.name type.description).map
      (Block.mk .scalars)).toList
  | .enum values =>
    [⟨.enums, generator.enumDeclaration type.name type.description values⟩,
     ⟨.enums, generator.enumImplementation type.name values⟩]
  | .object fields _ =>
    [⟨.objects, generator.marker type.name type.description⟩,
     generator.accessorBlock type.name .objects fields []]
  | .interface fields possibleTypes =>
    [⟨.interfaces,
       generator.interfaceMarker type.name type.description possibleTypes⟩,
     generator.accessorBlock type.name .interfaces fields possibleTypes]
  | .union possibleTypes =>
    [⟨.unions, generator.unionMarker type.name type.description possibleTypes⟩,
     generator.accessorBlock type.name .unions [] possibleTypes]
  | .inputObject fields =>
    [⟨.inputs, generator.inputObject type.name type.description fields⟩]

/-- A root that is not an object type has no code. -/
def operationBlock? (generator : Generator) (kind : String)
    (root : Option String) : Option Block := do
  let name ← root
  if generator.schema.kindOf? name = some .object then
    let runtime := generator.runtime
    some ⟨.operations, Text.joinLines
      ["impl " ++ runtime ++ "::Operation for " ++ generator.namedPath name ++ " \x7b",
       "    const KIND: " ++ runtime ++ "::OperationKind = "
         ++ runtime ++ "::OperationKind::" ++ kind ++ ";",
       "\x7d"]⟩
  else none

def operationBlocks (generator : Generator) : List Block :=
  let roots := generator.schema.roots
  [generator.operationBlock? "Query" roots.query,
   generator.operationBlock? "Mutation" roots.mutation,
   generator.operationBlock? "Subscription" roots.subscription].filterMap id

def blocks (generator : Generator) : List Block :=
  generator.schema.types.flatMap generator.typeBlocks ++ generator.operationBlocks

def header : String := "// Code generated by gqlbind. DO NOT EDIT."

def sectionImports (generator : Generator) : Section → List String
  | .enums => ["use " ++ generator.runtime ++ "::serde::\x7bDeserialize, Serialize\x7d;"]
  | _ => []

def sectionCodes (blocks : List Block) (place : Section) : List String :=
  (blocks.filter (·.place == place)).map (·.code)

/-- A section as a module, or nothing if it has no block. -/
def sectionText (generator : Generator) (blocks : List Block) (place : Section) :
    String :=
  let codes := sectionCodes blocks place
  if codes.isEmpty then ""
  else
    "\npub mod " ++ place.moduleName ++ " \x7b\n"
      ++ Text.indent margin
        (Text.joinParagraphs (generator.sectionImports place ++ codes))
      ++ "\n\x7d\n"

def file (generator : Generator) : String :=
  let blocks := generator.blocks
  header ++ "\n"
    ++ String.join (Section.all.map (generator.sectionText blocks))

end TypedGraphQL.Generator
