namespace TypedGraphQL

inductive ReferenceFault where
  | declaredWrapper (name : String)
  | wrappedMember (baseName : String)
  | nestedNonNull
  | unnamed
  | wrapsNothing (kind : String)
deriving DecidableEq, Repr

def ReferenceFault.message : ReferenceFault → String
  | declaredWrapper name => "`" ++ name ++ "` is declared with a wrapper kind"
  | wrappedMember baseName =>
    "expected a named type, got a wrapper around `" ++ baseName ++ "`"
  | nestedNonNull => "NON_NULL wraps another NON_NULL"
  | unnamed => "named type reference without a name"
  | wrapsNothing kind => kind ++ " without ofType"

inductive SchemaError where
  | json (reason : String)
  | unresolvedType (name : String)
  | duplicateType (name : String)
  | invalidReference (fault : ReferenceFault)
deriving DecidableEq, Repr

def SchemaError.message : SchemaError → String
  | json reason => "invalid introspection JSON: " ++ reason
  | unresolvedType name =>
    "type `" ++ name ++ "` is referenced but never declared"
  | duplicateType name => "type `" ++ name ++ "` is declared more than once"
  | invalidReference fault => "invalid type reference: " ++ fault.message

end TypedGraphQL
