import Mathlib.Data.List.TakeWhile
import TypedGraphQL.Proofs.Binding.Unbroken

namespace TypedGraphQL

open Syntax (isName isNameContinue)

namespace TypeRef

def present : TypeRef → TypeRef
  | nonNull inner => nonNull inner
  | type => nonNull type

/-- Without repetitions of `nonNull`, which say nothing more. -/
def collapsed : TypeRef → TypeRef
  | named name => named name
  | nonNull inner => inner.collapsed.present
  | list element => list element.collapsed

def mapName (rename : String → String) : TypeRef → TypeRef
  | named name => named (rename name)
  | nonNull inner => nonNull (inner.mapName rename)
  | list element => list (element.mapName rename)

theorem present_present (type : TypeRef) : type.present.present = type.present := by
  cases type <;> rfl

theorem isNonNull_collapsed (type : TypeRef) :
    type.collapsed.isNonNull = type.isNonNull := by
  cases type with
  | named name => rfl
  | nonNull inner =>
      rw [collapsed]
      cases inner.collapsed <;> rfl
  | list element => rfl

end TypeRef

namespace TypeExpr

def ofText? (text : List Char) : Option TypeExpr :=
  let head := text.takeWhile (· != '<')
  let inner := (text.dropWhile (· != '<')).tail
  if '>' ∈ head then none
  else if head = text then some (path (String.ofList text))
  else if inner.getLast? = some '>' then
    (ofText? inner.dropLast).map (generic (String.ofList head))
  else none
termination_by text.length
decreasing_by
  next closed =>
    have inside := List.length_pos_of_mem (List.mem_of_getLast? closed)
    have shorter := (List.dropWhile_sublist (l := text) (· != '<')).length_le
    rw [List.length_tail] at inside
    rw [List.length_dropLast, List.length_tail]
    omega

def lastStep (path : String) : String :=
  String.ofList (path.toList.reverse.takeWhile (· != ':')).reverse

/--
The reference that a type stands for: optional and nullable types admit null and
are not nested, all others do not.
-/
def reference? : TypeExpr → Option TypeRef
  | path text => some (.nonNull (.named text))
  | generic head argument =>
    if lastStep head = "Option" ∨ lastStep head = "Nullable" then
      match argument.reference? with
      | some (.nonNull inner) => some inner
      | _ => none
    else if lastStep head = "Vec" ∨ lastStep head = "List" then
      argument.reference?.map fun element => .nonNull (.list element)
    else none

def read? (text : String) : Option TypeRef :=
  (ofText? text.toList).bind reference?

end TypeExpr

def Unbracketed (text : String) : Prop :=
  '<' ∉ text.toList ∧ '>' ∉ text.toList

instance (text : String) : Decidable (Unbracketed text) :=
  inferInstanceAs (Decidable (_ ∧ _))

namespace TypeExpr

def Plain : TypeExpr → Prop
  | path text => Unbracketed text
  | generic head argument => Unbracketed head ∧ argument.Plain

theorem takeWhile_unbracketed {text : String} (plain : Unbracketed text)
    (rest : List Char) :
    (text.toList ++ '<' :: rest).takeWhile (· != '<') = text.toList ∧
      (text.toList ++ '<' :: rest).dropWhile (· != '<') = '<' :: rest := by
  have inside : ∀ c ∈ text.toList, (c != '<') = true :=
    fun c member => bne_iff_ne.mpr fun opening => plain.1 (opening ▸ member)
  rw [List.takeWhile_append_of_pos inside, List.dropWhile_append_of_pos inside]
  simp

theorem ofText?_path {text : String} (plain : Unbracketed text) :
    ofText? text.toList = some (path text) := by
  have whole : text.toList.takeWhile (· != '<') = text.toList := by
    rw [List.takeWhile_eq_self_iff]
    exact fun c member => bne_iff_ne.mpr fun opening => plain.1 (opening ▸ member)
  rw [ofText?]
  simp [whole, plain.2]

theorem ofText?_generic {head : String} (plain : Unbracketed head)
    (inner : List Char) :
    ofText? (head.toList ++ '<' :: (inner ++ ['>'])) =
      (ofText? inner).map (generic head) := by
  obtain ⟨front, rest⟩ := takeWhile_unbracketed plain (inner ++ ['>'])
  rw [ofText?]
  simp [front, rest, plain.2]

theorem ofText?_text {type : TypeExpr} (plain : type.Plain) :
    ofText? type.text.toList = some type := by
  induction type with
  | path text => exact ofText?_path plain
  | generic head argument ih =>
      have written : (text (generic head argument)).toList =
          head.toList ++ '<' :: (argument.text.toList ++ ['>']) := by
        simp [text]
      rw [written, ofText?_generic plain.1, ih plain.2]
      rfl

end TypeExpr

/-! What is written for a reference -/

namespace TypeRef

section Expr

variable (nullable list : String) (path : String → String)

def presentExpr : TypeRef → TypeExpr
  | named name => .path (path name)
  | nonNull inner => inner.presentExpr
  | .list element =>
    .generic list
      (if element.isNonNull then element.presentExpr
        else .generic nullable element.presentExpr)

def expr (type : TypeRef) : TypeExpr :=
  if type.isNonNull then type.presentExpr nullable list path
  else .generic nullable (type.presentExpr nullable list path)

variable {nullable list path}

theorem plain_presentExpr {type : TypeRef} (plainNullable : Unbracketed nullable)
    (plainList : Unbracketed list) (plainPath : Unbracketed (path type.baseName)) :
    (type.presentExpr nullable list path).Plain := by
  induction type with
  | named name => exact plainPath
  | nonNull inner ih => exact ih plainPath
  | list element ih =>
      rw [presentExpr]
      split
      · exact ⟨plainList, ih plainPath⟩
      · exact ⟨plainList, plainNullable, ih plainPath⟩

theorem plain_expr {type : TypeRef} (plainNullable : Unbracketed nullable)
    (plainList : Unbracketed list) (plainPath : Unbracketed (path type.baseName)) :
    (type.expr nullable list path).Plain := by
  have present := plain_presentExpr plainNullable plainList plainPath
  rw [expr]
  split
  · exact present
  · exact ⟨plainNullable, present⟩

variable (readsNullable :
    TypeExpr.lastStep nullable = "Option" ∨ TypeExpr.lastStep nullable = "Nullable")
  (readsList : TypeExpr.lastStep list = "Vec" ∨ TypeExpr.lastStep list = "List")

include readsNullable

theorem reference?_expr_of_present {type : TypeRef}
    (present : (type.presentExpr nullable list path).reference? =
      some (type.collapsed.present.mapName path)) :
    (type.expr nullable list path).reference? =
      some (type.collapsed.mapName path) := by
  have same := isNonNull_collapsed type
  rw [expr]
  split
  next nonNull =>
    rw [present]
    cases found : type.collapsed <;> simp_all [TypeRef.present, isNonNull]
  next nullable =>
    rw [TypeExpr.reference?, if_pos readsNullable, present]
    cases found : type.collapsed <;> simp_all [TypeRef.present, isNonNull, mapName]

include readsList

theorem reference?_presentExpr (type : TypeRef) :
    (type.presentExpr nullable list path).reference? =
      some (type.collapsed.present.mapName path) := by
  induction type with
  | named name => rfl
  | nonNull inner ih => rw [presentExpr, ih, collapsed, present_present]
  | list element ih =>
      have other : ¬ (TypeExpr.lastStep list = "Option" ∨
          TypeExpr.lastStep list = "Nullable") := by
        rcases readsList with found | found <;> simp [found]
      have inner := reference?_expr_of_present readsNullable ih
      rw [expr] at inner
      rw [presentExpr, TypeExpr.reference?, if_neg other, if_pos readsList, inner]
      rfl

theorem reference?_expr (type : TypeRef) :
    (type.expr nullable list path).reference? =
      some (type.collapsed.mapName path) :=
  reference?_expr_of_present readsNullable
    (reference?_presentExpr readsNullable readsList type)

end Expr

end TypeRef

namespace Generator

variable {generator : Generator}

theorem valueType_eq (type : TypeRef) :
    generator.valueType type = type.expr "Option" "Vec" generator.namedPath ∧
      generator.presentValueType type =
        type.presentExpr "Option" "Vec" generator.namedPath := by
  induction type with
  | named name => exact ⟨rfl, rfl⟩
  | nonNull inner ih => exact ⟨ih.2, ih.2⟩
  | list element ih =>
      have present : generator.presentValueType (.list element) =
          (TypeRef.list element).presentExpr "Option" "Vec" generator.namedPath := by
        rw [presentValueType, ih.1]
        rfl
      exact ⟨congrArg (TypeExpr.generic "Option") present, present⟩

theorem scopeType_eq (type : TypeRef) :
    generator.scopeType type =
        type.expr (generator.runtime ++ "::Nullable") (generator.runtime ++ "::List")
          generator.namedPath ∧
      generator.presentScopeType type =
        type.presentExpr (generator.runtime ++ "::Nullable")
          (generator.runtime ++ "::List") generator.namedPath := by
  induction type with
  | named name => exact ⟨rfl, rfl⟩
  | nonNull inner ih => exact ⟨ih.2, ih.2⟩
  | list element ih =>
      have present : generator.presentScopeType (.list element) =
          (TypeRef.list element).presentExpr (generator.runtime ++ "::Nullable")
            (generator.runtime ++ "::List") generator.namedPath := by
        rw [presentScopeType, ih.1]
        rfl
      exact ⟨congrArg (TypeExpr.generic _) present, present⟩

theorem unbracketed_namedPath {name : String} (named : isName name = true) :
    Unbracketed (generator.namedPath name) :=
  ⟨fun member => absurd (mem_namedPath named member) (by decide),
    fun member => absurd (mem_namedPath named member) (by decide)⟩

theorem read?_valueType {type : TypeRef} (named : isName type.baseName = true) :
    TypeExpr.read? (generator.valueType type).text =
      some (type.collapsed.mapName generator.namedPath) := by
  have plain := TypeRef.plain_expr (by decide : Unbracketed "Option")
    (by decide : Unbracketed "Vec") (@unbracketed_namedPath generator _ named)
  rw [(valueType_eq type).1, TypeExpr.read?, TypeExpr.ofText?_text plain,
    Option.bind_some]
  exact TypeRef.reference?_expr (.inl (by decide)) (.inl (by decide)) type

theorem read?_scopeType {type : TypeRef} (named : isName type.baseName = true)
    (runtime : Unbracketed generator.runtime) :
    TypeExpr.read? (generator.scopeType type).text =
      some (type.collapsed.mapName generator.namedPath) := by
  have plainNullable : Unbracketed (generator.runtime ++ "::Nullable") := by
    simpa [Unbracketed] using runtime
  have plainList : Unbracketed (generator.runtime ++ "::List") := by
    simpa [Unbracketed] using runtime
  have plain := TypeRef.plain_expr plainNullable plainList
    (@unbracketed_namedPath generator _ named)
  rw [(scopeType_eq type).1, TypeExpr.read?, TypeExpr.ofText?_text plain,
    Option.bind_some]
  exact TypeRef.reference?_expr (.inr (by simp [TypeExpr.lastStep]))
    (.inr (by simp [TypeExpr.lastStep])) type

end Generator

end TypedGraphQL
