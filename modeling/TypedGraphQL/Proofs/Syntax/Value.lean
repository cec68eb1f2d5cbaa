import TypedGraphQL.Proofs.Syntax.Tree

namespace TypedGraphQL

namespace Syntax

def scalar? : Token → Option Literal
  | .name text =>
    some (if text = "null" then .null
      else if text = "true" then .boolean true
      else if text = "false" then .boolean false
      else .enum text)
  | .int value => some (.int value)
  | .float value => some (.float value)
  | .string text => some (.string text)
  | _ => none

mutual
def Tree.literal? : Tree → Option Literal
  | .token token => scalar? token
  | .group .square trees => (items? trees).map .list
  | .group .curly trees => (fields? trees).map .object
  | .group .round _ => none

def items? : List Tree → Option (List Literal)
  | [] => some []
  | tree :: rest => do return (← tree.literal?) :: (← items? rest)

def fields? : List Tree → Option (List (String × Literal))
  | [] => some []
  | .token (.name name) :: .token (.punctuator ':') :: tree :: rest => do
    return (name, ← tree.literal?) :: (← fields? rest)
  | _ => none
end

end Syntax

namespace Literal

open Syntax

mutual
/-- The value that its text stands for. -/
def asWritten : Literal → Literal
  | null => null
  | boolean value => boolean value
  | int value => int value
  | float value => if value.isFinite then float value else null
  | string value => string value
  | enum name => enum name
  | list items => list (itemsAsWritten items)
  | object fields => object (fieldsAsWritten fields)

def itemsAsWritten : List Literal → List Literal
  | [] => []
  | item :: rest => item.asWritten :: itemsAsWritten rest

def fieldsAsWritten : List (String × Literal) → List (String × Literal)
  | [] => []
  | (name, value) :: rest => (name, value.asWritten) :: fieldsAsWritten rest
end

mutual
def tree : Literal → Tree
  | null => .token (.name "null")
  | boolean true => .token (.name "true")
  | boolean false => .token (.name "false")
  | int value => .token (.int value)
  | float value =>
    if value.isFinite then .token (.float value) else .token (.name "null")
  | string value => .token (.string value)
  | enum name => .token (.name name)
  | list items => .group .square (itemTrees items)
  | object fields => .group .curly (fieldTrees fields)

def itemTrees : List Literal → List Tree
  | [] => []
  | item :: rest => item.tree :: itemTrees rest

def fieldTrees : List (String × Literal) → List Tree
  | [] => []
  | (name, value) :: rest =>
    .token (.name name) :: .token (.punctuator ':') :: value.tree ::
      fieldTrees rest
end

mutual
/--
Enum values and the names of fields are names, and the text of every number is
a literal for that number.
-/
def Writable : Literal → Prop
  | null => True
  | boolean _ => True
  | int _ => True
  | float value =>
    value.isFinite = true →
      number? value.text.toList = some (.float value, [])
  | string _ => True
  | enum name => isName name = true ∧ name ∉ ["null", "true", "false"]
  | list items => ItemsWritable items
  | object fields => FieldsWritable fields

def ItemsWritable : List Literal → Prop
  | [] => True
  | item :: rest => item.Writable ∧ ItemsWritable rest

def FieldsWritable : List (String × Literal) → Prop
  | [] => True
  | (name, value) :: rest =>
    isName name = true ∧ value.Writable ∧ FieldsWritable rest
end

end Literal

namespace Syntax

/-! Lists of texts -/

inductive ReadsAll : List String → List Tree → Prop where
  | nil : ReadsAll [] []
  | cons {text : String} {texts : List String} {first rest : List Tree}
      (reads : ReadsAs text.toList first) (readsRest : ReadsAll texts rest) :
      ReadsAll (text :: texts) (first ++ rest)

def Separates (separator : String) : Prop :=
  ∀ text trees, ReadsAs text trees →
    ReadsAs (separator.toList ++ text) trees ∧
      Apart (separator.toList ++ text)

theorem separates_blank : Separates " " :=
  fun _ _ reads => ⟨reads.blank, .cons (by decide)⟩

theorem separates_comma : Separates ", " :=
  fun _ _ reads => ⟨reads.blank.comma, .cons (by decide)⟩

theorem ReadsAll.intercalate {separator : String}
    (separates : Separates separator) {texts : List String}
    {trees : List Tree} (reads : ReadsAll texts trees) :
    ReadsAs (separator.intercalate texts).toList trees := by
  induction reads with
  | nil => exact .nil
  | cons first readsRest ih =>
      cases readsRest with
      | nil => simpa using first
      | cons second others =>
          obtain ⟨separated, apart⟩ := separates _ _ ih
          rw [String.intercalate_cons_cons, String.toList_append,
            String.toList_append, List.append_assoc]
          exact first.append separated apart

theorem readsAsTree_name {text : String} (named : isName text = true) :
    ReadsAsTree text.toList (.token (.name text)) :=
  .token (fun _ => token?_name named) fun _ => rfl

theorem readsAs_colon : ReadsAs [':'] [.token (.punctuator ':')] :=
  ReadsAsTree.readsAs (.token (fun _ _ => rfl) fun _ => rfl)

theorem scalar?_name {text : String}
    (notConstant : text ∉ ["null", "true", "false"]) :
    scalar? (.name text) = some (.enum text) := by
  simp only [List.mem_cons, List.not_mem_nil, or_false, not_or] at notConstant
  obtain ⟨notNull, notTrue, notFalse⟩ := notConstant
  rw [scalar?, if_neg notNull, if_neg notTrue, if_neg notFalse]

end Syntax

namespace Literal

open Syntax

mutual
theorem readsAsTree_text :
    ∀ value : Literal, value.Writable →
      ReadsAsTree value.text.toList value.tree
  | null, _ => readsAsTree_name (by decide)
  | boolean true, _ => readsAsTree_name (by decide)
  | boolean false, _ => readsAsTree_name (by decide)
  | int value, _ => .token (fun _ => token?_int value) fun _ => rfl
  | float value, writable => by
      rw [text, tree]
      split
      next finite =>
        exact .token (fun _ => token?_number (writable finite)) fun _ => rfl
      next => exact readsAsTree_name (by decide)
  | string value, _ => .token (fun _ => token?_quote value) fun _ => rfl
  | enum name, writable => readsAsTree_name writable.1
  | list items, writable => by
      have reads := ReadsAsTree.group .square
        ((readsAll_itemTexts items writable).intercalate separates_comma)
      rw [text, tree, String.toList_append, String.toList_append]
      exact reads
  | object fields, writable => by
      have reads := ReadsAsTree.group .curly
        ((readsAll_fieldTexts fields writable).intercalate separates_comma)
      rw [text, tree, String.toList_append, String.toList_append]
      exact reads

theorem readsAll_itemTexts :
    ∀ items : List Literal, ItemsWritable items →
      ReadsAll (itemTexts items) (itemTrees items)
  | [], _ => .nil
  | item :: rest, writable =>
      .cons (readsAsTree_text item writable.1).readsAs
        (readsAll_itemTexts rest writable.2)

theorem readsAll_fieldTexts :
    ∀ fields : List (String × Literal), FieldsWritable fields →
      ReadsAll (fieldTexts fields) (fieldTrees fields)
  | [], _ => .nil
  | (name, value) :: rest, writable => by
      have named := (readsAsTree_name writable.1).readsAs
      have valued := (readsAsTree_text value writable.2.1).readsAs.blank
      have field := named.append
        (readsAs_colon.append valued (.cons (by decide))) (.cons (by decide))
      rw [fieldTexts, fieldTrees]
      refine @ReadsAll.cons _ _ [_, _, _] _ ?_
        (readsAll_fieldTexts rest writable.2.2)
      rw [String.toList_append, String.toList_append, List.append_assoc]
      exact field
end

mutual
/-- The tree of a written value is that value. -/
theorem literal?_tree :
    ∀ value : Literal, value.Writable →
      value.tree.literal? = some value.asWritten
  | null, _ => rfl
  | boolean true, _ => rfl
  | boolean false, _ => rfl
  | int _, _ => rfl
  | float value, _ => by
      rw [tree, asWritten]
      split <;> rfl
  | string _, _ => rfl
  | enum name, writable => scalar?_name writable.2
  | list items, writable => by
      rw [tree, Tree.literal?, items?_itemTrees items writable]
      rfl
  | object fields, writable => by
      rw [tree, Tree.literal?, fields?_fieldTrees fields writable]
      rfl

theorem items?_itemTrees :
    ∀ items : List Literal, ItemsWritable items →
      items? (itemTrees items) = some (itemsAsWritten items)
  | [], _ => rfl
  | item :: rest, writable => by
      rw [itemTrees, items?, literal?_tree item writable.1,
        items?_itemTrees rest writable.2]
      rfl

theorem fields?_fieldTrees :
    ∀ fields : List (String × Literal), FieldsWritable fields →
      fields? (fieldTrees fields) = some (fieldsAsWritten fields)
  | [], _ => rfl
  | (name, value) :: rest, writable => by
      rw [fieldTrees, fields?, literal?_tree value writable.2.1,
        fields?_fieldTrees rest writable.2.2]
      rfl
end

end Literal

end TypedGraphQL
