import TypedGraphQL.Response.LeafType

namespace TypedGraphQL

theorem Json.isNull_iff {node : Json} : node.isNull = true ↔ node = .null := by
  cases node <;> simp [isNull]

namespace LeafType

/--
The places of a node with the types that they are read as, through lists and
optional values.  There is nothing below a null.
-/
inductive Reaches : LeafType → Json → LeafType → Json → Prop where
  | here (type : LeafType) (node : Json) : Reaches type node type node
  | value {type part : LeafType} {node place : Json} (present : node ≠ .null)
      (below : Reaches type node part place) :
      Reaches (.option type) node part place
  | item {element part : LeafType} {items : List Json} {item place : Json}
      (member : item ∈ items) (below : Reaches element item part place) :
      Reaches (.list element) (.array items) part place

/-- The type has a list of JSON values that are of no type themselves. -/
def hasUntypedItems : LeafType → Bool
  | list element => decide (element = .json) || element.hasUntypedItems
  | option value => value.hasUntypedItems
  | string | boolean | int _ | float | json | enum _ => false

theorem decode?_option_of_ne_null {node : Json} (present : node ≠ .null)
    (type : LeafType) :
    (option type).decode? node = (type.decode? node).map some := by
  cases node with
  | null => exact absurd rfl present
  | _ => rfl

theorem isSome_of_mapM {α β : Type} {read : α → Option β} {items : List α}
    (all : (items.mapM read).isSome) : ∀ item ∈ items, (read item).isSome := by
  induction items with
  | nil => exact List.forall_mem_nil _
  | cons first rest ih =>
      rw [List.mapM_cons] at all
      cases here : read first with
      | none =>
          rw [here] at all
          cases all
      | some value =>
          rw [List.forall_mem_cons, here]
          refine ⟨rfl, ih ?_⟩
          cases below : rest.mapM read with
          | none =>
              rw [here, below] at all
              cases all
          | some values => rfl

theorem Reaches.null_cases {type part : LeafType} {node place : Json}
    (reached : type.Reaches node part place) (isNull : place = .null)
    (readable : (type.decode? node).isSome) :
    part.nullable = true ∨
      part = .json ∧
        (type = .json ∧ node = .null ∨ type.hasUntypedItems = true) := by
  induction reached with
  | here type node =>
      subst isNull
      cases type with
      | option => exact .inl rfl
      | json => exact .inr ⟨rfl, .inl ⟨rfl, rfl⟩⟩
      | _ => cases readable
  | @value type part node place present below ih =>
      rw [decode?_option_of_ne_null present, Option.isSome_map] at readable
      rcases ih isNull readable with optional | ⟨untyped, ⟨-, absent⟩ | untypedItems⟩
      · exact .inl optional
      · exact absurd absent present
      · exact .inr ⟨untyped, .inr untypedItems⟩
  | @item element part items item place member below ih =>
      have itemReadable := isSome_of_mapM readable item member
      rcases ih isNull itemReadable with
        optional | ⟨untyped, ⟨rfl, -⟩ | untypedItems⟩
      · exact .inl optional
      · exact .inr ⟨untyped, .inr rfl⟩
      · refine .inr ⟨untyped, .inr ?_⟩
        rw [hasUntypedItems, untypedItems, Bool.or_true]

theorem exists_null_of_hasUntypedItems {type : LeafType}
    (untyped : type.hasUntypedItems = true) :
    ∃ items, (type.decode? (.array items)).isSome ∧
      type.Reaches (.array items) .json .null := by
  induction type with
  | list element ih =>
      rw [hasUntypedItems, Bool.or_eq_true, decide_eq_true_eq] at untyped
      rcases untyped with rfl | below
      · exact ⟨[.null], rfl, .item (List.mem_singleton_self _) (.here _ _)⟩
      · obtain ⟨items, readable, reached⟩ := ih below
        refine ⟨[.array items], ?_, .item (List.mem_singleton_self _) reached⟩
        obtain ⟨value, decoded⟩ := Option.isSome_iff_exists.mp readable
        rw [decode?, List.mapM_cons, List.mapM_nil, decoded]
        rfl
  | option value ih =>
      obtain ⟨items, readable, reached⟩ := ih untyped
      refine ⟨items, ?_, .value (by simp) reached⟩
      rwa [decode?_option_of_ne_null (by simp), Option.isSome_map]
  | _ => cases untyped

theorem decode_eq_ok_iff {type : LeafType} {key : String} {node : Json}
    {value : type.Value} :
    type.decode key node = .ok value ↔
      (node = .null → type.nullable = true) ∧ type.decode? node = some value := by
  rw [decode]
  split
  next refused =>
    rw [Bool.and_eq_true, Json.isNull_iff, Bool.not_eq_true'] at refused
    simp [refused]
  next admitted =>
    have optional : node = .null → type.nullable = true := by
      simpa [Json.isNull_iff] using admitted
    cases type.decode? node with
    | none => simp
    | some other => simpa using fun _ => optional

theorem optional_of_reaches_null {type : LeafType} {key : String} {node : Json}
    {value : type.Value} (decoded : type.decode key node = .ok value)
    {part : LeafType} (reached : type.Reaches node part .null) :
    part.nullable = true ∨ part = .json ∧ type.hasUntypedItems = true := by
  rw [decode_eq_ok_iff] at decoded
  have readable : (type.decode? node).isSome := by
    rw [decoded.2]
    rfl
  rcases reached.null_cases rfl readable with
    optional | ⟨untyped, ⟨rfl, absent⟩ | untypedItems⟩
  · exact .inl optional
  · cases decoded.1 absent
  · exact .inr ⟨untyped, untypedItems⟩

/--
Where a decoded leaf is null, its type is optional, or it is an untyped value in
a list.  So a type admits null in its optional places alone exactly if it has no
list of untyped values.
-/
theorem null_only_where_optional_iff (type : LeafType) :
    (∀ key node value, type.decode key node = .ok value →
      ∀ part, type.Reaches node part .null →
        part.nullable = true ∨ part = .json ∧ type.hasUntypedItems = true) ∧
    ((∀ key node value, type.decode key node = .ok value →
      ∀ part, type.Reaches node part .null → part.nullable = true) ↔
        type.hasUntypedItems = false) := by
  refine ⟨fun key node value decoded part => optional_of_reaches_null decoded,
    ?_, ?_⟩
  · intro optionalOnly
    rw [← Bool.not_eq_true]
    intro untyped
    obtain ⟨items, readable, reached⟩ := exists_null_of_hasUntypedItems untyped
    obtain ⟨value, read⟩ := Option.isSome_iff_exists.mp readable
    have decoded : type.decode "" (.array items) = .ok value := by
      rw [decode_eq_ok_iff]
      exact ⟨by simp, read⟩
    cases optionalOnly "" _ value decoded .json reached
  · intro typed key node value decoded part reached
    rcases optional_of_reaches_null decoded reached with optional | ⟨-, untyped⟩
    · exact optional
    · rw [typed] at untyped
      cases untyped

theorem null_only_where_optional_names :
    let type : LeafType := .list (.list (.option .string))
    let node : Json := .array [.array [.string "Luke", .null]]
    type.decode "names" node = .ok [[some "Luke", none]] ∧
      type.Reaches node (.option .string) .null ∧
      LeafType.nullable (.option .string) = true := by
  intro type node
  have decoded : type.decode "names" node = .ok [[some "Luke", none]] := rfl
  have reached : type.Reaches node (.option .string) .null :=
    .item (List.mem_singleton_self _)
      (.item (List.mem_cons_of_mem _ (List.mem_singleton_self _)) (.here _ _))
  exact ⟨decoded, reached,
    (null_only_where_optional_iff type).2.mpr rfl _ _ _ decoded _ reached⟩

/-- A null among untyped values is decoded, though such a value is not optional. -/
theorem untyped_item_may_be_null :
    LeafType.decode (.list .json) "v" (.array [.null]) = .ok [.null] ∧
      LeafType.Reaches (.list .json) (.array [.null]) .json .null ∧
      LeafType.nullable .json = false ∧
      LeafType.decode .json "v" .null = .error (.nullNonNullable "v") :=
  ⟨rfl, .item (List.mem_singleton_self _) (.here _ _), rfl, rfl⟩

end LeafType

end TypedGraphQL
