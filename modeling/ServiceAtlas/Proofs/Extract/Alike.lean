import ServiceAtlas.Extract.Walk

/-!
# Nodes that no document tells apart

Two nodes are alike when they are of one kind and lead every key and every item to nodes that are
alike again, down to setters that do the same. A walk is the same against both.
-/
namespace ServiceAtlas.TemplateNode

inductive Alike : TemplateNode → TemplateNode → Prop
  | refl (node : TemplateNode) : Alike node node
  | leaf {setter setter' : Setter} (h : ∀ value, setter.apply value = setter'.apply value) :
    Alike (.leaf setter) (.leaf setter')
  | array {element element' : Option TemplateNode} (h : Option.Rel Alike element element') :
    Alike (.array element) (.array element')
  | map {children children' : List (String × TemplateNode)}
    (hmatch : ∀ key, Option.Rel Alike (match? children key) (match? children' key))
    (harray : Option.Rel Alike (children.lookup arrayKey) (children'.lookup arrayKey)) :
    Alike (.map children) (.map children')

theorem Alike.refl_option : (node : Option TemplateNode) → Option.Rel Alike node node
  | none => .none
  | some node => .some (.refl node)

namespace Alike

variable {node node' : TemplateNode}

theorem kind_eq (h : Alike node node') : node.kind = node'.kind := by
  cases h <;> rfl

/-- The items of an array go to nodes that are alike. -/
theorem arrayElement? (h : Alike node node') :
    Option.Rel (Option.Rel Alike) node.arrayElement? node'.arrayElement? := by
  cases h with
  | refl =>
    cases node.arrayElement? with
    | none => exact .none
    | some element => exact .some (refl_option element)
  | leaf h => exact .none
  | array h => exact .some h
  | @map children children' hmatch harray =>
    rw [TemplateNode.arrayElement?, TemplateNode.arrayElement?]
    generalize children.lookup arrayKey = found at harray
    generalize children'.lookup arrayKey = found' at harray
    cases harray with
    | none => exact .none
    | @some element element' h =>
      cases h with
      | refl =>
        cases element with
        | map children => exact .some (.some (.refl _))
        | array element => exact .some (refl_option element)
        | leaf setter => exact .some (.some (.refl _))
      | leaf h => exact .some (.some (.leaf h))
      | array h => exact .some h
      | map hmatch harray => exact .some (.some (.map hmatch harray))

/-- A node can be replaced in its place among the children. -/
theorem lookup_replaced (h : Alike node node') (before : List (String × TemplateNode)) (key : String)
    (after : List (String × TemplateNode)) (other : String) :
    Option.Rel Alike ((before ++ (key, node) :: after).lookup other)
      ((before ++ (key, node') :: after).lookup other) := by
  simp only [List.lookup_append, List.lookup_cons]
  cases before.lookup other with
  | some child => exact .some (.refl child)
  | none =>
    cases other == key with
    | true => exact .some h
    | false => exact refl_option _

/-- Levels with children that are alike lead every key to nodes that are alike. -/
theorem match? {children children' : List (String × TemplateNode)}
    (h : ∀ key, Option.Rel Alike (children.lookup key) (children'.lookup key)) (key : String) :
    Option.Rel Alike (TemplateNode.match? children key) (TemplateNode.match? children' key) := by
  have hkey := h key
  rw [TemplateNode.match?, TemplateNode.match?]
  generalize children.lookup key = found at hkey
  generalize children'.lookup key = found' at hkey
  cases hkey with
  | none => exact h wildcard
  | some hnode => exact .some hnode

end Alike

-- The induction is on the document, together with its entries and its items.
mutual

/-- A value that meets nodes that are alike does the same at both. -/
theorem dispatch_eq_of_alike {node node' : TemplateNode} (h : Alike node node') (key : String) :
    (value : Document) → dispatch key node value = dispatch key node' value
  | .map entries => by
    cases h with
    | refl => rfl
    | leaf h => rfl
    | array h => rfl
    | map hmatch harray =>
      rw [dispatch, dispatch]
      exact walk_eq_of_alike hmatch entries
  | .array items => by
    have hitems {element element' : TemplateNode} (h : Alike element element') :=
      walkItems_eq_of_alike h key 0 items
    have helement := h.arrayElement?
    rw [dispatch, dispatch, unsupported, unsupported, h.kind_eq]
    generalize node.arrayElement? = element at helement
    generalize node'.arrayElement? = element' at helement
    cases helement with
    | none => rfl
    | some h =>
      cases h with
      | none => rfl
      | some h => exact hitems h
  | .scalar scalar => by
    cases h with
    | refl => rfl
    | leaf h => exact h scalar.text
    | array h => rfl
    | map hmatch harray => rfl
  | .null => by rw [dispatch, dispatch, unsupported, unsupported, h.kind_eq]

theorem walk_eq_of_alike {children children' : List (String × TemplateNode)}
    (h : ∀ key, Option.Rel Alike (match? children key) (match? children' key)) :
    (entries : List (String × Document)) → walk children entries = walk children' entries
  | [] => rfl
  | (key, value) :: entries => by
    have hvalue {node node' : TemplateNode} (h : Alike node node') :=
      dispatch_eq_of_alike h key value
    have hkey := h key
    rw [walk, walk, walk_eq_of_alike h entries]
    generalize match? children key = found at hkey
    generalize match? children' key = found' at hkey
    cases hkey with
    | none => rfl
    | some h => exact congrArg (· >>= _) (hvalue h)

theorem walkItems_eq_of_alike {element element' : TemplateNode} (h : Alike element element')
    (key : String) (index : Nat) :
    (items : List Document) → walkItems key element index items = walkItems key element' index items
  | [] => rfl
  | item :: items => by
    rw [walkItems, walkItems, dispatch_eq_of_alike h (itemKey key index) item,
      walkItems_eq_of_alike h key (index + 1) items]

end

end ServiceAtlas.TemplateNode

namespace ServiceAtlas.Template

/-- Templates with roots that are alike do the same with every document. -/
theorem extractInto_eq_of_alike {t t' : Template}
    (h : TemplateNode.Alike (.map t.root) (.map t'.root)) (document : Document) :
    t.extractInto document = t'.extractInto document := by
  cases document with
  | map entries =>
    have hroot := TemplateNode.dispatch_eq_of_alike h "" (.map entries)
    rwa [TemplateNode.dispatch, TemplateNode.dispatch] at hroot
  | array items => rfl
  | scalar scalar => rfl
  | null => rfl

end ServiceAtlas.Template
