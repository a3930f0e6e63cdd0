import ServiceAtlas.Proofs.Extract.Plan

/-!
# Pruned documents

A document is pruned of what a template does not map: the entries of its maps whose keys no child
matches, whatever lies below them, and the items of the arrays for which there is no element. A walk
plans the same visits for a document and for what is left of it, so that nothing of a walk can show
what the pruned parts were.
-/
namespace ServiceAtlas

namespace TemplateNode

mutual

/-- What a node maps of a value. Values that do not fit the node are kept. -/
def prune (node : TemplateNode) : Document → Document
  | .map entries =>
    match node with
    | .map children => .map (pruneEntries children entries)
    | _ => .map entries
  | .array items =>
    match node.arrayElement? with
    | some (some element) => .array (pruneItems element items)
    | some none => .array []
    | none => .array items
  | .scalar scalar => .scalar scalar
  | .null => .null

def pruneEntries (children : List (String × TemplateNode)) :
    List (String × Document) → List (String × Document)
  | [] => []
  | (key, value) :: entries =>
    match match? children key with
    | some node => (key, prune node value) :: pruneEntries children entries
    | none => pruneEntries children entries

def pruneItems (element : TemplateNode) : List Document → List Document
  | [] => []
  | item :: items => prune element item :: pruneItems element items

end

-- The induction is on the document, together with its entries and its items.
mutual

theorem visits_prune (key : String) (node : TemplateNode) :
    (value : Document) → visits key node (prune node value) = visits key node value
  | .map entries => by
    cases node with
    | map children =>
      rw [prune, visits, visits]
      exact visitsOfEntries_pruneEntries children entries
    | array element => rw [prune]; simp
    | leaf setter => rw [prune]; simp
  | .array items => by
    have hitems (element : TemplateNode) := visitsOfItems_pruneItems key element 0 items
    rw [prune]
    cases hn : node.arrayElement? with
    | none => rfl
    | some element =>
      cases element with
      | none => rw [visits_array, visits_array, hn]
      | some element =>
        rw [visits_array, visits_array, hn]
        exact hitems element
  | .scalar scalar => by rw [prune]
  | .null => by rw [prune]

theorem visitsOfEntries_pruneEntries (children : List (String × TemplateNode)) :
    (entries : List (String × Document)) →
      visitsOfEntries children (pruneEntries children entries) = visitsOfEntries children entries
  | [] => by rw [pruneEntries]
  | (key, value) :: entries => by
    have hvalue (node : TemplateNode) := visits_prune key node value
    have hentries := visitsOfEntries_pruneEntries children entries
    rw [pruneEntries, visitsOfEntries_cons]
    cases hn : match? children key with
    | none => exact hentries
    | some node =>
      rw [visitsOfEntries_cons, hn, hentries]
      exact congrArg (· ++ _) (hvalue node)

theorem visitsOfItems_pruneItems (key : String) (element : TemplateNode) (index : Nat) :
    (items : List Document) →
      visitsOfItems key element index (pruneItems element items) =
        visitsOfItems key element index items
  | [] => by rw [pruneItems]
  | item :: items => by
    rw [pruneItems, visitsOfItems, visitsOfItems, visits_prune,
      visitsOfItems_pruneItems key element (index + 1) items]

end

end TemplateNode

namespace Template

/-- What a template maps of a document. -/
def prune (t : Template) : Document → Document
  | .map entries => .map (TemplateNode.pruneEntries t.root entries)
  | other => other

theorem extractInto_prune (t : Template) (document : Document) :
    t.extractInto (t.prune document) = t.extractInto document := by
  cases document with
  | map entries =>
    rw [prune, extractInto, extractInto, TemplateNode.walk_eq_runAll,
      TemplateNode.walk_eq_runAll, TemplateNode.visitsOfEntries_pruneEntries]
  | array items => rfl
  | scalar scalar => rfl
  | null => rfl

/-- What a template does not map of a document is invisible: a walk of what is left has the same
result and leaves the same record. So do the walks of any two documents of which the same is left,
such as one that is pruned only as far as the walk comes. -/
theorem runOn_extractInto_prune (t : Template) (document : Document) (r : Record) :
    (t.extractInto (t.prune document)).runOn r = (t.extractInto document).runOn r ∧
      ∀ other, t.prune other = t.prune document →
        (t.extractInto other).runOn r = (t.extractInto document).runOn r := by
  refine ⟨by rw [extractInto_prune], ?_⟩
  intro other h
  rw [← extractInto_prune t other, h, extractInto_prune]

/-- The walk ends at a name that is null; it does not come to the unmapped keys behind it. -/
theorem runOn_extractInto_prune_misfit :
    let name : Target := ⟨"all.kafka.name", .beside (.beside (.scalar .here))⟩
    let t : Template := ⟨[("kafka", .map [("*", .map [("name", .leaf ⟨0, [.direct name]⟩)])]),
      ("topics", .array none)]⟩
    let document : Document := .map [("topics", .array [.null]), ("hosts", .null),
      ("kafka", .map [("main", .map [("port", .null), ("name", .null), ("tags", .array [])])])]
    let reached : Document := .map [("topics", .array []),
      ("kafka", .map [("main", .map [("name", .null), ("tags", .array [])])])]
    t.prune reached = t.prune document ∧
      (t.extractInto reached).runOn .empty = (t.extractInto document).runOn .empty := by
  intro name t document reached
  have h : t.prune reached = t.prune document := rfl
  exact ⟨h, (runOn_extractInto_prune t document .empty).2 reached h⟩

end Template
end ServiceAtlas
