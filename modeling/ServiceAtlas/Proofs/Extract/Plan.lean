import ServiceAtlas.Extract.Walk
import ServiceAtlas.Proofs.Record.Runs

/-!
# Plans of walks

What a walk does is settled by the template and the document before any record is looked at: which
setters are given which texts, in the order of the document, and which value is the first that does
not fit its node. Walking a document into a record is running its plan on the record.
-/
namespace ServiceAtlas

/-- A text that a walk brings to a setter. -/
structure Event where
  setter : Setter
  text : String

def Event.run (e : Event) : RecordM Unit := e.setter.apply e.text

/-- A value whose shape does not fit its node. -/
structure Misfit where
  key : String
  found : DocumentKind
  expected : NodeKind

def Misfit.error (m : Misfit) : ExtractError := .unsupportedShape m.key m.found m.expected

inductive Visit where
  | event (event : Event)
  | misfit (misfit : Misfit)

namespace Visit

/-- What a walk does at a visit. -/
def run : Visit → RecordM Unit
  | event e => e.run
  | misfit m => throw m.error

def runAll (vs : List Visit) : RecordM Unit := vs.forM run

theorem runAll_append (vs ws : List Visit) :
    runAll (vs ++ ws) = (do runAll vs; runAll ws) :=
  List.forM_append

theorem runAll_singleton (v : Visit) : runAll [v] = v.run := bind_pure v.run

end Visit

namespace TemplateNode

mutual

/-- The visits of a value that meets a node, in the order of the document; those behind a misfit
are among them. -/
def visits (key : String) (node : TemplateNode) : Document → List Visit
  | .map entries =>
    match node with
    | .map children => visitsOfEntries children entries
    | node => [.misfit ⟨key, .map, node.kind⟩]
  | .array items =>
    match node with
    | .array none => []
    | .array (some element) => visitsOfItems key element 0 items
    | .map children =>
      match children.lookup "[]" with
      | none => [.misfit ⟨key, .array, .map⟩]
      | some (.array none) => []
      | some (.array (some element)) => visitsOfItems key element 0 items
      | some element => visitsOfItems key element 0 items
    | .leaf _ => [.misfit ⟨key, .array, .setter⟩]
  | .scalar scalar =>
    match node with
    | .leaf setter => [.event ⟨setter, scalar.text⟩]
    | node => [.misfit ⟨key, .scalar, node.kind⟩]
  | .null => [.misfit ⟨key, .null, node.kind⟩]

def visitsOfEntries (children : List (String × TemplateNode)) :
    List (String × Document) → List Visit
  | [] => []
  | (key, value) :: entries =>
    (match children.lookup key, children.lookup "*" with
      | some node, _ => visits key node value
      | none, some node => visits key node value
      | none, none => []) ++ visitsOfEntries children entries

def visitsOfItems (key : String) (element : TemplateNode) (index : Nat) :
    List Document → List Visit
  | [] => []
  | item :: items =>
    visits s!"{key}[{index}]" element item ++ visitsOfItems key element (index + 1) items

end

/-- An array goes to the element of its node. -/
theorem visits_array (key : String) (node : TemplateNode) (items : List Document) :
    visits key node (.array items) =
      match node.arrayElement? with
      | some (some element) => visitsOfItems key element 0 items
      | some none => []
      | none => [.misfit ⟨key, .array, node.kind⟩] := by
  cases node with
  | map children =>
    -- The element is what stands under the array key, or inside it if that is an array.
    simp only [visits, arrayElement?, arrayKey]
    cases children.lookup "[]" with
    | none => rfl
    | some element =>
      cases element with
      | array element => cases element <;> rfl
      | map children => rfl
      | leaf setter => rfl
  | array element => cases element <;> rfl
  | leaf setter => rfl

/-- The value of an entry goes to the node that its key matches. -/
theorem visitsOfEntries_cons (children : List (String × TemplateNode)) (key : String)
    (value : Document) (entries : List (String × Document)) :
    visitsOfEntries children ((key, value) :: entries) =
      ((match? children key).elim [] fun node => visits key node value) ++
        visitsOfEntries children entries := by
  rw [visitsOfEntries, match?, wildcard]
  cases children.lookup key with
  | some node => rfl
  | none => cases children.lookup "*" <;> rfl

theorem runAll_misfit (key : String) (value : Document) (node : TemplateNode) :
    Visit.runAll [.misfit ⟨key, value.kind, node.kind⟩] = throw (unsupported key value node) :=
  Visit.runAll_singleton _

theorem runAll_event (setter : Setter) (text : String) :
    Visit.runAll [.event ⟨setter, text⟩] = setter.apply text :=
  Visit.runAll_singleton _

-- The induction is on the document, together with its entries and its items.
mutual

/-- A walk makes the visits one after the other. -/
theorem dispatch_eq_runAll (key : String) (node : TemplateNode) :
    (value : Document) → dispatch key node value = Visit.runAll (visits key node value)
  | .map entries => by
    cases node with
    | map children =>
      rw [dispatch, visits]
      exact walk_eq_runAll children entries
    | array element => exact (runAll_misfit key (.map entries) (.array element)).symm
    | leaf setter => exact (runAll_misfit key (.map entries) (.leaf setter)).symm
  | .array items => by
    have hitems (element : TemplateNode) := walkItems_eq_runAll key element 0 items
    rw [dispatch, visits_array]
    cases node.arrayElement? with
    | none => exact (runAll_misfit key (.array items) node).symm
    | some element =>
      cases element with
      | none => rfl
      | some element => exact hitems element
  | .scalar scalar => by
    cases node with
    | leaf setter => exact (runAll_event setter scalar.text).symm
    | map children => exact (runAll_misfit key (.scalar scalar) (.map children)).symm
    | array element => exact (runAll_misfit key (.scalar scalar) (.array element)).symm
  | .null => (runAll_misfit key .null node).symm

theorem walk_eq_runAll (children : List (String × TemplateNode)) :
    (entries : List (String × Document)) →
      walk children entries = Visit.runAll (visitsOfEntries children entries)
  | [] => by
    rw [walk, visitsOfEntries]
    rfl
  | (key, value) :: entries => by
    have hvalue (node : TemplateNode) := dispatch_eq_runAll key node value
    rw [walk, visitsOfEntries_cons, Visit.runAll_append, walk_eq_runAll children entries]
    cases match? children key with
    | some node => exact congrArg (· >>= _) (hvalue node)
    | none => rfl

theorem walkItems_eq_runAll (key : String) (element : TemplateNode) (index : Nat) :
    (items : List Document) →
      walkItems key element index items = Visit.runAll (visitsOfItems key element index items)
  | [] => by
    rw [walkItems, visitsOfItems]
    rfl
  | item :: items => by
    rw [walkItems, visitsOfItems, Visit.runAll_append,
      walkItems_eq_runAll key element (index + 1) items,
      dispatch_eq_runAll (itemKey key index) element item]
    rfl

end

end TemplateNode

/-- The events of a walk in the order of the document, and the misfit that ends it, if any. -/
structure Plan where
  events : List Event := []
  fault : Option Misfit := none

namespace Plan

/-- The visits up to the first misfit. -/
def ofVisits : List Visit → Plan
  | [] => {}
  | .event e :: vs => { ofVisits vs with events := e :: (ofVisits vs).events }
  | .misfit m :: _ => { fault := some m }

/-- Brings the texts to their setters one after the other, up to the first error. -/
def runEvents (r : Record) : List Event → Except ExtractError Unit × Record
  | [] => (.ok (), r)
  | e :: es =>
    match e.run.runOn r with
    | (.ok (), r') => runEvents r' es
    | (.error x, r') => (.error x, r')

/-- The error of the misfit is the result when every event has succeeded. -/
def runOn (p : Plan) (r : Record) : Except ExtractError Unit × Record :=
  match p.fault, runEvents r p.events with
  | some m, (.ok (), r') => (.error m.error, r')
  | _, outcome => outcome

theorem runOn_ofVisits_event (e : Event) (vs : List Visit) (r : Record) :
    (ofVisits (.event e :: vs)).runOn r =
      match e.run.runOn r with
      | (.ok (), r') => (ofVisits vs).runOn r'
      | (.error x, r') => (.error x, r') := by
  simp only [runOn, ofVisits, runEvents]
  rcases e.run.runOn r with ⟨x | u, r'⟩
  · cases (ofVisits vs).fault <;> rfl
  · rfl

theorem runOn_runAll (vs : List Visit) (r : Record) :
    (Visit.runAll vs).runOn r = (ofVisits vs).runOn r := by
  induction vs generalizing r with
  | nil => rfl
  | cons v vs ih =>
    have hb : (Visit.runAll (v :: vs)).runOn r = _ :=
      RecordM.runOn_bind v.run (fun _ => Visit.runAll vs) r
    rw [hb]
    cases v with
    | misfit m => rfl
    | event e =>
      rw [runOn_ofVisits_event, Visit.run]
      rcases e.run.runOn r with ⟨x | u, r'⟩
      · rfl
      · exact ih r'

/-- An error comes from one of the events, after those before it have succeeded. -/
theorem exists_of_runEvents_error {r r' : Record} {es : List Event} {x : ExtractError}
    (h : runEvents r es = (.error x, r')) :
    ∃ done e rest s, es = done ++ e :: rest ∧ runEvents r done = (.ok (), s) ∧
      e.run.runOn s = (.error x, r') := by
  induction es generalizing r with
  | nil => cases h
  | cons e es ih =>
    rw [runEvents] at h
    split at h
    · next s hs =>
      obtain ⟨done, d, rest, s', rfl, hdone, hd⟩ := ih h
      refine ⟨e :: done, d, rest, s', rfl, ?_, hd⟩
      rw [runEvents, hs]
      exact hdone
    · next y s hs =>
      refine ⟨[], e, es, r, rfl, rfl, ?_⟩
      rw [hs]
      exact h

/-- A failing run of a plan has either run every event and met the misfit, or it has run the events
before one that fails. -/
theorem exists_of_runOn_error {p : Plan} {r r' : Record} {x : ExtractError}
    (h : p.runOn r = (.error x, r')) :
    ∃ done rest s, p.events = done ++ rest ∧ runEvents r done = (.ok (), s) ∧
      (rest = [] ∧ r' = s ∧ (∃ m, p.fault = some m ∧ x = m.error) ∨
        ∃ e tail, rest = e :: tail ∧ e.run.runOn s = (.error x, r')) := by
  unfold runOn at h
  split at h
  · next m s hm hs =>
    obtain ⟨rfl, rfl⟩ : m.error = x ∧ s = r' := by simpa using h
    exact ⟨p.events, [], s, (List.append_nil _).symm, hs, Or.inl ⟨rfl, rfl, m, hm, rfl⟩⟩
  · obtain ⟨done, e, tail, s, hes, hdone, he⟩ := exists_of_runEvents_error h
    exact ⟨done, e :: tail, s, hes, hdone, Or.inr ⟨e, tail, rfl, he⟩⟩

end Plan

namespace Template

/-- The plan of a walk of the entries of a document. -/
def plan (t : Template) (entries : List (String × Document)) : Plan :=
  .ofVisits (TemplateNode.visitsOfEntries t.root entries)

/-- Walking a document is running its plan. A walk that fails leaves what the events before the
failure did, and, where a setter failed on that, what this setter did before its own error. -/
theorem runOn_extractInto (t : Template) (entries : List (String × Document)) (r : Record) :
    (t.extractInto (.map entries)).runOn r = (t.plan entries).runOn r ∧
      ∀ x r', (t.extractInto (.map entries)).runOn r = (.error x, r') →
        ∃ done rest s, (t.plan entries).events = done ++ rest ∧
          Plan.runEvents r done = (.ok (), s) ∧
          (rest = [] ∧ r' = s ∧ (∃ m, (t.plan entries).fault = some m ∧ x = m.error) ∨
            ∃ e tail, rest = e :: tail ∧ e.run.runOn s = (.error x, r')) := by
  have hplan : (t.extractInto (.map entries)).runOn r = (t.plan entries).runOn r := by
    rw [extractInto, TemplateNode.walk_eq_runAll, Plan.runOn_runAll]
    rfl
  refine ⟨hplan, ?_⟩
  intro x r' h
  rw [hplan] at h
  exact Plan.exists_of_runOn_error h

/-- A queue is named before the walk meets a value that does not fit. -/
theorem runOn_extractInto_misfit :
    let name : Target := ⟨"all.kafka.name", .beside (.beside (.scalar .here))⟩
    let t : Template := ⟨[("*", .leaf ⟨0, [.direct name]⟩)]⟩
    let entries := [("a", .scalar (.string "events")), ("b", .null), ("c", .scalar (.integer 1))]
    ∃ r', (t.extractInto (.map entries)).runOn .empty =
        (.error (.unsupportedShape "b" .null .setter), r') ∧
      ∃ done rest s, (t.plan entries).events = done ++ rest ∧
        Plan.runEvents .empty done = (.ok (), s) ∧
        (rest = [] ∧ r' = s ∧ (∃ m, (t.plan entries).fault = some m ∧
            .unsupportedShape "b" .null .setter = m.error) ∨
          ∃ e tail, rest = e :: tail ∧
            e.run.runOn s = (.error (.unsupportedShape "b" .null .setter), r')) :=
  ⟨_, rfl, (runOn_extractInto _ _ .empty).2 _ _ rfl⟩

end Template
end ServiceAtlas
