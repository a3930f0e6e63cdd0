import ServiceAtlas.Proofs.Leaf.Literals

/-!
# Failures of setters

A setter stops at the first of its actions that fails, and what it leaves behind is known to the
last value: the actions before that one have run, and an action that splits the value has noted a
separator that it missed and has put the parts before the one that failed. The write that fails
leaves no trace.
-/
namespace ServiceAtlas

/-- A text that does not convert is not written, and the record stays as it is. -/
theorem Target.runOn_store_eq_error_iff {t : Target} {text : String} {r r' : Record}
    {e : ExtractError} :
    (t.store text).runOn r = (.error e, r') ↔
      t.write? text = none ∧ .conversion t.path text t.address.field.type = e ∧ r = r' := by
  rw [runOn_store]
  cases t.write? text with
  | none => simp
  | some w => simp

namespace Action

/-- The parts that a value is split into. -/
def parts (separators : List Separator) (value : String) : List String :=
  (Split.ofValue separators value.toList).values.map String.ofList

/-- The record with a warning of the separator that the value does not have, if there is one. -/
def noted (separators : List Separator) (value : String) (r : Record) : Record :=
  (Split.ofValue separators value.toList).missing.elim r fun separator =>
    r.warn (missingMessage (String.ofList separator) value)

/-- As many of the first parts as there are writes convert to these writes to their targets. -/
def Converts (ts : List Target) (parts : List String) (ws : List (Write Schema.record)) : Prop :=
  ((ts.zip parts).take ws.length).map (fun (t, part) => t.write? part) = ws.map some

/-- Why no more than the first `n` parts are written: the next does not convert or has no target. -/
inductive Stops (ts : List Target) (parts all : List String) (n : Nat) : ExtractError → Prop
  | conversion {t : Target} {part : String} (ht : ts[n]? = some t) (hpart : parts[n]? = some part)
    (h : t.write? part = none) :
    Stops ts parts all n (.conversion t.path part t.address.field.type)
  | tooMany (hn : n = ts.length) (hmore : ts.length < parts.length) :
    Stops ts parts all n (.tooManyValues all)

/-- How an action fails on a record: with which error, and what it has made of the record. -/
inductive FailsOn (value : String) (r : Record) : Action → ExtractError → Record → Prop
  | direct {t : Target} (h : t.write? value = none) :
    FailsOn value r (.direct t) (.conversion t.path value t.address.field.type) r
  | preset {t : Target} {literal : String} (h : t.write? literal = none) :
    FailsOn value r (.preset t literal) (.conversion t.path literal t.address.field.type) r
  | condition {expected : Bool} {t : Target} {literal : String} (h : Text.readBool value = none) :
    FailsOn value r (.conditional expected t literal) (.condition value) r
  | conditional {expected : Bool} {t : Target} {literal : String}
    (hvalue : Text.readBool value = some expected) (h : t.write? literal = none) :
    FailsOn value r (.conditional expected t literal)
      (.conversion t.path literal t.address.field.type) r
  | parse {ts : List Target} {separators : List Separator} {ws : List (Write Schema.record)}
    {e : ExtractError} (hws : Converts ts (parts separators value) ws)
    (h : Stops ts (parts separators value) (parts separators value) ws.length e) :
    FailsOn value r (.parse ts separators) e (ws.foldl Record.put (noted separators value r))

section
variable {t : Target} {ts : List Target} {part : String} {parts all : List String}
  {w : Write Schema.record} {ws : List (Write Schema.record)} {n : Nat} {e : ExtractError}

theorem converts_cons :
    Converts (t :: ts) (part :: parts) (w :: ws) ↔
      t.write? part = some w ∧ Converts ts parts ws := by
  simp [Converts]

theorem stops_zero :
    Stops (t :: ts) (part :: parts) all 0 e ↔
      t.write? part = none ∧ .conversion t.path part t.address.field.type = e := by
  constructor
  · rintro (⟨ht, hpart, h⟩ | ⟨hn, -⟩)
    · obtain rfl := Option.some.inj ht
      obtain rfl := Option.some.inj hpart
      exact ⟨h, rfl⟩
    · cases hn
  · rintro ⟨h, rfl⟩
    exact .conversion rfl rfl h

theorem stops_succ :
    Stops (t :: ts) (part :: parts) all (n + 1) e ↔ Stops ts parts all n e := by
  constructor
  · rintro (⟨ht, hpart, h⟩ | ⟨hn, hmore⟩)
    · exact .conversion ht hpart h
    · exact .tooMany (Nat.succ.inj hn) (Nat.lt_of_succ_lt_succ hmore)
  · rintro (⟨ht, hpart, h⟩ | ⟨hn, hmore⟩)
    · exact .conversion ht hpart h
    · exact .tooMany (congrArg Nat.succ hn) (Nat.succ_lt_succ hmore)

end

/-- The writing of parts fails once the first of them are put and the next cannot be. -/
theorem runOn_storeParts_eq_error_iff {all parts : List String} {ts : List Target}
    {r r' : Record} {e : ExtractError} :
    (storeParts all ts parts).runOn r = (.error e, r') ↔
      ∃ ws, Converts ts parts ws ∧ Stops ts parts all ws.length e ∧ ws.foldl Record.put r = r' := by
  -- The induction is on the parts; each that is put moves the record on to the next.
  induction parts generalizing ts r with
  | nil =>
    constructor
    · intro h
      rw [storeParts] at h
      cases h
    · rintro ⟨ws, -, ⟨-, hpart, -⟩ | ⟨-, hmore⟩, -⟩
      · cases hpart
      · exact absurd hmore (Nat.not_lt_zero _)
  | cons part parts ih =>
    cases ts with
    | nil =>
      constructor
      · intro h
        obtain ⟨he, rfl⟩ := Prod.mk.inj h
        obtain rfl := Except.error.inj he
        exact ⟨[], rfl, .tooMany rfl (Nat.succ_pos _), rfl⟩
      · rintro ⟨ws, -, ⟨ht, -⟩ | ⟨hn, -⟩, rfl⟩
        · cases ht
        · obtain rfl := List.length_eq_zero_iff.mp hn
          rfl
    | cons t ts =>
      have hrun : (storeParts all (t :: ts) (part :: parts)).runOn r = _ :=
        RecordM.runOn_bind (t.store part) (fun _ => storeParts all ts parts) r
      rw [hrun, Target.runOn_store]
      cases hw : t.write? part with
      | none =>
        constructor
        · intro h
          obtain ⟨he, rfl⟩ := Prod.mk.inj h
          exact ⟨[], rfl, stops_zero.mpr ⟨hw, Except.error.inj he⟩, rfl⟩
        · rintro ⟨ws, hws, hstops, rfl⟩
          cases ws with
          | nil => rw [(stops_zero.mp hstops).2]; rfl
          | cons w ws => rw [(converts_cons.mp hws).1] at hw; cases hw
      | some w =>
        refine Iff.trans ih ?_
        constructor
        · rintro ⟨ws, hws, hstops, rfl⟩
          exact ⟨w :: ws, converts_cons.mpr ⟨hw, hws⟩, stops_succ.mpr hstops, rfl⟩
        · rintro ⟨ws, hws, hstops, rfl⟩
          cases ws with
          | nil => rw [(stops_zero.mp hstops).1] at hw; cases hw
          | cons w' ws =>
            obtain ⟨hw', hrest⟩ := converts_cons.mp hws
            obtain rfl := Option.some.inj (hw.symm.trans hw')
            exact ⟨ws, hrest, stops_succ.mp hstops, rfl⟩

theorem runOn_noteMissing (separators : List Separator) (value : String) (r : Record) :
    (noteMissing value (Split.ofValue separators value.toList).missing).runOn r =
      (.ok (), noted separators value r) := by
  rw [noted]
  cases (Split.ofValue separators value.toList).missing with
  | none => rfl
  | some separator => rfl

/-- An action fails as it is said to, and in no other way. -/
theorem runOn_run_eq_error_iff {a : Action} {value : String} {r r' : Record} {e : ExtractError} :
    (a.run value).runOn r = (.error e, r') ↔ a.FailsOn value r e r' := by
  cases a with
  | direct t =>
    rw [run, Target.runOn_store_eq_error_iff]
    constructor
    · rintro ⟨h, rfl, rfl⟩
      exact .direct h
    · intro h
      cases h with
      | direct h => exact ⟨h, rfl, rfl⟩
  | preset t literal =>
    rw [run, Target.runOn_store_eq_error_iff]
    constructor
    · rintro ⟨h, rfl, rfl⟩
      exact .preset h
    · intro h
      cases h with
      | preset h => exact ⟨h, rfl, rfl⟩
  | conditional expected t literal =>
    rw [run]
    constructor
    · intro h
      split at h
      · next hvalue =>
        obtain ⟨he, rfl⟩ := Prod.mk.inj h
        obtain rfl := Except.error.inj he
        exact .condition hvalue
      · next actual hvalue =>
        split at h
        · next heq =>
          obtain ⟨hw, rfl, rfl⟩ := Target.runOn_store_eq_error_iff.mp h
          exact .conditional (heq ▸ hvalue) hw
        · cases h
    · intro h
      cases h with
      | condition hvalue => rw [hvalue]; rfl
      | conditional hvalue h =>
        rw [hvalue]
        simpa using Target.runOn_store_eq_error_iff.mpr ⟨h, rfl, rfl⟩
  | parse ts separators =>
    have hrun : ((parse ts separators).run value).runOn r =
        (storeParts (parts separators value) ts (parts separators value)).runOn
          (noted separators value r) := by
      refine (RecordM.runOn_bind (noteMissing value _)
        (fun _ => storeParts (parts separators value) ts (parts separators value)) r).trans ?_
      rw [runOn_noteMissing]
    rw [hrun, runOn_storeParts_eq_error_iff]
    constructor
    · rintro ⟨ws, hws, hstops, rfl⟩
      exact .parse hws hstops
    · intro h
      cases h with
      | parse hws hstops => exact ⟨_, hws, hstops, rfl⟩

end Action

namespace Setter

/-- A setter fails when it has run the first of its actions and the next one fails. -/
theorem runOn_apply_eq_error_iff {s : Setter} {value : String} {r r' : Record} {e : ExtractError} :
    (s.apply value).runOn r = (.error e, r') ↔
      ∃ k a r₁, s.actions[k]? = some a ∧
        (apply ⟨s.weight, s.actions.take k⟩ value).runOn r = (.ok (), r₁) ∧
          (a.run value).runOn r₁ = (.error e, r') := by
  constructor
  · intro h
    obtain ⟨before, a, after, r₁, hactions, hbefore, ha⟩ := exists_failed_action h
    refine ⟨before.length, a, r₁, ?_, ?_, ha⟩
    · rw [hactions, List.getElem?_append_right (Nat.le_refl _), Nat.sub_self]
      rfl
    · rw [hactions, List.take_left]
      exact hbefore
  · rintro ⟨k, a, r₁, hk, hbefore, ha⟩
    have hactions : s.actions = s.actions.take k ++ a :: s.actions.drop (k + 1) := by
      obtain ⟨hlt, rfl⟩ := List.getElem?_eq_some_iff.mp hk
      rw [← List.drop_eq_getElem_cons hlt, List.take_append_drop]
    have happly : s.apply value = (do
        apply ⟨s.weight, s.actions.take k⟩ value
        a.run value
        (s.actions.drop (k + 1)).forM (Action.run value)) := by
      conv_lhs => rw [apply, hactions]
      exact List.forM_append
    rw [happly, RecordM.runOn_bind, hbefore]
    dsimp only
    rw [RecordM.runOn_bind, ha]

/-- A setter fails exactly when one of its actions fails behind others that have succeeded, and it
leaves what all of these have made of the record. An action that splits the value has noted the
separator that it missed and has put the parts before the one that failed; any other has done
nothing. The write that fails changes no instance and no cursor, and parts are too many only when
every target has been given its part. -/
theorem apply_fails_iff (s : Setter) (value : String) :
    (∀ r e r', (s.apply value).runOn r = (.error e, r') ↔
      ∃ k a r₁, s.actions[k]? = some a ∧
        (apply ⟨s.weight, s.actions.take k⟩ value).runOn r = (.ok (), r₁) ∧
          a.FailsOn value r₁ e r') ∧
      (∀ (t : Target) text r₁ r₂ x, (t.store text).runOn r₁ = (.error x, r₂) → r₂ = r₁) ∧
      ∀ ts separators r₁ r₂ values,
        ((Action.parse ts separators).run value).runOn r₁ = (.error (.tooManyValues values), r₂) →
          values = Action.parts separators value ∧ ts.length < values.length ∧
            ∃ ws : List (Write Schema.record), ws.length = ts.length ∧
              (ts.zip values).map (fun (t, part) => t.write? part) = ws.map some ∧
                r₂ = ws.foldl Record.put (Action.noted separators value r₁) := by
  refine ⟨?_, ?_, ?_⟩
  · intro r e r'
    simp only [runOn_apply_eq_error_iff, Action.runOn_run_eq_error_iff]
  · intro t text r₁ r₂ x h
    exact (Target.runOn_store_eq_error_iff.mp h).2.2.symm
  · intro ts separators r₁ r₂ values h
    cases Action.runOn_run_eq_error_iff.mp h with
    | @parse _ _ ws _ hws hstops =>
      cases hstops with
      | tooMany hlength hmore =>
        refine ⟨rfl, hmore, ws, hlength, ?_, rfl⟩
        have hall : (ts.zip (Action.parts separators value)).length = ws.length := by
          rw [List.length_zip, hlength, Nat.min_eq_left (Nat.le_of_lt hmore)]
        rwa [Action.Converts, ← hall, List.take_length] at hws

/-- A broker is named and then taken for its port, with a warning of the slash that it does not
have; of a host with a port that nothing asks for the host is written. -/
theorem apply_fails_iff_broker :
    let name : Target := ⟨"all.kafka.name", .beside (.beside (.scalar .here))⟩
    let host : Target := ⟨".kafka.host", .beside (.beside (.scalar (.there .here)))⟩
    let port : Target := ⟨".kafka.port", .beside (.beside (.scalar (.there (.there .here))))⟩
    let s : Setter := ⟨0, [.direct name, .parse [port, host] [⟨['/'], false⟩], .direct host]⟩
    let named := Record.empty.put ⟨name.address, "broker"⟩
    let r' := named.warn "separator '/' not found in 'broker'"
    compile "all.kafka.name | parse .kafka.port/.kafka.host | .kafka.host" = .ok s ∧
      (s.apply "broker").runOn .empty =
        (.error (.conversion ".kafka.port" "broker" .integer), r') ∧
      (∃ k a r₁, s.actions[k]? = some a ∧
        (apply ⟨0, s.actions.take k⟩ "broker").runOn .empty = (.ok (), r₁) ∧
          a.FailsOn "broker" r₁ (.conversion ".kafka.port" "broker" .integer) r') ∧
      (∃ r₂, (port.store "broker").runOn r' =
        (.error (.conversion ".kafka.port" "broker" .integer), r₂) ∧ r₂ = r') ∧
      ((Action.parse [host] [⟨[':'], false⟩]).run "kafka:9092").runOn named =
        (.error (.tooManyValues ["kafka", "9092"]), named.put ⟨host.address, "kafka"⟩) ∧
      ∃ ws : List (Write Schema.record), ws.length = [host].length ∧
        ([host].zip ["kafka", "9092"]).map (fun (t, part) => t.write? part) = ws.map some ∧
          named.put ⟨host.address, "kafka"⟩ =
            ws.foldl Record.put (Action.noted [⟨[':'], false⟩] "kafka:9092" named) := by
  intro name host port s named r'
  have hrun : (s.apply "broker").runOn .empty =
      (.error (.conversion ".kafka.port" "broker" .integer), r') := by decide +kernel
  have hparse : ((Action.parse [host] [⟨[':'], false⟩]).run "kafka:9092").runOn named =
      (.error (.tooManyValues ["kafka", "9092"]), named.put ⟨host.address, "kafka"⟩) := by
    decide +kernel
  have hstore : (port.store "broker").runOn r' =
      (.error (.conversion ".kafka.port" "broker" .integer), r') := by decide +kernel
  refine ⟨by decide +kernel, hrun, ?_, ⟨r', hstore, ?_⟩, hparse, ?_⟩
  · exact ((apply_fails_iff s "broker").1 _ _ _).mp hrun
  · exact (apply_fails_iff s "broker").2.1 _ _ _ _ _ hstore
  · exact ((apply_fails_iff s "kafka:9092").2.2 _ _ _ _ _ hparse).2.2

end Setter
end ServiceAtlas
