import ServiceAtlas.Proofs.Leaf.Cuts
import ServiceAtlas.Proofs.Leaf.Meaning
import ServiceAtlas.Proofs.Leaf.Pattern

/-!
# Filled patterns

A pattern is filled with a text in the place of each token. Where each separator is first met at its
own place, cutting the filled pattern gives the texts back, so that a setter that parses by the
pattern writes each of them to the path of its token. A bar with a space at the head of a pattern
does not belong to it in a leaf, but ends the segment.
-/
namespace ServiceAtlas

/-- The tokens of a pattern with the texts that fill them. A separator stands behind each but the
last, and behind that nothing or a forced end, which is given by its literal. -/
inductive Filling where
  | last (token text : List Char) (ending : Option (List Char))
  | next (token text separator : List Char) (rest : Filling)

namespace Filling

/-- The tokens, each with its text. -/
def parts : Filling → List (List Char × List Char)
  | last token text _ => [(token, text)]
  | next token text _ rest => (token, text) :: rest.parts

def tokens (f : Filling) : List (List Char) := f.parts.map Prod.fst

def texts (f : Filling) : List (List Char) := f.parts.map Prod.snd

/-- The texts with the paths that they are for. -/
def steps (f : Filling) : List (String × String) :=
  f.parts.map fun (token, text) => (String.ofList token, String.ofList text)

def separators : Filling → List Separator
  | last _ _ ending => ending.toList.map fun literal => ⟨literal, true⟩
  | next _ _ separator rest => ⟨separator, false⟩ :: rest.separators

def written : Filling → List Char
  | last token _ none => token
  | last token _ (some literal) => token ++ literal ++ ['$']
  | next token _ separator rest => token ++ separator ++ rest.written

/-- The texts in the place of the tokens. Where a forced end has a literal, any text may be behind
it. -/
def filled (dropped : List Char) : Filling → List Char
  | last _ text none => text
  | last _ text (some literal) => if literal.isEmpty then text else text ++ literal ++ dropped
  | next _ text separator rest => text ++ separator ++ rest.filled dropped

/-- No text is empty, and the separator behind a text is first met at its own place. -/
def Separated : Filling → Prop
  | last _ text none => text ≠ []
  | last _ text (some literal) => text ≠ [] ∧ (literal ≠ [] → Text.OnlyAtEnd literal text)
  | next _ text separator rest => text ≠ [] ∧ Text.OnlyAtEnd separator text ∧ rest.Separated

instance : (f : Filling) → Decidable f.Separated
  | last _ text none => inferInstanceAs (Decidable (text ≠ []))
  | last _ text (some literal) =>
    inferInstanceAs (Decidable (text ≠ [] ∧ (literal ≠ [] → Text.OnlyAtEnd literal text)))
  | next _ text separator rest =>
    have : Decidable rest.Separated := instDecidableSeparated rest
    inferInstanceAs (Decidable (text ≠ [] ∧ Text.OnlyAtEnd separator text ∧ rest.Separated))

section
variable (lead : Option (List Char))

/-- The pattern, with or without a separator before its first token. -/
def pattern (f : Filling) : Pattern :=
  ⟨f.tokens, lead.toList.map (fun literal => ⟨literal, false⟩) ++ f.separators⟩

def patternText (f : Filling) : List Char := lead.getD [] ++ f.written

def valueText (dropped : List Char) (f : Filling) : List Char := lead.getD [] ++ f.filled dropped

end

/-- Cutting a filled pattern gives the texts back. -/
theorem ofValue_filled {f : Filling} (h : f.Separated)
    (hs : ∀ s ∈ f.separators, s.forcedEnd = false → s.literal ≠ []) (dropped : List Char) :
    Split.ofValue f.separators (f.filled dropped) = ⟨f.texts, none⟩ := by
  induction f with
  | last token text ending =>
    cases ending with
    | none => exact congrArg (Split.mk · none) (Split.kept_of_ne_nil h)
    | some literal =>
      obtain ⟨ht, ho⟩ := h
      have hkept : Split.mk (Split.kept text) none = ⟨[text], none⟩ :=
        congrArg (Split.mk · none) (Split.kept_of_ne_nil ht)
      by_cases hl : literal = []
      · subst hl
        exact hkept
      · have hcut := (ho hl).cut?_append dropped
        rw [filled, if_neg (by simpa using hl)]
        exact (Split.ofValue_cons_of_cut? (s := ⟨literal, true⟩) hl hcut []).trans hkept
  | next token text separator rest ih =>
    obtain ⟨ht, ho, hrest⟩ := h
    have hcut := ho.cut?_append (rest.filled dropped)
    have hne : separator ≠ [] := hs ⟨separator, false⟩ List.mem_cons_self rfl
    have hsplit := ih hrest fun s hmem => hs s (List.mem_cons_of_mem _ hmem)
    have hv := Split.ofValue_cons_of_cut? (s := ⟨separator, false⟩) hne hcut rest.separators
    rw [hsplit, Split.kept_of_ne_nil ht] at hv
    exact hv

/-- A separator before the first token leaves an empty part, which is not kept. -/
theorem ofValue_lead_filled (lead : Option (List Char)) {f : Filling} (h : f.Separated)
    (hs : ∀ s ∈ (f.pattern lead).separators, s.forcedEnd = false → s.literal ≠ [])
    (dropped : List Char) :
    Split.ofValue (f.pattern lead).separators (f.valueText lead dropped) =
      ⟨f.texts, none⟩ := by
  cases lead with
  | none => exact ofValue_filled h hs dropped
  | some literal =>
    have hne : literal ≠ [] := hs ⟨literal, false⟩ List.mem_cons_self rfl
    have hcut := (Text.onlyAtEnd_nil literal).cut?_append (f.filled dropped)
    have hsplit := ofValue_filled h (fun s hmem => hs s (List.mem_cons_of_mem _ hmem)) dropped
    have hv := Split.ofValue_cons_of_cut? (s := ⟨literal, false⟩) hne hcut f.separators
    rw [hsplit] at hv
    exact hv

theorem written_ne_nil {f : Filling} (h : ∀ token ∈ f.tokens, token ≠ []) : f.written ≠ [] := by
  cases f with
  | last token text ending =>
    cases ending with
    | none => exact h token List.mem_cons_self
    | some literal => simp [written]
  | next token text separator rest => simp [written, h token List.mem_cons_self]

/-- A pattern ends in the mark of a forced end or in its last token. -/
theorem getLast?_written {f : Filling}
    (h : ∀ token ∈ f.tokens, token ≠ [] ∧ ∀ c ∈ token, Pattern.isPathChar c = true) :
    ∀ c ∈ f.written.getLast?, c = '$' ∨ Pattern.isPathChar c = true := by
  induction f with
  | last token text ending =>
    intro c hc
    cases ending with
    | none => exact Or.inr ((h token List.mem_cons_self).2 c (List.mem_of_getLast? hc))
    | some literal => exact Or.inl (by simpa [written, eq_comm] using hc)
  | next token text separator rest ih =>
    have hrest t (ht : t ∈ rest.tokens) := h t (List.mem_cons_of_mem _ ht)
    have hne := written_ne_nil fun t ht => (hrest t ht).1
    rw [written, List.getLast?_append_of_ne_nil _ hne]
    exact ih hrest

end Filling

theorem Segment.texts_parse {pattern : List Char} (hne : pattern ≠ [])
    (hbar : ¬ " | ".toList <:+: "parse ".toList ++ pattern)
    (hlast : ∀ c ∈ pattern.getLast?, c = '$' ∨ Pattern.isPathChar c = true) :
    texts ("parse ".toList ++ pattern) = ["parse ".toList ++ pattern] := by
  have hend : ("parse ".toList ++ pattern).getLast? = pattern.getLast? :=
    List.getLast?_append_of_ne_nil _ hne
  have hopening : Text.after? opening ("parse ".toList ++ pattern) = none :=
    Text.after?_eq_none_of_ne (by decide) _ _
  have hclosing : Text.before? closing ("parse ".toList ++ pattern) = none := by
    rw [Option.eq_none_iff_forall_ne_some]
    intro rest hrest
    have hbrace := congrArg List.getLast? (Text.before?_eq_some_iff.mp hrest)
    rw [hend] at hbrace
    have h := hlast '}' (by simpa [closing] using hbrace)
    revert h
    decide
  have htrim : Text.trim ("parse ".toList ++ pattern) = "parse ".toList ++ pattern := by
    refine Text.trim_eq_self (fun c hc => Option.some.inj hc ▸ by decide) ?_
    intro c hc
    rcases hlast c (hend ▸ hc) with rfl | hpath
    · decide
    · exact Pattern.isBlank_of_isPathChar hpath
  rw [texts, hopening, Option.getD_none, hclosing, Option.getD_none,
    Text.splitOn_of_not_infix hbar, List.map_singleton, htrim]

theorem Segment.read_parse {pattern : List Char} (h : (Pattern.read pattern).paths ≠ []) :
    Segment.read ("parse ".toList ++ pattern) = .ok (.parse (Pattern.read pattern)) := by
  have hweight : Text.after? "weight ".toList ("parse ".toList ++ pattern) = none :=
    Text.after?_eq_none_of_ne (by decide) _ _
  have hif : Text.after? "if ".toList ("parse ".toList ++ pattern) = none :=
    Text.after?_eq_none_of_ne (by decide) _ _
  have hparse := Text.after?_append "parse ".toList pattern
  rw [read, hweight, hif, hparse]
  simp [readParse, h]

theorem Setter.compile_parse {pattern : List Char} {ts : List Target} (hne : pattern ≠ [])
    (hbar : ¬ " | ".toList <:+: "parse ".toList ++ pattern)
    (hlast : ∀ c ∈ pattern.getLast?, c = '$' ∨ Pattern.isPathChar c = true)
    (hpaths : (Pattern.read pattern).paths ≠ [])
    (hts : (Pattern.read pattern).paths.mapM resolve = .ok ts) :
    compile (String.ofList ("parse ".toList ++ pattern)) =
      .ok ⟨0, [.parse ts (Pattern.read pattern).separators]⟩ := by
  rw [compile, String.toList_ofList, Segment.texts_parse hne hbar hlast]
  change (addText {} ("parse ".toList ++ pattern) >>= fun s => pure s) = _
  rw [bind_pure, addText, Segment.read_parse hpaths]
  change (do
    let targets ← (Pattern.read pattern).paths.mapM resolve
    return Setter.mk 0 [.parse targets (Pattern.read pattern).separators]) = _
  rw [hts]
  rfl

/-- Parts that are as many as the targets are written each to its own. -/
theorem Action.storeParts_eq_storeAll (all : List String) {parts : List (List Char × List Char)}
    {ts : List Target} (hts : (parts.map Prod.fst).mapM Setter.resolve = .ok ts) :
    storeParts all ts ((parts.map Prod.snd).map String.ofList) =
      Target.storeAll (parts.map fun (token, text) => (String.ofList token, String.ofList text)) := by
  rw [storeParts_eq hts, if_neg (by simp), List.map_map, List.map_map, List.zip_map']
  exact bind_pure _

theorem Action.run_parse {value : String} {separators : List Separator} {parts : List (List Char)}
    (h : Split.ofValue separators value.toList = ⟨parts, none⟩) (ts : List Target) :
    (parse ts separators).run value =
      storeParts (parts.map String.ofList) ts (parts.map String.ofList) := by
  rw [run, h]
  rfl

/-- Writing texts to paths that resolve adds no warning, and fails only at a text that does not
convert. -/
theorem Target.storeAll_of_resolve {steps : List (String × String)}
    (h : ∀ step ∈ steps, ∃ t, resolve step.1 = .ok t) (r : Record) :
    ((storeAll steps).runOn r).2.warnings = r.warnings ∧
      ∀ e, ((storeAll steps).runOn r).1 = .error e →
        ∃ path text type, e = .conversion path text type := by
  induction steps generalizing r with
  | nil => exact ⟨rfl, fun e he => by cases he⟩
  | cons step steps ih =>
    obtain ⟨path, text⟩ := step
    obtain ⟨t, ht⟩ := h (path, text) List.mem_cons_self
    have hb : (storeAll ((path, text) :: steps)).runOn r = _ :=
      RecordM.runOn_bind (storeAt path text) (fun _ => storeAll steps) r
    have hs : storeAt path text = t.store text := by rw [storeAt, ht]
    rw [hb, hs, t.runOn_store]
    cases t.write? text with
    | some w => exact ih (fun s hs => h s (List.mem_cons_of_mem _ hs)) (r.put w)
    | none => exact ⟨rfl, fun e he => ⟨_, _, _, (Except.error.inj he).symm⟩⟩

/-- A bar and a space at the head of a pattern are the end of a segment, with the space before them. -/
theorem Segment.not_bar_infix_parse {pattern : List Char} (hbar : ¬ " | ".toList <:+: pattern)
    (hhead : ¬ "| ".toList <+: pattern) : ¬ " | ".toList <:+: "parse ".toList ++ pattern := by
  change ¬ [' ', '|', ' '] <:+: pattern at hbar
  change ¬ ['|', ' '] <+: pattern at hhead
  change ¬ [' ', '|', ' '] <:+: 'p' :: 'a' :: 'r' :: 's' :: 'e' :: ' ' :: pattern
  simp [List.infix_cons_iff, hbar, hhead]

namespace Setter

/-- A setter compiled from a pattern takes a filled pattern apart again: it writes each text to the
path of its token, in order up to the first that does not convert, and does nothing else. -/
theorem apply_filled (lead : Option (List Char)) (f : Filling)
    (hread : Pattern.read (f.patternText lead) = f.pattern lead)
    (hresolve : ∀ token ∈ f.tokens, ∃ t, resolve token = .ok t)
    (hbar : ¬ " | ".toList <:+: f.patternText lead) (hhead : ¬ "| ".toList <+: f.patternText lead)
    (hf : f.Separated) :
    ∃ s, compile (String.ofList ("parse ".toList ++ f.patternText lead)) = .ok s ∧
      ∀ dropped r,
        let outcome := (s.apply (String.ofList (f.valueText lead dropped))).runOn r
        outcome = (Target.storeAll f.steps).runOn r ∧ outcome.2.warnings = r.warnings ∧
          ∀ e, outcome.1 = .error e → ∃ path text type, e = .conversion path text type := by
  have hpaths : (Pattern.read (f.patternText lead)).paths = f.tokens := congrArg Pattern.paths hread
  have hform : ∀ token ∈ f.tokens, token ≠ [] ∧ ∀ c ∈ token, Pattern.isPathChar c = true :=
    fun token ht => Pattern.isPathChar_of_mem_paths (hpaths ▸ ht)
  have hwritten := Filling.written_ne_nil fun token ht => (hform token ht).1
  have hlast : ∀ c ∈ (f.patternText lead).getLast?, c = '$' ∨ Pattern.isPathChar c = true := by
    rw [Filling.patternText, List.getLast?_append_of_ne_nil _ hwritten]
    exact Filling.getLast?_written hform
  obtain ⟨ts, hts⟩ := exists_mapM_eq_ok_iff.mpr hresolve
  have hne : f.tokens ≠ [] := by cases f <;> exact List.cons_ne_nil _ _
  refine ⟨⟨0, [.parse ts (f.pattern lead).separators]⟩, ?_, ?_⟩
  · rw [← hread]
    exact compile_parse (by simp [Filling.patternText, hwritten])
      (Segment.not_bar_infix_parse hbar hhead) hlast (hpaths ▸ hne) (hpaths ▸ hts)
  · intro dropped r outcome
    have hliteral : ∀ s ∈ (f.pattern lead).separators, s.forcedEnd = false → s.literal ≠ [] :=
      fun s hs => Pattern.literal_ne_nil_of_mem_separators (hread ▸ hs)
    have hsplit : Split.ofValue (f.pattern lead).separators
        (String.ofList (f.valueText lead dropped)).toList = ⟨f.texts, none⟩ := by
      rw [String.toList_ofList]
      exact Filling.ofValue_lead_filled lead hf hliteral dropped
    have hrun : outcome = (Target.storeAll f.steps).runOn r := by
      change (apply _ _).runOn r = _
      rw [apply_singleton, Action.run_parse hsplit, Filling.texts,
        Action.storeParts_eq_storeAll _ hts]
      rfl
    have hsteps : ∀ step ∈ f.steps, ∃ t, Target.resolve step.1 = .ok t := by
      intro step hstep
      obtain ⟨⟨token, text⟩, hpart, rfl⟩ := List.mem_map.mp hstep
      exact hresolve token (List.mem_map.mpr ⟨_, hpart, rfl⟩)
    rw [hrun]
    exact ⟨rfl, Target.storeAll_of_resolve hsteps r⟩

/-- A database whose host ends like the separator behind it, and whose query is dropped. -/
theorem apply_filled_database :
    let lead := some "postgresql://".toList
    let f : Filling := .next ".postgresql.host".toList "db-".toList "-->".toList
      (.last ".postgresql.port".toList "5432".toList (some "?sslmode=".toList))
    (Pattern.read (f.patternText lead) = f.pattern lead ∧
      (∀ token ∈ f.tokens, ∃ t, resolve token = .ok t) ∧ ¬ " | ".toList <:+: f.patternText lead ∧
      ¬ "| ".toList <+: f.patternText lead ∧ f.Separated) ∧
      ∃ s, compile "parse postgresql://.postgresql.host-->.postgresql.port?sslmode=$" = .ok s ∧
        ∀ r, let outcome := (s.apply "postgresql://db--->5432?sslmode=disable").runOn r
          outcome = (Target.storeAll f.steps).runOn r ∧ outcome.2.warnings = r.warnings ∧
            ∀ e, outcome.1 = .error e → ∃ path text type, e = .conversion path text type := by
  intro lead f
  have hread : Pattern.read (f.patternText lead) = f.pattern lead := by decide +kernel
  have hhost : resolve ".postgresql.host".toList =
      .ok ⟨".postgresql.host", .beside (.beside (.beside (.beside (.scalar .here))))⟩ := by
    decide +kernel
  have hport : resolve ".postgresql.port".toList =
      .ok ⟨".postgresql.port", .beside (.beside (.beside (.beside (.scalar (.there .here)))))⟩ := by
    decide +kernel
  have hresolve : ∀ token ∈ f.tokens, ∃ t, resolve token = .ok t :=
    List.forall_mem_cons.mpr ⟨⟨_, hhost⟩, List.forall_mem_singleton.mpr ⟨_, hport⟩⟩
  have hbar : ¬ " | ".toList <:+: f.patternText lead := by decide +kernel
  have hhead : ¬ "| ".toList <+: f.patternText lead := by decide +kernel
  have hf : f.Separated := by decide +kernel
  have hleaf : String.ofList ("parse ".toList ++ f.patternText lead) =
      "parse postgresql://.postgresql.host-->.postgresql.port?sslmode=$" := by decide +kernel
  have hvalue : String.ofList (f.valueText lead "disable".toList) =
      "postgresql://db--->5432?sslmode=disable" := by decide +kernel
  obtain ⟨s, hs, hrun⟩ := apply_filled lead f hread hresolve hbar hhead hf
  refine ⟨⟨hread, hresolve, hbar, hhead, hf⟩, s, hleaf ▸ hs, ?_⟩
  intro r
  rw [← hvalue]
  exact hrun "disable".toList r

/-- The bar that a pattern begins with ends the segment before it, so that no path is left. -/
theorem compile_bar_pattern :
    let lead := some "| ".toList
    let f : Filling := .last ".redis.host".toList "cache".toList none
    Pattern.read (f.patternText lead) = f.pattern lead ∧
      (∀ token ∈ f.tokens, ∃ t, resolve token = .ok t) ∧ ¬ " | ".toList <:+: f.patternText lead ∧
      f.Separated ∧
      compile (String.ofList ("parse ".toList ++ f.patternText lead)) =
        .error (.invalidPath "parse") := by
  intro lead f
  have hhost : resolve ".redis.host".toList =
      .ok ⟨".redis.host", .beside (.beside (.beside (.scalar .here)))⟩ := by decide +kernel
  exact ⟨by decide +kernel, List.forall_mem_singleton.mpr ⟨_, hhost⟩, by decide +kernel,
    by decide +kernel, by decide +kernel⟩

end Setter
end ServiceAtlas
