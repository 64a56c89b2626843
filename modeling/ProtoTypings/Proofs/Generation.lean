import Mathlib
import ProtoTypings.Proofs.ImportSection
import ProtoTypings.Run.Generate

namespace ProtoTypings

theorem bind_eq_ok {ε α β : Type} {x : Except ε α} {f : α → Except ε β} {r : β} :
    x >>= f = .ok r ↔ ∃ a, x = .ok a ∧ f a = .ok r := by
  rcases x with e | a <;> simp [Bind.bind, Except.bind]

theorem mapM_eq_ok_iff {ε α β : Type} {f : α → Except ε β} {xs : List α} {ys : List β} :
    xs.mapM f = .ok ys ↔ List.Forall₂ (fun x y => f x = .ok y) xs ys := by
  induction xs generalizing ys with
  | nil => simp [Pure.pure, Except.pure, eq_comm]
  | cons x rest ih =>
    simp only [List.mapM_cons, bind_eq_ok, List.forall₂_cons_left_iff, ih]
    simp [Pure.pure, Except.pure, eq_comm]

end ProtoTypings

namespace ProtoTypings.Run

open ProtoTypings.Schema
open ProtoTypings.Emit

def declarationCounts (file : FileDescriptor) : Stats :=
  { messages := (nestedTally file.messages).messages
    enums := (nestedTally file.messages).enums + file.enums.length
    extensions := (nestedTally file.messages).extensions + file.extensions.length
    services := file.services.length
    methods := (file.services.map (·.methods.length)).sum }

def Stats.add (a b : Stats) : Stats :=
  { filesSynthesized := a.filesSynthesized + b.filesSynthesized
    messages := a.messages + b.messages
    enums := a.enums + b.enums
    extensions := a.extensions + b.extensions
    services := a.services + b.services
    methods := a.methods + b.methods
    artifactsWritten := a.artifactsWritten + b.artifactsWritten }

/-- What a run makes of one requested path: the first file of that name with its artifacts, or the
first failure among a missing file, its declarations and, when services are on, its services. The
services artifact is kept when services are on and the file has a service. -/
def targetOutcome (c : Catalog) (files : List FileDescriptor) (options : Options)
    (target : String) : Except Failure (FileDescriptor × List Artifact) := do
  let some file := files.find? (·.name == target) | throw (.missingFile target)
  let declarations ← c.declarations file
  if options.services then
    let services ← c.services file
    pure (file, ⟨Module.declarationsName target, declarations⟩ ::
      if file.services = [] then [] else [⟨Module.servicesName target, services⟩])
  else
    pure (file, [⟨Module.declarationsName target, declarations⟩])

theorem targetOutcome_eq_ok {c : Catalog} {files : List FileDescriptor} {options : Options}
    {target : String} {outcome : FileDescriptor × List Artifact} :
    targetOutcome c files options target = .ok outcome ↔
      ∃ file declarations, files.find? (·.name == target) = some file ∧
        c.declarations file = .ok declarations ∧
        ((options.services = true ∧ ∃ services, c.services file = .ok services ∧
            (file, ⟨Module.declarationsName target, declarations⟩ ::
              if file.services = [] then [] else [⟨Module.servicesName target, services⟩]) = outcome) ∨
          (options.services = false ∧
            (file, [⟨Module.declarationsName target, declarations⟩]) = outcome)) := by
  unfold targetOutcome
  rcases named : files.find? (·.name == target) with _ | file
  · simp [named, throw, throwThe, MonadExceptOf.throw]
  · cases on : options.services <;>
      simp [named, bind_eq_ok, Pure.pure, Except.pure]

theorem artifactText_ne_empty (file : FileDescriptor) (imports : List String) (body : String) :
    artifactText file imports body ≠ "" := by
  simp [artifactText, String.join_cons, String.append_eq_empty_iff]

theorem services_eq_empty_iff {c : Catalog} {file : FileDescriptor} {text : String}
    (built : c.services file = .ok text) : text = "" ↔ file.services = [] := by
  by_cases offers : file.services = []
  · simp only [Catalog.services, offers, List.isEmpty_nil, if_true, Except.ok.injEq] at built
    simp [← built, offers]
  · obtain ⟨_, _, _, layout⟩ := (services_eq_ok offers).mp built
    simp only [offers, iff_false]
    rw [layout]
    exact artifactText_ne_empty _ _ _

theorem fileArtifacts_of_services {c : Catalog} {file : FileDescriptor} {options : Options}
    {text : String} (on : options.services = true) (served : c.services file = .ok text)
    (declarations : String) :
    fileArtifacts options file declarations text =
      ⟨Module.declarationsName file.name, declarations⟩ ::
        if file.services = [] then [] else [⟨Module.servicesName file.name, text⟩] := by
  have empty := services_eq_empty_iff served
  by_cases offers : file.services = []
  · simp [fileArtifacts, on, offers, empty.mpr offers]
  · simp [fileArtifacts, on, offers]
    exact fun blank => offers (empty.mp blank)

theorem foldl_methods (services : List ServiceDescriptor) (n : Nat) :
    services.foldl (fun n svc => n + svc.methods.length) n =
      n + (services.map (·.methods.length)).sum := by
  induction services generalizing n with
  | nil => simp
  | cons svc rest ih => rw [List.foldl_cons, ih, List.map_cons, List.sum_cons, Nat.add_assoc]

theorem count_eq_add (s : Stats) (file : FileDescriptor) :
    s.count file = s.add { declarationCounts file with filesSynthesized := 1 } := by
  simp only [Stats.count, Stats.add, declarationCounts, foldl_methods, Nat.add_zero, Nat.add_assoc]

theorem step_eq (c : Catalog) (files : List FileDescriptor) (options : Options) (acc : Generated)
    (target : String) :
    step c files options acc target =
      (targetOutcome c files options target).map fun outcome =>
        { stats := acc.stats.count outcome.1, artifacts := acc.artifacts ++ outcome.2 } := by
  unfold step targetOutcome
  rcases found : files.find? (·.name == target) with _ | file
  · simp only [found]
    rfl
  · have named : file.name = target := by simpa using List.find?_some found
    simp only [found]
    rcases declared : c.declarations file with e | declarations
    · rfl
    · cases on : options.services
      · simp [Bind.bind, Except.bind, Pure.pure, Except.pure, Except.map, fileArtifacts, on, named]
      · rcases served : c.services file with e | text
        · rfl
        · simp [Bind.bind, Except.bind, Pure.pure, Except.pure, Except.map,
            fileArtifacts_of_services on served, named]

theorem foldlM_step (c : Catalog) (files : List FileDescriptor) (options : Options) :
    ∀ (targets : List String) (acc : Generated),
      targets.foldlM (step c files options) acc =
        (targets.mapM (targetOutcome c files options)).map fun outcomes =>
          { stats := outcomes.foldl (fun s outcome => s.count outcome.1) acc.stats,
            artifacts := acc.artifacts ++ outcomes.flatMap (·.2) }
  | [], acc => by simp [Pure.pure, Except.pure, Except.map]
  | target :: rest, acc => by
    rw [List.foldlM_cons, List.mapM_cons, step_eq]
    rcases outcome : targetOutcome c files options target with e | ⟨file, artifacts⟩
    · rfl
    · simp only [Bind.bind, Except.bind, Except.map]
      rw [foldlM_step c files options rest]
      rcases later : rest.mapM (targetOutcome c files options) with e | outcomes
      · rfl
      · simp [Pure.pure, Except.pure, Except.map, List.append_assoc]

theorem foldl_count (outcomes : List (FileDescriptor × List Artifact)) :
    ∀ s : Stats, outcomes.foldl (fun s outcome => s.count outcome.1) s =
      s.add { (outcomes.map fun o => declarationCounts o.1).foldr Stats.add {} with
        filesSynthesized := outcomes.length } := by
  induction outcomes with
  | nil => intro s; simp [Stats.add]
  | cons outcome rest ih =>
    intro s
    rw [List.foldl_cons, ih, count_eq_add]
    simp only [Stats.add, declarationCounts, List.map_cons, List.foldr_cons, List.length_cons]
    congr 1 <;> omega

theorem catalog_build_error {files : List FileDescriptor} {e : Failure}
    (failed : Catalog.build files = .error e) :
    ∃ shared first second, e = .aliasClash shared first second := by
  unfold Catalog.build at failed
  rcases table : Module.AliasTable.build (files.map (·.name)) with e' | aliases
  · simp only [table] at failed
    cases failed
    exact Module.build_error table
  · simp [table, Bind.bind, Except.bind, Pure.pure, Except.pure] at failed

theorem targetOutcome_of_services (c : Catalog) (files : List FileDescriptor) {options : Options}
    (on : options.services = true) (target : String) :
    targetOutcome c files options target =
      match files.find? (·.name == target) with
      | none => .error (.missingFile target)
      | some file => (c.synthesize file).map fun (declarations, services) =>
          (file, fileArtifacts options file declarations services) := by
  unfold targetOutcome Catalog.synthesize
  rcases found : files.find? (·.name == target) with _ | file
  · simp only [found]
    rfl
  · have named : file.name = target := by simpa using List.find?_some found
    simp only [found]
    rcases declared : c.declarations file with e | declarations
    · rfl
    · rcases served : c.services file with e | text
      · simp [Bind.bind, Except.bind, Except.map, on]
      · simp [Bind.bind, Except.bind, Pure.pure, Except.pure, Except.map, on,
          fileArtifacts_of_services on served, named]

/-- A run builds the catalog, takes the outcome of each target in order, stopping at the first
failure, and gathers their artifacts and counts. -/
theorem generate_eq_outcomes (files : List FileDescriptor) (targets : List String)
    (options : Options) :
    generate files targets options =
      (do
        let c ← Catalog.build files
        let outcomes ← targets.mapM (targetOutcome c files options)
        let artifacts := outcomes.flatMap (·.2)
        pure { artifacts,
               stats := { (outcomes.map fun o => declarationCounts o.1).foldr Stats.add {} with
                 filesSynthesized := targets.length, artifactsWritten := artifacts.length } }) := by
  unfold generate
  rcases built : Catalog.build files with e | c
  · rfl
  · simp only [Bind.bind, Except.bind]
    rw [foldlM_step]
    rcases ran : targets.mapM (targetOutcome c files options) with e | outcomes
    · rfl
    · simp [Except.map, Pure.pure, Except.pure, foldl_count,
        ← (mapM_eq_ok_iff.mp ran).length_eq, Stats.add]

/-- A run over a descriptor set. When the catalog cannot be built the run fails with that
failure, a clash of aliases. Otherwise it is the outcome of each target in order, stopping at the
first failure: a missing file, a failure of the file's declarations or, with services on, of its
services. Its artifacts are those of all targets one after another, its counts the declarations
of their files summed field by field, with one file synthesized per target and one artifact
written per artifact. With services on, the artifacts of a target are both artifacts of its
file. -/
theorem generate_by_targets (files : List FileDescriptor) (targets : List String)
    (options : Options) :
    generate files targets options =
      (do
        let c ← Catalog.build files
        let outcomes ← targets.mapM (targetOutcome c files options)
        let artifacts := outcomes.flatMap (·.2)
        pure { artifacts,
               stats := { (outcomes.map fun o => declarationCounts o.1).foldr Stats.add {} with
                 filesSynthesized := targets.length, artifactsWritten := artifacts.length } }) ∧
    (∀ e, Catalog.build files = .error e → ∃ shared first second, e = .aliasClash shared first second) ∧
    (∀ c target, targetOutcome c files { services := true } target =
      match files.find? (·.name == target) with
      | none => .error (.missingFile target)
      | some file => (c.synthesize file).map fun (declarations, services) =>
          (file, fileArtifacts { services := true } file declarations services)) := by
  refine ⟨generate_eq_outcomes files targets options, fun e failed => catalog_build_error failed,
    fun c target => targetOutcome_of_services c files rfl target⟩

theorem clashing_paths_run :
    Catalog.build [{ name := "a-b.proto" }, { name := "a_b.proto" }] =
      .error (.aliasClash "a_b_pb" "a-b.proto" "a_b.proto") ∧
    ∃ shared first second,
      Failure.aliasClash "a_b_pb" "a-b.proto" "a_b.proto" = .aliasClash shared first second :=
  ⟨rfl, (generate_by_targets [{ name := "a-b.proto" }, { name := "a_b.proto" }] [] {}).2.1 _ rfl⟩

end ProtoTypings.Run
