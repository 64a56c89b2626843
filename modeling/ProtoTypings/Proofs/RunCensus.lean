import ProtoTypings.Proofs.DeclarationCensus

namespace ProtoTypings.Run

open ProtoTypings.Schema
open ProtoTypings.Layout
open ProtoTypings.Emit

/-- Whether an artifact is a services artifact, by the ending of its name. -/
def servicesArtifact (name : String) : Bool :=
  decide ("_service.d.ts".toList <:+ name.toList)

/-- The census of artifacts, one after another, each read as the kind of artifact its name
says. -/
def artifactsCensus (artifacts : List Artifact) : Census :=
  artifacts.foldr (fun a c => census (servicesArtifact a.name) a.content + c) {}

@[simp] theorem servicesArtifact_servicesName (path : String) :
    servicesArtifact (Module.servicesName path) = true := by
  have ends : "_service.d.ts".toList <:+ (Module.servicesName path).toList := by
    rw [Module.servicesName, String.toList_append]
    exact List.suffix_append _ _
  exact decide_eq_true ends

/- Read backwards, a declarations name starts with `st.d.bp_` and a services name with
`st.d.ecivres_`. -/
@[simp] theorem servicesArtifact_declarationsName (path : String) :
    servicesArtifact (Module.declarationsName path) = false := by
  have ends : ¬ "_service.d.ts".toList <:+ (Module.declarationsName path).toList := by
    rw [← List.reverse_prefix]
    simp [Module.declarationsName, Module.modulePath, String.toList_append, List.cons_prefix_cons]
  exact decide_eq_false ends

def targetFiles (files : List FileDescriptor) (targets : List String) : List FileDescriptor :=
  targets.filterMap fun t => files.find? (·.name == t)

def fileCensus (options : Options) (file : FileDescriptor) : Census :=
  { messageClasses := (declarationCounts file).messages,
    enums := (declarationCounts file).enums + nestedCases file.messages,
    extensions := (declarationCounts file).extensions,
    serviceClasses := if options.services then (declarationCounts file).services else 0,
    methodClasses := if options.services then (declarationCounts file).methods else 0 }

theorem artifactsCensus_append (xs ys : List Artifact) :
    artifactsCensus (xs ++ ys) = artifactsCensus xs + artifactsCensus ys := by
  induction xs with
  | nil => simp [artifactsCensus]
  | cons a rest ih =>
    simp only [artifactsCensus, List.cons_append, List.foldr_cons] at ih ⊢
    rw [ih, Census.add_assoc]

theorem targetOutcome_census {files : List FileDescriptor} {c : Catalog} {options : Options}
    {target : String} {outcome : FileDescriptor × List Artifact}
    (built : Catalog.build files = .ok c) (ran : targetOutcome c files options target = .ok outcome)
    (free : LineFreeFile files outcome.1) :
    artifactsCensus outcome.2 = fileCensus options outcome.1 := by
  obtain ⟨file, declarations, -, declared, ⟨on, services, served, rfl⟩ | ⟨off, rfl⟩⟩ :=
    targetOutcome_eq_ok.mp ran
  · have declarationsCount := declarations_census built free declared
    have servicesCount := services_census built free served
    by_cases offers : file.services = []
    · -- a file without services writes no services artifact, and counts none
      simp only [offers, if_true, artifactsCensus, List.foldr_cons, List.foldr_nil, Census.add_empty,
        servicesArtifact_declarationsName, declarationsCount]
      ext <;> simp [fileCensus, declarationCounts, offers, on]
    · simp only [offers, if_false, artifactsCensus, List.foldr_cons, List.foldr_nil,
        Census.add_empty, servicesArtifact_declarationsName, servicesArtifact_servicesName,
        declarationsCount, servicesCount]
      ext <;> simp [fileCensus, on]
  · simp only [artifactsCensus, List.foldr_cons, List.foldr_nil, Census.add_empty,
      servicesArtifact_declarationsName, declarations_census built free declared]
    ext <;> simp [fileCensus, off]

theorem targetOutcome_file {files : List FileDescriptor} {c : Catalog} {options : Options}
    {target : String} {outcome : FileDescriptor × List Artifact}
    (ran : targetOutcome c files options target = .ok outcome) :
    files.find? (·.name == target) = some outcome.1 := by
  obtain ⟨file, _, found, -, ⟨-, -, -, rfl⟩ | ⟨-, rfl⟩⟩ := targetOutcome_eq_ok.mp ran <;> exact found

theorem outcomes_of_targets {files : List FileDescriptor} {c : Catalog} {options : Options} :
    ∀ {targets : List String} {outcomes : List (FileDescriptor × List Artifact)},
      List.Forall₂ (fun t o => targetOutcome c files options t = .ok o) targets outcomes →
        targetFiles files targets = outcomes.map Prod.fst ∧
          ∀ o ∈ outcomes, ∃ t, targetOutcome c files options t = .ok o
  | [], [], .nil => ⟨rfl, by simp⟩
  | t :: _, o :: _, .cons ran rest => by
    obtain ⟨same, each⟩ := outcomes_of_targets rest
    refine ⟨by simp [targetFiles, targetOutcome_file ran, ← same], ?_⟩
    rintro o' (_ | ⟨_, member⟩)
    · exact ⟨t, ran⟩
    · exact each o' member

theorem outcomes_census (options : Options) :
    ∀ {outcomes : List (FileDescriptor × List Artifact)},
      (∀ o ∈ outcomes, artifactsCensus o.2 = fileCensus options o.1) →
        let counts := (outcomes.map fun o => declarationCounts o.1).foldr Stats.add {}
        artifactsCensus (outcomes.flatMap (·.2)) =
            { messageClasses := counts.messages,
              enums := counts.enums + (outcomes.map fun o => nestedCases o.1.messages).sum,
              extensions := counts.extensions,
              serviceClasses := if options.services then counts.services else 0,
              methodClasses := if options.services then counts.methods else 0 } ∧
          counts.services = (outcomes.map fun o => o.1.services.length).sum ∧
          counts.methods = (outcomes.map fun o => (o.1.services.map (·.methods.length)).sum).sum
  | [], _ => by
    refine ⟨?_, rfl, rfl⟩
    ext <;> simp [artifactsCensus]
  | o :: rest, each => by
    obtain ⟨total, services, methods⟩ :=
      outcomes_census options fun o' member => each o' (List.mem_cons_of_mem o member)
    dsimp only at total services methods ⊢
    rw [List.flatMap_cons, artifactsCensus_append, each o List.mem_cons_self, total]
    refine ⟨?_, ?_, ?_⟩
    · cases on : options.services <;> ext <;> simp [fileCensus, Stats.add, on] <;> omega
    · simp only [List.map_cons, List.foldr_cons, List.sum_cons]
      rw [← services]
      rfl
    · simp only [List.map_cons, List.foldr_cons, List.sum_cons]
      rw [← methods]
      rfl

/-- A successful run over requested files whose copied texts hold no line break writes
declarations artifacts with a message class per counted message, an enum per counted enum and
per case enum of the files' oneofs, and an extension constant per counted extension. It counts
the services and methods of every requested file; with services on, the services artifacts have
one service class per counted service and one method class per counted method, and with services
off they are not written and the artifacts have none. -/
theorem run_census {files : List FileDescriptor} {targets : List String} {options : Options}
    {g : Generated} (ran : generate files targets options = .ok g)
    (free : ∀ f ∈ targetFiles files targets, LineFreeFile files f) :
    artifactsCensus g.artifacts =
        { messageClasses := g.stats.messages,
          enums := g.stats.enums + ((targetFiles files targets).map fun f => nestedCases f.messages).sum,
          extensions := g.stats.extensions,
          serviceClasses := if options.services then g.stats.services else 0,
          methodClasses := if options.services then g.stats.methods else 0 } ∧
      g.stats.services = ((targetFiles files targets).map fun f => f.services.length).sum ∧
      g.stats.methods =
        ((targetFiles files targets).map fun f => (f.services.map (·.methods.length)).sum).sum := by
  rw [generate_eq_outcomes] at ran
  obtain ⟨c, built, ran⟩ := bind_eq_ok.mp ran
  obtain ⟨outcomes, ranOutcomes, done⟩ := bind_eq_ok.mp ran
  simp only [Pure.pure, Except.pure, Except.ok.injEq] at done
  subst done
  obtain ⟨written, landed⟩ := outcomes_of_targets (mapM_eq_ok_iff.mp ranOutcomes)
  rw [written] at free ⊢
  -- each outcome's artifacts count its file's census
  have each : ∀ o ∈ outcomes, artifactsCensus o.2 = fileCensus options o.1 := by
    intro o member
    obtain ⟨t, outcome⟩ := landed o member
    exact targetOutcome_census built outcome (free o.1 (List.mem_map_of_mem member))
  simpa [List.map_map, Function.comp_def] using outcomes_census options each

def storeFile : FileDescriptor :=
  let item : MessageDescriptor :=
    { name := "Item", fields := [{ name := "sku", number := 1, kind := .string }] }
  let order : MessageDescriptor :=
    { name := "Order",
      fields := [{ name := "item", number := 1, kind := .message, typeName := ".shop.Order.Item" },
        { name := "card", number := 2, kind := .string, oneofIndex := some 0 }],
      nested := [item], enums := [{ name := "State", values := [{ name := "OPEN" }] }],
      oneofs := ["payment"] }
  let store : ServiceDescriptor :=
    { name := "Store",
      methods := [{ name := "Place", inputType := ".shop.Order", outputType := ".shop.Order" },
        { name := "Track", inputType := ".shop.Order", outputType := ".shop.Order.Item" }] }
  { name := "shop/store.proto", package := "shop", messages := [order],
    enums := [{ name := "Region", values := [{ name := "EU" }] }],
    extensions := [{ name := "tag", number := 100, kind := .string, extendee := ".shop.Order" }],
    services := [store] }

theorem store_run_census :
    ∃ g, generate [storeFile] ["shop/store.proto"] {} = .ok g ∧
      artifactsCensus g.artifacts =
        { messageClasses := 2, enums := 3, extensions := 1, serviceClasses := 1,
          methodClasses := 2 } := by
  obtain ⟨g, ran⟩ : ∃ g, generate [storeFile] ["shop/store.proto"] {} = .ok g := ⟨_, rfl⟩
  have files : targetFiles [storeFile] ["shop/store.proto"] = [storeFile] := rfl
  have free : ∀ f ∈ targetFiles [storeFile] ["shop/store.proto"], LineFreeFile [storeFile] f := by
    rw [files]
    intro f member
    rw [List.mem_singleton.mp member]
    exact ⟨⟨by decide, by decide, by decide, by decide, by decide⟩, by decide, by decide⟩
  have stats : g.stats = ⟨1, 2, 2, 1, 1, 2, 2⟩ := by
    have counted : (generate [storeFile] ["shop/store.proto"] {}).map Generated.stats =
        .ok ⟨1, 2, 2, 1, 1, 2, 2⟩ := by
      decide +kernel
    rw [ran] at counted
    exact Except.ok.inj counted
  refine ⟨g, ran, ?_⟩
  rw [(run_census ran free).1, stats, files]
  rfl

def serviceFile : FileDescriptor :=
  let call : MethodDescriptor := { name := "Call", inputType := ".b.Req", outputType := ".b.Req" }
  { name := "a.proto", package := "a", dependencies := ["b.proto"],
    services := [{ name := "S", methods := [call] }] }

def requestFile : FileDescriptor :=
  { name := "b.proto", package := "b", messages := [{ name := "Req" }] }

/-- With services off, a run writes only the declarations artifact, which holds no service or
method class, and still counts the file's service and its method. -/
theorem services_off_census :
    ∃ g, generate [requestFile, serviceFile] ["a.proto"] { services := false } = .ok g ∧
      g.artifacts.map (·.name) = ["a_pb.d.ts"] ∧ g.stats.services = 1 ∧ g.stats.methods = 1 ∧
      (artifactsCensus g.artifacts).serviceClasses = 0 ∧
      (artifactsCensus g.artifacts).methodClasses = 0 := by
  obtain ⟨g, ran⟩ :
      ∃ g, generate [requestFile, serviceFile] ["a.proto"] { services := false } = .ok g :=
    ⟨_, rfl⟩
  have counted : (generate [requestFile, serviceFile] ["a.proto"] { services := false }).map
      (fun g => (g.artifacts.map (·.name), g.stats.services, g.stats.methods,
        (artifactsCensus g.artifacts).serviceClasses,
        (artifactsCensus g.artifacts).methodClasses)) = .ok (["a_pb.d.ts"], 1, 1, 0, 0) := by
    decide +kernel
  rw [ran] at counted
  simp only [Except.map, Except.ok.injEq, Prod.mk.injEq] at counted
  exact ⟨g, ran, counted⟩

end ProtoTypings.Run
