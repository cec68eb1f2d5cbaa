import TypedGraphQL.CommandLine.Run
import TypedGraphQL.Proofs.Files.Change

namespace TypedGraphQL

namespace FileTree

/-- The code for the schema in a file, or why there is none. -/
def codeFor (tree : FileTree) (schemaPath : String) (config : Config) :
    Except GenerateError String := do
  let text ← (tree.readText schemaPath).mapError (.unreadable schemaPath)
  generate text config

/-- The configuration that a command is given in a file, or why there is none. -/
def configFor [Config.Report] (tree : FileTree) :
    Option String → Except GenerateError Config
  | none => .ok .standard
  | some path => do
    let text ← (tree.readText path).mapError fun fault => .config (.unreadable path fault)
    match Config.read? text with
    | some config => .ok config
    | none => .error (.config (.malformed (Config.Report.fault text)))

/--
The code has been written to the output.  Or else no file has changed, and in the
tree as it was the output could not be written to either.
-/
def AllOrNothing (tree : FileTree) (output code : String) :
    Except GenerateError Unit × FileTree → Prop
  | (.ok (), after) => tree.WrittenIn output code after
  | (.error _, after) =>
    (∃ fault, tree.writeText output code = .error fault) ∧ tree.KeptIn after

theorem AllOrNothing.of_keptIn {tree between : FileTree} {output code : String}
    {fault : FileFault} {outcome : Except GenerateError Unit × FileTree}
    (refused : tree.writeText output code = .error fault) (kept : tree.KeptIn between)
    (done : between.AllOrNothing output code outcome) :
    tree.AllOrNothing output code outcome := by
  obtain ⟨result, after⟩ := outcome
  cases result with
  | error error => exact ⟨⟨fault, refused⟩, kept.trans done.2⟩
  | ok value => exact WrittenIn.of_keptIn kept done

end FileTree

section Run

open FileTree (access)

variable {tree : FileTree} {schemaPath output code : String} {config : Config}

theorem run_bind {α β : Type} (first : ExceptT GenerateError (StateM FileTree) α)
    (next : α → ExceptT GenerateError (StateM FileTree) β) (tree : FileTree) :
    (first >>= next).run.run tree =
      match first.run.run tree with
      | (.ok value, between) => (next value).run.run between
      | (.error error, between) => (.error error, between) := by
  rw [ExceptT.run_bind, StateT.run_bind]
  obtain ⟨result, between⟩ := first.run.run tree
  cases result <;> rfl

theorem run_guarded {α : Type} (blame : FileFault → GenerateError)
    (operation : StateM FileTree (Except FileFault α)) (tree : FileTree) :
    (guarded blame operation).run.run tree =
      ((operation.run tree).1.mapError blame, (operation.run tree).2) :=
  rfl

theorem run_loadSchema (tree : FileTree) (schemaPath : String) :
    (loadSchema access schemaPath).run.run tree =
      ((tree.readText schemaPath).mapError (.unreadable schemaPath), tree) :=
  rfl

theorem run_generated (tree : FileTree) (schemaPath : String) (config : Config) :
    (do let text ← loadSchema access schemaPath
        ExceptT.mk (pure (generate text config))).run.run tree =
      (tree.codeFor schemaPath config, tree) := by
  rw [run_bind, run_loadSchema, FileTree.codeFor]
  cases tree.readText schemaPath <;> rfl

theorem run_generateFile (tree : FileTree) (schemaPath output : String)
    (config : Config) :
    (generateFile access schemaPath output config).run.run tree =
      match tree.codeFor schemaPath config with
      | .error error => (.error error, tree)
      | .ok code =>
        (do if let some parent := FilePath.parent? output then
              guarded (.unwritable parent) (access.createDirectories parent)
            guarded (.unwritable output) (access.writeText output code)).run.run tree := by
  rw [generateFile, ← bind_assoc, run_bind, run_generated]
  cases tree.codeFor schemaPath config <;> rfl

theorem allOrNothing_writeText (tree : FileTree) (output code : String) :
    tree.AllOrNothing output code
      ((guarded (.unwritable output) (access.writeText output code)).run.run tree) := by
  have run : (access.writeText output code).run tree =
      FileTree.change (·.writeText output code) tree := rfl
  rw [run_guarded, run, FileTree.change]
  cases written : tree.writeText output code with
  | error fault => exact ⟨⟨fault, written⟩, FileTree.KeptIn.refl tree⟩
  | ok after => exact FileTree.WrittenIn.of_writeText written

theorem allOrNothing_generateFile (generated : tree.codeFor schemaPath config = .ok code) :
    tree.AllOrNothing output code
      ((generateFile access schemaPath output config).run.run tree) := by
  rw [run_generateFile, generated]
  dsimp only
  cases above : FilePath.parent? output with
  | none => exact allOrNothing_writeText tree output code
  | some parent =>
      rw [run_bind, run_guarded]
      cases written : tree.writeText output code with
      | ok after =>
          obtain ⟨_, _, located, -⟩ := FileTree.exists_of_writeText written
          rw [FileTree.run_createDirectories_of_locate above located]
          exact allOrNothing_writeText tree output code
      | error refusal =>
          have kept := FileTree.keeps_createDirectories parent tree
          generalize (access.createDirectories parent).run tree = made at kept
          obtain ⟨result, between⟩ := made
          cases result with
          | error fault => exact ⟨⟨refusal, written⟩, kept⟩
          | ok done =>
              exact (allOrNothing_writeText between output code).of_keptIn written kept

/-! Commands -/

variable [Config.Report]

theorem run_loadConfig (tree : FileTree) (path : String) :
    (loadConfig access path).run.run tree = (tree.configFor (some path), tree) := by
  have run : (access.readText path).run tree = (tree.readText path, tree) := rfl
  rw [loadConfig, run_bind, run_guarded, run, FileTree.configFor]
  cases tree.readText path with
  | error fault => rfl
  | ok text =>
      dsimp only [Except.mapError, bind, Except.bind]
      cases Config.read? text <;> rfl

def GenerateError.outcome (error : GenerateError) : Outcome :=
  ⟨1, "", error.message ++ "\n"⟩

namespace Invocation

def configured : Option String → ExceptT GenerateError (StateM FileTree) Config
  | some path => loadConfig access path
  | none => pure .standard

theorem run_configured (tree : FileTree) (configPath : Option String) :
    (configured configPath).run.run tree = (tree.configFor configPath, tree) := by
  cases configPath with
  | none => rfl
  | some path => exact run_loadConfig tree path

theorem run_generate (tree : FileTree) (arguments : GenerateArguments) :
    (run access (.generate arguments)).run tree =
      match (runGenerate access arguments).run.run tree with
      | (.ok outcome, after) => (outcome, after)
      | (.error error, after) => (error.outcome, after) := by
  rw [run, StateT.run_bind]
  obtain ⟨result, after⟩ := (runGenerate access arguments).run.run tree
  cases result <;> rfl

theorem run_generate_printed (tree : FileTree) (schemaPath : String)
    (configPath : Option String) :
    (run access (.generate ⟨schemaPath, none, configPath⟩)).run tree =
      match (tree.configFor configPath).bind (tree.codeFor schemaPath) with
      | .ok code => (⟨0, code, ""⟩, tree)
      | .error error => (error.outcome, tree) := by
  have program : runGenerate access ⟨schemaPath, none, configPath⟩ = (do
      let config ← configured configPath
      let text ← loadSchema access schemaPath
      let code ← ExceptT.mk (pure (TypedGraphQL.generate text config))
      return ⟨0, code, ""⟩) := by
    cases configPath <;> rfl
  rw [run_generate, program, run_bind, run_configured]
  cases tree.configFor configPath with
  | error error => rfl
  | ok config =>
      dsimp only [Except.bind]
      rw [← bind_assoc, run_bind, run_generated]
      cases tree.codeFor schemaPath config <;> rfl

theorem run_generate_written (tree : FileTree) (schemaPath output : String)
    (configPath : Option String) :
    (run access (.generate ⟨schemaPath, some output, configPath⟩)).run tree =
      match tree.configFor configPath with
      | .error error => (error.outcome, tree)
      | .ok config =>
        match (generateFile access schemaPath output config).run.run tree with
        | (.ok (), after) => (⟨0, "", "Generated " ++ output ++ "\n"⟩, after)
        | (.error error, after) => (error.outcome, after) := by
  have program : runGenerate access ⟨schemaPath, some output, configPath⟩ = (do
      let config ← configured configPath
      generateFile access schemaPath output config
      return ⟨0, "", "Generated " ++ output ++ "\n"⟩) := by
    cases configPath <;> rfl
  rw [run_generate, program, run_bind, run_configured]
  cases tree.configFor configPath with
  | error error => rfl
  | ok config =>
      dsimp only
      rw [run_bind]
      generalize (generateFile access schemaPath output config).run.run tree = outcome
      obtain ⟨result, after⟩ := outcome
      cases result <;> rfl

end Invocation

/--
If the schema cannot be read or made into code, nothing changes at all.  Otherwise
the code is written to the output, in directories that exist then, and no other
file changes; or no file changes, which is so only if the output could not be
written to.  A command without an output prints the same code, and where reading or
generating fails it says the same.
-/
theorem generation_all_or_nothing (tree : FileTree) (schemaPath output : String) :
    (∀ config : Config,
      match tree.codeFor schemaPath config with
      | .error error =>
        (generateFile access schemaPath output config).run.run tree =
          (.error error, tree)
      | .ok code =>
        tree.AllOrNothing output code
          ((generateFile access schemaPath output config).run.run tree)) ∧
    ∀ configPath : Option String,
      match (tree.configFor configPath).bind (tree.codeFor schemaPath) with
      | .error error =>
        (Invocation.run access (.generate ⟨schemaPath, some output, configPath⟩)).run
            tree = (error.outcome, tree) ∧
          (Invocation.run access (.generate ⟨schemaPath, none, configPath⟩)).run tree =
            (error.outcome, tree)
      | .ok code =>
        (∃ result after, tree.AllOrNothing output code (result, after) ∧
          (Invocation.run access (.generate ⟨schemaPath, some output, configPath⟩)).run
              tree =
            match result with
            | .ok () => (⟨0, "", "Generated " ++ output ++ "\n"⟩, after)
            | .error error => (error.outcome, after)) ∧
          (Invocation.run access (.generate ⟨schemaPath, none, configPath⟩)).run tree =
            (⟨0, code, ""⟩, tree) := by
  have written (config : Config) {code : String}
      (generated : tree.codeFor schemaPath config = .ok code) :=
    @allOrNothing_generateFile tree schemaPath output code config generated
  refine ⟨fun config => ?_, fun configPath => ?_⟩
  · cases generated : tree.codeFor schemaPath config with
    | error error => simp only [run_generateFile, generated]
    | ok code => exact written config generated
  · rw [Invocation.run_generate_written, Invocation.run_generate_printed]
    cases tree.configFor configPath with
    | error error => exact ⟨rfl, rfl⟩
    | ok config =>
        dsimp only [Except.bind]
        cases generated : tree.codeFor schemaPath config with
        | error error => simp only [run_generateFile, generated, and_self]
        | ok code =>
            have done := written config generated
            generalize (generateFile access schemaPath output config).run.run tree =
              outcome at done
            obtain ⟨result, after⟩ := outcome
            refine ⟨⟨result, after, done, ?_⟩, rfl⟩
            cases result <;> rfl

end Run

end TypedGraphQL
