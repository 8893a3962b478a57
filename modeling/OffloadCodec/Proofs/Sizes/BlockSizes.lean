import OffloadCodec.Cli.Run
import OffloadCodec.Proofs.Stream.Creation

/-!
# Block sizes from outside

A block size comes from the command line or from the environment. Both read the same texts:
`Settings.blockSizeFrom_eq` gives the setting of a variable by what the option makes of its value.
What is no block size is an error on the command line and a warning in the environment.

A command line that is read holds a block size only if one of its arguments ends in a text that is one
(`Cli.CommandLine.parse_from`): every step of reading keeps that (`Cli.Reading.From`). So the stream
options of a command are always usable, as those of any file options with such a size are
(`Cli.settled_of_parseBlockSize`), and a reader or writer that is put on heap memory with them
is made (`Cli.blockSizes_agree`).
-/

namespace OffloadCodec

/-! ## Texts -/

namespace Size

theorem isBlockSize_iff {size : Nat} :
    isBlockSize size = true ↔ blockSizeMin ≤ size ∧ size ≤ blockSizeMax := by
  simp only [isBlockSize, Bool.and_eq_true, decide_eq_true_eq]

theorem parseBlockSize_ok_iff {text : String} {size : Nat} :
    parseBlockSize text = .ok size ↔ parse? text = some size ∧ isBlockSize size = true := by
  unfold parseBlockSize
  rcases parse? text with _ | read
  · simp only [reduceCtorEq, false_and]
  · by_cases within : isBlockSize read = true
    · simp only [within, if_true, Except.ok.injEq, Option.some.injEq]
      constructor
      · rintro rfl
        exact ⟨rfl, within⟩
      · exact And.left
    · simp only [within, Bool.false_eq_true, if_false, reduceCtorEq, false_iff, Option.some.injEq]
      rintro ⟨rfl, inside⟩
      exact within inside

/-- What is said of an environment value that is no block size. -/
def BlockSizeError.reason : BlockSizeError → String
  | .invalid _ => "not a valid size"
  | .outside _ => "outside 32K..512M"

theorem isBlockSize_default : isBlockSize blockSizeDefault = true := by decide

/-- A stream can be cut into blocks of any block size. -/
theorem isUsable_of_isBlockSize {size : Nat} (within : isBlockSize size = true) :
    StreamOptions.isUsable size = true := by
  obtain ⟨least, most⟩ := isBlockSize_iff.1 within
  refine StreamOptions.isUsable_iff.2 ⟨Nat.lt_of_lt_of_le (by decide) least, ?_⟩
  exact Nat.le_trans most (by decide)

end Size

namespace Settings

/-- A variable's value is a block size if it is one on the command line. If not, the default takes
its place and the reason is kept. -/
theorem blockSizeFrom_eq (text : String) :
    blockSizeFrom (some text) =
      match Size.parseBlockSize text with
      | .ok size => ⟨size, none⟩
      | .error e => ⟨Size.blockSizeDefault, some ⟨blockSizeVariable, text, e.reason⟩⟩ := by
  simp only [blockSizeFrom, Size.parseBlockSize]
  rcases Size.parse? text with _ | size
  · rfl
  · by_cases within : Size.isBlockSize size = true
    · simp only [within, if_true]
    · simp only [within, Bool.false_eq_true, if_false]
      rfl

/-- The block size that a text asks for, if it is one. -/
def askedSize? (text : String) : Option Nat := (Size.parseBlockSize text).toOption

theorem blockSize_value (environment : Environment) :
    (blockSize environment).value =
      ((environment.lookup blockSizeVariable).bind askedSize?).getD Size.blockSizeDefault := by
  rw [blockSize]
  rcases environment.lookup blockSizeVariable with _ | text
  · rfl
  · rw [blockSizeFrom_eq, Option.bind_some, askedSize?]
    rcases Size.parseBlockSize text with _ | size
    · rfl
    · rfl

theorem askedSize?_within {text : String} {size : Nat} (asked : askedSize? text = some size) :
    Size.isBlockSize size = true := by
  rw [askedSize?] at asked
  generalize outcome : Size.parseBlockSize text = read at asked
  rcases read with _ | read
  · simp only [Except.toOption, reduceCtorEq] at asked
  · obtain rfl : read = size := by simpa only [Except.toOption, Option.some.injEq] using asked
    exact (Size.parseBlockSize_ok_iff.1 outcome).2

/-- The environment never sets another size than a block size. -/
theorem blockSize_within (environment : Environment) :
    Size.isBlockSize (blockSize environment).value = true := by
  rw [blockSize_value]
  generalize asked : (environment.lookup blockSizeVariable).bind askedSize? = size?
  rcases size? with _ | size
  · exact Size.isBlockSize_default
  · obtain ⟨text, -, asked⟩ := Option.bind_eq_some_iff.1 asked
    exact askedSize?_within asked

end Settings

/-! ## Command lines -/

namespace Cli

variable {origin : String → Prop}

theorem bind_ok {ε α β : Type} {first : Except ε α} {rest : α → Except ε β} {b : β}
    (run : first >>= rest = .ok b) : ∃ a, first = .ok a ∧ rest a = .ok b := by
  rcases first with e | a
  · cases run
  · exact ⟨a, rfl, run⟩

theorem map_ok {ε α β : Type} {result : Except ε α} {f : α → β} {b : β}
    (mapped : result.map f = .ok b) : ∃ a, result = .ok a ∧ f a = b := by
  rcases result with e | a
  · cases mapped
  · exact ⟨a, rfl, Except.ok.inj mapped⟩

/-- A block size that was given is what a text of some origin asks for. -/
def Given.From (origin : String → Prop) (given : Given) : Prop :=
  ∀ size, given.blockSize = some size → ∃ text, origin text ∧ Size.parseBlockSize text = .ok size

theorem Given.blockSizeValue_ok {text : String} {size : Nat}
    (asked : blockSizeValue text = .ok size) : Size.parseBlockSize text = .ok size := by
  unfold blockSizeValue at asked
  split at asked
  · next read => rw [read, Except.ok.inj asked]
  · cases asked

theorem Given.oneValue_mem {values : List String} {value : String}
    (one : oneValue values = .ok value) : value ∈ values := by
  rcases values with _ | ⟨first, rest⟩
  · cases one
  · rw [Except.ok.inj one]
    exact List.mem_cons_self

/-- Only the option for it sets a block size, and only to what its value asks for. -/
theorem Given.From.accept {given given' : Given} {key : Key} {values : List String}
    (held : given.From origin) (texts : ∀ text ∈ values, origin text)
    (accepted : given.accept key values = .ok given') : given'.From origin := by
  cases key with
  | help => cases accepted
  | version => cases accepted
  | verbose => cases accepted; exact held
  | quiet => cases accepted; exact held
  | blockSize =>
    obtain ⟨value, one, stores⟩ := bind_ok accepted
    obtain ⟨stored, once, written⟩ := bind_ok stores
    cases written
    rintro size rfl
    unfold Given.once at once
    split at once
    · cases once
    · obtain ⟨read, asked, same⟩ := map_ok once
      cases same
      exact ⟨value, texts value (oneValue_mem one), blockSizeValue_ok asked⟩
  | all =>
    obtain ⟨_, -, written⟩ := bind_ok accepted
    cases written
    exact held
  | library | level | input | output =>
    obtain ⟨_, -, stores⟩ := bind_ok accepted
    obtain ⟨_, -, written⟩ := bind_ok stores
    cases written
    exact held

namespace Reading

/-- So far everything that can become a block size is of some origin. -/
structure From (origin : String → Prop) (reading : Reading) : Prop where
  given : reading.given.From origin
  pending : ∀ key values, reading.pending = some (key, values) → ∀ text ∈ values, origin text

theorem From.start : From origin {} where
  given _ none := by cases none
  pending _ _ none := by cases none

section Steps

variable {reading reading' : Reading} {scope : Scope}

theorem From.settle (held : reading.From origin) (settled : reading.settle = .ok reading') :
    reading'.From origin := by
  unfold Reading.settle at settled
  split at settled
  · cases settled
    exact held
  · next key values pending =>
    obtain ⟨given, accepted, same⟩ := map_ok settled
    cases same
    exact ⟨held.given.accept (held.pending key values pending) accepted, fun _ _ none => by cases none⟩

theorem From.take {key : Key} {values : List String} (held : reading.From origin)
    (texts : ∀ text ∈ values, origin text) (taken : reading.take key values = .ok reading') :
    reading'.From origin := by
  obtain ⟨settled, settles, takes⟩ := bind_ok taken
  obtain ⟨given, accepted, same⟩ := bind_ok takes
  cases same
  have after := held.settle settles
  exact ⟨after.given.accept texts accepted, after.pending⟩

/-- What waits has no value yet. -/
theorem From.await {key : Key} (held : reading.From origin)
    (awaited : reading.await key = .ok reading') : reading'.From origin := by
  obtain ⟨settled, settles, same⟩ := bind_ok awaited
  cases same
  refine ⟨(held.settle settles).given, fun key' values pending text mem => ?_⟩
  obtain ⟨-, rfl⟩ := Prod.mk.inj (Option.some.inj pending)
  cases mem

theorem From.giveValue {value : String} (held : reading.From origin) (text : origin value) :
    (reading.giveValue value).From origin := by
  unfold Reading.giveValue
  split
  · next key values pending =>
    refine ⟨held.given, fun key' values' same text' mem => ?_⟩
    obtain ⟨-, rfl⟩ := Prod.mk.inj (Option.some.inj same)
    rcases List.mem_append.1 mem with before | last
    · exact held.pending key values pending text' before
    · rwa [List.mem_singleton.1 last]
  · exact ⟨held.given, held.pending⟩

theorem From.positional {value : String} (held : reading.From origin) (text : origin value)
    (taken : reading.positional scope value = .ok reading') : reading'.From origin := by
  unfold Reading.positional at taken
  split at taken
  · next key _ =>
    obtain ⟨settled, settles, same⟩ := bind_ok taken
    cases same
    refine ⟨(held.settle settles).given, fun key' values pending text' mem => ?_⟩
    obtain ⟨-, rfl⟩ := Prod.mk.inj (Option.some.inj pending)
    rwa [List.mem_singleton.1 mem]
  · split at taken
    · cases taken
    · cases taken

theorem From.word {name : String} {value : Option String} (held : reading.From origin)
    (texts : ∀ text, value = some text → origin text)
    (taken : reading.word scope name value = .ok reading') : reading'.From origin := by
  unfold Reading.word at taken
  split at taken
  · cases taken
  · split at taken
    · next text => exact held.take (fun _ mem => texts _ (by rw [List.mem_singleton.1 mem])) taken
    · exact held.await taken
    · cases taken
    · exact held.take (fun _ mem => by cases mem) taken

/-- The values of letters that were run together are ends of them. -/
theorem From.letters {letters : List Char} (held : reading.From origin)
    (texts : ∀ value : List Char, value <:+ letters → origin (String.ofList value))
    (taken : reading.letters scope letters = .ok reading') : reading'.From origin := by
  induction letters generalizing reading with
  | nil =>
    cases taken
    exact held
  | cons letter rest ih =>
    have behind : ∀ value : List Char, value <:+ rest → origin (String.ofList value) :=
      fun value ends => texts value (ends.trans (List.suffix_cons letter rest))
    unfold Reading.letters at taken
    split at taken
    · cases taken
    · split at taken
      · split at taken
        · exact held.await taken
        · next value =>
          refine held.take (fun text mem => ?_) taken
          rw [List.mem_singleton.1 mem]
          exact behind value (List.suffix_cons '=' value)
        · refine held.take (fun text mem => ?_) taken
          rw [List.mem_singleton.1 mem]
          exact behind rest List.suffix_rfl
      · obtain ⟨next, takes, letters⟩ := bind_ok taken
        exact ih (held.take (fun _ mem => by cases mem) takes) behind letters

/-- A value behind an equals sign ends the text that it stands in. -/
theorem splitValue_suffix {text : List Char} {name value : String}
    (split : splitValue text = (name, some value)) :
    ∃ letters : List Char, value = String.ofList letters ∧ letters <:+ text := by
  unfold splitValue at split
  generalize behind : text.dropWhile (· != '=') = rest at split
  rcases rest with _ | ⟨mark, letters⟩
  · cases split
  · obtain ⟨-, same⟩ := Prod.mk.inj split
    refine ⟨letters, (Option.some.inj same).symm, (List.suffix_cons mark letters).trans ?_⟩
    rw [← behind]
    exact List.dropWhile_suffix _

theorem From.argument {arg : String} (held : reading.From origin)
    (texts : ∀ value : List Char, value <:+ arg.toList → origin (String.ofList value))
    (taken : reading.argument scope arg = .ok reading') : reading'.From origin := by
  have whole : origin arg := by simpa only [String.ofList_toList] using texts _ List.suffix_rfl
  have asValue : ∀ {reading'}, (if reading.waiting = true ∧ ¬reading.trailing = true then
      .ok (reading.giveValue arg) else reading.positional scope arg) = .ok reading' →
      reading'.From origin := by
    intro reading' taken
    split at taken
    · cases taken
      exact held.giveValue whole
    · exact held.positional whole taken
  unfold Reading.argument at taken
  dsimp only at taken
  split at taken
  · exact asValue taken
  · split at taken
    · cases taken
      exact ⟨held.given, held.pending⟩
    · next name _ spelled =>
      refine held.word (fun text same => ?_) taken
      obtain ⟨letters, rfl, ends⟩ := splitValue_suffix (Prod.ext rfl same)
      refine texts letters (ends.trans ?_)
      rw [spelled]
      exact (List.suffix_cons '-' name).trans (List.suffix_cons '-' _)
    · exact asValue taken
    · next spelled =>
      split at taken
      · exact asValue taken
      · refine held.letters (fun value ends => texts value (ends.trans ?_)) taken
        rw [spelled]
        exact List.suffix_cons '-' _
    · exact asValue taken

end Steps

end Reading

/-- Texts that an argument ends in. -/
def EndsOneOf (args : List String) (text : String) : Prop :=
  ∃ arg ∈ args, text.toList <:+ arg.toList

theorem EndsOneOf.mono {args args' : List String} {text : String} (ends : EndsOneOf args text)
    (among : ∀ arg ∈ args, arg ∈ args') : EndsOneOf args' text := by
  obtain ⟨arg, mem, suffix⟩ := ends
  exact ⟨arg, among arg mem, suffix⟩

theorem Given.From.mono {origin' : String → Prop} {given : Given} (held : given.From origin)
    (weaker : ∀ text, origin text → origin' text) : given.From origin' := by
  intro size stored
  obtain ⟨text, from_, asked⟩ := held size stored
  exact ⟨text, weaker text from_, asked⟩

theorem Reading.From.arguments {reading reading' : Reading} {scope : Scope} {args : List String}
    (held : reading.From origin) (texts : ∀ text, EndsOneOf args text → origin text)
    (read : args.foldlM (fun reading arg => Reading.argument reading scope arg) reading =
      .ok reading') : reading'.From origin := by
  induction args generalizing reading with
  | nil =>
    cases read
    exact held
  | cons arg args ih =>
    rw [List.foldlM_cons] at read
    obtain ⟨next, first, rest⟩ := bind_ok read
    refine ih (held.argument (fun value ends => texts _ ?_) first)
      (fun text ends => texts text (ends.mono fun _ => List.mem_cons_of_mem arg)) rest
    exact ⟨arg, List.mem_cons_self, by rwa [String.toList_ofList]⟩

theorem readCommand_from {scope : Scope} {args : List String} {given : Given}
    (read : readCommand scope args = .ok given) : given.From (EndsOneOf args) := by
  obtain ⟨reading, folds, settles⟩ := bind_ok read
  obtain ⟨settled, last, checks⟩ := bind_ok settles
  have held := (Reading.From.start.arguments (fun _ ends => ends) folds).settle last
  dsimp only at checks
  split at checks
  · cases checks
  · cases checks
    exact held.given

/-- What stands behind the command is read as its arguments. -/
theorem readTop_from {reading : Reading} {args : List String} {top given : Given} {scope : Scope}
    (read : readTop reading args = .ok (top, scope, given)) : given.From (EndsOneOf args) := by
  induction args generalizing reading with
  | nil =>
    obtain ⟨settled, -, fails⟩ := bind_ok read
    split at fails
    · cases fails
    · cases fails
  | cons arg args ih =>
    have behind : ∀ text, EndsOneOf args text → EndsOneOf (arg :: args) text :=
      fun text ends => ends.mono fun _ => List.mem_cons_of_mem arg
    unfold readTop at read
    split at read
    · dsimp only at read
      split at read
      · cases read
      · split at read
        · obtain ⟨given', reads, settles⟩ := bind_ok read
          obtain ⟨settled, -, same⟩ := bind_ok settles
          cases same
          exact (readCommand_from reads).mono behind
        · obtain ⟨next, -, rest⟩ := bind_ok read
          exact (ih rest).mono behind
    · obtain ⟨next, -, rest⟩ := bind_ok read
      exact (ih rest).mono behind

/-- The files that a command works on. -/
def Command.files? : Command → Option FileArgs
  | .check _ => none
  | .compress files _ => some files
  | .decompress files => some files

/-- The block size of a command is what a text asks for that one of the arguments ends in. -/
theorem CommandLine.parse_from {argv : List String} {line : CommandLine} {files : FileArgs}
    (parsed : CommandLine.parse argv = .ok line) (works : line.command.files? = some files)
    {size : Nat} (given : files.blockSize = some size) :
    ∃ text, EndsOneOf argv text ∧ Size.parseBlockSize text = .ok size := by
  obtain ⟨⟨top, scope, args⟩, reads, same⟩ := bind_ok parsed
  have held := (readTop_from reads).mono
    (fun text ends => ends.mono fun _ => List.mem_of_mem_tail)
  cases same
  cases scope with
  | top | check => cases works
  | compress | decompress =>
    cases works
    exact held size given

/-- Behind `-B=` stands the value of the option, whatever it is made of. -/
theorem CommandLine.parse_blockSize (text : String) :
    CommandLine.parse ["qatcodec", "decompress", "-B=" ++ text, "in", "out"] =
      match Size.parseBlockSize text with
      | .ok size => .ok ⟨0, 0, none, .decompress ⟨"in", "out", some size⟩⟩
      | .error _ => .error .valueValidation := by
  have spelled : ("-B=" ++ text).toList = '-' :: 'B' :: '=' :: text.toList := by
    rw [String.toList_append]
    rfl
  have taken : ({} : Reading).argument .decompress ("-B=" ++ text) =
      ({} : Reading).take .blockSize [text] := by
    rw [Reading.argument, spelled]
    change ({} : Reading).take .blockSize [String.ofList text.toList] = _
    rw [String.ofList_toList]
  have command : readCommand .decompress ["-B=" ++ text, "in", "out"] =
      match Size.parseBlockSize text with
      | .ok size => .ok { blockSize := some size, input := some "in", output := some "out" }
      | .error _ => .error .valueValidation := by
    rw [readCommand, List.foldlM_cons, taken, Reading.take]
    simp only [Reading.settle, Given.accept, Given.oneValue, Given.once, Given.blockSizeValue,
      bind, Except.bind]
    rcases Size.parseBlockSize text with e | size
    · rfl
    · rfl
  simp only [CommandLine.parse, List.tail_cons, readTop, Scope.command?]
  rw [if_pos (by decide), if_neg (by decide)]
  simp only [command, bind, Except.bind]
  rcases Size.parseBlockSize text with e | size
  · rfl
  · rfl

/-! ## Stream options -/

theorem streamOptions_value (files : FileArgs) (environment : Environment) :
    (streamOptions files environment).value =
      { blockSize := files.blockSize.getD (((environment.lookup Settings.blockSizeVariable).bind
          Settings.askedSize?).getD Size.blockSizeDefault) } := by
  rw [← Settings.blockSize_value, streamOptions]
  rcases files.blockSize with _ | size
  · rfl
  · rfl

theorem streamOptions_within {files : FileArgs}
    (asked : ∀ size, files.blockSize = some size →
      ∃ text, Size.parseBlockSize text = .ok size) (environment : Environment) :
    Size.isBlockSize (streamOptions files environment).value.blockSize = true := by
  rw [streamOptions_value, ← Settings.blockSize_value]
  generalize given : files.blockSize = size? at asked ⊢
  rcases size? with _ | size
  · exact Settings.blockSize_within environment
  · obtain ⟨text, read⟩ := asked size rfl
    exact (Size.parseBlockSize_ok_iff.1 read).2

/-- The stream options of a command with such files hold the size that was asked for, else the
environment's, else the default; it lies within 32 KiB and 512 MiB, and every reader and writer is made
with it. -/
structure Settled (files : FileArgs) (environment : Environment) : Prop where
  asked : ∀ size, files.blockSize = some size →
    (streamOptions files environment).value.blockSize = size
  unasked : files.blockSize = none → (streamOptions files environment).value.blockSize =
    ((environment.lookup "QATCODEC_BLOCK_SIZE").bind Settings.askedSize?).getD (256 * 1024)
  least : 32 * 1024 ≤ (streamOptions files environment).value.blockSize
  most : (streamOptions files environment).value.blockSize ≤ 512 * 1024 * 1024
  usable : StreamOptions.isUsable (streamOptions files environment).value.blockSize = true
  makes : ∀ (σ ι : Type) (library : Library σ ι) (sink : Sink) (source : Source) (world : World σ),
    let options := (streamOptions files environment).value
    (∃ writer, (BlockWriter.create library sink options).runOn world =
      (.ok writer, library.asked options.blockSize world)) ∧
    ∃ reader, (BlockReader.create library source options).runOn world =
      (.ok reader, library.asked options.blockSize world)

/-- Wherever the size of a command comes from, if a text asks for it then it serves. -/
theorem settled_of_parseBlockSize {files : FileArgs}
    (asked : ∀ size, files.blockSize = some size → ∃ text, Size.parseBlockSize text = .ok size)
    (environment : Environment) : Settled files environment := by
  have within := streamOptions_within asked environment
  have usable := Size.isUsable_of_isBlockSize within
  obtain ⟨least, most⟩ := Size.isBlockSize_iff.1 within
  have heap : (streamOptions files environment).value.buffers.useNative = false := by
    rw [streamOptions_value]
  refine ⟨fun size given => ?_, fun none => ?_, least, most, usable,
    fun σ ι library sink source world => ⟨?_, ?_⟩⟩
  · rw [streamOptions_value, given, Option.getD_some]
  · rw [streamOptions_value, none, Option.getD_none]
    rfl
  · exact BlockWriter.create_heap library sink world heap usable
  · exact BlockReader.create_heap library source world heap usable

/-- Option and variable agree on every text. What is a block size is taken by both; what is none fails
the command line, and is replaced by the default with one warning at level 2 in the environment. With
files whose block size, if there is one, a text asks for, the stream options hold that size, else the
environment's, else the default, and it serves. A command line that was read has such files: one of
its arguments asks for the size. -/
theorem blockSizes_agree :
    (∀ text size, Size.parseBlockSize text = .ok size ↔
      Settings.blockSizeFrom (some text) = ⟨size, none⟩) ∧
    (∀ text, (∀ size, Size.parseBlockSize text ≠ .ok size) →
      CommandLine.parse ["qatcodec", "decompress", "-B=" ++ text, "in", "out"] =
        .error .valueValidation ∧
      ∃ ignored : Settings.Ignored,
        ignored.variableName = "QATCODEC_BLOCK_SIZE" ∧ ignored.value = text ∧
        ∀ console : Console, (Settings.blockSizeFrom (some text)).take console =
          (Size.blockSizeDefault, console.say 2 ignored.message)) ∧
    (∀ files : FileArgs, (∀ size, files.blockSize = some size →
        ∃ text, Size.parseBlockSize text = .ok size) →
      ∀ environment, Settled files environment) ∧
    ∀ argv line files, CommandLine.parse argv = .ok line → line.command.files? = some files →
      (∀ size, files.blockSize = some size →
        ∃ text, EndsOneOf argv text ∧ Size.parseBlockSize text = .ok size) ∧
      ∀ environment, Settled files environment := by
  refine ⟨fun text size => ?_, fun text none => ?_, fun files asked => settled_of_parseBlockSize asked,
    fun argv line files parsed works => ?_⟩
  · rw [Settings.blockSizeFrom_eq]
    rcases Size.parseBlockSize text with e | read
    · simp only [reduceCtorEq, Settings.Setting.mk.injEq, and_false]
    · simp only [Except.ok.injEq, Settings.Setting.mk.injEq, and_true]
  · rw [CommandLine.parse_blockSize, Settings.blockSizeFrom_eq]
    generalize Size.parseBlockSize text = outcome at none ⊢
    rcases outcome with e | read
    · exact ⟨rfl, _, rfl, rfl, fun console => rfl⟩
    · exact absurd rfl (none read)
  · have asked := fun size (given : files.blockSize = some size) =>
      CommandLine.parse_from parsed works given
    exact ⟨asked, settled_of_parseBlockSize fun size given => (asked size given).imp fun _ => And.right⟩

/-- What was asked for on the command line comes before what the environment says, also where the files
of a command did not come from a command line. -/
theorem blockSizes_agree_asked :
    (streamOptions ⟨"in", "out", some 65536⟩
      [("QATCODEC_BLOCK_SIZE", "1M")]).value.blockSize = 65536 ∧
    (streamOptions ⟨"in", "out", some 32768⟩
      [("QATCODEC_BLOCK_SIZE", "1M")]).value.blockSize = 32768 := by
  have parsed : CommandLine.parse ["qatcodec", "decompress", "-B=" ++ "64K", "in", "out"] =
      .ok ⟨0, 0, none, .decompress ⟨"in", "out", some 65536⟩⟩ := by
    rw [CommandLine.parse_blockSize]
    rfl
  have least : Size.parseBlockSize "32K" = .ok 32768 := by decide +kernel
  obtain ⟨-, -, files, lines⟩ := blockSizes_agree
  have direct : Settled ⟨"in", "out", some 32768⟩ [("QATCODEC_BLOCK_SIZE", "1M")] := by
    refine files _ (fun size given => ⟨"32K", ?_⟩) _
    rw [least, Option.some.inj given]
  exact ⟨((lines _ _ _ parsed rfl).2 [("QATCODEC_BLOCK_SIZE", "1M")]).asked 65536 rfl,
    direct.asked 32768 rfl⟩

end Cli

end OffloadCodec
