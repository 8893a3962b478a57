import Mathlib.Data.List.Induction
import Mathlib.Logic.Function.Basic
import Mathlib.Logic.Relation
import OffloadCodec.Proofs.Defaults.Updates
import OffloadCodec.Proofs.SimulatedLibrary

/-!
# Clients that share the defaults

Any number of clients call the operations on a library's defaults, each under the same lock. `Step`
takes one client one step further: it asks for something, takes the lock, reads the parameter block,
writes it back, notes what it has written, or gives the lock back with an answer. Steps of different
clients may come in any order.

The lock makes the calls atomic: whenever it is free, the world is the one that the completed calls
leave if they are made one after another, and they answer as they do then (`Clients.Sound`, which
every step keeps). So the defaults are those that the updates among them leave, each made from what
the update before it left (`Clients.updates_serialize`).
-/

namespace OffloadCodec

variable {σ ι κ : Type}

/-- What a client may ask for. -/
inductive DefaultsCall
  | update (edit : CodecConfig → CodecConfig)
  | set (config : CodecConfig)
  | setLevel (level : Int32)
  /-- The defaults in force. -/
  | read
  /-- The configuration last written. -/
  | readApplied

/-- The defaults as clients know them. -/
structure Kept where
  /-- The library's parameter block. -/
  raw : RawParams
  /-- The configuration last written. -/
  applied : Option CodecConfig

namespace DefaultsCall

/-- The operation, and the configuration that it returns if it returns one. -/
def act (library : Library σ ι) : DefaultsCall → Act σ CodecError (Option CodecConfig)
  | update edit => do return some (← library.updateDefaults edit)
  | set config => do
    library.setDefaults config
    return none
  | setLevel level => do
    library.setCompressionLevel level
    return none
  | read => do return some (← library.defaults)
  | readApplied => Act.of fun world => (.ok world.applied, world)

/-- The edit that an update makes. -/
def edit? : DefaultsCall → Option (CodecConfig → CodecConfig)
  | update edit => some edit
  | set config => some fun _ => config
  | setLevel level => some (·.withLevel level)
  | read => none
  | readApplied => none

/-- What an update that has written a configuration returns. -/
def reply (config : CodecConfig) : DefaultsCall → Option CodecConfig
  | update _ => some config
  | set _ => none
  | setLevel _ => none
  | read => none
  | readApplied => none

/-- What a call returns that succeeds with these defaults. -/
def returns (kept : Kept) : DefaultsCall → Option CodecConfig
  | update edit => some (edit (.ofRaw kept.raw))
  | set _ => none
  | setLevel _ => none
  | read => some (.ofRaw kept.raw)
  | readApplied => kept.applied

/-- The library answers the call with a status that goes with the error. -/
def Refused (library : Library σ ι) (native : σ) (e : CodecError) : DefaultsCall → Prop
  | update edit => library.RefusesUpdate edit native e
  | set config => library.RefusesUpdate (fun _ => config) native e
  | setLevel level => library.RefusesUpdate (·.withLevel level) native e
  | read => CodecError.ofStatus? .getDefaults
      (library.entries.getDefaults .shipped native).1.1 = some e
  | readApplied => False

end DefaultsCall

/-- A call that has been answered. -/
structure Completed (κ : Type) where
  client : κ
  call : DefaultsCall
  answer : Except CodecError (Option CodecConfig)

/-- An update with this edit, and it has succeeded. -/
def Completed.Updated (done : Completed κ) (edit : CodecConfig → CodecConfig) : Prop :=
  done.call.edit? = some edit ∧ ∃ returned, done.answer = .ok returned

namespace Kept

/-- The defaults after a call. -/
def after (kept : Kept) (done : Completed κ) : Kept :=
  match done.call.edit?, done.answer with
  | some edit, .ok _ =>
    let config := edit (.ofRaw kept.raw)
    ⟨config.writeInto kept.raw, some config⟩
  | _, _ => kept

/-- The defaults after calls that are made one after another. -/
def replay (kept : Kept) (log : List (Completed κ)) : Kept := log.foldl after kept

end Kept

/-- The defaults in a world, with a library that holds these parameters. -/
def World.kept (params : σ → RawParams) (world : World σ) : Kept :=
  ⟨params world.native, world.applied⟩

/-! ## One call at a time -/

namespace DefaultsCall

variable {library : Library σ ι} {world after : World σ} {call : DefaultsCall}
  {edit : CodecConfig → CodecConfig} {answer : Except CodecError (Option CodecConfig)}

/-- All updates are `updateDefaults` with some edit. -/
theorem runOn_act_update (updates : call.edit? = some edit) (world : World σ) :
    (call.act library).runOn world =
      match (library.updateDefaults edit).runOn world with
      | (.error e, world) => (.error e, world)
      | (.ok config, world) => (.ok (call.reply config), world) := by
  cases call with
  | update edit' =>
    obtain rfl := Option.some.inj updates
    rw [act, Act.runOn_bind]
    rcases (library.updateDefaults edit').runOn world with ⟨_ | _, _⟩
    · rfl
    · rfl
  | set config =>
    obtain rfl := Option.some.inj updates
    rw [act, Act.runOn_bind, Library.setDefaults, Act.runOn_bind]
    rcases (library.updateDefaults fun _ => config).runOn world with ⟨_ | _, _⟩
    · rfl
    · rfl
  | setLevel level =>
    obtain rfl := Option.some.inj updates
    rw [act, Act.runOn_bind, Library.setCompressionLevel, Act.runOn_bind]
    rcases (library.updateDefaults (·.withLevel level)).runOn world with ⟨_ | _, _⟩
    · rfl
    · rfl
  | read => cases updates
  | readApplied => cases updates

theorem reply_update (updates : call.edit? = some edit) (kept : Kept) :
    call.reply (edit (.ofRaw kept.raw)) = call.returns kept := by
  cases call with
  | update edit' =>
    obtain rfl := Option.some.inj updates
    rfl
  | set config => rfl
  | setLevel level => rfl
  | read => cases updates
  | readApplied => cases updates

theorem refused_update (updates : call.edit? = some edit) {native : σ} {e : CodecError}
    (refuses : library.RefusesUpdate edit native e) : call.Refused library native e := by
  cases call with
  | update edit' =>
    obtain rfl := Option.some.inj updates
    exact refuses
  | set config =>
    obtain rfl := Option.some.inj updates
    exact refuses
  | setLevel level =>
    obtain rfl := Option.some.inj updates
    exact refuses
  | read => cases updates
  | readApplied => cases updates

/-- A call does to the defaults what `Kept.after` says, and answers accordingly. -/
structure Serves (library : Library σ ι) (params : σ → RawParams) (call : DefaultsCall)
    (world : World σ) (answer : Except CodecError (Option CodecConfig)) (after : World σ) :
    Prop where
  kept : ∀ {κ : Type} (client : κ),
    after.kept params = (world.kept params).after ⟨client, call, answer⟩
  returns : ∀ returned, answer = .ok returned → returned = call.returns (world.kept params)
  refused : ∀ e, answer = .error e → call.Refused library world.native e

variable {params : σ → RawParams}

theorem Serves.error {e : CodecError}
    (kept : ∀ {κ : Type} (client : κ),
      after.kept params = (world.kept params).after ⟨client, call, .error e⟩)
    (refused : call.Refused library world.native e) :
    call.Serves library params world (.error e) after := by
  refine ⟨kept, fun returned impossible => ?_, fun e same => ?_⟩
  · cases impossible
  · obtain rfl := Except.error.inj same
    exact refused

theorem Serves.ok {returned : Option CodecConfig}
    (kept : ∀ {κ : Type} (client : κ),
      after.kept params = (world.kept params).after ⟨client, call, .ok returned⟩)
    (returns : returned = call.returns (world.kept params)) :
    call.Serves library params world (.ok returned) after := by
  refine ⟨kept, fun returned same => ?_, fun e impossible => ?_⟩
  · obtain rfl := Except.ok.inj same
    exact returns
  · cases impossible

variable (holds : library.entries.HoldsDefaults params)
include holds

theorem serves (ran : (call.act library).runOn world = (answer, after)) :
    call.Serves library params world answer after := by
  cases updates : call.edit? with
  | some edit =>
    rw [runOn_act_update updates] at ran
    split at ran
    · next e last failed =>
      obtain ⟨rfl, rfl⟩ := by simpa only [Prod.mk.injEq] using ran
      obtain ⟨refuses, same, noted⟩ := Library.updateDefaults_error holds failed
      refine .error (fun client => ?_) (refused_update updates refuses)
      simp only [World.kept, Kept.after, updates, same, noted]
    · next config last updated =>
      obtain ⟨rfl, rfl⟩ := by simpa only [Prod.mk.injEq] using ran
      obtain ⟨rfl, written, noted⟩ := Library.updateDefaults_ok holds updated
      refine .ok (fun client => ?_) (reply_update updates (world.kept params))
      simp only [World.kept, Kept.after, updates, written, noted]
  | none =>
    cases call with
    | read =>
      rw [act, Act.runOn_bind, Library.defaults, Act.runOn_bind] at ran
      rcases read : library.readRawDefaults.runOn world with ⟨e | raw, last⟩
      · rw [read] at ran
        obtain ⟨rfl, rfl⟩ := by simpa only [Prod.mk.injEq] using ran
        obtain ⟨status, same, noted⟩ := Library.readRawDefaults_error holds read
        refine .error (fun client => ?_) status
        simp only [World.kept, Kept.after, edit?, same, noted]
      · rw [read] at ran
        obtain ⟨rfl, rfl⟩ := by simpa only [Prod.mk.injEq, Act.runOn_pure] using ran
        obtain ⟨rfl, same, noted⟩ := Library.readRawDefaults_ok holds read
        refine .ok (fun client => ?_) rfl
        simp only [World.kept, Kept.after, edit?, same, noted]
    | readApplied =>
      obtain ⟨rfl, rfl⟩ := by simpa only [act, Act.runOn_of, Prod.mk.injEq] using ran
      exact .ok (fun client => rfl) rfl
    | update edit => cases updates
    | set config => cases updates
    | setLevel level => cases updates

end DefaultsCall

/-- Calls that are made one after another, with these answers, take one world to another. -/
inductive Serial (library : Library σ ι) (start : World σ) :
    List (Completed κ) → World σ → Prop
  | start : Serial library start [] start
  | next {log : List (Completed κ)} {world after : World σ} {client : κ} {call : DefaultsCall}
      {answer : Except CodecError (Option CodecConfig)} :
    Serial library start log world → (call.act library).runOn world = (answer, after) →
    Serial library start (log ++ [⟨client, call, answer⟩]) after

/-! ## Clients -/

/-- How far a client has got with a call. -/
inductive Phase
  | idle
  /-- It waits for the lock. -/
  | waiting (call : DefaultsCall)
  /-- It has the lock. -/
  | locked (call : DefaultsCall)
  /-- It has read the parameter block for an update. -/
  | fetched (call : DefaultsCall) (raw : RawParams)
  /-- It has written the parameter block back. -/
  | written (call : DefaultsCall) (config : CodecConfig)
  /-- It has its answer, and still the lock. -/
  | finished (call : DefaultsCall) (answer : Except CodecError (Option CodecConfig))

/-- The client has not taken the lock. -/
def Phase.Outside : Phase → Prop
  | idle => True
  | waiting _ => True
  | locked _ => False
  | fetched _ _ => False
  | written _ _ => False
  | finished _ _ => False

/-- Clients of one library. -/
structure Clients (σ κ : Type) where
  world : World σ
  /-- The client that has the lock. -/
  holder : Option κ := none
  phase : κ → Phase
  /-- The calls that have been answered, in the order in which the lock was given back. -/
  log : List (Completed κ) := []

namespace Clients

/-- Nothing has been asked for, and nothing was written before. -/
structure Fresh (clients : Clients σ κ) : Prop where
  unlocked : clients.holder = none
  idle : ∀ client, clients.phase client = .idle
  unlogged : clients.log = []
  unwritten : clients.world.applied = none

section Steps

variable [DecidableEq κ]

/-- A client gets to a phase. -/
def goes (clients : Clients σ κ) (client : κ) (phase : Phase) : Clients σ κ :=
  { clients with phase := Function.update clients.phase client phase }

@[simp] theorem phase_goes (clients : Clients σ κ) (client : κ) (phase : Phase) :
    (clients.goes client phase).phase client = phase := Function.update_self _ _ _

theorem phase_goes_of_ne (clients : Clients σ κ) {client other : κ} (phase : Phase)
    (different : other ≠ client) :
    (clients.goes client phase).phase other = clients.phase other :=
  Function.update_of_ne different _ _

/-- One client gets one step further. -/
inductive Step (library : Library σ ι) : Clients σ κ → Clients σ κ → Prop
  | ask {s : Clients σ κ} {client : κ} (call : DefaultsCall) :
    s.phase client = .idle → Step library s (s.goes client (.waiting call))
  | lock {s : Clients σ κ} {client : κ} {call : DefaultsCall} :
    s.holder = none → s.phase client = .waiting call →
    Step library s { s.goes client (.locked call) with holder := some client }
  | look {s : Clients σ κ} {client : κ} {call : DefaultsCall}
      {answer : Except CodecError (Option CodecConfig)} {world : World σ} :
    s.phase client = .locked call → call.edit? = none →
    (call.act library).runOn s.world = (answer, world) →
    Step library s { s.goes client (.finished call answer) with world }
  | fetch {s : Clients σ κ} {client : κ} {call : DefaultsCall}
      {edit : CodecConfig → CodecConfig} {raw : RawParams} {world : World σ} :
    s.phase client = .locked call → call.edit? = some edit →
    library.readRawDefaults.runOn s.world = (.ok raw, world) →
    Step library s { s.goes client (.fetched call raw) with world }
  | fetchFailed {s : Clients σ κ} {client : κ} {call : DefaultsCall}
      {edit : CodecConfig → CodecConfig} {e : CodecError} {world : World σ} :
    s.phase client = .locked call → call.edit? = some edit →
    library.readRawDefaults.runOn s.world = (.error e, world) →
    Step library s { s.goes client (.finished call (.error e)) with world }
  | write {s : Clients σ κ} {client : κ} {call : DefaultsCall}
      {edit : CodecConfig → CodecConfig} {raw : RawParams} {world : World σ} :
    s.phase client = .fetched call raw → call.edit? = some edit →
    (library.writeRawDefaults ((edit (.ofRaw raw)).writeInto raw)).runOn s.world =
      (.ok (), world) →
    Step library s { s.goes client (.written call (edit (.ofRaw raw))) with world }
  | writeFailed {s : Clients σ κ} {client : κ} {call : DefaultsCall}
      {edit : CodecConfig → CodecConfig} {raw : RawParams} {e : CodecError} {world : World σ} :
    s.phase client = .fetched call raw → call.edit? = some edit →
    (library.writeRawDefaults ((edit (.ofRaw raw)).writeInto raw)).runOn s.world =
      (.error e, world) →
    Step library s { s.goes client (.finished call (.error e)) with world }
  | note {s : Clients σ κ} {client : κ} {call : DefaultsCall} {config : CodecConfig} :
    s.phase client = .written call config →
    Step library s { s.goes client (.finished call (.ok (call.reply config))) with
      world := { s.world with applied := some config } }
  | unlock {s : Clients σ κ} {client : κ} {call : DefaultsCall}
      {answer : Except CodecError (Option CodecConfig)} :
    s.phase client = .finished call answer →
    Step library s { s.goes client .idle with
      holder := none
      log := s.log ++ [⟨client, call, answer⟩] }

/-- The client has the lock and has got this far. -/
def working (clients : Clients σ κ) (client : κ) (phase : Phase) (world : World σ) : Clients σ κ :=
  { clients.goes client phase with holder := some client, world }

theorem phase_working (clients : Clients σ κ) (client : κ) (phase : Phase) (world : World σ) :
    (clients.working client phase world).phase client = phase := clients.phase_goes client phase

theorem working_goes (clients : Clients σ κ) (client : κ) (first second : Phase)
    (world world' : World σ) :
    { (clients.working client first world).goes client second with world := world' } =
      clients.working client second world' := by
  simp only [working, goes, Function.update_idem]

variable {library : Library σ ι} {s : Clients σ κ} {client : κ} {call : DefaultsCall}
  {answer : Except CodecError (Option CodecConfig)} {world world' : World σ}

/-- A client that has the lock may make its call. -/
theorem works (ran : (call.act library).runOn world = (answer, world')) :
    Relation.ReflTransGen (Step library) (s.working client (.locked call) world)
      (s.working client (.finished call answer) world') := by
  have there := s.phase_working client
  have onward : ∀ {first second : Phase} {world world' : World σ},
      Step library (s.working client first world)
        { (s.working client first world).goes client second with world := world' } →
      Step library (s.working client first world) (s.working client second world') := by
    intro first second world world' step
    rwa [working_goes] at step
  cases updates : call.edit? with
  | none => exact .single (onward (.look (there _ _) updates ran))
  | some edit =>
    rw [DefaultsCall.runOn_act_update updates, Library.runOn_updateDefaults] at ran
    rcases read : library.readRawDefaults.runOn world with ⟨e | raw, middle⟩
    · rw [read] at ran
      obtain ⟨rfl, rfl⟩ := by simpa only [Prod.mk.injEq] using ran
      exact .single (onward (.fetchFailed (there _ _) updates read))
    · rw [read] at ran
      dsimp only at ran
      have fetched := onward (.fetch (there (.locked call) world) updates read)
      rcases wrote : (library.writeRawDefaults ((edit (.ofRaw raw)).writeInto raw)).runOn middle
        with ⟨e | _, last⟩
      · rw [wrote] at ran
        obtain ⟨rfl, rfl⟩ := by simpa only [Prod.mk.injEq] using ran
        exact .tail (.single fetched) (onward (.writeFailed (there _ _) updates wrote))
      · rw [wrote] at ran
        obtain ⟨rfl, rfl⟩ := by simpa only [Prod.mk.injEq] using ran
        have written := onward (.write (there (.fetched call raw) middle) updates wrote)
        exact .tail (.tail (.single fetched) written) (onward (.note (there _ _)))

/-- While the lock is free, a client that waits for it may take it, make its call and give it
back. -/
theorem uninterrupted (free : s.holder = none) (waits : s.phase client = .waiting call)
    (ran : (call.act library).runOn s.world = (answer, world)) :
    Relation.ReflTransGen (Step library) s
      { s.goes client .idle with world, log := s.log ++ [⟨client, call, answer⟩] } := by
  have locks : Step library s (s.working client (.locked call) s.world) := .lock free waits
  have unlocks : Step library (s.working client (.finished call answer) world)
      { (s.working client (.finished call answer) world).goes client .idle with
        holder := none
        log := s.log ++ [⟨client, call, answer⟩] } := .unlock (phase_working ..)
  have last : ({ (s.working client (.finished call answer) world).goes client .idle with
      holder := none
      log := s.log ++ [⟨client, call, answer⟩] } : Clients σ κ) =
      { s.goes client .idle with world, log := s.log ++ [⟨client, call, answer⟩] } := by
    simp only [working, goes, Function.update_idem, free]
  rw [last] at unlocks
  exact .tail (.head locks (works ran)) unlocks

end Steps

/-! ## The lock makes calls atomic -/

/-- How the world comes about, from the one that the client found when it took the lock. -/
inductive Progress (library : Library σ ι) (base : World σ) : Phase → World σ → Prop
  | locked (call : DefaultsCall) : Progress library base (.locked call) base
  | fetched {call : DefaultsCall} {edit : CodecConfig → CodecConfig} {raw : RawParams}
      {world : World σ} :
    call.edit? = some edit → library.readRawDefaults.runOn base = (.ok raw, world) →
    Progress library base (.fetched call raw) world
  | written {call : DefaultsCall} {edit : CodecConfig → CodecConfig} {raw : RawParams}
      {middle world : World σ} :
    call.edit? = some edit → library.readRawDefaults.runOn base = (.ok raw, middle) →
    (library.writeRawDefaults ((edit (.ofRaw raw)).writeInto raw)).runOn middle =
      (.ok (), world) →
    Progress library base (.written call (edit (.ofRaw raw))) world
  | finished {call : DefaultsCall} {answer : Except CodecError (Option CodecConfig)}
      {world : World σ} :
    (call.act library).runOn base = (answer, world) →
    Progress library base (.finished call answer) world

/-- Only the client that has the lock is at work, on the world that the completed calls leave if they
are made one after another. -/
structure Sound (library : Library σ ι) (start : World σ) (s : Clients σ κ) : Prop where
  outside : ∀ client, s.holder ≠ some client → (s.phase client).Outside
  serial : ∃ base, Serial library start s.log base ∧
    match s.holder with
    | none => s.world = base
    | some client => Progress library base (s.phase client) s.world

theorem Fresh.sound {library : Library σ ι} {s : Clients σ κ} (fresh : s.Fresh) :
    Sound library s.world s := by
  refine ⟨fun client _ => ?_, s.world, ?_, ?_⟩
  · rw [fresh.idle]
    trivial
  · rw [fresh.unlogged]
    exact .start
  · rw [fresh.unlocked]

namespace Sound

variable {library : Library σ ι} {start : World σ} {s s' : Clients σ κ} {client : κ}
  {phase : Phase} {world : World σ}

/-- A client at work has the lock. -/
theorem at_work (sound : Sound library start s) (gone : s.phase client = phase)
    (working : ¬phase.Outside) :
    s.holder = some client ∧
      ∃ base, Serial library start s.log base ∧ Progress library base phase s.world := by
  subst gone
  have holds : s.holder = some client :=
    Classical.byContradiction fun other => working (sound.outside client other)
  obtain ⟨base, serial, progress⟩ := sound.serial
  rw [holds] at progress
  exact ⟨holds, base, serial, progress⟩

theorem outside_of_ne (sound : Sound library start s) (holds : s.holder = some client)
    {other : κ} (different : other ≠ client) : (s.phase other).Outside := by
  refine sound.outside other fun taken => different ?_
  exact Option.some.inj (taken.symm.trans holds)

/-- While the lock is free, all clients are outside and the completed calls have led here. -/
theorem unlocked (sound : Sound library start s) (free : s.holder = none) :
    (∀ client, (s.phase client).Outside) ∧ Serial library start s.log s.world := by
  obtain ⟨base, serial, here⟩ := sound.serial
  rw [free] at here
  refine ⟨fun client => sound.outside client ?_, here ▸ serial⟩
  rw [free]
  nofun

variable [DecidableEq κ]

/-- A client that goes outside leaves everyone outside who was, or is. -/
theorem outside_goes {other : κ} (still : phase.Outside)
    (others : other ≠ client → (s.phase other).Outside) :
    ((s.goes client phase).phase other).Outside := by
  by_cases same : other = client
  · subst same
    rw [phase_goes]
    exact still
  · rw [phase_goes_of_ne _ _ same]
    exact others same

/-- A client that gets the lock, or has it, gets further. -/
theorem of_holder {base : World σ}
    (outside : ∀ other, other ≠ client → (s.phase other).Outside)
    (serial : Serial library start s.log base) (progress : Progress library base phase world) :
    Sound library start (s.working client phase world) := by
  refine ⟨fun other apart => ?_, base, serial, ?_⟩
  · have different : other ≠ client := by
      rintro rfl
      exact apart rfl
    change ((s.goes client phase).phase other).Outside
    rw [phase_goes_of_ne _ _ different]
    exact outside other different
  · change Progress library base ((s.working client phase world).phase client) world
    rw [phase_working]
    exact progress

/-- A client at work gets further. -/
theorem proceed {base : World σ} (sound : Sound library start s) (holds : s.holder = some client)
    (serial : Serial library start s.log base) (progress : Progress library base phase world) :
    Sound library start { s.goes client phase with world } := by
  have further := of_holder (fun _ => sound.outside_of_ne holds) serial progress
  rw [working, ← holds] at further
  exact further

/-- Every step keeps the invariant. -/
theorem step (sound : Sound library start s) (step : Step library s s') :
    Sound library start s' := by
  cases step with
  | @ask client call idle =>
    obtain ⟨base, serial, progress⟩ := sound.serial
    refine ⟨fun other apart => outside_goes trivial fun _ => sound.outside other apart,
      base, serial, ?_⟩
    change match s.holder with
      | none => s.world = base
      | some holder => Progress library base ((s.goes client (.waiting call)).phase holder) s.world
    cases taken : s.holder with
    | none =>
      rw [taken] at progress
      exact progress
    | some holder =>
      rw [taken] at progress
      -- The holder of the lock is at work, and so it is not the one that asks.
      have different : holder ≠ client := by
        rintro rfl
        dsimp only at progress
        rw [idle] at progress
        cases progress
      dsimp only
      rw [phase_goes_of_ne _ _ different]
      exact progress
  | @lock client call free waits =>
    obtain ⟨outside, serial⟩ := sound.unlocked free
    exact of_holder (fun other _ => outside other) serial (.locked call)
  | @look client call answer world locked plain ran =>
    obtain ⟨holds, base, serial, progress⟩ := sound.at_work locked id
    cases progress
    exact sound.proceed holds serial (.finished ran)
  | @fetch client call edit raw world locked updates read =>
    obtain ⟨holds, base, serial, progress⟩ := sound.at_work locked id
    cases progress
    exact sound.proceed holds serial (.fetched updates read)
  | @fetchFailed client call edit e world locked updates failed =>
    obtain ⟨holds, base, serial, progress⟩ := sound.at_work locked id
    cases progress
    refine sound.proceed holds serial (.finished ?_)
    rw [DefaultsCall.runOn_act_update updates, Library.runOn_updateDefaults, failed]
  | @write client call edit raw world fetched updates wrote =>
    obtain ⟨holds, base, serial, progress⟩ := sound.at_work fetched id
    cases progress with
    | fetched _ read => exact sound.proceed holds serial (.written updates read wrote)
  | @writeFailed client call edit raw e world fetched updates failed =>
    obtain ⟨holds, base, serial, progress⟩ := sound.at_work fetched id
    cases progress with
    | fetched _ read =>
      refine sound.proceed holds serial (.finished ?_)
      rw [DefaultsCall.runOn_act_update updates, Library.runOn_updateDefaults, read]
      dsimp only
      rw [failed]
  | @note client call config written =>
    obtain ⟨holds, base, serial, progress⟩ := sound.at_work written id
    cases progress with
    | written updates read wrote =>
      refine sound.proceed holds serial (.finished ?_)
      rw [DefaultsCall.runOn_act_update updates, Library.runOn_updateDefaults, read]
      dsimp only
      rw [wrote]
  | @unlock client call answer finished =>
    obtain ⟨holds, base, serial, progress⟩ := sound.at_work finished id
    cases progress with
    | finished ran =>
      exact ⟨fun other _ => outside_goes trivial (sound.outside_of_ne holds), s.world,
        serial.next ran, rfl⟩

/-- However the steps of the clients interleave. -/
theorem steps (sound : Sound library start s)
    (run : Relation.ReflTransGen (Step library) s s') : Sound library start s' := by
  induction run with
  | refl => exact sound
  | tail _ last ih => exact ih.step last

end Sound

end Clients

/-! ## What the completed calls leave -/

namespace Kept

variable {kept : Kept} {done : Completed κ} {edit : CodecConfig → CodecConfig}
  {log before after : List (Completed κ)}

theorem replay_append (kept : Kept) (before after : List (Completed κ)) :
    kept.replay (before ++ after) = (kept.replay before).replay after := List.foldl_append

theorem after_of_updated (updated : done.Updated edit) (kept : Kept) :
    kept.after done =
      ⟨(edit (.ofRaw kept.raw)).writeInto kept.raw, some (edit (.ofRaw kept.raw))⟩ := by
  obtain ⟨updates, returned, succeeded⟩ := updated
  simp only [Kept.after, updates, succeeded]

/-- A call that is no update, or fails, changes nothing. -/
theorem after_of_not_updated (unchanged : ∀ edit, ¬done.Updated edit) (kept : Kept) :
    kept.after done = kept := by
  unfold Kept.after
  split
  · next edit returned updates succeeded =>
    exact absurd ⟨updates, returned, succeeded⟩ (unchanged edit)
  · rfl

theorem replay_of_not_updated (unchanged : ∀ done ∈ log, ∀ edit, ¬done.Updated edit)
    (kept : Kept) : kept.replay log = kept := by
  induction log generalizing kept with
  | nil => rfl
  | cons first log ih =>
    obtain ⟨here, later⟩ := List.forall_mem_cons.1 unchanged
    rw [replay, List.foldl_cons, after_of_not_updated here]
    exact ih later kept

/-- The parameters encode the configuration last written. -/
def Encoded (kept : Kept) : Prop :=
  ∀ config, kept.applied = some config → config.writeInto kept.raw = kept.raw

theorem Encoded.replay (encoded : kept.Encoded) (log : List (Completed κ)) :
    (kept.replay log).Encoded := by
  induction log generalizing kept with
  | nil => exact encoded
  | cons done log ih =>
    refine ih fun config noted => ?_
    by_cases changes : ∃ edit, done.Updated edit
    · obtain ⟨edit, updated⟩ := changes
      rw [after_of_updated updated] at noted ⊢
      obtain rfl := Option.some.inj noted
      rfl
    · have unchanged := after_of_not_updated (not_exists.1 changes) kept
      rw [unchanged] at noted ⊢
      exact encoded config noted

end Kept

namespace Serial

variable {library : Library σ ι} {start world after : World σ} {done : Completed κ}
  {log before behind : List (Completed κ)}

theorem of_concat (serial : Serial library start (log ++ [done]) after) :
    ∃ world, Serial library start log world ∧
      (done.call.act library).runOn world = (done.answer, after) := by
  generalize all : log ++ [done] = log' at serial
  cases serial with
  | start => simp at all
  | next earlier ran =>
    obtain ⟨rfl, last⟩ := List.append_inj' all rfl
    obtain rfl := List.singleton_inj.1 last
    exact ⟨_, earlier, ran⟩

theorem of_append (serial : Serial library start (before ++ behind) after) :
    ∃ world, Serial library start before world := by
  induction behind using List.reverseRecOn generalizing after with
  | nil =>
    rw [List.append_nil] at serial
    exact ⟨_, serial⟩
  | append_singleton behind last ih =>
    rw [← List.append_assoc] at serial
    obtain ⟨middle, earlier, -⟩ := serial.of_concat
    exact ih earlier

variable {params : σ → RawParams} (holds : library.entries.HoldsDefaults params)
include holds

theorem kept (serial : Serial library start log world) :
    world.kept params = (start.kept params).replay log := by
  induction serial with
  | start => rfl
  | next _ ran ih => rw [Kept.replay_append, ← ih, (DefaultsCall.serves holds ran).kept]; rfl

end Serial

namespace Clients

variable [DecidableEq κ] {library : Library σ ι} {params : σ → RawParams} {start s : Clients σ κ}

/-- However clients interleave, the completed calls can be made one after another with the same
answers, and up to each of them the defaults are those that the updates have left. A client that is
about to write has read the parameters that the update before it left. The last update to succeed
determines the defaults; a call that fails returns the status of the library and changes nothing.
While the lock is free, the library and the note of the configuration last written are as the
completed calls have left them, and the parameters are the encoding of what is noted. -/
theorem updates_serialize (holds : library.entries.HoldsDefaults params) (fresh : start.Fresh)
    (run : Relation.ReflTransGen (Step library) start s) :
    let first : Kept := ⟨params start.world.native, none⟩
    (∀ before after, s.log = before ++ after →
      ∃ world, Serial library start.world before world ∧
        world.kept params = first.replay before) ∧
    (∀ client call raw, s.phase client = .fetched call raw → raw = (first.replay s.log).raw) ∧
    (∀ before done between after edit, s.log = before ++ done :: between ++ after →
      done.Updated edit → (∀ later ∈ between, ∀ edit', ¬later.Updated edit') →
      let left := (first.replay before).raw
      let config := edit (.ofRaw left)
      first.replay (before ++ done :: between) = ⟨config.writeInto left, some config⟩) ∧
    ((∀ done ∈ s.log, ∀ edit, ¬done.Updated edit) → first.replay s.log = first) ∧
    (∀ before done after, s.log = before ++ done :: after →
      (∀ returned, done.answer = .ok returned →
        returned = done.call.returns (first.replay before)) ∧
      (∀ e, done.answer = .error e →
        first.replay (before ++ [done]) = first.replay before ∧
          ∃ world, Serial library start.world before world ∧
            done.call.Refused library world.native e)) ∧
    (s.holder = none →
      Serial library start.world s.log s.world ∧ s.world.kept params = first.replay s.log ∧
        ∀ config, s.world.applied = some config →
          config.writeInto (params s.world.native) = params s.world.native) := by
  intro first
  have sound : Sound library start.world s := fresh.sound.steps run
  have first_eq : start.world.kept params = first := by
    rw [World.kept, fresh.unwritten]
  obtain ⟨base, serial, progress⟩ := sound.serial
  refine ⟨?_, ?_, ?_, ?_, ?_, ?_⟩
  · intro before after all
    obtain ⟨world, earlier⟩ := (all ▸ serial).of_append
    exact ⟨world, earlier, first_eq ▸ earlier.kept holds⟩
  · intro client call raw fetched
    obtain ⟨-, base, serial, progress⟩ := sound.at_work fetched id
    cases progress with
    | fetched updates read =>
      obtain ⟨rfl, -⟩ := Library.readRawDefaults_ok holds read
      rw [← first_eq, ← serial.kept holds]
      rfl
  · intro before done between after edit all updated unchanged
    rw [Kept.replay_append]
    change ((first.replay before).after done).replay between = _
    rw [Kept.replay_of_not_updated unchanged, Kept.after_of_updated updated]
  · intro unchanged
    exact Kept.replay_of_not_updated unchanged first
  · intro before done after all
    have split : s.log = (before ++ [done]) ++ after := by
      rw [all, List.append_assoc, List.singleton_append]
    obtain ⟨next, later⟩ := (split ▸ serial).of_append
    obtain ⟨world, earlier, ran⟩ := later.of_concat
    have serves := DefaultsCall.serves holds ran
    have before_eq := earlier.kept holds
    rw [first_eq] at before_eq
    constructor
    · intro returned succeeded
      rw [← before_eq]
      exact serves.returns returned succeeded
    · intro e failed
      refine ⟨?_, world, earlier, serves.refused e failed⟩
      rw [Kept.replay_append]
      refine Kept.after_of_not_updated (fun edit updated => ?_) _
      obtain ⟨-, returned, succeeded⟩ := updated
      cases failed.symm.trans succeeded
  · intro free
    obtain ⟨-, here⟩ := sound.unlocked free
    have kept := here.kept holds
    rw [first_eq] at kept
    refine ⟨here, kept, ?_⟩
    have encoded : first.Encoded := by
      intro config noted
      cases noted
    have after := encoded.replay s.log
    rw [← kept] at after
    exact after

/-- Two clients ask at the same time, and neither update is lost. -/
theorem updates_serialize_two :
    ∃ s : Clients Simulated.State Bool,
      Relation.ReflTransGen (Step Simulated.library)
        { world := { native := {} }, phase := fun _ => .idle } s ∧
      s.world.kept (·.defaults) =
        ⟨{ RawParams.shipped with level := 6, pollSleep := 20 },
          some { CodecConfig.shipped with level := 6, pollSleep := 20 }⟩ := by
  let start : Clients Simulated.State Bool :=
    { world := { native := {} }, phase := fun _ => .idle }
  let level : DefaultsCall := .setLevel 6
  let sleep : DefaultsCall := .update fun config => { config with pollSleep := 20 }
  let asked := (start.goes true (.waiting level)).goes false (.waiting sleep)
  have fresh : start.Fresh := ⟨rfl, fun _ => rfl, rfl, rfl⟩
  have asks : Relation.ReflTransGen (Step Simulated.library) start asked :=
    .tail (.single (.ask level rfl)) (.ask sleep rfl)
  have answered : ((level.act Simulated.library).runOn start.world).1 = .ok none := by
    decide +kernel
  have answered' : ((sleep.act Simulated.library).runOn
      ((level.act Simulated.library).runOn start.world).2).1 =
      .ok (some { CodecConfig.shipped with level := 6, pollSleep := 20 }) := by
    decide +kernel
  rcases ran : (level.act Simulated.library).runOn start.world with ⟨answer, world⟩
  rw [ran] at answered answered'
  rcases ran' : (sleep.act Simulated.library).runOn world with ⟨answer', world'⟩
  rw [ran'] at answered'
  obtain rfl : answer = _ := answered
  obtain rfl : answer' = _ := answered'
  let between : Clients Simulated.State Bool :=
    { asked.goes true .idle with world, log := asked.log ++ [⟨true, level, .ok none⟩] }
  have first : Relation.ReflTransGen (Step Simulated.library) asked between :=
    uninterrupted rfl rfl ran
  let last : Clients Simulated.State Bool :=
    { between.goes false .idle with
      world := world'
      log := between.log ++ [⟨false, sleep,
        .ok (some { CodecConfig.shipped with level := 6, pollSleep := 20 })⟩] }
  have second : Relation.ReflTransGen (Step Simulated.library) between last :=
    uninterrupted rfl rfl ran'
  have run := (asks.trans first).trans second
  refine ⟨last, run, ?_⟩
  obtain ⟨-, -, -, -, -, unlocked⟩ := updates_serialize Simulated.holdsDefaults fresh run
  obtain ⟨-, left, -⟩ := unlocked rfl
  rw [left]
  rfl

end Clients

end OffloadCodec
