import CommandMachine.Proofs.Breakdown
namespace CommandMachine

/-!
# Engines that keep to themselves

An ensemble is a number of engines with registers and memory of their own, each with the
events it has shown.  It leaves out everything that depends on the order of turns: the
reports of different engines are not mixed, and there is no host.  An engine that waits
simply does not move until the engine it waits for is at its end.

Two engines that can both move, of which one asks for nothing but the backend, can be moved
in either order.  So if all engines but the first one are like that, and one order of
turns leads to the end of all engines, then all orders do, by the same number of moves and
to the same end.
-/

/-! ## Answers that nobody asks for -/

/-- The surroundings give the same answer to a request, apart from notices. -/
structure Surroundings.Agree (left right : Surroundings) (request : Option Request) : Prop where
  stop : left.stopRequested = right.stopRequested
  infer : ∀ payload, request = some (.infer payload) → left.infer payload = right.infer payload
  spawn : ∀ entry, request = some (.spawn entry) → left.spawn = right.spawn
  join : ∀ target, request = some (.join target) →
    (left.join target).result = (right.join target).result

/-- Two effects that differ in notices only. -/
structure Effect.Alike (left right : Effect) : Prop where
  engine : left.engine = right.engine
  control : left.control = right.control
  events : left.events = right.events

theorem Effect.Alike.of_eq {left right : Effect} (same : left = right) : left.Alike right :=
  same ▸ ⟨rfl, rfl, rfl⟩

namespace Engine

section Agreement

variable {engine : Engine} {context : Context} {left right : Surroundings}
  {instruction : Instruction}

/-- An engine that has ended asks for nothing. -/
theorem unfinished_of_request? {stopRequested : Bool} {request : Request}
    (asked : engine.request? context stopRequested = some request) :
    engine.status.isFinal = false := by
  cases final : engine.status.isFinal with
  | false => rfl
  | true => simp [request?, fetch, final] at asked

theorem startThread_alike (operands : List Operand)
    (same : ∀ entry rest, operands = .target entry :: rest → left.spawn = right.spawn) :
    (engine.startThread left operands).Alike (engine.startThread right operands) := by
  apply Effect.Alike.of_eq
  unfold startThread withTarget
  split
  · rename_i entry rest
    rw [same entry rest rfl]
  · rfl

theorem join_alike
    (same : ∀ number, engine.stack.peek? = some (.integer number) → ¬ number < 0 →
      (left.join number.toInt.toNat).result = (right.join number.toInt.toNat).result) :
    (engine.join left).Alike (engine.join right) := by
  have events : (engine.join left).events = (engine.join right).events := by
    rw [events_join, events_join]
  suffices shown : (engine.join left).engine = (engine.join right).engine ∧
      (engine.join left).control = (engine.join right).control from
    ⟨shown.1, shown.2, events⟩
  unfold join withPop EvaluationStack.pop?
  unfold EvaluationStack.peek? at same
  cases items : engine.stack.items with
  | nil => exact ⟨rfl, rfl⟩
  | cons value rest =>
      rw [items] at same
      cases value with
      | integer number =>
          dsimp only
          split
          · exact ⟨rfl, rfl⟩
          · rename_i positive
            rw [same number rfl positive]
            cases (right.join number.toInt.toNat).result with
            | error cause => exact ⟨rfl, rfl⟩
            | ok outcome => exact ⟨rfl, rfl⟩
      | unset => exact ⟨rfl, rfl⟩
      | float number => exact ⟨rfl, rfl⟩
      | text content => exact ⟨rfl, rfl⟩
      | handle address => exact ⟨rfl, rfl⟩

theorem execute_alike {op : Op} {stopRequested : Bool}
    (fetched : engine.fetch context stopRequested = .operation op instruction)
    (agree : left.Agree right (engine.request? context stopRequested)) :
    (engine.wake.tick.execute context.settings left op instruction.operands).Alike
      (engine.wake.tick.execute context.settings right op instruction.operands) := by
  have stack : engine.wake.tick.stack = engine.stack := by
    unfold wake
    split <;> rfl
  cases op with
  | infer =>
      have asked : engine.request? context stopRequested =
          some (.infer (payload instruction.operands)) := by
        rw [request?, fetched]
      apply Effect.Alike.of_eq
      change infer _ left _ = infer _ right _
      rw [infer, infer, agree.infer _ asked]
  | thread =>
      refine startThread_alike instruction.operands fun entry rest leading => ?_
      refine agree.spawn entry ?_
      rw [request?, fetched]
      dsimp only
      rw [leading]
  | join =>
      refine join_alike fun number top positive => agree.join _ ?_
      rw [stack] at top
      rw [request?, fetched]
      dsimp only
      rw [top]
      exact if_neg positive
  | _ => exact Effect.Alike.of_eq rfl

/-- An engine takes notice only of the answer to what it asks for. -/
theorem step_agree (agree : left.Agree right (engine.request? context left.stopRequested)) :
    (engine.step context left).1 = (engine.step context right).1 ∧
      Report.events (engine.step context left).2 =
        Report.events (engine.step context right).2 := by
  unfold step
  rw [← agree.stop]
  cases fetched : engine.fetch context left.stopRequested with
  | finished => exact ⟨rfl, rfl⟩
  | stopped => exact ⟨rfl, rfl⟩
  | overBudget limit => exact ⟨rfl, rfl⟩
  | atEnd => exact ⟨rfl, rfl⟩
  | undecodable byte => exact ⟨rfl, rfl⟩
  | operation op instruction =>
      have alike := execute_alike fetched agree
      dsimp only
      rw [alike.engine, alike.control, Report.events_append, Report.events_append,
        Report.events_append, Report.events_append]
      exact ⟨rfl, congrArg (_ ++ · ++ _) alike.events⟩

end Agreement

end Engine

/-! ## Ensembles -/

/-- An engine by itself: its state, whether it has broken down, and all it has shown. -/
structure Strand where
  engine : Engine
  crashed : Bool
  events : List Event

namespace Strand

/-- Whether the engine has come to its end. -/
def isOver (strand : Strand) : Bool :=
  strand.crashed || strand.engine.status.isFinal

/-- How the engine has ended, if it has. -/
def ending? (strand : Strand) : Option Ending :=
  if strand.crashed then some .crashed
  else if strand.engine.status.isFinal then some (.returned strand.engine.outcome)
  else none

theorem ending?_eq_none {strand : Strand} : strand.ending? = none ↔ strand.isOver = false := by
  unfold ending? isOver
  cases strand.crashed <;> cases strand.engine.status.isFinal <;> simp

theorem ending?_of_isOver {strand : Strand} (atEnd : strand.isOver = true) :
    ∃ ending, strand.ending? = some ending := by
  apply Option.ne_none_iff_exists'.mp
  intro unended
  rw [ending?_eq_none, atEnd] at unended
  cases unended

/-- An engine that is about to start. -/
def fresh (engine : Engine) : Strand :=
  ⟨engine, false, []⟩

def step (strand : Strand) (context : Context) (surroundings : Surroundings) : Strand :=
  { strand with
    engine := (strand.engine.step context surroundings).1
    events := strand.events ++ Report.events (strand.engine.step context surroundings).2 }

theorem step_agree {strand : Strand} {context : Context} {left right : Surroundings}
    (agree : left.Agree right (strand.engine.request? context left.stopRequested)) :
    strand.step context left = strand.step context right := by
  rcases Engine.step_agree agree with ⟨moved, shown⟩
  rw [step, step, moved, shown]

/-- The engine breaks down after it has told something. -/
def breakDown (strand : Strand) (reports : List Report) : Strand :=
  { strand with crashed := true, events := strand.events ++ Report.events reports }

/-- The engine does not ask for other engines. -/
def Calm (strand : Strand) (context : Context) : Prop :=
  (∀ entry, strand.engine.request? context false ≠ some (.spawn entry)) ∧
    ∀ target, strand.engine.request? context false ≠ some (.join target)

end Strand

/-- Engines with what they have in common.  The engine of thread `i` stands at position
`i`. -/
structure Ensemble where
  context : Context
  backend : Inference
  strands : List Strand

namespace Ensemble

/-- What an engine is told that wants to wait for another one, if it need not wait.  The
first engine is not a thread. -/
def reply? (ensemble : Ensemble) (joiner target : ThreadId) : Option (Except Cause Outcome) :=
  if joiner = target then some (.error (.selfJoin target))
  else if target = .initial then some (.error (.unknownThread (Int64.ofNat target)))
  else
    match ensemble.strands[target]? with
    | none => some (.error (.unknownThread (Int64.ofNat target)))
    | some strand => strand.ending?.map fun ending => .ok ending.outcome

/-- What becomes of an engine by its next turn, and which engine it starts.  Nothing, if it
has to wait. -/
def outlook? (ensemble : Ensemble) (id : ThreadId) (strand : Strand) :
    Option (Strand × List Strand) :=
  let silent := Surroundings.alone fun _ => .unset
  match strand.engine.breakdown? ensemble.context false with
  | some reports => some (strand.breakDown reports, [])
  | none =>
    match strand.engine.request? ensemble.context false with
    | none => some (strand.step ensemble.context silent, [])
    | some (.infer payload) =>
      match ensemble.backend payload with
      | none => some (strand.breakDown (strand.engine.announcement ensemble.context), [])
      | some value => some (strand.step ensemble.context (.alone fun _ => value), [])
    | some (.spawn entry) =>
      let child := ensemble.strands.length
      some (strand.step ensemble.context { silent with spawn := .ok child },
        [.fresh (strand.engine.child ensemble.context.settings child entry)])
    | some (.join target) =>
      (ensemble.reply? id target).map fun result =>
        (strand.step ensemble.context { silent with join := fun _ => ⟨[], result⟩ }, [])

/-- What the turn of an engine brings about, if it can move. -/
def prospect? (ensemble : Ensemble) (id : ThreadId) : Option (Strand × List Strand) :=
  (ensemble.strands[id]?).bind fun strand =>
    if strand.isOver then none else ensemble.outlook? id strand

def put (ensemble : Ensemble) (id : ThreadId) (strand : Strand) : Ensemble :=
  { ensemble with strands := ensemble.strands.set id strand }

def start (ensemble : Ensemble) (started : List Strand) : Ensemble :=
  { ensemble with strands := ensemble.strands ++ started }

def turn (ensemble : Ensemble) (id : ThreadId) : Ensemble :=
  match ensemble.prospect? id with
  | none => ensemble
  | some (moved, started) => (ensemble.start started).put id moved

/-- All engines have come to their end. -/
def IsComplete (ensemble : Ensemble) : Prop :=
  ∀ strand ∈ ensemble.strands, strand.isOver = true

/-- If it is the turn of an engine other than the first one, it does not ask for
engines. -/
def Tame (ensemble : Ensemble) (id : ThreadId) : Prop :=
  id ≠ .initial → ∀ strand, ensemble.strands[id]? = some strand → strand.isOver = false →
    strand.Calm ensemble.context

section Turns

variable {ensemble : Ensemble} {id other : ThreadId} {strand moved : Strand}
  {started : List Strand}

theorem prospect?_eq_some : ensemble.prospect? id = some (moved, started) ↔
    ∃ strand, ensemble.strands[id]? = some strand ∧ strand.isOver = false ∧
      ensemble.outlook? id strand = some (moved, started) := by
  unfold prospect?
  rw [Option.bind_eq_some_iff]
  constructor
  · rintro ⟨strand, present, able⟩
    split at able
    · cases able
    · rename_i active
      exact ⟨strand, present, by simpa using active, able⟩
  · rintro ⟨strand, present, active, able⟩
    refine ⟨strand, present, ?_⟩
    rw [if_neg (by simp [active])]
    exact able

theorem outlook?_of_breakdown {reports : List Report}
    (broken : strand.engine.breakdown? ensemble.context false = some reports) :
    ensemble.outlook? id strand = some (strand.breakDown reports, []) := by
  rw [outlook?, broken]

theorem outlook?_of_none (borne : strand.engine.breakdown? ensemble.context false = none)
    (asked : strand.engine.request? ensemble.context false = none) :
    ensemble.outlook? id strand =
      some (strand.step ensemble.context (.alone fun _ => .unset), []) := by
  rw [outlook?, borne, asked]

theorem outlook?_of_infer {payload : String}
    (asked : strand.engine.request? ensemble.context false = some (.infer payload)) :
    ensemble.outlook? id strand =
      match ensemble.backend payload with
      | none => some (strand.breakDown (strand.engine.announcement ensemble.context), [])
      | some value => some (strand.step ensemble.context (.alone fun _ => value), []) := by
  rw [outlook?, Engine.breakdown?_of_request? asked, asked]

theorem outlook?_of_spawn {entry : Nat}
    (asked : strand.engine.request? ensemble.context false = some (.spawn entry)) :
    ensemble.outlook? id strand = some
      (strand.step ensemble.context
        { Surroundings.alone fun _ => .unset with spawn := .ok ensemble.strands.length },
      [.fresh (strand.engine.child ensemble.context.settings ensemble.strands.length entry)]) := by
  rw [outlook?, Engine.breakdown?_of_request? asked, asked]

theorem outlook?_of_join {target : ThreadId}
    (asked : strand.engine.request? ensemble.context false = some (.join target)) :
    ensemble.outlook? id strand = (ensemble.reply? id target).map fun result =>
      (strand.step ensemble.context
        { Surroundings.alone fun _ => .unset with join := fun _ => ⟨[], result⟩ }, []) := by
  rw [outlook?, Engine.breakdown?_of_request? asked, asked]

theorem turn_of_none (still : ensemble.prospect? id = none) : ensemble.turn id = ensemble := by
  rw [turn, still]

theorem turn_of_some (able : ensemble.prospect? id = some (moved, started)) :
    ensemble.turn id = (ensemble.start started).put id moved := by
  rw [turn, able]

theorem start_nil (ensemble : Ensemble) : ensemble.start [] = ensemble := by
  rw [start, List.append_nil]

theorem context_turn (ensemble : Ensemble) (id : ThreadId) :
    (ensemble.turn id).context = ensemble.context := by
  unfold turn
  split <;> rfl

theorem lt_of_prospect? (able : ensemble.prospect? id = some (moved, started)) :
    id < ensemble.strands.length := by
  rcases prospect?_eq_some.mp able with ⟨strand, present, -⟩
  exact (List.getElem?_eq_some_iff.mp present).1

/-- The turn of another engine is not noticed by an engine. -/
theorem strands_turn_of_ne (differs : other ≠ id)
    (present : ensemble.strands[other]? = some strand) :
    (ensemble.turn id).strands[other]? = some strand := by
  cases able : ensemble.prospect? id with
  | none => rw [turn_of_none able, present]
  | some result =>
      rcases result with ⟨moved, started⟩
      have inside := (List.getElem?_eq_some_iff.mp present).1
      rw [turn_of_some able, put, List.getElem?_set_ne differs.symm, start,
        List.getElem?_append_left inside, present]

theorem prospect?_of_complete (complete : ensemble.IsComplete) (id : ThreadId) :
    ensemble.prospect? id = none := by
  cases able : ensemble.prospect? id with
  | none => rfl
  | some result =>
      rcases prospect?_eq_some.mp able with ⟨strand, present, active, -⟩
      simp [complete strand (List.mem_of_getElem? present)] at active

/-- An engine that does not ask for others does the same among whatever engines. -/
theorem outlook?_of_calm (calm : strand.Calm ensemble.context) :
    ∃ moved, ∀ strands place,
      outlook? { ensemble with strands } place strand = some (moved, []) := by
  unfold outlook?
  dsimp only
  cases strand.engine.breakdown? ensemble.context false with
  | some reports => exact ⟨_, fun _ _ => rfl⟩
  | none =>
      cases asked : strand.engine.request? ensemble.context false with
      | none => exact ⟨_, fun _ _ => rfl⟩
      | some request =>
          cases request with
          | infer payload =>
              dsimp only
              cases ensemble.backend payload with
              | none => exact ⟨_, fun _ _ => rfl⟩
              | some value => exact ⟨_, fun _ _ => rfl⟩
          | spawn entry => exact absurd asked (calm.1 entry)
          | join target => exact absurd asked (calm.2 target)

/-- An engine need not wait if all others are at their ends. -/
theorem outlook?_of_alone (ended : ∀ place strand, place ≠ id →
    ensemble.strands[place]? = some strand → strand.isOver = true) (strand : Strand) :
    ∃ result, ensemble.outlook? id strand = some result := by
  have reply (target : ThreadId) : ∃ result, ensemble.reply? id target = some result := by
    unfold reply?
    split
    · exact ⟨_, rfl⟩
    · rename_i foreign
      split
      · exact ⟨_, rfl⟩
      · cases present : ensemble.strands[target]? with
        | none => exact ⟨_, rfl⟩
        | some other =>
            have atEnd := ended target other (Ne.symm foreign) present
            rcases Strand.ending?_of_isOver atEnd with ⟨ending, known⟩
            exact ⟨_, Option.map_eq_some_iff.mpr ⟨ending, known, rfl⟩⟩
  unfold outlook?
  cases strand.engine.breakdown? ensemble.context false with
  | some reports => exact ⟨_, rfl⟩
  | none =>
      cases strand.engine.request? ensemble.context false with
      | none => exact ⟨_, rfl⟩
      | some request =>
          cases request with
          | infer payload =>
              dsimp only
              cases ensemble.backend payload with
              | none => exact ⟨_, rfl⟩
              | some value => exact ⟨_, rfl⟩
          | spawn entry => exact ⟨_, rfl⟩
          | join target =>
              rcases reply target with ⟨result, told⟩
              exact ⟨_, Option.map_eq_some_iff.mpr ⟨result, told, rfl⟩⟩

/-- An engine that can move can still do so, and does the same, when an engine has moved
that was not at its end. -/
theorem outlook?_set {before after : Strand} {place : ThreadId}
    (present : ensemble.strands[place]? = some before) (active : before.isOver = false)
    (able : ensemble.outlook? id strand = some (moved, started)) :
    (ensemble.put place after).outlook? id strand = some (moved, started) := by
  have reply {target : ThreadId} {result : Except Cause Outcome}
      (told : ensemble.reply? id target = some result) :
      (ensemble.put place after).reply? id target = some result := by
    unfold reply? at told ⊢
    split
    · rename_i own
      rw [if_pos own] at told
      exact told
    · rename_i foreign
      rw [if_neg foreign] at told
      split
      · rename_i first
        rw [if_pos first] at told
        exact told
      · rename_i later
        rw [if_neg later] at told
        by_cases same : place = target
        · -- Nobody has been told anything about an engine that is not at its end.
          rw [← same, present] at told
          simp [Strand.ending?_eq_none.mpr active] at told
        · rw [put, List.getElem?_set_ne same]
          exact told
  unfold outlook? at able ⊢
  rw [show (ensemble.put place after).context = ensemble.context from rfl]
  cases broken : strand.engine.breakdown? ensemble.context false with
  | some reports =>
      rw [broken] at able
      exact able
  | none =>
      rw [broken] at able
      cases asked : strand.engine.request? ensemble.context false with
      | none =>
          rw [asked] at able
          exact able
      | some request =>
          rw [asked] at able
          cases request with
          | infer payload => exact able
          | spawn entry =>
              simp only [put, List.length_set]
              exact able
          | join target =>
              rcases Option.map_eq_some_iff.mp able with ⟨result, told, same⟩
              exact Option.map_eq_some_iff.mpr ⟨result, reply told, same⟩

/-! ## Turns in either order -/

/-- Two engines that can move can do so in either order, if one of them does not ask for
others. -/
theorem turn_comm {first second : Strand × List Strand} (differs : id ≠ other)
    (able : ensemble.prospect? id = some first) (calm : ∀ strand,
      ensemble.strands[id]? = some strand → strand.Calm ensemble.context)
    (rival : ensemble.prospect? other = some second) :
    (ensemble.turn id).prospect? other = some second ∧
      (ensemble.turn other).prospect? id = some first ∧
      (ensemble.turn id).turn other = (ensemble.turn other).turn id := by
  rcases first with ⟨moved, started⟩
  rcases second with ⟨follower, newcomers⟩
  rcases prospect?_eq_some.mp able with ⟨strand, present, active, outlook⟩
  rcases prospect?_eq_some.mp rival with ⟨later, standing, unfinished, chance⟩
  rcases outlook?_of_calm (calm strand present) with ⟨result, same⟩
  have settled : (result, []) = (moved, started) :=
    Option.some.inj ((same ensemble.strands id).symm.trans outlook)
  cases settled
  have inside := lt_of_prospect? able
  have mine : ensemble.turn id = ensemble.put id moved := by
    rw [turn_of_some able, start_nil]
  have followed : (ensemble.turn id).prospect? other = some (follower, newcomers) := by
    refine prospect?_eq_some.mpr ⟨later, strands_turn_of_ne differs.symm standing, unfinished, ?_⟩
    rw [mine]
    exact outlook?_set present active chance
  have kept : (ensemble.turn other).prospect? id = some (moved, []) := by
    refine prospect?_eq_some.mpr ⟨strand, strands_turn_of_ne differs present, active, ?_⟩
    rw [turn_of_some rival]
    exact same _ id
  refine ⟨followed, kept, ?_⟩
  rw [turn_of_some followed, turn_of_some kept, mine, turn_of_some rival, start_nil]
  simp only [put, start]
  rw [← List.set_append_left _ _ inside, List.set_comm _ _ differs]

/-- Two engines that can move can do so in either order, if only the first engine may ask
for others. -/
theorem Tame.swap {first second : Strand × List Strand} (differs : id ≠ other)
    (tame : ensemble.Tame id) (able : ensemble.prospect? id = some first)
    (also : ensemble.Tame other) (rival : ensemble.prospect? other = some second) :
    (ensemble.turn id).prospect? other = some second ∧
      (ensemble.turn other).prospect? id = some first ∧
      (ensemble.turn id).turn other = (ensemble.turn other).turn id := by
  have calm {place : ThreadId} {result : Strand × List Strand} (tame : ensemble.Tame place)
      (able : ensemble.prospect? place = some result) (later : place ≠ .initial) (strand : Strand)
      (present : ensemble.strands[place]? = some strand) : strand.Calm ensemble.context := by
    rcases prospect?_eq_some.mp able with ⟨found, here, active, -⟩
    cases here.symm.trans present
    exact tame later strand present active
  by_cases main : id = .initial
  · have later : other ≠ .initial := fun same => differs (main.trans same.symm)
    rcases turn_comm differs.symm rival (calm also rival later) able with ⟨kept, followed, same⟩
    exact ⟨followed, kept, same.symm⟩
  · exact turn_comm differs able (calm tame able main) rival

/-- What an engine asks for does not depend on the turns of others. -/
theorem tame_turn_iff (differs : other ≠ id) (inside : other < ensemble.strands.length) :
    (ensemble.turn id).Tame other ↔ ensemble.Tame other := by
  have present := List.getElem?_eq_getElem inside
  unfold Tame
  rw [strands_turn_of_ne differs present, present, context_turn]

end Turns

/-! ## Whole plays -/

/-- A number of turns, each of an engine that can move, where only the first engine may ask
for others. -/
inductive Plays (last : Ensemble) : Nat → Ensemble → Prop where
  | finished : Plays last 0 last
  | turn {ensemble : Ensemble} {turns : Nat} {id : ThreadId} {result : Strand × List Strand}
      (able : ensemble.prospect? id = some result) (tame : ensemble.Tame id)
      (rest : Plays last turns (ensemble.turn id)) : Plays last (turns + 1) ensemble

section Plays

variable {last ensemble : Ensemble} {turns : Nat} {id : ThreadId}

/-- If a play leads to the end of all engines, no engine can ask for others at any time that
does not do so in the play. -/
theorem Plays.tame (plays : Plays last turns ensemble) (complete : last.IsComplete)
    (id : ThreadId) : ensemble.Tame id := by
  induction plays with
  | finished =>
      intro _ strand present active
      simp [complete strand (List.mem_of_getElem? present)] at active
  | @turn ensemble turns mover result able tame rest ih =>
      by_cases same : id = mover
      · exact same ▸ tame
      · intro later strand present active
        have inside := (List.getElem?_eq_some_iff.mp present).1
        exact (tame_turn_iff same inside).mp ih later strand present active

/-- A play to the end of all engines can be begun with any engine that can move. -/
theorem Plays.begin (plays : Plays last turns ensemble) (complete : last.IsComplete)
    {result : Strand × List Strand} (able : ensemble.prospect? id = some result) :
    ∃ fewer, turns = fewer + 1 ∧ Plays last fewer (ensemble.turn id) := by
  induction plays generalizing result with
  | finished => simp [prospect?_of_complete complete] at able
  | @turn ensemble turns mover first moves tame rest ih =>
      by_cases same : id = mover
      · exact ⟨turns, rfl, same ▸ rest⟩
      · -- The engine could move later just as well, and its turn can be brought forward.
        have own : ensemble.Tame id := (Plays.turn moves tame rest).tame complete id
        rcases own.swap same able tame moves with ⟨after, before, swapped⟩
        rcases ih before with ⟨fewer, rfl, shorter⟩
        refine ⟨fewer + 1, rfl, .turn after ?_ (swapped ▸ shorter)⟩
        exact (tame_turn_iff (Ne.symm same) (lt_of_prospect? moves)).mpr tame

/-- A turn of any engine, whether it can move or not, leads on to the same end. -/
theorem Plays.next (plays : Plays last turns ensemble) (complete : last.IsComplete)
    (id : ThreadId) : ∃ fewer, Plays last fewer (ensemble.turn id) := by
  cases able : ensemble.prospect? id with
  | none =>
      rw [turn_of_none able]
      exact ⟨turns, plays⟩
  | some result =>
      rcases plays.begin complete able with ⟨fewer, -, rest⟩
      exact ⟨fewer, rest⟩

theorem Plays.eq_of_complete (plays : Plays last turns ensemble)
    (complete : ensemble.IsComplete) : ensemble = last := by
  cases plays with
  | finished => rfl
  | turn able tame rest => simp [prospect?_of_complete complete] at able

end Plays

end Ensemble
end CommandMachine
