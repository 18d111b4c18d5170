import CommandMachine.Proofs.Custody
import CommandMachine.Proofs.Isolation
import CommandMachine.Proofs.Memory.Filling
namespace CommandMachine

/-!
# Handles stay with the engine that was issued them

A chronicle is a run together with what is needed to say whose a handle is: for each
engine the book of the memory it uses, and all answers of the backend.  If stores are
shared there is one book; if not, a new engine starts with a copy of the memory of
the engine that started it, and so with a copy of its book.  Engines take turns in any
order, the run may be asked to stop at any time, the system may begin or cease to refuse
threads, and the backend may answer each time as it likes, though never with a handle.
Even so no handle ever passes from one engine to another one.

That holds as long as the numbers in handles do not come back.  A generation comes back if
a slot is given back often enough, but so does the number of a page in a memory of too many
pages, and the number of a slot on a page of too many slots.
-/

/-- A run with the books of its memories and the answers of its backend. -/
structure Chronicle where
  run : Run
  /-- For each engine the book of the memory that it uses. -/
  books : ThreadId → Book
  /-- All answers of the backend so far. -/
  answers : List Value

/-- The backend never answers with a handle. -/
def Inference.Plain (backend : Inference) : Prop :=
  ∀ payload address, backend payload ≠ some (.handle address)

namespace Chronicle

/-- A run that is about to start. -/
def create (context : Context) (backend : Inference) (plan : StopPlan) (manual : Bool)
    (faults : FaultSource) : Chronicle where
  run := .create context backend plan manual faults
  books := fun _ => .blank
  answers := []

/-- The same run with another backend, or with one that has changed. -/
def meeting (chronicle : Chronicle) (backend : Inference) : Chronicle :=
  { chronicle with run := { chronicle.run with backend } }

def requestStop (chronicle : Chronicle) : Chronicle :=
  { chronicle with run := chronicle.run.requestStop }

def setRefusal (chronicle : Chronicle) (refusal : Option String) : Chronicle :=
  { chronicle with run := chronicle.run.setRefusal refusal }

/-- The book of the memory that an engine uses, after its turn. -/
def bookAfter (chronicle : Chronicle) (id : ThreadId) : Book :=
  (chronicle.books id).enter? id (chronicle.run.exchange? id)

/-- One turn of an engine.  If stores are not shared, an engine that is started in the
turn gets a copy of the book. -/
def turn (chronicle : Chronicle) (id : ThreadId) : Chronicle where
  run := chronicle.run.turn id
  books := fun other =>
    match chronicle.run.context.settings.isolation with
    | .shared => chronicle.bookAfter id
    | .isolated =>
      if other = id then chronicle.bookAfter id
      else if other = chronicle.run.threads.length then chronicle.books id
      else chronicle.books other
  answers := (chronicle.run.inferred? id).toList ++ chronicle.answers

/-- What turns in any order lead to.  The backend may be another one in each turn. -/
inductive Reachable (context : Context) : Chronicle → Prop where
  | create (backend : Inference) (plan : StopPlan) (manual : Bool) (faults : FaultSource) :
      Reachable context (create context backend plan manual faults)
  | turn {chronicle : Chronicle} (backend : Inference) (plain : backend.Plain) (id : ThreadId)
      (earlier : Reachable context chronicle) :
      Reachable context ((chronicle.meeting backend).turn id)
  | requestStop {chronicle : Chronicle} (earlier : Reachable context chronicle) :
      Reachable context chronicle.requestStop
  | setRefusal {chronicle : Chronicle} (refusal : Option String)
      (earlier : Reachable context chronicle) :
      Reachable context (chronicle.setRefusal refusal)

/-- In no memory of the run has the generation of a slot come back. -/
def Fresh (chronicle : Chronicle) : Prop :=
  ∀ id engine, chronicle.run.engineAt? id = some engine →
    ∀ place, Memory.releases (chronicle.books id).history place < UInt32.size

/-- No memory of the run has more pages than there are numbers for. -/
def FewPages (chronicle : Chronicle) : Prop :=
  ∀ id engine, chronicle.run.engineAt? id = some engine →
    engine.stores.memory.pages.length ≤ UInt32.size

/-- In no memory of the run have handles come back. -/
def Numbered (chronicle : Chronicle) : Prop :=
  ∀ id engine, chronicle.run.engineAt? id = some engine →
    ((chronicle.books id).session engine.stores.memory).Numbered

/-- The run is sound, and if stores are shared there is one book only. -/
structure Coherent (context : Context) (chronicle : Chronicle) : Prop where
  sound : chronicle.run.Sound context
  together : context.settings.isolation = .shared →
    ∀ left right, chronicle.books left = chronicle.books right

/-- Everything that is known of the custody of handles in a run. -/
structure Custody (context : Context) (chronicle : Chronicle) : Prop where
  answers : ∀ address, .handle address ∉ chronicle.answers
  tracked : ∀ id engine, chronicle.run.engineAt? id = some engine →
    engine.stores.Tracked context.settings.pageSize
      (Origin context.program chronicle.answers) (chronicle.books id)
  confined : ∀ id engine, chronicle.run.engineAt? id = some engine →
    engine.Confined id (chronicle.books id)

/-! ## Books after a turn -/

section Turn

variable {context : Context} {chronicle : Chronicle} {id other : ThreadId}

theorem books_turn_self : (chronicle.turn id).books id = chronicle.bookAfter id := by
  unfold turn
  dsimp only
  split
  · rfl
  · exact if_pos rfl

theorem books_turn_shared (shared : chronicle.run.context.settings.isolation = .shared)
    (id other : ThreadId) : (chronicle.turn id).books other = chronicle.bookAfter id := by
  simp only [turn, shared]

theorem books_turn_isolated (isolated : chronicle.run.context.settings.isolation = .isolated)
    (differs : other ≠ id) (old : other < chronicle.run.threads.length) :
    (chronicle.turn id).books other = chronicle.books other := by
  simp only [turn, isolated, if_neg differs, if_neg (Nat.ne_of_lt old)]

theorem books_turn_new (isolated : chronicle.run.context.settings.isolation = .isolated)
    (differs : other ≠ id) (new : other = chronicle.run.threads.length) :
    (chronicle.turn id).books other = chronicle.books id := by
  simp only [turn, isolated, if_neg differs, if_pos new]

theorem Coherent.turn (coherent : chronicle.Coherent context) (id : ThreadId) :
    (chronicle.turn id).Coherent context where
  sound := coherent.sound.turn id
  together := fun shared left right => by
    rw [← coherent.sound.context_eq] at shared
    rw [books_turn_shared shared id left, books_turn_shared shared id right]

theorem Coherent.one_book (coherent : chronicle.Coherent context)
    (shared : chronicle.run.context.settings.isolation = .shared) (left right : ThreadId) :
    chronicle.books left = chronicle.books right := by
  rw [coherent.sound.context_eq] at shared
  exact coherent.together shared left right

/-- A turn in which nothing is asked of memory leaves the books of the engines alone. -/
theorem Coherent.books_of_silent (coherent : chronicle.Coherent context)
    (silent : chronicle.run.exchange? id = none) (old : other < chronicle.run.threads.length) :
    (chronicle.turn id).books other = chronicle.books other := by
  have same : chronicle.bookAfter id = chronicle.books id := by
    rw [bookAfter, silent]
    rfl
  by_cases itself : other = id
  · rw [itself, books_turn_self, same]
  · cases mode : chronicle.run.context.settings.isolation with
    | shared =>
        rw [books_turn_shared mode, same]
        exact coherent.one_book mode id other
    | isolated => exact books_turn_isolated mode itself old

/-! ## A turn in which an engine moves -/

section Moved

variable {engine : Engine} {surroundings : Surroundings} {children : List Engine}

theorem bookAfter_of_moves
    (moves : chronicle.run.Moves id (chronicle.run.turn id) engine surroundings children) :
    chronicle.bookAfter id = (chronicle.books id).enter? id
      (engine.exchange? chronicle.run.context surroundings.stopRequested) := by
  rw [bookAfter, Run.exchange?, moves.mover, Option.bind_some]

/-- What the instruction may bring into registers has an origin that is known after
the turn. -/
theorem origin_of_supplied
    (moves : chronicle.run.Moves id (chronicle.run.turn id) engine surroundings children)
    {value : Value}
    (supplied : Engine.SuppliedAt chronicle.run.context surroundings engine value) :
    Origin chronicle.run.context.program (chronicle.turn id).answers value := by
  rcases supplied with ⟨instruction, op, found, decoded, supplies⟩
  cases supplies with
  | unset => exact .unset
  | zero => exact .zero
  | literal writes listed =>
      subst writes
      exact .written ⟨engine.counter, instruction, found, decoded, listed⟩
  | answer payload =>
      rcases moves.inferred payload with unset | answered
      · rw [unset]
        exact .unset
      · refine .answered (List.mem_append_left _ ?_)
        rw [answered]
        exact List.mem_singleton.mpr rfl

/-- If no number has come back after the turn, none had before. -/
theorem Coherent.numbered_of_moves (coherent : chronicle.Coherent context)
    (moves : chronicle.run.Moves id (chronicle.run.turn id) engine surroundings children)
    (numbered : (chronicle.turn id).Numbered) : chronicle.Numbered := by
  -- Of the engine that moved one knows how its book grew; the others have the same book
  -- or have not been touched.
  have itself : ((chronicle.books id).session engine.stores.memory).Numbered := by
    have later := numbered id _ moves.engineAt?_self
    rw [books_turn_self, bookAfter_of_moves moves] at later
    exact Engine.numbered_of_step (Engine.step_trades engine _ moves.honest) later
  intro other before present
  by_cases own : other = id
  · subst own
    rw [moves.present] at present
    cases present
    exact itself
  · cases mode : chronicle.run.context.settings.isolation with
    | shared =>
        rw [coherent.one_book mode other id, Run.stores_of_shared mode present,
          ← Run.stores_of_shared mode moves.present]
        exact itself
    | isolated =>
        have old := Run.lt_of_engineAt? present
        rcases moves.exists_neighbour present with ⟨found, later⟩
        rcases moves.neighbour_isolated mode own later with kept | ⟨place, -⟩
        · rw [present] at kept
          cases kept
          have bounds := numbered other before later
          rw [books_turn_isolated mode own old] at bounds
          exact bounds
        · exact absurd place (Nat.ne_of_lt old)

/-- A turn in which an engine moves keeps the custody of handles. -/
theorem Custody.of_moves (coherent : chronicle.Coherent context)
    (custody : chronicle.Custody context) (numbered : chronicle.Numbered)
    (bounded : context.settings.pageSize ≤ UInt32.size)
    (plain : ∀ address, ¬ Origin context.program (chronicle.turn id).answers (.handle address))
    (moves : chronicle.run.Moves id (chronicle.run.turn id) engine surroundings children)
    {found : Engine} (present : (chronicle.run.turn id).engineAt? other = some found) :
    found.stores.Tracked context.settings.pageSize
        (Origin context.program (chronicle.turn id).answers) ((chronicle.turn id).books other) ∧
      found.Confined other ((chronicle.turn id).books other) := by
  have settings := coherent.sound.context_eq
  subst settings
  have widened {other : ThreadId} {found : Engine}
      (present : chronicle.run.engineAt? other = some found) :=
    (custody.tracked other found present).wider
      fun _ origin => origin.more (chronicle.run.inferred? id).toList
  have stepped := Engine.Confined.step bounded (widened moves.present)
    (custody.confined id engine moves.present) (numbered id engine moves.present) plain moves.honest
    fun _ => origin_of_supplied moves
  rw [← bookAfter_of_moves moves] at stepped
  by_cases own : other = id
  · subst own
    rw [moves.engineAt?_self] at present
    cases present
    rw [books_turn_self]
    exact stepped
  · cases mode : chronicle.run.context.settings.isolation with
    | shared =>
        -- The others use the stores that the moved engine has left, and have their stacks.
        rcases moves.neighbour_shared mode own present with ⟨stores, kept⟩
        rw [books_turn_shared mode, stores]
        refine ⟨stepped.1, ?_⟩
        rcases kept with ⟨empty, idle⟩ | ⟨before, old, stack, status⟩
        · exact Engine.confined_of_idle empty idle
        · have confined := custody.confined other before old
          rw [coherent.one_book mode other id] at confined
          refine ⟨fun address held => ?_, fun counter address => ?_⟩
          · rw [stack] at held
            exact (confined.stack address held).enter? id _
          · rw [status]
            exact confined.status counter address
    | isolated =>
        rcases moves.neighbour_isolated mode own present with
          kept | ⟨place, stores, empty, idle⟩
        · rw [books_turn_isolated mode own (Run.lt_of_engineAt? kept)]
          exact ⟨widened kept, custody.confined other found kept⟩
        · rw [books_turn_new mode own place, stores]
          exact ⟨widened moves.present, Engine.confined_of_idle empty idle⟩

end Moved

theorem Coherent.numbered_of_turn (coherent : chronicle.Coherent context)
    (numbered : (chronicle.turn id).Numbered) : chronicle.Numbered := by
  cases Run.turn_turned coherent.sound id with
  | still same silent =>
      intro other engine present
      have later := numbered other engine ((Run.engineAt?_of_scene same other).trans present)
      rw [coherent.books_of_silent silent (Run.lt_of_engineAt? present)] at later
      exact later
  | moved moves => exact coherent.numbered_of_moves moves numbered

theorem inferred?_ne_handle {run : Run} (plain : run.backend.Plain) (id : ThreadId)
    (address : Handle) : run.inferred? id ≠ some (.handle address) := by
  intro inferred
  rcases Option.bind_eq_some_iff.mp inferred with ⟨⟨engine, stopRequested⟩, -, answered⟩
  dsimp only at answered
  split at answered
  · exact plain _ address answered
  · cases answered

theorem Custody.turn (coherent : chronicle.Coherent context)
    (custody : chronicle.Custody context) (numbered : chronicle.Numbered)
    (bounded : context.settings.pageSize ≤ UInt32.size)
    (spelled : ∀ address, ¬ context.program.Writes (.handle address))
    (plain : chronicle.run.backend.Plain) (id : ThreadId) :
    (chronicle.turn id).Custody context := by
  have answers (address : Handle) : .handle address ∉ (chronicle.turn id).answers := by
    intro given
    rcases List.mem_append.mp given with new | old
    · exact inferred?_ne_handle plain id address (Option.mem_toList.mp new)
    · exact custody.answers address old
  have origins (address : Handle) :
      ¬ Origin context.program (chronicle.turn id).answers (.handle address) := by
    intro origin
    cases origin with
    | written writes => exact spelled address writes
    | answered given => exact answers address given
  have kept : ∀ other found, (chronicle.turn id).run.engineAt? other = some found →
      found.stores.Tracked context.settings.pageSize
          (Origin context.program (chronicle.turn id).answers) ((chronicle.turn id).books other) ∧
        found.Confined other ((chronicle.turn id).books other) := by
    intro other found present
    cases Run.turn_turned coherent.sound id with
    | still same silent =>
        have old := (Run.engineAt?_of_scene same other).symm.trans present
        rw [coherent.books_of_silent silent (Run.lt_of_engineAt? old)]
        exact ⟨(custody.tracked other found old).wider
          fun _ origin => origin.more (chronicle.run.inferred? id).toList,
          custody.confined other found old⟩
    | moved moves => exact custody.of_moves coherent numbered bounded origins moves present
  exact ⟨answers, fun other found present => (kept other found present).1,
    fun other found present => (kept other found present).2⟩

end Turn

/-! ## Whole runs -/

section Runs

variable {context : Context} {chronicle : Chronicle}

/-- Any order of turns with one backend. -/
theorem Reachable.turns {backend : Inference} (plain : backend.Plain) (ids : List ThreadId)
    (reachable : Reachable context chronicle) :
    Reachable context
      (ids.foldl (fun chronicle id => (chronicle.meeting backend).turn id) chronicle) := by
  induction ids generalizing chronicle with
  | nil => exact reachable
  | cons id rest ih => exact ih (.turn backend plain id reachable)

theorem coherent_create (context : Context) (backend : Inference) (plan : StopPlan)
    (manual : Bool) (faults : FaultSource) :
    (create context backend plan manual faults).Coherent context :=
  ⟨Run.sound_create context backend plan manual faults, fun _ _ _ => rfl⟩

theorem Reachable.coherent (reachable : Reachable context chronicle) :
    chronicle.Coherent context := by
  induction reachable with
  | create backend plan manual faults =>
      exact coherent_create context backend plan manual faults
  | turn backend plain id earlier ih =>
      have met : (meeting _ backend).Coherent context := ⟨ih.sound.of_same rfl rfl, ih.together⟩
      exact met.turn id
  | requestStop earlier ih => exact ⟨ih.sound.of_same rfl rfl, ih.together⟩
  | setRefusal refusal earlier ih => exact ⟨ih.sound.of_same rfl rfl, ih.together⟩

theorem custody_create (context : Context) (backend : Inference) (plan : StopPlan)
    (manual : Bool) (faults : FaultSource) :
    (create context backend plan manual faults).Custody context := by
  have only {id : ThreadId} {engine : Engine}
      (present : (create context backend plan manual faults).run.engineAt? id = some engine) :
      engine.stores = .empty context.settings ∧ engine.stack.items = [] ∧
        engine.status = .idle := by
    rcases Option.map_eq_some_iff.mp present with ⟨thread, listed, rfl⟩
    have first := List.mem_singleton.mp (List.mem_of_getElem? listed)
    subst first
    unfold Run.view
    split <;> exact ⟨rfl, rfl, rfl⟩
  refine ⟨fun _ => List.not_mem_nil, fun id engine present => ?_, fun id engine present => ?_⟩
  · rw [(only present).1]
    exact ⟨.blank, Book.orderly_blank, fun _ held => absurd held List.not_mem_nil⟩
  · exact Engine.confined_of_idle (only present).2.1 (only present).2.2

theorem Reachable.custody (reachable : Reachable context chronicle)
    (bounded : context.settings.pageSize ≤ UInt32.size)
    (spelled : ∀ address, ¬ context.program.Writes (.handle address))
    (numbered : chronicle.Numbered) : chronicle.Custody context := by
  induction reachable with
  | create backend plan manual faults => exact custody_create context backend plan manual faults
  | @turn chronicle backend plain id earlier ih =>
      have met : (chronicle.meeting backend).Coherent context :=
        ⟨earlier.coherent.sound.of_same rfl rfl, earlier.coherent.together⟩
      -- The bounds are known at the end only and have to be carried back.
      have before : (chronicle.meeting backend).Numbered := met.numbered_of_turn numbered
      have custody := ih before
      have same : (chronicle.meeting backend).Custody context :=
        ⟨custody.answers, custody.tracked, custody.confined⟩
      exact same.turn met before bounded spelled plain id
  | requestStop earlier ih =>
      have custody := ih numbered
      exact ⟨custody.answers, custody.tracked, custody.confined⟩
  | setRefusal refusal earlier ih =>
      have custody := ih numbered
      exact ⟨custody.answers, custody.tracked, custody.confined⟩

/-- A load that succeeds leaves on top of the stack what memory has answered. -/
theorem peek?_turn_of_read (coherent : chronicle.Coherent context) {id : ThreadId}
    {address : Handle} {value : Value}
    (asked : chronicle.run.exchange? id = some ⟨.read address, .held value⟩) :
    ∃ next, (chronicle.run.turn id).engineAt? id = some next ∧
      next.stack.peek? = some value := by
  cases Run.turn_turned coherent.sound id with
  | still same silent =>
      rw [silent] at asked
      cases asked
  | moved moves =>
      rcases Run.request_of_exchange? moves.present asked with
        ⟨request, stopRequested, mover, made, exchanged⟩
      rw [moves.mover] at mover
      cases mover
      cases congrArg Memory.Exchange.request exchanged
      have held : (Memory.serve _ _).2 = _ := congrArg Memory.Exchange.reply exchanged
      rcases Memory.read_of_held held with ⟨other, same, found⟩
      cases same
      exact ⟨_, moves.engineAt?_self, Engine.peek?_step_of_read made found⟩

/-- What the confinement of handles comes to for one engine of a run. -/
structure Confines (context : Context) (chronicle : Chronicle) (id : ThreadId)
    (engine : Engine) : Prop where
  /-- The book of the engine tells all that was ever asked of its memory. -/
  records : (chronicle.books id).Records context.settings.pageSize engine.stores.memory
  /-- Registers hold nothing but nothing, zero, literals of the program and answers of
  the backend. -/
  registers : ∀ value ∈ engine.stores.registers.values,
    Origin context.program chronicle.answers value
  /-- A handle on the stack was issued to this engine. -/
  stack : ∀ address, .handle address ∈ engine.stack.items →
    (chronicle.books id).Issued id address
  /-- If the engine is about to use a handle, it is the only one who was ever issued the
  handle, and if memory grants the request, the engine was the last to take the slot. -/
  reach : ∀ exchange address, chronicle.run.exchange? id = some exchange →
    exchange.request.handle? = some address →
      (chronicle.books id).Issued id address ∧
        (∀ other, (chronicle.books id).Issued other address → other = id) ∧
        ((∀ error, exchange.reply ≠ .refused error) →
          (chronicle.books id).tenant? address.place = some (id, address))
  /-- A load that succeeds brings what this engine put under the handle last. -/
  load : ∀ address value, chronicle.run.exchange? id = some ⟨.read address, .held value⟩ →
    (chronicle.books id).lastPut? address = some (id, value) ∧
      ∃ next, (chronicle.turn id).run.engineAt? id = some next ∧
        next.stack.peek? = some value
  /-- The engine has not ended because a handle points outside memory. -/
  inside : ∀ counter address,
    engine.status ≠ .faulted ⟨counter, .memory (.outOfRange address)⟩

/-- **Handles are confined.**  Whatever the order of the turns in a run of a compiled
program, with shared stores or without, and whatever the backend answers as long as it
is no handle: each engine holds and uses only handles that it was issued itself, and
finds under them only what it put there itself.  The numbers in a handle have
thirty-two bits: no generation may have come back, and there may be neither more slots on a
page nor more pages than these numbers can tell apart. -/
theorem handles_confined {aliases : Aliases} {lines : List String} {program : Program}
    (compiled : Assembly.compile aliases lines = .ok program) (settings : Settings)
    (bounded : settings.pageSize ≤ UInt32.size) {chronicle : Chronicle}
    (reachable : Reachable ⟨program, settings⟩ chronicle) (fresh : chronicle.Fresh)
    (few : chronicle.FewPages) :
    ∀ id engine, chronicle.run.engineAt? id = some engine →
      Confines ⟨program, settings⟩ chronicle id engine := by
  intro id engine present
  have numbered : chronicle.Numbered :=
    fun id engine present => ⟨few id engine present, fresh id engine present⟩
  have custody := reachable.custody bounded (Assembly.not_writes_handle compiled) numbered
  have tracked := custody.tracked id engine present
  have confined := custody.confined id engine present
  have bounds := numbered id engine present
  have own {exchange : Memory.Exchange} {address : Handle}
      (asked : chronicle.run.exchange? id = some exchange)
      (about : exchange.request.handle? = some address) :
      (chronicle.books id).Issued id address := by
    rcases Run.request_of_exchange? present asked with ⟨request, stopRequested, -, made, rfl⟩
    exact confined.stack address (Engine.mem_of_memoryRequest? made (Or.inl about))
  refine ⟨tracked.records, tracked.registers, confined.stack, ?_, ?_, confined.status⟩
  · intro exchange address asked about
    have issued := own asked about
    refine ⟨issued, fun other owner =>
      tracked.records.owner_unique bounded bounds owner issued, fun granted => ?_⟩
    rcases Run.request_of_exchange? present asked with ⟨request, stopRequested, -, -, rfl⟩
    exact tracked.records.tenant?_of_fits bounded bounds issued
      (Memory.fits_of_granted about granted)
  · intro address value asked
    refine ⟨?_, peek?_turn_of_read reachable.coherent asked⟩
    rcases Run.request_of_exchange? present asked with ⟨request, stopRequested, -, made, exchanged⟩
    have held : (engine.stores.memory.serve request).2 = .held value :=
      congrArg Memory.Exchange.reply exchanged
    have about : request = .read address := congrArg Memory.Exchange.request exchanged
    rcases Memory.read_of_held held with ⟨other, same, found⟩
    rw [about] at same
    cases same
    exact tracked.records.lastPut?_of_read bounded bounds tracked.orderly (own asked rfl) found

/-- Two engines use one memory.  The first one puts a handle into a slot and takes it
out again, while the second one takes a slot and gives it back, and then asks for a third
engine. -/
def entangled : List String :=
  ["WRITE x 5", "THREAD other", "READ x", "ALLOC", "ALLOC", "LOAD", "LOAD", "END",
    "LABEL other", "READ x", "ALLOC", "FREE", "THREAD other"]

def entangledProgram : Program where
  code := [⟨.ofOp .write [.register "x", .literal (.integer 5)], 1⟩,
    ⟨.ofOp .thread [.target 8], 2⟩, ⟨.ofOp .read [.register "x"], 3⟩, ⟨.ofOp .alloc [], 4⟩,
    ⟨.ofOp .alloc [], 5⟩, ⟨.ofOp .load [], 6⟩, ⟨.ofOp .load [], 7⟩, ⟨.ofOp .halt [], 8⟩,
    ⟨.ofOp .read [.register "x"], 10⟩, ⟨.ofOp .alloc [], 11⟩, ⟨.ofOp .free [], 12⟩,
    ⟨.ofOp .thread [.target 8], 13⟩]

def entangledContext : Context :=
  ⟨entangledProgram, { Settings.standard with isolation := .shared }⟩

/-- Turns of the two engines up to the first load. -/
def entangledOpening : Chronicle :=
  [0, 0, 1, 0, 1, 0, 1, 0].foldl (fun chronicle id => (chronicle.meeting .echo).turn id)
    (create entangledContext .echo .never false (.ofSeed 7))

/-- The same with a turn in which the third engine is refused. -/
def entangledRun : Chronicle :=
  ((entangledOpening.setRefusal (some "no more threads")).meeting .echo).turn 1

/-- The slot that the first engine loads from was taken and given back by the other
one before. -/
theorem entangled_handles_confined :
    Assembly.compile .standard entangled = .ok entangledProgram ∧
      Reachable entangledContext entangledRun ∧ entangledRun.Fresh ∧ entangledRun.FewPages ∧
      entangledRun.run.threads.map (fun thread => thread.engine.status) =
        [.running, .faulted ⟨11, .spawnFailed "no more threads"⟩, .idle] ∧
      entangledRun.run.exchange? 0 = some ⟨.read ⟨0, 0, 1⟩, .held (.handle ⟨0, 1, 0⟩)⟩ ∧
      (entangledRun.books 0).Issued 1 ⟨0, 0, 0⟩ ∧
      (entangledRun.books 0).tenant? (0, 0) = some (0, ⟨0, 0, 1⟩) ∧
      (entangledRun.books 0).lastPut? ⟨0, 0, 1⟩ = some (0, .handle ⟨0, 1, 0⟩) := by
  have compiled : Assembly.compile .standard entangled = .ok entangledProgram := by
    decide +kernel
  have plain : Inference.echo.Plain := fun _ _ answered => nomatch answered
  have opening : Reachable entangledContext entangledOpening :=
    Reachable.turns plain _ (.create .echo .never false (.ofSeed 7))
  have reachable : Reachable entangledContext entangledRun :=
    .turn .echo plain 1 (.setRefusal _ opening)
  have shared : entangledRun.run.context.settings.isolation = .shared := by
    rw [reachable.coherent.sound.context_eq]
    rfl
  have fresh : entangledRun.Fresh := by
    intro id engine present place
    rw [reachable.coherent.one_book shared id 0]
    exact Nat.lt_of_le_of_lt List.countP_le_length (by decide +kernel)
  have few : entangledRun.FewPages := by
    intro id engine present
    rw [Run.stores_of_shared shared present]
    decide +kernel
  have asked : entangledRun.run.exchange? 0 =
      some ⟨.read ⟨0, 0, 1⟩, .held (.handle ⟨0, 1, 0⟩)⟩ := by
    decide +kernel
  have other : (entangledRun.books 0).Issued 1 ⟨0, 0, 0⟩ :=
    ⟨⟨.allocate (.integer 5), .issued ⟨0, 0, 0⟩⟩, by decide +kernel, rfl⟩
  rcases Run.engineAt?_of_exchange? asked with ⟨engine, present⟩
  have confines := handles_confined compiled _ (by decide +kernel) reachable fresh few 0 engine
    present
  exact ⟨compiled, reachable, fresh, few, by decide +kernel, asked, other,
    (confines.reach _ _ asked rfl).2.2 (fun _ => nofun), (confines.load _ _ asked).1⟩

end Runs
end Chronicle

/-! ## An engine by itself -/

/-- The engine takes its next step by itself and goes on. -/
structure Engine.Rolls (engine : Engine) (context : Context) (next : Engine) : Prop where
  active : engine.status.isFinal = false
  quiet : engine.request? context false = none
  step_eq : (engine.step context (.alone fun _ => .unset)).1 = next
  ongoing : next.status.isFinal = false

/-- The run has one engine, which nobody disturbs. -/
structure Run.Solo (run : Run) (context : Context) (engine : Engine) : Prop where
  context_eq : run.context = context
  threads : run.threads = [⟨engine, .ready⟩]
  plan : run.plan = .never
  stop : run.stop.isRequested = false

section Solo

variable {context : Context} {run : Run} {engine next : Engine}

theorem Run.Solo.listed (solo : run.Solo context engine) :
    run.threads[ThreadId.initial]? = some ⟨engine, .ready⟩ := by
  rw [solo.threads]
  rfl

theorem Run.Solo.mover?_eq (solo : run.Solo context engine)
    (isolated : context.settings.isolation = .isolated)
    (bearable : context.settings.Bearable engine.stores.memory.pageSize) :
    run.mover? .initial = some (engine, false) := by
  have listed := solo.listed
  rcases solo with ⟨rfl, threads, plan, stop⟩
  have borne := Engine.breakdown?_of_bearable bearable false
  rw [mover?, listed, Option.bind_some]
  dsimp only
  rw [view_of_isolated isolated, stop, borne]
  rfl

theorem Run.Solo.turn (solo : run.Solo context engine)
    (isolated : context.settings.isolation = .isolated)
    (bearable : context.settings.Bearable engine.stores.memory.pageSize)
    (rolls : engine.Rolls context next) : (run.turn .initial).Solo context next := by
  have listed := solo.listed
  rcases solo with ⟨rfl, threads, plan, stop⟩
  rcases rolls with ⟨active, quiet, rfl, ongoing⟩
  have borne := Engine.breakdown?_of_bearable bearable false
  have agree : run.surroundings.Agree (.alone fun _ => .unset)
      (engine.request? run.context run.surroundings.stopRequested) := by
    have silent : engine.request? run.context run.surroundings.stopRequested = none := by
      rw [← quiet, ← stop]
      rfl
    rw [silent]
    exact ⟨stop, nofun, nofun, nofun⟩
  have same := (Engine.step_agree agree).1
  have moved : run.turn .initial = run.stepped .initial engine run.surroundings := by
    have silent : engine.request? run.context run.stop.isRequested = none := by
      rw [stop, quiet]
    rw [Run.turn, listed]
    dsimp only
    rw [if_neg (ne_true_of_eq_false active), view_of_isolated isolated, stop, borne]
    dsimp only
    rw [turnReady, view_of_isolated isolated, silent]
    dsimp only
    rw [commit_of_unplanned plan, same, if_neg (ne_true_of_eq_false ongoing)]
  rw [moved]
  refine ⟨rfl, ?_, plan, stop⟩
  change run.threads.set 0 ⟨(engine.step run.context run.surroundings).1, .ready⟩ = _
  rw [threads, ← same]
  rfl

end Solo

namespace Chronicle

/-! ## Handles that come back -/

/-- A run of one engine that nobody disturbs, with its past. -/
structure Alone (context : Context) (chronicle : Chronicle) (engine : Engine) : Prop where
  isolated : context.settings.isolation = .isolated
  bearable : context.settings.Bearable engine.stores.memory.pageSize
  reachable : Reachable context chronicle
  solo : chronicle.run.Solo context engine

/-- The engine takes its turn. -/
def onward (chronicle : Chronicle) : Chronicle :=
  (chronicle.meeting .echo).turn .initial

section Alone

variable {context : Context} {chronicle : Chronicle} {engine next : Engine}

theorem alone_create (isolated : context.settings.isolation = .isolated)
    (bearable : context.settings.Bearable (max context.settings.pageSize 1)) :
    Alone context (create context .echo .never false (.ofSeed 7))
      (.first context.settings (.ofSeed 7)) :=
  ⟨isolated, bearable, .create .echo .never false (.ofSeed 7), rfl, rfl, rfl, rfl⟩

theorem Alone.onward (alone : Alone context chronicle engine)
    (rolls : engine.Rolls context next) : Alone context chronicle.onward next := by
  have size : next.stores.memory.pageSize = engine.stores.memory.pageSize := by
    rw [← rolls.step_eq]
    exact engine.pageSize_step context (Surroundings.alone_honest _)
  have solo : (chronicle.meeting .echo).run.Solo context engine :=
    ⟨alone.solo.context_eq, alone.solo.threads, alone.solo.plan, alone.solo.stop⟩
  exact ⟨alone.isolated, size ▸ alone.bearable,
    .turn .echo (fun _ _ answered => nomatch answered) .initial alone.reachable,
    solo.turn alone.isolated alone.bearable rolls⟩

theorem Alone.exchange?_eq (alone : Alone context chronicle engine) :
    chronicle.run.exchange? .initial = engine.exchange? context false := by
  rw [Run.exchange?, alone.solo.mover?_eq alone.isolated alone.bearable, Option.bind_some,
    alone.solo.context_eq]

theorem Alone.books_onward (alone : Alone context chronicle engine) :
    chronicle.onward.books .initial =
      (chronicle.books .initial).enter? .initial (engine.exchange? context false) := by
  rw [Chronicle.onward, books_turn_self, ← alone.exchange?_eq]
  rfl

theorem Alone.engineAt?_eq (alone : Alone context chronicle engine) {id : ThreadId}
    {found : Engine} (present : chronicle.run.engineAt? id = some found) :
    id = .initial ∧ found = engine := by
  rcases Option.map_eq_some_iff.mp present with ⟨thread, listed, rfl⟩
  rw [alone.solo.threads] at listed
  rcases List.getElem?_eq_some_iff.mp listed with ⟨bound, rfl⟩
  have only : id = 0 := Nat.lt_one_iff.mp bound
  subst only
  have isolated : chronicle.run.context.settings.isolation = .isolated := by
    rw [alone.solo.context_eq, alone.isolated]
  exact ⟨rfl, Run.view_of_isolated isolated engine⟩

end Alone

/-- A value goes into memory, and then others without end, each of which is looked up at
once. -/
def exhausting : List String :=
  ["WRITE x 1", "READ x", "ALLOC", "WRITE x 2", "LABEL top", "READ x", "ALLOC", "LOAD", "JUMP top"]

def exhaustingProgram : Program where
  code := [⟨.ofOp .write [.register "x", .literal (.integer 1)], 1⟩,
    ⟨.ofOp .read [.register "x"], 2⟩, ⟨.ofOp .alloc [], 3⟩,
    ⟨.ofOp .write [.register "x", .literal (.integer 2)], 4⟩, ⟨.ofOp .read [.register "x"], 6⟩,
    ⟨.ofOp .alloc [], 7⟩, ⟨.ofOp .load [], 8⟩, ⟨.ofOp .jump [.target 4], 9⟩]

def exhaustingContext (pageSize : Nat) : Context :=
  ⟨exhaustingProgram, { Settings.standard with pageSize, stackSize := 1 }⟩

/-- The engine in its loop, or on its way there.  The stack has room for one value. -/
def circling (kept : Value) (memory : Memory) (counter : Nat) (items : List Value)
    (evicted steps : Nat) : Engine where
  thread := .initial
  counter := counter
  stack := ⟨items, 1, evicted⟩
  calls := .ofLimit Settings.standard.returnStackSize
  status := .running
  stores := ⟨⟨[⟨0, "x", kept⟩], 1⟩, memory⟩
  faults := .ofSeed 7
  attempts := 0
  steps := steps

/-- The engine at the start of its loop. -/
def circled (memory : Memory) (top : Value) (evicted steps : Nat) : Engine :=
  circling (.integer 2) memory 4 [top] evicted steps

section Circling

variable (memory : Memory) (pageSize : Nat) (top : Value) (evicted steps : Nat)

theorem circling_read :
    (circled memory top evicted steps).Rolls (exhaustingContext pageSize)
      (circling (.integer 2) memory 5 [.integer 2] (evicted + 1) (steps + 1)) :=
  ⟨rfl, rfl, rfl, rfl⟩

theorem circling_alloc :
    (circling (.integer 2) memory 5 [top] evicted steps).Rolls (exhaustingContext pageSize)
      (circling (.integer 2) (memory.allocate top).1 6 [.handle (memory.allocate top).2] evicted
        (steps + 1)) :=
  ⟨rfl, rfl, rfl, rfl⟩

theorem circling_load {address : Handle} {value : Value}
    (found : memory.read address = .ok value) :
    (circling (.integer 2) memory 6 [.handle address] evicted steps).Rolls
      (exhaustingContext pageSize)
      (circling (.integer 2) memory 7 [value] evicted (steps + 1)) := by
  let engine := circling (.integer 2) memory 6 [.handle address] evicted (steps + 1)
  have popped : engine.stack.pop? = some (.handle address, ⟨[], 1, evicted⟩) := rfl
  have stores : engine.stores.memory = memory := rfl
  have loaded : engine.load =
      .next (circling (.integer 2) memory 6 [value] evicted (steps + 1)) := by
    simp only [Engine.load, Engine.withPopHandle, Engine.withPop, popped, stores, found]
    rfl
  refine ⟨rfl, rfl, ?_, rfl⟩
  change (Engine.follow engine.load.engine engine.load.control).1 = _
  rw [loaded]
  rfl

theorem circling_jump :
    (circling (.integer 2) memory 7 [top] evicted steps).Rolls (exhaustingContext pageSize)
      (circled memory top evicted (steps + 1)) :=
  ⟨rfl, rfl, rfl, rfl⟩

end Circling

/-- So many values were put into memory, the first of which is still there, and nothing was
given back. -/
structure Exhausts (pageSize count : Nat) (chronicle : Chronicle) (engine : Engine) : Prop where
  alone : Alone (exhaustingContext pageSize) chronicle engine
  size : engine.stores.memory.pageSize = pageSize
  packed : engine.stores.memory.Packed count
  first : engine.stores.memory.slotOf 0 0 = ⟨true, 0, .integer 1⟩
  unreleased : ∀ place, Memory.releases (chronicle.books .initial).history place = 0

section Exhausts

variable {pageSize count later : Nat} {chronicle : Chronicle} {engine next : Engine}
  {memory : Memory} {top : Value} {evicted steps : Nat}

theorem Exhausts.onward (exhausts : Exhausts pageSize count chronicle engine)
    (rolls : engine.Rolls (exhaustingContext pageSize) next)
    (packed : next.stores.memory.Packed later)
    (first : next.stores.memory.slotOf 0 0 = ⟨true, 0, .integer 1⟩)
    {exchange : Option Memory.Exchange}
    (asked : engine.exchange? (exhaustingContext pageSize) false = exchange)
    (unreleased : ∀ made ∈ exchange, ∀ address, made.request ≠ .free address) :
    Exhausts pageSize later chronicle.onward next := by
  refine ⟨exhausts.alone.onward rolls, ?_, packed, first, fun place => ?_⟩
  · rw [← rolls.step_eq, ← exhausts.size]
    exact engine.pageSize_step _ (Surroundings.alone_honest _)
  · rw [exhausts.alone.books_onward, asked]
    cases exchange with
    | none => exact exhausts.unreleased place
    | some made =>
        have kept : made.releases place = false := by
          unfold Memory.Exchange.releases
          split
          · exact absurd rfl (unreleased _ rfl _)
          · rfl
        change List.countP _ (made :: _) = 0
        rw [List.countP_cons, kept]
        exact exhausts.unreleased place

/-- Before the loop one value was put into memory. -/
theorem exists_exhausts_one (positive : 0 < pageSize)
    (bounded : pageSize ≤ Machine.standard.largestPage) :
    ∃ chronicle memory top evicted steps,
      Exhausts pageSize 1 chronicle (circled memory top evicted steps) := by
  have size : (Memory.ofPageSize pageSize).pageSize = pageSize := Nat.max_eq_left positive
  have bearable : (exhaustingContext pageSize).settings.Bearable (max pageSize 1) := by
    refine ⟨?_, ?_, ?_⟩
    · change Settings.standard.pause ≤ Machine.standard.longestWait
      decide
    · change Settings.standard.ping.backoff ≤ Machine.standard.longestWait
      decide
    · rw [Nat.max_eq_left positive]
      exact bounded
  rcases stored : (Memory.ofPageSize pageSize).allocate (.integer 1) with ⟨memory, address⟩
  have packed := Memory.packed_ofPageSize pageSize
  have grown := packed.allocate (.integer 1)
  have slots := (packed.allocate_eq (.integer 1)).2 0 0
  have taken := (Memory.takes_allocate packed.kept (.integer 1)).pageSize_eq
  rw [stored] at grown slots taken
  have created : Alone (exhaustingContext pageSize) _ _ := alone_create rfl bearable
  have written : Alone (exhaustingContext pageSize) _
      (circling (.integer 1) (.ofPageSize pageSize) 1 [] 0 1) :=
    created.onward ⟨rfl, rfl, rfl, rfl⟩
  have pushed : Alone (exhaustingContext pageSize) _
      (circling (.integer 1) (.ofPageSize pageSize) 2 [.integer 1] 0 2) :=
    written.onward ⟨rfl, rfl, rfl, rfl⟩
  have allocated : Alone (exhaustingContext pageSize) _
      (circling (.integer 1) ((Memory.ofPageSize pageSize).allocate (.integer 1)).1 3
        [.handle ((Memory.ofPageSize pageSize).allocate (.integer 1)).2] 0 3) :=
    pushed.onward ⟨rfl, rfl, rfl, rfl⟩
  rw [stored] at allocated
  have rewritten : Alone (exhaustingContext pageSize) _ (circled memory (.handle address) 0 4) :=
    allocated.onward ⟨rfl, rfl, rfl, rfl⟩
  refine ⟨_, memory, .handle address, 0, 4, rewritten, taken.trans size, grown, ?_,
    fun place => ?_⟩
  · rw [Nat.zero_div, Nat.zero_mod] at slots
    exact slots
  · rw [allocated.books_onward, pushed.books_onward, written.books_onward, created.books_onward]
    rfl

/-- The engine is about to look up the next value under the handle that it has just got. -/
theorem Exhausts.poised
    (exhausts : Exhausts pageSize count chronicle (circled memory top evicted steps)) :
    let address : Handle := ⟨.ofNat (count / pageSize), .ofNat (count % pageSize), 0⟩
    ∃ later grown more, Exhausts pageSize (count + 1) later
        (circling (.integer 2) grown 6 [.handle address] (evicted + 1) more) ∧
      grown.slotOf (count / pageSize) (count % pageSize) = ⟨true, 0, .integer 2⟩ ∧
      (later.books .initial).lastPut? address = some (.initial, .integer 2) := by
  intro address
  have size : memory.pageSize = pageSize := exhausts.size
  have packed : memory.Packed count := exhausts.packed
  have held : memory.slotOf 0 0 = ⟨true, 0, .integer 1⟩ := exhausts.first
  have first : (memory.allocate (.integer 2)).1.slotOf 0 0 = ⟨true, 0, .integer 1⟩ := by
    rw [packed.slotOf_allocate _ (by rw [held]), held]
  rcases packed.allocate_eq (.integer 2) with ⟨issued, slots⟩
  rw [size] at issued slots
  have silent : (circled memory top evicted steps).exchange? (exhaustingContext pageSize) false =
      none := rfl
  have read := exhausts.onward (circling_read memory pageSize top evicted steps) packed held
    silent fun _ made => absurd made (Option.not_mem_none _)
  have asked : (circling (.integer 2) memory 5 [.integer 2] (evicted + 1) (steps + 1)).exchange?
      (exhaustingContext pageSize) false =
        some ⟨.allocate (.integer 2), .issued (memory.allocate (.integer 2)).2⟩ := rfl
  have stored := read.onward (circling_alloc memory pageSize (.integer 2) _ _)
    (packed.allocate (.integer 2)) first asked fun made member _ => by
      cases member
      exact nofun
  rw [issued] at stored
  refine ⟨_, _, _, stored, ?_, ?_⟩
  · rw [slots]
    exact if_pos ⟨rfl, rfl⟩
  · rw [read.alone.books_onward, asked, issued]
    simp [Book.enter?, Book.enter, Book.lastPut?, Memory.Exchange.put?, address]

/-- If the handle tells the place in full, the engine comes back with one more value in
memory. -/
theorem Exhausts.round
    (exhausts : Exhausts pageSize count chronicle (circled memory top evicted steps))
    (pages : count / pageSize < UInt32.size) (slots : count % pageSize < UInt32.size) :
    ∃ later grown found lost more,
      Exhausts pageSize (count + 1) later (circled grown found lost more) := by
  rcases exhausts.poised with ⟨later, grown, more, poised, held, -⟩
  let address : Handle := ⟨.ofNat (count / pageSize), .ofNat (count % pageSize), 0⟩
  have found : grown.read address = .ok (.integer 2) := by
    have cell : grown.cell address = grown.slotOf (count / pageSize) (count % pageSize) := by
      change grown.slotOf (UInt32.toNat _) (UInt32.toNat _) = _
      rw [UInt32.toNat_ofNat_of_lt' pages, UInt32.toNat_ofNat_of_lt' slots]
    rw [Memory.read_eq_ok_iff, cell, held]
    exact ⟨⟨rfl, rfl⟩, rfl⟩
  have asked : (circling (.integer 2) grown 6 [.handle address] (evicted + 1) more).exchange?
      (exhaustingContext pageSize) false = some (grown.exchange (.read address)) := rfl
  have loaded := poised.onward (circling_load grown pageSize _ _ found) poised.packed poised.first
    asked fun made member _ => by
      cases member
      exact nofun
  have silent : (circling (.integer 2) grown 7 [.integer 2] (evicted + 1) (more + 1)).exchange?
      (exhaustingContext pageSize) false = none := rfl
  have jumped := loaded.onward (circling_jump grown pageSize _ _ _) poised.packed poised.first
    silent fun _ made => absurd made (Option.not_mem_none _)
  exact ⟨_, _, _, _, _, jumped⟩

/-- As long as handles tell their places in full, there is no end to it. -/
theorem exists_exhausts (positive : 0 < pageSize)
    (bounded : pageSize ≤ Machine.standard.largestPage)
    (told : ∀ fewer ≤ count, fewer / pageSize < UInt32.size ∧ fewer % pageSize < UInt32.size) :
    ∃ chronicle memory top evicted steps,
      Exhausts pageSize (count + 1) chronicle (circled memory top evicted steps) := by
  induction count with
  | zero => exact exists_exhausts_one positive bounded
  | succ count ih =>
      rcases ih fun fewer less => told fewer (Nat.le_succ_of_le less) with
        ⟨chronicle, memory, top, evicted, steps, exhausts⟩
      rcases told (count + 1) (Nat.le_refl _) with ⟨pages, slots⟩
      exact exhausts.round pages slots

/-- If the handle of the next value is that of the first one, the engine finds the wrong
value under it. -/
theorem Exhausts.not_confines
    (exhausts : Exhausts pageSize count chronicle (circled memory top evicted steps))
    (page : UInt32.ofNat (count / pageSize) = 0) (slot : UInt32.ofNat (count % pageSize) = 0) :
    ∃ later engine, Reachable (exhaustingContext pageSize) later ∧ later.Fresh ∧
      (∀ id found, later.run.engineAt? id = some found →
        pageSize * found.stores.memory.pages.length < count + 1 + pageSize) ∧
      later.run.engineAt? .initial = some engine ∧
      ¬ Confines (exhaustingContext pageSize) later .initial engine := by
  rcases exhausts.poised with ⟨later, grown, more, poised, -, put⟩
  rw [page, slot] at poised put
  let engine := circling (.integer 2) grown 6 [.handle ⟨0, 0, 0⟩] (evicted + 1) more
  have asked : later.run.exchange? .initial =
      some ⟨.read ⟨0, 0, 0⟩, .held (.integer 1)⟩ := by
    have found : grown.read ⟨0, 0, 0⟩ = .ok (.integer 1) := by
      have cell : grown.cell ⟨0, 0, 0⟩ = ⟨true, 0, .integer 1⟩ := poised.first
      rw [Memory.read_eq_ok_iff, cell]
      exact ⟨⟨rfl, rfl⟩, rfl⟩
    have reads : engine.exchange? (exhaustingContext pageSize) false =
      some (grown.exchange (.read ⟨0, 0, 0⟩)) := rfl
    rw [poised.alone.exchange?_eq, reads, Memory.exchange, Memory.serve, found]
  rcases Run.engineAt?_of_exchange? asked with ⟨present, listed⟩
  refine ⟨later, present, poised.alone.reachable, ?_, ?_, listed, ?_⟩
  · intro id found present place
    rw [(poised.alone.engineAt?_eq present).1, poised.unreleased place]
    decide
  · intro id found present
    have fewer := poised.packed.pages_lt
    rw [poised.size] at fewer
    rw [(poised.alone.engineAt?_eq present).2]
    exact fewer
  · intro confines
    have same := put.symm.trans (confines.load _ _ asked).1
    cases same

/-- Neither bound can be spared. -/
theorem exhausting_not_confined :
    (¬ ∀ (aliases : Aliases) (lines : List String) (program : Program) (settings : Settings)
        (chronicle : Chronicle), Assembly.compile aliases lines = .ok program →
      settings.pageSize ≤ UInt32.size → Reachable ⟨program, settings⟩ chronicle →
      chronicle.Fresh →
      ∀ id engine, chronicle.run.engineAt? id = some engine →
        Confines ⟨program, settings⟩ chronicle id engine) ∧
    ¬ ∀ (aliases : Aliases) (lines : List String) (program : Program) (settings : Settings)
        (chronicle : Chronicle), Assembly.compile aliases lines = .ok program →
      Reachable ⟨program, settings⟩ chronicle → chronicle.Fresh → chronicle.FewPages →
      ∀ id engine, chronicle.run.engineAt? id = some engine →
        Confines ⟨program, settings⟩ chronicle id engine := by
  have compiled : Assembly.compile .standard exhausting = .ok exhaustingProgram := by
    decide +kernel
  constructor
  · -- With one slot on each page it is the number of the page that comes back.
    intro confined
    have told : ∀ fewer ≤ 4294967295, fewer / 1 < UInt32.size ∧ fewer % 1 < UInt32.size := by
      intro fewer less
      rw [Nat.div_one, Nat.mod_one, UInt32.size]
      omega
    rcases exists_exhausts (by decide) (by decide) told with ⟨_, _, _, _, _, exhausts⟩
    rcases exhausts.not_confines rfl rfl with
      ⟨later, engine, reachable, fresh, -, present, astray⟩
    exact astray (confined _ _ _ _ _ compiled (by decide) reachable fresh .initial engine present)
  · -- On a large page it is the number of the slot.
    intro confined
    have told : ∀ fewer ≤ 4294967295,
        fewer / 4294967297 < UInt32.size ∧ fewer % 4294967297 < UInt32.size := by
      intro fewer less
      rw [UInt32.size]
      omega
    rcases exists_exhausts (by decide) (by decide) told with ⟨_, _, _, _, _, exhausts⟩
    rcases exhausts.not_confines rfl rfl with
      ⟨later, engine, reachable, fresh, pages, present, astray⟩
    have few : later.FewPages := by
      intro id found listed
      have fewer := pages id found listed
      rw [UInt32.size]
      omega
    exact astray (confined _ _ _ _ _ compiled reachable fresh few .initial engine present)

end Exhausts
end Chronicle
end CommandMachine
