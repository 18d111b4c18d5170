import CommandMachine.Proofs.Reachability
import Mathlib.Data.List.Forall2
namespace CommandMachine

/-!
# Engines that run side by side

Two engines of one program are given the same answers and differ in their
evaluation stacks and registers only.  A `Coupling` says how these may differ and
has to be respected by the few operations on stacks and registers that an engine
uses.  Then the engines stay coupled for as long as they run: they go the same way
through the program, keep equal memories and call stacks and show corresponding
events.  One exception is allowed for, since a stack that holds less runs out of
values sooner.

The handlers of the operations are looked at here, once for all couplings.
-/

/-- The events among reports, in order. -/
def Report.events (reports : List Report) : List Event :=
  reports.filterMap Report.event?

namespace Report

@[simp] theorem events_nil : events [] = [] := rfl

@[simp] theorem events_append (earlier later : List Report) :
    events (earlier ++ later) = events earlier ++ events later :=
  List.filterMap_append

@[simp] theorem events_cons_event (shown : Event) (reports : List Report) :
    events (.event shown :: reports) = shown :: events reports := rfl

@[simp] theorem events_cons_notice (told : Notice) (reports : List Report) :
    events (.notice told :: reports) = events reports := rfl

@[simp] theorem events_notices (told : List Notice) : events (told.map .notice) = [] := by
  induction told with
  | nil => rfl
  | cons _ _ ih => exact ih

end Report

/-! ## Marches -/

/-- The answers to the only engine of a run that nobody stops. -/
def Surroundings.alone (infer : String → Value) : Surroundings where
  stopRequested := false
  infer := infer
  spawn := .error "no threads"
  join := fun target => ⟨[], .error (.unknownThread (Int64.ofNat target))⟩

/-- The refusal of a wait where nobody else runs is one that a host can give. -/
theorem Surroundings.alone_honest (infer : String → Value) : (alone infer).Honest := by
  intro target cause refused
  cases refused
  rfl

namespace Engine

/-- One step for each of the surroundings, with all reports. -/
def march (engine : Engine) (context : Context) : List Surroundings → Engine × List Report
  | [] => (engine, [])
  | now :: later =>
    let (moved, reports) := engine.step context now
    let (last, more) := moved.march context later
    (last, reports ++ more)

theorem step_of_final {engine : Engine} (final : engine.status.isFinal = true)
    (context : Context) (surroundings : Surroundings) :
    engine.step context surroundings = (engine, []) := by
  have finished : engine.fetch context surroundings.stopRequested = .finished := by
    rw [fetch, if_pos final]
  rw [step, finished]

theorem march_of_final {engine : Engine} (final : engine.status.isFinal = true)
    (context : Context) (answers : List Surroundings) :
    engine.march context answers = (engine, []) := by
  induction answers with
  | nil => rfl
  | cons now later ih =>
      rw [march, step_of_final final context now]
      dsimp only
      rw [ih]
      rfl

/-- The engine has ended because its evaluation stack was empty. -/
def Underflowed (engine : Engine) : Prop :=
  ∃ counter, engine.status = .faulted ⟨counter, .stackUnderflow⟩

theorem Underflowed.final {engine : Engine} (underflowed : engine.Underflowed) :
    engine.status.isFinal = true := by
  rcases underflowed with ⟨counter, faulted⟩
  rw [faulted]
  rfl

/-- The engine with another evaluation stack and other registers. -/
def refit (engine : Engine) (stack : EvaluationStack) (registers : RegisterFile) : Engine :=
  { engine with stack, stores := { engine.stores with registers } }

theorem wake_refit (engine : Engine) (stack : EvaluationStack) (registers : RegisterFile) :
    (engine.refit stack registers).wake = engine.wake.refit stack registers := by
  rcases engine with ⟨_, _, _, _, status, _, _, _, _⟩
  cases status <;> rfl

end Engine

/-! ## Couplings -/

/-- Two stacks give the same value off their tops, or both give none.  If `lenient`,
the first one may be empty before the second one. -/
inductive PopAlike (onStacks : EvaluationStack → EvaluationStack → Prop) (lenient : Prop) :
    Option (Value × EvaluationStack) → Option (Value × EvaluationStack) → Prop where
  | both (value : Value) {left right : EvaluationStack} (related : onStacks left right) :
      PopAlike onStacks lenient (some (value, left)) (some (value, right))
  | neither : PopAlike onStacks lenient none none
  | second (allowed : lenient) (popped : Value × EvaluationStack) :
      PopAlike onStacks lenient none (some popped)

/-- How the stacks and the registers of two engines may differ, and which of their
events correspond. -/
structure Coupling where
  onStacks : EvaluationStack → EvaluationStack → Prop
  registers : RegisterFile → RegisterFile → Prop
  events : Event → Event → Prop
  /-- Whether the first engine may run out of values before the second one. -/
  lenient : Prop
  push : ∀ {left right}, onStacks left right → ∀ value,
    onStacks (left.push value) (right.push value)
  pop : ∀ {left right}, onStacks left right → PopAlike onStacks lenient left.pop? right.pop?
  clear : ∀ {left right}, onStacks left right → onStacks left.clear right.clear
  compact : ∀ {left right}, onStacks left right → ∀ window,
    onStacks (left.compact window) (right.compact window)
  /-- Each stack is cut down to its own capacity. -/
  compactFull : ∀ {left right}, onStacks left right →
    onStacks (left.compact left.capacity) (right.compact right.capacity)
  allocate : ∀ {left right}, registers left right → ∀ name,
    registers (left.allocate name) (right.allocate name)
  write : ∀ {left right}, registers left right → ∀ name value,
    registers (left.write name value) (right.write name value)
  read : ∀ {left right}, registers left right → ∀ name,
    (left.read name).orZero = (right.read name).orZero
  sweep : ∀ {left right}, registers left right → registers left.sweep right.sweep
  evicted : ∀ {left right}, registers left right →
    events (.evicted left.unwritten) (.evicted right.unwritten)
  same : ∀ event, events event event

namespace Coupling

/-- Dropping repeated values respects the coupling.  This is asked for only where the
operation occurs. -/
def RespectsDedup (coupling : Coupling) : Prop :=
  ∀ left right, coupling.onStacks left right → coupling.onStacks left.dedup right.dedup

/-- The second engine is the first one but for a stack and registers that are coupled. -/
inductive Coupled (coupling : Coupling) (left : Engine) : Engine → Prop where
  | intro {stack : EvaluationStack} {registers : RegisterFile}
      (onStacks : coupling.onStacks left.stack stack)
      (files : coupling.registers left.stores.registers registers) :
      Coupled coupling left (left.refit stack registers)

/-- The events among two lists of reports correspond one by one. -/
def Shown (coupling : Coupling) (left right : List Report) : Prop :=
  List.Forall₂ coupling.events (Report.events left) (Report.events right)

/-- Two effects go on in the same way with coupled engines.  Otherwise the first one is
the fault of an empty stack, and that has to be allowed. -/
inductive Follows (coupling : Coupling) (left right : Effect) : Prop where
  | agrees (engines : coupling.Coupled left.engine right.engine)
      (shown : coupling.Shown left.reports right.reports)
      (control : right.control = left.control)
  | underflow (allowed : coupling.lenient) (control : left.control = .fault .stackUnderflow)

section Handlers

variable {coupling : Coupling} {left right : Engine}

theorem shown_refl (coupling : Coupling) (reports : List Report) :
    coupling.Shown reports reports :=
  List.forall₂_same.mpr fun event _ => coupling.same event

theorem Shown.append {earlier later earlier' later' : List Report}
    (first : coupling.Shown earlier earlier') (second : coupling.Shown later later') :
    coupling.Shown (earlier ++ later) (earlier' ++ later') := by
  unfold Shown
  rw [Report.events_append, Report.events_append]
  exact List.rel_append first second

theorem Coupled.onStacks (coupled : coupling.Coupled left right) :
    coupling.onStacks left.stack right.stack := by
  cases coupled with
  | intro onStacks _ => exact onStacks

theorem Coupled.files (coupled : coupling.Coupled left right) :
    coupling.registers left.stores.registers right.stores.registers := by
  cases coupled with
  | intro _ files => exact files

theorem Coupled.counter (coupled : coupling.Coupled left right) :
    right.counter = left.counter := by
  cases coupled
  rfl

theorem Coupled.calls (coupled : coupling.Coupled left right) : right.calls = left.calls := by
  cases coupled
  rfl

theorem Coupled.memory (coupled : coupling.Coupled left right) :
    right.stores.memory = left.stores.memory := by
  cases coupled
  rfl

theorem Coupled.withStack (coupled : coupling.Coupled left right)
    {first second : EvaluationStack} (related : coupling.onStacks first second) :
    coupling.Coupled { left with stack := first } { right with stack := second } := by
  cases coupled with
  | intro _ files => exact .intro related files

theorem Coupled.withRegisters (coupled : coupling.Coupled left right)
    {first second : RegisterFile} (related : coupling.registers first second) :
    coupling.Coupled (left.withRegisters first) (right.withRegisters second) := by
  cases coupled with
  | intro onStacks _ => exact .intro onStacks related

theorem Coupled.withCalls (coupled : coupling.Coupled left right) (calls : CallStack) :
    coupling.Coupled { left with calls } { right with calls } := by
  cases coupled with
  | intro onStacks files => exact .intro onStacks files

theorem Coupled.withMemory (coupled : coupling.Coupled left right) (memory : Memory) :
    coupling.Coupled (left.withMemory memory) (right.withMemory memory) := by
  cases coupled with
  | intro onStacks files => exact .intro onStacks files

theorem Coupled.effect (coupled : coupling.Coupled left right) (reports : List Report)
    (control : Control) :
    coupling.Follows ⟨left, reports, control⟩ ⟨right, reports, control⟩ :=
  .agrees coupled (coupling.shown_refl reports) rfl

theorem Coupled.next (coupled : coupling.Coupled left right) :
    coupling.Follows (.next left) (.next right) :=
  coupled.effect [] .next

theorem Coupled.fault (coupled : coupling.Coupled left right) (cause : Cause) :
    coupling.Follows (.fault left cause) (.fault right cause) :=
  coupled.effect [] (.fault cause)

theorem Follows.after {first second : Effect} (follows : coupling.Follows first second)
    (reports : List Report) : coupling.Follows (first.after reports) (second.after reports) := by
  cases follows with
  | agrees engines shown control =>
      exact .agrees engines ((coupling.shown_refl reports).append shown) control
  | underflow allowed control => exact .underflow allowed control

/-- What is pushed out is told to the operator only, so the events do not depend on it. -/
theorem Coupled.push (coupled : coupling.Coupled left right) (value : Value) :
    coupling.Follows (.push left value) (.push right value) := by
  refine .agrees (coupled.withStack (coupling.push coupled.onStacks value)) ?_ rfl
  unfold Shown
  rw [Effect.push, Effect.push, Report.events_notices, Report.events_notices]
  exact .nil

theorem Coupled.withPop (coupled : coupling.Coupled left right)
    {useLeft useRight : Value → Engine → Effect}
    (follows : ∀ value first second, coupling.Coupled first second →
      coupling.Follows (useLeft value first) (useRight value second)) :
    coupling.Follows (left.withPop useLeft) (right.withPop useRight) := by
  have pops := coupling.pop coupled.onStacks
  unfold Engine.withPop
  generalize left.stack.pop? = first, right.stack.pop? = second at pops ⊢
  cases pops with
  | both value related => exact follows value _ _ (coupled.withStack related)
  | neither => exact coupled.fault .stackUnderflow
  | second allowed popped => exact .underflow allowed rfl

theorem Coupled.withPopHandle (coupled : coupling.Coupled left right) (op : Op)
    {useLeft useRight : Handle → Engine → Effect}
    (follows : ∀ address first second, coupling.Coupled first second →
      coupling.Follows (useLeft address first) (useRight address second)) :
    coupling.Follows (left.withPopHandle op useLeft) (right.withPopHandle op useRight) := by
  refine coupled.withPop fun value first second popped => ?_
  cases value with
  | handle address => exact follows address first second popped
  | unset => exact popped.fault _
  | integer number => exact popped.fault _
  | float number => exact popped.fault _
  | text content => exact popped.fault _

theorem Coupled.withRegister (coupled : coupling.Coupled left right) (op : Op)
    (operands : List Operand) {useLeft useRight : String → Effect}
    (follows : ∀ name, coupling.Follows (useLeft name) (useRight name)) :
    coupling.Follows (left.withRegister op operands useLeft)
      (right.withRegister op operands useRight) := by
  unfold Engine.withRegister
  split
  · exact follows _
  · exact coupled.fault _

theorem Coupled.withTarget (coupled : coupling.Coupled left right) (op : Op)
    (operands : List Operand) {useLeft useRight : Nat → Effect}
    (follows : ∀ target, coupling.Follows (useLeft target) (useRight target)) :
    coupling.Follows (left.withTarget op operands useLeft)
      (right.withTarget op operands useRight) := by
  unfold Engine.withTarget
  split
  · exact follows _
  · exact coupled.fault _

end Handlers

/-! ## The handlers one by one -/

section Operations

variable {coupling : Coupling} {left right : Engine}

theorem Coupled.flowCmp (coupled : coupling.Coupled left right) (operands : List Operand) :
    coupling.Follows (left.flowCmp operands) (right.flowCmp operands) := by
  unfold Engine.flowCmp
  split
  · exact (coupled.withStack (coupling.compactFull coupled.onStacks)).next
  · split
    · exact coupled.fault _
    · exact (coupled.withStack (coupling.compact coupled.onStacks _)).next
  · exact coupled.fault _

theorem Coupled.retry (coupled : coupling.Coupled left right) (policy : PingPolicy) :
    coupling.Follows (left.retry policy) (right.retry policy) := by
  cases coupled with
  | @intro stack registers onStacks files =>
      have counted : coupling.Coupled { left with attempts := left.attempts + 1 }
          ({ left with attempts := left.attempts + 1 }.refit stack registers) :=
        .intro onStacks files
      unfold Engine.retry
      dsimp only
      change coupling.Follows _ (if policy.maxRetries < left.attempts + 1 then _ else _)
      split
      · exact counted.fault _
      · exact counted.effect _ _

theorem Coupled.ping (coupled : coupling.Coupled left right) (policy : PingPolicy)
    (operands : List Operand) :
    coupling.Follows (left.ping policy operands) (right.ping policy operands) := by
  have start := coupled
  cases coupled with
  | @intro stack registers onStacks files =>
      have drawn (faults : FaultSource) : coupling.Coupled { left with faults }
          ({ left with faults }.refit stack registers) :=
        .intro onStacks files
      unfold Engine.ping
      dsimp only
      split
      · exact start.retry policy
      · change coupling.Follows _ (if (policy.signals left.faults).1 = true then _ else _)
        split
        · exact (drawn _).retry policy
        · exact (drawn _).next

theorem Coupled.sift (coupled : coupling.Coupled left right) :
    coupling.Follows left.sift right.sift :=
  .agrees (coupled.withRegisters (coupling.sweep coupled.files))
    (.cons (coupling.evicted coupled.files) .nil) rfl

theorem Coupled.write (coupled : coupling.Coupled left right) (operands : List Operand) :
    coupling.Follows (left.write operands) (right.write operands) := by
  refine coupled.withRegister .write operands fun name => ?_
  dsimp only
  split
  · exact (coupled.withRegisters (coupling.write coupled.files name _)).next
  · rename_i source _
    rw [← coupling.read coupled.files source]
    exact (coupled.withRegisters (coupling.write coupled.files name _)).next
  · exact coupled.fault _

theorem Coupled.read (coupled : coupling.Coupled left right) (operands : List Operand) :
    coupling.Follows (left.read operands) (right.read operands) := by
  refine coupled.withRegister .read operands fun name => ?_
  have created := coupling.allocate coupled.files name
  dsimp only
  rw [← coupling.read created name]
  exact (coupled.withRegisters created).push _

theorem Coupled.arithmetic (coupled : coupling.Coupled left right) (op : Op)
    (operation : Arithmetic.Operation) :
    coupling.Follows (left.arithmetic op operation) (right.arithmetic op operation) := by
  refine coupled.withPop fun operand _ _ popped => ?_
  refine popped.withPop fun other _ _ popped => ?_
  cases Arithmetic.apply operation other operand with
  | ok value => exact popped.push value
  | error failure => exact popped.fault _

theorem Coupled.jumpIf (coupled : coupling.Coupled left right) (op : Op) (wanted : Bool)
    (operands : List Operand) :
    coupling.Follows (left.jumpIf op wanted operands) (right.jumpIf op wanted operands) := by
  refine coupled.withTarget op operands fun target => ?_
  refine coupled.withPop fun value _ _ popped => ?_
  cases value.isZero? with
  | none => exact popped.fault _
  | some zero =>
      dsimp only
      split
      · exact popped.effect _ _
      · exact popped.next

theorem Coupled.call (coupled : coupling.Coupled left right) (operands : List Operand) :
    coupling.Follows (left.call operands) (right.call operands) := by
  refine coupled.withTarget .call operands fun target => ?_
  have pushed : right.calls.push? (right.counter + 1) = left.calls.push? (left.counter + 1) := by
    rw [coupled.calls, coupled.counter]
  rw [pushed]
  cases left.calls.push? (left.counter + 1) with
  | none => exact coupled.fault _
  | some calls => exact (coupled.withCalls calls).effect _ _

theorem Coupled.ret (coupled : coupling.Coupled left right) :
    coupling.Follows left.ret right.ret := by
  unfold Engine.ret
  rw [coupled.calls]
  cases left.calls.pop? with
  | none => exact coupled.fault _
  | some popped => exact (coupled.withCalls popped.2).effect _ _

theorem Coupled.startThread (coupled : coupling.Coupled left right)
    (surroundings : Surroundings) (operands : List Operand) :
    coupling.Follows (left.startThread surroundings operands)
      (right.startThread surroundings operands) := by
  refine coupled.withTarget .thread operands fun entry => ?_
  cases coupled with
  | @intro stack registers onStacks files =>
      have divided : coupling.Coupled { left with faults := left.faults.fork.2 }
          ({ left with faults := left.faults.fork.2 }.refit stack registers) :=
        .intro onStacks files
      cases surroundings.spawn with
      | error reason => exact divided.fault _
      | ok thread => exact (divided.push _).after _

theorem Coupled.join (coupled : coupling.Coupled left right) (surroundings : Surroundings) :
    coupling.Follows (left.join surroundings) (right.join surroundings) := by
  refine coupled.withPop fun value first second popped => ?_
  cases value with
  | integer number =>
      dsimp only
      split
      · exact popped.fault _
      · cases (surroundings.join number.toInt.toNat).result with
        | error cause => exact (popped.fault cause).after _
        | ok outcome =>
            cases popped with
            | intro onStacks files => exact ((Coupled.intro onStacks files).effect _ _).after _
  | unset => exact popped.fault _
  | float number => exact popped.fault _
  | text content => exact popped.fault _
  | handle address => exact popped.fault _

theorem Coupled.alloc (coupled : coupling.Coupled left right) :
    coupling.Follows left.alloc right.alloc := by
  refine coupled.withPop fun value first second popped => ?_
  dsimp only
  rw [popped.memory]
  exact ((popped.withMemory _).push _).after _

theorem Coupled.free (coupled : coupling.Coupled left right) :
    coupling.Follows left.free right.free := by
  refine coupled.withPopHandle .free fun address first second popped => ?_
  rw [popped.memory]
  cases first.stores.memory.free address with
  | error error => exact popped.fault _
  | ok freed => exact (popped.withMemory freed.1).next

theorem Coupled.load (coupled : coupling.Coupled left right) :
    coupling.Follows left.load right.load := by
  refine coupled.withPopHandle .load fun address first second popped => ?_
  rw [popped.memory]
  cases first.stores.memory.read address with
  | error error => exact popped.fault _
  | ok value => exact popped.push value

theorem Coupled.store (coupled : coupling.Coupled left right) :
    coupling.Follows left.store right.store := by
  refine coupled.withPop fun value _ _ popped => ?_
  refine popped.withPopHandle .store fun address first second popped => ?_
  rw [popped.memory]
  cases first.stores.memory.write address value with
  | error error => exact popped.fault _
  | ok memory => exact (popped.withMemory memory).push _

theorem Coupled.print (coupled : coupling.Coupled left right) :
    coupling.Follows left.print right.print :=
  coupled.withPop fun _ _ _ popped => popped.effect _ _

/-- Coupled engines execute an operation in the same way, whatever the surroundings
answer. -/
theorem Coupled.execute (coupled : coupling.Coupled left right) (settings : Settings)
    (surroundings : Surroundings) {op : Op} (operands : List Operand)
    (dedup : op = .optimize → coupling.RespectsDedup) :
    coupling.Follows (left.execute settings surroundings op operands)
      (right.execute settings surroundings op operands) := by
  cases op with
  | optimize =>
      exact .agrees (coupled.withStack (dedup rfl _ _ coupled.onStacks)) .nil rfl
  | allocReg =>
      exact coupled.withRegister .allocReg operands fun name =>
        (coupled.withRegisters (coupling.allocate coupled.files name)).next
  | flowCmp => exact coupled.flowCmp operands
  | release => exact (coupled.withStack (coupling.clear coupled.onStacks)).next
  | ping => exact coupled.ping settings.ping operands
  | sift => exact coupled.sift
  | infer => exact (coupled.withRegisters (coupling.write coupled.files _ _)).next
  | pause => exact coupled.next
  | write => exact coupled.write operands
  | read => exact coupled.read operands
  | add => exact coupled.arithmetic .add .add
  | sub => exact coupled.arithmetic .sub .sub
  | mul => exact coupled.arithmetic .mul .mul
  | div => exact coupled.arithmetic .div .div
  | mod => exact coupled.arithmetic .mod .mod
  | jump => exact coupled.withTarget .jump operands fun _ => coupled.effect _ _
  | jumpZero => exact coupled.jumpIf .jumpZero true operands
  | jumpNonzero => exact coupled.jumpIf .jumpNonzero false operands
  | print => exact coupled.print
  | call => exact coupled.call operands
  | ret => exact coupled.ret
  | thread => exact coupled.startThread surroundings operands
  | join => exact coupled.join surroundings
  | alloc => exact coupled.alloc
  | free => exact coupled.free
  | load => exact coupled.load
  | store => exact coupled.store
  | halt => exact coupled.effect _ _

end Operations

/-! ## Steps and marches -/

/-- Two engines with their reports: they are coupled and have shown corresponding
events, or the first one has run out of values where that is allowed. -/
inductive Keeps (coupling : Coupling) (left right : Engine × List Report) : Prop where
  | agrees (engines : coupling.Coupled left.1 right.1) (shown : coupling.Shown left.2 right.2)
  | underflow (allowed : coupling.lenient) (underflowed : left.1.Underflowed)

section Steps

variable {coupling : Coupling} {left right : Engine}

theorem Coupled.wake (coupled : coupling.Coupled left right) :
    coupling.Coupled left.wake right.wake := by
  cases coupled with
  | @intro stack registers onStacks files =>
      rw [Engine.wake_refit]
      have sameStack : left.wake.stack = left.stack := by
        unfold Engine.wake
        split <;> rfl
      have sameStores : left.wake.stores = left.stores := by
        unfold Engine.wake
        split <;> rfl
      exact .intro (sameStack ▸ onStacks) (sameStores ▸ files)

theorem Coupled.tick (coupled : coupling.Coupled left right) :
    coupling.Coupled left.tick right.tick := by
  cases coupled with
  | intro onStacks files =>
      have ticked : coupling.Coupled left.tick (left.tick.refit _ _) := .intro onStacks files
      exact ticked

theorem Coupled.halt (coupled : coupling.Coupled left right) :
    coupling.Keeps left.halt right.halt := by
  cases coupled with
  | intro onStacks files =>
      have halted : coupling.Coupled left.halt.1 (left.halt.1.refit _ _) := .intro onStacks files
      exact .agrees halted (coupling.shown_refl _)

theorem Coupled.raise (coupled : coupling.Coupled left right) (cause : Cause) :
    coupling.Keeps (left.raise cause) (right.raise cause) := by
  cases coupled with
  | intro onStacks files =>
      have raised : coupling.Coupled (left.raise cause).1 ((left.raise cause).1.refit _ _) :=
        .intro onStacks files
      exact .agrees raised (coupling.shown_refl _)

theorem Coupled.follow (coupled : coupling.Coupled left right) (control : Control) :
    coupling.Keeps (left.follow control) (right.follow control) := by
  cases control with
  | halt => exact coupled.halt
  | fault cause => exact coupled.raise cause
  | retry => exact .agrees coupled .nil
  | next =>
      cases coupled with
      | intro onStacks files =>
          have moved : coupling.Coupled (left.follow .next).1 ((left.follow .next).1.refit _ _) :=
            .intro onStacks files
          exact .agrees moved .nil
  | jump target =>
      cases coupled with
      | intro onStacks files =>
          have moved : coupling.Coupled (left.follow (.jump target)).1
              ((left.follow (.jump target)).1.refit _ _) := .intro onStacks files
          exact .agrees moved .nil

theorem Keeps.prepend {first second : Engine × List Report} (keeps : coupling.Keeps first second)
    {earlier earlier' : List Report} (shown : coupling.Shown earlier earlier') :
    coupling.Keeps (first.1, earlier ++ first.2) (second.1, earlier' ++ second.2) := by
  cases keeps with
  | agrees engines later => exact .agrees engines (shown.append later)
  | underflow allowed underflowed => exact .underflow allowed underflowed

theorem Follows.settle {first second : Effect} (follows : coupling.Follows first second)
    (announced : List Report) :
    coupling.Keeps
      ((first.engine.follow first.control).1,
        announced ++ first.reports ++ (first.engine.follow first.control).2)
      ((second.engine.follow second.control).1,
        announced ++ second.reports ++ (second.engine.follow second.control).2) := by
  cases follows with
  | agrees engines shown control =>
      rw [control]
      exact (engines.follow first.control).prepend
        ((coupling.shown_refl announced).append shown)
  | underflow allowed control =>
      refine .underflow allowed ⟨first.engine.counter, ?_⟩
      rw [control]
      rfl

theorem Coupled.fetch (coupled : coupling.Coupled left right) (context : Context)
    (stopRequested : Bool) :
    right.fetch context stopRequested = left.fetch context stopRequested := by
  cases coupled with
  | intro _ _ => rfl

theorem Coupled.announcement (coupled : coupling.Coupled left right) (context : Context) :
    right.announcement context = left.announcement context := by
  cases coupled with
  | intro _ _ => rfl

theorem Coupled.stopNotice (coupled : coupling.Coupled left right) :
    Notice.stopRequested right.thread right.counter =
      Notice.stopRequested left.thread left.counter := by
  cases coupled with
  | intro _ _ => rfl

end Steps
end Coupling

/-- No instruction of the program has the operation. -/
def Program.Lacks (program : Program) (op : Op) : Prop :=
  ∀ counter instruction, program.get? counter = some instruction → instruction.op? ≠ some op

theorem Program.lacks_of_code {program : Program} {op : Op}
    (absent : ∀ placed ∈ program.code, placed.instruction.op? ≠ some op) : program.Lacks op := by
  intro counter instruction found
  rcases Option.map_eq_some_iff.mp found with ⟨placed, listed, rfl⟩
  exact absent placed (List.mem_of_getElem? listed)

namespace Coupling

section Marches

variable {coupling : Coupling} {left right : Engine} {context : Context}

theorem Coupled.step (coupled : coupling.Coupled left right)
    (dedup : coupling.RespectsDedup ∨ context.program.Lacks .optimize)
    (surroundings : Surroundings) :
    coupling.Keeps (left.step context surroundings) (right.step context surroundings) := by
  have known := left.fetch_fetched context surroundings.stopRequested
  unfold Engine.step
  rw [coupled.fetch, coupled.announcement, coupled.stopNotice]
  cases fetched : left.fetch context surroundings.stopRequested with
  | finished => exact .agrees coupled .nil
  | stopped => exact coupled.wake.halt.prepend (coupling.shown_refl [_])
  | overBudget limit => exact coupled.wake.raise _
  | atEnd => exact coupled.wake.halt
  | undecodable byte => exact coupled.wake.tick.raise _
  | operation op instruction =>
      rw [fetched] at known
      refine (coupled.wake.tick.execute context.settings surroundings instruction.operands
        ?_).settle (left.announcement context)
      rintro rfl
      rcases dedup with respected | lacking
      · exact respected
      · exact absurd known.2.2 (lacking _ _ known.2.1)

/-- Coupled engines stay coupled, and what they show corresponds, for any number of
steps.  Once the first one has run out of values it stays where it is. -/
theorem Coupled.march (coupled : coupling.Coupled left right)
    (dedup : coupling.RespectsDedup ∨ context.program.Lacks .optimize)
    (answers : List Surroundings) :
    coupling.Keeps (left.march context answers) (right.march context answers) := by
  induction answers generalizing left right with
  | nil => exact .agrees coupled .nil
  | cons now later ih =>
      rw [Engine.march, Engine.march]
      cases coupled.step dedup now with
      | agrees engines shown => exact (ih engines).prepend shown
      | underflow allowed underflowed =>
          refine .underflow allowed ?_
          dsimp only
          rw [Engine.march_of_final underflowed.final]
          exact underflowed

end Marches

end Coupling
end CommandMachine
