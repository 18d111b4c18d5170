import CommandMachine.Proofs.Lockstep
import CommandMachine.Proofs.Registers
namespace CommandMachine

/-!
# Sweeping is invisible to the program

A program sees its registers through `Value.orZero` only, and so does not see which
of them exist.  Engines that differ in this respect alone, such as one whose
registers have just been swept, go on in the same way.  Only the names that are told
when registers are swept again give the difference away.
-/

/-- The event without the names of the registers that were swept. -/
def Event.withoutNames : Event → Event
  | .evicted _ => .evicted []
  | event => event

theorem Event.printed?_withoutNames (event : Event) :
    event.withoutNames.printed? = event.printed? := by
  cases event <;> rfl

/-- Engines with equal stacks whose registers a program cannot tell apart. -/
def Coupling.alike : Coupling where
  onStacks := Eq
  registers := fun left right => left.Equivalent right ∧ left.Distinct ∧ right.Distinct
  events := fun left right => left.withoutNames = right.withoutNames
  lenient := False
  push := fun same value => by rw [same]
  pop := fun {left right} same => by
    rw [same]
    cases right.pop? with
    | none => exact .neither
    | some popped => exact .both popped.1 rfl
  clear := fun same => by rw [same]
  compact := fun same window => by rw [same]
  compactFull := fun same => by rw [same]
  allocate := fun files name =>
    ⟨files.1.allocate name, files.2.1.allocate name, files.2.2.allocate name⟩
  write := fun files name value =>
    ⟨files.1.write name value, files.2.1.write name value, files.2.2.write name value⟩
  read := fun files name => files.1 name
  sweep := fun files => by
    refine ⟨fun name => ?_, files.2.1.sweep, files.2.2.sweep⟩
    rw [files.2.1.read_sweep, files.2.2.read_sweep]
    exact files.1 name
  evicted := fun _ => rfl
  same := fun _ => rfl

theorem Coupling.respectsDedup_alike : Coupling.alike.RespectsDedup :=
  fun _ _ same => congrArg EvaluationStack.dedup same

namespace Engine

/-- Two engines and what they have reported are the same, apart from registers that a
program cannot tell apart and the names that sweeping tells. -/
structure Indistinct (left right : Engine × List Report) : Prop where
  counter : left.1.counter = right.1.counter
  status : left.1.status = right.1.status
  steps : left.1.steps = right.1.steps
  stack : left.1.stack = right.1.stack
  calls : left.1.calls = right.1.calls
  memory : left.1.stores.memory = right.1.stores.memory
  registers : left.1.stores.registers.Equivalent right.1.stores.registers
  events : (Report.events left.2).map Event.withoutNames =
    (Report.events right.2).map Event.withoutNames

theorem Indistinct.printed {left right : Engine × List Report}
    (indistinct : Indistinct left right) :
    (Report.events left.2).filterMap Event.printed? =
      (Report.events right.2).filterMap Event.printed? := by
  have same := congrArg (List.filterMap Event.printed?) indistinct.events
  simpa [List.filterMap_map, Function.comp_def, Event.printed?_withoutNames] using same

theorem indistinct_of_keeps {left right : Engine × List Report}
    (keeps : Coupling.alike.Keeps left right) : Indistinct left right := by
  cases keeps with
  | underflow allowed _ => exact allowed.elim
  | agrees engines shown =>
      have events : (Report.events left.2).map Event.withoutNames =
          (Report.events right.2).map Event.withoutNames := by
        rw [← List.forall₂_eq_eq_eq, List.forall₂_map_left_iff, List.forall₂_map_right_iff]
        exact shown
      rcases left with ⟨first, told⟩
      rcases right with ⟨second, toldToo⟩
      dsimp only at engines
      cases engines with
      | intro onStacks files => exact ⟨rfl, rfl, rfl, onStacks, rfl, rfl, files.1, events⟩

variable {engine : Engine} {context : Context}

theorem Indistinct.march {registers : RegisterFile}
    (distinct : engine.stores.registers.Distinct) (others : registers.Distinct)
    (equivalent : engine.stores.registers.Equivalent registers) (answers : List Surroundings) :
    Indistinct (engine.march context answers)
      ((engine.withRegisters registers).march context answers) := by
  have coupled : Coupling.alike.Coupled engine (engine.refit engine.stack registers) :=
    .intro rfl ⟨equivalent, distinct, others⟩
  exact indistinct_of_keeps (coupled.march (Or.inl Coupling.respectsDedup_alike) answers)

/-- An engine coupled with itself: its registers keep their names apart. -/
theorem distinct_march (distinct : engine.stores.registers.Distinct)
    (answers : List Surroundings) :
    (engine.march context answers).1.stores.registers.Distinct := by
  have coupled : Coupling.alike.Coupled engine engine :=
    .intro rfl ⟨fun _ => rfl, distinct, distinct⟩
  cases coupled.march (Or.inl Coupling.respectsDedup_alike) answers with
  | underflow allowed _ => exact allowed.elim
  | agrees engines _ => exact engines.files.2.1

/-- Sweeping is invisible to the program.  Two engines that are equal up to registers
which read alike stay so for any number of steps with the same answers: they go the
same way, have the same stacks and memory and show the same events, except for the
names that sweeping tells.  In particular one may sweep the registers of an engine
at any point of its run, and it will print the same values, go to the same places
and end in the same fault or none. -/
theorem march_ignores_sweeping (context : Context) (answers : List Surroundings) :
    (∀ (engine : Engine) (registers : RegisterFile), engine.stores.registers.Distinct →
      registers.Distinct → engine.stores.registers.Equivalent registers →
      Indistinct (engine.march context answers)
        ((engine.withRegisters registers).march context answers)) ∧
    ∀ (faults : FaultSource) (earlier : List Surroundings),
      let engine := ((first context.settings faults).march context earlier).1
      let swept := engine.withRegisters engine.stores.registers.sweep
      Indistinct (engine.march context answers) (swept.march context answers) ∧
        (Report.events (engine.march context answers).2).filterMap Event.printed? =
          (Report.events (swept.march context answers).2).filterMap Event.printed? := by
  constructor
  · intro engine registers distinct others equivalent
    exact .march distinct others equivalent answers
  · intro faults earlier engine swept
    have distinct : engine.stores.registers.Distinct :=
      distinct_march RegisterFile.distinct_empty earlier
    have equivalent : engine.stores.registers.Equivalent engine.stores.registers.sweep := by
      intro name
      rw [distinct.read_sweep]
    have indistinct : Indistinct (engine.march context answers) (swept.march context answers) :=
      .march distinct distinct.sweep equivalent answers
    exact ⟨indistinct, indistinct.printed⟩

/-- A program that sweeps, and then uses a register that was never written. -/
def tidy : Context where
  program.code := [⟨.ofOp .sift [], 1⟩, ⟨.ofOp .write [.register "b", .register "a"], 2⟩,
    ⟨.ofOp .read [.register "b"], 3⟩, ⟨.ofOp .jumpZero [.target 5], 4⟩, ⟨.ofOp .halt [], 5⟩,
    ⟨.ofOp .read [.register "a"], 6⟩, ⟨.ofOp .print [], 7⟩]
  settings := .standard

/-- An engine about to start it, with the given registers. -/
def tidyEngine (registers : RegisterFile) : Engine :=
  (first Settings.standard (.ofSeed 7)).withRegisters registers

/-- Two registers that hold nothing. -/
def unwritten : RegisterFile :=
  (RegisterFile.empty.allocate "a").allocate "b"

/-- One register that holds zero. -/
def zeroed : RegisterFile :=
  RegisterFile.empty.write "c" (.integer 0)

/-- The two files have no register in common, and only what the sweep tells shows it. -/
theorem tidy_ignores_sweeping :
    unwritten.Distinct ∧ zeroed.Distinct ∧ unwritten.Equivalent zeroed ∧
      Report.events ((tidyEngine unwritten).march tidy (List.replicate 6 (.alone .text))).2 =
        [.evicted ["a", "b"], .printed (.integer 0)] ∧
      Report.events ((tidyEngine zeroed).march tidy (List.replicate 6 (.alone .text))).2 =
        [.evicted [], .printed (.integer 0)] ∧
      Indistinct ((tidyEngine unwritten).march tidy (List.replicate 6 (.alone .text)))
        ((tidyEngine zeroed).march tidy (List.replicate 6 (.alone .text))) := by
  have first : unwritten.Distinct := (RegisterFile.distinct_empty.allocate "a").allocate "b"
  have second : zeroed.Distinct := RegisterFile.distinct_empty.write "c" _
  have equivalent : unwritten.Equivalent zeroed := by
    intro name
    rw [unwritten, zeroed, RegisterFile.read_allocate, RegisterFile.read_allocate,
      RegisterFile.read_write]
    split <;> rfl
  exact ⟨first, second, equivalent, by decide +kernel, by decide +kernel,
    (march_ignores_sweeping tidy _).1 (tidyEngine unwritten) zeroed first second equivalent⟩

end Engine
end CommandMachine
