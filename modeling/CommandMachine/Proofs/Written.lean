import CommandMachine.Proofs.Integers
import CommandMachine.Proofs.Faults
namespace CommandMachine

/-!
# What a step keeps of the stack and of memory

A register may hold `unset`, but a program sees that as zero.  So `unset` does not get on
the stack, nor from the stack into a slot of memory.  The two depend on each other, since
a load brings back what was stored, perhaps by another engine.  This module says of each
operation, and then of a step, that it keeps `unset` out of both, and that neither a printed
value nor a fault brings it to the outside.
-/

/-- The kinds of values that a cause names. -/
def Cause.kinds : Cause → List Value.Kind
  | .typeMismatch _ left right => [left, right]
  | .wrongType _ found => [found]
  | _ => []

theorem Cause.kinds_of_isRefusal {cause : Cause} (refusal : cause.isRefusal = true) :
    cause.kinds = [] := by
  cases cause <;> simp_all [isRefusal, kinds]

theorem Value.kind_ne_unset {value : Value} (written : value ≠ .unset) : value.kind ≠ .unset := by
  cases value with
  | unset => exact absurd rfl written
  | integer number | float number | text content | handle address => exact Kind.noConfusion

/-- The event neither shows `unset` nor names its kind. -/
def Event.Written : Event → Prop
  | .printed value => value ≠ .unset
  | .faulted fault => .unset ∉ fault.cause.kinds
  | _ => True

/-! ## Stacks -/

/-- Nothing on the stack is `unset`. -/
def EvaluationStack.Written (stack : EvaluationStack) : Prop :=
  ∀ value ∈ stack.items, value ≠ .unset

namespace EvaluationStack.Written

variable {stack rest : EvaluationStack} {value : Value}

theorem push (written : stack.Written) (given : value ≠ .unset) : (stack.push value).Written := by
  intro other member
  rcases mem_push member with rfl | kept
  · exact given
  · exact written other kept

theorem top (written : stack.Written) (popped : stack.pop? = some (value, rest)) :
    value ≠ .unset := by
  apply written
  rw [items_of_pop? popped]
  exact List.mem_cons_self

theorem below (written : stack.Written) (popped : stack.pop? = some (value, rest)) :
    rest.Written := by
  intro other member
  apply written
  rw [items_of_pop? popped]
  exact List.mem_cons_of_mem _ member

theorem compact (written : stack.Written) (window : Nat) : (stack.compact window).Written :=
  fun value member => written value (List.mem_of_mem_take member)

theorem dedup (written : stack.Written) : stack.dedup.Written :=
  fun value member => written value (mem_dedup member)

end EvaluationStack.Written

/-! ## Memory -/

theorem forall_mem_modify {α : Type} {holds : α → Prop} {items : List α} {change : α → α}
    (all : ∀ item ∈ items, holds item) (kept : ∀ item, holds item → holds (change item))
    (index : Nat) : ∀ item ∈ items.modify index change, holds item := by
  intro item member
  rcases List.mem_iff_getElem?.mp member with ⟨place, found⟩
  rw [List.getElem?_modify] at found
  rcases Option.map_eq_some_iff.mp found with ⟨old, listed, rfl⟩
  have before := all old (List.mem_of_getElem? listed)
  split
  · exact kept old before
  · exact before

/-- A slot in use does not hold `unset`, which free slots do. -/
def Slot.Written (slot : Slot) : Prop :=
  slot.used = true → slot.value ≠ .unset

def Page.Written (page : Page) : Prop :=
  ∀ slot ∈ page.slots, slot.Written

namespace Page

theorem written_fresh (size : Nat) : (fresh size).Written := by
  intro slot member used
  rw [List.eq_of_mem_replicate member] at used
  cases used

variable {page : Page} {value : Value}

theorem Written.occupy (written : page.Written) (given : value ≠ .unset) (index : Nat) :
    (page.occupy index value).Written :=
  forall_mem_modify written (fun _ _ _ => given) index

theorem Written.store (written : page.Written) (given : value ≠ .unset) (index : Nat) :
    (page.store index value).Written :=
  forall_mem_modify written (fun _ _ _ => given) index

theorem Written.release (written : page.Written) (index : Nat) :
    (page.release index).Written :=
  forall_mem_modify written (fun _ _ used => absurd used Bool.false_ne_true) index

end Page

def Memory.Written (memory : Memory) : Prop :=
  ∀ page ∈ memory.pages, page.Written

namespace Memory.Written

variable {memory : Memory} {value : Value} {handle : Handle}

theorem onPage (written : memory.Written) {change : Page → Page}
    (kept : ∀ page, page.Written → (change page).Written) : (memory.onPage handle change).Written :=
  forall_mem_modify written kept handle.page.toNat

theorem prepare (written : memory.Written) : ∀ page ∈ memory.prepare.1, page.Written := by
  unfold Memory.prepare
  split
  · exact written
  · intro page member
    rcases List.mem_append.mp member with old | new
    · exact written page old
    · rw [List.mem_singleton.mp new]
      exact Page.written_fresh memory.pageSize

theorem allocate (written : memory.Written) (given : value ≠ .unset) :
    (memory.allocate value).1.Written :=
  forall_mem_modify written.prepare (fun _ old => old.occupy given _) _

/-- A request leaves no `unset` in memory that it does not hand in. -/
theorem serve (written : memory.Written) {request : Request}
    (given : request.given? ≠ some .unset) : (memory.serve request).1.Written := by
  have served := memory.served_serve request
  generalize (memory.serve request).1 = next at served ⊢
  generalize (memory.serve request).2 = reply at served
  cases served with
  | allocate value => exact written.allocate fun same => given (congrArg some same)
  | free fits => exact written.onPage fun _ old => old.release _
  | read fits => exact written
  | write fits =>
      exact written.onPage fun _ old => old.store (fun same => given (congrArg some same)) _
  | refused => exact written

theorem free (written : memory.Written) {next : Memory}
    (freed : memory.free handle = .ok (next, value)) : next.Written := by
  have served : (memory.serve (.free handle)).1 = next := by simp only [Memory.serve, freed]
  rw [← served]
  exact written.serve (Option.some_ne_none _).symm

/-- What a handle leads to is in use. -/
theorem read (written : memory.Written) (found : memory.read handle = .ok value) :
    value ≠ .unset := by
  unfold Memory.read live at found
  split at found
  · cases found
  · rename_i slot present
    split at found
    · rename_i fits
      cases found
      rcases Option.bind_eq_some_iff.mp present with ⟨page, listed, placed⟩
      exact written page (List.mem_of_getElem? listed) slot (List.mem_of_getElem? placed) fits.1
    · cases found

end Memory.Written

/-! ## Arithmetic -/

namespace Arithmetic

variable {operation : Operation} {left right value : Value}

theorem apply_ne_unset (applied : apply operation left right = .ok value) : value ≠ .unset := by
  rcases apply_isNumber applied with ⟨number, rfl⟩ | ⟨number, rfl⟩ <;> exact Value.noConfusion

theorem floats_ne_mismatch (operation : Operation) (left right : Float)
    (first second : Value.Kind) : floats operation left right ≠ .error (.mismatch first second) := by
  unfold floats
  split
  · simp
  · cases operation <;> simp

/-- Operands that do not go together are both named. -/
theorem kinds_of_mismatch {first second : Value.Kind}
    (failed : apply operation left right = .error (.mismatch first second)) :
    first = left.kind ∧ second = right.kind := by
  have numeric {α : Type} {result : Except Failure α} {wrap : α → Value}
      (other : result ≠ .error (.mismatch first second)) :
      result.map wrap ≠ .error (.mismatch first second) := by
    intro same
    cases result with
    | ok number => cases same
    | error failure =>
        cases same
        exact other rfl
  unfold apply at failed
  split at failed
  · exact absurd failed (numeric (integers_ne_mismatch _ _))
  · exact absurd failed (numeric (floats_ne_mismatch _ _ _ _ _))
  · exact absurd failed (numeric (floats_ne_mismatch _ _ _ _ _))
  · exact absurd failed (numeric (floats_ne_mismatch _ _ _ _ _))
  · cases failed
    exact ⟨rfl, rfl⟩

end Arithmetic

/-! ## One operation -/

/-- An operation leaves no `unset` on the stack, and where it fails the cause does not name
its kind. -/
structure Effect.Written (effect : Effect) : Prop where
  stack : effect.engine.stack.Written
  cause : ∀ cause, effect.control = .fault cause → .unset ∉ cause.kinds

namespace Engine

section Combinators

variable {engine : Engine} {op : Op} {operands : List Operand} {value : Value} {cause : Cause}
  {reports : List Report} {control : Control} {effect : Effect}

theorem written_of_control (written : engine.stack.Written)
    (other : ∀ cause, control ≠ .fault cause) :
    Effect.Written ⟨engine, reports, control⟩ :=
  ⟨written, fun cause failed => absurd failed (other cause)⟩

theorem written_next (written : engine.stack.Written) : (Effect.next engine).Written :=
  written_of_control written fun _ => Control.noConfusion

theorem written_fault (written : engine.stack.Written) (named : .unset ∉ cause.kinds) :
    (Effect.fault engine cause).Written := by
  refine ⟨written, fun other same => ?_⟩
  cases same
  exact named

/-- Most causes name no kind of values. -/
theorem written_failure (written : engine.stack.Written) (silent : cause.kinds = []) :
    (Effect.fault engine cause).Written :=
  written_fault written (silent ▸ List.not_mem_nil)

theorem written_wrongType (written : engine.stack.Written) (given : value ≠ .unset) :
    (Effect.fault engine (.wrongType op value.kind)).Written :=
  written_fault written fun named =>
    Value.kind_ne_unset given (List.mem_singleton.mp named).symm

theorem written_push (written : engine.stack.Written) (given : value ≠ .unset) :
    (Effect.push engine value).Written :=
  ⟨written.push given, fun _ => Control.noConfusion⟩

theorem written_after (written : effect.Written) : (effect.after reports).Written :=
  ⟨written.stack, written.cause⟩

theorem written_withPop (written : engine.stack.Written) {use : Value → Engine → Effect}
    (uses : ∀ value stack, value ≠ .unset → stack.Written →
      (use value { engine with stack }).Written) : (engine.withPop use).Written := by
  unfold withPop
  cases popped : engine.stack.pop? with
  | none => exact written_failure written rfl
  | some pair => exact uses pair.1 pair.2 (written.top popped) (written.below popped)

theorem written_withPopHandle (written : engine.stack.Written) {use : Handle → Engine → Effect}
    (uses : ∀ address stack, stack.Written → (use address { engine with stack }).Written) :
    (engine.withPopHandle op use).Written := by
  refine written_withPop written fun value stack given rest => ?_
  cases value with
  | handle address => exact uses address stack rest
  | unset | integer number | float number | text content => exact written_wrongType rest given

theorem written_withRegister (written : engine.stack.Written) {use : String → Effect}
    (uses : ∀ name, (use name).Written) : (engine.withRegister op operands use).Written := by
  unfold withRegister
  split
  · exact uses _
  · exact written_failure written rfl

theorem written_withTarget (written : engine.stack.Written) {use : Nat → Effect}
    (uses : ∀ target, (use target).Written) : (engine.withTarget op operands use).Written := by
  unfold withTarget
  split
  · exact uses _
  · exact written_failure written rfl

end Combinators

section Handlers

variable {engine : Engine} {operands : List Operand} {op : Op} {policy : PingPolicy}
  {surroundings : Surroundings} (written : engine.stack.Written)
include written

theorem written_flowCmp : (engine.flowCmp operands).Written := by
  unfold flowCmp
  split
  · exact written_next (written.compact _)
  · split
    · exact written_failure written rfl
    · exact written_next (written.compact _)
  · exact written_failure written rfl

theorem written_retry : (engine.retry policy).Written := by
  unfold Engine.retry
  dsimp only
  split
  · exact written_failure written rfl
  · exact written_of_control written fun _ => Control.noConfusion

theorem written_ping : (engine.ping policy operands).Written := by
  unfold ping
  dsimp only
  split
  · exact written_retry written
  · split
    · exact written_retry written
    · exact written_next written

theorem written_write : (engine.write operands).Written := by
  refine written_withRegister written fun name => ?_
  dsimp only
  split
  · exact written_next written
  · exact written_next written
  · exact written_failure written rfl

/-- The way from registers to the stack. -/
theorem written_read : (engine.read operands).Written :=
  written_withRegister written fun _ => written_push written (Value.orZero_ne_unset _)

theorem written_arithmetic {operation : Arithmetic.Operation} :
    (engine.arithmetic op operation).Written := by
  refine written_withPop written fun right stack second rest => ?_
  refine written_withPop rest fun left bottom first below => ?_
  cases applied : Arithmetic.apply operation left right with
  | ok value => exact written_push below (Arithmetic.apply_ne_unset applied)
  | error failure =>
      cases failure with
      | divisionByZero | overflow => exact written_failure below rfl
      | mismatch leftKind rightKind =>
          rcases Arithmetic.kinds_of_mismatch applied with ⟨rfl, rfl⟩
          refine written_fault below fun named => ?_
          rcases List.mem_pair.mp named with same | same
          · exact Value.kind_ne_unset first same.symm
          · exact Value.kind_ne_unset second same.symm

theorem written_jumpIf {wanted : Bool} : (engine.jumpIf op wanted operands).Written := by
  refine written_withTarget written fun target => ?_
  refine written_withPop written fun value stack given rest => ?_
  cases value.isZero? with
  | none => exact written_wrongType rest given
  | some zero =>
      dsimp only
      split
      · exact written_of_control rest fun _ => Control.noConfusion
      · exact written_next rest

theorem written_call : (engine.call operands).Written := by
  refine written_withTarget written fun target => ?_
  cases engine.calls.push? (engine.counter + 1) with
  | none => exact written_failure written rfl
  | some calls => exact written_of_control written fun _ => Control.noConfusion

theorem written_ret : engine.ret.Written := by
  unfold ret
  cases engine.calls.pop? with
  | none => exact written_failure written rfl
  | some pair => exact written_of_control written fun _ => Control.noConfusion

theorem written_startThread : (engine.startThread surroundings operands).Written := by
  refine written_withTarget written fun entry => ?_
  cases surroundings.spawn with
  | error reason => exact written_failure written rfl
  | ok thread => exact written_after (written_push written Value.noConfusion)

theorem written_join (honest : surroundings.Honest) : (engine.join surroundings).Written := by
  refine written_withPop written fun value stack given rest => ?_
  cases value with
  | integer number =>
      dsimp only
      split
      · exact written_failure rest rfl
      · cases reply : (surroundings.join number.toInt.toNat).result with
        | ok outcome => exact written_after (written_of_control rest fun _ => Control.noConfusion)
        | error cause =>
            have silent := Cause.kinds_of_isRefusal (honest _ cause reply)
            exact written_after (written_failure rest silent)
  | unset | float number | text content | handle address => exact written_wrongType rest given

theorem written_alloc : engine.alloc.Written :=
  written_withPop written fun _ _ _ rest => written_after (written_push rest Value.noConfusion)

theorem written_free : engine.free.Written := by
  refine written_withPopHandle written fun address stack rest => ?_
  dsimp only
  split
  · exact written_failure rest rfl
  · exact written_next rest

/-- The way from memory to the stack. -/
theorem written_load (memory : engine.stores.memory.Written) : engine.load.Written := by
  refine written_withPopHandle written fun address stack rest => ?_
  dsimp only
  split
  · exact written_failure rest rfl
  · rename_i value found
    exact written_push rest (memory.read found)

theorem written_store : engine.store.Written := by
  refine written_withPop written fun value stack _ rest => ?_
  refine written_withPopHandle rest fun address bottom below => ?_
  dsimp only
  split
  · exact written_failure below rfl
  · exact written_push below Value.noConfusion

theorem written_print : engine.print.Written :=
  written_withPop written fun _ _ _ rest => written_of_control rest fun _ => Control.noConfusion

theorem written_execute {settings : Settings} (memory : engine.stores.memory.Written)
    (honest : surroundings.Honest) :
    (engine.execute settings surroundings op operands).Written := by
  cases op with
  | optimize => exact written_of_control written.dedup fun _ => Control.noConfusion
  | allocReg => exact written_withRegister written fun _ => written_next written
  | flowCmp => exact written_flowCmp written
  | release => exact written_next fun _ member => absurd member List.not_mem_nil
  | ping => exact written_ping written
  | sift => exact written_of_control written fun _ => Control.noConfusion
  | infer => exact written_next written
  | pause => exact written_next written
  | write => exact written_write written
  | read => exact written_read written
  | add => exact written_arithmetic written
  | sub => exact written_arithmetic written
  | mul => exact written_arithmetic written
  | div => exact written_arithmetic written
  | mod => exact written_arithmetic written
  | jump =>
      exact written_withTarget written fun _ =>
        written_of_control written fun _ => Control.noConfusion
  | jumpZero => exact written_jumpIf written
  | jumpNonzero => exact written_jumpIf written
  | print => exact written_print written
  | call => exact written_call written
  | ret => exact written_ret written
  | thread => exact written_startThread written
  | join => exact written_join written honest
  | alloc => exact written_alloc written
  | free => exact written_free written
  | load => exact written_load written memory
  | store => exact written_store written
  | halt => exact written_of_control written fun _ => Control.noConfusion

end Handlers

/-! ## One step -/

/-- An engine without `unset` on its stack and in its memory, whose fault, if it ended in
one, does not name its kind. -/
structure Written (engine : Engine) : Prop where
  stack : engine.stack.Written
  memory : engine.stores.memory.Written
  status : ∀ fault, engine.status = .faulted fault → .unset ∉ fault.cause.kinds

section Step

variable {engine next : Engine} {context : Context} {surroundings : Surroundings}

theorem Written.memory_step (written : engine.Written) (context : Context)
    (honest : surroundings.Honest) :
    (engine.step context surroundings).1.stores.memory.Written := by
  rw [(step_trades engine context honest).memory]
  cases made : engine.memoryRequest? context surroundings.stopRequested with
  | none => exact written.memory
  | some request =>
      refine written.memory.serve fun given => ?_
      unfold memoryRequest? at made
      split at made
      · exact written.stack _ (Op.given_mem_of_memoryRequest? made given) rfl
      · cases made

theorem Written.advance (written : engine.Written) (honest : surroundings.Honest)
    (advances : Advances context surroundings engine next) :
    next.stack.Written ∧ ∀ fault, next.status = .faulted fault → .unset ∉ fault.cause.kinds := by
  cases advances with
  | finished final => exact ⟨written.stack, written.status⟩
  | halted active ends => exact ⟨written.stack, fun _ => Status.noConfusion⟩
  | overBudget active exhausted =>
      refine ⟨written.stack, fun fault faulted => ?_⟩
      cases faulted
      exact List.not_mem_nil
  | undecodable active found unknown =>
      refine ⟨written.stack, fun fault faulted => ?_⟩
      cases faulted
      exact List.not_mem_nil
  | @executed instruction op active found decoded =>
      have stack : engine.wake.tick.stack.Written := by
        rw [show engine.wake.tick.stack = engine.stack from wake_stack engine]
        exact written.stack
      have memory : engine.wake.tick.stores.memory.Written := by
        rw [show engine.wake.tick.stores = engine.stores from wake_stores engine]
        exact written.memory
      have done : (engine.wake.tick.execute context.settings surroundings op
          instruction.operands).Written := written_execute stack memory honest
      refine ⟨by rw [settled_stack]; exact done.stack, fun fault faulted => ?_⟩
      have running : engine.wake.tick.status = .running := wake_status active
      exact done.cause _ (settled_faulted running
        (execute_lawful _ context.settings honest op instruction.operands) faulted).1

theorem Written.step (written : engine.Written) (context : Context)
    (honest : surroundings.Honest) : (engine.step context surroundings).1.Written := by
  have advanced := written.advance honest (step_advances engine context surroundings)
  exact ⟨advanced.1, written.memory_step context honest, advanced.2⟩

theorem Written.due (written : engine.Written) {event : Event}
    (due : engine.dueNext? context surroundings = some event) : event.Written := by
  unfold dueNext? at due
  split at due
  · rename_i op instruction fetched
    unfold due? at due
    split at due
    · rcases Option.map_eq_some_iff.mp due with ⟨value, top, rfl⟩
      exact written.stack value (List.mem_of_head? top)
    · cases due
      trivial
    · split at due <;> cases due
      trivial
    · split at due
      · cases due
      · rcases Option.map_eq_some_iff.mp due with ⟨entry, -, rfl⟩
        trivial
    · cases due
  · cases due

/-- A step does not show `unset`. -/
theorem Written.shown (written : engine.Written) (context : Context)
    (honest : surroundings.Honest) {event : Event}
    (shown : event ∈ Report.events (engine.step context surroundings).2) : event.Written := by
  cases final : engine.status.isFinal with
  | true =>
      rw [step_of_final final] at shown
      cases shown
  | false =>
      rw [events_step context surroundings final] at shown
      rcases List.mem_append.mp shown with due | closing
      · exact written.due (Option.mem_toList.mp due)
      · have status := (written.step context honest).status
        cases ended : (engine.step context surroundings).1.status with
        | idle | running =>
            rw [ended] at closing
            cases closing
        | halted =>
            rw [ended] at closing
            rw [List.mem_singleton.mp closing]
            trivial
        | faulted fault =>
            rw [ended] at closing
            rw [List.mem_singleton.mp closing]
            exact status fault ended

end Step
end Engine
end CommandMachine
