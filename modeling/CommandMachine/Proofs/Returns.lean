import CommandMachine.Proofs.Attempts
namespace CommandMachine

/-!
# Calls and returns

The call stack of an engine is a list of numbers, and a return goes wherever the topmost one
says.  That calls and returns belong together like brackets is a property of whole runs.  It
is stated here in two ways.  Which return belongs to a call can be read off the steps alone:
the stretch between the two is balanced, which means that each call in it has its return in
it and each return its call.  And it can be read off the stack: the return is the first step
after which the stack is again as long as it was before the call.

Both come to the same, since at each moment the stack consists of the return addresses of
those calls that still lack their return, and all the rest of the past is balanced.
-/

/-- Other operations than calls and returns send an engine on with the same call stack. -/
theorem Engine.Directs.calls_eq {engine : Engine} {op : Op} {operands : List Operand}
    {calls : CallStack} {control : Control}
    (directs : Directs engine op operands calls control) (other : op ≠ .call)
    (another : op ≠ .ret) : calls = engine.calls := by
  cases directs with
  | call calling _ _ => exact absurd calling other
  | ret returns _ => exact absurd returns another
  | _ => rfl

namespace Moment

/-- Whether the step executes the operation and the engine goes on. -/
def performs (context : Context) (moment : Moment) (op : Op) : Bool :=
  match moment.engine.fetch context moment.surroundings.stopRequested with
  | .operation found instruction =>
    found = op && (moment.effect context found instruction).control.goesOn
  | _ => false

/-- The addresses that the engine is to return to, the next one first. -/
def frames (moment : Moment) : List Nat :=
  moment.engine.calls.frames

/-- What the step leaves of the addresses. -/
def framesAfter (context : Context) (moment : Moment) : List Nat :=
  (moment.after context).calls.frames

/-- The call stack of an engine that goes to a function. -/
def entered (moment : Moment) : CallStack :=
  { moment.engine.calls with frames := (moment.engine.counter + 1) :: moment.frames }

/-- A stretch of a run in which calls and returns match. -/
inductive Balanced (context : Context) : List Moment → Prop where
  | nil : Balanced context []
  | level {moment : Moment} {rest : List Moment}
      (calls : moment.performs context .call = false)
      (returns : moment.performs context .ret = false) (balanced : Balanced context rest) :
      Balanced context (moment :: rest)
  | pair {opening closing : Moment} {inner rest : List Moment}
      (calls : opening.performs context .call = true) (inside : Balanced context inner)
      (returns : closing.performs context .ret = true) (balanced : Balanced context rest) :
      Balanced context (opening :: (inner ++ closing :: rest))

/-- Among the moments since a call is the return that belongs to it. -/
def Matched (context : Context) (since : List Moment) : Prop :=
  ∃ inner closing later, since = inner ++ closing :: later ∧ Balanced context inner ∧
    closing.performs context .ret = true

/-! ## One step -/

section Step

variable {context : Context} {moment : Moment} {instruction : Instruction}

theorem performs_iff {op : Op} : moment.performs context op = true ↔ ∃ instruction,
    moment.engine.fetch context moment.surroundings.stopRequested = .operation op instruction ∧
      (moment.effect context op instruction).control.goesOn = true := by
  unfold performs
  cases moment.engine.fetch context moment.surroundings.stopRequested with
  | operation found instruction => grind
  | finished => simp
  | stopped => simp
  | overBudget limit => simp
  | atEnd => simp
  | undecodable byte => simp

theorem performs_of_operation {found op : Op}
    (fetched : moment.engine.fetch context moment.surroundings.stopRequested =
      .operation found instruction) :
    moment.performs context op =
      (decide (found = op) && (moment.effect context found instruction).control.goesOn) := by
  unfold performs
  rw [fetched]

/-- No step is both a call and a return. -/
theorem returns_of_calls (calls : moment.performs context .call = true) :
    moment.performs context .ret = false := by
  rcases performs_iff.mp calls with ⟨instruction, fetched, -⟩
  rw [performs_of_operation fetched]
  rfl

/-- What a step does to the addresses. -/
inductive Nests (context : Context) (moment : Moment) : Prop where
  | level (calls : moment.performs context .call = false)
      (returns : moment.performs context .ret = false)
      (kept : (moment.after context).calls = moment.engine.calls)
  | enters (calls : moment.performs context .call = true)
      (room : moment.engine.calls.depth < moment.engine.calls.limit)
      (pushed : (moment.after context).calls = moment.entered)
  | leaves (returns : moment.performs context .ret = true)
      (popped : moment.frames = (moment.after context).counter :: moment.framesAfter context)
      (limit : (moment.after context).calls.limit = moment.engine.calls.limit)

theorem after_calls_of_operation {op : Op}
    (fetched : moment.engine.fetch context moment.surroundings.stopRequested =
      .operation op instruction) :
    (moment.after context).calls = (moment.effect context op instruction).engine.calls := by
  rw [after_of_operation fetched, Engine.settled_calls]

theorem after_counter_of_jump {op : Op} {target : Nat}
    (fetched : moment.engine.fetch context moment.surroundings.stopRequested =
      .operation op instruction)
    (jumps : (moment.effect context op instruction).control = .jump target) :
    (moment.after context).counter = target := by
  rw [after_of_operation fetched, Engine.settled_counter, jumps]

theorem wake_tick_calls (engine : Engine) : engine.wake.tick.calls = engine.calls :=
  engine.wake_calls

theorem wake_tick_counter (engine : Engine) : engine.wake.tick.counter = engine.counter :=
  engine.wake_counter

/-- A call without a target fails before the call stack is looked at. -/
theorem effect_call_of_unnamed (unnamed : Operand.leadingTarget? instruction.operands = none) :
    moment.effect context .call instruction =
      .fault moment.engine.wake.tick (.invalidOperand "CALL expects a target") := by
  change moment.engine.wake.tick.call instruction.operands = _
  unfold Engine.call Engine.withTarget
  split
  · rename_i target rest operands
    rw [operands] at unnamed
    cases unnamed
  · rfl

theorem operands_of_leadingTarget? {operands : List Operand} {target : Nat}
    (named : Operand.leadingTarget? operands = some target) :
    ∃ rest, operands = .target target :: rest := by
  unfold Operand.leadingTarget? at named
  split at named
  · cases named
    exact ⟨_, rfl⟩
  · cases named

theorem effect_call_of_full {target : Nat}
    (named : Operand.leadingTarget? instruction.operands = some target)
    (full : ¬ moment.engine.calls.depth < moment.engine.calls.limit) :
    moment.effect context .call instruction =
      .fault moment.engine.wake.tick .callStackOverflow := by
  rcases operands_of_leadingTarget? named with ⟨rest, operands⟩
  change moment.engine.wake.tick.call instruction.operands = _
  simp only [Engine.call, operands, Engine.withTarget, CallStack.push?, wake_tick_calls,
    if_neg full]

theorem effect_call_of_room {target : Nat}
    (named : Operand.leadingTarget? instruction.operands = some target)
    (room : moment.engine.calls.depth < moment.engine.calls.limit) :
    moment.effect context .call instruction =
      ⟨{ moment.engine.wake.tick with calls := moment.entered }, [], .jump target⟩ := by
  rcases operands_of_leadingTarget? named with ⟨rest, operands⟩
  change moment.engine.wake.tick.call instruction.operands = _
  simp only [Engine.call, operands, Engine.withTarget, CallStack.push?, wake_tick_calls,
    wake_tick_counter, if_pos room]
  rfl

theorem effect_ret_of_nil (none : moment.frames = []) :
    moment.effect context .ret instruction =
      .fault moment.engine.wake.tick .callStackUnderflow := by
  have empty : moment.engine.calls.frames = [] := none
  change moment.engine.wake.tick.ret = _
  simp only [Engine.ret, CallStack.pop?, wake_tick_calls, empty]

theorem effect_ret_of_cons {target : Nat} {rest : List Nat}
    (some : moment.frames = target :: rest) :
    moment.effect context .ret instruction =
      ⟨{ moment.engine.wake.tick with calls := { moment.engine.calls with frames := rest } }, [],
        .jump target⟩ := by
  have filled : moment.engine.calls.frames = target :: rest := some
  change moment.engine.wake.tick.ret = _
  simp only [Engine.ret, CallStack.pop?, wake_tick_calls, filled]

/-- Operations other than calls and returns leave the call stack alone. -/
theorem effect_calls {op : Op} (honest : moment.surroundings.Honest) (other : op ≠ .call)
    (another : op ≠ .ret) :
    (moment.effect context op instruction).engine.calls = moment.engine.calls := by
  have lawful := Engine.execute_lawful moment.engine.wake.tick context.settings honest op
    instruction.operands
  exact (lawful.directs.calls_eq other another).trans (wake_tick_calls _)

/-- An operation that ends the engine is neither a call nor a return. -/
theorem nests_of_ending {op : Op}
    (fetched : moment.engine.fetch context moment.surroundings.stopRequested =
      .operation op instruction)
    (ends : (moment.effect context op instruction).control.goesOn = false)
    (kept : (moment.effect context op instruction).engine.calls = moment.engine.calls) :
    moment.Nests context := by
  refine .level ?_ ?_ ((after_calls_of_operation fetched).trans kept)
  · rw [performs_of_operation fetched, ends, Bool.and_false]
  · rw [performs_of_operation fetched, ends, Bool.and_false]

theorem nests_of_call
    (fetched : moment.engine.fetch context moment.surroundings.stopRequested =
      .operation .call instruction) : moment.Nests context := by
  cases named : Operand.leadingTarget? instruction.operands with
  | none =>
      apply nests_of_ending fetched
      · rw [effect_call_of_unnamed named]
        rfl
      · rw [effect_call_of_unnamed named]
        exact wake_tick_calls _
  | some target =>
      by_cases room : moment.engine.calls.depth < moment.engine.calls.limit
      · refine .enters ?_ room ?_
        · rw [performs_of_operation fetched, effect_call_of_room named room]
          rfl
        · rw [after_calls_of_operation fetched, effect_call_of_room named room]
      · apply nests_of_ending fetched
        · rw [effect_call_of_full named room]
          rfl
        · rw [effect_call_of_full named room]
          exact wake_tick_calls _

theorem nests_of_ret
    (fetched : moment.engine.fetch context moment.surroundings.stopRequested =
      .operation .ret instruction) : moment.Nests context := by
  cases stacked : moment.frames with
  | nil =>
      apply nests_of_ending fetched
      · rw [effect_ret_of_nil stacked]
        rfl
      · rw [effect_ret_of_nil stacked]
        exact wake_tick_calls _
  | cons target rest =>
      have effect : moment.effect context .ret instruction = _ := effect_ret_of_cons stacked
      have calls := after_calls_of_operation fetched
      rw [effect] at calls
      refine .leaves ?_ ?_ (by rw [calls])
      · rw [performs_of_operation fetched, effect]
        rfl
      · have counter : (moment.after context).counter = target := by
          apply after_counter_of_jump fetched
          rw [effect]
        rw [framesAfter, counter, calls, stacked]

/-- Nothing else touches the call stack. -/
theorem nests_of_not_operation
    (other : ∀ op instruction,
      moment.engine.fetch context moment.surroundings.stopRequested ≠ .operation op instruction) :
    moment.Nests context := by
  have idle (op : Op) : moment.performs context op = false := by
    apply eq_false_of_ne_true
    intro performed
    rcases performs_iff.mp performed with ⟨instruction, fetched, -⟩
    exact other op instruction fetched
  refine .level (idle _) (idle _) ?_
  unfold after Engine.step
  cases fetched : moment.engine.fetch context moment.surroundings.stopRequested with
  | operation op instruction => exact absurd fetched (other op instruction)
  | finished => rfl
  | _ => exact moment.engine.wake_calls

theorem nests (honest : moment.surroundings.Honest) : moment.Nests context := by
  cases fetched : moment.engine.fetch context moment.surroundings.stopRequested with
  | operation op instruction =>
      by_cases calling : op = .call
      · subst calling
        exact nests_of_call fetched
      · by_cases returning : op = .ret
        · subst returning
          exact nests_of_ret fetched
        · refine .level ?_ ?_
            ((after_calls_of_operation fetched).trans (effect_calls honest calling returning))
          · rw [performs_of_operation fetched, decide_eq_false calling, Bool.false_and]
          · rw [performs_of_operation fetched, decide_eq_false returning, Bool.false_and]
  | _ => exact nests_of_not_operation (by simp [fetched])

end Step

/-! ## Balanced stretches -/

section Balance

variable {context : Context} {moment : Moment} {stretch rest : List Moment}

theorem Balanced.append (first : Balanced context stretch) (second : Balanced context rest) :
    Balanced context (stretch ++ rest) := by
  induction first with
  | nil => exact second
  | level calls returns _ ih => exact .level calls returns ih
  | pair calls inside returns _ _ ih =>
      rw [List.cons_append, List.append_assoc, List.cons_append]
      exact .pair calls inside returns ih

/-- In a balanced stretch each call has its return. -/
theorem Balanced.matched (balanced : Balanced context stretch) {before since : List Moment}
    {opening : Moment} (split : stretch = before ++ opening :: since)
    (calls : opening.performs context .call = true) : Matched context since := by
  induction balanced generalizing before since with
  | nil => simp at split
  | @level moment rest quiet _ _ ih =>
      cases before with
      | nil =>
          rw [List.nil_append, List.cons.injEq] at split
          rw [split.1, calls] at quiet
          cases quiet
      | cons _ before => exact ih (List.cons.inj split).2
  | @pair first closing inner rest _ inside returns _ ihInner ihRest =>
      cases before with
      | nil => exact ⟨inner, closing, rest, (List.cons.inj split).2.symm, inside, returns⟩
      | cons _ before =>
          have tail := (List.cons.inj split).2
          -- The return that ends the pair is not the call.
          have differs : opening ≠ closing := by
            rintro rfl
            rw [returns_of_calls calls] at returns
            cases returns
          rcases List.append_eq_append_iff.mp tail with ⟨middle, -, tail⟩ | ⟨middle, inner_eq, tail⟩
          · cases middle with
            | nil => exact absurd (List.cons.inj tail).1.symm differs
            | cons _ middle => exact ihRest (List.cons.inj tail).2
          · cases middle with
            | nil => exact absurd (List.cons.inj tail).1 differs
            | cons _ middle =>
                rw [List.cons_append, List.cons.injEq] at tail
                rcases tail with ⟨rfl, rfl⟩
                rcases ihInner inner_eq with ⟨least, found, later, rfl, balanced, back⟩
                exact ⟨least, found, later ++ closing :: rest, by simp, balanced, back⟩

/-- Whether a stretch returns at no point more often than it has called, where so many calls
are open at its beginning. -/
def staysAbove (context : Context) : Nat → List Moment → Bool
  | _, [] => true
  | depth, moment :: rest =>
    if moment.performs context .call then staysAbove context (depth + 1) rest
    else if moment.performs context .ret then
      decide (0 < depth) && staysAbove context (depth - 1) rest
    else staysAbove context depth rest

theorem calls_of_returns (returns : moment.performs context .ret = true) :
    moment.performs context .call = false := by
  apply eq_false_of_ne_true
  intro calls
  rw [returns_of_calls calls] at returns
  cases returns

theorem Balanced.staysAbove_append (balanced : Balanced context stretch) (depth : Nat)
    (rest : List Moment) :
    staysAbove context depth (stretch ++ rest) = staysAbove context depth rest := by
  induction balanced generalizing depth rest with
  | nil => rfl
  | level calls returns _ ih =>
      rw [List.cons_append, staysAbove, calls, returns]
      exact ih depth rest
  | pair calls _ returns _ ihInner ihRest =>
      rw [List.cons_append, List.append_assoc, List.cons_append, staysAbove, calls, if_pos rfl,
        ihInner, staysAbove, calls_of_returns returns, returns]
      simpa using ihRest depth rest

/-- A balanced stretch does not return from what was called before it. -/
theorem Balanced.not_matched (balanced : Balanced context stretch) : ¬ Matched context stretch := by
  rintro ⟨inner, closing, later, rfl, inside, returns⟩
  have above := balanced.staysAbove_append 0 []
  rw [List.append_nil, inside.staysAbove_append] at above
  simp [staysAbove, calls_of_returns returns, returns] at above

/-- A stretch in which the calls that return to the addresses lack their return, the last one
of them first. -/
inductive Nested (context : Context) : List Moment → List Nat → Prop where
  | flat {stretch : List Moment} (balanced : Balanced context stretch) :
      Nested context stretch []
  | within {before inner : List Moment} {opening : Moment} {addresses : List Nat}
      (outer : Nested context before addresses)
      (calls : opening.performs context .call = true) (inside : Balanced context inner) :
      Nested context (before ++ opening :: inner) ((opening.engine.counter + 1) :: addresses)

theorem Nested.append {addresses : List Nat} (nested : Nested context stretch addresses)
    (balanced : Balanced context rest) : Nested context (stretch ++ rest) addresses := by
  cases nested with
  | flat flat => exact .flat (flat.append balanced)
  | within outer calls inside =>
      rw [List.append_assoc, List.cons_append]
      exact .within outer calls (inside.append balanced)

/-- No address is left exactly if each call has its return. -/
theorem Nested.nil_iff {addresses : List Nat} (nested : Nested context stretch addresses) :
    addresses = [] ↔ ∀ before opening since, stretch = before ++ opening :: since →
      opening.performs context .call = true → Matched context since := by
  cases nested with
  | flat balanced => exact ⟨fun _ _ _ _ split calls => balanced.matched split calls, fun _ => rfl⟩
  | within outer calls inside =>
      refine ⟨fun none => absurd none (List.cons_ne_nil _ _), fun matched => ?_⟩
      exact absurd (matched _ _ _ rfl calls) inside.not_matched

/-- A step that leaves the addresses at the bottom alone changes those above them as it
changes the open calls. -/
theorem Nested.step {added base : List Nat} (nested : Nested context stretch added)
    (nests : moment.Nests context) (stacked : moment.frames = added ++ base)
    (kept : base.length ≤ (moment.framesAfter context).length) :
    ∃ more, Nested context (stretch ++ [moment]) more ∧
      moment.framesAfter context = more ++ base := by
  cases nests with
  | level calls returns same =>
      refine ⟨added, nested.append (.level calls returns .nil), ?_⟩
      rw [framesAfter, same]
      exact stacked
  | enters calls room pushed =>
      refine ⟨(moment.engine.counter + 1) :: added, .within nested calls .nil, ?_⟩
      rw [framesAfter, pushed, List.cons_append, ← stacked]
      rfl
  | leaves returns popped _ =>
      rw [stacked] at popped
      cases nested with
      | flat balanced =>
          rw [List.nil_append] at popped
          rw [popped, List.length_cons] at kept
          omega
      | within outer calls inside =>
          refine ⟨_, ?_, (List.cons.inj popped).2.symm⟩
          rw [List.append_assoc, List.cons_append]
          exact outer.append (.pair calls inside returns .nil)

/-- No step takes more than one address off the stack. -/
theorem Nests.length_frames_le (nests : moment.Nests context) :
    moment.frames.length ≤ (moment.framesAfter context).length + 1 := by
  cases nests with
  | level calls returns kept =>
      rw [framesAfter, kept]
      exact Nat.le_succ _
  | enters calls room pushed =>
      rw [framesAfter, pushed]
      exact Nat.le_trans (Nat.le_succ _) (Nat.le_succ _)
  | leaves returns popped _ => exact Nat.le_of_eq (congrArg List.length popped)

end Balance

/-! ## The faults of calls and returns -/

section Faults

variable {context : Context} {moment : Moment} {instruction : Instruction}

theorem status_of_fault {op : Op} {cause : Cause}
    (fetched : moment.engine.fetch context moment.surroundings.stopRequested =
      .operation op instruction)
    (effect : moment.effect context op instruction = .fault moment.engine.wake.tick cause) :
    (moment.after context).status = .faulted ⟨moment.engine.counter, cause⟩ := by
  rw [after_of_operation fetched, effect, Engine.settled_status]
  change Status.faulted ⟨moment.engine.wake.tick.counter, cause⟩ = _
  rw [wake_tick_counter]

theorem not_faulted_of_jump {op : Op} {target : Nat} {fault : Fault}
    (fetched : moment.engine.fetch context moment.surroundings.stopRequested =
      .operation op instruction)
    (jumps : (moment.effect context op instruction).control = .jump target) :
    (moment.after context).status ≠ .faulted fault := by
  have known := Engine.fetch_fetched moment.engine context moment.surroundings.stopRequested
  rw [fetched] at known
  have running : (moment.effect context op instruction).engine.status = .running :=
    Engine.execute_running moment.engine context moment.surroundings known.1 op _
  rw [after_of_operation fetched, Engine.settled_status, jumps]
  change (moment.effect context op instruction).engine.status ≠ _
  rw [running]
  exact Status.noConfusion

/-- A call with a target overflows exactly if there is no room. -/
theorem overflows_iff {target : Nat}
    (fetched : moment.engine.fetch context moment.surroundings.stopRequested =
      .operation .call instruction)
    (named : Operand.leadingTarget? instruction.operands = some target) :
    (moment.after context).status = .faulted ⟨moment.engine.counter, .callStackOverflow⟩ ↔
      ¬ moment.engine.calls.depth < moment.engine.calls.limit := by
  refine ⟨fun faulted room => ?_, fun full => ?_⟩
  · have jumps : (moment.effect context .call instruction).control = .jump target := by
      rw [effect_call_of_room named room]
    exact not_faulted_of_jump fetched jumps faulted
  · exact status_of_fault fetched (effect_call_of_full named full)

/-- A return underflows exactly if there is no address. -/
theorem underflows_iff
    (fetched : moment.engine.fetch context moment.surroundings.stopRequested =
      .operation .ret instruction) :
    (moment.after context).status = .faulted ⟨moment.engine.counter, .callStackUnderflow⟩ ↔
      moment.frames = [] := by
  refine ⟨fun faulted => ?_, fun none => ?_⟩
  · cases stacked : moment.frames with
    | nil => rfl
    | cons target rest =>
        have jumps : (moment.effect context .ret instruction).control = .jump target := by
          rw [effect_ret_of_cons stacked]
        exact absurd faulted (not_faulted_of_jump fetched jumps)
  · exact status_of_fault fetched (effect_ret_of_nil none)

end Faults
end Moment

/-! ## Whole runs -/

/-- What the past of an engine says about its call stack. -/
structure OpenCalls (context : Context) (past : List Moment) (engine : Engine) : Prop where
  limit : engine.calls.limit = context.settings.returnStackSize
  bounded : engine.calls.depth ≤ engine.calls.limit
  nested : Moment.Nested context past engine.calls.frames
  /-- After a call, and until the stack is as short as before, the return address lies upon
  what was there before, and above it are the addresses of those later calls that lack their
  return. -/
  retained : ∀ before opening inner, past = before ++ opening :: inner →
    opening.performs context .call = true →
      (∀ moment ∈ inner, (moment.framesAfter context).length ≠ opening.frames.length) →
        ∃ added, Moment.Nested context inner added ∧
          engine.calls.frames = added ++ (opening.engine.counter + 1) :: opening.frames

namespace OpenCalls

variable {context : Context} {past : List Moment} {engine : Engine}

theorem initial (fresh : engine.calls = .ofLimit context.settings.returnStackSize) :
    OpenCalls context [] engine := by
  refine ⟨?_, ?_, ?_, fun before opening inner split => ?_⟩
  · rw [fresh]
    rfl
  · rw [fresh]
    exact Nat.zero_le _
  · rw [fresh]
    exact .flat .nil
  · simp at split

theorem meeting (calls : OpenCalls context past engine) (occasion : Occasion) :
    OpenCalls context past (engine.meeting occasion) :=
  ⟨calls.limit, calls.bounded, calls.nested, calls.retained⟩

theorem limit_after {moment : Moment} (nests : moment.Nests context)
    (calls : OpenCalls context past moment.engine) :
    (moment.after context).calls.limit = moment.engine.calls.limit ∧
      (moment.after context).calls.depth ≤ (moment.after context).calls.limit := by
  cases nests with
  | level _ _ kept =>
      rw [kept]
      exact ⟨rfl, calls.bounded⟩
  | enters _ room pushed =>
      rw [pushed]
      exact ⟨rfl, room⟩
  | leaves _ popped limit =>
      have depth : moment.engine.calls.depth = (moment.after context).calls.depth + 1 :=
        congrArg List.length popped
      have bounded := calls.bounded
      exact ⟨limit, by omega⟩

theorem length_of_retained {frames added rest : List Nat} {address : Nat}
    (stacked : frames = added ++ address :: rest) :
    frames.length = added.length + (rest.length + 1) := by
  rw [stacked, List.length_append, List.length_cons]

/-- Where the return address is still there, what was there before the call is below it. -/
theorem below_of_retained {frames added rest : List Nat} {address : Nat}
    (stacked : frames = added ++ address :: rest) :
    rest.length < frames.length ∧ rest <:+ frames := by
  have length := length_of_retained stacked
  refine ⟨by omega, added ++ [address], ?_⟩
  rw [stacked, List.append_assoc, List.singleton_append]

theorem retained_step {moment : Moment} (nests : moment.Nests context)
    (calls : OpenCalls context past moment.engine) {before inner : List Moment}
    {opening : Moment} (split : past ++ [moment] = before ++ opening :: inner)
    (performs : opening.performs context .call = true)
    (deeper : ∀ moment ∈ inner, (moment.framesAfter context).length ≠ opening.frames.length) :
    ∃ added, Moment.Nested context inner added ∧
      moment.framesAfter context =
        added ++ (opening.engine.counter + 1) :: opening.frames := by
  rcases inner.eq_nil_or_concat' with rfl | ⟨earlier, last, rfl⟩
  · -- The step is the call itself.
    rcases List.append_singleton_inj.mp split with ⟨-, rfl⟩
    refine ⟨[], .flat .nil, ?_⟩
    cases nests with
    | level quiet _ _ =>
        rw [performs] at quiet
        cases quiet
    | enters _ _ pushed =>
        rw [Moment.framesAfter, pushed]
        rfl
    | leaves returns _ _ =>
        rw [Moment.returns_of_calls performs] at returns
        cases returns
  · rw [← List.cons_append, ← List.append_assoc] at split
    rcases List.append_singleton_inj.mp split with ⟨same, rfl⟩
    rcases calls.retained before opening earlier same performs fun other member =>
      deeper other (List.mem_append_left _ member) with ⟨added, nested, stacked⟩
    refine nested.step nests stacked ?_
    have longer := nests.length_frames_le
    have differs := deeper moment (List.mem_append_right _ List.mem_cons_self)
    have length : moment.frames.length = _ := length_of_retained stacked
    rw [List.length_cons]
    omega

/-- The step that takes the stack back to the length that it had before a call. -/
theorem closing_step {closing : Moment} (nests : closing.Nests context)
    (calls : OpenCalls context past closing.engine) {before inner : List Moment}
    {opening : Moment} (split : past = before ++ opening :: inner)
    (performs : opening.performs context .call = true)
    (deeper : ∀ moment ∈ inner, (moment.framesAfter context).length ≠ opening.frames.length)
    (level : (closing.framesAfter context).length = opening.frames.length) :
    closing.performs context .ret = true ∧ Moment.Balanced context inner ∧
      (closing.after context).counter = opening.engine.counter + 1 ∧
        closing.framesAfter context = opening.frames := by
  rcases calls.retained before opening inner split performs deeper with ⟨added, nested, stacked⟩
  change closing.frames = _ at stacked
  have length := length_of_retained stacked
  cases nests with
  | level _ _ kept =>
      rw [Moment.framesAfter, kept] at level
      change closing.frames.length = _ at level
      omega
  | enters _ _ pushed =>
      rw [Moment.framesAfter, pushed] at level
      change closing.frames.length + 1 = _ at level
      omega
  | leaves returns popped _ =>
      have shorter := congrArg List.length popped
      rw [List.length_cons] at shorter
      have none : added = [] := List.length_eq_zero_iff.mp (by omega)
      subst none
      rw [stacked, List.nil_append, List.cons.injEq] at popped
      cases nested with
      | flat balanced => exact ⟨returns, balanced, popped.1.symm, popped.2.symm⟩

theorem step {surroundings : Surroundings} (calls : OpenCalls context past engine)
    (honest : surroundings.Honest) :
    OpenCalls context (past ++ [⟨engine, surroundings⟩])
      (engine.step context surroundings).1 := by
  let moment : Moment := ⟨engine, surroundings⟩
  have nests : moment.Nests context := Moment.nests honest
  have limits := limit_after nests calls
  refine ⟨limits.1.trans calls.limit, limits.2, ?_, fun before opening inner split performs deeper =>
    retained_step nests calls split performs deeper⟩
  rcases calls.nested.step nests (List.append_nil _).symm (Nat.zero_le _) with ⟨more, nested, stacked⟩
  rw [List.append_nil] at stacked
  change Moment.Nested context (past ++ [moment]) (moment.framesAfter context)
  rw [stacked]
  exact nested

/-- The past and the call stack agree all the time. -/
theorem invariant (context : Context) : Engine.Invariant context (OpenCalls context) where
  meeting occasion calls := calls.meeting occasion
  step honest calls := calls.step honest

end OpenCalls

namespace Engine

/-- How calls and returns belong together in the steps of a run. -/
structure Brackets (context : Context) (course : List Moment) : Prop where
  /-- After a call, until the stack is again as long as it was before, it is longer, and what
  was there before lies at its bottom. -/
  inside : ∀ before opening inner later, course = before ++ opening :: (inner ++ later) →
    opening.performs context .call = true →
      (∀ moment ∈ inner, (moment.framesAfter context).length ≠ opening.frames.length) →
        ∀ moment ∈ opening :: inner,
          opening.frames.length < (moment.framesAfter context).length ∧
            opening.frames <:+ moment.framesAfter context
  /-- The first step after which it is as long as before is the return that belongs to the
  call.  It leads to the instruction behind the call and leaves the stack as it was. -/
  closes : ∀ before opening inner closing later,
    course = before ++ opening :: (inner ++ closing :: later) →
      opening.performs context .call = true →
        (∀ moment ∈ inner, (moment.framesAfter context).length ≠ opening.frames.length) →
          (closing.framesAfter context).length = opening.frames.length →
            closing.performs context .ret = true ∧ Moment.Balanced context inner ∧
              (closing.after context).counter = opening.engine.counter + 1 ∧
                closing.framesAfter context = opening.frames
  overflow : ∀ now ∈ course, ∀ instruction target,
    now.engine.fetch context now.surroundings.stopRequested = .operation .call instruction →
      Operand.leadingTarget? instruction.operands = some target →
        ((now.after context).status = .faulted ⟨now.engine.counter, .callStackOverflow⟩ ↔
          now.engine.calls.depth = context.settings.returnStackSize)
  /-- A call without a target is refused, whatever the stack. -/
  refused : ∀ now ∈ course, ∀ instruction,
    now.engine.fetch context now.surroundings.stopRequested = .operation .call instruction →
      Operand.leadingTarget? instruction.operands = none →
        (now.after context).status =
          .faulted ⟨now.engine.counter, .invalidOperand "CALL expects a target"⟩
  underflow : ∀ earlier now later, course = earlier ++ now :: later → ∀ instruction,
    now.engine.fetch context now.surroundings.stopRequested = .operation .ret instruction →
      ((now.after context).status = .faulted ⟨now.engine.counter, .callStackUnderflow⟩ ↔
        ∀ before opening since, earlier = before ++ opening :: since →
          opening.performs context .call = true → Moment.Matched context since)

/-- **Calls and returns match like brackets.**  An engine is started anywhere in any program
and is moved any number of times, whatever others do to the stores.  A call that succeeds is
closed by the first step after which the call stack is as long as before.  This is the return
that belongs to it, it goes to the instruction behind the call, and the stack is then what it
was.  A call to a target overflows exactly if the stack has reached its limit, and a return
underflows exactly if each call before it has its return. -/
theorem course_brackets (context : Context) (thread : ThreadId) (entry : Nat) (stores : Stores)
    (faults : FaultSource) (occasions : List Occasion)
    (honest : ∀ occasion ∈ occasions, occasion.surroundings.Honest) :
    Brackets context
      ((create context.settings thread entry stores faults).course context occasions) := by
  have start : OpenCalls context [] (create context.settings thread entry stores faults) :=
    .initial rfl
  have known {earlier later : List Moment} {now : Moment}
      (split : (create context.settings thread entry stores faults).course context occasions =
        earlier ++ now :: later) :
      OpenCalls context earlier now.engine ∧ now.Nests context := by
    rcases (OpenCalls.invariant context).before start honest split with ⟨calls, fair⟩
    exact ⟨calls, Moment.nests fair⟩
  refine ⟨?_, ?_, ?_, ?_, ?_⟩
  · intro before opening inner later split performs deeper moment member
    rcases List.mem_cons.mp member with rfl | member
    · rcases known split with ⟨calls, nests⟩
      have sole : before ++ [moment] = before ++ moment :: [] := rfl
      rcases OpenCalls.retained_step nests calls sole performs fun _ listed =>
        absurd listed List.not_mem_nil with ⟨added, -, stacked⟩
      exact OpenCalls.below_of_retained stacked
    · rcases List.append_of_mem member with ⟨left, right, rfl⟩
      have rearranged : before ++ opening :: (left ++ moment :: right ++ later) =
          (before ++ opening :: left) ++ moment :: (right ++ later) := by
        simp
      rcases known (split.trans rearranged) with ⟨calls, nests⟩
      have sooner : before ++ opening :: left ++ [moment] =
          before ++ opening :: (left ++ [moment]) := by
        simp
      rcases OpenCalls.retained_step nests calls sooner performs fun other listed =>
        deeper other (by grind) with ⟨added, -, stacked⟩
      exact OpenCalls.below_of_retained stacked
  · intro before opening inner closing later split performs deeper level
    have rearranged : before ++ opening :: (inner ++ closing :: later) =
        (before ++ opening :: inner) ++ closing :: later := by
      simp
    rcases known (split.trans rearranged) with ⟨calls, nests⟩
    exact OpenCalls.closing_step nests calls rfl performs deeper level
  · intro now member instruction target fetched named
    rcases List.append_of_mem member with ⟨earlier, later, split⟩
    have calls := (known split).1
    rw [Moment.overflows_iff fetched named, ← calls.limit]
    have bounded := calls.bounded
    omega
  · intro now member instruction fetched unnamed
    exact Moment.status_of_fault fetched (Moment.effect_call_of_unnamed unnamed)
  · intro earlier now later split instruction fetched
    rw [Moment.underflows_iff fetched]
    exact (known split).1.nested.nil_iff

/-- A function that calls another one. -/
def errand : Context where
  program := ⟨[⟨.ofOp .call [.target 2], 1⟩, ⟨.ofOp .halt [], 2⟩, ⟨.ofOp .call [.target 4], 3⟩,
    ⟨.ofOp .ret [], 4⟩, ⟨.ofOp .ret [], 5⟩]⟩
  settings := .ofOverrides { returnStackSize := some 2 }

/-- The moments of its run. -/
def errandMoment : Nat → Moment
  | 0 => ⟨create errand.settings .initial 0 (.empty errand.settings) (.ofSeed 1),
      .alone fun _ => .unset⟩
  | earlier + 1 => ⟨(errandMoment earlier).after errand, .alone fun _ => .unset⟩

/-- The inner call fills the stack and is closed first. -/
theorem errand_brackets :
    (Surroundings.alone fun _ => .unset).Honest ∧
      (errandMoment 0).performs errand .call = true ∧
        (errandMoment 1).performs errand .call = true ∧
          (errandMoment 3).performs errand .ret = true ∧
            Moment.Balanced errand [errandMoment 1, errandMoment 2] ∧
              ((errandMoment 3).after errand).counter = 1 ∧
                (errandMoment 3).framesAfter errand = [] := by
  have honest : (Surroundings.alone fun _ => .unset).Honest := Surroundings.alone_honest _
  have brackets := course_brackets errand .initial 0 (.empty errand.settings) (.ofSeed 1)
    (List.replicate 5 ⟨id, .alone fun _ => .unset⟩)
    (fun occasion member => List.eq_of_mem_replicate member ▸ honest)
  have outer : (errandMoment 0).performs errand .call = true := by decide +kernel
  have deeper : ∀ moment ∈ [errandMoment 1, errandMoment 2],
      (moment.framesAfter errand).length ≠ (errandMoment 0).frames.length := by
    rw [List.forall_mem_cons, List.forall_mem_singleton]
    decide +kernel
  rcases brackets.closes [] (errandMoment 0) [errandMoment 1, errandMoment 2] (errandMoment 3)
    [errandMoment 4] rfl outer deeper (by decide +kernel) with ⟨returns, balanced, counter, frames⟩
  exact ⟨honest, outer, by decide +kernel, returns, balanced, counter, frames⟩

/-- A call that does not say where to, and no room for a return address. -/
def aimless : Context where
  program := ⟨[⟨.ofOp .call [], 1⟩]⟩
  settings := .ofOverrides { returnStackSize := some 0 }

/-- Not every call at the limit overflows. -/
theorem aimless_not_overflow :
    ¬ ∀ (context : Context) (thread : ThreadId) (entry : Nat) (stores : Stores)
        (faults : FaultSource) (occasions : List Occasion),
      (∀ occasion ∈ occasions, occasion.surroundings.Honest) →
        ∀ now ∈ (create context.settings thread entry stores faults).course context occasions,
          ∀ instruction,
            now.engine.fetch context now.surroundings.stopRequested =
                .operation .call instruction →
              ((now.after context).status =
                  .faulted ⟨now.engine.counter, .callStackOverflow⟩ ↔
                now.engine.calls.depth = context.settings.returnStackSize) := by
  intro overflow
  have honest : (Surroundings.alone fun _ => .unset).Honest := Surroundings.alone_honest _
  let start := create aimless.settings .initial 0 (.empty aimless.settings) (.ofSeed 1)
  let now : Moment := ⟨start, .alone fun _ => .unset⟩
  have overflows := overflow aimless .initial 0 (.empty aimless.settings) (.ofSeed 1)
    [⟨id, .alone fun _ => .unset⟩] (List.forall_mem_singleton.mpr honest) now
    List.mem_cons_self (.ofOp .call []) (by decide +kernel)
  have refused : (now.after aimless).status ≠ .faulted ⟨0, .callStackOverflow⟩ := by
    decide +kernel
  exact refused (overflows.mpr rfl)

end Engine
end CommandMachine
