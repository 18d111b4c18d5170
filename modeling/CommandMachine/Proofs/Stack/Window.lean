import CommandMachine.Proofs.Capacity
import CommandMachine.Proofs.Stack.Repetition
import Mathlib.Data.List.DropRight
namespace CommandMachine
namespace EvaluationStack

/-!
# The evaluation stack as a window

Values leave an evaluation stack in five ways: a push may push the oldest one out, a pop
takes the newest one, and compacting, dropping repeated values and clearing remove some
without handing them over.  The first and the third are counted as evicted, the fourth
tells its count, and of the last nothing is told.  All the same no value is lost without
trace: whatever was pushed is still there or has left in one of these ways.  If values
are only pushed, then what was pushed out and what is there make up the whole sequence,
and what is there is its end.
-/

/-! ## Requests -/

/-- What can be asked of an evaluation stack. -/
inductive Request where
  | push (value : Value)
  | pop
  | compact (window : Nat)
  | dedup
  | clear
deriving DecidableEq

/-- What is returned. -/
inductive Reply where
  /-- The value that was pushed out, if one was. -/
  | displaced (value : Option Value)
  /-- The value that was taken, if there was one. -/
  | taken (value : Option Value)
  /-- How many values were cut off. -/
  | cut (count : Nat)
  /-- How many values were dropped as repeated ones. -/
  | repeated (count : Nat)
  | cleared
deriving DecidableEq

def serve (stack : EvaluationStack) : Request → EvaluationStack × Reply
  | .push value => (stack.push value, .displaced stack.overflow?)
  | .pop =>
    match stack.pop? with
    | some (value, rest) => (rest, .taken (some value))
    | none => (stack, .taken none)
  | .compact window => (stack.compact window, .cut (stack.excess window))
  | .dedup => (stack.dedup, .repeated stack.repetitions)
  | .clear => (stack.clear, .cleared)

/-- Serves the requests one after the other. -/
def serveAll (stack : EvaluationStack) : List Request → EvaluationStack × List Reply
  | [] => (stack, [])
  | request :: later =>
    let (next, reply) := stack.serve request
    let (last, replies) := next.serveAll later
    (last, reply :: replies)

def Request.isPush : Request → Bool
  | .push _ => true
  | _ => false

namespace Reply

def displaced? : Reply → Option Value
  | .displaced value => value
  | _ => none

/-- Whether a pop has succeeded. -/
def isTaken : Reply → Bool
  | .taken (some _) => true
  | _ => false

def repetitions : Reply → Nat
  | .repeated count => count
  | _ => 0

end Reply

/-- How many values were dropped as repeated ones in all. -/
def repetitionsIn (replies : List Reply) : Nat :=
  replies.foldr (fun reply total => reply.repetitions + total) 0

/-- How many values a request to clear the stack drops. -/
def cleared (stack : EvaluationStack) : Request → Nat
  | .clear => stack.depth
  | _ => 0

/-- How many values all requests to clear the stack drop. -/
def clearedAll (stack : EvaluationStack) : List Request → Nat
  | [] => 0
  | request :: later => stack.cleared request + (stack.serve request).1.clearedAll later

variable {stack : EvaluationStack}

/-! ## One request -/

theorem capacity_serve (stack : EvaluationStack) (request : Request) :
    (stack.serve request).1.capacity = stack.capacity := by
  cases request with
  | push value => exact stack.push_capacity value
  | pop =>
      unfold serve pop?
      cases stack.items <;> rfl
  | compact window => rfl
  | dedup => rfl
  | clear => rfl

theorem Sized.serve (sized : stack.Sized) (request : Request) : (stack.serve request).1.Sized := by
  have bound := sized.depth_le
  refine ⟨(stack.capacity_serve request).symm ▸ sized.positive, ?_⟩
  rw [capacity_serve]
  cases request with
  | push value => exact stack.push_capacity value ▸ (sized.push value).depth_le
  | pop =>
      unfold EvaluationStack.serve
      cases top : stack.items with
      | nil =>
          rw [pop?_of_nil top]
          exact bound
      | cons value rest =>
          rw [pop?_of_cons top]
          rw [depth, top] at bound
          exact Nat.le_of_succ_le bound
  | compact window => exact (sized.compact window).depth_le
  | dedup => exact Nat.le_trans stack.depth_dedup_le bound
  | clear => exact Nat.zero_le _

theorem Sized.depth_push (sized : stack.Sized) (value : Value) :
    (stack.push value).depth = min (stack.depth + 1) stack.capacity := by
  have positive := sized.positive
  rw [depth, sized.push_items, List.length_cons, List.length_take, ← depth]
  omega

/-- A push loses nothing: what it pushes out and what is there afterwards is what was
there before, and the new value. -/
theorem Sized.overflow?_append (sized : stack.Sized) (value : Value) :
    stack.overflow?.toList ++ (stack.push value).toList = stack.toList ++ [value] := by
  have positive := sized.positive
  unfold overflow? EvaluationStack.push isFull depth toList
  by_cases full : stack.items.length = stack.capacity
  · -- A full stack holds a value, since it has room for one.
    have held : stack.items ≠ [] := List.ne_nil_of_length_pos (full ▸ positive)
    have apart := List.dropLast_append_getLast held
    simp only [beq_iff_eq, full, if_true, List.getLast?_eq_some_getLast held, Option.toList_some]
    nth_rewrite 3 [← apart]
    simp
  · simp [full]

theorem Sized.evicted_push (sized : stack.Sized) (value : Value) :
    (stack.push value).evicted = stack.evicted + stack.overflow?.toList.length := by
  have lengths := congrArg List.length (sized.overflow?_append value)
  have depth := sized.depth_push value
  have bound := sized.depth_le
  simp only [List.length_append, length_toList, List.length_singleton] at lengths
  unfold EvaluationStack.push isFull at *
  by_cases full : stack.depth = stack.capacity
  · simp only [full, beq_self_eq_true, if_true] at lengths depth ⊢
    omega
  · simp only [beq_iff_eq, if_neg full] at lengths depth ⊢
    omega

theorem depth_compact_add (stack : EvaluationStack) (window : Nat) :
    (stack.compact window).depth + stack.excess window = stack.depth := by
  have kept : (stack.compact window).depth = min (min window stack.capacity) stack.depth :=
    List.length_take
  rw [kept, excess]
  omega

/-- Each value that a request adds or removes is accounted for. -/
theorem Sized.serve_conserves (sized : stack.Sized) (request : Request) :
    stack.depth + stack.evicted + [request].countP Request.isPush =
      (stack.serve request).1.depth + [(stack.serve request).2].countP Reply.isTaken +
        (stack.serve request).1.evicted + (stack.serve request).2.repetitions +
          stack.cleared request := by
  cases request with
  | push value =>
      have evicted := sized.evicted_push value
      have lengths := congrArg List.length (sized.overflow?_append value)
      simp only [List.length_append, length_toList, List.length_singleton] at lengths
      change stack.depth + stack.evicted + 1 =
        (stack.push value).depth + 0 + (stack.push value).evicted + 0 + 0
      omega
  | pop =>
      cases top : stack.items with
      | nil =>
          simp only [EvaluationStack.serve, pop?_of_nil top]
          rfl
      | cons value rest =>
          simp only [EvaluationStack.serve, pop?_of_cons top]
          change stack.items.length + stack.evicted + 0 = rest.length + 1 + stack.evicted + 0 + 0
          rw [top, List.length_cons]
  | compact window =>
      have fewer := stack.depth_compact_add window
      change stack.depth + stack.evicted + 0 =
        (stack.compact window).depth + 0 + (stack.evicted + stack.excess window) + 0 + 0
      omega
  | dedup =>
      have fewer := stack.depth_dedup_le
      change stack.depth + stack.evicted + 0 =
        stack.dedup.depth + 0 + stack.evicted + (stack.depth - stack.dedup.depth) + 0
      omega
  | clear =>
      change stack.depth + stack.evicted + 0 = 0 + 0 + stack.evicted + 0 + stack.depth
      omega

/-! ## All requests -/

theorem capacity_serveAll (stack : EvaluationStack) (requests : List Request) :
    (stack.serveAll requests).1.capacity = stack.capacity := by
  induction requests generalizing stack with
  | nil => rfl
  | cons request later ih => exact (ih _).trans (stack.capacity_serve request)

theorem Sized.serveAll (sized : stack.Sized) (requests : List Request) :
    (stack.serveAll requests).1.Sized := by
  induction requests generalizing stack with
  | nil => exact sized
  | cons request later ih => exact ih (sized.serve request)

theorem Sized.serveAll_conserves (sized : stack.Sized) (requests : List Request) :
    stack.depth + stack.evicted + requests.countP Request.isPush =
      (stack.serveAll requests).1.depth + (stack.serveAll requests).2.countP Reply.isTaken +
        (stack.serveAll requests).1.evicted + repetitionsIn (stack.serveAll requests).2 +
          stack.clearedAll requests := by
  induction requests generalizing stack with
  | nil => rfl
  | cons request later ih =>
      have now := sized.serve_conserves request
      have rest := ih (sized.serve request)
      simp only [EvaluationStack.serveAll, clearedAll, repetitionsIn, List.foldr_cons,
        List.countP_cons, List.countP_nil, Nat.zero_add] at now rest ⊢
      omega

/-! ## Nothing but pushes -/

/-- Pushes one value after the other. -/
def pushAll (stack : EvaluationStack) (values : List Value) : EvaluationStack × List Reply :=
  stack.serveAll (values.map .push)

/-- The values that were pushed out, in their order. -/
def displacedIn (replies : List Reply) : List Value :=
  replies.filterMap Reply.displaced?

theorem pushAll_cons (stack : EvaluationStack) (value : Value) (later : List Value) :
    stack.pushAll (value :: later) = (((stack.push value).pushAll later).1,
      .displaced stack.overflow? :: ((stack.push value).pushAll later).2) :=
  rfl

theorem displacedIn_cons (value : Option Value) (replies : List Reply) :
    displacedIn (.displaced value :: replies) = value.toList ++ displacedIn replies := by
  cases value <;> rfl

theorem Sized.displacedIn_append (sized : stack.Sized) (values : List Value) :
    displacedIn (stack.pushAll values).2 ++ (stack.pushAll values).1.toList =
      stack.toList ++ values := by
  induction values generalizing stack with
  | nil => exact (List.append_nil _).symm
  | cons value later ih =>
      calc displacedIn (stack.pushAll (value :: later)).2 ++
            (stack.pushAll (value :: later)).1.toList
          = stack.overflow?.toList ++ (displacedIn ((stack.push value).pushAll later).2 ++
              ((stack.push value).pushAll later).1.toList) := by
            rw [pushAll_cons, displacedIn_cons, List.append_assoc]
        _ = stack.overflow?.toList ++ ((stack.push value).toList ++ later) := by
            rw [ih (sized.push value)]
        _ = stack.toList ++ [value] ++ later := by
            rw [← List.append_assoc, sized.overflow?_append]
        _ = stack.toList ++ value :: later := by
            rw [List.append_assoc, List.singleton_append]

theorem Sized.evicted_pushAll (sized : stack.Sized) (values : List Value) :
    (stack.pushAll values).1.evicted =
      stack.evicted + (displacedIn (stack.pushAll values).2).length := by
  induction values generalizing stack with
  | nil => rfl
  | cons value later ih =>
      rw [pushAll_cons, displacedIn_cons, List.length_append, ih (sized.push value),
        sized.evicted_push, Nat.add_assoc]

theorem Sized.depth_pushAll (sized : stack.Sized) (values : List Value) :
    (stack.pushAll values).1.depth = min (stack.depth + values.length) stack.capacity := by
  induction values generalizing stack with
  | nil => exact (Nat.min_eq_left sized.depth_le).symm
  | cons value later ih =>
      rw [pushAll_cons, ih (sized.push value), sized.depth_push, push_capacity, List.length_cons]
      omega

/-- What pushing values one after the other makes of a stack. -/
structure Slides (stack : EvaluationStack) (values : List Value) (last : EvaluationStack)
    (displaced : List Value) : Prop where
  /-- What was pushed out, followed by what is there, is the whole sequence. -/
  lossless : displaced ++ last.toList = stack.toList ++ values
  /-- What is there is the end of the sequence, as far as there is room. -/
  recent : last.toList = (stack.toList ++ values).rtake stack.capacity
  evicted : last.evicted = stack.evicted + (stack.depth + values.length - stack.capacity)

theorem Sized.slides (sized : stack.Sized) (values : List Value) :
    stack.Slides values (stack.pushAll values).1 (displacedIn (stack.pushAll values).2) := by
  have lossless := sized.displacedIn_append values
  have depth := sized.depth_pushAll values
  have lengths := congrArg List.length lossless
  simp only [List.length_append, length_toList] at lengths
  refine ⟨lossless, ?_, ?_⟩
  · have suffix : (stack.pushAll values).1.toList <:+ stack.toList ++ values :=
      ⟨_, lossless⟩
    rw [List.suffix_iff_eq_drop.mp suffix, List.rtake, length_toList, depth,
      List.length_append, length_toList]
    congr 1
    omega
  · rw [sized.evicted_pushAll]
    omega

/-- What is known of a stack after requests to one that began empty. -/
structure Conserves (start : EvaluationStack) (requests : List Request) (last : EvaluationStack)
    (replies : List Reply) : Prop where
  capacity : last.capacity = start.capacity
  /-- The stack has room for a value, and never holds more than it has room for. -/
  sized : last.Sized
  /-- Every value that was pushed is there, was taken, was evicted, was dropped as a repeated
  one, or was there when the stack was cleared. -/
  accounted : requests.countP Request.isPush =
    last.depth + replies.countP Reply.isTaken + last.evicted + repetitionsIn replies +
      start.clearedAll requests

/-- **A window without loss.**  However many values are pushed on a stack, those that are
pushed out and those that remain are the old content and the new values in their order; what
remains is the end of that sequence, and what is missing is counted as evicted.  And whatever
is asked of a new stack, it never holds more than its capacity, and each value that was ever
pushed is accounted for. -/
theorem serves_without_loss :
    (∀ stack : EvaluationStack, stack.Sized → ∀ values,
      stack.Slides values (stack.pushAll values).1 (displacedIn (stack.pushAll values).2)) ∧
    ∀ capacity requests, Conserves (ofCapacity capacity) requests
      ((ofCapacity capacity).serveAll requests).1 ((ofCapacity capacity).serveAll requests).2 := by
  refine ⟨fun stack sized values => sized.slides values, fun capacity requests => ?_⟩
  have sized := sized_ofCapacity capacity
  have conserved := sized.serveAll_conserves requests
  have fresh : (ofCapacity capacity).depth + (ofCapacity capacity).evicted = 0 := rfl
  rw [fresh, Nat.zero_add] at conserved
  exact ⟨capacity_serveAll _ requests, sized.serveAll requests, conserved⟩

/-- A stack with room for two values that holds two and has lost five. -/
def crowded : EvaluationStack :=
  ⟨[.integer 2, .integer 1], 2, 5⟩

/-- Three pushes push out the old values and the first new one.  A stack that was asked to
have no room at all keeps one value, and loses values in all five ways. -/
theorem crowded_without_loss :
    let requests : List Request := [.push (.integer 1), .push (.text "a"), .pop, .pop,
      .push (.integer 3), .compact 0, .dedup, .push (.integer 4), .clear, .push (.integer 5)]
    crowded.Sized ∧
    crowded.Slides [.integer 3, .text "b", .integer 4] ⟨[.integer 4, .text "b"], 2, 8⟩
      [.integer 1, .integer 2, .integer 3] ∧
    Conserves (ofCapacity 0) requests ⟨[.integer 5], 1, 2⟩ [.displaced none,
      .displaced (some (.integer 1)), .taken (some (.text "a")), .taken none, .displaced none,
      .cut 1, .repeated 0, .displaced none, .cleared, .displaced none] := by
  have sized : crowded.Sized := ⟨by decide, by decide⟩
  exact ⟨sized, serves_without_loss.1 crowded sized [.integer 3, .text "b", .integer 4],
    serves_without_loss.2 0 _⟩

end EvaluationStack
end CommandMachine
