import CommandMachine.Proofs.Requests
namespace CommandMachine

/-!
# Which registers a sweep takes away

A sweep looks at the registers as they are and takes away those that hold nothing.  As no
register is ever made to hold nothing again, these are in a whole run the registers that were
created by an operation which only needs a register to be there, and that have not been
written since.

The time of a creation is the position of the moment in the past of the engine.
-/

open RegisterFile (Operation)

/-! ## The history of registers -/

/-- The register was created at the place in the past and has been there ever since.  It holds
nothing if and only if it has not been written. -/
structure Born (context : Context) (past : List Moment) (register : Register) (place : Nat) :
    Prop where
  creation : ∃ moment, past[place]? = some moment ∧
    moment.registers.contains register.name = false ∧
      (moment.registerRequest? context = some (.allocate register.name) ∨
        moment.Assigns context register.name)
  present : ∀ moment ∈ past.drop (place + 1), moment.registers.contains register.name = true
  unwritten : register.value = .unset ↔
    ∀ moment ∈ past.drop place, ¬ moment.Assigns context register.name

namespace Born

variable {context : Context} {past : List Moment} {register : Register} {place : Nat}
  {moment : Moment}

theorem lt_length (born : Born context past register place) : place < past.length := by
  rcases born.creation with ⟨moment, found, -⟩
  exact (List.getElem?_eq_some_iff.mp found).1

/-- One step later, with a value that fits to what the step does. -/
theorem later (born : Born context past register place)
    (held : moment.registers.contains register.name = true) {value : Value}
    (fits : value = .unset ↔ register.value = .unset ∧ ¬ moment.Assigns context register.name) :
    Born context (past ++ [moment]) { register with value } place := by
  have inside := born.lt_length
  refine ⟨?_, ?_, ?_⟩
  · rcases born.creation with ⟨first, found, rest⟩
    exact ⟨first, by rw [List.getElem?_append_left inside, found], rest⟩
  · rw [List.drop_append_of_le_length inside]
    intro other member
    rcases List.mem_append.mp member with old | new
    · exact born.present other old
    · rw [List.mem_singleton.mp new]
      exact held
  · rw [List.drop_append_of_le_length (Nat.le_of_lt inside), fits, born.unwritten,
      List.forall_mem_append, List.forall_mem_singleton]

theorem untouched (born : Born context past register place)
    (held : moment.registers.contains register.name = true)
    (idle : ¬ moment.Assigns context register.name) :
    Born context (past ++ [moment]) register place :=
  born.later held (and_iff_left idle).symm

theorem assigned (born : Born context past register place)
    (held : moment.registers.contains register.name = true) {value : Value}
    (assigns : moment.Assigns context register.name) (written : value ≠ .unset) :
    Born context (past ++ [moment]) { register with value } place := by
  apply born.later held
  exact ⟨fun unset => absurd unset written, fun idle => absurd assigns idle.2⟩

/-- A register that the last step has created. -/
theorem newborn {id : Nat} {name : String} {value : Value}
    (missing : moment.registers.contains name = false)
    (made : (moment.registerRequest? context = some (.allocate name) ∧ value = .unset) ∨
      (moment.registerRequest? context = some (.write name value) ∧ value ≠ .unset)) :
    Born context (past ++ [moment]) ⟨id, name, value⟩ past.length := by
  refine ⟨⟨moment, by simp, missing, ?_⟩, by simp, ?_⟩
  · rcases made with ⟨allocates, -⟩ | ⟨writes, -⟩
    · exact Or.inl allocates
    · exact Or.inr ⟨value, writes⟩
  · rw [List.drop_left, List.forall_mem_singleton]
    rcases made with ⟨allocates, unset⟩ | ⟨writes, written⟩
    · refine ⟨fun _ => ?_, fun _ => unset⟩
      rintro ⟨other, assigns⟩
      rw [allocates] at assigns
      cases assigns
    · exact ⟨fun unset => absurd unset written, fun idle => absurd ⟨value, writes⟩ idle⟩

end Born

/-- Each of the registers has a place of creation, and they stand in the order of these. -/
def Dated (context : Context) (past : List Moment) (entries : List Register) : Prop :=
  ∃ rows : List (Register × Nat), rows.map Prod.fst = entries ∧
    (∀ row ∈ rows, Born context past row.1 row.2) ∧
      rows.Pairwise fun earlier later => earlier.2 < later.2

namespace Dated

variable {context : Context} {past : List Moment} {entries : List Register} {moment : Moment}

theorem filter (dated : Dated context past entries) (keep : Register → Bool) :
    Dated context past (entries.filter keep) := by
  rcases dated with ⟨rows, rfl, born, increasing⟩
  refine ⟨rows.filter fun row => keep row.1, ?_, fun row member => ?_, increasing.filter _⟩
  · rw [List.filter_map]
    rfl
  · exact born row (List.mem_of_mem_filter member)

/-- Registers may change one by one as they keep their places. -/
theorem map (dated : Dated context past entries) {change : Register → Register}
    (later : ∀ register ∈ entries, ∀ place, Born context past register place →
      Born context (past ++ [moment]) (change register) place) :
    Dated context (past ++ [moment]) (entries.map change) := by
  rcases dated with ⟨rows, rfl, born, increasing⟩
  refine ⟨rows.map fun row => (change row.1, row.2), ?_, fun row member => ?_, ?_⟩
  · rw [List.map_map, List.map_map]
    rfl
  · rcases List.mem_map.mp member with ⟨old, listed, rfl⟩
    exact later old.1 (List.mem_map_of_mem listed) old.2 (born old listed)
  · exact List.pairwise_map.mpr increasing

/-- A register that was created by the last step comes last. -/
theorem grow (dated : Dated context past entries) {change : Register → Register}
    (later : ∀ register ∈ entries, ∀ place, Born context past register place →
      Born context (past ++ [moment]) (change register) place)
    {fresh : Register} (born : Born context (past ++ [moment]) fresh past.length) :
    Dated context (past ++ [moment]) (entries.map change ++ [fresh]) := by
  rcases dated with ⟨rows, rfl, known, increasing⟩
  refine ⟨(rows.map fun row => (change row.1, row.2)) ++ [(fresh, past.length)], ?_,
    fun row member => ?_, ?_⟩
  · rw [List.map_append, List.map_map, List.map_map]
    rfl
  · rcases List.mem_append.mp member with old | new
    · rcases List.mem_map.mp old with ⟨row, listed, rfl⟩
      exact later row.1 (List.mem_map_of_mem listed) row.2 (known row listed)
    · rw [List.mem_singleton.mp new]
      exact born
  · refine List.pairwise_append.mpr ⟨List.pairwise_map.mpr increasing,
      List.pairwise_singleton _ _, fun row member last new => ?_⟩
    rcases List.mem_map.mp member with ⟨old, listed, rfl⟩
    rw [List.mem_singleton.mp new]
    exact (known old listed).lt_length

/-- Registers that a step neither writes nor creates. -/
theorem untouched (dated : Dated context past moment.registers.entries)
    (idle : ∀ name, ¬ moment.Assigns context name) :
    Dated context (past ++ [moment]) moment.registers.entries := by
  have later : Dated context (past ++ [moment]) (moment.registers.entries.map id) :=
    dated.map fun register member place born =>
      born.untouched (RegisterFile.contains_of_mem member) (idle register.name)
  rwa [List.map_id] at later

theorem allocate (dated : Dated context past moment.registers.entries) {name : String}
    (requested : moment.registerRequest? context = some (.allocate name)) :
    Dated context (past ++ [moment]) (moment.registers.allocate name).entries := by
  have idle (other : String) : ¬ moment.Assigns context other := by
    rintro ⟨value, assigns⟩
    rw [requested] at assigns
    cases assigns
  cases known : moment.registers.contains name with
  | true =>
      rw [RegisterFile.allocate_of_contains known]
      exact dated.untouched idle
  | false =>
      rw [RegisterFile.entries_allocate_of_missing known, ← List.map_id moment.registers.entries]
      refine dated.grow ?_ (.newborn known (Or.inl ⟨requested, rfl⟩))
      exact fun register member place born =>
        born.untouched (RegisterFile.contains_of_mem member) (idle register.name)

theorem write (dated : Dated context past moment.registers.entries) {name : String}
    {value : Value} (requested : moment.registerRequest? context = some (.write name value))
    (written : value ≠ .unset) :
    Dated context (past ++ [moment]) (moment.registers.write name value).entries := by
  have changed : ∀ register ∈ moment.registers.entries, ∀ place,
      Born context past register place → Born context (past ++ [moment])
        (if register.name == name then { register with value } else register) place := by
    intro register member place born
    have held := RegisterFile.contains_of_mem member
    by_cases same : register.name = name
    · rw [if_pos (beq_iff_eq.mpr same)]
      exact born.assigned held ⟨value, same ▸ requested⟩ written
    · rw [if_neg (by simpa using same)]
      refine born.untouched held ?_
      rintro ⟨other, assigns⟩
      rw [requested] at assigns
      cases assigns
      exact same rfl
  change Dated context (past ++ [moment]) ((moment.registers.allocate name).entries.map _)
  cases known : moment.registers.contains name with
  | true =>
      rw [RegisterFile.allocate_of_contains known]
      exact dated.map changed
  | false =>
      rw [RegisterFile.entries_allocate_of_missing known, List.map_append, List.map_singleton,
        if_pos (beq_self_eq_true name)]
      exact dated.grow changed (.newborn known (Or.inr ⟨requested, written⟩))

/-- Whatever a step does to the registers, they stand in the order of their creation. -/
theorem step (dated : Dated context past moment.registers.entries)
    (definite : moment.Definite context) :
    Dated context (past ++ [moment]) (moment.after context).stores.registers.entries := by
  have quiet (other : ∀ name value, moment.registerRequest? context ≠ some (.write name value)) :
      Dated context (past ++ [moment]) moment.registers.entries :=
    dated.untouched fun name assigns => other name assigns.choose assigns.choose_spec
  rw [Moment.after_registers]
  cases requested : moment.registerRequest? context with
  | none => exact quiet (by simp [requested])
  | some operation =>
      cases operation with
      | allocate name => exact dated.allocate requested
      | write name value =>
          refine dated.write requested ?_
          rintro rfl
          exact definite name requested
      | read name => exact quiet (by simp [requested])
      | sweep => exact (quiet (by simp [requested])).filter _

end Dated

namespace RegisterFile

variable {registers : RegisterFile}

theorem unwritten_eq_nil_iff :
    registers.unwritten = [] ↔ ∀ register ∈ registers.entries, register.value ≠ .unset := by
  rw [unwritten, List.map_eq_nil_iff, List.filter_eq_nil_iff]
  simp

/-- Writing a value adds no register that holds nothing. -/
theorem unwritten_write (none : registers.unwritten = []) (name : String) {value : Value}
    (written : value ≠ .unset) : (registers.write name value).unwritten = [] := by
  rw [unwritten_eq_nil_iff] at none ⊢
  intro register member
  rcases List.mem_map.mp member with ⟨old, listed, rfl⟩
  split
  · exact written
  · rename_i other
    cases known : registers.contains name with
    | true =>
        rw [allocate_of_contains known] at listed
        exact none old listed
    | false =>
        rw [entries_allocate_of_missing known] at listed
        rcases List.mem_append.mp listed with before | fresh
        · exact none old before
        · rw [List.mem_singleton.mp fresh] at other
          exact absurd (beq_self_eq_true name) other

end RegisterFile

/-- What the past of an engine says about its registers. -/
structure Chronology (context : Context) (past : List Moment) (engine : Engine) : Prop where
  distinct : engine.stores.registers.Distinct
  dated : Dated context past engine.stores.registers.entries
  /-- Where no register had to be created since the last sweep, all registers are written. -/
  swept : ∀ before previous since, past = before ++ previous :: since →
    previous.registerRequest? context = some .sweep →
      (∀ moment ∈ since, ∀ name, moment.registerRequest? context ≠ some (.allocate name)) →
        engine.stores.registers.unwritten = []

namespace Chronology

variable {context : Context} {past : List Moment}

theorem initial (context : Context) (faults : FaultSource) :
    Chronology context [] (.first context.settings faults) := by
  refine ⟨RegisterFile.distinct_empty, ⟨[], rfl, ?_, .nil⟩, fun before previous since split => ?_⟩
  · exact fun row member => absurd member List.not_mem_nil
  · simp at split

theorem unwritten_after {moment : Moment} (definite : moment.Definite context)
    (none : moment.registers.unwritten = [] ∨ moment.registerRequest? context = some .sweep)
    (quiet : ∀ name, moment.registerRequest? context ≠ some (.allocate name)) :
    (moment.after context).stores.registers.unwritten = [] := by
  rw [Moment.after_registers]
  cases requested : moment.registerRequest? context with
  | none => exact none.resolve_right (by simp [requested])
  | some operation =>
      cases operation with
      | allocate name => exact absurd requested (quiet name)
      | write name value =>
          refine RegisterFile.unwritten_write (none.resolve_right (by simp [requested])) name ?_
          rintro rfl
          exact definite name requested
      | read name => exact none.resolve_right (by simp [requested])
      | sweep => exact RegisterFile.unwritten_sweep _

theorem step {moment : Moment} (chronology : Chronology context past moment.engine)
    (definite : moment.Definite context) :
    Chronology context (past ++ [moment]) (moment.after context) := by
  refine ⟨?_, chronology.dated.step definite, ?_⟩
  · rw [Moment.after_registers]
    exact chronology.distinct.performed _
  · intro before previous since split sweeps quiet
    rcases since.eq_nil_or_concat' with rfl | ⟨earlier, last, rfl⟩
    · -- The step is the sweep itself.
      rcases List.append_singleton_inj.mp split with ⟨-, rfl⟩
      exact unwritten_after definite (Or.inr sweeps) (by simp [sweeps])
    · rw [← List.cons_append, ← List.append_assoc] at split
      rcases List.append_singleton_inj.mp split with ⟨same, rfl⟩
      rw [List.forall_mem_append, List.forall_mem_singleton] at quiet
      exact unwritten_after definite
        (Or.inl (chronology.swept before previous earlier same sweeps quiet.1)) quiet.2

end Chronology

/-! ## Whole runs -/

/-- An occasion on which nobody else has touched the stores. -/
def Occasion.undisturbed (surroundings : Surroundings) : Occasion :=
  ⟨id, surroundings⟩

namespace Engine

variable {engine : Engine} {context : Context} {holds : List Moment → Engine → Prop}

/-- What every step keeps holds before each step of an engine that has its stores to itself. -/
theorem undisturbed_before {past : List Moment} (start : holds past engine)
    {answers : List Surroundings}
    (step : ∀ {past engine}, ∀ surroundings ∈ answers, holds past engine →
      holds (past ++ [⟨engine, surroundings⟩]) (engine.step context surroundings).1)
    {earlier later : List Moment} {now : Moment}
    (split : engine.course context (answers.map .undisturbed) = earlier ++ now :: later) :
    holds (past ++ earlier) now.engine ∧ now.surroundings ∈ answers := by
  induction answers generalizing engine past earlier with
  | nil => simp [course] at split
  | cons first rest ih =>
      rw [List.map_cons, course] at split
      cases earlier with
      | nil =>
          rw [List.nil_append, List.cons.injEq] at split
          rw [← split.1, List.append_nil]
          exact ⟨start, List.mem_cons_self⟩
      | cons moment others =>
          rw [List.cons_append, List.cons.injEq] at split
          rcases ih (step first List.mem_cons_self start)
            (fun surroundings member => step surroundings (List.mem_cons_of_mem _ member))
            split.2 with ⟨reached, member⟩
          rw [List.append_assoc] at reached
          rw [← split.1]
          exact ⟨reached, List.mem_cons_of_mem _ member⟩

end Engine

/-- The register was created at the place in the past by an operation that only needs it to be
there.  It has been there ever since, and nothing has been written to it. -/
structure Idle (context : Context) (past : List Moment) (now : Moment) (name : String)
    (place : Nat) : Prop where
  creation : ∃ moment, past[place]? = some moment ∧ moment.registers.contains name = false ∧
    moment.registerRequest? context = some (.allocate name)
  present : ∀ moment ∈ past.drop (place + 1) ++ [now], moment.registers.contains name = true
  unwritten : ∀ moment ∈ past.drop (place + 1), ¬ moment.Assigns context name

/-- The sweep of the registers by the step, as the past of the engine tells it. -/
structure Evicts (context : Context) (past : List Moment) (now : Moment)
    (names : List String) : Prop where
  mem_iff : ∀ name, name ∈ names ↔ ∃ place, Idle context past now name place
  nodup : names.Nodup
  /-- The names stand in the order in which their registers were created. -/
  ordered : names.Pairwise fun earlier later => ∀ first second,
    Idle context past now earlier first → Idle context past now later second → first < second
  /-- The registers of these names are gone, and all others are as they were. -/
  get?_after : ∀ name, (now.after context).stores.registers.get? name =
    if name ∈ names then none else now.registers.get? name
  /-- If no operation has needed a register since the last sweep, nothing is left to sweep. -/
  again : ∀ before previous since, past = before ++ previous :: since →
    previous.registerRequest? context = some .sweep →
      (∀ moment ∈ since, ∀ name, moment.registerRequest? context ≠ some (.allocate name)) →
        names = []

section History

variable {context : Context} {past : List Moment} {now : Moment}

/-- A register that holds nothing was created by an operation that only needs it. -/
theorem Born.idle {register : Register} {place : Nat} (born : Born context past register place)
    (held : now.registers.contains register.name = true) (unset : register.value = .unset) :
    Idle context past now register.name place := by
  have unwritten := born.unwritten.mp unset
  rcases born.creation with ⟨moment, found, missing, made⟩
  rcases List.getElem?_eq_some_iff.mp found with ⟨inside, here⟩
  rw [List.drop_eq_getElem_cons inside, here, List.forall_mem_cons] at unwritten
  refine ⟨⟨moment, found, missing, made.resolve_right unwritten.1⟩, ?_, unwritten.2⟩
  rw [List.forall_mem_append, List.forall_mem_singleton]
  exact ⟨born.present, held⟩

/-- As long as a register is there, it is not created again. -/
theorem place_le_of_present {name : String} {place other : Nat} {moment : Moment}
    (present : ∀ moment ∈ past.drop (place + 1), moment.registers.contains name = true)
    (found : past[other]? = some moment) (missing : moment.registers.contains name = false) :
    other ≤ place := by
  by_contra after
  have listed : moment ∈ past.drop (place + 1) := by
    refine List.mem_of_getElem? (i := other - (place + 1)) ?_
    rw [List.getElem?_drop, Nat.add_sub_cancel' (by omega), found]
  rw [present moment listed] at missing
  cases missing

theorem Idle.place_eq {register : Register} {place other : Nat}
    (idle : Idle context past now register.name other)
    (born : Born context past register place) : other = place := by
  rcases idle.creation with ⟨moment, found, missing, -⟩
  rcases born.creation with ⟨first, begun, absent, -⟩
  refine Nat.le_antisymm (place_le_of_present born.present found missing) ?_
  exact place_le_of_present (List.forall_mem_append.mp idle.present).1 begun absent

theorem Idle.unset {register : Register} {place : Nat}
    (idle : Idle context past now register.name place)
    (born : Born context past register place) : register.value = .unset := by
  rcases idle.creation with ⟨moment, found, -, allocates⟩
  rcases List.getElem?_eq_some_iff.mp found with ⟨inside, here⟩
  rw [born.unwritten, List.drop_eq_getElem_cons inside, here, List.forall_mem_cons]
  refine ⟨?_, idle.unwritten⟩
  rintro ⟨value, assigns⟩
  rw [allocates] at assigns
  cases assigns

namespace Dated

theorem born {entries : List Register} (dated : Dated context past entries)
    {register : Register} (member : register ∈ entries) :
    ∃ place, Born context past register place := by
  rcases dated with ⟨rows, rfl, born, -⟩
  rcases List.mem_map.mp member with ⟨row, listed, rfl⟩
  exact ⟨row.2, born row listed⟩

theorem mem_unwritten_iff (dated : Dated context past now.registers.entries) (name : String) :
    name ∈ now.registers.unwritten ↔ ∃ place, Idle context past now name place := by
  constructor
  · intro named
    rcases List.mem_map.mp named with ⟨register, listed, rfl⟩
    rcases List.mem_filter.mp listed with ⟨member, unset⟩
    rcases dated.born member with ⟨place, born⟩
    exact ⟨place, born.idle (RegisterFile.contains_of_mem member) (Value.isUnset_iff.mp unset)⟩
  · rintro ⟨place, idle⟩
    have held := (List.forall_mem_append.mp idle.present).2 now List.mem_cons_self
    rcases List.mem_map.mp (RegisterFile.contains_iff.mp held) with ⟨register, member, rfl⟩
    -- It is the register that is there now, since it was not created twice.
    rcases dated.born member with ⟨other, born⟩
    obtain rfl := idle.place_eq born
    exact List.mem_map_of_mem
      (List.mem_filter.mpr ⟨member, Value.isUnset_iff.mpr (idle.unset born)⟩)

theorem ordered_unwritten (dated : Dated context past now.registers.entries) :
    now.registers.unwritten.Pairwise fun earlier later => ∀ first second,
      Idle context past now earlier first → Idle context past now later second →
        first < second := by
  rcases dated.filter fun register => register.value.isUnset with ⟨rows, same, born, increasing⟩
  rw [RegisterFile.unwritten, ← same, List.map_map, List.pairwise_map]
  refine increasing.imp_of_mem fun {earlier later} left right before first second idle other => ?_
  rw [idle.place_eq (born earlier left), other.place_eq (born later right)]
  exact before

end Dated

theorem RegisterFile.Distinct.get?_sweep {registers : RegisterFile}
    (distinct : registers.Distinct) (name : String) :
    registers.sweep.get? name =
      if name ∈ registers.unwritten then none else registers.get? name := by
  cases found : registers.get? name with
  | none =>
      rw [ite_self]
      refine List.find?_eq_none.mpr fun register member => ?_
      exact List.find?_eq_none.mp found register (List.mem_of_mem_filter member)
  | some register =>
      have member := List.mem_of_find?_eq_some found
      have named := name_of_get? found
      subst named
      have unwritten := distinct.mem_unwritten_iff member
      split
      · rename_i listed
        have unset := unwritten.mp listed
        refine List.find?_eq_none.mpr fun other kept => ?_
        rcases List.mem_filter.mp kept with ⟨present, written⟩
        intro same
        rw [List.inj_on_of_nodup_map distinct present member (beq_iff_eq.mp same), unset] at written
        cases written
      · rename_i other
        have written : register.value.isUnset = false :=
          eq_false_of_ne_true fun unset => other (unwritten.mpr unset)
        exact distinct.sweep.get?_eq_some (List.mem_filter.mpr ⟨member, by simp [written]⟩)

theorem Chronology.evicts (chronology : Chronology context past now.engine)
    {names : List String} (shown : .evicted names ∈ now.events context) :
    Evicts context past now names := by
  rcases Moment.sweeps_of_shown shown with ⟨sweeps, rfl⟩
  refine ⟨chronology.dated.mem_unwritten_iff, ?_, chronology.dated.ordered_unwritten,
    fun name => ?_, chronology.swept⟩
  · exact chronology.distinct.sublist (List.filter_sublist.map _)
  · rw [Moment.after_registers, sweeps]
    exact chronology.distinct.get?_sweep name

end History

/-- A sweep takes away exactly the registers that were never written.  The main engine of a
program that was compiled runs for any number of steps, alone with its registers, with a
backend that always gives an answer.  Each of its sweeps, and nothing else, tells names of
registers.  These are, each once and in the order of creation, the registers that an operation
needed to be there when they were not, and that have not been written since.  All other
registers stay as they are, and a second sweep finds nothing unless an operation has needed a
register since the first one. -/
theorem compile_evicts_unwritten {aliases : Aliases} {lines : List String} {program : Program}
    (compiled : Assembly.compile aliases lines = .ok program) (settings : Settings)
    (faults : FaultSource) (answers : List Surroundings)
    (definite : ∀ surroundings ∈ answers, ∀ payload, surroundings.infer payload ≠ .unset) :
    let context : Context := ⟨program, settings⟩
    let engine := Engine.first settings faults
    let course := engine.course context (answers.map .undisturbed)
    (engine.attend context (answers.map .undisturbed)).2 =
        course.flatMap (Moment.events context) ∧
      ∀ earlier now later, course = earlier ++ now :: later →
        (now.registerRequest? context = some .sweep ↔
          ∃ names, .evicted names ∈ now.events context) ∧
        ∀ names, .evicted names ∈ now.events context → Evicts context earlier now names := by
  intro context engine course
  refine ⟨Engine.attend_eq_flatMap context _, fun earlier now later split => ?_⟩
  have spelled : ¬ program.Writes .unset := fun writes =>
    absurd (Assembly.isSpelled_of_writes compiled writes) (by decide)
  have step {past : List Moment} {engine : Engine} (surroundings : Surroundings)
      (listed : surroundings ∈ answers) (chronology : Chronology context past engine) :
      Chronology context (past ++ [⟨engine, surroundings⟩])
        (engine.step context surroundings).1 :=
    chronology.step (Moment.definite_of_spelled spelled (definite surroundings listed))
  have chronology : Chronology context ([] ++ earlier) now.engine :=
    (Engine.undisturbed_before (Chronology.initial context faults) step split).1
  refine ⟨⟨fun sweeps => ⟨_, Moment.shown_of_sweeps sweeps⟩, ?_⟩, fun names => chronology.evicts⟩
  rintro ⟨names, shown⟩
  exact (Moment.sweeps_of_shown shown).1

/-- A source in which a register is swept out and created again. -/
def chores : List String :=
  ["READ b", "ALLOCREG a", "WRITE b 1", "SIFT", "READ c", "ALLOCREG a", "SIFT"]

/-- The source as a program, with the usual settings. -/
def choresContext : Context where
  program := ⟨[⟨.ofOp .read [.register "b"], 1⟩, ⟨.ofOp .allocReg [.register "a"], 2⟩,
    ⟨.ofOp .write [.register "b", .literal (.integer 1)], 3⟩, ⟨.ofOp .sift [], 4⟩,
    ⟨.ofOp .read [.register "c"], 5⟩, ⟨.ofOp .allocReg [.register "a"], 6⟩,
    ⟨.ofOp .sift [], 7⟩]⟩
  settings := .standard

/-- The moments of its run. -/
def choresMoment : Nat → Moment
  | 0 => ⟨.first choresContext.settings (.ofSeed 1), .alone .text⟩
  | earlier + 1 => ⟨(choresMoment earlier).after choresContext, .alone .text⟩

/-- Both sweeps take away the register that is created twice.  It comes last in the second
one, as it was created last. -/
theorem chores_evicts_unwritten :
    Assembly.compile .standard chores = .ok choresContext.program ∧
      (∀ payload, (Surroundings.alone .text).infer payload ≠ .unset) ∧
        Evicts choresContext ((List.range 3).map choresMoment) (choresMoment 3) ["a"] ∧
          Evicts choresContext ((List.range 6).map choresMoment) (choresMoment 6) ["c", "a"] := by
  have compiled : Assembly.compile .standard chores = .ok choresContext.program := by
    decide +kernel
  have definite (payload : String) : (Surroundings.alone .text).infer payload ≠ .unset := by
    rintro ⟨⟩
  have evicts := (compile_evicts_unwritten compiled .standard (.ofSeed 1)
    (List.replicate 7 (.alone .text))
    (fun surroundings member => List.eq_of_mem_replicate member ▸ definite)).2
  refine ⟨compiled, definite, ?_, ?_⟩
  · exact (evicts ((List.range 3).map choresMoment) (choresMoment 3)
      [choresMoment 4, choresMoment 5, choresMoment 6] rfl).2 ["a"] (by decide +kernel)
  · exact (evicts ((List.range 6).map choresMoment) (choresMoment 6) [] rfl).2 ["c", "a"]
      (by decide +kernel)

end CommandMachine
