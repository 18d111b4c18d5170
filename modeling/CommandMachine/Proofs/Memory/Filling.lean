import CommandMachine.Proofs.Memory.Session
import Mathlib.Algebra.Order.Floor.Div
import Mathlib.Data.Prod.Lex
namespace CommandMachine

/-!
# Memory is filled from the front

Each page counts its slots in use, and a page that is full by its count is not
searched.  The counts are right at any time, so that nothing is lost by this short
cut: a value always goes to the first slot that is not in use, and a page is added
only when there is none.  Hence the number of pages is known from the requests and
answers alone.  It is what the greatest number of handles that were ever live at
once needs, although slots are given back and taken again in between.

No bound on the number or on the size of pages is needed for this, and generations
may come back.  Bounds are needed only to tell live handles apart by their names.
-/

/-- What stands before and behind an entry is not touched when the entry is changed. -/
theorem modify_between {α : Type} {items : List α} {index : Nat} {item : α}
    (found : items[index]? = some item) (change : α → α) :
    ∃ before after, items = before ++ item :: after ∧ before.length = index ∧
      items.modify index change = before ++ change item :: after := by
  rcases List.getElem?_eq_some_iff.mp found with ⟨inside, -⟩
  rcases List.exists_of_modify change inside with ⟨before, entry, after, rfl, rfl, changed⟩
  have same : entry = item := by simpa using found
  subst same
  exact ⟨before, after, rfl, rfl, changed⟩

/-! ## Pages -/

namespace Page

/-- The page has the given number of slots, its count is the number of those in use, and
a slot that is not in use holds nothing. -/
structure Kept (page : Page) (size : Nat) : Prop where
  capacity_eq : page.capacity = size
  used_eq : page.used = page.slots.countP Slot.used
  unset : ∀ slot ∈ page.slots, slot.used = false → slot.value = .unset

theorem kept_fresh (size : Nat) : (fresh size).Kept size where
  capacity_eq := List.length_replicate
  used_eq := by
    symm
    apply List.countP_eq_zero.mpr
    intro slot member
    rw [List.eq_of_mem_replicate member]
    exact Bool.false_ne_true
  unset := by
    intro slot member _
    rw [List.eq_of_mem_replicate member]
    rfl

section Kept

variable {page : Page} {size index : Nat} {slot : Slot}

theorem Kept.used_le (kept : page.Kept size) : page.used ≤ size := by
  rw [kept.used_eq, ← kept.capacity_eq]
  exact List.countP_le_length

theorem Kept.isFull_iff (kept : page.Kept size) :
    page.isFull = true ↔ ∀ slot ∈ page.slots, slot.used = true := by
  rw [isFull, beq_iff_eq, capacity, kept.used_eq, List.countP_eq_length]

/-- To pass over a page that is full by its count is a short cut and no more. -/
theorem Kept.freeSlot?_eq (kept : page.Kept size) :
    page.freeSlot? = page.slots.findIdx? fun slot => !slot.used := by
  unfold freeSlot?
  by_cases full : page.isFull = true
  · rw [if_pos full, eq_comm, List.findIdx?_eq_none_iff]
    intro slot member
    rw [kept.isFull_iff.mp full slot member]
    rfl
  · rw [if_neg full]

theorem Kept.freeSlot?_eq_none_iff (kept : page.Kept size) :
    page.freeSlot? = none ↔ page.isFull = true := by
  rw [kept.freeSlot?_eq, kept.isFull_iff, List.findIdx?_eq_none_iff]
  simp

/-- The count of a page with a slot in use can be lowered. -/
theorem Kept.used_pos (kept : page.Kept size) (found : page.slots[index]? = some slot)
    (used : slot.used = true) : 0 < page.used := by
  rw [kept.used_eq, List.countP_pos_iff]
  exact ⟨slot, List.mem_of_getElem? found, used⟩

/-- A page stays in order when its count moves with the slot that is changed. -/
theorem Kept.modify (kept : page.Kept size) (found : page.slots[index]? = some slot)
    (update : Slot → Slot) (count : Nat)
    (counts : count + slot.used.toNat = page.used + (update slot).used.toNat)
    (unset : (update slot).used = false → (update slot).value = .unset) :
    Kept ⟨page.slots.modify index update, count⟩ size := by
  rcases modify_between found update with ⟨before, after, split, -, changed⟩
  have countP_cons (entry : Slot) : (entry :: after).countP Slot.used =
      after.countP Slot.used + entry.used.toNat := by
    rw [List.countP_cons]
    cases entry.used <;> rfl
  constructor
  · rw [← kept.capacity_eq]
    exact List.length_modify update page.slots index
  · have counted := kept.used_eq
    rw [split, List.countP_append, countP_cons] at counted
    change count = (page.slots.modify index update).countP Slot.used
    rw [changed, List.countP_append, countP_cons]
    omega
  · intro other member unused
    change other ∈ page.slots.modify index update at member
    rw [changed] at member
    rcases List.mem_append.mp member with earlier | here
    · refine kept.unset other ?_ unused
      rw [split]
      exact List.mem_append_left _ earlier
    · rcases List.mem_cons.mp here with rfl | later
      · exact unset unused
      · refine kept.unset other ?_ unused
        rw [split]
        exact List.mem_append_right _ (List.mem_cons_of_mem _ later)

theorem Kept.occupy (kept : page.Kept size) (found : page.slots[index]? = some slot)
    (unused : slot.used = false) (value : Value) : (page.occupy index value).Kept size := by
  refine kept.modify found (fun slot => ⟨true, slot.generation, value⟩) (page.used + 1) ?_ nofun
  rw [unused]
  rfl

theorem Kept.release (kept : page.Kept size) (found : page.slots[index]? = some slot)
    (used : slot.used = true) : (page.release index).Kept size := by
  refine kept.modify found (fun slot => ⟨false, slot.generation + 1, .unset⟩) (page.used - 1) ?_
    fun _ => rfl
  rw [used]
  exact Nat.sub_add_cancel (kept.used_pos found used)

theorem Kept.store (kept : page.Kept size) (found : page.slots[index]? = some slot)
    (used : slot.used = true) (value : Value) : (page.store index value).Kept size := by
  refine kept.modify found (fun slot => ⟨slot.used, slot.generation, value⟩) page.used rfl ?_
  intro unused
  rw [show slot.used = false from unused] at used
  cases used

end Kept
end Page

namespace Memory

/-! ## The first place that is not in use -/

/-- Every page of memory is in order. -/
structure Kept (memory : Memory) : Prop where
  positive : 0 < memory.pageSize
  page : ∀ page ∈ memory.pages, page.Kept memory.pageSize

/-- The places whose slots are not in use, ordered by page and then by slot. -/
def vacant (memory : Memory) : Set (ℕ ×ₗ ℕ) :=
  {place | ∃ slot, slotAt? memory.pages (ofLex place).1 (ofLex place).2 = some slot ∧
    slot.used = false}

/-- Every slot of every page is in use. -/
def Occupied (memory : Memory) : Prop :=
  ∀ page ∈ memory.pages, ∀ slot ∈ page.slots, slot.used = true

theorem kept_ofPageSize (pageSize : Nat) : (ofPageSize pageSize).Kept :=
  ⟨Nat.le_max_right pageSize 1, fun _ member => (List.not_mem_nil member).elim⟩

theorem Kept.formed {memory : Memory} (kept : memory.Kept) : memory.Formed :=
  ⟨kept.positive, fun page member => (kept.page page member).capacity_eq⟩

theorem findFree?_eq_none {pages : List Page} {size first : Nat}
    (kept : ∀ page ∈ pages, page.Kept size) (missing : findFree? first pages = none) :
    ∀ page ∈ pages, ∀ slot ∈ page.slots, slot.used = true := by
  induction pages generalizing first with
  | nil => exact fun _ member => absurd member List.not_mem_nil
  | cons page rest ih =>
      rcases List.forall_mem_cons.mp kept with ⟨here, later⟩
      unfold findFree? at missing
      split at missing
      · cases missing
      · rename_i full
        rw [here.freeSlot?_eq_none_iff, here.isFull_iff] at full
        exact List.forall_mem_cons.mpr ⟨full, ih later missing⟩

/-- No place before the one that is found is free. -/
theorem findFree?_least {pages : List Page} {size first index slot : Nat}
    (kept : ∀ page ∈ pages, page.Kept size) (found : findFree? first pages = some (index, slot))
    {other place : Nat} {free : Slot} (listed : slotAt? pages other place = some free)
    (unused : free.used = false) :
    index < first + other ∨ index = first + other ∧ slot ≤ place := by
  induction pages generalizing first other with
  | nil => cases found
  | cons page rest ih =>
      rcases List.forall_mem_cons.mp kept with ⟨here, later⟩
      unfold findFree? at found
      cases other with
      | zero =>
          have onSlot : page.slots[place]? = some free := by simpa [slotAt?] using listed
          split at found
          · rename_i place' first'
            cases found
            rw [here.freeSlot?_eq, List.findIdx?_eq_some_iff_getElem] at first'
            rcases first' with ⟨inside, -, before⟩
            refine Or.inr ⟨rfl, Nat.le_of_not_lt fun earlier => before place earlier ?_⟩
            rcases List.getElem?_eq_some_iff.mp onSlot with ⟨_, same⟩
            rw [same, unused]
            rfl
          · rename_i full
            rw [here.freeSlot?_eq_none_iff, here.isFull_iff] at full
            rw [full free (List.mem_of_getElem? onSlot)] at unused
            cases unused
      | succ other =>
          have behind : slotAt? rest other place = some free := by simpa [slotAt?] using listed
          split at found
          · cases found
            exact Or.inl (by omega)
          · rcases ih later found behind with before | ⟨same, ordered⟩
            · exact Or.inl (by omega)
            · exact Or.inr ⟨by omega, ordered⟩

/-- What may become of a memory that takes a value.  The value goes to the least place
that is not in use, and the slot there keeps its generation.  Only if all slots are in
use, the value goes to the first slot of a new page. -/
inductive Takes (memory : Memory) (value : Value) : Memory → Handle → Prop where
  | vacant {index slot : Nat} {free : Slot} (least : IsLeast memory.vacant (toLex (index, slot)))
      (found : slotAt? memory.pages index slot = some free) :
      Takes memory value
        { memory with pages := memory.pages.modify index fun page => page.occupy slot value }
        ⟨.ofNat index, .ofNat slot, free.generation⟩
  | added (occupied : memory.Occupied) :
      Takes memory value
        { memory with pages := memory.pages ++ [(Page.fresh memory.pageSize).occupy 0 value] }
        ⟨.ofNat memory.pages.length, 0, 0⟩

theorem allocate_of_prepare {memory : Memory} {ready : List Page} {index slot : Nat} {free : Slot}
    (prepared : memory.prepare = (ready, index, slot))
    (listed : slotAt? ready index slot = some free) (value : Value) :
    memory.allocate value =
      ({ memory with pages := ready.modify index fun page => page.occupy slot value },
        ⟨.ofNat index, .ofNat slot, free.generation⟩) := by
  rcases Option.bind_eq_some_iff.mp listed with ⟨page, onPage, onSlot⟩
  simp only [allocate, prepared, onPage, Page.generation, onSlot]

theorem takes_allocate {memory : Memory} (kept : memory.Kept) (value : Value) :
    memory.Takes value (memory.allocate value).1 (memory.allocate value).2 := by
  cases found : findFree? 0 memory.pages with
  | some place =>
      rcases place with ⟨index, slot⟩
      have prepared : memory.prepare = (memory.pages, index, slot) := by
        rw [prepare, found]
      rcases findFree?_free found with ⟨offset, free, place, listed, unused⟩
      rw [Nat.zero_add] at place
      subst place
      have least : IsLeast memory.vacant (toLex (index, slot)) := by
        refine ⟨⟨free, listed, unused⟩, fun other vacant => ?_⟩
        rcases vacant with ⟨otherFree, otherListed, otherUnused⟩
        have ordered := findFree?_least kept.page found otherListed otherUnused
        rw [Nat.zero_add] at ordered
        exact Prod.Lex.le_iff.mpr ordered
      rw [allocate_of_prepare prepared listed value]
      exact .vacant least listed
  | none =>
      have prepared : memory.prepare =
          (memory.pages ++ [Page.fresh memory.pageSize], memory.pages.length, 0) := by
        rw [prepare, found]
      have last : slotAt? (memory.pages ++ [Page.fresh memory.pageSize]) memory.pages.length 0 =
          some Slot.fresh := by
        simp [slotAt?, Page.fresh, kept.positive]
      rw [allocate_of_prepare prepared last value, List.modify_eq_take_drop, List.take_left,
        List.drop_left]
      exact .added (findFree?_eq_none kept.page found)

/-- A handle that fits after a value was taken is the one that was issued, or it fitted
before. -/
theorem fits_of_allocate {memory : Memory} (formed : memory.Formed) {value : Value}
    {other : Handle} (fits : Fits ((memory.allocate value).1.cell other) other) :
    other = (memory.allocate value).2 ∨ Fits (memory.cell other) other := by
  have prepared := prepared_prepare formed
  rcases ready : memory.prepare with ⟨pages, index, slot⟩
  rw [ready] at prepared
  rcases prepared.free with ⟨free, listed, -⟩
  rw [allocate_of_prepare ready listed value] at fits ⊢
  have occupies : ∀ page : Page, (page.occupy slot value).slots =
      page.slots.modify slot fun old => ⟨true, old.generation, value⟩ := fun _ => rfl
  change Fits ((slotAt? (pages.modify index _) other.page.toNat other.slot.toNat).getD
    Slot.fresh) other at fits
  rw [slotAt?_modify pages index slot occupies] at fits
  by_cases here : other.page.toNat = index ∧ other.slot.toNat = slot
  · left
    rcases here with ⟨rfl, rfl⟩
    rw [if_pos ⟨rfl, rfl⟩, listed, Option.map_some, Option.getD_some] at fits
    rw [UInt32.ofNat_toNat, UInt32.ofNat_toNat, show free.generation = _ from fits.2]
  · right
    rw [if_neg here, prepared.same] at fits
    exact fits

section Takes

variable {memory next : Memory} {value : Value} {handle : Handle}

theorem Takes.pageSize_eq (taken : memory.Takes value next handle) :
    next.pageSize = memory.pageSize := by
  cases taken <;> rfl

/-- Pages stay in order when one of them is changed for one in order. -/
theorem Kept.modify (kept : memory.Kept) {index : Nat} {page : Page}
    (found : memory.pages[index]? = some page) {change : Page → Page}
    (changed : (change page).Kept memory.pageSize) :
    Kept { memory with pages := memory.pages.modify index change } := by
  refine ⟨kept.positive, ?_⟩
  rcases modify_between found change with ⟨before, after, split, -, modified⟩
  intro other member
  change other ∈ memory.pages.modify index change at member
  rw [modified] at member
  have pages := kept.page
  rw [split] at pages
  rcases List.forall_mem_append.mp pages with ⟨earlier, later⟩
  rcases List.mem_append.mp member with listed | listed
  · exact earlier other listed
  · rcases List.mem_cons.mp listed with rfl | listed
    · exact changed
    · exact later other (List.mem_cons_of_mem _ listed)

theorem Takes.kept (taken : memory.Takes value next handle) (kept : memory.Kept) :
    next.Kept := by
  cases taken with
  | @vacant index slot free least found =>
      rcases Option.bind_eq_some_iff.mp found with ⟨page, onPage, onSlot⟩
      rcases least.1 with ⟨other, listed, unused⟩
      have same : other = free := Option.some.inj (listed.symm.trans found)
      subst same
      exact kept.modify onPage
        ((kept.page page (List.mem_of_getElem? onPage)).occupy onSlot unused value)
  | added =>
      refine ⟨kept.positive, ?_⟩
      have first : (Page.fresh memory.pageSize).slots[0]? = some Slot.fresh := by
        simp [Page.fresh, kept.positive]
      intro page member
      rcases List.mem_append.mp member with old | new
      · exact kept.page page old
      · rw [List.mem_singleton.mp new]
        exact (Page.kept_fresh memory.pageSize).occupy first rfl value

end Takes

/-! ## Memory without gaps -/

/-- What there is, or will be, at a place. -/
def slotOf (memory : Memory) (index slot : Nat) : Slot :=
  (slotAt? memory.pages index slot).getD Slot.fresh

/-- All slots before the one that is taken next are in use. -/
theorem Kept.used_before {memory : Memory} (kept : memory.Kept) {index slot : Nat}
    (inside : slot < memory.pageSize)
    (before : index < memory.prepare.2.1 ∨
      index = memory.prepare.2.1 ∧ slot < memory.prepare.2.2) :
    (memory.slotOf index slot).used = true := by
  have listed (old : index < memory.pages.length) :
      ∃ found, slotAt? memory.pages index slot = some found := by
    have size : memory.pages[index].slots.length = memory.pageSize :=
      (kept.page _ (List.getElem_mem old)).capacity_eq
    have fits : slot < memory.pages[index].slots.length := by omega
    refine ⟨memory.pages[index].slots[slot], ?_⟩
    rw [slotAt?, List.getElem?_eq_getElem old, Option.bind_some, List.getElem?_eq_getElem fits]
  unfold prepare at before
  cases found : findFree? 0 memory.pages with
  | some place =>
      rcases place with ⟨first, free⟩
      simp only [found] at before
      rcases findFree?_free found with ⟨offset, unused, place, present, -⟩
      rcases Option.bind_eq_some_iff.mp present with ⟨page, onPage, -⟩
      have bound := (List.getElem?_eq_some_iff.mp onPage).1
      rcases listed (by omega) with ⟨here, atPlace⟩
      rw [slotOf, atPlace, Option.getD_some]
      by_contra vacant
      have least := findFree?_least kept.page found atPlace (Bool.eq_false_of_not_eq_true vacant)
      omega
  | none =>
      simp only [found] at before
      rcases listed (by omega) with ⟨here, atPlace⟩
      rw [slotOf, atPlace, Option.getD_some]
      rcases Option.bind_eq_some_iff.mp atPlace with ⟨page, onPage, onSlot⟩
      exact findFree?_eq_none kept.page found page (List.mem_of_getElem? onPage) here
        (List.mem_of_getElem? onSlot)

/-- Exactly so many slots are in use, counted page by page, on no more pages than that takes,
and none was ever given back. -/
structure Packed (memory : Memory) (count : Nat) : Prop where
  kept : memory.Kept
  pages_lt : memory.pageSize * memory.pages.length < count + memory.pageSize
  used_iff : ∀ index slot, slot < memory.pageSize →
    ((memory.slotOf index slot).used = true ↔ memory.pageSize * index + slot < count)
  generation_eq : ∀ index slot, (memory.slotOf index slot).generation = 0

theorem packed_ofPageSize (pageSize : Nat) : (ofPageSize pageSize).Packed 0 where
  kept := kept_ofPageSize pageSize
  pages_lt := by
    rw [Nat.zero_add]
    exact (kept_ofPageSize pageSize).positive
  used_iff := fun _ _ _ => iff_of_false Bool.false_ne_true (Nat.not_lt_zero _)
  generation_eq := fun _ _ => rfl

section Packed

variable {memory : Memory} {count : Nat}

/-- The next value goes right behind the others. -/
theorem Packed.prepare_eq (packed : memory.Packed count) :
    memory.prepare.2 = (count / memory.pageSize, count % memory.pageSize) := by
  have prepared := prepared_prepare packed.kept.formed
  have positive := packed.kept.positive
  rcases prepared.free with ⟨free, listed, unused⟩
  have vacant : (memory.slotOf memory.prepare.2.1 memory.prepare.2.2).used = false := by
    rw [slotOf, ← prepared.same, listed, Option.getD_some, unused]
  have late : ¬ memory.pageSize * memory.prepare.2.1 + memory.prepare.2.2 < count := by
    rw [← packed.used_iff _ _ prepared.slot_lt, vacant]
    exact Bool.false_ne_true
  have early : ¬ count < memory.pageSize * memory.prepare.2.1 + memory.prepare.2.2 := by
    intro later
    -- The place that the count tells would come before and would not be in use.
    have whole := Nat.div_add_mod count memory.pageSize
    have rest := Nat.mod_lt count positive
    have before : count / memory.pageSize < memory.prepare.2.1 ∨
        count / memory.pageSize = memory.prepare.2.1 ∧
          count % memory.pageSize < memory.prepare.2.2 := by
      rcases Nat.lt_trichotomy (count / memory.pageSize) memory.prepare.2.1 with
        earlier | same | beyond
      · exact Or.inl earlier
      · rw [same] at whole
        exact Or.inr ⟨same, by omega⟩
      · have more := Nat.mul_le_mul_left memory.pageSize beyond
        rw [Nat.mul_succ] at more
        have slot := prepared.slot_lt
        omega
    have used := packed.kept.used_before rest before
    rw [packed.used_iff _ _ rest, whole] at used
    exact Nat.lt_irrefl count used
  have place : memory.prepare.2.2 + memory.pageSize * memory.prepare.2.1 = count := by omega
  have unique := (Nat.div_mod_unique positive).mpr ⟨place, prepared.slot_lt⟩
  exact Prod.ext unique.1.symm unique.2.symm

/-- The next value gets the handle that the count tells, as far as it can be told in
thirty-two bits, and all other slots stay as they are. -/
theorem Packed.allocate_eq (packed : memory.Packed count) (value : Value) :
    (memory.allocate value).2 =
        ⟨.ofNat (count / memory.pageSize), .ofNat (count % memory.pageSize), 0⟩ ∧
      ∀ index slot, (memory.allocate value).1.slotOf index slot =
        if index = count / memory.pageSize ∧ slot = count % memory.pageSize then ⟨true, 0, value⟩
        else memory.slotOf index slot := by
  have prepared := prepared_prepare packed.kept.formed
  rcases ready : memory.prepare with ⟨pages, first, free⟩
  have place := packed.prepare_eq
  rw [ready] at prepared place
  rcases Prod.mk.inj place with ⟨rfl, rfl⟩
  rcases prepared.free with ⟨found, listed, -⟩
  have generation : found.generation = 0 := by
    have same := prepared.same (count / memory.pageSize) (count % memory.pageSize)
    rw [listed, Option.getD_some] at same
    rw [same]
    exact packed.generation_eq _ _
  rw [allocate_of_prepare ready listed value, generation]
  refine ⟨rfl, fun index slot => ?_⟩
  have occupies : ∀ page : Page, (page.occupy (count % memory.pageSize) value).slots =
      page.slots.modify (count % memory.pageSize) fun old => ⟨true, old.generation, value⟩ :=
    fun _ => rfl
  rw [slotOf, slotAt?_modify pages _ _ occupies]
  split
  · rename_i here
    rw [here.1, here.2, listed, Option.map_some, Option.getD_some, generation]
  · exact prepared.same index slot

/-- A page is added only if the others are used up. -/
theorem Packed.pages_allocate_lt (packed : memory.Packed count) (value : Value) :
    memory.pageSize * (memory.allocate value).1.pages.length < count + 1 + memory.pageSize := by
  have place := packed.prepare_eq
  have fewer := packed.pages_lt
  rw [length_allocate]
  unfold prepare at place ⊢
  cases found : findFree? 0 memory.pages with
  | some free =>
      dsimp only
      omega
  | none =>
      simp only [found] at place
      rcases Prod.mk.inj place with ⟨whole, -⟩
      have full := Nat.mul_div_le count memory.pageSize
      dsimp only
      rw [List.length_append, List.length_singleton, Nat.mul_succ, whole]
      omega

theorem Packed.allocate (packed : memory.Packed count) (value : Value) :
    (memory.allocate value).1.Packed (count + 1) := by
  have taken := takes_allocate packed.kept value
  have slots := (packed.allocate_eq value).2
  refine ⟨taken.kept packed.kept, ?_, fun index slot inside => ?_, fun index slot => ?_⟩
  · rw [taken.pageSize_eq]
    exact packed.pages_allocate_lt value
  · rw [taken.pageSize_eq] at inside ⊢
    have here : index = count / memory.pageSize ∧ slot = count % memory.pageSize ↔
        slot + memory.pageSize * index = count := by
      have unique := Nat.div_mod_unique packed.kept.positive (a := count) (c := slot) (d := index)
      constructor
      · rintro ⟨rfl, rfl⟩
        exact (unique.mp ⟨rfl, rfl⟩).1
      · intro place
        exact ⟨(unique.mpr ⟨place, inside⟩).1.symm, (unique.mpr ⟨place, inside⟩).2.symm⟩
    rw [slots]
    split
    · rename_i place
      have place := here.mp place
      exact iff_of_true rfl (by omega)
    · rename_i apart
      have apart := mt here.mpr apart
      rw [packed.used_iff index slot inside]
      omega
  · rw [slots]
    split
    · rfl
    · exact packed.generation_eq index slot

/-- What is in a slot that is in use stays there. -/
theorem Packed.slotOf_allocate (packed : memory.Packed count) (value : Value) {index slot : Nat}
    (used : (memory.slotOf index slot).used = true) :
    (memory.allocate value).1.slotOf index slot = memory.slotOf index slot := by
  rw [(packed.allocate_eq value).2]
  refine if_neg ?_
  rintro ⟨rfl, rfl⟩
  rw [packed.used_iff _ _ (Nat.mod_lt count packed.kept.positive), Nat.div_add_mod] at used
  exact Nat.lt_irrefl count used

end Packed

/-! ## Counting -/

/-- How many slots of the pages are in use, by their counts. -/
def usedOn (pages : List Page) : Nat :=
  pages.foldr (fun page count => page.used + count) 0

theorem usedOn_append (before after : List Page) :
    usedOn (before ++ after) = usedOn before + usedOn after := by
  induction before with
  | nil => exact (Nat.zero_add _).symm
  | cons page rest ih =>
      change page.used + usedOn (rest ++ after) = page.used + usedOn rest + usedOn after
      rw [ih, Nat.add_assoc]

theorem usedOn_le {pages : List Page} {size : Nat} (bounded : ∀ page ∈ pages, page.used ≤ size) :
    usedOn pages ≤ size * pages.length := by
  induction pages with
  | nil => exact Nat.zero_le _
  | cons page rest ih =>
      rcases List.forall_mem_cons.mp bounded with ⟨here, later⟩
      rw [List.length_cons, Nat.mul_succ, Nat.add_comm]
      exact Nat.add_le_add here (ih later)

theorem usedOn_eq {pages : List Page} {size : Nat} (filled : ∀ page ∈ pages, page.used = size) :
    usedOn pages = size * pages.length := by
  induction pages with
  | nil => rfl
  | cons page rest ih =>
      rcases List.forall_mem_cons.mp filled with ⟨here, later⟩
      change page.used + usedOn rest = _
      rw [ih later, here, List.length_cons, Nat.mul_succ, Nat.add_comm]

section Counting

variable {memory next : Memory}

theorem usedSlots_modify {index : Nat} {page : Page} (found : memory.pages[index]? = some page)
    (change : Page → Page) :
    usedSlots { memory with pages := memory.pages.modify index change } + page.used =
      memory.usedSlots + (change page).used := by
  rcases modify_between found change with ⟨before, after, split, -, changed⟩
  change usedOn (memory.pages.modify index change) + page.used =
    usedOn memory.pages + (change page).used
  rw [changed, split, usedOn_append, usedOn_append]
  change usedOn before + ((change page).used + usedOn after) + page.used =
    usedOn before + (page.used + usedOn after) + (change page).used
  omega

theorem Kept.usedSlots_le (kept : memory.Kept) :
    memory.usedSlots ≤ memory.pageSize * memory.pages.length :=
  usedOn_le fun page member => (kept.page page member).used_le

theorem Kept.usedSlots_of_occupied (kept : memory.Kept) (occupied : memory.Occupied) :
    memory.usedSlots = memory.pageSize * memory.pages.length := by
  apply usedOn_eq
  intro page member
  have full := (kept.page page member).isFull_iff.mpr (occupied page member)
  rw [← (kept.page page member).capacity_eq]
  exact beq_iff_eq.mp full

theorem Takes.usedSlots_eq {value : Value} {handle : Handle}
    (taken : memory.Takes value next handle) : next.usedSlots = memory.usedSlots + 1 := by
  cases taken with
  | @vacant index slot free least found =>
      rcases Option.bind_eq_some_iff.mp found with ⟨page, onPage, -⟩
      have counted := usedSlots_modify onPage fun page => page.occupy slot value
      change _ = memory.usedSlots + (page.used + 1) at counted
      omega
  | added => exact usedOn_append _ _

/-- A page more is needed for one value more exactly if all pages are full.  Here `most`
stands for the greatest number of slots in use so far. -/
theorem Takes.length_pages_le_iff {value : Value} {handle : Handle} {most : Nat}
    (taken : memory.Takes value next handle) (kept : memory.Kept)
    (enough : ∀ count, memory.pages.length ≤ count ↔ most ≤ memory.pageSize * count)
    (count : Nat) :
    next.pages.length ≤ count ↔ max (memory.usedSlots + 1) most ≤ memory.pageSize * count := by
  have room := (taken.kept kept).usedSlots_le
  rw [taken.usedSlots_eq, taken.pageSize_eq] at room
  rw [Nat.max_le, ← enough]
  cases taken with
  | vacant =>
      rw [List.length_modify] at room ⊢
      refine ⟨fun fits => ⟨?_, fits⟩, And.right⟩
      exact Nat.le_trans room (Nat.mul_le_mul_left _ fits)
  | added occupied =>
      rw [kept.usedSlots_of_occupied occupied, List.length_append, List.length_singleton]
      constructor
      · intro fits
        refine ⟨?_, Nat.le_of_succ_le fits⟩
        calc memory.pageSize * memory.pages.length + 1
            ≤ memory.pageSize * memory.pages.length + memory.pageSize :=
              Nat.add_le_add_left kept.positive _
          _ = memory.pageSize * (memory.pages.length + 1) := (Nat.mul_succ _ _).symm
          _ ≤ memory.pageSize * count := Nat.mul_le_mul_left _ fits
      · rintro ⟨exceeds, -⟩
        exact Nat.lt_of_mul_lt_mul_left exceeds

variable {handle : Handle}

theorem page_of_fits (fits : Fits (memory.cell handle) handle) :
    ∃ page, memory.pages[handle.page.toNat]? = some page ∧
      page.slots[handle.slot.toNat]? = some (memory.cell handle) :=
  Option.bind_eq_some_iff.mp (slot?_of_fits fits)

theorem Kept.release (kept : memory.Kept) (fits : Fits (memory.cell handle) handle) :
    Kept (memory.onPage handle fun page => page.release handle.slot.toNat) := by
  rcases page_of_fits fits with ⟨page, onPage, onSlot⟩
  exact kept.modify onPage
    ((kept.page page (List.mem_of_getElem? onPage)).release onSlot fits.1)

theorem Kept.store (kept : memory.Kept) (fits : Fits (memory.cell handle) handle)
    (value : Value) : Kept (memory.onPage handle fun page => page.store handle.slot.toNat value) := by
  rcases page_of_fits fits with ⟨page, onPage, onSlot⟩
  exact kept.modify onPage
    ((kept.page page (List.mem_of_getElem? onPage)).store onSlot fits.1 value)

theorem Kept.usedSlots_release (kept : memory.Kept) (fits : Fits (memory.cell handle) handle) :
    usedSlots (memory.onPage handle fun page => page.release handle.slot.toNat) + 1 =
      memory.usedSlots := by
  rcases page_of_fits fits with ⟨page, onPage, onSlot⟩
  have positive := (kept.page page (List.mem_of_getElem? onPage)).used_pos onSlot fits.1
  have counted := usedSlots_modify onPage fun page => page.release handle.slot.toNat
  change usedSlots (memory.onPage handle _) + page.used = memory.usedSlots + (page.used - 1)
    at counted
  omega

theorem usedSlots_store (fits : Fits (memory.cell handle) handle) (value : Value) :
    usedSlots (memory.onPage handle fun page => page.store handle.slot.toNat value) =
      memory.usedSlots := by
  rcases page_of_fits fits with ⟨page, onPage, -⟩
  have counted := usedSlots_modify onPage fun page => page.store handle.slot.toNat value
  exact Nat.add_right_cancel counted

end Counting

/-! ## Live handles -/

/-- The handles that were issued and have not been given back since, by a history with
the latest exchange first. -/
def liveHandles : List Exchange → List Handle
  | [] => []
  | ⟨.allocate _, .issued handle⟩ :: earlier => handle :: liveHandles earlier
  | ⟨.free handle, .held _⟩ :: earlier => (liveHandles earlier).erase handle
  | _ :: earlier => liveHandles earlier

/-- The greatest number of handles that were live at once. -/
def peak : List Exchange → Nat
  | [] => 0
  | latest :: earlier => max (liveHandles (latest :: earlier)).length (peak earlier)

theorem length_liveHandles_le (history : List Exchange) :
    (liveHandles history).length ≤ peak history := by
  cases history with
  | nil => exact Nat.le_refl 0
  | cons latest earlier => exact Nat.le_max_left _ _

theorem peak_cons_of_le {latest : Exchange} {earlier : List Exchange}
    (fewer : (liveHandles (latest :: earlier)).length ≤ (liveHandles earlier).length) :
    peak (latest :: earlier) = peak earlier :=
  Nat.max_eq_right (Nat.le_trans fewer (length_liveHandles_le earlier))

theorem liveHandles_refused (request : Request) (error : MemoryError) (earlier : List Exchange) :
    liveHandles (⟨request, .refused error⟩ :: earlier) = liveHandles earlier := by
  cases request <;> rfl

namespace Session

/-- Memory is in order, counts the live handles, and has the pages that their greatest
number needs. -/
structure Filled (session : Session) : Prop where
  kept : session.memory.Kept
  live_of_fits : ∀ handle, Fits (session.memory.cell handle) handle →
    handle ∈ liveHandles session.history
  usedSlots_eq : session.memory.usedSlots = (liveHandles session.history).length
  pages_le_iff : ∀ count, session.memory.pages.length ≤ count ↔
    peak session.history ≤ session.memory.pageSize * count

section Step

variable {session : Session}

/-- An exchange that leaves the live handles alone, and changes no count, keeps memory
filled. -/
theorem Filled.idle (filled : session.Filled) {exchange : Exchange} {next : Memory}
    (kept : next.Kept)
    (fits : ∀ handle, Fits (next.cell handle) handle → Fits (session.memory.cell handle) handle)
    (live : liveHandles (exchange :: session.history) = liveHandles session.history)
    (counted : next.usedSlots = session.memory.usedSlots)
    (pages : next.pages.length = session.memory.pages.length)
    (pageSize : next.pageSize = session.memory.pageSize) :
    Filled ⟨next, exchange :: session.history⟩ := by
  refine ⟨kept, ?_, ?_, ?_⟩
  · intro handle now
    rw [live]
    exact filled.live_of_fits handle (fits handle now)
  · rw [live, counted]
    exact filled.usedSlots_eq
  · intro count
    rw [peak_cons_of_le (Nat.le_of_eq (congrArg List.length live)), pages, pageSize]
    exact filled.pages_le_iff count

theorem Filled.allocate (filled : session.Filled) (value : Value) :
    Filled ⟨(session.memory.allocate value).1,
      ⟨.allocate value, .issued (session.memory.allocate value).2⟩ :: session.history⟩ := by
  have taken := takes_allocate filled.kept value
  have kept := taken.kept filled.kept
  have counted := taken.usedSlots_eq
  have live : (liveHandles (⟨.allocate value, .issued (session.memory.allocate value).2⟩ ::
      session.history)).length = session.memory.usedSlots + 1 := by
    rw [filled.usedSlots_eq]
    rfl
  refine ⟨kept, ?_, ?_, ?_⟩
  · intro handle fits
    rcases fits_of_allocate filled.kept.formed fits with rfl | before
    · exact List.mem_cons_self
    · exact List.mem_cons_of_mem _ (filled.live_of_fits handle before)
  · rw [live]
    exact counted
  · intro count
    change _ ↔ max _ (peak session.history) ≤ _
    rw [live, taken.pageSize_eq]
    exact taken.length_pages_le_iff filled.kept filled.pages_le_iff count

theorem Filled.free (filled : session.Filled) {handle : Handle}
    (fits : Fits (session.memory.cell handle) handle) :
    Filled ⟨session.memory.onPage handle fun page => page.release handle.slot.toNat,
      ⟨.free handle, .held (session.memory.cell handle).value⟩ :: session.history⟩ := by
  have replaced := replaces_free filled.kept.formed fits
  have listed := filled.live_of_fits handle fits
  have counted := filled.kept.usedSlots_release fits
  have live : (liveHandles (⟨.free handle, .held (session.memory.cell handle).value⟩ ::
      session.history)).length + 1 = (liveHandles session.history).length :=
    List.length_erase_add_one listed
  refine ⟨filled.kept.release fits, ?_, ?_, ?_⟩
  · intro other now
    -- The slot that was given back fits no handle, so the handle is another one.
    rw [replaced.cell_eq] at now
    by_cases place : other.place = handle.place
    · rw [if_pos place] at now
      cases now.1
    · rw [if_neg place] at now
      have differs : other ≠ handle := fun same => place (congrArg Handle.place same)
      exact (List.mem_erase_of_ne differs).mpr (filled.live_of_fits other now)
  · have before := filled.usedSlots_eq
    exact Nat.add_right_cancel (counted.trans (before.trans live.symm))
  · intro count
    rw [peak_cons_of_le (Nat.le_of_succ_le (Nat.le_of_eq live))]
    have pages : (session.memory.onPage handle fun page =>
        page.release handle.slot.toNat).pages.length = session.memory.pages.length :=
      List.length_modify ..
    rw [pages]
    exact filled.pages_le_iff count

theorem Filled.write (filled : session.Filled) {handle : Handle}
    (fits : Fits (session.memory.cell handle) handle) (value : Value) :
    Filled ⟨session.memory.onPage handle fun page => page.store handle.slot.toNat value,
      ⟨.write handle value, .written⟩ :: session.history⟩ := by
  refine filled.idle (filled.kept.store fits value) ?_ rfl (usedSlots_store fits value)
    (List.length_modify ..) rfl
  intro other now
  rw [(replaces_write filled.kept.formed fits value).cell_eq] at now
  by_cases place : other.place = handle.place
  · rw [if_pos place] at now
    have same := (Handle.eq_iff_of_place place).mpr now.2.symm
    rw [same]
    exact fits
  · rw [if_neg place] at now
    exact now

theorem Filled.served (filled : session.Filled) {request : Request} {next : Memory}
    {reply : Reply} (served : session.memory.Served request next reply) :
    Filled ⟨next, ⟨request, reply⟩ :: session.history⟩ := by
  cases served with
  | allocate value => exact filled.allocate value
  | free fits => exact filled.free fits
  | read fits => exact filled.idle filled.kept (fun _ => id) rfl rfl rfl rfl
  | write fits => exact filled.write fits _
  | refused =>
      exact filled.idle filled.kept (fun _ => id) (liveHandles_refused _ _ _) rfl rfl rfl

end Step

/-- No handle is live twice, and each live one may be used. -/
structure Told (session : Session) : Prop where
  nodup : (liveHandles session.history).Nodup
  fits_of_live : ∀ handle ∈ liveHandles session.history, Fits (session.memory.cell handle) handle

/-- A request about one handle leaves the other live ones usable. -/
theorem Told.served {session : Session} (told : session.Told) (formed : session.memory.Formed)
    (slots : session.memory.pageSize ≤ UInt32.size)
    (pages : session.memory.pages.length < UInt32.size) {request : Request} {next : Memory}
    {reply : Reply} (served : session.memory.Served request next reply) :
    Told ⟨next, ⟨request, reply⟩ :: session.history⟩ := by
  have others {other : Handle} (live : other ∈ liveHandles session.history)
      (apart : request.handle? ≠ some other) : Fits (next.cell other) other := by
    have fits := told.fits_of_live other live
    rw [served.cell_eq formed slots pages fits apart]
    exact fits
  cases served with
  | allocate value =>
      have allocated := allocated_allocate formed slots value
        (Nat.le_trans (session.memory.pages_allocate_le value) pages)
      have issued : (session.memory.allocate value).2 ∉ liveHandles session.history := by
        intro live
        have used := (told.fits_of_live _ live).1
        rw [allocated.unused] at used
        cases used
      refine ⟨List.nodup_cons.mpr ⟨issued, told.nodup⟩, List.forall_mem_cons.mpr ⟨?_, ?_⟩⟩
      · rw [allocated.cell_eq, if_pos rfl]
        exact ⟨rfl, rfl⟩
      · exact fun other live => others live nofun
  | @free handle fits =>
      refine ⟨told.nodup.erase handle, fun other live => ?_⟩
      rcases (told.nodup.mem_erase_iff).mp live with ⟨differs, before⟩
      exact others before fun same => differs (Option.some.inj same).symm
  | read => exact ⟨told.nodup, told.fits_of_live⟩
  | @write handle value fits =>
      refine ⟨told.nodup, fun other live => ?_⟩
      by_cases same : other = handle
      · subst same
        rw [(replaces_write formed fits value).cell_eq, if_pos rfl]
        exact ⟨rfl, rfl⟩
      · exact others live fun about => same (Option.some.inj about).symm
  | refused =>
      constructor
      · rw [liveHandles_refused]
        exact told.nodup
      · rw [liveHandles_refused]
        exact told.fits_of_live

end Session

/-! ## Memory after a history -/

/-- Three values fill a page of two slots and begin another one.  A slot that is given back
is taken before the page is filled further. -/
example :
    let session := Session.run 2 [.allocate .unset, .allocate (.integer 7), .allocate .unset,
      .free ⟨0, 0, 0⟩, .allocate (.text "again"), .free ⟨0, 0, 0⟩, .free ⟨0, 1, 0⟩]
    liveHandles session.history = [⟨0, 0, 1⟩, ⟨1, 0, 0⟩] ∧ peak session.history = 3 ∧
      session.memory.pages.map Page.used = [1, 1] ∧
      (session.memory.allocate .unset).2 = ⟨0, 1, 1⟩ := by
  decide

end Memory
end CommandMachine
