import CommandMachine.Memory
import Mathlib.Data.Nat.Basic
namespace CommandMachine

/-!
# What the operations of memory do to its slots

A place is a page and a slot on it.  A place without a slot is treated like one with
a slot that was never used: that is what the slot will be once the page is there.
In this reading no operation changes more than one place, although taking a slot
may add a whole page.
-/

/-- The place that a handle points to, whatever its generation. -/
def Handle.place (handle : Handle) : UInt32 × UInt32 :=
  (handle.page, handle.slot)

theorem Handle.place_eq_iff (left right : Handle) :
    left.place = right.place ↔
      left.page.toNat = right.page.toNat ∧ left.slot.toNat = right.slot.toNat := by
  rw [UInt32.toNat_inj, UInt32.toNat_inj]
  exact Prod.mk.injEq _ _ _ _ ▸ Iff.rfl

theorem Handle.eq_iff_of_place {left right : Handle} (samePlace : left.place = right.place) :
    left = right ↔ left.generation = right.generation := by
  rcases left with ⟨page, slot, generation⟩
  cases samePlace
  constructor
  · intro same
    rw [same]
  · rintro rfl
    rfl

namespace Memory

/-! ## Places -/

/-- The slot at a place, counted from the first page. -/
def slotAt? (pages : List Page) (index slot : Nat) : Option Slot :=
  (pages[index]?).bind fun page => page.slots[slot]?

/-- What there is, or will be, at the place of a handle. -/
def cell (memory : Memory) (handle : Handle) : Slot :=
  (memory.slot? handle).getD Slot.fresh

theorem cell_of_slot? {memory : Memory} {handle : Handle} {slot : Slot}
    (found : memory.slot? handle = some slot) : memory.cell handle = slot := by
  rw [cell, found, Option.getD_some]

theorem slot?_of_cell {memory : Memory} {handle : Handle}
    (touched : memory.cell handle ≠ Slot.fresh) :
    memory.slot? handle = some (memory.cell handle) := by
  cases found : memory.slot? handle with
  | none =>
      rw [cell, found] at touched
      exact absurd rfl touched
  | some slot => rw [cell_of_slot? found]

theorem slotAt?_modify (pages : List Page) (index slot : Nat) {change : Page → Page}
    {update : Slot → Slot}
    (changes : ∀ page, (change page).slots = page.slots.modify slot update) (other place : Nat) :
    slotAt? (pages.modify index change) other place =
      if other = index ∧ place = slot then (slotAt? pages other place).map update
      else slotAt? pages other place := by
  unfold slotAt?
  rw [List.getElem?_modify]
  cases pages[other]? with
  | none => simp
  | some page =>
      by_cases samePage : index = other
      · subst samePage
        by_cases sameSlot : slot = place
        · subst sameSlot
          simp [changes]
        · simp [changes, sameSlot, Ne.symm sameSlot]
      · simp [samePage, Ne.symm samePage]

theorem cell_onPage {memory : Memory} {handle : Handle} {slot : Slot} {change : Page → Page}
    {update : Slot → Slot} (found : memory.slot? handle = some slot)
    (changes : ∀ page, (change page).slots = page.slots.modify handle.slot.toNat update)
    (other : Handle) :
    (memory.onPage handle change).cell other =
      if other.place = handle.place then update slot else memory.cell other := by
  have after : (memory.onPage handle change).slot? other = _ :=
    slotAt?_modify memory.pages handle.page.toNat handle.slot.toNat changes
      other.page.toNat other.slot.toNat
  rw [cell, after]
  by_cases same : other.place = handle.place
  · have coordinates := (other.place_eq_iff handle).mp same
    rw [if_pos coordinates, if_pos same, coordinates.1, coordinates.2]
    change ((memory.slot? handle).map update).getD Slot.fresh = update slot
    rw [found, Option.map_some, Option.getD_some]
  · rw [if_neg (mt (other.place_eq_iff handle).mpr same), if_neg same]
    rfl

theorem cell_congr (memory : Memory) {left right : Handle} (same : left.place = right.place) :
    memory.cell left = memory.cell right := by
  have coordinates := (left.place_eq_iff right).mp same
  rw [cell, cell, slot?, slot?, coordinates.1, coordinates.2]

/-! ## Pages -/

/-- Every page has as many slots as the memory says, and that is not none. -/
structure Formed (memory : Memory) : Prop where
  positive : 0 < memory.pageSize
  capacity : ∀ page ∈ memory.pages, page.slots.length = memory.pageSize

theorem formed_ofPageSize (pageSize : Nat) : (ofPageSize pageSize).Formed :=
  ⟨Nat.le_max_right pageSize 1, fun _ member => (List.not_mem_nil member).elim⟩

theorem Formed.modify {memory : Memory} (formed : memory.Formed) (index slot : Nat)
    {change : Page → Page} {update : Slot → Slot}
    (changes : ∀ page, (change page).slots = page.slots.modify slot update) :
    Formed { memory with pages := memory.pages.modify index change } := by
  refine ⟨formed.positive, ?_⟩
  intro page member
  rcases List.mem_iff_getElem?.mp member with ⟨other, found⟩
  rw [List.getElem?_modify] at found
  rcases Option.map_eq_some_iff.mp found with ⟨old, listed, rfl⟩
  have size := formed.capacity old (List.mem_of_getElem? listed)
  by_cases same : index = other
  · simp [same, changes, size]
  · simp [same, size]

/-- One memory becomes the other when a slot is put at the place of a handle.  Other
places stay as they are. -/
structure Replaces (memory next : Memory) (handle : Handle) (slot : Slot) : Prop where
  formed : next.Formed
  pageSize_eq : next.pageSize = memory.pageSize
  cell_eq : ∀ other, next.cell other =
    if other.place = handle.place then slot else memory.cell other

theorem replaces_onPage {memory : Memory} (formed : memory.Formed) {handle : Handle}
    {slot : Slot} (found : memory.slot? handle = some slot) (change : Page → Page)
    (update : Slot → Slot)
    (changes : ∀ page, (change page).slots = page.slots.modify handle.slot.toNat update) :
    memory.Replaces (memory.onPage handle change) handle (update slot) where
  formed := formed.modify handle.page.toNat handle.slot.toNat changes
  pageSize_eq := rfl
  cell_eq := cell_onPage found changes

/-! ## Finding a free slot -/

theorem freeSlot?_free {page : Page} {index : Nat} (found : page.freeSlot? = some index) :
    ∃ slot, page.slots[index]? = some slot ∧ slot.used = false := by
  unfold Page.freeSlot? at found
  split at found
  · cases found
  · rcases List.findIdx?_eq_some_iff_getElem.mp found with ⟨inside, unused, -⟩
    exact ⟨page.slots[index], List.getElem?_eq_getElem inside, by simpa using unused⟩

theorem findFree?_free {pages : List Page} {first index slot : Nat}
    (found : findFree? first pages = some (index, slot)) :
    ∃ offset free, index = first + offset ∧ slotAt? pages offset slot = some free ∧
      free.used = false := by
  induction pages generalizing first with
  | nil => cases found
  | cons page rest ih =>
      unfold findFree? at found
      split at found
      · rename_i place here
        cases found
        rcases freeSlot?_free here with ⟨free, listed, unused⟩
        exact ⟨0, free, rfl, by simpa [slotAt?] using listed, unused⟩
      · rcases ih found with ⟨offset, free, rfl, listed, unused⟩
        refine ⟨offset + 1, free, by omega, ?_, unused⟩
        simpa [slotAt?] using listed

/-- A new page changes no place. -/
theorem slotAt?_append_fresh (pages : List Page) (size index slot : Nat) :
    (slotAt? (pages ++ [Page.fresh size]) index slot).getD Slot.fresh =
      (slotAt? pages index slot).getD Slot.fresh := by
  unfold slotAt?
  rcases Nat.lt_trichotomy index pages.length with old | rfl | beyond
  · rw [List.getElem?_append_left old]
  · simp only [List.getElem?_concat_length, Option.bind_some, Page.fresh,
      List.getElem?_eq_none (Nat.le_refl pages.length), Option.bind_none, Option.getD_none]
    by_cases inside : slot < size
    · simp [inside]
    · simp [inside]
  · have last : (pages ++ [Page.fresh size]).length ≤ index := by
      rw [List.length_append]
      exact beyond
    rw [List.getElem?_eq_none last, List.getElem?_eq_none (Nat.le_of_lt beyond)]

/-- The pages that `prepare` gives have a free slot at the place it tells, and are
otherwise as before. -/
structure Prepared (memory : Memory) (pages : List Page) (index slot : Nat) : Prop where
  formed : Formed { memory with pages }
  same : ∀ other place, (slotAt? pages other place).getD Slot.fresh =
    (slotAt? memory.pages other place).getD Slot.fresh
  free : ∃ free, slotAt? pages index slot = some free ∧ free.used = false
  slot_lt : slot < memory.pageSize

theorem prepared_prepare {memory : Memory} (formed : memory.Formed) :
    memory.Prepared memory.prepare.1 memory.prepare.2.1 memory.prepare.2.2 := by
  unfold prepare
  split
  · rename_i index slot found
    rcases findFree?_free found with ⟨offset, free, place, listed, unused⟩
    rw [Nat.zero_add] at place
    subst place
    rcases Option.bind_eq_some_iff.mp listed with ⟨page, onPage, onSlot⟩
    rcases List.getElem?_eq_some_iff.mp onSlot with ⟨fits, -⟩
    have size := formed.capacity page (List.mem_of_getElem? onPage)
    exact ⟨formed, fun _ _ => rfl, ⟨free, listed, unused⟩, size ▸ fits⟩
  · refine ⟨⟨formed.positive, ?_⟩, slotAt?_append_fresh _ _, ⟨Slot.fresh, ?_, rfl⟩,
      formed.positive⟩
    · intro page member
      rcases List.mem_append.mp member with old | new
      · exact formed.capacity page old
      · rw [List.mem_singleton.mp new]
        exact List.length_replicate
    · simp [slotAt?, Page.fresh, formed.positive]

/-! ## Taking a slot -/

/-- What `allocate` does: its handle points to a free place and carries the generation
found there. -/
structure Allocated (memory next : Memory) (value : Value) (handle : Handle) : Prop
    extends Replaces memory next handle ⟨true, handle.generation, value⟩ where
  unused : (memory.cell handle).used = false
  generation_eq : handle.generation = (memory.cell handle).generation

/-- The generation that `allocate` reads is that of the slot it takes. -/
theorem generation_of_slotAt? {pages : List Page} {index slot : Nat} {free : Slot}
    (listed : slotAt? pages index slot = some free) :
    (match pages[index]? with
      | some page => page.generation slot
      | none => 0) = free.generation := by
  rcases Option.bind_eq_some_iff.mp listed with ⟨page, onPage, onSlot⟩
  simp only [onPage, Page.generation, onSlot]

theorem Prepared.allocated {memory : Memory} {ready : List Page} {index slot : Nat}
    (prepared : memory.Prepared ready index slot) (slots : memory.pageSize ≤ UInt32.size)
    (pages : ready.length ≤ UInt32.size) (value : Value) :
    memory.Allocated
      { memory with pages := ready.modify index fun page => page.occupy slot value } value
      ⟨UInt32.ofNat index, UInt32.ofNat slot,
        match ready[index]? with
        | some page => page.generation slot
        | none => 0⟩ := by
  rcases prepared.free with ⟨free, listed, unused⟩
  rw [generation_of_slotAt? listed]
  rcases Option.bind_eq_some_iff.mp listed with ⟨page, found, -⟩
  have inside := (List.getElem?_eq_some_iff.mp found).1
  have onPage : (UInt32.ofNat index).toNat = index :=
    UInt32.toNat_ofNat_of_lt (Nat.lt_of_lt_of_le inside pages)
  have onSlot : (UInt32.ofNat slot).toNat = slot :=
    UInt32.toNat_ofNat_of_lt (Nat.lt_of_lt_of_le prepared.slot_lt slots)
  have taken : memory.cell ⟨UInt32.ofNat index, UInt32.ofNat slot, free.generation⟩ = free := by
    change (slotAt? memory.pages (UInt32.ofNat index).toNat
      (UInt32.ofNat slot).toNat).getD Slot.fresh = free
    rw [onPage, onSlot, ← prepared.same, listed, Option.getD_some]
  have occupies : ∀ page : Page, (page.occupy slot value).slots =
      page.slots.modify slot fun old => ⟨true, old.generation, value⟩ := fun _ => rfl
  refine ⟨⟨prepared.formed.modify index slot occupies, rfl, ?_⟩, ?_, ?_⟩
  · intro other
    have place := other.place_eq_iff ⟨UInt32.ofNat index, UInt32.ofNat slot, free.generation⟩
    simp only [onPage, onSlot] at place
    change (slotAt? (ready.modify index _) other.page.toNat other.slot.toNat).getD Slot.fresh = _
    rw [slotAt?_modify ready index slot occupies]
    by_cases here : other.page.toNat = index ∧ other.slot.toNat = slot
    · rw [if_pos here, here.1, here.2, listed, Option.map_some, Option.getD_some]
      exact (if_pos (place.mpr here)).symm
    · rw [if_neg here, prepared.same]
      exact (if_neg (mt place.mp here)).symm
  · rw [taken]
    exact unused
  · rw [taken]

theorem length_allocate (memory : Memory) (value : Value) :
    (memory.allocate value).1.pages.length = memory.prepare.1.length :=
  List.length_modify _ _ _

/-- At most one page is added. -/
theorem pages_allocate_le (memory : Memory) (value : Value) :
    (memory.allocate value).1.pages.length ≤ memory.pages.length + 1 := by
  rw [length_allocate]
  unfold prepare
  split <;> simp

theorem allocated_allocate {memory : Memory} (formed : memory.Formed)
    (slots : memory.pageSize ≤ UInt32.size) (value : Value)
    (pages : (memory.allocate value).1.pages.length ≤ UInt32.size) :
    memory.Allocated (memory.allocate value).1 value (memory.allocate value).2 :=
  (prepared_prepare formed).allocated slots (memory.length_allocate value ▸ pages) value

/-! ## Using a slot -/

section Use

variable {memory : Memory} {handle : Handle}

/-- A place has one handle that fits at most. -/
theorem Fits.eq_of_place {other : Handle} (fits : Fits (memory.cell handle) handle)
    (otherFits : Fits (memory.cell other) other) (place : other.place = handle.place) :
    other = handle := by
  rw [Handle.eq_iff_of_place place, ← otherFits.2, ← fits.2, memory.cell_congr place]

theorem slot?_of_fits (fits : Fits (memory.cell handle) handle) :
    memory.slot? handle = some (memory.cell handle) := by
  apply slot?_of_cell
  intro fresh
  rw [fresh] at fits
  cases fits.1

theorem live_of_fits (fits : Fits (memory.cell handle) handle) :
    memory.live handle = .ok (memory.cell handle) := by
  rw [live, slot?_of_fits fits]
  exact if_pos fits

theorem live_of_touched (touched : memory.cell handle ≠ Slot.fresh)
    (unfit : ¬ Fits (memory.cell handle) handle) :
    memory.live handle = .error (.staleHandle handle) := by
  rw [live, slot?_of_cell touched]
  exact if_neg unfit

theorem live_of_not_fits (unfit : ¬ Fits (memory.cell handle) handle) :
    ∃ error, memory.live handle = .error error := by
  cases found : memory.slot? handle with
  | none => exact ⟨.outOfRange handle, by rw [live, found]⟩
  | some slot =>
      rw [cell_of_slot? found] at unfit
      refine ⟨.staleHandle handle, ?_⟩
      rw [live, found]
      exact if_neg unfit

theorem read_eq_ok_iff (value : Value) :
    memory.read handle = .ok value ↔
      Fits (memory.cell handle) handle ∧ (memory.cell handle).value = value := by
  by_cases fits : Fits (memory.cell handle) handle
  · simp [read, live_of_fits fits, Except.map, fits]
  · rcases live_of_not_fits fits with ⟨error, failed⟩
    simp [read, failed, Except.map, fits]

theorem write_of_fits (fits : Fits (memory.cell handle) handle) (value : Value) :
    memory.write handle value =
      .ok (memory.onPage handle fun page => page.store handle.slot.toNat value) := by
  rw [write, live_of_fits fits]
  rfl

theorem write_of_not_fits (unfit : ¬ Fits (memory.cell handle) handle) (value : Value) :
    ∃ error, memory.write handle value = .error error := by
  rcases live_of_not_fits unfit with ⟨error, failed⟩
  exact ⟨error, by rw [write, failed]; rfl⟩

/-- A used slot is never taken for one that was freed twice. -/
theorem free_of_fits (fits : Fits (memory.cell handle) handle) :
    memory.free handle =
      .ok (memory.onPage handle fun page => page.release handle.slot.toNat,
        (memory.cell handle).value) := by
  have used : ¬ ((memory.cell handle).used = false ∧
      (memory.cell handle).generation = handle.generation + 1) := by
    simp [fits.1]
  rw [free, slot?_of_fits fits]
  simp only [if_neg used, if_pos fits]

theorem free_of_not_fits (unfit : ¬ Fits (memory.cell handle) handle) :
    ∃ error, memory.free handle = .error error := by
  cases found : memory.slot? handle with
  | none => exact ⟨.outOfRange handle, by rw [free, found]⟩
  | some slot =>
      rw [cell_of_slot? found] at unfit
      by_cases twice : slot.used = false ∧ slot.generation = handle.generation + 1
      · exact ⟨.doubleFree handle, by rw [free, found]; exact if_pos twice⟩
      · refine ⟨.staleHandle handle, ?_⟩
        rw [free, found]
        simp only [if_neg twice, if_neg unfit]

theorem replaces_write (formed : memory.Formed) (fits : Fits (memory.cell handle) handle)
    (value : Value) :
    memory.Replaces (memory.onPage handle fun page => page.store handle.slot.toNat value) handle
      ⟨true, handle.generation, value⟩ := by
  have replaces := replaces_onPage formed (slot?_of_fits fits)
    (fun page => page.store handle.slot.toNat value)
    (fun slot => ⟨slot.used, slot.generation, value⟩) fun _ => rfl
  rw [fits.1, fits.2] at replaces
  exact replaces

theorem replaces_free (formed : memory.Formed) (fits : Fits (memory.cell handle) handle) :
    memory.Replaces (memory.onPage handle fun page => page.release handle.slot.toNat) handle
      ⟨false, handle.generation + 1, .unset⟩ := by
  have replaces := replaces_onPage formed (slot?_of_fits fits)
    (fun page => page.release handle.slot.toNat)
    (fun slot => ⟨false, slot.generation + 1, .unset⟩) fun _ => rfl
  rw [fits.2] at replaces
  exact replaces

end Use

end Memory
end CommandMachine
