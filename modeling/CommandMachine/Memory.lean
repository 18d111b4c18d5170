import CommandMachine.Value.Basic
namespace CommandMachine

/-!
Memory for values without a name.  It grows by pages of a fixed number of slots
and never shrinks.  A new value takes the first free slot of the first page that
has one.  Freeing a slot moves its generation on, so that a handle kept for too
long no longer fits and is refused.
-/

structure Slot where
  used : Bool
  generation : UInt32
  value : Value
deriving DecidableEq

/-- A slot that was never used. -/
def Slot.fresh : Slot :=
  ⟨false, 0, .unset⟩

/-- A row of slots with a count of those in use. -/
structure Page where
  slots : List Slot
  used : Nat
deriving DecidableEq

namespace Page

/-- A page on which every slot is free. -/
def fresh (size : Nat) : Page :=
  ⟨List.replicate size Slot.fresh, 0⟩

def capacity (page : Page) : Nat :=
  page.slots.length

/-- Whether the count says that every slot is in use. -/
def isFull (page : Page) : Bool :=
  page.used == page.capacity

/-- The first free slot.  A full page is not searched. -/
def freeSlot? (page : Page) : Option Nat :=
  if page.isFull then none else page.slots.findIdx? fun slot => !slot.used

/-- Puts a value into a slot, which keeps its generation. -/
def occupy (page : Page) (index : Nat) (value : Value) : Page :=
  ⟨page.slots.modify index fun slot => ⟨true, slot.generation, value⟩, page.used + 1⟩

/-- Empties a slot and moves its generation on.  After `2 ^ 32` moves a generation
comes back. -/
def release (page : Page) (index : Nat) : Page :=
  ⟨page.slots.modify index fun slot => ⟨false, slot.generation + 1, .unset⟩, page.used - 1⟩

def store (page : Page) (index : Nat) (value : Value) : Page :=
  ⟨page.slots.modify index fun slot => ⟨slot.used, slot.generation, value⟩, page.used⟩

def generation (page : Page) (index : Nat) : UInt32 :=
  match page.slots[index]? with
  | some slot => slot.generation
  | none => 0

end Page

inductive MemoryError where
  | staleHandle (handle : Handle)
  | doubleFree (handle : Handle)
  | outOfRange (handle : Handle)
deriving DecidableEq, Repr

def MemoryError.message : MemoryError → String
  | .staleHandle handle => "stale handle " ++ handle.render
  | .doubleFree handle => "double free of " ++ handle.render
  | .outOfRange handle => "handle " ++ handle.render ++ " points outside the managed pages"

/-- All pages, and how many slots a new one gets. -/
structure Memory where
  pages : List Page
  pageSize : Nat
deriving DecidableEq

namespace Memory

/-- The page size where none is asked for. -/
def defaultPageSize : Nat := 256

/-- Memory without pages.  A page has at least one slot. -/
def ofPageSize (pageSize : Nat) : Memory :=
  ⟨[], max pageSize 1⟩

/-- Whether the next value needs a new page. -/
def isFull (memory : Memory) : Bool :=
  memory.pages.all fun page => page.freeSlot?.isNone

/-- The first free slot in the given pages, which are counted from `index` on. -/
def findFree? (index : Nat) : List Page → Option (Nat × Nat)
  | [] => none
  | page :: rest =>
    match page.freeSlot? with
    | some slot => some (index, slot)
    | none => findFree? (index + 1) rest

/-- Pages with a free slot, and where the first free slot is.  A page is added when
all slots are in use. -/
def prepare (memory : Memory) : List Page × Nat × Nat :=
  match findFree? 0 memory.pages with
  | some (page, slot) => (memory.pages, page, slot)
  | none => (memory.pages ++ [Page.fresh memory.pageSize], memory.pages.length, 0)

/-- Stores a value in the first free slot. -/
def allocate (memory : Memory) (value : Value) : Memory × Handle :=
  let (pages, index, slot) := memory.prepare
  let generation := match pages[index]? with
    | some page => page.generation slot
    | none => 0
  ({ memory with pages := pages.modify index fun page => page.occupy slot value },
    ⟨UInt32.ofNat index, UInt32.ofNat slot, generation⟩)

/-- The slot that a handle points to, whatever its generation. -/
def slot? (memory : Memory) (handle : Handle) : Option Slot :=
  (memory.pages[handle.page.toNat]?).bind fun page => page.slots[handle.slot.toNat]?

/-- Whether a handle may use the slot it points to. -/
def Fits (slot : Slot) (handle : Handle) : Prop :=
  slot.used = true ∧ slot.generation = handle.generation

instance (slot : Slot) (handle : Handle) : Decidable (Fits slot handle) :=
  inferInstanceAs (Decidable (_ ∧ _))

/-- The slot of a handle that may be used. -/
def live (memory : Memory) (handle : Handle) : Except MemoryError Slot :=
  match memory.slot? handle with
  | none => .error (.outOfRange handle)
  | some slot => if Fits slot handle then .ok slot else .error (.staleHandle handle)

/-- Changes the page that a handle points to. -/
def onPage (memory : Memory) (handle : Handle) (change : Page → Page) : Memory :=
  { memory with pages := memory.pages.modify handle.page.toNat change }

/-- Gives a slot back and returns the value it held.  A slot that is still empty
since this very handle was freed is told apart from one used again. -/
def free (memory : Memory) (handle : Handle) : Except MemoryError (Memory × Value) :=
  match memory.slot? handle with
  | none => .error (.outOfRange handle)
  | some slot =>
    if slot.used = false ∧ slot.generation = handle.generation + 1 then
      .error (.doubleFree handle)
    else if Fits slot handle then
      .ok (memory.onPage handle fun page => page.release handle.slot.toNat, slot.value)
    else .error (.staleHandle handle)

def read (memory : Memory) (handle : Handle) : Except MemoryError Value :=
  (memory.live handle).map Slot.value

def write (memory : Memory) (handle : Handle) (value : Value) : Except MemoryError Memory :=
  (memory.live handle).map fun _ =>
    memory.onPage handle fun page => page.store handle.slot.toNat value

/-- How many slots are in use, by the counts of the pages. -/
def usedSlots (memory : Memory) : Nat :=
  memory.pages.foldr (fun page count => page.used + count) 0

end Memory
end CommandMachine
