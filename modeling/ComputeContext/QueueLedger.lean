/-
# On-device queues

A ledger counts the queues that live on each device and remembers which queue
is the device's default. A device has an entry once a queue was added or
removed there, and keeps it when its last queue goes. The ledger itself admits
any number of queues; whether another one fits is a question the caller asks
first.

Removing a queue from a device without live queues is a mistake of the
caller, told by device and queue.

Key definitions: `QueueLedger`, `QueueLedger.add`, `QueueLedger.remove`,
`QueueLedger.canAdd`.
-/
import ComputeContext.Device
import Std.Data.HashMap

namespace ComputeContext

/-- Identity of an on-device queue. -/
structure QueueId where
  number : UInt64
deriving DecidableEq, Repr

/-- The queues of one device. -/
structure QueueEntry where
  /-- How many queues live. -/
  count : UInt32
  defaultQueue : Option QueueId
deriving DecidableEq, Repr

namespace QueueEntry

/-- No queues, and no default one. -/
def empty : QueueEntry := ⟨0, none⟩

/-- The entry with one more queue. -/
def add (e : QueueEntry) (queue : QueueId) (isDefault : Bool) : QueueEntry :=
  ⟨e.count + 1, if isDefault then some queue else e.defaultQueue⟩

/-- The entry with one queue less; the default is gone if it was that queue. -/
def remove (e : QueueEntry) (queue : QueueId) : QueueEntry :=
  ⟨e.count - 1, if e.defaultQueue = some queue then none else e.defaultQueue⟩

end QueueEntry

/-- A queue was removed from a device that has none. -/
structure QueueUnderflow where
  device : DeviceId
  queue : QueueId
deriving DecidableEq, Repr

/-- The mistake in words. -/
def QueueUnderflow.message (inventory : Inventory) (u : QueueUnderflow) : String :=
  "removing queue QueueId(" ++ toString u.queue.number.toNat ++ ") from device '" ++
    (inventory u.device).name ++ "' with no live queues"

/-- The queues of every device. -/
structure QueueLedger where
  entries : Std.HashMap DeviceId QueueEntry

namespace QueueLedger

/-- The ledger in which no device has an entry. -/
def empty : QueueLedger := ⟨∅⟩

instance : Inhabited QueueLedger := ⟨empty⟩

/-- The entry of a device, if it has one. -/
def find? (l : QueueLedger) (d : DeviceId) : Option QueueEntry := l.entries[d]?

/-- The entry of a device; without one it has no queues. -/
def entry (l : QueueLedger) (d : DeviceId) : QueueEntry := (l.find? d).getD .empty

/-- The ledger with a device's entry replaced. -/
def put (l : QueueLedger) (d : DeviceId) (e : QueueEntry) : QueueLedger := ⟨l.entries.insert d e⟩

/-- Another queue fits under the device's bound. -/
def canAdd (inventory : Inventory) (l : QueueLedger) (d : DeviceId) : Bool :=
  (l.entry d).count < (inventory d).maxQueues

/-- Records a new queue, whether it fits or not. -/
def add (l : QueueLedger) (d : DeviceId) (queue : QueueId) (isDefault : Bool) : QueueLedger :=
  l.put d ((l.entry d).add queue isDefault)

/-- Forgets a queue. Even when the device has none, it has an entry afterwards. -/
def remove (l : QueueLedger) (d : DeviceId) (queue : QueueId) :
    Except QueueUnderflow Unit × QueueLedger :=
  let e := l.entry d
  if e.count = 0 then (.error ⟨d, queue⟩, l.put d e) else (.ok (), l.put d (e.remove queue))

/-- The default queue of a device. -/
def defaultQueue (l : QueueLedger) (d : DeviceId) : Option QueueId := (l.entry d).defaultQueue

@[simp] theorem find?_put (l : QueueLedger) (d other : DeviceId) (e : QueueEntry) :
    (l.put d e).find? other = if other = d then some e else l.find? other := by
  simp only [put, find?, Std.HashMap.getElem?_insert, beq_iff_eq]
  by_cases h : other = d
  · simp [h]
  · simp [h, Ne.symm h]

end QueueLedger
end ComputeContext
