/-
# Host memory of a context

Host blocks come from the device that has an allocator for them, if the
context has one, and then every request goes there as it is. Otherwise they
come from the process heap; the pool remembers each block with its layout, so
that it can give it back, and gives back what is left when it closes. A block
the pool does not know is left alone.

Key definitions: `HostPool`, `HostPool.allocate`, `HostPool.free`,
`HostPool.close`.
-/
import ComputeContext.Backend

namespace ComputeContext

/-- Where a context's host blocks come from, and which of the heap's it holds. -/
structure HostPool where
  /-- The device that allocates host memory. -/
  provider : Option DeviceId
  /-- The blocks of the heap that are live, newest first, at most one at an address. -/
  blocks : List (Address × Layout)
deriving DecidableEq

namespace HostPool

variable {σ : Type}

/-- A pool without blocks. -/
def ofProvider (provider : Option DeviceId) : HostPool := ⟨provider, []⟩

/-- Blocks come from a device. -/
def usesDevice (pool : HostPool) : Bool := pool.provider.isSome

/-- How many blocks of the heap are live. -/
def liveBlocks (pool : HostPool) : Nat := pool.blocks.length

/-- The layout of a live block. -/
def layoutOf? (pool : HostPool) (p : Address) : Option Layout := pool.blocks.lookup p

/-- The pool without the block at an address. -/
def forget (pool : HostPool) (p : Address) : HostPool :=
  { pool with blocks := pool.blocks.filter fun block => block.1 ≠ p }

/-- The pool with a block. -/
def remember (pool : HostPool) (p : Address) (layout : Layout) : HostPool :=
  { pool with blocks := (p, layout) :: (pool.forget p).blocks }

/-- A block of the heap; a size of zero and an alignment that no layout has are refused. -/
def allocateFromHeap (b : Backend σ) (pool : HostPool) (size alignment : UInt64) :
    Run σ (Option Address × HostPool) :=
  match if size = 0 then none else Layout.ofRequest? size alignment with
  | none => pure (none, pool)
  | some layout => do
    match ← b.heapAlloc layout with
    | none => return (none, pool)
    | some p => return (some p, pool.remember p layout)

/-- A block from the device, or from the heap when there is none. -/
def allocate (b : Backend σ) (pool : HostPool) (size alignment : UInt64) (atomics : Bool) :
    Run σ (Option Address × HostPool) :=
  match pool.provider with
  | some d => do return (← b.hostAlloc d size alignment (.ofAtomics atomics), pool)
  | none => allocateFromHeap b pool size alignment

/-- Frees a block where it came from. -/
def free (b : Backend σ) (pool : HostPool) (p : Address) : Run σ HostPool :=
  match pool.provider with
  | some d => do
    b.hostFree d p
    return pool
  | none =>
    match pool.layoutOf? p with
    | none => pure pool
    | some layout => do
      b.heapFree layout p
      return pool.forget p

/-- Gives blocks back to the heap. -/
def giveBack (b : Backend σ) : List (Address × Layout) → Run σ Unit
  | [] => pure ()
  | (p, layout) :: rest => do
    b.heapFree layout p
    giveBack b rest

/-- Gives back what is left. -/
def close (b : Backend σ) (pool : HostPool) : Run σ Unit := giveBack b pool.blocks

end HostPool
end ComputeContext
