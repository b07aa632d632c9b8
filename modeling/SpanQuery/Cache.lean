import SpanQuery.Keyed
import SpanQuery.Source

namespace SpanQuery

structure CachedWindow where
  t0 : Tick
  t1 : Tick
  samples : List Sample

def CachedWindow.covers (w : CachedWindow) (r : Request) : Bool :=
  w.t0 ≤ r.t0 && r.t1 ≤ w.t1

structure Cache where
  windows : Keyed CachedWindow
  hits : Nat
  misses : Nat

namespace Cache

def empty : Cache := ⟨[], 0, 0⟩

def clear (c : Cache) : Cache :=
  { c with windows := [] }

def size (c : Cache) : Nat :=
  c.windows.length

def find? (c : Cache) (r : Request) : Option CachedWindow :=
  (c.windows.get? r.name).filter (·.covers r)

/-- The cache after the answer to a request that no window covered. -/
def remember (c : Cache) (r : Request) : Answer → Cache
  | .error _ => c
  | .ok samples => { c with windows := c.windows.put r.name ⟨r.t0, r.t1, samples⟩ }

/-- A source with a cache before it, which cuts answers out of its windows in the given way. -/
def sourceBy (slice : List Sample → Tick → Tick → List Sample) (inner : Source σ) :
    Source (Cache × σ) :=
  fun r (c, s) =>
    match c.find? r with
    | some w => (.ok (slice w.samples r.t0 r.t1), ({ c with hits := c.hits + 1 }, s))
    | none =>
        let (answer, s) := inner r s
        (answer, ({ c with misses := c.misses + 1 }.remember r answer, s))

def source (inner : Source σ) : Source (Cache × σ) :=
  sourceBy Sample.window inner

section
variable (slice : List Sample → Tick → Tick → List Sample) (inner : Source σ)

theorem sourceBy_hit {c : Cache} {r : Request} {w : CachedWindow} (found : c.find? r = some w)
    (s : σ) :
    sourceBy slice inner r (c, s) =
      (.ok (slice w.samples r.t0 r.t1), ({ c with hits := c.hits + 1 }, s)) := by
  simp only [sourceBy, found]

theorem sourceBy_miss {c : Cache} {r : Request} (missing : c.find? r = none) (s : σ) :
    sourceBy slice inner r (c, s) =
      ((inner r s).1,
        ({ c with misses := c.misses + 1 }.remember r (inner r s).1, (inner r s).2)) := by
  simp only [sourceBy, missing]
  rfl

end

def sourceIf (used : Bool) (inner : Source σ) : Source (Cache × σ) :=
  if used then source inner
  else fun r (c, s) =>
    let (answer, s) := inner r s
    (answer, (c, s))

end Cache

end SpanQuery
