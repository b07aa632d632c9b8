import SpanQuery.Files

namespace SpanQuery

open Text (Bytes)

inductive FileAccess (α : Type) where
  | done (a : α)
  | read (path : String) (next : Look → FileAccess α)
  | write (path : String) (bytes : Bytes) (next : Except FileFault Unit → FileAccess α)

namespace FileAccess

protected def bind : FileAccess α → (α → FileAccess β) → FileAccess β
  | done a, f => f a
  | read path next, f => read path fun look => (next look).bind f
  | write path bytes next, f => write path bytes fun result => (next result).bind f

instance : Monad FileAccess where
  pure := done
  bind := FileAccess.bind

def look (path : String) : FileAccess Look :=
  read path done

def save (path : String) (bytes : Bytes) : FileAccess (Except FileFault Unit) :=
  write path bytes done

def carryOut [Monad m] (reader : String → m Look)
    (writer : String → Bytes → m (Except FileFault Unit)) : FileAccess α → m α
  | done a => pure a
  | read path next => do (next (← reader path)).carryOut reader writer
  | write path bytes next => do (next (← writer path bytes)).carryOut reader writer

end FileAccess

namespace FileTree

def write (path : String) (bytes : Bytes) : StateM FileTree (Except FileFault Unit) :=
  fun t =>
    match t.target path with
    | .ok place => (.ok (), t.put place bytes)
    | .error fault => (.error fault, t)

def carryOut (access : FileAccess α) : StateM FileTree α :=
  access.carryOut (fun path t => (t.look path, t)) write

end FileTree

end SpanQuery
