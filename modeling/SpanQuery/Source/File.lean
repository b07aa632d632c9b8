import SpanQuery.Csv.Samples
import SpanQuery.Database.Image
import SpanQuery.Database.Source
import SpanQuery.Files

namespace SpanQuery

def Memory.ofLook : Look → Except FetchError Memory
  | .ok bytes => (Csv.memory bytes).mapError fun fault => .records fault.message
  | .error .isDirectory => .ok .empty
  | .error fault => .error (.io fault.message)

def Connection.ofLook (path : String) (look : Look) : Except FetchError Connection :=
  match look with
  | .ok bytes => .ok (.ofDatabase (.ofBytes bytes))
  | .error _ =>
      if look.isPresent then .error .database
      else .error (.unavailable ("archive database " ++ path ++ " does not exist"))

inductive FileSource where
  | records (m : Memory)
  | databases (a : SplitArchive)

namespace FileSource

def source : Source FileSource :=
  fun r s =>
    match s with
    | records m =>
        let (answer, m) := Memory.source r m
        (answer, records m)
    | databases a =>
        let (answer, a) := SplitArchive.source r a
        (answer, databases a)

end FileSource

end SpanQuery
