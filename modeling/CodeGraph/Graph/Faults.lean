import CodeGraph.Graph.Request

namespace CodeGraph

/-- What goes wrong: the ids of entities, and edges by their ends. -/
structure StoreFaults where
  unreadable : List String := []
  uncreatable : List (String × String) := []
  contested : List (String × String) := []
deriving Repr, DecidableEq

namespace StoreFaults

/-- The stored graph after another writer has been there before an edge is created. -/
def before (faults : StoreFaults) (now : DateTime) (source target tag : String)
    (store : GraphStore) : GraphStore :=
  if faults.contested.contains (source, target) then
    ((TableWork.statement (GraphStore.create now source target tag 1.0 [])).transact store).2
  else store

/-- Answers a request from the stored graph and a similarity search, unless it goes wrong. -/
def respond (faults : StoreFaults) (now : DateTime) (similar : Similarity) :
    (request : GraphRequest) → GraphStore → Except StoreFailure request.Value × GraphStore
  | .entity id, store =>
    if faults.unreadable.contains id then (.error (.fault s!"store fault: {id}"), store)
    else (.ok (store.entity? id), store)
  | .create source target tag weight metadata, store =>
    if faults.uncreatable.contains (source, target) then
      (.error (.fault s!"store fault: {source} -> {target}"), store)
    else
      let store := faults.before now source target tag store
      store.respond now similar (.create source target tag weight metadata)
  | request, store => store.respond now similar request

end StoreFaults

end CodeGraph
