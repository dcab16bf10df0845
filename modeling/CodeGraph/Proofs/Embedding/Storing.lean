import CodeGraph.Embedding.VectorIndex
import CodeGraph.Proofs.Exchanges
import Mathlib.Data.List.Forall2

namespace CodeGraph

/-- Requests of an index, each with its reply. -/
abbrev IndexLog := List ((request : IndexRequest) × request.Reply)

namespace IndexLog

/-- The points that were to be stored, request by request, each with whether they were. -/
def upserts (log : IndexLog) : List (List Point × Except String Unit) :=
  log.filterMap fun
    | ⟨.upsert _ points, reply⟩ => some (points, reply)
    | _ => none

/-- The texts that were to be embedded, request by request, each with what the embedder made of them. -/
def generated (log : IndexLog) : List (List String × Except String (List Embedding)) :=
  log.filterMap fun
    | ⟨.generate texts, reply⟩ => some (texts, reply)
    | _ => none

/-- Neither were points to be stored nor texts to be embedded. -/
structure Quiet (log : IndexLog) : Prop where
  upserts : upserts log = []
  generated : generated log = []

theorem upserts_append (log more : IndexLog) : upserts (log ++ more) = upserts log ++ upserts more :=
  List.filterMap_append

theorem generated_append (log more : IndexLog) : generated (log ++ more) = generated log ++ generated more :=
  List.filterMap_append

end IndexLog

namespace IndexWork

variable {α β : Type}

/-- Whatever is answered, and in whichever state work starts, its log and its result are as wanted. -/
def Ensures (work : IndexWork α) (wanted : IndexLog → α → Prop) : Prop :=
  ∀ state, (work.run state).Ensures fun log out => wanted log out.1

namespace Ensures

theorem pure {wanted : IndexLog → α → Prop} {a : α} (holds : wanted [] a) :
    Ensures (Pure.pure a) wanted :=
  fun _ => holds

theorem weaken {work : IndexWork α} {wanted weaker : IndexLog → α → Prop} (ensures : Ensures work wanted)
    (implies : ∀ log a, wanted log a → weaker log a) : Ensures work weaker :=
  fun state => (ensures state).weaken fun log out => implies log out.1

theorem bind {work : IndexWork α} {f : α → IndexWork β} {wanted : IndexLog → β → Prop}
    (ensures : Ensures work fun log a => Ensures (f a) fun more b => wanted (log ++ more) b) :
    Ensures (work >>= f) wanted :=
  fun state => Program.Ensures.bind ((ensures state).weaken fun _ out holds => holds out.2)

/-- A request may get any reply. -/
theorem ask {request : IndexRequest} {wanted : IndexLog → request.Reply → Prop}
    (replied : ∀ reply, wanted [⟨request, reply⟩] reply) : Ensures (IndexWork.ask request) wanted :=
  fun _ => replied

end Ensures

end IndexWork

namespace VectorIndex

open IndexLog
open IndexWork (Ensures)

namespace Work

variable {α β : Type} {wanted : IndexLog → Except IndexFault β → Prop}

/-- Work that may fail ends there, or goes on with what it gave. -/
theorem ensures_bind {work : Work α} {f : α → Work β}
    (ensures : Ensures work.run fun log result =>
      match result with
      | .ok a => Ensures (f a).run fun more result => wanted (log ++ more) result
      | .error fault => wanted log (.error fault)) : Ensures (work >>= f).run wanted := by
  refine .bind (ensures.weaken fun log result holds => ?_)
  cases result with
  | ok a => exact holds
  | error fault =>
    rw [← List.append_nil log] at holds
    exact .pure holds

theorem ensures_attempt {work : Work α} {f : Except IndexFault α → Work β}
    (ensures : Ensures work.run fun log result => Ensures (f result).run fun more result =>
      wanted (log ++ more) result) : Ensures (ExceptT.lift work.run >>= f).run wanted :=
  ensures_bind (.bind (ensures.weaken fun log result holds => .pure (by rwa [List.append_nil])))

theorem ensures_ofReply {reply : IndexWork (Except String β)}
    (ensures : Ensures reply fun log result => wanted log (result.mapError .failed)) :
    Ensures (ofReply reply).run wanted :=
  .bind (ensures.weaken fun log result holds => .pure (by rwa [List.append_nil]))

theorem ensures_ofDatabase {reply : IndexWork (Except String β)}
    (ensures : Ensures reply fun log result => wanted log (result.mapError .failed)) :
    Ensures (ofDatabase reply).run wanted :=
  fun state => ensures_ofReply ensures { state with connected := true }

/-- Work that reads the state goes on with some state. -/
theorem ensures_get {f : IndexState → Work β} (ensures : ∀ state, Ensures (f state).run wanted) :
    Ensures (get >>= f).run wanted :=
  fun state => ensures state state

theorem ensures_modify {f : IndexState → IndexState} {wanted : IndexLog → Except IndexFault Unit → Prop}
    (holds : wanted [] (.ok ())) : Ensures (modify f : Work Unit).run wanted :=
  fun _ => holds

end Work

theorem ensureCollection_quiet (index : VectorIndex) :
    Ensures index.ensureCollection.run fun log _ => Quiet log := by
  unfold ensureCollection
  refine Work.ensures_get fun state => ?_
  split
  · exact .pure ⟨rfl, rfl⟩
  · refine Work.ensures_bind (Work.ensures_ofDatabase (.ask fun reply => ?_))
    cases reply with
    | error reason => exact ⟨rfl, rfl⟩
    | ok found =>
      cases found with
      | true => exact Work.ensures_modify ⟨rfl, rfl⟩
      | false =>
        refine Work.ensures_bind (Work.ensures_ofDatabase (.ask fun reply => ?_))
        cases reply with
        | error reason => exact ⟨rfl, rfl⟩
        | ok _ => exact Work.ensures_modify ⟨rfl, rfl⟩

theorem ensures_isLoaded {α : Type} {name : String} {dimensions : Int} {f : Bool → IndexWork α}
    {wanted : IndexLog → α → Prop} (ensures : ∀ loaded, Ensures (f loaded) wanted) :
    Ensures ((embedderOf name dimensions).isLoaded >>= f) wanted :=
  fun state => ensures state.modelLoaded state

theorem ready_quiet (name : String) (dimensions : Int) :
    Ensures (embedderOf name dimensions).ready fun log _ => Quiet log := by
  unfold Embedder.ready
  refine ensures_isLoaded fun loaded => ?_
  split
  · exact .pure ⟨rfl, rfl⟩
  · refine .bind (.bind (.ask fun reply => ?_))
    cases reply with
    | error reason => exact fun _ _ => ⟨rfl, rfl⟩
    | ok loaded => cases loaded <;> exact fun _ _ => ⟨rfl, rfl⟩

/-- Embeddings are what the embedder made of the texts, and nothing is stored meanwhile. -/
theorem embedTexts_ensures (name : String) (dimensions : Int) {texts : List String} (nonempty : texts ≠ []) :
    Ensures ((embedderOf name dimensions).embedTexts texts) fun log result =>
      upserts log = [] ∧ ∀ embeddings, result = .ok embeddings → generated log = [(texts, .ok embeddings)] := by
  unfold Embedder.embedTexts
  refine .bind ((ready_quiet name dimensions).weaken fun log result quiet => ?_)
  cases result with
  | error reason => exact .pure ⟨by rw [List.append_nil, quiet.upserts], nofun⟩
  | ok _ =>
    dsimp only
    rw [if_neg (by simpa using nonempty)]
    refine .bind (.ask fun reply => ?_)
    cases reply with
    | error reason =>
      refine .pure ⟨?_, nofun⟩
      rw [List.append_nil, upserts_append, quiet.upserts]
      rfl
    | ok embeddings =>
      refine .pure ⟨?_, ?_⟩
      · rw [List.append_nil, upserts_append, quiet.upserts]
        rfl
      · rintro _ ⟨⟩
        rw [List.append_nil, generated_append, quiet.generated]
        rfl

/-- The points are those of the entities for which there are embeddings, and their count comes back if and
only if they were stored. -/
theorem store_ensures (index : VectorIndex) (name : String) (dimensions : Int) {entities : List Entity}
    (nonempty : entities ≠ []) : Ensures (index.store (embedderOf name dimensions) entities).run fun log result =>
      (∃ fault, result = .error fault ∧ ∀ points, (points, .ok ()) ∉ upserts log) ∨
      ∃ embeddings, generated log = [(entities.map (·.searchText), .ok embeddings)] ∧
        upserts log = [(entities.zipWith Entity.point embeddings, .ok ())] ∧
        result = .ok (entities.zipWith Entity.point embeddings).length := by
  unfold store
  refine Work.ensures_bind ((ensureCollection_quiet index).weaken fun log result quiet => ?_)
  cases result with
  | error fault => exact .inl ⟨fault, rfl, by simp [quiet.upserts]⟩
  | ok _ =>
    have texts : entities.map (·.searchText) ≠ [] := by simpa using nonempty
    refine Work.ensures_bind (Work.ensures_ofReply
      ((embedTexts_ensures name dimensions texts).weaken fun more result embeds => ?_))
    obtain ⟨none, made⟩ := embeds
    cases result with
    | error reason => exact .inl ⟨_, rfl, by simp [upserts_append, quiet.upserts, none]⟩
    | ok embeddings =>
      have generates := made embeddings rfl
      refine Work.ensures_bind (Work.ensures_ofDatabase (.ask fun reply => ?_))
      cases reply with
      | error reason =>
        refine .inl ⟨_, rfl, fun points => ?_⟩
        simp only [upserts_append, quiet.upserts, none, List.nil_append]
        nofun
      | ok _ =>
        refine .pure (.inr ⟨embeddings, ?_, ?_, rfl⟩)
        · simp only [generated_append, quiet.generated, generates]
          rfl
        · simp only [upserts_append, quiet.upserts, none]
          rfl

/-- One point for each entity, in their order, with the id and the payload of the entity. -/
def Cover (points : List Point) (entities : List Entity) : Prop :=
  List.Forall₂ (fun point entity => point.id = pointId entity.id ∧ point.payload = entity.payload) points entities

theorem cover_zipWith (entities : List Entity) (embeddings : List Embedding) :
    Cover (entities.zipWith Entity.point embeddings) (entities.take embeddings.length) := by
  induction entities generalizing embeddings with
  | nil =>
    rw [List.take_nil]
    exact .nil
  | cons entity rest ih =>
    cases embeddings with
    | nil => exact .nil
    | cons embedding others => exact .cons ⟨rfl, rfl⟩ (ih others)

theorem cover_zipWith_iff (entities : List Entity) (embeddings : List Embedding) :
    Cover (entities.zipWith Entity.point embeddings) entities ↔ entities.length ≤ embeddings.length := by
  constructor
  · intro covers
    have same := covers.length_eq
    rw [List.length_zipWith] at same
    omega
  · intro enough
    have covers := cover_zipWith entities embeddings
    rwa [List.take_of_length_le enough] at covers

/-- A failure after which one may go on, with nothing counted and nothing stored. -/
def HasFailed (log : IndexLog) (outcome : Outcome Nat) : Prop :=
  outcome.status = .failed ∧ outcome.recoverable = true ∧ outcome.data = some 0 ∧
    ∀ points, (points, .ok ()) ∉ upserts log

/-- A success with the count of the points that were stored for the entities, as far as there were embeddings. -/
def HasStored (entities : List Entity) (log : IndexLog) (embeddings : List Embedding) (outcome : Outcome Nat) :
    Prop :=
  generated log = [(entities.map (·.searchText), .ok embeddings)] ∧
    upserts log = [(entities.zipWith Entity.point embeddings, .ok ())] ∧
    outcome.status = .success ∧ outcome.data = some (entities.zipWith Entity.point embeddings).length

/-- Whatever is answered, there is an outcome. -/
theorem indexEntities_ensures {index : VectorIndex} {name : String} {dimensions : Int}
    (embeds : index.embedder = some (name, dimensions)) (now : DateTime) {entities : List Entity}
    (nonempty : entities ≠ []) : Ensures (index.indexEntities now entities).run fun log result =>
      ∃ outcome, result = .ok outcome ∧
        (HasFailed log outcome ∨ ∃ embeddings, HasStored entities log embeddings outcome) := by
  unfold indexEntities requireEmbedder
  dsimp only
  rw [if_neg (by simpa using nonempty), embeds]
  refine Work.ensures_bind (.pure (Work.ensures_attempt
    ((store_ensures index name dimensions nonempty).weaken fun log result stored => ?_)))
  rcases stored with ⟨fault, rfl, none⟩ | ⟨embeddings, generates, stores, rfl⟩
  · refine .pure ⟨_, rfl, .inl ⟨rfl, rfl, rfl, ?_⟩⟩
    rwa [List.append_nil]
  · refine .pure ⟨_, rfl, .inr ⟨embeddings, ?_, ?_, rfl, rfl⟩⟩
    · rwa [List.append_nil]
    · rwa [List.append_nil]

/-- A success that counts all entities, each stored with one point by one request, or a failure. -/
def Reports (entities : List Entity) (log : IndexLog) (outcome : Outcome Nat) : Prop :=
  (outcome.status = .success ∧ outcome.data = some entities.length ∧
    ∃ points, upserts log = [(points, .ok ())] ∧ Cover points entities) ∨ HasFailed log outcome

/-- The embedder made fewer embeddings than there are entities, and points with these were stored. -/
def FallsShort (entities : List Entity) (log : IndexLog) : Prop :=
  ∃ embeddings, generated log = [(entities.map (·.searchText), .ok embeddings)] ∧
    embeddings.length < entities.length ∧ ∃ points, upserts log = [(points, .ok ())]

variable {entities : List Entity} {log : IndexLog} {embeddings : List Embedding} {outcome : Outcome Nat}

theorem HasFailed.not_fallsShort (failed : HasFailed log outcome) : ¬ FallsShort entities log := by
  rintro ⟨_, _, _, points, stored⟩
  refine failed.2.2.2 points ?_
  rw [stored]
  exact List.mem_singleton_self _

theorem HasStored.fallsShort_iff (stored : HasStored entities log embeddings outcome) :
    FallsShort entities log ↔ embeddings.length < entities.length := by
  obtain ⟨generates, stores, _⟩ := stored
  constructor
  · rintro ⟨others, generates', fewer, _⟩
    rw [generates] at generates'
    cases generates'
    exact fewer
  · exact fun fewer => ⟨embeddings, generates, fewer, _, stores⟩

theorem HasStored.reports_iff (stored : HasStored entities log embeddings outcome) :
    Reports entities log outcome ↔ entities.length ≤ embeddings.length := by
  obtain ⟨_, stores, success, counted⟩ := stored
  rw [← cover_zipWith_iff]
  constructor
  · rintro (⟨_, _, points, stored, covers⟩ | ⟨failed, _⟩)
    · rw [stores] at stored
      cases stored
      exact covers
    · rw [success] at failed
      cases failed
  · exact fun covers => .inl ⟨success, by rw [counted, covers.length_eq], _, stores, covers⟩

/-- Putting entities into the collection of an index with an embedder gives an outcome whatever the embedder
and the database do. A success is one for all entities if and only if the embedder did not make fewer
embeddings than there are entities. If it did, the entities at the end have no point, and the outcome is a
success all the same. -/
theorem indexEntities_reports_iff {σ : Type} {index : VectorIndex} {name : String} {dimensions : Int}
    (embeds : index.embedder = some (name, dimensions)) (now : DateTime) (nonempty : entities ≠ [])
    (respond : (request : IndexRequest) → σ → request.Reply × σ) (state : IndexState) (surroundings : σ) :
    let work := (index.indexEntities now entities).run.run state
    let log := work.exchanges respond surroundings
    ∃ outcome, (work.run respond surroundings).1.1 = .ok outcome ∧
      (Reports entities log outcome ↔ ¬ FallsShort entities log) ∧
      (FallsShort entities log → outcome.status = .success ∧ ∃ points, upserts log = [(points, .ok ())] ∧
        points.length < entities.length ∧ Cover points (entities.take points.length) ∧
        outcome.data = some points.length) := by
  intro work log
  obtain ⟨outcome, result, failed | ⟨embeddings, stored⟩⟩ :=
    (indexEntities_ensures embeds now nonempty state).exchanges respond surroundings
  · exact ⟨outcome, result, iff_of_true (.inr failed) failed.not_fallsShort,
      fun short => absurd short failed.not_fallsShort⟩
  · refine ⟨outcome, result, ?_, fun short => ?_⟩
    · rw [HasStored.reports_iff stored, HasStored.fallsShort_iff stored, Nat.not_lt]
    · have fewer := (HasStored.fallsShort_iff stored).mp short
      obtain ⟨_, stores, success, counted⟩ := stored
      have length : (entities.zipWith Entity.point embeddings).length = embeddings.length := by
        rw [List.length_zipWith]
        exact Nat.min_eq_right (Nat.le_of_lt fewer)
      refine ⟨success, _, stores, ?_, ?_, counted⟩
      · rw [length]
        exact fewer
      · rw [length]
        exact cover_zipWith entities embeddings

/-- Two functions with texts of their own. -/
def namedEntities : List Entity :=
  ["a", "b"].map fun name =>
    { id := name, kind := .function, name, qualifiedName := name, createdAt := default, updatedAt := default }

def namedIndex : VectorIndex where
  collection := "named"
  embedder := some ("named", 1)

/-- Surroundings in which all goes well, with an embedder that makes the same of all texts. -/
def embeddingAs (embeddings : List Embedding) : (request : IndexRequest) → Unit → request.Reply × Unit
  | .hasCollection _, _ => (.ok false, ())
  | .query _ _, _ => (.ok [], ())
  | .createCollection _ _ _, _ | .upsert _ _, _ | .delete _ _, _ | .close, _ => (.ok (), ())
  | .loadModel, _ => (.ok true, ())
  | .generate _, _ => (.ok embeddings, ())

theorem indexEntities_reports_iff_named :
    let work := (namedIndex.indexEntities default namedEntities).run.run {}
    let log := work.exchanges (embeddingAs [[1.0], [2.0]]) ()
    namedIndex.embedder = some ("named", 1) ∧ namedEntities ≠ [] ∧
      ∃ outcome, (work.run (embeddingAs [[1.0], [2.0]]) ()).1.1 = .ok outcome ∧
        Reports namedEntities log outcome := by
  intro work log
  have embeds : namedIndex.embedder = some ("named", 1) := rfl
  have nonempty : namedEntities ≠ [] := List.cons_ne_nil _ _
  obtain ⟨outcome, result, reports, _⟩ := indexEntities_reports_iff embeds default nonempty
    (embeddingAs [[1.0], [2.0]]) {} ()
  refine ⟨embeds, nonempty, outcome, result, reports.mpr ?_⟩
  rintro ⟨embeddings, generates, fewer, _⟩
  have made : generated log = [(["a", "b"], .ok [[1.0], [2.0]])] := rfl
  have alike := (List.cons.inj (made.symm.trans generates)).1
  have same : [[1.0], [2.0]] = embeddings := Except.ok.inj (Prod.mk.inj alike).2
  rw [← same] at fewer
  exact absurd fewer (by decide)

/-- Without any embedding no point is stored, and the outcome is a success with nothing counted. -/
theorem indexEntities_unembedded_succeeds :
    let work := (namedIndex.indexEntities default namedEntities).run.run {}
    let log := work.exchanges (embeddingAs []) ()
    ∃ outcome, (work.run (embeddingAs []) ()).1.1 = .ok outcome ∧ outcome.status = .success ∧
      outcome.data = some 0 ∧ upserts log = [([], .ok ())] ∧ ¬ Reports namedEntities log outcome := by
  intro work log
  have stores : upserts log = [([], .ok ())] := rfl
  refine ⟨_, rfl, rfl, rfl, stores, ?_⟩
  rintro (⟨_, counted, _⟩ | ⟨failed, _⟩)
  · cases counted
  · cases failed

end VectorIndex

end CodeGraph
