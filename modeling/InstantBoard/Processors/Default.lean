import InstantBoard.Processors.Categorizer
import InstantBoard.Processors.Dedup
import InstantBoard.Processors.Filter
import InstantBoard.Processors.Transformer

/-!
# The default chain

`create_default_processor_chain`: dedup, filter, categorizer, transformer. Only the first one
touches anything outside the item, so a batch splits into what the dedup set says at each item's
turn (`turns`, `ask`) and what the other three make of an item it lets pass (`content`);
`execute_default` and `zip_results` put the two together.
-/

namespace InstantBoard

/-- The text of a UUID. -/
structure Uuid where
  text : String
  length_eq : text.length = 36 := by decide
  deriving DecidableEq

/-- How `publish_item_update` ends. An event that leaves the process was `sent`: to Redis, or by
the direct push to the streams of this process. -/
inductive PublishReply where
  | completes
  | raises (sent : Bool)
  | cancelled (sent : Bool)
  deriving DecidableEq

def PublishReply.sent : PublishReply → Bool
  | .completes => true
  | .raises sent => sent
  | .cancelled sent => sent

def PublishReply.isCancelled : PublishReply → Bool
  | .cancelled _ => true
  | _ => false

/-- What the outside does for one item of a run: Redis, the clock, whether `session.add` succeeds,
the publish, and the key `uuid.uuid4` gives the row when it is flushed. -/
structure ItemEnv where
  dedup : DedupEnv
  clock : Clock
  add : Bool
  publish : PublishReply
  uuid : Uuid

/-- A raw item of a batch. -/
abbrev Fetched := ItemEnv × Dict

namespace ProcessorChain

/-- The processors after the first one. -/
def contentSteps (py : Stdlib) (source : CollectedSource) :
    List (String × (ItemEnv → Dict → Outcome)) :=
  [("FilterProcessor", fun _ item => .of item (FilterProcessor.process py source item)),
   ("CategorizerProcessor", fun _ item => CategorizerProcessor.process py source item),
   ("TransformerProcessor", fun env item =>
      .of item (TransformerProcessor.process py source env.clock item))]

def contentProcessors (py : Stdlib) (source : CollectedSource) (σ : Type) :
    List (BaseProcessor ItemEnv σ) :=
  (contentSteps py source).map fun f => .pure f.1 f.2

def dedupProcessor (py : Stdlib) : BaseProcessor ItemEnv RedisSet :=
  ⟨"DedupProcessor", fun env item s => DedupProcessor.process py env.dedup item s⟩

/-- `create_default_processor_chain`. -/
def default (py : Stdlib) (source : CollectedSource) : List (BaseProcessor ItemEnv RedisSet) :=
  dedupProcessor py :: contentProcessors py source RedisSet

/-- An item with the mark the dedup processor leaves in it. -/
def marked (py : Stdlib) (raw : Dict) : Dict :=
  raw.set "_dedup_hash" (.str (DedupProcessor.contentHash py raw))

/-- What the processors after the first one do with an item that passes it. -/
def contentVisits (py : Stdlib) (source : CollectedSource) (f : Fetched) :
    List (String × Outcome) :=
  visits f.1 (contentProcessors py source Unit) (marked py f.2) ()

/-- The visits from the categorizer on. -/
def fromCategorizer (py : Stdlib) (source : CollectedSource) (env : ItemEnv) (item : Dict) :
    List (String × Outcome) :=
  ("CategorizerProcessor", CategorizerProcessor.process py source item) ::
    match CategorizerProcessor.process py source item with
    | .rejected => []
    | .returned item => [("TransformerProcessor",
        .of item (TransformerProcessor.process py source env.clock item))]
    | .raised _ item => [("TransformerProcessor",
        .of item (TransformerProcessor.process py source env.clock item))]

/-- The result of an item that passes the dedup processor. -/
def content (py : Stdlib) (source : CollectedSource) (f : Fetched) : ProcessResult :=
  (contentVisits py source f).foldl (fun r v => r.record v.1 v.2) { item := some (marked py f.2) }

/-- The result of a duplicate. -/
def duplicateResult : ProcessResult :=
  { item := none, metadata := [("filtered_by", "DedupProcessor")] }

/-- The result of an item, by what the dedup set says about it. -/
def resultOf (py : Stdlib) (source : CollectedSource) (f : Fetched) :
    DedupProcessor.Verdict → Option ProcessResult
  | .passes => some (content py source f)
  | .duplicate => some duplicateResult
  | .cancelled => none

/-- What the dedup set says about an item, and the set after it. -/
def ask (py : Stdlib) (f : Fetched) (s : RedisSet) : DedupProcessor.Verdict × RedisSet :=
  DedupProcessor.check f.1.dedup (DedupProcessor.contentHash py f.2) s

/-- The items of a batch the chain gets to, each with the set it finds. -/
def turns (py : Stdlib) : List Fetched → RedisSet → List (Fetched × RedisSet)
  | [], _ => []
  | f :: batch, s =>
    (f, s) :: if (ask py f s).1 = .cancelled then [] else turns py batch (ask py f s).2

/-- Whether the dedup processor lets an item pass at its turn. -/
def passes (py : Stdlib) (t : Fetched × RedisSet) : Bool :=
  (ask py t.1 t.2).1 = .passes

/-- `P` holds at every turn: of the item, the set it finds and the items after it. -/
def EachTurn (py : Stdlib) (P : Fetched → RedisSet → List Fetched → Prop) :
    List Fetched → RedisSet → Prop
  | [], _ => True
  | f :: batch, s =>
    P f s batch ∧ ((ask py f s).1 ≠ .cancelled → EachTurn py P batch (ask py f s).2)

/-- What the dedup set says, turn by turn. -/
def verdicts (py : Stdlib) (batch : List Fetched) (s : RedisSet) : List DedupProcessor.Verdict :=
  (turns py batch s).map fun t => (ask py t.1 t.2).1

variable {py : Stdlib} {source : CollectedSource}

/-- The dedup processor, by what the dedup set says. -/
lemma dedupProcessor_process (f : Fetched) (s : RedisSet) :
    (dedupProcessor py).process f.1 f.2 s =
      (match (ask py f s).1 with
        | .passes => some (.returned (marked py f.2))
        | .duplicate => some .rejected
        | .cancelled => none, (ask py f s).2) := by
  show DedupProcessor.process py f.1.dedup f.2 s = _
  unfold DedupProcessor.process ask
  split
  next h => rw [h]; rfl
  next h => rw [h]
  next h => rw [h]

/-- One item through the default chain. -/
lemma processItem_default (f : Fetched) (s : RedisSet) :
    processItem f.1 (default py source) { item := some f.2 } f.2 s =
      (resultOf py source f (ask py f s).1, (ask py f s).2) := by
  rw [default, processItem, dedupProcessor_process]
  cases (ask py f s).1 with
  | passes =>
    -- nothing but the filter, the categorizer and the transformer is left
    show processItem f.1 ((contentSteps py source).map fun f => .pure f.1 f.2) _ _ _ = _
    rw [processItem_pure]
    rfl
  | duplicate => rfl
  | cancelled => rfl

/-- The visits of an item, by what the dedup set says about it. -/
lemma visits_default (f : Fetched) (s : RedisSet) :
    visits f.1 (default py source) f.2 s =
      match (ask py f s).1 with
      | .passes => ("DedupProcessor", .returned (marked py f.2)) :: contentVisits py source f
      | .duplicate => [("DedupProcessor", .rejected)]
      | .cancelled => [] := by
  rw [default, visits, dedupProcessor_process]
  cases (ask py f s).1 with
  | passes =>
    show _ :: visits f.1 ((contentSteps py source).map fun f => .pure f.1 f.2) _ _ = _
    rw [visits_pure]
    rfl
  | duplicate => rfl
  | cancelled => rfl

/-- The first item of a batch. -/
lemma execute_cons (f : Fetched) (batch : List Fetched) (s : RedisSet) :
    execute (default py source) (f :: batch) s =
      match resultOf py source f (ask py f s).1 with
      | none => ⟨[], true, (ask py f s).2⟩
      | some result =>
        { execute (default py source) batch (ask py f s).2 with
          results := result :: (execute (default py source) batch (ask py f s).2).results } := by
  obtain ⟨env, raw⟩ := f
  have hf : processItem env (default py source) { item := some raw } raw s =
      (resultOf py source (env, raw) (ask py (env, raw) s).1, (ask py (env, raw) s).2) :=
    processItem_default (env, raw) s
  rw [execute, hf]
  cases (ask py (env, raw) s).1 <;> rfl

/-- The result of a turn that is not cancelled. -/
def result (py : Stdlib) (source : CollectedSource) (t : Fetched × RedisSet) : ProcessResult :=
  if passes py t then content py source t.1 else duplicateResult

/-- A batch through the default chain: the results follow the answers of the dedup set. -/
lemma execute_default (batch : List Fetched) (s : RedisSet) :
    (execute (default py source) batch s).results =
        (turns py batch s).filterMap (fun t => resultOf py source t.1 (ask py t.1 t.2).1) ∧
      ((execute (default py source) batch s).cancelled = true ↔
        ∃ t ∈ turns py batch s, (ask py t.1 t.2).1 = .cancelled) := by
  induction batch generalizing s with
  | nil => exact ⟨rfl, by simp [execute, turns]⟩
  | cons f batch ih =>
    obtain ⟨ih, ih'⟩ := ih (ask py f s).2
    rw [execute_cons, turns]
    cases h : (ask py f s).1 with
    | passes => simp [resultOf, h, ih, ih']
    | duplicate => simp [resultOf, h, ih, ih']
    | cancelled => simp [resultOf, h]

/-- The results, each with its raw item, are those of the turns that are not cancelled. -/
lemma zip_results (batch : List Fetched) (s : RedisSet) :
    batch.zip (execute (default py source) batch s).results =
      ((turns py batch s).filter fun t => (ask py t.1 t.2).1 ≠ .cancelled).map
        fun t => (t.1, result py source t) := by
  induction batch generalizing s with
  | nil => rfl
  | cons f batch ih =>
    rw [execute_cons, turns]
    cases ha : (ask py f s).1 with
    | passes => simp [resultOf, result, passes, ha, ih]
    | duplicate => simp [resultOf, result, passes, ha, ih]
    | cancelled => simp [resultOf, ha]

/-- A call that returns has had all its turns. -/
lemma zip_results_of_executed {batch : List Fetched} {s : RedisSet}
    (h : (execute (default py source) batch s).cancelled = false) :
    batch.zip (execute (default py source) batch s).results =
      (turns py batch s).map fun t => (t.1, result py source t) := by
  rw [zip_results, List.filter_eq_self.2]
  intro t ht
  rw [decide_eq_true_eq]
  intro hc
  rw [(execute_default batch s).2.2 ⟨t, ht, hc⟩] at h
  cases h

/-- When no turn is cancelled every item has one, and finds what was there before and the hashes of
the items ahead of it. -/
lemma exists_turn {pre post : List Fetched} {f : Fetched} {s : RedisSet}
    (h : ∀ t ∈ turns py (pre ++ f :: post) s, (ask py t.1 t.2).1 ≠ .cancelled) :
    ∃ t ∈ turns py (pre ++ f :: post) s, t.1 = f ∧ ∀ m ∈ t.2.members,
      m ∈ s.members ∨ ∃ g ∈ pre, m = DedupProcessor.contentHash py g.2 := by
  induction pre generalizing s with
  | nil => exact ⟨(f, s), List.mem_cons_self, rfl, fun m hm => Or.inl hm⟩
  | cons g pre ih =>
    rw [List.cons_append, turns] at h ⊢
    have hg : (ask py g s).1 ≠ .cancelled := h (g, s) List.mem_cons_self
    rw [if_neg hg] at h ⊢
    obtain ⟨t, ht, hf, hm⟩ := ih fun t ht => h t (List.mem_cons_of_mem _ ht)
    refine ⟨t, List.mem_cons_of_mem _ ht, hf, fun m hmem => ?_⟩
    obtain hm | ⟨g', hg', hm⟩ := hm m hmem
    · obtain hm | ⟨-, hm⟩ := DedupProcessor.mem_check hm
      · exact Or.inl hm
      · exact Or.inr ⟨g, List.mem_cons_self, hm⟩
    · exact Or.inr ⟨g', List.mem_cons_of_mem _ hg', hm⟩

/-- The set after a batch has what it had and the hashes of the items that marked it. -/
lemma mem_state {batch : List Fetched} {s : RedisSet} {m : String}
    (h : m ∈ (execute (default py source) batch s).state.members) :
    m ∈ s.members ∨ ∃ t ∈ turns py batch s,
      DedupProcessor.marks t.1.1.dedup (DedupProcessor.contentHash py t.1.2) t.2 ∧
        m = DedupProcessor.contentHash py t.1.2 := by
  induction batch generalizing s with
  | nil => exact Or.inl h
  | cons f batch ih =>
    rw [execute_cons] at h
    rw [turns]
    -- what the item itself leaves in the set
    have own : ∀ later, m ∈ (ask py f s).2.members → m ∈ s.members ∨ ∃ t ∈ (f, s) :: later,
        DedupProcessor.marks t.1.1.dedup (DedupProcessor.contentHash py t.1.2) t.2 ∧
          m = DedupProcessor.contentHash py t.1.2 := by
      intro later hm
      obtain hm | hm := DedupProcessor.mem_check hm
      · exact Or.inl hm
      · exact Or.inr ⟨_, List.mem_cons_self, hm⟩
    -- and the items after it
    have later : m ∈ (execute (default py source) batch (ask py f s).2).state.members →
        m ∈ s.members ∨ ∃ t ∈ (f, s) :: turns py batch (ask py f s).2,
          DedupProcessor.marks t.1.1.dedup (DedupProcessor.contentHash py t.1.2) t.2 ∧
            m = DedupProcessor.contentHash py t.1.2 := by
      intro hm
      obtain hm | ⟨t, ht, hm⟩ := ih hm
      · exact own _ hm
      · exact Or.inr ⟨t, List.mem_cons_of_mem _ ht, hm⟩
    cases ha : (ask py f s).1 with
    | cancelled =>
      rw [ha] at h
      exact own _ h
    | passes =>
      rw [ha] at h
      exact later h
    | duplicate =>
      rw [ha] at h
      exact later h

/-- The same property of every turn. -/
lemma EachTurn.congr {P Q : Fetched → RedisSet → List Fetched → Prop}
    (h : ∀ f s post, P f s post ↔ Q f s post) (batch : List Fetched) (s : RedisSet) :
    EachTurn py P batch s ↔ EachTurn py Q batch s := by
  induction batch generalizing s with
  | nil => exact Iff.rfl
  | cons f batch ih => exact and_congr (h f s batch) (imp_congr_right fun _ => ih _)

/-- The visits of the last three processors, by how the filter ends. -/
lemma contentVisits_eq (f : Fetched) :
    contentVisits py source f =
      ("FilterProcessor", .of (marked py f.2) (FilterProcessor.process py source (marked py f.2))) ::
      match FilterProcessor.process py source (marked py f.2) with
      | .ok none => []
      | .ok (some item) => fromCategorizer py source f.1 item
      | .error _ => fromCategorizer py source f.1 (marked py f.2) := by
  have hlast : ∀ item, visits f.1 [BaseProcessor.pure "TransformerProcessor" fun env item =>
        .of item (TransformerProcessor.process py source env.clock item)] item () =
      [("TransformerProcessor", .of item (TransformerProcessor.process py source f.1.clock item))] := by
    intro item
    rw [visits_pure_cons]
    split <;> rfl
  have hfrom : ∀ item, visits f.1 [BaseProcessor.pure "CategorizerProcessor" fun _ item =>
          CategorizerProcessor.process py source item,
        BaseProcessor.pure "TransformerProcessor" fun env item =>
          .of item (TransformerProcessor.process py source env.clock item)] item () =
      fromCategorizer py source f.1 item := by
    intro item
    rw [visits_pure_cons, fromCategorizer]
    split
    next h => rw [h]
    next h => rw [h, hlast]
    next h => rw [h, hlast]
  show visits f.1 [BaseProcessor.pure "FilterProcessor" fun _ item =>
      .of item (FilterProcessor.process py source item), _, _] (marked py f.2) () = _
  rw [visits_pure_cons]
  rcases FilterProcessor.process py source (marked py f.2) with e | ⟨_ | item⟩
  · exact congrArg _ (hfrom _)
  · rfl
  · exact congrArg _ (hfrom item)

end ProcessorChain

end InstantBoard
