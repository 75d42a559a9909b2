import InstantBoard.Models
import InstantBoard.Python.Stdlib

/-!
# The processor chain

`ProcessResult` and `ProcessorChain.execute`. A processor takes the item's environment `ε` (what
its awaits and its clock do for this item) and a state `σ` outside the process. An item is a
dictionary that processors change in place, so a processor that raises hands back the dictionary
as it left it; `visits` lists what each processor did with an item.
-/

namespace InstantBoard

/-- What the processors read of a source object. `keywordsFilter` is
`getattr(source, "keywords_filter", None) or []`; the table has no such column. -/
structure CollectedSource extends Source where
  category : Option Category
  keywordsFilter : List String

/-- How a `process` call ends. -/
inductive Outcome where
  | returned (item : Dict)
  | rejected
  | raised (error : PyError) (item : Dict)

/-- A processor whose only side effect is on the item. -/
def Outcome.of (item : Dict) : Except PyError (Option Dict) → Outcome
  | .ok (some item') => .returned item'
  | .ok none => .rejected
  | .error e => .raised e item

def Outcome.isReturned : Outcome → Bool
  | .returned _ => true
  | _ => false

def Outcome.isRaised : Outcome → Bool
  | .raised _ _ => true
  | _ => false

structure BaseProcessor (ε σ : Type) where
  name : String
  /-- `none`: the task is cancelled in the call. -/
  process : ε → Dict → σ → Option Outcome × σ

/-- A processor without awaits. -/
def BaseProcessor.pure {ε σ : Type} (name : String) (f : ε → Dict → Outcome) :
    BaseProcessor ε σ :=
  ⟨name, fun env item s => (some (f env item), s)⟩

structure ProcessResult where
  item : Option Dict
  metadata : List (String × String) := []
  errors : List String := []
  deriving DecidableEq

/-- What the chain notes about one `process` call. -/
def ProcessResult.record (r : ProcessResult) (name : String) : Outcome → ProcessResult
  | .returned item => { r with item := some item }
  | .rejected => { r with item := none, metadata := [("filtered_by", name)] }
  -- the result and the loop hold the same dictionary, which the exception leaves in both
  | .raised e item => { r with item := some item, errors := r.errors ++ [name ++ ": " ++ e.message] }

namespace ProcessorChain

variable {ε σ : Type}

/-- The loop of `execute` over the processors for one item. -/
def processItem (env : ε) : List (BaseProcessor ε σ) → ProcessResult → Dict → σ →
    Option ProcessResult × σ
  | [], result, _, s => (some result, s)
  | p :: ps, result, current, s =>
    match p.process env current s with
    | (none, s) => (none, s)
    | (some .rejected, s) => (some (result.record p.name .rejected), s)
    | (some (.returned item), s) =>
      processItem env ps (result.record p.name (.returned item)) item s
    | (some (.raised e item), s) =>
      processItem env ps (result.record p.name (.raised e item)) item s

/-- What the processors that ran on an item did, in order. -/
def visits (env : ε) : List (BaseProcessor ε σ) → Dict → σ → List (String × Outcome)
  | [], _, _ => []
  | p :: ps, current, s =>
    match p.process env current s with
    | (none, _) => []
    | (some .rejected, _) => [(p.name, .rejected)]
    | (some (.returned item), s) => (p.name, .returned item) :: visits env ps item s
    | (some (.raised e item), s) => (p.name, .raised e item) :: visits env ps item s

/-- What `execute` has done when it returns, or when it is cancelled at an item. -/
structure Executed (σ : Type) where
  results : List ProcessResult
  cancelled : Bool
  state : σ

/-- `execute`. -/
def execute (processors : List (BaseProcessor ε σ)) : List (ε × Dict) → σ → Executed σ
  | [], s => ⟨[], false, s⟩
  | (env, raw) :: batch, s =>
    match processItem env processors { item := some raw } raw s with
    | (none, s) => ⟨[], true, s⟩
    | (some result, s) =>
      let rest := execute processors batch s
      { rest with results := result :: rest.results }

variable {processors : List (BaseProcessor ε σ)}

/-- Only the processors of the chain are visited. -/
lemma name_of_mem_visits {env : ε} {current : Dict} {s : σ} {v : String × Outcome}
    (h : v ∈ visits env processors current s) : ∃ p ∈ processors, v.1 = p.name := by
  induction processors generalizing current s with
  | nil => cases h
  | cons p ps ih =>
    rw [visits] at h
    split at h
    next => cases h
    next =>
      obtain rfl := List.mem_singleton.1 h
      exact ⟨p, List.mem_cons_self, rfl⟩
    next =>
      obtain rfl | h := List.mem_cons.1 h
      · exact ⟨p, List.mem_cons_self, rfl⟩
      · obtain ⟨q, hq, hv⟩ := ih h
        exact ⟨q, List.mem_cons_of_mem _ hq, hv⟩
    next =>
      obtain rfl | h := List.mem_cons.1 h
      · exact ⟨p, List.mem_cons_self, rfl⟩
      · obtain ⟨q, hq, hv⟩ := ih h
        exact ⟨q, List.mem_cons_of_mem _ hq, hv⟩

/-- The metadata of a result name a processor that was visited, if any. -/
lemma metadata_record (vs : List (String × Outcome)) (result : ProcessResult) :
    (vs.foldl (fun r v => r.record v.1 v.2) result).metadata = result.metadata ∨
      ∃ v ∈ vs, (vs.foldl (fun r v => r.record v.1 v.2) result).metadata = [("filtered_by", v.1)] := by
  induction vs generalizing result with
  | nil => exact Or.inl rfl
  | cons v vs ih =>
    rw [List.foldl_cons]
    obtain h | ⟨w, hw, h⟩ := ih (result.record v.1 v.2)
    · rw [h]
      cases v.2 with
      | returned item => exact Or.inl rfl
      | rejected => exact Or.inr ⟨v, List.mem_cons_self, rfl⟩
      | raised e item => exact Or.inl rfl
    · exact Or.inr ⟨w, List.mem_cons_of_mem _ hw, h⟩

/-- A processor without awaits is visited, and the rest unless it rejects. -/
lemma visits_pure_cons (name : String) (f : ε → Dict → Outcome) (env : ε) (current : Dict) (s : σ) :
    visits env (.pure name f :: processors) current s = (name, f env current) ::
      match f env current with
      | .rejected => []
      | .returned item => visits env processors item s
      | .raised _ item => visits env processors item s := by
  rw [visits]
  cases h : f env current <;> simp only [BaseProcessor.pure, h]

/-- Processors without awaits finish, leave the state alone and do the same from any state. -/
lemma processItem_pure (fs : List (String × (ε → Dict → Outcome))) (env : ε)
    (result : ProcessResult) (current : Dict) (s : σ) :
    processItem env (fs.map fun f => .pure f.1 f.2) result current s =
      (some ((visits env (fs.map fun f => .pure (σ := Unit) f.1 f.2) current ()).foldl
        (fun r v => r.record v.1 v.2) result), s) := by
  induction fs generalizing result current with
  | nil => rfl
  | cons f fs ih =>
    rw [List.map_cons, List.map_cons, processItem, visits]
    cases h : f.2 env current with
    | returned item =>
      simp only [BaseProcessor.pure, h]
      exact ih _ item
    | rejected =>
      simp only [BaseProcessor.pure, h]
      rfl
    | raised e item =>
      simp only [BaseProcessor.pure, h]
      exact ih _ item

/-- What processors without awaits do with an item does not depend on the state. -/
lemma visits_pure (fs : List (String × (ε → Dict → Outcome))) (env : ε) (current : Dict) (s : σ) :
    visits env (fs.map fun f => .pure f.1 f.2) current s =
      visits env (fs.map fun f => .pure (σ := Unit) f.1 f.2) current () := by
  induction fs generalizing current with
  | nil => rfl
  | cons f fs ih =>
    rw [List.map_cons, List.map_cons, visits, visits]
    cases h : f.2 env current with
    | returned item =>
      simp only [BaseProcessor.pure, h]
      exact congrArg _ (ih item)
    | rejected => simp only [BaseProcessor.pure, h]
    | raised e item =>
      simp only [BaseProcessor.pure, h]
      exact congrArg _ (ih item)

/-- A batch in two parts: the second part goes on from the state the first one leaves. -/
lemma execute_append {pre : List (ε × Dict)} (post : List (ε × Dict)) {s : σ}
    (h : (execute processors pre s).cancelled = false) :
    execute processors (pre ++ post) s =
      { execute processors post (execute processors pre s).state with
        results := (execute processors pre s).results ++
          (execute processors post (execute processors pre s).state).results } := by
  induction pre generalizing s with
  | nil => rfl
  | cons f pre ih =>
    obtain ⟨env, raw⟩ := f
    rw [List.cons_append, execute]
    rw [execute] at h ⊢
    split
    next hf =>
      rw [hf] at h
      cases h
    next result s' hf =>
      rw [hf] at h
      simp only [ih h, List.cons_append]

/-- A call that is not cancelled returns one result per item, in the order of the batch. -/
lemma execute_forall₂ {batch : List (ε × Dict)} {s : σ}
    (h : (execute processors batch s).cancelled = false) :
    List.Forall₂ (fun f result => ∃ s₁ s₂,
        processItem f.1 processors { item := some f.2 } f.2 s₁ = (some result, s₂))
      batch (execute processors batch s).results := by
  induction batch generalizing s with
  | nil => exact List.Forall₂.nil
  | cons f batch ih =>
    obtain ⟨env, raw⟩ := f
    rw [execute] at h ⊢
    split
    next hf =>
      rw [hf] at h
      cases h
    next result s' hf =>
      rw [hf] at h
      exact List.Forall₂.cons ⟨s, s', hf⟩ (ih h)

end ProcessorChain

end InstantBoard
