import InstantBoard.Lib.Fallible
import InstantBoard.Lib.Transition

/-!
# Transactions under read committed

Requests run at the same time, each in a transaction of its own. A query sees what is committed by
then, nothing of it is locked, and what the transaction writes goes, when it commits, to what is
committed by then. So what a request has decided on may be gone when it commits.

`Txn.alone` is the request on its own. `Step.outcome` says what a step of the system can do, and
`MayCommit` which writes a request can come to.
-/

namespace ReadCommitted

open Transition

/-- What is left of a transaction: a query, and how it goes on with what it sees; an error; or the
commit of its writes, which a constraint may refuse. -/
inductive Txn (σ ε α : Type*) where
  | query (next : σ → Txn σ ε α)
  | fail (e : ε)
  | commit (write : σ → Except ε σ) (answer : α)

variable {ρ σ τ ε ε' α α' β : Type*}

namespace Txn

/-- A query that may be the last. -/
def ask (q : σ → Except ε β) (next : β → Txn σ ε α) : Txn σ ε α :=
  .query fun s =>
    match q s with
    | .ok b => next b
    | .error e => .fail e

/-- The transaction with nobody else. -/
def alone : Txn σ ε α → σ → Except ε (α × σ)
  | .query next, s => (next s).alone s
  | .fail e, _ => .error e
  | .commit write answer, s => (write s).map fun s' => (answer, s')

/-- What is left when the queries have seen these states. -/
def resume : Txn σ ε α → List σ → Txn σ ε α
  | .query next, s :: reads => (next s).resume reads
  | .query next, [] => .query next
  | .fail e, _ => .fail e
  | .commit write answer, _ => .commit write answer

/-- The transaction on a part of the state. -/
def on (get : τ → σ) (put : τ → σ → τ) (err : ε → ε') (ans : α → α') : Txn σ ε α → Txn τ ε' α'
  | .query next => .query fun t => (next (get t)).on get put err ans
  | .fail e => .fail (err e)
  | .commit write answer =>
    .commit (fun t => ((write (get t)).mapError err).map (put t)) (ans answer)

/-- The commits that the transaction may end with, whatever its queries see. -/
inductive MayCommit : Txn σ ε α → (σ → Except ε σ) → α → Prop where
  | commit {write answer} : MayCommit (.commit write answer) write answer
  | query {next s write answer} : MayCommit (next s) write answer →
      MayCommit (.query next) write answer

/-- A read alone is followed by the rest on the same state. -/
lemma alone_ask {q : σ → Except ε β} {next : β → Txn σ ε α} {s : σ} :
    (ask q next).alone s = (q s).bind fun b => (next b).alone s := by
  show Txn.alone (match q s with
    | .ok b => next b
    | .error e => .fail e) s = _
  cases q s with
  | ok b => rfl
  | error e => rfl

/-- A part of the state sees its part of what is read. -/
lemma resume_on {get : τ → σ} {put : τ → σ → τ} {err : ε → ε'} {ans : α → α'} {t : Txn σ ε α}
    {reads : List τ} :
    (t.on get put err ans).resume reads = (t.resume (reads.map get)).on get put err ans := by
  induction t generalizing reads with
  | query next ih =>
    cases reads with
    | nil => rfl
    | cons s reads => exact ih (get s)
  | fail e => rfl
  | commit write answer => rfl

/-- A transaction on a part comes to a commit when its own does. -/
lemma commit_of_on {get : τ → σ} {put : τ → σ → τ} {err : ε → ε'} {ans : α → α'} {t : Txn σ ε α}
    {reads : List τ} {write : τ → Except ε' τ} {answer : α'}
    (h : (t.on get put err ans).resume reads = .commit write answer) :
    ∃ w a, t.resume (reads.map get) = .commit w a ∧ answer = ans a ∧
      write = fun s => ((w (get s)).mapError err).map (put s) := by
  rw [resume_on] at h
  generalize t.resume (reads.map get) = rest at h ⊢
  cases rest with
  | query next => cases h
  | fail e => cases h
  | commit w a =>
    cases h
    exact ⟨w, a, rfl, rfl, rfl⟩

/-- A transaction that comes to its commit has made its query. -/
lemma resume_ask {q : σ → Except ε β} {next : β → Txn σ ε α} {reads : List σ}
    {write : σ → Except ε σ} {answer : α} (h : (ask q next).resume reads = .commit write answer) :
    ∃ s rest b, reads = s :: rest ∧ q s = .ok b ∧ (next b).resume rest = .commit write answer := by
  cases reads with
  | nil => cases h
  | cons s rest =>
    change Txn.resume (match q s with
      | .ok b => next b
      | .error e => .fail e) rest = _ at h
    split at h
    · rename_i b hb
      exact ⟨s, rest, b, rfl, hb, h⟩
    · cases h

/-- The same of a transaction on a part of the state. -/
lemma resume_ask_on {get : τ → σ} {put : τ → σ → τ} {err : ε → ε'} {ans : α → α'}
    {q : σ → Except ε β} {next : β → Txn σ ε α} {reads : List τ} {write : τ → Except ε' τ}
    {answer : α'} (h : ((ask q next).on get put err ans).resume reads = .commit write answer) :
    ∃ s rest b, reads = s :: rest ∧ q (get s) = .ok b ∧
      ((next b).on get put err ans).resume rest = .commit write answer := by
  obtain ⟨w, a, hcommit, rfl, rfl⟩ := commit_of_on h
  obtain ⟨part, parts, b, hreads, hb, hrest⟩ := resume_ask hcommit
  obtain ⟨s, rest, rfl, rfl, rfl⟩ := List.map_eq_cons_iff.1 hreads
  refine ⟨s, rest, b, rfl, hb, ?_⟩
  rw [resume_on, hrest]
  rfl

/-- A commit after a read is one of what follows it. -/
lemma MayCommit.ask {q : σ → Except ε β} {next : β → Txn σ ε α} {write : σ → Except ε σ} {answer : α}
    (h : MayCommit (ask q next) write answer) :
    ∃ s b, q s = .ok b ∧ MayCommit (next b) write answer := by
  cases h with
  | @query _ s _ _ h =>
    dsimp only at h
    split at h
    · rename_i b hb
      exact ⟨s, b, hb, h⟩
    · cases h

/-- What commits at once is the commit itself. -/
lemma MayCommit.of_commit {w write : σ → Except ε σ} {a answer : α}
    (h : MayCommit (.commit w a) write answer) : write = w ∧ answer = a := by
  cases h
  exact ⟨rfl, rfl⟩

/-- A failure commits nothing. -/
lemma MayCommit.of_fail {e : ε} {write : σ → Except ε σ} {answer : α} :
    ¬ MayCommit (.fail e) write answer := by
  intro h
  cases h

/-- A transaction may commit what it commits after some reads. -/
lemma MayCommit.of_resume {t : Txn σ ε α} {reads : List σ} {write : σ → Except ε σ} {answer : α}
    (h : t.resume reads = .commit write answer) : MayCommit t write answer := by
  induction t generalizing reads with
  | query next ih =>
    cases reads with
    | nil => cases h
    | cons s reads => exact .query (ih s h)
  | fail e => cases h
  | commit w a =>
    cases h
    exact .commit

/-- A commit on a part of the state is one of the part. -/
lemma MayCommit.of_on {get : τ → σ} {put : τ → σ → τ} {err : ε → ε'} {ans : α → α'}
    {t : Txn σ ε α} {write : τ → Except ε' τ} {answer : α'}
    (h : MayCommit (t.on get put err ans) write answer) :
    ∃ w a, MayCommit t w a ∧ answer = ans a ∧
      write = fun s => ((w (get s)).mapError err).map (put s) := by
  induction t with
  | query next ih =>
    cases h with
    | query h =>
      obtain ⟨w, a, h, heq⟩ := ih _ h
      exact ⟨w, a, .query h, heq⟩
  | fail e => cases h
  | commit w a =>
    cases h
    exact ⟨w, a, .commit, rfl, rfl⟩

end Txn

/-! ## Requests at the same time -/

/-- The committed state, the requests under way with what their queries have seen, and those that
were answered with success, in the order of their commits. -/
structure World (ρ σ α : Type*) where
  committed : σ
  active : List (ρ × List σ)
  answered : List (ρ × α)

/-- A request comes in, goes on by a query or to its end, or breaks off. -/
inductive Label (ρ : Type*) where
  | begin (r : ρ)
  | next (i : Nat)
  | abort (i : Nat)

variable (program : ρ → Txn σ ε α)

namespace World

def start (s : σ) : World ρ σ α where
  committed := s
  active := []
  answered := []

/-- What the `i`-th request commits, if that is its next step and no constraint refuses it. -/
def commit? (w : World ρ σ α) (i : Nat) : Option (ρ × α × σ) :=
  match w.active[i]? with
  | none => none
  | some (r, reads) =>
    match (program r).resume reads with
    | .commit write answer => (write w.committed).toOption.map fun s => (r, answer, s)
    | .query _ | .fail _ => none

/-- The requests under way when the `i`-th has gone on. -/
def proceed (w : World ρ σ α) (i : Nat) : List (ρ × List σ) :=
  match w.active[i]? with
  | none => w.active
  | some (r, reads) =>
    match (program r).resume reads with
    | .query _ => w.active.set i (r, reads ++ [w.committed])
    | .fail _ | .commit _ _ => w.active.eraseIdx i

def step (w : World ρ σ α) : Label ρ → World ρ σ α
  | .begin r => { w with active := w.active ++ [(r, [])] }
  | .next i =>
    match w.commit? program i with
    | none => { w with active := w.proceed program i }
    | some (r, answer, s) =>
      { committed := s, active := w.proceed program i, answered := w.answered ++ [(r, answer)] }
  | .abort i => { w with active := w.active.eraseIdx i }

end World

def Step (w : World ρ σ α) (l : Label ρ) (w' : World ρ σ α) : Prop :=
  w' = w.step program l

/-- What a step leaves of the committed state and the answers. -/
inductive Outcome (w : World ρ σ α) : Label ρ → World ρ σ α → Prop where
  | kept {l w'} : (∀ i, l = .next i → w.commit? program i = none) → w'.committed = w.committed →
      w'.answered = w.answered → Outcome w l w'
  | committed {i r answer s w'} : w.commit? program i = some (r, answer, s) → w'.committed = s →
      w'.answered = w.answered ++ [(r, answer)] → Outcome w (.next i) w'

variable {program}

/-- What one step changes. -/
lemma Step.outcome {w w' : World ρ σ α} {l : Label ρ} (h : Step program w l w') :
    Outcome program w l w' := by
  cases h
  cases l with
  | begin r => exact .kept (fun i hi => by cases hi) rfl rfl
  | abort i => exact .kept (fun i hi => by cases hi) rfl rfl
  | next i =>
    cases hc : w.commit? program i with
    | none =>
      refine .kept (fun j hj => ?_) ?_ ?_
      · cases hj
        exact hc
      · simp [World.step, hc]
      · simp [World.step, hc]
    | some rest =>
      obtain ⟨r, answer, s⟩ := rest
      exact .committed hc (by simp [World.step, hc]) (by simp [World.step, hc])

/-- When a request has gone on, what the requests under way have read was read before, or is what is
committed. -/
lemma World.mem_reads_proceed {w : World ρ σ α} {i : Nat} {request : ρ × List σ}
    (hrequest : request ∈ w.proceed program i) {seen : σ} (hseen : seen ∈ request.2) :
    (∃ old ∈ w.active, seen ∈ old.2) ∨ seen = w.committed := by
  unfold World.proceed at hrequest
  split at hrequest
  · exact .inl ⟨request, hrequest, hseen⟩
  · rename_i r reads hactive
    split at hrequest
    · rcases List.mem_or_eq_of_mem_set hrequest with hold | rfl
      · exact .inl ⟨request, hold, hseen⟩
      · rcases List.mem_append.1 hseen with hold | hnew
        · exact .inl ⟨_, List.mem_of_getElem? hactive, hold⟩
        · exact .inr (List.mem_singleton.1 hnew)
    · exact .inl ⟨request, List.mem_of_mem_eraseIdx hrequest, hseen⟩
    · exact .inl ⟨request, List.mem_of_mem_eraseIdx hrequest, hseen⟩

/-- The same of any step. -/
lemma Step.mem_reads {w w' : World ρ σ α} {l : Label ρ} (h : Step program w l w')
    {request : ρ × List σ} (hrequest : request ∈ w'.active) {seen : σ} (hseen : seen ∈ request.2) :
    (∃ old ∈ w.active, seen ∈ old.2) ∨ seen = w.committed := by
  cases h
  cases l with
  | begin r =>
    rcases List.mem_append.1 hrequest with hold | hnew
    · exact .inl ⟨request, hold, hseen⟩
    · cases List.mem_singleton.1 hnew
      cases hseen
  | abort i => exact .inl ⟨request, List.mem_of_mem_eraseIdx hrequest, hseen⟩
  | next i =>
    have hactive : (w.step program (.next i)).active = w.proceed program i := by
      unfold World.step
      dsimp only
      split <;> rfl
    rw [hactive] at hrequest
    exact World.mem_reads_proceed hrequest hseen

/-- A request commits what its program has come to. -/
lemma commit?_eq_some {w : World ρ σ α} {i : Nat} {r : ρ} {answer : α} {s : σ} :
    w.commit? program i = some (r, answer, s) ↔ ∃ reads write, w.active[i]? = some (r, reads) ∧
      (program r).resume reads = .commit write answer ∧ write w.committed = .ok s := by
  unfold World.commit?
  cases hactive : w.active[i]? with
  | none => simp
  | some entry =>
    obtain ⟨r', reads⟩ := entry
    dsimp only
    cases hres : (program r').resume reads with
    | query next =>
      apply iff_of_false (by simp)
      rintro ⟨reads', write, heq, hres', _⟩
      cases heq
      rw [hres] at hres'
      cases hres'
    | fail e =>
      apply iff_of_false (by simp)
      rintro ⟨reads', write, heq, hres', _⟩
      cases heq
      rw [hres] at hres'
      cases hres'
    | commit write answer' =>
      dsimp only
      rw [Option.map_eq_some_iff]
      constructor
      · rintro ⟨s', hs, heq⟩
        cases heq
        exact ⟨reads, write, rfl, hres, Fallible.toOption_eq_some.1 hs⟩
      · rintro ⟨reads', write', heq, hres', hs⟩
        cases heq
        rw [hres] at hres'
        cases hres'
        exact ⟨s, Fallible.toOption_eq_some.2 hs, rfl⟩

end ReadCommitted
