import Mathlib.Tactic.Lemma
import Mathlib.Tactic.TypeStar

/-!
# Labelled transition systems

Finite runs of a labelled step relation, and the rules by which a fact about one step becomes a
fact about a run: invariants (`Steps.invariant`), invariants that need a guard on the labels
(`Steps.invariant_of`), and monotone quantities (`Steps.mono`). `Guarded` collects the runs whose
every step meets a condition on the state it leaves from.
-/

namespace Transition

variable {σ α : Type*}

/-- `Steps R s ls t`: the labels `ls`, taken in order, lead from `s` to `t`. -/
inductive Steps (R : σ → α → σ → Prop) : σ → List α → σ → Prop where
  | nil {s} : Steps R s [] s
  | cons {s t u a ls} : R s a t → Steps R t ls u → Steps R s (a :: ls) u

/-- The states some run from `init` ends in. -/
def Reachable (R : σ → α → σ → Prop) (init s : σ) : Prop :=
  ∃ ls, Steps R init ls s

/-- A run in which every step meets the condition `C` on its source state and label. -/
inductive Guarded (R : σ → α → σ → Prop) (C : σ → α → Prop) : σ → List α → σ → Prop where
  | nil {s} : Guarded R C s [] s
  | cons {s t u a ls} : C s a → R s a t → Guarded R C t ls u → Guarded R C s (a :: ls) u

variable {R : σ → α → σ → Prop} {C : σ → α → Prop} {I : σ → Prop}

/-- One step is a run. -/
lemma Steps.single {s t a} (h : R s a t) : Steps R s [a] t :=
  .cons h .nil

/-- Runs compose. -/
lemma Steps.append {s t u ls ms} (h₁ : Steps R s ls t) (h₂ : Steps R t ms u) :
    Steps R s (ls ++ ms) u := by
  induction h₁ with
  | nil => exact h₂
  | cons hst _ ih => exact .cons hst (ih h₂)

/-- A run ends with its last step. -/
lemma Steps.snoc {s t u ls a} (h₁ : Steps R s ls t) (h₂ : R t a u) : Steps R s (ls ++ [a]) u :=
  h₁.append (.single h₂)

/-- A run is built step by step, up to a state that satisfies `I`. -/
lemma Steps.exists_cons {s t a ls} (h : R s a t) (rest : ∃ u, Steps R t ls u ∧ I u) :
    ∃ u, Steps R s (a :: ls) u ∧ I u := by
  obtain ⟨u, run, hu⟩ := rest
  exact ⟨u, .cons h run, hu⟩

/-- The run without steps stays in the invariant. -/
lemma Steps.exists_nil {s} (h : I s) : ∃ u, Steps R s [] u ∧ I u :=
  ⟨s, .nil, h⟩

/-- What every step preserves, a run preserves. -/
lemma Steps.invariant {s t ls} (step : ∀ {s a t}, I s → R s a t → I t)
    (run : Steps R s ls t) (h : I s) : I t := by
  induction run with
  | nil => exact h
  | cons hst _ ih => exact ih (step h hst)

/-- What every step with an admitted label preserves, a run over admitted labels preserves. -/
lemma Steps.invariant_of {s t ls} {P : α → Prop} (step : ∀ {s a t}, P a → I s → R s a t → I t)
    (run : Steps R s ls t) (adm : ∀ a ∈ ls, P a) (h : I s) : I t := by
  induction run with
  | nil => exact h
  | cons hst _ ih =>
    have hI := step (adm _ List.mem_cons_self) h hst
    exact ih (fun a ha => adm a (List.mem_cons_of_mem _ ha)) hI

/-- A reflexive and transitive relation that every step respects relates the ends of a run. -/
lemma Steps.mono {s t ls} {r : σ → σ → Prop} (rfl' : ∀ s, r s s)
    (trans : ∀ {s t u}, r s t → r t u → r s u) (step : ∀ {s a t}, R s a t → r s t)
    (run : Steps R s ls t) : r s t := by
  induction run with
  | nil => exact rfl' _
  | cons hst _ ih => exact trans (step hst) ih

/-- A state is reachable from itself. -/
lemma Reachable.refl {s : σ} : Reachable R s s :=
  ⟨[], .nil⟩

/-- One more step is reachable. -/
lemma Reachable.step {s t u a} (h : Reachable R s t) (hst : R t a u) : Reachable R s u := by
  obtain ⟨ls, run⟩ := h
  exact ⟨ls ++ [a], run.snoc hst⟩

/-- A run from a reachable state is reachable. -/
lemma Reachable.steps {s t u ls} (h : Reachable R s t) (run : Steps R t ls u) :
    Reachable R s u := by
  obtain ⟨ms, run'⟩ := h
  exact ⟨ms ++ ls, run'.append run⟩

/-- What holds initially and every step preserves holds of every reachable state. -/
lemma Reachable.invariant {s t} (step : ∀ {s a t}, I s → R s a t → I t)
    (h : Reachable R s t) (init : I s) : I t := by
  obtain ⟨ls, run⟩ := h
  exact run.invariant step init

/-- A guarded run is a run. -/
lemma Guarded.steps {s t ls} (h : Guarded R C s ls t) : Steps R s ls t := by
  induction h with
  | nil => exact .nil
  | cons _ hst _ ih => exact .cons hst ih

/-- What every guarded step preserves, a guarded run preserves. -/
lemma Guarded.invariant {s t ls} (step : ∀ {s a t}, C s a → I s → R s a t → I t)
    (run : Guarded R C s ls t) (h : I s) : I t := by
  induction run with
  | nil => exact h
  | cons hc hst _ ih => exact ih (step hc h hst)

/-- A guarded run is built step by step, up to a state that satisfies `I`. -/
lemma Guarded.exists_cons {s t a ls} (hc : C s a) (h : R s a t)
    (rest : ∃ u, Guarded R C t ls u ∧ I u) : ∃ u, Guarded R C s (a :: ls) u ∧ I u := by
  obtain ⟨u, run, hu⟩ := rest
  exact ⟨u, .cons hc h run, hu⟩

/-- A weaker guard admits more runs. -/
lemma Guarded.mono {D : σ → α → Prop} (h : ∀ {s a}, C s a → D s a) {s t ls}
    (run : Guarded R C s ls t) : Guarded R D s ls t := by
  induction run with
  | nil => exact .nil
  | cons hc hst _ ih => exact .cons (h hc) hst ih

/-- Guards that agree on the steps of a run admit the same runs. -/
lemma Guarded.congr {D : σ → α → Prop} {W : σ → Prop} (keep : ∀ {s a t}, W s → R s a t → W t)
    (agree : ∀ {s a t}, W s → R s a t → (C s a ↔ D s a)) {s t ls} (hW : W s) :
    Guarded R C s ls t ↔ Guarded R D s ls t := by
  constructor
  · intro run
    induction run with
    | nil => exact .nil
    | cons hc hst _ ih => exact .cons ((agree hW hst).1 hc) hst (ih (keep hW hst))
  · intro run
    induction run with
    | nil => exact .nil
    | cons hd hst _ ih => exact .cons ((agree hW hst).2 hd) hst (ih (keep hW hst))

/-- A run through states that satisfy `I` starts in one. -/
lemma Guarded.head {s t ls} (run : Guarded R (fun s _ => I s) s ls t) (h : I t) : I s := by
  cases run with
  | nil => exact h
  | cons hs _ _ => exact hs

/-- Where the guard of a step is exactly what keeps `I`, the guarded runs are those through states
that satisfy `I`. -/
lemma Guarded.iff_along {W : σ → Prop} (keep : ∀ {s a t}, W s → R s a t → W t)
    (step : ∀ {s a t}, W s → I s → R s a t → (I t ↔ C s a)) {s t ls} (hW : W s) (hI : I s) :
    Guarded R C s ls t ↔ Guarded R (fun s _ => I s) s ls t ∧ I t := by
  constructor
  · intro run
    induction run with
    | nil => exact ⟨.nil, hI⟩
    | cons hc hst _ ih =>
      obtain ⟨run, ht⟩ := ih (keep hW hst) ((step hW hI hst).2 hc)
      exact ⟨.cons hI hst run, ht⟩
  · rintro ⟨run, ht⟩
    induction run with
    | nil => exact .nil
    | cons hs hst rest ih =>
      have hnext := rest.head ht
      exact .cons ((step hW hs hst).1 hnext) hst (ih (keep hW hst) hnext ht)

/-- Where each label has one outcome, the runs through states that satisfy `I` are those all of whose
prefixes end in such a state. -/
lemma Guarded.along_iff (det : ∀ {s a t u}, R s a t → R s a u → t = u) {s t ls} :
    Guarded R (fun s _ => I s) s ls t ∧ I t ↔
      Steps R s ls t ∧ ∀ before u, before <+: ls → Steps R s before u → I u := by
  constructor
  · rintro ⟨run, ht⟩
    refine ⟨run.steps, ?_⟩
    induction run with
    | nil =>
      intro before u hpre hsteps
      cases List.prefix_nil.1 hpre
      cases hsteps
      exact ht
    | cons hs hst rest ih =>
      intro before u hpre hsteps
      cases hsteps with
      | nil => exact hs
      | cons hst' hsteps =>
        obtain ⟨rfl, hrest⟩ := List.cons_prefix_cons.1 hpre
        cases det hst hst'
        exact ih ht _ u hrest hsteps
  · rintro ⟨run, hall⟩
    induction run with
    | nil => exact ⟨.nil, hall [] _ (List.prefix_refl _) .nil⟩
    | cons hst rest ih =>
      obtain ⟨run, ht⟩ := ih fun before u hpre hsteps =>
        hall _ u (List.cons_prefix_cons.2 ⟨rfl, hpre⟩) (.cons hst hsteps)
      exact ⟨.cons (hall [] _ (List.nil_prefix) .nil) hst run, ht⟩

/-- A guarded run splits where its labels do. -/
lemma Guarded.split {s t ls ms} (run : Guarded R C s (ls ++ ms) t) :
    ∃ u, Guarded R C s ls u ∧ Guarded R C u ms t := by
  induction ls generalizing s with
  | nil => exact ⟨s, .nil, run⟩
  | cons a ls ih =>
    cases run with
    | cons hc hst rest =>
      obtain ⟨u, run, rest⟩ := ih rest
      exact ⟨u, .cons hc hst run, rest⟩

/-- Where each label has one outcome, so does a run. -/
lemma Steps.det {s t u ls} (run : Steps R s ls t) (run' : Steps R s ls u)
    (det : ∀ {s a t u}, R s a t → R s a u → t = u) : t = u := by
  induction run with
  | nil =>
    cases run'
    rfl
  | cons hst _ ih =>
    cases run' with
    | cons hst' rest =>
      cases det hst hst'
      exact ih rest

/-- The end of the guarded run of a step function, if there is one. -/
def walk (f : σ → α → Option σ) (C : σ → α → Prop) [∀ s a, Decidable (C s a)] :
    σ → List α → Option σ
  | s, [] => some s
  | s, a :: ls => if C s a then (f s a).bind fun t => walk f C t ls else none

/-- A walk that is computed is a guarded run. -/
lemma Guarded.of_walk {f : σ → α → Option σ} [∀ s a, Decidable (C s a)]
    (hR : ∀ {s a t}, f s a = some t → R s a t) {s t ls} (h : walk f C s ls = some t) :
    Guarded R C s ls t := by
  induction ls generalizing s with
  | nil =>
    cases h
    exact .nil
  | cons a ls ih =>
    unfold walk at h
    split at h
    · rename_i hc
      obtain ⟨u, hu, hrest⟩ := Option.bind_eq_some_iff.1 h
      exact .cons hc (hR hu) (ih hrest)
    · cases h

/-- A guarded run found by computation, with what holds at its end. -/
lemma Guarded.exists_of_walk {f : σ → α → Option σ} [∀ s a, Decidable (C s a)]
    (hR : ∀ {s a t}, f s a = some t → R s a t) {s} (ls : List α) {p : σ → Bool}
    (h : (walk f C s ls).any p = true) : ∃ t, Guarded R C s ls t ∧ p t = true := by
  cases hw : walk f C s ls with
  | none =>
    rw [hw] at h
    cases h
  | some t =>
    rw [hw] at h
    exact ⟨t, .of_walk hR hw, h⟩

end Transition
