import InstantBoard.Lib.Pool
import InstantBoard.Sse.World

/-!
# Publications and the log

What every reachable state says about publications: the log lists them in order, every one that is
still under way, in a history, or in a queue is logged (`Recorded`), and the histories hold pushed
events of their channel in publication order (`Recorded.sorted`, `Recorded.category`). Calls of one
process never share a counter value (`Numbered`).
-/

namespace InstantBoard.Sse

open Transition

/-! ## The log -/

/-- The publication stands in the log at its place. -/
def Logged (log : List Event) (e : Event) : Prop :=
  log[e.seq]? = some e

/-- An event of the log has a place in it. -/
lemma Logged.lt {log : List Event} {e : Event} (h : Logged log e) : e.seq < log.length := by
  obtain ⟨h, _⟩ := List.getElem?_eq_some_iff.1 h
  exact h

/-- An event of the log is in it. -/
lemma Logged.mem {log : List Event} {e : Event} (h : Logged log e) : e ∈ log :=
  List.mem_of_getElem? h

/-- A longer log has the event too. -/
lemma Logged.append {log : List Event} {e : Event} (h : Logged log e) (more : List Event) :
    Logged (log ++ more) e := by
  unfold Logged
  rw [List.getElem?_append_left h.lt]
  exact h

/-- A new publication takes the next place. -/
lemma Logged.new (log : List Event) (b : Body) : Logged (log ++ [⟨log.length, b⟩]) ⟨log.length, b⟩ := by
  simp [Logged]

/-- Publications are told apart by their places. -/
lemma Logged.eq_of_seq {log : List Event} {e e' : Event} (h : Logged log e) (h' : Logged log e')
    (hs : e.seq = e'.seq) : e = e' := by
  unfold Logged at h h'
  rw [hs, h'] at h
  simpa [eq_comm] using h

/-! ## What a step does to the publications under way -/

/-- The publication a task carries. -/
def PushTask.event? : PushTask → Option Event
  | .publishing e => some e
  | .directing e => some e
  | .storing _ => none
  | .announcing _ => none

/-- The publications under way to the queues. -/
def World.underWay (w : World) : List Event :=
  w.pushes.filterMap PushTask.event? ++ w.inbox ++ w.dispatches.map (·.event)

/-- What is under way is in a push, the inbox or a dispatch. -/
lemma World.mem_underWay {w : World} {e : Event} :
    e ∈ w.underWay ↔
      (∃ t ∈ w.pushes, t.event? = some e) ∨ e ∈ w.inbox ∨ ∃ d ∈ w.dispatches, d.event = e := by
  simp [World.underWay]

/-- The dispatch keeps its message. -/
@[simp] lemma Dispatch.visit_event (d : Dispatch) (r : SSEEventRouter) (cid : String) :
    (d.visit r cid).1.event = d.event := by
  rcases d.visit_cases r cid with ⟨h, _⟩ | ⟨_, _, _, _, _, h⟩ | ⟨_, _, _, h⟩ <;> rw [h]

/-- A step only adds to the log. -/
lemma Step.log_prefix {w w' : World} {l : Label} (h : Step w l w') : w.log <+: w'.log := by
  cases h
  case store => exact List.prefix_append _ _
  case announce up _ =>
    cases up
    · exact List.prefix_rfl
    · exact List.prefix_append _ _
  all_goals exact List.prefix_rfl

/-- A run only adds to the log. -/
lemma Steps.log_prefix {w w' : World} {ls : List Label} (run : Steps Step w ls w') :
    w.log <+: w'.log :=
  run.mono (r := fun v v' => v.log <+: v'.log) (fun _ => List.prefix_rfl) List.IsPrefix.trans
    Step.log_prefix

/-- A dispatch that goes on has its message under way still. -/
lemma World.underWay_setDispatch {w : World} {i : Nat} {d d' : Dispatch} {r : SSEEventRouter}
    (hi : w.dispatches[i]? = some d) {e : Event} (he : e ∈ (w.setDispatch i d' r).underWay)
    (hevent : d'.event = d.event) : e ∈ w.underWay := by
  rw [World.mem_underWay] at he ⊢
  obtain ht | he | ⟨d₀, hd, hde⟩ := he
  · exact .inl ht
  · exact .inr (.inl he)
  · rcases List.mem_or_eq_of_mem_set hd with hd | rfl
    · exact .inr (.inr ⟨d₀, hd, hde⟩)
    · exact .inr (.inr ⟨d, List.mem_of_getElem? hi, hevent.symm.trans hde⟩)

/-- What is under way after a step was under way before, or is the newest of the log. -/
lemma Step.underWay {w w' : World} {l : Label} (h : Step w l w') {e : Event}
    (he : e ∈ w'.underWay) : e ∈ w.underWay ∨ Logged w'.log e := by
  cases h
  case visit i d cid hi _ _ =>
    exact .inl (World.underWay_setDispatch hi he (d.visit_event w.router cid))
  case resume i d d' r hi hr =>
    obtain ⟨_, _, _, _, _, _, rfl, _⟩ := Dispatch.resume_eq_some hr
    exact .inl (World.underWay_setDispatch hi he rfl)
  case secondLoop i d hi _ _ _ => exact .inl (World.underWay_setDispatch hi he rfl)
  all_goals rw [World.mem_underWay] at he ⊢
  case push =>
    left
    obtain ⟨t, ht, hte⟩ | he := he
    · rcases List.mem_append.1 ht with ht | ht
      · exact .inl ⟨t, ht, hte⟩
      · rw [List.mem_singleton.1 ht] at hte
        cases hte
    · exact .inr he
  case store i p up hi =>
    obtain ⟨t, ht, hte⟩ | he := he
    · rcases List.mem_or_eq_of_mem_set ht with ht | rfl
      · exact .inl (.inl ⟨t, ht, hte⟩)
      · right
        cases hte
        exact Logged.new _ _
    · exact .inl (.inr he)
  case publish i e' up hi =>
    left
    have hmem : ∃ t ∈ w.pushes, t.event? = some e' := ⟨_, List.mem_of_getElem? hi, rfl⟩
    obtain ⟨t, ht, hte⟩ | he | he := he
    · simp only [World.publish, World.deliver] at ht
      split at ht
      · rcases List.mem_or_eq_of_mem_set ht with ht | rfl
        · exact .inl ⟨t, ht, hte⟩
        · cases hte
          exact .inl hmem
      · exact .inl ⟨t, List.mem_of_mem_eraseIdx ht, hte⟩
    · simp only [World.publish, World.deliver] at he
      split at he
      · rcases List.mem_append.1 he with he | he
        · exact .inr (.inl he)
        · rw [List.mem_singleton.1 he]
          exact .inl hmem
      · exact .inr (.inl he)
    · exact .inr (.inr he)
  case announce i n up hi =>
    cases up
    · left
      obtain ⟨t, ht, hte⟩ | he := he
      · exact .inl ⟨t, List.mem_of_mem_eraseIdx ht, hte⟩
      · exact .inr he
    · obtain ⟨t, ht, hte⟩ | he | he := he
      · exact .inl (.inl ⟨t, List.mem_of_mem_eraseIdx ht, hte⟩)
      · simp only [World.announce, World.deliver] at he
        split at he
        · rcases List.mem_append.1 he with he | he
          · exact .inl (.inr (.inl he))
          · right
            rw [List.mem_singleton.1 he]
            exact Logged.new _ _
        · exact .inl (.inr (.inl he))
      · exact .inl (.inr (.inr he))
  case direct i e' hi =>
    left
    obtain ⟨t, ht, hte⟩ | he | ⟨d, hd, hde⟩ := he
    · exact .inl ⟨t, List.mem_of_mem_eraseIdx ht, hte⟩
    · exact .inr (.inl he)
    · rcases List.mem_append.1 hd with hd | hd
      · exact .inr (.inr ⟨d, hd, hde⟩)
      · rw [List.mem_singleton.1 hd] at hde
        cases hde
        exact .inl ⟨_, List.mem_of_getElem? hi, rfl⟩
  case take k e' hk _ _ =>
    left
    obtain ht | he | ⟨d, hd, hde⟩ := he
    · exact .inl ht
    · exact .inr (.inl (List.mem_of_mem_eraseIdx he))
    · rcases List.mem_append.1 hd with hd | hd
      · exact .inr (.inr ⟨d, hd, hde⟩)
      · rw [List.mem_singleton.1 hd] at hde
        cases hde
        exact .inr (.inl (List.mem_of_getElem? hk))
  case finish i d hi _ _ _ =>
    left
    obtain ht | he | ⟨d', hd, hde⟩ := he
    · exact .inl ht
    · exact .inr (.inl he)
    · exact .inr (.inr ⟨d', List.mem_of_mem_eraseIdx hd, hde⟩)
  case admin req db notice _ =>
    left
    obtain ⟨t, ht, hte⟩ | he := he
    · rcases List.mem_append.1 ht with ht | ht
      · exact .inl ⟨t, ht, hte⟩
      · cases notice with
        | none => cases ht
        | some n =>
          have : t = .announcing n := by simpa using ht
          rw [this] at hte
          cases hte
    · exact .inr he
  all_goals exact .inl he

/-! ## The histories -/

/-- The publications are recorded: the log lists them at their places, the ones under way and in
the histories are logged, and a history has pushed events of its channel in publication order. -/
structure World.Recorded (w : World) : Prop where
  log : ∀ {i : Nat} {e : Event}, w.log[i]? = some e → e.seq = i
  underWay : ∀ {e}, e ∈ w.underWay → Logged w.log e
  history : ∀ {category e}, e ∈ w.redis.chronological category → Logged w.log e
  sorted : ∀ category, (w.redis.chronological category).Pairwise (·.seq < ·.seq)
  category : ∀ {category e}, e ∈ w.redis.chronological category →
    ∃ p, e.body = .pushed p ∧ p.category = category

/-- At the start nothing is to be recorded. -/
lemma World.Recorded.init (db : Tables) : (World.init db).Recorded where
  log := by simp [World.init]
  underWay := by simp [World.init, World.underWay]
  history := by simp [World.init, Redis.chronological, Redis.lrange]
  sorted := by simp [World.init, Redis.chronological, Redis.lrange]
  category := by simp [World.init, Redis.chronological, Redis.lrange]

/-- What a history has after a step it had before, or it is the newest of the log, pushed on that
channel. -/
lemma Step.chronological {w w' : World} {l : Label} (h : Step w l w') (category : String) :
    w'.redis.chronological category = w.redis.chronological category ∨
    w'.redis.chronological category = [] ∨
    ∃ p kept, p.category = category ∧ kept <:+ w.redis.chronological category ∧
      w'.log = w.log ++ [⟨w.log.length, .pushed p⟩] ∧
      w'.redis.chronological category = kept ++ [⟨w.log.length, .pushed p⟩] := by
  cases h
  case store i p up hi =>
    cases up
    · exact .inl rfl
    · by_cases hc : category = p.category
      · subst hc
        obtain ⟨kept, hk, heq⟩ := w.redis.chronological_pushHistory ⟨w.log.length, .pushed p⟩
          p.category
        exact .inr (.inr ⟨p, kept, rfl, hk, rfl, heq⟩)
      · exact .inl (Redis.chronological_pushHistory_of_ne _ _ hc)
  case expire category' =>
    have heq := w.redis.chronological_expire category' category
    by_cases hc : category = category'
    · rw [if_pos hc] at heq
      exact .inr (.inl heq)
    · rw [if_neg hc] at heq
      exact .inl heq
  all_goals exact .inl rfl

/-- The log grows by publications at their places. -/
lemma Step.log_cases {w w' : World} {l : Label} (h : Step w l w') :
    w'.log = w.log ∨ ∃ b, w'.log = w.log ++ [⟨w.log.length, b⟩] := by
  cases h
  case store => exact .inr ⟨_, rfl⟩
  case announce up _ =>
    cases up
    · exact .inl rfl
    · exact .inr ⟨_, rfl⟩
  all_goals exact .inl rfl

/-- A step keeps the publications recorded. -/
lemma World.Recorded.step {w w' : World} {l : Label} (hw : w.Recorded) (h : Step w l w') :
    w'.Recorded := by
  have logged : ∀ {e}, Logged w.log e → Logged w'.log e := by
    intro e he
    obtain ⟨more, hmore⟩ := h.log_prefix
    rw [← hmore]
    exact he.append more
  refine ⟨?_, ?_, ?_, ?_, ?_⟩
  · intro i e hi
    rcases h.log_cases with hl | ⟨b, hl⟩
    · rw [hl] at hi
      exact hw.log hi
    · rw [hl, List.getElem?_append] at hi
      split at hi
      · exact hw.log hi
      · have hlt := (List.getElem?_eq_some_iff.1 hi).1
        simp only [List.length_singleton] at hlt
        have h0 : i - w.log.length = 0 := by omega
        rw [h0] at hi
        simp only [List.getElem?_cons_zero, Option.some.injEq] at hi
        rw [← hi]
        change w.log.length = i
        omega
  · intro e he
    rcases h.underWay he with he | he
    · exact logged (hw.underWay he)
    · exact he
  · intro category e he
    rcases h.chronological category with hc | hc | ⟨p, kept, _, hk, hl, hc⟩
    · rw [hc] at he
      exact logged (hw.history he)
    · rw [hc] at he
      cases he
    · rw [hc, List.mem_append] at he
      rcases he with he | he
      · exact logged (hw.history (hk.subset he))
      · rw [List.mem_singleton.1 he, hl]
        exact Logged.new _ _
  · intro category
    rcases h.chronological category with hc | hc | ⟨p, kept, _, hk, hl, hc⟩
    · rw [hc]
      exact hw.sorted category
    · rw [hc]
      exact .nil
    · rw [hc, List.pairwise_append]
      refine ⟨(hw.sorted category).sublist hk.sublist, List.pairwise_singleton _ _, ?_⟩
      intro a ha b hb
      rw [List.mem_singleton.1 hb]
      exact (hw.history (hk.subset ha)).lt
  · intro category e he
    rcases h.chronological category with hc | hc | ⟨p, kept, hp, hk, hl, hc⟩
    · rw [hc] at he
      exact hw.category he
    · rw [hc] at he
      cases he
    · rw [hc, List.mem_append] at he
      rcases he with he | he
      · exact hw.category (hk.subset he)
      · rw [List.mem_singleton.1 he]
        exact ⟨p, rfl, hp⟩

/-- In every reachable world the publications are recorded. -/
lemma World.Reachable.recorded {w : World} (h : w.Reachable) : w.Recorded := by
  obtain ⟨db, h⟩ := h
  exact h.invariant .step (.init db)

/-! ## The counters -/

/-- Two places of a list that satisfy a test count twice. -/
lemma two_le_countP {α : Type*} {p : α → Bool} {l : List α} {i j : Nat} {a b : α} (hij : i ≠ j)
    (hi : l[i]? = some a) (hj : l[j]? = some b) (ha : p a = true) (hb : p b = true) :
    2 ≤ l.countP p := by
  wlog hlt : i < j generalizing i j a b
  · exact this (Ne.symm hij) hj hi hb ha (by omega)
  have hsplit : l = l.take j ++ l.drop j := (List.take_append_drop j l).symm
  rw [hsplit, List.countP_append]
  have h₁ : 0 < (l.take j).countP p := by
    refine List.countP_pos_iff.2 ⟨a, List.mem_of_getElem? (i := i) ?_, ha⟩
    rw [List.getElem?_take_of_lt hlt]
    exact hi
  have h₂ : 0 < (l.drop j).countP p := by
    refine List.countP_pos_iff.2 ⟨b, List.mem_of_getElem? (i := 0) ?_, hb⟩
    rw [List.getElem?_drop]
    exact hj
  omega

/-- The call has the counter value `n` of the process `q`. -/
def PushEvent.numbered (q : Process) (n : Nat) (p : PushEvent) : Bool :=
  p.process = q ∧ p.counter = n

def Event.numbered (q : Process) (n : Nat) (e : Event) : Bool :=
  e.body.pushed?.any (·.numbered q n)

/-- Whether a task is a call with that value that is not logged yet. -/
def PushTask.numbered (q : Process) (n : Nat) : PushTask → Nat
  | .storing p => (p.numbered q n).toNat
  | _ => 0

/-- How many calls got the counter value `n` in the process `q`. -/
def World.numbered (w : World) (q : Process) (n : Nat) : Nat :=
  w.log.countP (·.numbered q n) + Pool.weigh (PushTask.numbered q n) w.pushes

/-- No two calls of one process share a counter value, and none has a value yet to come. -/
def World.Numbered (w : World) : Prop :=
  ∀ q n, w.numbered q n ≤ 1 ∧ (w.counters q < n → w.numbered q n = 0)

/-- A step keeps the calls numbered. -/
lemma World.Numbered.step {w w' : World} {l : Label} (hw : w.Numbered) (h : Step w l w') :
    w'.Numbered := by
  intro q n
  obtain ⟨hone, hnone⟩ := hw q n
  cases h
  case push p hp =>
    have hn : (w.push p).numbered q n = w.numbered q n + (p.numbered q n).toNat := by
      simp only [World.numbered, World.push, Pool.weigh_append, Pool.weigh_cons, Pool.weigh_nil,
        PushTask.numbered]
      omega
    rw [hn]
    by_cases hq : p.process = q
    · subst hq
      by_cases hc : p.counter = n
      · -- the value is new
        have h0 := hnone (by omega)
        have h1 : p.numbered p.process n = true := by simp [PushEvent.numbered, hc]
        simp [h0, h1, World.push, hc]
      · have h1 : p.numbered p.process n = false := by simp [PushEvent.numbered, hc]
        simp only [h1, World.push, Function.update_self, Bool.toNat_false, Nat.add_zero]
        exact ⟨hone, fun hlt => hnone (by omega)⟩
    · have h1 : p.numbered q n = false := by simp [PushEvent.numbered, hq]
      have h2 : (w.push p).counters q = w.counters q := by
        simp [World.push, Function.update_of_ne (Ne.symm hq)]
      rw [h1, h2]
      exact ⟨hone, hnone⟩
  case store i p up hi =>
    have hset := Pool.weigh_set (f := PushTask.numbered q n)
      (y := .publishing ⟨w.log.length, .pushed p⟩) hi
    have hnew : [(⟨w.log.length, .pushed p⟩ : Event)].countP (·.numbered q n)
        = (p.numbered q n).toNat := by
      by_cases hb : p.numbered q n <;> simp [Event.numbered, Body.pushed?, hb]
    have hn : (w.store i p up).numbered q n = w.numbered q n := by
      simp only [World.numbered, World.store, List.countP_append, hnew]
      simp only [PushTask.numbered] at hset
      omega
    rw [hn]
    exact ⟨hone, hnone⟩
  case publish i e up hi =>
    have hn : (w.publish i e up).numbered q n = w.numbered q n := by
      have hset := Pool.weigh_set (f := PushTask.numbered q n) (y := .directing e) hi
      have herase := Pool.weigh_eraseIdx (f := PushTask.numbered q n) hi
      simp only [PushTask.numbered] at hset herase
      simp only [World.numbered, World.publish, World.deliver]
      split <;> omega
    rw [hn]
    exact ⟨hone, hnone⟩
  case announce i m up hi =>
    have hn : (w.announce i m up).numbered q n = w.numbered q n := by
      have herase := Pool.weigh_eraseIdx (f := PushTask.numbered q n) hi
      simp only [PushTask.numbered] at herase
      simp only [World.numbered, World.announce, World.deliver]
      cases up <;> simp [Event.numbered, Body.pushed?] <;> omega
    rw [hn]
    exact ⟨hone, hnone⟩
  case direct i e hi =>
    have hn : (w.direct i e).numbered q n = w.numbered q n := by
      have herase := Pool.weigh_eraseIdx (f := PushTask.numbered q n) hi
      simp only [PushTask.numbered] at herase
      simp only [World.numbered, World.direct, World.dispatch]
      omega
    rw [hn]
    exact ⟨hone, hnone⟩
  case admin req db notice _ =>
    have hn : (w.administer db notice).numbered q n = w.numbered q n := by
      cases notice <;> simp [World.numbered, World.administer, PushTask.numbered]
    rw [hn]
    exact ⟨hone, hnone⟩
  all_goals exact ⟨hone, hnone⟩

/-- In every reachable world the calls are numbered. -/
lemma World.Reachable.numbered {w : World} (h : w.Reachable) : w.Numbered := by
  obtain ⟨db, h⟩ := h
  refine h.invariant .step ?_
  intro q n
  simp [World.numbered, World.init]

/-- Two logged calls of one process with one counter value are the same publication. -/
lemma World.Numbered.unique {w : World} (hw : w.Numbered) {e e' : Event} {p p' : PushEvent}
    (he : Logged w.log e) (he' : Logged w.log e') (hp : e.body = .pushed p)
    (hp' : e'.body = .pushed p') (hq : p.process = p'.process) (hc : p.counter = p'.counter) :
    e = e' := by
  by_contra hne
  have hseq : e.seq ≠ e'.seq := fun hs => hne (he.eq_of_seq he' hs)
  have hcount := (hw p.process p.counter).1
  have htwo : 2 ≤ w.log.countP (·.numbered p.process p.counter) := by
    refine two_le_countP hseq he he' ?_ ?_
    · simp [Event.numbered, hp, Body.pushed?, PushEvent.numbered]
    · simp [Event.numbered, hp', Body.pushed?, PushEvent.numbered, hq, hc]
  simp only [World.numbered] at hcount
  omega

end InstantBoard.Sse
