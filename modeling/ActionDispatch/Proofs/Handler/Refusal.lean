import ActionDispatch.Proofs.Handler.Limit

/-!
# Refused references end the run

The first reference beyond the limit is the last thing that a run reports, and the run fails with
just that reference: no script, group, search or template on the way takes it for anything else. A
chain of actions ends as well, in a response that names the reference.
-/

set_option autoImplicit false

namespace ActionDispatch

variable {ε ε₂ α β : Type}

section

variable {Q : ε → Prop} {cyclic : String → Nat → ε} {limit : Nat}

structure EndsRefused (cyclic : String → Nat → ε) (limit : Nat) (r : Run Event ε α)
    (name : String) (depth : Nat) : Prop where
  beyond : limit < depth
  outcome : r.outcome = .failed (cyclic name depth)
  last : ∃ before, r.events = before ++ [.refused name depth] ∧ ∀ e ∈ before, e.Plain

def Guarded (Q : ε → Prop) (cyclic : String → Nat → ε) (limit : Nat) (r : Run Event ε α) : Prop :=
  Run.Within Event.Plain Q r ∨ ∃ name depth, EndsRefused cyclic limit r name depth

theorem EndsRefused.bind {r : Run Event ε α} {name : String} {depth : Nat}
    (h : EndsRefused cyclic limit r name depth) (f : α → Run Event ε β) :
    EndsRefused cyclic limit (r >>= f) name depth := by
  rw [Run.bind_of_failed h.outcome]
  exact ⟨h.beyond, rfl, h.last⟩

theorem EndsRefused.after {r : Run Event ε α} {f : α → Run Event ε β} {a : α} {name : String}
    {depth : Nat} (hr : Run.Within Event.Plain Q r) (ho : r.outcome = .done a)
    (h : EndsRefused cyclic limit (f a) name depth) :
    EndsRefused cyclic limit (r >>= f) name depth := by
  obtain ⟨before, hlast, hplain⟩ := h.last
  rw [Run.bind_of_done ho]
  refine ⟨h.beyond, h.outcome, r.events ++ before, ?_, ?_⟩
  · rw [hlast, List.append_assoc]
  · intro e he
    rcases List.mem_append.mp he with he | he
    · exact hr.event e he
    · exact hplain e he

theorem Guarded.bind {r : Run Event ε α} {f : α → Run Event ε β} (hr : Guarded Q cyclic limit r)
    (hf : ∀ a, Guarded Q cyclic limit (f a)) : Guarded Q cyclic limit (r >>= f) := by
  obtain hr | ⟨name, depth, hr⟩ := hr
  · by_cases hstop : ∃ a, r.outcome = .done a ∧ ∃ name depth,
      EndsRefused cyclic limit (f a) name depth
    · obtain ⟨a, ho, name, depth, hf⟩ := hstop
      exact .inr ⟨name, depth, .after hr ho hf⟩
    · refine .inl (hr.bind_done fun a ho => ?_)
      obtain hf | hf := hf a
      · exact hf
      · exact absurd ⟨a, ho, hf⟩ hstop
  · exact .inr ⟨name, depth, hr.bind f⟩

theorem Guarded.mapError {Q₂ : ε₂ → Prop} {cyclic₂ : String → Nat → ε₂} {r : Run Event ε α}
    {f : ε → ε₂} (h : Guarded Q cyclic limit r) (hQ : ∀ e, Q e → Q₂ (f e))
    (hf : ∀ name depth, f (cyclic name depth) = cyclic₂ name depth) :
    Guarded Q₂ cyclic₂ limit (r.mapError f) := by
  obtain h | ⟨name, depth, h⟩ := h
  · exact .inl (h.mapError hQ)
  · refine .inr ⟨name, depth, h.beyond, ?_, h.last⟩
    simp only [Run.mapError, h.outcome, hf]

/-- A reference that a guarded run reports as refused is the one that ends it. -/
theorem Guarded.ends {r : Run Event ε α} (h : Guarded Q cyclic limit r) {name : String}
    {depth : Nat} (hm : .refused name depth ∈ r.events) :
    EndsRefused cyclic limit r name depth := by
  obtain h | ⟨name', depth', h⟩ := h
  · exact (h.event _ hm).elim
  · obtain ⟨before, hlast, hplain⟩ := h.last
    rw [hlast] at hm
    rcases List.mem_append.mp hm with hm | hm
    · exact (hplain _ hm).elim
    · obtain ⟨rfl, rfl⟩ : name = name' ∧ depth = depth' := by simpa using hm
      exact h

def guarded (Q : ε → Prop) (cyclic : String → Nat → ε) (limit : Nat) :
    Run.Congruence Event.Plain Q where
  rel r _ := Guarded Q cyclic limit r
  within := .inl
  bind := Guarded.bind

end

namespace Template

variable (R : Run.Congruence Event.Plain ScriptError.Plain)

theorem format_within (titles : Titles) (method : String) (args : List Value) :
    Run.Within Event.Plain ScriptError.Plain (format titles method args) := by
  unfold format
  split
  · exact Run.within_pure _
  · exact Run.within_pure _
  · exact Run.within_pure _
  · split
    · exact (Run.within_report trivial).bind fun _ => Run.within_pure _
    · exact Run.within_fail trivial

variable {inner inner' : Script.Host Event}

theorem host_related (titles : Titles) (h : Script.Hosts R inner inner') :
    Script.Hosts R (host titles inner) (host titles inner') where
  static target method args := by
    simp only [host]
    split
    · exact R.within (format_within titles method args)
    · exact h.static target method args
  method := h.method

theorem renderSegment_related (h : Script.Hosts R inner inner') (scope : Table Value)
    (segment : Segment) :
    R.rel (renderSegment scope inner segment) (renderSegment scope inner' segment) := by
  cases segment with
  | text s => exact R.pure s
  | interpolation body =>
    exact R.bind (Script.evaluate_related R h _ scope) fun value => R.pure _

theorem render_related (h : Script.Hosts R inner inner') (template : String) (scope : Table Value) :
    R.rel (render template scope inner) (render template scope inner') :=
  R.bind (R.forEach (renderSegment_related R h scope) _) fun _ => R.pure _

end Template

namespace Handler

def guarding (limit : Nat) : Simulation Event.Plain limit limit where
  evals := guarded EvalError.Plain .cyclicAction limit
  scripts := guarded ScriptError.Plain .cyclicAction limit
  toScript h := Guarded.mapError h (fun _ he => he) fun _ _ => rfl
  ofScript h := Guarded.mapError h (fun e he => by cases e <;> exact he) fun _ _ => rfl
  call _ := Event.IsCall.plain
  dispatched _ _ := trivial
  followed _ _ := trivial
  unfinished _ := .inl Run.within_unfinished
  refused name depth _ hd _ := .inr ⟨name, depth, hd, rfl, [], rfl, by simp⟩

theorem guards (h : Handler) (fuel : Nat) :
    Related (guarding h.services.settings.maxActionDepth) h h fuel fuel :=
  related (guarding _) rfl (Nat.le_refl _) fuel fuel (Nat.le_refl _)

abbrev RefusedAt (h : Handler) (r : Evaluation α) (name : String) (depth : Nat) : Prop :=
  EndsRefused EvalError.cyclicAction h.services.settings.maxActionDepth r name depth

theorem evaluate_refused (h : Handler) (fuel : Nat) (text : String) {name : String} {depth : Nat}
    (hm : .refused name depth ∈ (h.evaluate fuel text).events) :
    h.RefusedAt (h.evaluate fuel text) name depth :=
  Guarded.ends ((h.guards fuel).evaluate text 0) hm

theorem evaluate_cyclic (h : Handler) (fuel : Nat) (text : String) {name : String} {depth : Nat}
    (ho : (h.evaluate fuel text).outcome = .failed (.cyclicAction name depth)) :
    .refused name depth ∈ (h.evaluate fuel text).events := by
  obtain hg | ⟨name', depth', hend⟩ := (h.guards fuel).evaluate text 0
  · exact (hg.failure _ ho).elim
  · obtain ⟨before, hlast, -⟩ := hend.last
    have heq := hend.outcome.symm.trans ho
    simp only [Outcome.failed.injEq, EvalError.cyclicAction.injEq] at heq
    rw [evaluate, hlast, heq.1, heq.2]
    simp

theorem search_refused (h : Handler) (fuel : Nat) (model filter : String) (params : Table Value)
    {name : String} {depth : Nat}
    (hm : .refused name depth ∈ (h.search fuel model filter params).events) :
    h.RefusedAt (h.search fuel model filter params) name depth :=
  Guarded.ends ((h.guards fuel).search model filter params 0) hm

theorem render_refused (h : Handler) (fuel : Nat) (kind : TemplateKind) (template : String)
    {name : String} {depth : Nat}
    (hm : .refused name depth ∈ (h.render fuel kind template).events) :
    h.RefusedAt (h.render fuel kind template) name depth := by
  refine Guarded.ends (Q := EvalError.Plain) ?_ hm
  unfold render
  split
  · exact .inl (Run.within_pure _)
  · let S := guarding h.services.settings.maxActionDepth
    have hh : Script.Hosts S.scripts (h.hostAt fuel 0) (h.hostAt fuel 0) :=
      host_related S.toCrossing (fun text => (h.guards fuel).evaluate text 1)
        (fun model filter params => (h.guards fuel).search model filter params 0) h
    exact S.ofScript (Template.render_related S.scripts (Template.host_related _ h.titles hh) _ _)

/-- A chain that meets a refused reference ends in a response that names it. -/
theorem execute_refused (h : Handler) (fuel : Nat) {name : String} {depth : Nat}
    (hm : .refused name depth ∈ (h.execute fuel).events) :
    (∃ before, (h.execute fuel).events = before ++ [.refused name depth] ∧ ∀ e ∈ before, e.Plain) ∧
      (h.execute fuel).outcome =
        .done (chainResponse (.error (.cyclicAction name depth))) := by
  cases ha : h.request.action with
  | none => simp [execute, ha, Run.fail] at hm
  | some names =>
    have hg : Guarded EvalError.Plain .cyclicAction h.services.settings.maxActionDepth
        (runGroup (fun name => h.actionAt fuel name 1) (Group.parse names).actions []) :=
      runGroup_related (guarding h.services.settings.maxActionDepth).toCrossing
        (fun name => (h.guards fuel).action name 1) _ []
    simp only [execute, ha] at hm ⊢
    have hend := hg.ends hm
    exact ⟨hend.last, by simp only [Run.settle, hend.outcome]⟩

/-- A reference that is refused anywhere is the last thing that happens, and it is the failure that
evaluations, searches and templates end with; a chain answers with a failure of that kind. -/
theorem refused_reference_ends_run (h : Handler) (fuel : Nat) (name : String) (depth : Nat) :
    (∀ text, .refused name depth ∈ (h.evaluate fuel text).events →
      h.RefusedAt (h.evaluate fuel text) name depth) ∧
    (∀ model filter params, .refused name depth ∈ (h.search fuel model filter params).events →
      h.RefusedAt (h.search fuel model filter params) name depth) ∧
    (∀ kind template, .refused name depth ∈ (h.render fuel kind template).events →
      h.RefusedAt (h.render fuel kind template) name depth) ∧
    (.refused name depth ∈ (h.execute fuel).events →
      (∃ before, (h.execute fuel).events = before ++ [.refused name depth] ∧
        ∀ e ∈ before, e.Plain) ∧
      ∃ response, (h.execute fuel).outcome = .done response ∧ response.status = .failure ∧
        response.exception =
          some ⟨"CyclicAction", (EvalError.cyclicAction name depth).message⟩) := by
  refine ⟨fun text hm => h.evaluate_refused fuel text hm,
    fun model filter params hm => h.search_refused fuel model filter params hm,
    fun kind template hm => h.render_refused fuel kind template hm, fun hm => ?_⟩
  obtain ⟨hlast, ho⟩ := h.execute_refused fuel hm
  exact ⟨hlast, _, ho, rfl, rfl⟩

instance (name : String) (depth : Nat) : DecidablePred (· = Event.refused name depth)
  | .refused name' depth' => decidable_of_iff (name' = name ∧ depth' = depth) (by simp)
  | .dispatched .. | .followed .. | .handled .. | .called .. | .queried .. | .described ..
  | .bound .. | .askedOne | .askedAll | .logged .. => isFalse nofun

theorem refused_mem {events : List Event} {name : String} {depth : Nat}
    (h : ∃ e ∈ events, e = .refused name depth) : .refused name depth ∈ events := by
  obtain ⟨_, he, rfl⟩ := h
  exact he

def selfReference : Handler :=
  { ofActions 3 [("loop", .expression "eval: __me__.evaluate('action: loop')")] with
    request := ⟨some "loop", none, none⟩ }

theorem refused_reference_ends_run_loop :
    (selfReference.evaluate 20 "action: loop").outcome = .failed (.cyclicAction "loop" 5) ∧
    (selfReference.search 20 "__me__.evaluate('action: loop')" "" Table.empty).outcome =
      .failed (.cyclicAction "loop" 4) ∧
    (selfReference.render 20 .script "$\x7b__me__.evaluate('action: loop')\x7d").outcome =
      .failed (.cyclicAction "loop" 4) ∧
    ∃ response, (selfReference.execute 20).outcome = .done response ∧ response.exception =
      some ⟨"CyclicAction", "Cyclic action reference: loop (depth 5)"⟩ := by
  have hm : (EvalError.cyclicAction "loop" 5).message =
      "Cyclic action reference: loop (depth 5)" := by
    decide +kernel
  obtain ⟨he, -, -, hx⟩ := refused_reference_ends_run selfReference 20 "loop" 5
  obtain ⟨-, hs, hr, -⟩ := refused_reference_ends_run selfReference 20 "loop" 4
  refine ⟨(he _ (refused_mem ?_)).outcome, (hs _ _ _ (refused_mem ?_)).outcome,
    (hr _ _ (refused_mem ?_)).outcome, ?_⟩
  · decide +kernel
  · decide +kernel
  · decide +kernel
  · obtain ⟨-, response, ho, -, hexc⟩ := hx (refused_mem (by decide +kernel))
    exact ⟨response, ho, hm ▸ hexc⟩

end Handler

end ActionDispatch
