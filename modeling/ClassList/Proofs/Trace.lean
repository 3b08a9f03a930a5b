import ClassList.Oracle

/-! Operations one after the other: how results and traces pass from each to the next, and what they ask
an oracle. Where the result of a step depends on the trace only through the questions asked before it, a
walk through a list is the pure function `threaded`. -/

namespace ClassList

namespace Trace

/-- What an operation adds to a trace when it puts questions to an oracle: the questions, and the
processes that the oracle starts for them. -/
structure Asked (oracle : Option Oracle) (asked : List Text) (before after : Trace) : Prop where
  questions : after.questions = before.questions ++ asked
  invocations : after.invocations = before.invocations ++
    asked.filterMap fun question => oracle.bind (·.invocation? question)

variable {oracle : Option Oracle} {asked asked' : List Text} {before middle after : Trace}

theorem Asked.refl (oracle : Option Oracle) (trace : Trace) : Asked oracle [] trace trace :=
  ⟨(List.append_nil _).symm, (List.append_nil _).symm⟩

theorem Asked.trans (h : Asked oracle asked before middle) (h' : Asked oracle asked' middle after) :
    Asked oracle (asked ++ asked') before after := by
  constructor
  · rw [h'.questions, h.questions, List.append_assoc]
  · rw [h'.invocations, h.invocations, List.filterMap_append, List.append_assoc]

/-- A report asks nothing. -/
theorem asked_report (oracle : Option Oracle) (events : List Event) (trace : Trace) :
    Asked oracle [] trace (report events trace).2 :=
  ⟨(List.append_nil _).symm, (List.append_nil _).symm⟩

theorem asked_ask (oracle : Oracle) (question : Text) (trace : Trace) :
    Asked (some oracle) [question] trace (oracle.ask question trace).2 := by
  constructor
  · rfl
  · cases h : oracle.invocation? question <;> simp [Oracle.ask, h]

end Trace

namespace Job

variable {α β : Type}

/-- The result of an operation that starts with a given trace. -/
def result (job : Job α) (trace : Trace) : Except Failure α := (ExceptT.run job trace).1

def after (job : Job α) (trace : Trace) : Trace := (ExceptT.run job trace).2

@[simp] theorem result_pure (a : α) (trace : Trace) : (pure a : Job α).result trace = .ok a := rfl

@[simp] theorem after_pure (a : α) (trace : Trace) : (pure a : Job α).after trace = trace := rfl

@[simp] theorem result_ofExcept (r : Except Failure α) (trace : Trace) :
    (ofExcept r).result trace = r := rfl

@[simp] theorem after_ofExcept (r : Except Failure α) (trace : Trace) :
    (ofExcept r).after trace = trace := rfl

@[simp] theorem result_lift (run : Run α) (trace : Trace) :
    (liftM run : Job α).result trace = .ok (run trace).1 := rfl

@[simp] theorem after_lift (run : Run α) (trace : Trace) :
    (liftM run : Job α).after trace = (run trace).2 := rfl

theorem run_bind (job : Job α) (f : α → Job β) (trace : Trace) :
    ExceptT.run (job >>= f) trace =
      match job.result trace with
      | .ok a => ExceptT.run (f a) (job.after trace)
      | .error e => (.error e, job.after trace) := by
  simp only [result, after]
  show (match ExceptT.run job trace with
    | (r, next) => (ExceptT.bindCont f r) next) = _
  cases h : ExceptT.run job trace with
  | mk r next => cases r <;> rfl

theorem result_bind (job : Job α) (f : α → Job β) (trace : Trace) :
    (job >>= f).result trace = (job.result trace).bind fun a => (f a).result (job.after trace) := by
  rw [result, run_bind]
  cases job.result trace <;> rfl

theorem result_bind_of_ok {job : Job α} {trace : Trace} {a : α} (h : job.result trace = .ok a)
    (f : α → Job β) : (job >>= f).result trace = (f a).result (job.after trace) := by
  rw [result_bind, h]
  rfl

theorem after_bind_of_ok {job : Job α} {trace : Trace} {a : α} (h : job.result trace = .ok a)
    (f : α → Job β) : (job >>= f).after trace = (f a).after (job.after trace) := by
  rw [after, run_bind, h]
  rfl

end Job

/-- The results of steps through a list. Each step sees the questions before it and adds its own. -/
def threaded {α β : Type} (value : α → List Text → β) (asks : α → List Text) :
    (earlier : List Text) → List α → List β
  | _, [] => []
  | earlier, a :: rest => value a earlier :: threaded value asks (earlier ++ asks a) rest

section Threaded

variable {α β : Type} {value : α → List Text → β} {asks : α → List Text}

/-- Steps whose results do not depend on the questions go through a list one by one. -/
theorem threaded_eq_map {f : α → β} {items : List α}
    (h : ∀ a ∈ items, ∀ earlier, value a earlier = f a) (earlier : List Text) :
    threaded value asks earlier items = items.map f := by
  induction items generalizing earlier with
  | nil => rfl
  | cons a rest ih =>
    rw [threaded, List.map_cons, h a (List.mem_cons_self ..),
      ih fun b hb => h b (List.mem_cons_of_mem _ hb)]

theorem map_threaded {γ : Type} (f : β → γ) (earlier : List Text) (items : List α) :
    (threaded value asks earlier items).map f =
      threaded (fun a earlier => f (value a earlier)) asks earlier items := by
  induction items generalizing earlier with
  | nil => rfl
  | cons a rest ih => simp only [threaded, List.map_cons, ih]

theorem length_threaded (earlier : List Text) (items : List α) :
    (threaded value asks earlier items).length = items.length := by
  induction items generalizing earlier with
  | nil => rfl
  | cons a rest ih => simp only [threaded, List.length_cons, ih]

variable (value asks) in
/-- A walk through a list whose steps are known in terms of the questions before them. -/
theorem Job.mapM_threaded {oracle : Option Oracle} {f : α → Job β} (items : List α)
    (hvalue : ∀ a ∈ items, ∀ trace, (f a).result trace = .ok (value a trace.questions))
    (hasks : ∀ a ∈ items, ∀ trace, Trace.Asked oracle (asks a) trace ((f a).after trace))
    (trace : Trace) :
    (items.mapM f).result trace = .ok (threaded value asks trace.questions items) ∧
      Trace.Asked oracle (items.flatMap asks) trace ((items.mapM f).after trace) := by
  induction items generalizing trace with
  | nil => exact ⟨rfl, Trace.Asked.refl ..⟩
  | cons a rest ih =>
    have ha := hvalue a (List.mem_cons_self ..) trace
    have hasked := hasks a (List.mem_cons_self ..) trace
    obtain ⟨hresult, hafter⟩ := ih (fun b hb => hvalue b (List.mem_cons_of_mem _ hb))
      (fun b hb => hasks b (List.mem_cons_of_mem _ hb)) ((f a).after trace)
    rw [List.mapM_cons, Job.result_bind_of_ok ha, Job.after_bind_of_ok ha,
      Job.result_bind_of_ok hresult, Job.after_bind_of_ok hresult, Job.result_pure,
      Job.after_pure, hasked.questions]
    exact ⟨rfl, hasked.trans hafter⟩

/-- A walk through a list whose steps do not look at the trace. -/
theorem Job.mapM_result {f : α → Job β} {g : α → β} {items : List α}
    (h : ∀ a ∈ items, ∀ trace, (f a).result trace = .ok (g a)) (trace : Trace) :
    (items.mapM f).result trace = .ok (items.map g) := by
  induction items generalizing trace with
  | nil => rfl
  | cons a rest ih =>
    obtain ⟨ha, hrest⟩ := List.forall_mem_cons.mp h
    rw [List.mapM_cons, Job.result_bind_of_ok (ha trace), Job.result_bind_of_ok (ih hrest _),
      Job.result_pure, List.map_cons]

end Threaded

end ClassList
