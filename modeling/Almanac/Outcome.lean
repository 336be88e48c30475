import Almanac.Log

/-!
# Outcomes

What comes of an operation on a state: a result or a fault, the state after it, and the
events that it logged. Operations are put one after another in two ways: within one
task a failure ends the task, and within a session each step is taken whatever came of
the one before.

* `andThen_of_error`: **after a failure no further operation of a task is done.**
* `note_of_unshowable`: what cannot be shown is not logged, and that is a failure.
* `history_filter`: steps that change nothing can be left out of a session.
-/

namespace Almanac

/-- What came of an operation: its result, the state after it and what was logged. -/
structure Outcome (σ α : Type) where
  result : Except Fault α
  state : σ
  events : List Event

namespace Outcome

variable {σ α β ι : Type}

/-- The first operation and, unless it fails, the next one. -/
def andThen (o : Outcome σ α) (next : α → σ → Outcome σ β) : Outcome σ β :=
  match o.result with
  | .error f => ⟨.error f, o.state, o.events⟩
  | .ok a =>
    let r := next a o.state
    ⟨r.result, r.state, o.events ++ r.events⟩

/-- The outcome with another form of its result. -/
def map (f : α → β) (o : Outcome σ α) : Outcome σ β := ⟨o.result.map f, o.state, o.events⟩

/-- An operation that only logs, and fails if the event's text cannot be made. -/
def note (event : Event) (state : σ) : Outcome σ Unit :=
  match Value.withShown event.shows event with
  | .ok e => ⟨.ok (), state, [e]⟩
  | .error f => ⟨.error f, state, []⟩

/-- An operation that changes the state only if it succeeds, and logs nothing. -/
def silent (state : σ) : Except Fault (α × σ) → Outcome σ α
  | .ok (a, after) => ⟨.ok a, after, []⟩
  | .error f => ⟨.error f, state, []⟩

/-- The outcomes of steps that are taken one after another, whatever comes of each. -/
def run (step : σ → ι → Outcome σ α) : σ → List ι → List (Outcome σ α)
  | _, [] => []
  | s, i :: rest => step s i :: run step (step s i).state rest

/-- The state that such steps lead to. -/
def stateAfter (step : σ → ι → Outcome σ α) (s : σ) (steps : List ι) : σ :=
  steps.foldl (fun s i => (step s i).state) s

/-- The steps, each with what came of it. -/
def history (step : σ → ι → Outcome σ α) (s : σ) (steps : List ι) : List (ι × Outcome σ α) :=
  steps.zip (run step s steps)

/-- **After a failure no further operation is done.** -/
theorem andThen_of_error {o : Outcome σ α} {f : Fault} (h : o.result = .error f)
    (next : α → σ → Outcome σ β) : o.andThen next = ⟨.error f, o.state, o.events⟩ := by
  simp [andThen, h]

/-- Logging changes nothing. -/
@[simp] theorem note_state (event : Event) (state : σ) : (note event state).state = state := by
  unfold note
  split <;> rfl

/-- Nothing else is logged. -/
theorem eq_of_mem_note {event e : Event} {state : σ} (h : e ∈ (note event state).events) :
    e = event := by
  unfold note at h
  split at h
  · rename_i shown heq
    obtain ⟨-, rfl⟩ := Value.withShown_eq_ok_iff.1 heq
    exact List.mem_singleton.1 h
  · cases h

/-- An event that shows no value is logged. -/
theorem note_of_nothing {event : Event} (hshows : event.shows = []) (state : σ) :
    note event state = ⟨.ok (), state, [event]⟩ := by
  rw [note, hshows, Value.withShown_of_showable event (List.forall_mem_nil _)]

/-- A value that can be shown is logged. -/
theorem note_of_showable {event : Event} {v : Value} (hshows : event.shows = [v]) (h : v.Showable)
    (state : σ) : note event state = ⟨.ok (), state, [event]⟩ := by
  rw [note, hshows, Value.withShown_of_showable event (List.forall_mem_singleton.2 h)]

/-- Where the value cannot be shown, nothing is logged. -/
theorem note_of_unshowable {event : Event} {v : Value} {k : ExternalFault}
    (hshows : event.shows = [v]) (h : v.unshowable? = some k) (state : σ) :
    note event state = ⟨.error (.external k), state, []⟩ := by
  rw [note, hshows, Value.withShown_singleton_of_some event h]

/-- After a success the next operation is done, from the state that was reached. -/
theorem andThen_of_ok {o : Outcome σ α} {a : α} (h : o.result = .ok a)
    (next : α → σ → Outcome σ β) :
    o.andThen next =
      ⟨(next a o.state).result, (next a o.state).state, o.events ++ (next a o.state).events⟩ := by
  simp [andThen, h]

/-- An answer that is only wrapped is the outcome with another form of its result. -/
theorem andThen_wrap (o : Outcome σ α) (wrap : α → β) :
    (o.andThen fun a s => ⟨.ok (wrap a), s, []⟩) = o.map wrap := by
  cases hresult : o.result with
  | error f => rw [andThen_of_error hresult, Outcome.map, hresult]; rfl
  | ok a => rw [andThen_of_ok hresult, Outcome.map, hresult, List.append_nil]; rfl

/-- What leaves the state as it is may come last. -/
theorem andThen_state {o : Outcome σ α} {next : α → σ → Outcome σ β}
    (h : ∀ a, (next a o.state).state = o.state) : (o.andThen next).state = o.state := by
  cases hresult : o.result with
  | error f => rw [andThen_of_error hresult]
  | ok a => rw [andThen_of_ok hresult, h a]

theorem silent_of_error {s : σ} {r : Except Fault (α × σ)} {f : Fault}
    (h : (silent s r).result = .error f) : (silent s r).state = s := by
  cases r with
  | ok p => cases h
  | error g => rfl

variable {step : σ → ι → Outcome σ α}

@[simp] theorem stateAfter_nil (s : σ) : stateAfter step s [] = s := rfl

@[simp] theorem stateAfter_cons (s : σ) (i : ι) (rest : List ι) :
    stateAfter step s (i :: rest) = stateAfter step (step s i).state rest := rfl

@[simp] theorem history_nil (s : σ) : history step s [] = [] := rfl

@[simp] theorem history_cons (s : σ) (i : ι) (rest : List ι) :
    history step s (i :: rest) = (i, step s i) :: history step (step s i).state rest := rfl

/-- **Steps that change nothing can be left out**: the others come to the same, each by
itself and all together. -/
theorem history_filter (keep : ι × Outcome σ α → Bool)
    (hkeep : ∀ s i, keep (i, step s i) = false → (step s i).state = s) (s : σ) (steps : List ι) :
    history step s (((history step s steps).filter keep).map Prod.fst) =
        (history step s steps).filter keep ∧
      stateAfter step s (((history step s steps).filter keep).map Prod.fst) =
        stateAfter step s steps := by
  induction steps generalizing s with
  | nil => exact ⟨rfl, rfl⟩
  | cons i rest ih =>
    obtain ⟨hhistory, hstate⟩ := ih (step s i).state
    cases hi : keep (i, step s i) with
    | true =>
      rw [history_cons, List.filter_cons_of_pos hi, List.map_cons, history_cons, stateAfter_cons,
        stateAfter_cons, hhistory, hstate]
      exact ⟨rfl, rfl⟩
    | false =>
      -- the rest goes on from the state that was there before
      have hsame : (step s i).state = s := hkeep s i hi
      rw [history_cons, List.filter_cons_of_neg (by simp [hi]), stateAfter_cons]
      rw [hsame] at hhistory hstate ⊢
      exact ⟨hhistory, hstate⟩

end Outcome

end Almanac
