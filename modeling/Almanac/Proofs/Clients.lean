import Almanac.Proofs.Locality
import Almanac.Proofs.Numbering

/-!
# Clients that share a store

Several clients send requests to one store, each in its own mode, and the requests are served
one by one in some order. Clients that name different tables do not notice each other.

* `answersTo_eq`: **a client is answered as if it were alone**, however many others there are.
* `stateAfter_serve_eq`: a client's requests may all be served before those of the others.
* `interleaving_undisturbed`: **both said of every interleaving of two clients' requests.**
-/

namespace Almanac

open Outcome

section

variable {κ : Type}

/-- Serves a client's request, in the mode of that client. -/
def serve (modes : κ → Mode) (s : Store) (p : κ × Request) : Outcome Store Answer :=
  s.step (modes p.1) p.2.toStep

/-- Serves a client that is alone. -/
def serveAlone (mode : Mode) (s : Store) (r : Request) : Outcome Store Answer :=
  s.step mode r.toStep

/-- What a client is answered that is alone. -/
def answersAlone (mode : Mode) (s : Store) (requests : List Request) : List (Except Fault Answer) :=
  (run (serveAlone mode) s requests).map (·.result)

/-- The key of the table that a client's request names. -/
def keyServed? (modes : κ → Mode) (p : κ × Request) : Option Value.Key := p.2.key? (modes p.1)

/-- No table is named by requests of two clients. -/
def Apart (modes : κ → Mode) (served : List (κ × Request)) : Prop :=
  ∀ p ∈ served, ∀ q ∈ served, p.1 ≠ q.1 →
    ∀ k, keyServed? modes p = some k → keyServed? modes q ≠ some k

variable {modes : κ → Mode} {s : Store} {c : κ} {p : κ × Request} {served : List (κ × Request)}

theorem Apart.tail (h : Apart modes (p :: served)) : Apart modes served :=
  fun q hq r hr => h q (List.mem_cons_of_mem _ hq) r (List.mem_cons_of_mem _ hr)

/-! ## One request and the others -/

theorem serve_eq (modes : κ → Mode) (s : Store) (p : κ × Request) :
    serve modes s p = silent s (p.2.perform (modes p.1) s) := p.2.step_toStep (modes p.1) s

theorem serve_frame {k : Value.Key} (h : keyServed? modes p ≠ some k) (s : Store) :
    (serve modes s p).state.find? k = s.find? k := by
  rw [serve_eq]
  exact (p.2.perform_local (modes p.1)).frame h s

theorem serve_comm {q : κ × Request}
    (h : ∀ k, keyServed? modes p = some k → keyServed? modes q ≠ some k) (s : Store) :
    (serve modes (serve modes s p).state q).state = (serve modes (serve modes s q).state p).state := by
  simp only [serve_eq]
  exact (p.2.perform_local (modes p.1)).comm (q.2.perform_local (modes q.1)) h s

/-- A request may be served behind others that name other tables. -/
theorem stateAfter_serve_comm
    (h : ∀ q ∈ served, ∀ k, keyServed? modes p = some k → keyServed? modes q ≠ some k) (s : Store) :
    stateAfter (serve modes) (serve modes s p).state served =
      (serve modes (stateAfter (serve modes) s served) p).state := by
  induction served generalizing s with
  | nil => rfl
  | cons q rest ih =>
    have hrest := ih (fun r hr => h r (List.mem_cons_of_mem _ hr)) (serve modes s q).state
    rw [stateAfter_cons, stateAfter_cons, serve_comm (h q List.mem_cons_self), hrest]

/-! ## One client and the others -/

variable [DecidableEq κ]

/-- The requests of one client, in their order. -/
def requestsOf (c : κ) (served : List (κ × Request)) : List Request :=
  (served.filter fun p => p.1 = c).map Prod.snd

/-- What one client is answered, request by request, while all are served. -/
def answersTo (modes : κ → Mode) (c : κ) (s : Store) (served : List (κ × Request)) :
    List (Except Fault Answer) :=
  ((history (serve modes) s served).filter fun q => q.1.1 = c).map fun q => q.2.result

theorem requestsOf_cons_self (r : Request) : requestsOf c ((c, r) :: served) = r :: requestsOf c served := by
  rw [requestsOf, List.filter_cons_of_pos (by simp)]; rfl

theorem requestsOf_cons_of_ne (h : p.1 ≠ c) : requestsOf c (p :: served) = requestsOf c served := by
  rw [requestsOf, List.filter_cons_of_neg (by simpa using h)]; rfl

theorem mem_requestsOf {r : Request} : r ∈ requestsOf c served ↔ (c, r) ∈ served := by
  simp only [requestsOf, List.mem_map, List.mem_filter, decide_eq_true_eq]
  constructor
  · rintro ⟨⟨c', r'⟩, ⟨hmem, rfl⟩, rfl⟩
    exact hmem
  · intro hmem
    exact ⟨(c, r), ⟨hmem, rfl⟩, rfl⟩

theorem answersTo_cons_self (r : Request) :
    answersTo modes c s ((c, r) :: served) =
      (serveAlone (modes c) s r).result :: answersTo modes c (serveAlone (modes c) s r).state served := by
  rw [answersTo, history_cons, List.filter_cons_of_pos (by simp)]; rfl

theorem answersTo_cons_of_ne (h : p.1 ≠ c) :
    answersTo modes c s (p :: served) = answersTo modes c (serve modes s p).state served := by
  rw [answersTo, history_cons, List.filter_cons_of_neg (by simpa using h)]; rfl

/-- A client is answered alike by two stores in which its tables are the same. -/
theorem answersTo_of_sameAt (h : Apart modes served) (s s' : Store)
    (hsame : ∀ r ∈ requestsOf c served, Store.SameAt (r.key? (modes c)) s s') :
    answersTo modes c s served = answersAlone (modes c) s' (requestsOf c served) := by
  induction served generalizing s s' with
  | nil => rfl
  | cons p rest ih =>
    obtain ⟨c', r⟩ := p
    by_cases hc : c' = c
    · -- the client's own request: both stores answer alike, and its tables stay the same
      subst hc
      have hlocal := r.perform_local (modes c')
      rw [requestsOf_cons_self] at hsame ⊢
      have hr := hsame r List.mem_cons_self
      have hresult : (serveAlone (modes c') s r).result = (serveAlone (modes c') s' r).result := by
        rw [serveAlone, serveAlone, Request.step_toStep, Request.step_toStep]
        exact hlocal.result_eq hr
      have hrest : ∀ r' ∈ requestsOf c' rest, Store.SameAt (r'.key? (modes c'))
          (serveAlone (modes c') s r).state (serveAlone (modes c') s' r).state := by
        intro r' hr' k hk
        rw [serveAlone, serveAlone, Request.step_toStep, Request.step_toStep]
        exact hlocal.find?_congr hr (hsame r' (List.mem_cons_of_mem _ hr') k hk)
      rw [answersTo_cons_self, ih h.tail _ _ hrest, hresult]
      rfl
    · -- another client's request: it names no table of this one
      rw [requestsOf_cons_of_ne hc] at hsame ⊢
      rw [answersTo_cons_of_ne hc]
      refine ih h.tail _ _ fun r' hr' k hk => ?_
      have hne : keyServed? modes (c', r) ≠ some k := fun hkey =>
        h (c', r) List.mem_cons_self (c, r') (List.mem_cons_of_mem _ (mem_requestsOf.1 hr')) hc k hkey hk
      rw [serve_frame hne]
      exact hsame r' hr' k hk

/-- **A client is answered as if it were alone.** -/
theorem answersTo_eq (h : Apart modes served) (c : κ) (s : Store) :
    answersTo modes c s served = answersAlone (modes c) s (requestsOf c served) :=
  answersTo_of_sameAt h s s fun _ _ _ _ => rfl

theorem stateAfter_serve_own (modes : κ → Mode) (c : κ) (s : Store) (served : List (κ × Request)) :
    stateAfter (serve modes) s (served.filter fun p => p.1 = c) =
      stateAfter (serveAlone (modes c)) s (requestsOf c served) := by
  induction served generalizing s with
  | nil => rfl
  | cons p rest ih =>
    obtain ⟨c', r⟩ := p
    by_cases hc : c' = c
    · subst hc
      rw [List.filter_cons_of_pos (by simp), requestsOf_cons_self, stateAfter_cons, stateAfter_cons, ih]
      rfl
    · rw [List.filter_cons_of_neg (by simpa using hc), requestsOf_cons_of_ne hc, ih]

/-- **A client's requests may all be served before those of the others.** -/
theorem stateAfter_serve_eq (h : Apart modes served) (c : κ) (s : Store) :
    stateAfter (serve modes) s served =
      stateAfter (serve modes) (stateAfter (serveAlone (modes c)) s (requestsOf c served))
        (served.filter fun p => p.1 ≠ c) := by
  induction served generalizing s with
  | nil => rfl
  | cons p rest ih =>
    rw [stateAfter_cons, ih h.tail]
    by_cases hc : p.1 = c
    · obtain ⟨c', r⟩ := p
      subst hc
      rw [requestsOf_cons_self, stateAfter_cons, List.filter_cons_of_neg (by simp)]
      rfl
    · -- the request of another client goes behind all of this one's
      have hbehind : ∀ q ∈ rest.filter fun q => q.1 = c,
          ∀ k, keyServed? modes p = some k → keyServed? modes q ≠ some k := by
        intro q hq
        obtain ⟨hmem, hqc⟩ := List.mem_filter.1 hq
        have hne : p.1 ≠ q.1 := by rw [of_decide_eq_true hqc]; exact hc
        exact h p List.mem_cons_self q (List.mem_cons_of_mem _ hmem) hne
      rw [requestsOf_cons_of_ne hc, ← stateAfter_serve_own, stateAfter_serve_comm hbehind,
        stateAfter_serve_own, List.filter_cons_of_pos (by simpa using hc), stateAfter_cons]

end

/-! ## Two clients -/

/-- One of two clients. -/
inductive Client where
  | first
  | second
deriving DecidableEq

/-- The requests of two clients in one order that keeps the order of each. -/
inductive Interleaving : List Request → List Request → List (Client × Request) → Prop
  | nil : Interleaving [] [] []
  | first {x : Request} {xs ys : List Request} {served : List (Client × Request)}
      (h : Interleaving xs ys served) : Interleaving (x :: xs) ys ((.first, x) :: served)
  | second {y : Request} {xs ys : List Request} {served : List (Client × Request)}
      (h : Interleaving xs ys served) : Interleaving xs (y :: ys) ((.second, y) :: served)

variable {xs ys : List Request} {served : List (Client × Request)} {modes : Client → Mode}

theorem Interleaving.requestsOf_eq (h : Interleaving xs ys served) :
    requestsOf .first served = xs ∧ requestsOf .second served = ys := by
  induction h with
  | nil => exact ⟨rfl, rfl⟩
  | first _ ih => rw [requestsOf_cons_self, requestsOf_cons_of_ne (by simp), ih.1, ih.2]; exact ⟨rfl, rfl⟩
  | second _ ih => rw [requestsOf_cons_self, requestsOf_cons_of_ne (by simp), ih.1, ih.2]; exact ⟨rfl, rfl⟩

theorem Interleaving.apart (h : Interleaving xs ys served)
    (hdifferent : ∀ x ∈ xs, ∀ y ∈ ys, ∀ k, x.key? (modes .first) = some k →
      y.key? (modes .second) ≠ some k) : Apart modes served := by
  obtain ⟨hxs, hys⟩ := h.requestsOf_eq
  have hfirst : ∀ r, (Client.first, r) ∈ served → r ∈ xs := by
    intro r hr
    rw [← hxs]; exact mem_requestsOf.2 hr
  have hsecond : ∀ r, (Client.second, r) ∈ served → r ∈ ys := by
    intro r hr
    rw [← hys]; exact mem_requestsOf.2 hr
  rintro ⟨c, r⟩ hp ⟨c', r'⟩ hq hne k hk hk'
  cases c with
  | first =>
    cases c' with
    | first => exact hne rfl
    | second => exact hdifferent r (hfirst r hp) r' (hsecond r' hq) k hk hk'
  | second =>
    cases c' with
    | first => exact hdifferent r' (hfirst r' hq) r (hsecond r hp) k hk' hk
    | second => exact hne rfl

theorem filter_ne {c d : Client} (h : c ≠ d) (served : List (Client × Request)) :
    (served.filter fun p => p.1 ≠ c) = served.filter fun p => p.1 = d := by
  apply List.filter_congr
  rintro ⟨e, r⟩ -
  cases c <;> cases d <;> cases e <;> first | rfl | exact absurd rfl h

/-- **Clients on different tables do not disturb each other.** Two clients send requests, each
in its own mode: texts to be carried out, rows to be added, tables to be told or counted; and
no table is named by both. Then in whatever order the requests are served that keeps the order
of each client, each of them is answered, request by request, as if it were alone: with the
same rows, numbers and faults. And the store that is reached is the one that is reached by
serving one client and then the other. -/
theorem interleaving_undisturbed (hserved : Interleaving xs ys served)
    (hdifferent : ∀ x ∈ xs, ∀ y ∈ ys, ∀ k, x.key? (modes .first) = some k →
      y.key? (modes .second) ≠ some k) (s : Store) :
    answersTo modes .first s served = answersAlone (modes .first) s xs ∧
      answersTo modes .second s served = answersAlone (modes .second) s ys ∧
      stateAfter (serve modes) s served =
        stateAfter (serveAlone (modes .second)) (stateAfter (serveAlone (modes .first)) s xs) ys ∧
      stateAfter (serve modes) s served =
        stateAfter (serveAlone (modes .first)) (stateAfter (serveAlone (modes .second)) s ys) xs := by
  have hapart := hserved.apart hdifferent
  obtain ⟨hxs, hys⟩ := hserved.requestsOf_eq
  have hbehind : ∀ c d, c ≠ d → stateAfter (serve modes) s served =
      stateAfter (serveAlone (modes d)) (stateAfter (serveAlone (modes c)) s (requestsOf c served))
        (requestsOf d served) := by
    intro c d hne
    rw [stateAfter_serve_eq hapart c, filter_ne hne, stateAfter_serve_own]
  refine ⟨?_, ?_, ?_, ?_⟩
  · rw [answersTo_eq hapart, hxs]
  · rw [answersTo_eq hapart, hys]
  · rw [hbehind .first .second (by decide), hxs, hys]
  · rw [hbehind .second .first (by decide), hxs, hys]

/-- What a client asks about the notes; the last text names no table. -/
def sampleNotes : List Request :=
  [.execute "INSERT INTO notes (mark) VALUES (7)".toList, .count (.text "notes".toList),
   .execute "SELECT * FROM".toList]

/-- What another one asks about the users; its text is one that only strict readers refuse. -/
def sampleUsers : List Request :=
  [.append (.text "users".toList) [("username".toList, .text "eve".toList)],
   .execute "SELECT * FROM users WHERE username = 'a;b'".toList]

/-- An order in which both are served. -/
def sampleServed : List (Client × Request) :=
  [(.first, .execute "INSERT INTO notes (mark) VALUES (7)".toList),
   (.second, .append (.text "users".toList) [("username".toList, .text "eve".toList)]),
   (.second, .execute "SELECT * FROM users WHERE username = 'a;b'".toList),
   (.first, .count (.text "notes".toList)), (.first, .execute "SELECT * FROM".toList)]

/-- The first reader is naive, and the second one strict. -/
def sampleModes : Client → Mode
  | .first => .naive
  | .second => .strict

theorem interleaving_sampleServed : Interleaving sampleNotes sampleUsers sampleServed :=
  .first (.second (.second (.first (.first .nil))))

theorem different_samples : ∀ x ∈ sampleNotes, ∀ y ∈ sampleUsers, ∀ k,
    x.key? (sampleModes .first) = some k → y.key? (sampleModes .second) ≠ some k := by
  have hnotes : ∀ x ∈ sampleNotes, x.key? .naive = some (.text "notes".toList) ∨ x.key? .naive = none :=
    List.forall_mem_cons.2 ⟨.inl rfl, List.forall_mem_cons.2 ⟨.inl rfl,
      List.forall_mem_cons.2 ⟨.inr rfl, List.forall_mem_nil _⟩⟩⟩
  have husers : ∀ y ∈ sampleUsers, y.key? .strict = some (.text "users".toList) ∨ y.key? .strict = none :=
    List.forall_mem_cons.2 ⟨.inl rfl, List.forall_mem_cons.2 ⟨.inr rfl, List.forall_mem_nil _⟩⟩
  have hne : (Value.Key.text "notes".toList) ≠ .text "users".toList := by decide
  intro x hx y hy k hk hk'
  rcases hnotes x hx with hnote | hnote
  · rcases husers y hy with huser | huser
    · exact hne (Option.some.inj ((hnote.symm.trans hk).trans (hk'.symm.trans huser)))
    · exact Option.some_ne_none k (hk'.symm.trans huser)
  · exact Option.some_ne_none k (hk.symm.trans hnote)

/-- Both are answered as if they were alone, where they succeed and where they fail. -/
theorem interleaving_undisturbed_sample :
    Interleaving sampleNotes sampleUsers sampleServed ∧
      (∀ x ∈ sampleNotes, ∀ y ∈ sampleUsers, ∀ k,
        x.key? (sampleModes .first) = some k → y.key? (sampleModes .second) ≠ some k) ∧
      answersTo sampleModes .first (Store.after Store.sampleRun) sampleServed =
        [.ok (.rows [[(idColumn, .int 3), ("text".toList, .null), ("mark".toList, .int 7)]]),
          .ok (.count 3), .error (.malformed .noSourceTable)] ∧
      answersTo sampleModes .second (Store.after Store.sampleRun) sampleServed =
        [.ok (.row [(idColumn, .int 2), ("username".toList, .text "eve".toList),
          ("password".toList, .null)]), .error (.malformed .illegalFilterValue)] ∧
      stateAfter (serve sampleModes) (Store.after Store.sampleRun) sampleServed =
        stateAfter (serveAlone .strict)
          (stateAfter (serveAlone .naive) (Store.after Store.sampleRun) sampleNotes) sampleUsers := by
  obtain ⟨hfirst, hsecond, hstate, -⟩ := interleaving_undisturbed interleaving_sampleServed
    different_samples (Store.after Store.sampleRun)
  exact ⟨interleaving_sampleServed, different_samples, hfirst.trans rfl, hsecond.trans rfl, hstate⟩

end Almanac
