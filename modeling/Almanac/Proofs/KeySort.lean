import Almanac.Yaml.KeyOrder

/-!
# What sorting keeps

The order in which keys are written is a matter of the keys alone. What goes along with them is
neither lost nor looked at.

* `sortByKey_perm`: **sorting changes nothing but the order**.
* `sortByKey_map`: **sorting looks at nothing but the keys**.
-/

namespace Almanac.Yaml

variable {α β : Type} {less : α → α → Bool} {last x : α} {run items sorted : List α}

/-! ## Nothing is lost or added -/

theorem runFrom_perm (goesOn : α → α → Bool) :
    ((runFrom goesOn last run items).1 ++ (runFrom goesOn last run items).2).Perm
      (last :: (run ++ items)) := by
  induction items generalizing last run with
  | nil => rfl
  | cons x rest ih =>
    unfold runFrom
    split
    · have hmiddle : (last :: run ++ x :: rest).Perm (x :: (last :: run ++ rest)) := List.perm_middle
      exact ih.trans hmiddle.symm
    · rfl

theorem initialRun_perm : ((initialRun less items).1 ++ (initialRun less items).2).Perm items := by
  match items with
  | [] => rfl
  | [x] => rfl
  | x :: y :: rest =>
    have hswap : (y :: ([x] ++ rest)).Perm (x :: y :: rest) := List.Perm.swap x y rest
    rw [initialRun]
    split
    · exact (runFrom_perm _).trans hswap
    · exact ((List.reverse_perm _).append_right _).trans ((runFrom_perm _).trans hswap)

theorem insertSorted_perm : (insertSorted less sorted x).Perm (x :: sorted) := by
  unfold insertSorted
  refine List.perm_middle.trans ?_
  rw [List.take_append_drop]

theorem sort_perm (less : α → α → Bool) (items : List α) : (sort less items).Perm items := by
  have hfold : ∀ rest sorted : List α, (rest.foldl (insertSorted less) sorted).Perm (sorted ++ rest) := by
    intro rest
    induction rest with
    | nil => intro sorted; rw [List.append_nil]; rfl
    | cons y rest ih =>
      intro sorted
      exact (ih _).trans ((insertSorted_perm.append_right rest).trans List.perm_middle.symm)
  exact (hfold _ _).trans initialRun_perm

/-- **Sorting changes nothing but the order.** -/
theorem sortByKey_perm (key : α → Value) (items : List α) : (sortByKey key items).Perm items := by
  unfold sortByKey
  split
  · exact sort_perm _ items
  · rfl

/-! ## Nothing but keys is looked at -/

variable {f : α → β}

theorem runFrom_map (goesOn : β → β → Bool) (last : α) (run items : List α) :
    runFrom goesOn (f last) (run.map f) (items.map f) =
      Prod.map (List.map f) (List.map f) (runFrom (fun x y => goesOn (f x) (f y)) last run items) := by
  induction items generalizing last run with
  | nil => rfl
  | cons x rest ih =>
    rw [List.map_cons, runFrom, runFrom]
    split
    · exact ih x (last :: run)
    · rfl

theorem initialRun_map (less : β → β → Bool) :
    initialRun less (items.map f) =
      Prod.map (List.map f) (List.map f) (initialRun (fun x y => less (f x) (f y)) items) := by
  match items with
  | [] => rfl
  | [x] => rfl
  | x :: y :: rest =>
    rw [List.map_cons, List.map_cons, initialRun, initialRun]
    split
    · exact runFrom_map less y [x] rest
    · have hrun := runFrom_map (f := f) (fun z w => !less z w) y [x] rest
      rw [List.map_singleton] at hrun
      rw [hrun]
      simp [Prod.map]

theorem placeBetween_map (less : β → β → Bool) (fuel low high : Nat) :
    placeBetween less (f x) (sorted.map f) fuel low high =
      placeBetween (fun x y => less (f x) (f y)) x sorted fuel low high := by
  induction fuel generalizing low high with
  | zero => rfl
  | succ fuel ih =>
    simp only [placeBetween, List.getElem?_map, Option.any_map, ih]

theorem insertSorted_map (less : β → β → Bool) :
    insertSorted less (sorted.map f) (f x) =
      (insertSorted (fun x y => less (f x) (f y)) sorted x).map f := by
  simp [insertSorted, placeBetween_map]

theorem sort_map (less : β → β → Bool) :
    sort less (items.map f) = (sort (fun x y => less (f x) (f y)) items).map f := by
  have hfold : ∀ rest sorted : List α, (rest.map f).foldl (insertSorted less) (sorted.map f) =
      (rest.foldl (insertSorted fun x y => less (f x) (f y)) sorted).map f := by
    intro rest
    induction rest with
    | nil => intro sorted; rfl
    | cons y rest ih =>
      intro sorted
      rw [List.map_cons, List.foldl_cons, List.foldl_cons, insertSorted_map, ih]
  rw [sort, initialRun_map]
  exact hfold _ _

/-- **Sorting looks at nothing but the keys.** -/
theorem sortByKey_map (key : β → Value) (f : α → β) (items : List α) :
    sortByKey key (items.map f) = (sortByKey (fun x => key (f x)) items).map f := by
  have hkeys : (items.map f).map key = items.map fun x => key (f x) := List.map_map ..
  rw [sortByKey, sortByKey, hkeys]
  split
  · exact sort_map _
  · rfl

end Almanac.Yaml
