import Almanac.Fault.Basic

/-!
# What can be shown

Values are written out where a filter compares them, in the log and in the messages of faults. Not
every value can be: an integer may have too many digits, and collections may lie too deep inside
each other. Then what the value was to be a part of is not made, and this is the fault.

* `withShown_eq_ok_iff`: **what is made of values is made exactly if each of them can be shown.**
* `Fault.raised_of_showable`: a fault that names what can be shown is raised as it is.
-/

namespace Almanac

/-- How many values can be shown one inside the other: as many as there is room for calls inside
each other, less those that are under way. -/
def showingLimit : Nat := 980

namespace Value

mutual
/-- What stands in the way of showing a value, where so many can be shown one inside the other. Of
several obstacles the first on the way counts. A set is shown by a list of its members. -/
def obstacle? : Nat → Value → Option ExternalFault
  | 0, _ => some .tooDeep
  | _ + 1, int i => if i.natAbs < tenTo maxIntegerDigits then none else some .unshowable
  | n + 1, pair v w => (obstacle? n v).or (obstacle? n w)
  | n + 1, list items => obstacleAmong? n items
  | n + 1, set items => obstacleAmong? (n - 1) items
  | n + 1, mapping entries => obstacleIn? n entries
  | _ + 1, _ => none

/-- What stands in the way of showing the items of a list. -/
def obstacleAmong? : Nat → List Value → Option ExternalFault
  | _, [] => none
  | n, v :: vs => (obstacle? n v).or (obstacleAmong? n vs)

/-- What stands in the way of showing the entries of a mapping. -/
def obstacleIn? : Nat → List (Value × Value) → Option ExternalFault
  | _, [] => none
  | n, (k, v) :: es => ((obstacle? n k).or (obstacle? n v)).or (obstacleIn? n es)
end

/-- Why a value cannot be shown. -/
def unshowable? (v : Value) : Option ExternalFault := obstacle? showingLimit v

/-- The value can be shown. -/
def Showable (v : Value) : Prop := v.unshowable? = none

instance (v : Value) : Decidable v.Showable := inferInstanceAs (Decidable (v.unshowable? = none))

/-- **What is made of values that are shown in it**, or the fault of the first one that cannot be. -/
def withShown {α : Type} (values : List Value) (made : α) : Except Fault α :=
  match values.findSome? unshowable? with
  | none => .ok made
  | some kind => .error (.external kind)

/-- The text under which a filter compares a value, if it can be shown. -/
def compared (v : Value) : Except Fault (Option Text) := withShown [v] v.asText

end Value

/-- The values that a fault's message shows. -/
def Fault.shows : Fault → List Value
  | query (.unknownTable table) | query (.schemaMismatch table _) => [table]
  | config (.unknownMode mode) => [mode]
  | duplicateTable name => [name]
  | _ => []

/-- **What a fault comes to where it is raised**: if its message cannot be made, it is this that
fails. -/
def Fault.raised (f : Fault) : Fault :=
  match Value.withShown f.shows f with
  | .ok f => f
  | .error g => g

namespace Value

variable {v : Value} {values : List Value} {n : Nat} {k : ExternalFault}

theorem unshowable?_int (i : Int) : (int i).unshowable? =
    if i.natAbs < tenTo maxIntegerDigits then none else some .unshowable := rfl

@[simp] theorem showable_text (t : Text) : (text t).Showable := rfl

@[simp] theorem showable_null : null.Showable := rfl

@[simp] theorem showable_bool (b : Bool) : (bool b).Showable := rfl

theorem showable_int_iff {i : Int} : (int i).Showable ↔ i.natAbs < tenTo maxIntegerDigits := by
  rw [Showable, unshowable?_int]
  split <;> simp_all

/-- The least whole number that has too many digits. -/
def overlong : Value := int (tenTo maxIntegerDigits)

theorem unshowable?_overlong : overlong.unshowable? = some .unshowable := by
  have hlong : ¬ (tenTo maxIntegerDigits : Int).natAbs < tenTo maxIntegerDigits := by
    rw [Int.natAbs_natCast]
    exact Nat.lt_irrefl _
  rw [overlong, unshowable?_int, if_neg hlong]

/-- What has a cause is not showable, and the other way round. -/
theorem not_showable_iff : ¬ v.Showable ↔ ∃ k, v.unshowable? = some k :=
  Option.ne_none_iff_exists'

theorem obstacleIn?_eq_none {entries : List (Value × Value)}
    (h : ∀ e ∈ entries, obstacle? n e.1 = none ∧ obstacle? n e.2 = none) :
    obstacleIn? n entries = none := by
  induction entries with
  | nil => rw [obstacleIn?]
  | cons e entries ih =>
    obtain ⟨key, v⟩ := e
    obtain ⟨hkey, hv⟩ := h (key, v) (by simp)
    rw [obstacleIn?, hkey, hv, ih fun d hd => h d (by simp [hd])]
    rfl

/-- The obstacle, if there is one, is that of digits or that of depth. -/
def DigitsOrDepth (o : Option ExternalFault) : Prop :=
  ∀ k, o = some k → k = .unshowable ∨ k = .tooDeep

theorem DigitsOrDepth.or {o o' : Option ExternalFault} (h : DigitsOrDepth o)
    (h' : DigitsOrDepth o') : DigitsOrDepth (o.or o') := by
  intro k hk
  rcases Option.or_eq_some_iff.1 hk with hk | ⟨-, hk⟩
  · exact h k hk
  · exact h' k hk

mutual
theorem digitsOrDepth : ∀ (n : Nat) (v : Value), DigitsOrDepth (obstacle? n v)
  | 0, _ => by
    rw [obstacle?]
    rintro k ⟨⟩
    exact .inr rfl
  | n + 1, int i => by
    rw [obstacle?]
    intro k hk
    exact .inl (Option.some.inj (Option.ite_none_left_eq_some.1 hk).2).symm
  | n + 1, pair v w => by
    rw [obstacle?]
    exact (digitsOrDepth n v).or (digitsOrDepth n w)
  | n + 1, list items => by
    rw [obstacle?]
    exact digitsOrDepth_among n items
  | n + 1, set items => by
    rw [obstacle?]
    exact digitsOrDepth_among (n - 1) items
  | n + 1, mapping entries => by
    rw [obstacle?]
    exact digitsOrDepth_in n entries
  | n + 1, null | n + 1, bool _ | n + 1, double _ | n + 1, text _ | n + 1, bytes _
  | n + 1, moment _ | n + 1, enclosing _ => nofun

theorem digitsOrDepth_among : ∀ (n : Nat) (items : List Value),
    DigitsOrDepth (obstacleAmong? n items)
  | _, [] => nofun
  | n, v :: vs => by
    rw [obstacleAmong?]
    exact (digitsOrDepth n v).or (digitsOrDepth_among n vs)

theorem digitsOrDepth_in : ∀ (n : Nat) (entries : List (Value × Value)),
    DigitsOrDepth (obstacleIn? n entries)
  | _, [] => nofun
  | n, (k, v) :: es => by
    rw [obstacleIn?]
    exact ((digitsOrDepth n k).or (digitsOrDepth n v)).or (digitsOrDepth_in n es)
end

/-- A value has too many digits to be shown, or lies too deep. -/
theorem unshowable?_eq_some (h : v.unshowable? = some k) : k = .unshowable ∨ k = .tooDeep :=
  digitsOrDepth showingLimit v k h

/-- **What is made of values is made exactly if each of them can be shown.** -/
theorem withShown_eq_ok_iff {α : Type} {a b : α} :
    withShown values a = .ok b ↔ (∀ v ∈ values, v.Showable) ∧ a = b := by
  unfold withShown
  cases h : values.findSome? unshowable? with
  | none =>
    have hall : ∀ v ∈ values, v.Showable := List.findSome?_eq_none_iff.1 h
    simp only [Except.ok.injEq]
    exact ⟨fun hab => ⟨hall, hab⟩, fun hab => hab.2⟩
  | some k =>
    obtain ⟨v, hv, hk⟩ := List.exists_of_findSome?_eq_some h
    simp only [reduceCtorEq, false_iff, not_and]
    intro hall
    rw [hall v hv] at hk
    cases hk

theorem withShown_of_showable {α : Type} (a : α) (h : ∀ v ∈ values, v.Showable) :
    withShown values a = .ok a := withShown_eq_ok_iff.2 ⟨h, rfl⟩

/-- One value that cannot be shown is the fault. -/
theorem withShown_singleton_of_some {α : Type} (a : α) (h : v.unshowable? = some k) :
    withShown [v] a = .error (.external k) := by
  rw [withShown, List.findSome?_singleton, h]

end Value

/-- A fault that names what can be shown is raised as it is. -/
theorem Fault.raised_of_showable {f : Fault} (h : ∀ v ∈ f.shows, v.Showable) : f.raised = f := by
  rw [raised, Value.withShown_of_showable f h]

@[simp] theorem Fault.raised_unknownTable (t : Text) :
    raised (.query (.unknownTable (.text t))) = .query (.unknownTable (.text t)) := rfl

@[simp] theorem Fault.raised_schemaMismatch (t column : Text) :
    raised (.query (.schemaMismatch (.text t) column)) = .query (.schemaMismatch (.text t) column) :=
  rfl

end Almanac
