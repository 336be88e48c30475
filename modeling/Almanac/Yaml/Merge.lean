import Almanac.Fault.Basic
import Almanac.Yaml.Graph

/-!
# Merging mappings

Under a merging key, a mapping takes over the entries of another one, or of the several in
a sequence, of which the first counts most. Entries that are taken over stand in front of
the mapping's own, so that these count more. What is taken over is merged itself before.

A mapping may be asked to take over its own entries. A merging key is gone once it has been
met, so that this ends.

* `merge_of_plain`: **without merging keys and keys of standard values nothing changes.**
-/

namespace Almanac.Yaml

namespace Graph

/-- The entries before the first one with a merging key, its value, and the entries
behind it. -/
def cutAtMerge (g : Graph) : List (Nat × Nat) → Option (List (Nat × Nat) × Nat × List (Nat × Nat))
  | [] => none
  | (k, n) :: rest =>
    if (g.node k).kind = .merge then some ([], n, rest)
    else (g.cutAtMerge rest).map fun (before, found, behind) => ((k, n) :: before, found, behind)

/-- The keys of standard values become text. -/
def settleKeys (g : Graph) (entries : List (Nat × Nat)) : Graph :=
  entries.foldl (fun g e => if (g.node e.1).kind = .standard then g.mark e.1 .text else g) g

/-- How many entries have a merging key. -/
def mergeCount (g : Graph) : Nat :=
  g.foldl (fun count node =>
    match node.content with
    | .mapping entries => count + entries.countP fun e => (g.node e.1).kind = .merge
    | _ => count) 0

/-- What is in place of a mapping's entries when its merging keys have been met: those that
it takes over, in front of its own. -/
def prepend (g : Graph) (n : Nat) (taken : List (Nat × Nat)) : Graph :=
  let own := g.entries n
  let g := g.settleKeys own
  if taken.isEmpty then g else g.fill n (.mapping (taken ++ own))

mutual
/-- Meets the merging keys of a mapping, which has taken over some entries already. Every
step inward is behind a merging key, so that `fuel` bounds their number. -/
def mergeFrom (g : Graph) (n : Nat) (taken : List (Nat × Nat)) :
    Nat → Except ExternalFault Graph
  | 0 => .error .tooDeep
  | fuel + 1 =>
    match g.cutAtMerge (g.entries n) with
    | none => .ok (g.prepend n taken)
    | some (before, source, behind) =>
      let g := g.fill n (.mapping (before ++ behind))
      match (g.node source).content with
      | .mapping _ => do
        let g ← mergeFrom g source [] fuel
        mergeFrom g n (taken ++ g.entries source) fuel
      | .sequence sources => do
        let (g, more) ← mergeAll g [] fuel sources
        mergeFrom g n (taken ++ more) fuel
      | .scalar _ => .error .badDocument

/-- Merges the mappings of a sequence. The entries of the later ones stand in front. -/
def mergeAll (g : Graph) (taken : List (Nat × Nat)) (fuel : Nat) :
    List Nat → Except ExternalFault (Graph × List (Nat × Nat))
  | [] => .ok (g, taken)
  | source :: rest =>
    match (g.node source).content with
    | .mapping _ => do
      let g ← mergeFrom g source [] fuel
      mergeAll g (g.entries source ++ taken) fuel rest
    | _ => .error .badDocument
end

/-- Merges what a mapping takes over into it. -/
def merge (g : Graph) (n : Nat) : Except ExternalFault Graph :=
  g.mergeFrom n [] (g.mergeCount + 1)

theorem cutAtMerge_of_plain {g : Graph} {entries : List (Nat × Nat)}
    (h : ∀ e ∈ entries, (g.node e.1).kind ≠ .merge) : g.cutAtMerge entries = none := by
  induction entries with
  | nil => rfl
  | cons e rest ih =>
    simp [cutAtMerge, h e (by simp), ih fun d hd => h d (by simp [hd])]

theorem settleKeys_of_plain {g : Graph} {entries : List (Nat × Nat)}
    (h : ∀ e ∈ entries, (g.node e.1).kind ≠ .standard) : g.settleKeys entries = g := by
  induction entries with
  | nil => rfl
  | cons e rest ih =>
    have := ih fun d hd => h d (by simp [hd])
    simpa [settleKeys, h e (by simp)] using this

/-- **Without merging keys and keys of standard values nothing changes.** -/
theorem merge_of_plain {g : Graph} {n : Nat}
    (h : ∀ e ∈ g.entries n, (g.node e.1).kind ≠ .merge ∧ (g.node e.1).kind ≠ .standard) :
    g.merge n = .ok g := by
  have hm := cutAtMerge_of_plain fun e he => (h e he).1
  have hs := settleKeys_of_plain fun e he => (h e he).2
  simp [merge, mergeFrom, hm, prepend, hs]

end Graph

end Almanac.Yaml
