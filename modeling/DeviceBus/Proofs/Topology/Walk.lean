import DeviceBus.Scan

/-!
# Walks

A walk only ever adds to what it found, and what it adds is loaded.  So a walk that completes found
the root first, and loaded elements only (`Scan.walk_finds`).
-/

namespace DeviceBus

namespace Scan

variable {t : Topology} {limit : Nat}

/-- A search that goes on from another found all that the other did, and loaded elements besides. -/
def Search.Extends (t : Topology) (s s' : Search) : Prop :=
  ∃ found, s'.visited = s.visited ++ found ∧ ∀ v ∈ found, t.loaded.contains v.element = true

namespace Search

theorem Extends.of_visited_eq {s s' : Search} (h : s'.visited = s.visited) : s.Extends t s' :=
  ⟨[], by rw [h, List.append_nil], by simp⟩

theorem Extends.trans {s s' s'' : Search} (h : s.Extends t s') (h' : s'.Extends t s'') :
    s.Extends t s'' := by
  obtain ⟨found, hvisited, hfound⟩ := h
  obtain ⟨found', hvisited', hfound'⟩ := h'
  refine ⟨found ++ found', ?_, ?_⟩
  · rw [hvisited', hvisited, List.append_assoc]
  · intro v hmem
    rcases List.mem_append.1 hmem with hmem | hmem
    · exact hfound v hmem
    · exact hfound' v hmem

theorem Extends.subset {s s' : Search} (h : s.Extends t s') {v : Visit} (hv : v ∈ s.visited) :
    v ∈ s'.visited := by
  obtain ⟨found, hvisited, -⟩ := h
  exact hvisited ▸ List.mem_append_left found hv

theorem Extends.length_le {s s' : Search} (h : s.Extends t s') :
    s.visited.length ≤ s'.visited.length := by
  obtain ⟨found, hvisited, -⟩ := h
  rw [hvisited, List.length_append]
  exact Nat.le_add_right _ _

end Search

theorem followEdge_extends {source : Element} {s s' : Search} {edge : Edge}
    (h : followEdge t limit source s edge = .ok s') : s.Extends t s' := by
  unfold followEdge at h
  split at h
  · cases h
    exact .of_visited_eq rfl
  · split at h
    · cases h
    · split at h
      · cases h
        exact .of_visited_eq rfl
      · next next hnext =>
        split at h
        · cases h
        · cases h
          refine ⟨_, rfl, ?_⟩
          intro v hmem
          cases List.mem_singleton.1 hmem
          exact Option.isSome_iff_exists.2 ⟨next, hnext⟩

theorem followEdges_extends {source : Element} {edges : List Edge} {s s' : Search}
    (h : followEdges t limit source edges s = .ok s') : s.Extends t s' := by
  induction edges generalizing s with
  | nil =>
    cases h
    exact .of_visited_eq rfl
  | cons edge rest ih =>
    unfold followEdges at h
    split at h
    · cases h
    · next hedge => exact (followEdge_extends hedge).trans (ih h)

theorem explore_extends {steps : Nat} {s s' : Search} (h : explore t limit steps s = .ok s') :
    s.Extends t s' := by
  induction steps generalizing s with
  | zero =>
    cases h
    exact .of_visited_eq rfl
  | succ steps ih =>
    unfold explore at h
    split at h
    · cases h
      exact .of_visited_eq rfl
    · have hdequeue {queue : List ElementId} : s.Extends t { s with queue } := .of_visited_eq rfl
      split at h
      · exact hdequeue.trans (ih h)
      · split at h
        · cases h
        · next hedges => exact (hdequeue.trans (followEdges_extends hedges)).trans (ih h)

theorem walk_finds {root : ElementId} {visits : List Visit} (h : walk t root limit = .ok visits) :
    (∃ rest, visits = ⟨root, none⟩ :: rest) ∧ ∀ v ∈ visits, t.loaded.contains v.element = true := by
  unfold walk at h
  split at h
  · next hroot =>
    obtain ⟨s, hs, rfl⟩ : ∃ s, explore t limit t.size ⟨[⟨root, none⟩], [root]⟩ = .ok s ∧
        s.visited = visits := by
      cases hexplore : explore t limit t.size ⟨[⟨root, none⟩], [root]⟩ with
      | error setback =>
        rw [hexplore] at h
        cases h
      | ok s =>
        rw [hexplore] at h
        cases h
        exact ⟨s, rfl, rfl⟩
    obtain ⟨found, hvisited, hfound⟩ := explore_extends hs
    refine ⟨⟨found, hvisited⟩, ?_⟩
    intro v hmem
    rw [hvisited] at hmem
    rcases List.mem_append.1 hmem with hmem | hmem
    · cases List.mem_singleton.1 hmem
      exact hroot
    · exact hfound v hmem
  · cases h

end Scan

end DeviceBus
