import DeviceBus.Proofs.Topology.Edges
import DeviceBus.Proofs.Topology.Locality

/-!
# What a walk reaches

A walk is a breadth-first search over open edges: those that lead from a loaded element through a side
that is not blocked (`Topology.Opens`).  The invariant of the search (`Scan.Search.Swept`) splits what was
found into the elements whose edges were followed and those that are queued.  It says of each element
found where it was found from, and of any two of them that no start of the list leads to the later one
without leading to the earlier one.  From that alone the distances from the root are in order, with no
count of steps kept (`Scan.Search.Swept.distance`).

A walk is given up only for an open edge to an element that is set aside, or for too many elements, so it
completes exactly if there is neither (`Scan.walk_completes_iff`).
-/

namespace DeviceBus

/-! ## Open edges -/

namespace Topology

/-- A loaded element has an edge to another that leaves through a side that is not blocked. -/
def Opens (t : Topology) (a b : ElementId) : Prop :=
  ∃ e, t.get? a = some e ∧ ∃ edge ∈ e.edges, edge.target = b ∧ e.isOpen edge.side = true

/-- A path of so many open edges leads from the root to an element, over loaded ones. -/
inductive Reaches (t : Topology) (root : ElementId) : Nat → ElementId → Prop where
  | root (h : t.loaded.contains root = true) : Reaches t root 0 root
  | step {n : Nat} {a b : ElementId} (h : Reaches t root n a) (hopens : t.Opens a b)
      (hloaded : t.loaded.contains b = true) : Reaches t root (n + 1) b

/-- A path of open edges leads from the root to an element. -/
def Reachable (t : Topology) (root id : ElementId) : Prop := ∃ n, t.Reaches root n id

/-- Every element is known under its own name. -/
def Named (t : Topology) : Prop := ∀ id e, t.known? id = some e → e.id = id

/-- Every element is in one of the tables only, under its own name. -/
structure Filed (t : Topology) : Prop where
  apart : t.Apart
  named : t.Named

variable {t : Topology} {root a b : ElementId}

theorem Filed.id_eq (h : t.Filed) {e : Element} (he : t.get? a = some e) : e.id = a := by
  refine h.named a e ?_
  unfold known?
  rw [show t.loaded.get? a = some e from he]
  rfl

theorem Filed.unloaded_eq_false (h : t.Filed) (hloaded : t.loaded.contains a = true) :
    t.isUnloaded a = false := h.apart a hloaded

theorem Reaches.loaded {n : Nat} (h : t.Reaches root n a) : t.loaded.contains a = true := by
  cases h with
  | root h => exact h
  | step _ _ hloaded => exact hloaded

theorem Reachable.loaded (h : t.Reachable root a) : t.loaded.contains a = true := by
  obtain ⟨n, h⟩ := h
  exact h.loaded

theorem Reachable.step (h : t.Reachable root a) (hopens : t.Opens a b)
    (hloaded : t.loaded.contains b = true) : t.Reachable root b := by
  obtain ⟨n, h⟩ := h
  exact ⟨n + 1, h.step hopens hloaded⟩

end Topology

namespace Scan

variable {t : Topology} {limit : Nat} {root : ElementId}

/-! ## The invariant -/

/-- An element was entered from the first of the found ones with an open edge to it, through the side of its
own edge back, if it has one. -/
def Entered (t : Topology) (found : List ElementId) (v : Visit) : Prop :=
  ∃ earlier u, earlier ++ [u] <+: found ∧ (∀ a ∈ earlier, ¬ t.Opens a v.element) ∧ t.Opens u v.element ∧
    ∃ e, t.get? v.element = some e ∧ v.entry = e.sideTowards u

theorem Entered.mono {found found' : List ElementId} {v : Visit} (h : Entered t found v)
    (hinit : found <+: found') : Entered t found' v := by
  obtain ⟨earlier, u, hu, hfirst⟩ := h
  exact ⟨earlier, u, hu.trans hinit, hfirst⟩

/-- Whatever leads to an element leads to those that were found before it. -/
def InOrder (t : Topology) (root : ElementId) (found : List ElementId) : Prop :=
  found.Pairwise fun x y => ∀ pre, pre <+: found →
    (∃ a ∈ pre, t.Opens a y) → x = root ∨ ∃ a ∈ pre, t.Opens a x

/-- A new element comes last if nothing leads to it but what led to all others already. -/
theorem InOrder.concat {found earlier : List ElementId} {u b : ElementId} (h : InOrder t root found)
    (hinit : earlier ++ [u] <+: found ++ [b]) (hfirst : ∀ a ∈ earlier, ¬ t.Opens a b)
    (hopened : ∀ a ∈ found, a ≠ root → ∃ p ∈ earlier ++ [u], t.Opens p a) :
    InOrder t root (found ++ [b]) := by
  have hopened {a : ElementId} (ha : a ∈ found) {pre : List ElementId} (hpre : earlier ++ [u] <+: pre) :
      a = root ∨ ∃ p ∈ pre, t.Opens p a := by
    refine Classical.or_iff_not_imp_left.2 fun hne => ?_
    obtain ⟨p, hp, hopens⟩ := hopened a ha hne
    exact ⟨p, hpre.subset hp, hopens⟩
  refine List.pairwise_append.2 ⟨?_, List.pairwise_singleton _ _, ?_⟩
  · refine List.Pairwise.imp_of_mem (fun {x y} hx _ hxy pre hpre hleads => ?_) h
    rcases List.prefix_concat_iff.1 hpre with rfl | hpre
    · exact hopened hx hinit
    · exact hxy pre hpre hleads
  -- a start of the list leads to the new element only if it goes beyond those taken up earlier
  · intro x hx y hy pre hpre hleads
    cases List.mem_singleton.1 hy
    refine hopened hx ?_
    rcases List.prefix_or_prefix_of_prefix hpre hinit with hle | hle
    · rcases List.prefix_concat_iff.1 hle with rfl | hle
      · exact List.prefix_refl _
      · obtain ⟨a, ha, hopens⟩ := hleads
        exact absurd hopens (hfirst a (hle.subset ha))
    · exact hle

namespace Search

/-- The elements found, in order. -/
def elements (s : Search) : List ElementId := s.visited.map Query.element

theorem hasSeen_eq_true_iff {s : Search} {id : ElementId} : s.hasSeen id = true ↔ id ∈ s.elements := by
  unfold hasSeen elements
  rw [List.any_eq_true, List.mem_map]
  simp only [decide_eq_true_iff]

theorem hasSeen_eq_false_iff {s : Search} {id : ElementId} : s.hasSeen id = false ↔ id ∉ s.elements := by
  rw [← Bool.not_eq_true, hasSeen_eq_true_iff]

theorem elements_found (s : Search) (v : Visit) : (s.found v).elements = s.elements ++ [v.element] :=
  List.map_append

theorem Extends.elements {s s' : Search} (h : s.Extends t s') {id : ElementId} (hid : id ∈ s.elements) :
    id ∈ s'.elements := by
  obtain ⟨v, hv, rfl⟩ := List.mem_map.1 hid
  exact List.mem_map_of_mem (h.subset hv)

/-- No open edge of an element leads to one that is set aside, or to a loaded one that was not found. -/
def Covers (t : Topology) (s : Search) (a : ElementId) : Prop :=
  ∀ b, t.Opens a b → t.isUnloaded b = false ∧ (t.loaded.contains b = true → b ∈ s.elements)

theorem Covers.mono {s s' : Search} {a : ElementId} (h : s.Covers t a) (hextends : s.Extends t s') :
    s'.Covers t a := by
  intro b hopens
  obtain ⟨hunloaded, hfound⟩ := h b hopens
  exact ⟨hunloaded, fun hloaded => hextends.elements (hfound hloaded)⟩

/-- What a search found from the elements whose edges it followed. -/
structure Swept (t : Topology) (limit : Nat) (root : ElementId) (done : List ElementId) (s : Search) :
    Prop where
  split : s.elements = done ++ s.queue
  starts : ∃ rest, s.visited = ⟨root, none⟩ :: rest
  tidy : s.Tidy
  room : s.visited.length ≤ max limit 1
  reached : ∀ a ∈ s.elements, t.Reachable root a
  entered : ∀ v ∈ s.visited, v.element ≠ root → Entered t s.elements v
  opened : ∀ a ∈ s.elements, a ≠ root → ∃ p ∈ done, t.Opens p a
  order : InOrder t root s.elements

variable {done earlier : List ElementId} {s s' : Search} {u b : ElementId}

theorem start_swept (hroot : t.loaded.contains root = true) : (start root).Swept t limit root [] where
  split := rfl
  starts := ⟨[], rfl⟩
  tidy := start_tidy root
  room := Nat.le_max_right limit 1
  reached := by
    intro a ha
    cases List.mem_singleton.1 ha
    exact ⟨0, .root hroot⟩
  entered := by
    intro v hv hne
    cases List.mem_singleton.1 hv
    exact absurd rfl hne
  opened := fun a ha hne => absurd (List.mem_singleton.1 ha) hne
  order := List.pairwise_singleton _ _

/-- The first queued element is taken up. -/
theorem Swept.dequeue (h : s.Swept t limit root done) {queue : List ElementId} (hqueue : s.queue = u :: queue) :
    Swept t limit root (done ++ [u]) { s with queue } where
  split := by
    have hsplit := h.split
    rw [hqueue] at hsplit
    rwa [List.append_assoc]
  starts := h.starts
  tidy := h.tidy.dequeue hqueue
  room := h.room
  reached := h.reached
  entered := h.entered
  opened := by
    intro a ha hne
    obtain ⟨p, hp, hopens⟩ := h.opened a ha hne
    exact ⟨p, List.mem_append_left _ hp, hopens⟩
  order := h.order

/-- A new element is found from the one that was taken up last. -/
theorem Swept.found (h : s.Swept t limit root (earlier ++ [u])) (hcovers : ∀ a ∈ earlier, s.Covers t a)
    {next : Element} (hopens : t.Opens u b) (hnext : t.get? b = some next) (hnew : b ∉ s.elements)
    (hroom : s.visited.length + 1 ≤ limit) :
    (s.found ⟨b, next.sideTowards u⟩).Swept t limit root (earlier ++ [u]) := by
  have hloaded : t.loaded.contains b = true := Option.isSome_iff_exists.2 ⟨next, hnext⟩
  have hu : u ∈ s.elements := by
    rw [h.split]
    exact List.mem_append_left _ (List.mem_append_right _ (List.mem_singleton_self u))
  have hfirst : ∀ a ∈ earlier, ¬ t.Opens a b := fun a ha hopens' => hnew ((hcovers a ha b hopens').2 hloaded)
  have hinit : earlier ++ [u] <+: s.elements ++ [b] := by
    rw [h.split]
    exact (List.prefix_append _ _).trans (List.prefix_append _ _)
  refine ⟨?_, ?_, h.tidy.found (hasSeen_eq_false_iff.2 hnew), ?_, ?_, ?_, ?_, ?_⟩
  · rw [elements_found, h.split, List.append_assoc]
    rfl
  · obtain ⟨rest, hrest⟩ := h.starts
    exact ⟨rest ++ [⟨b, next.sideTowards u⟩], by rw [Search.found, hrest]; rfl⟩
  · show (s.visited ++ [_]).length ≤ _
    rw [List.length_append]
    exact Nat.le_trans hroom (Nat.le_max_left _ _)
  · rw [elements_found]
    refine List.forall_mem_append.2 ⟨h.reached, List.forall_mem_singleton.2 ?_⟩
    exact (h.reached u hu).step hopens hloaded
  · rw [elements_found]
    refine List.forall_mem_append.2 ⟨fun v hv hne => ?_, List.forall_mem_singleton.2 fun _ => ?_⟩
    · exact (h.entered v hv hne).mono (List.prefix_append _ _)
    · exact ⟨earlier, u, hinit, hfirst, hopens, next, hnext, rfl⟩
  · rw [elements_found]
    refine List.forall_mem_append.2 ⟨h.opened, List.forall_mem_singleton.2 fun _ => ?_⟩
    exact ⟨u, List.mem_append_right _ (List.mem_singleton_self u), hopens⟩
  · rw [elements_found]
    exact h.order.concat hinit hfirst h.opened

end Search

/-! ## Steps -/

variable {done earlier : List ElementId} {s s' : Search} {u : ElementId} {e : Element} {edge : Edge}

/-- Following an edge leaves a search as it was, because no scan goes on through it, or its target was found
before or is unknown, or it finds a loaded element. -/
theorem followEdge_eq_ok (h : followEdge t limit e s edge = .ok s') :
    (s' = s ∧ (e.isOpen edge.side = true → edge.target ∉ s.elements →
        t.isUnloaded edge.target = false ∧ t.loaded.contains edge.target = false)) ∨
      ∃ next, e.isOpen edge.side = true ∧ edge.target ∉ s.elements ∧ t.isUnloaded edge.target = false ∧
        t.get? edge.target = some next ∧ s.visited.length + 1 ≤ limit ∧
        s' = s.found ⟨edge.target, next.sideTowards e.id⟩ := by
  unfold followEdge at h
  split at h
  · next hskip =>
    cases h
    refine .inl ⟨rfl, fun hopen hnew => ?_⟩
    rw [hopen, Search.hasSeen_eq_false_iff.2 hnew] at hskip
    cases hskip
  · next hgo =>
    rw [Bool.or_eq_true, not_or, Bool.not_eq_true', Bool.not_eq_false, Search.hasSeen_eq_true_iff] at hgo
    split at h
    · cases h
    · next hunloaded =>
      have hunloaded := eq_false_of_ne_true hunloaded
      split at h
      · next hnone =>
        cases h
        exact .inl ⟨rfl, fun _ _ => ⟨hunloaded, congrArg Option.isSome hnone⟩⟩
      · next next hnext =>
        split at h
        · cases h
        · next hroom =>
          cases h
          exact .inr ⟨next, hgo.1, hgo.2, hunloaded, hnext, Nat.le_of_not_lt hroom, rfl⟩

/-- Following an edge ends a walk at an element that is set aside, or at one too many. -/
theorem followEdge_eq_error {setback : Setback} (h : followEdge t limit e s edge = .error setback) :
    e.isOpen edge.side = true ∧ edge.target ∉ s.elements ∧
      (setback = .deferred ∧ t.isUnloaded edge.target = true ∨
        setback = .tooComplex ∧ t.loaded.contains edge.target = true ∧ limit < s.visited.length + 1) := by
  unfold followEdge at h
  split at h
  · cases h
  · next hgo =>
    rw [Bool.or_eq_true, not_or, Bool.not_eq_true', Bool.not_eq_false, Search.hasSeen_eq_true_iff] at hgo
    refine ⟨hgo.1, hgo.2, ?_⟩
    split at h
    · next hunloaded =>
      cases h
      exact .inl ⟨rfl, hunloaded⟩
    · split at h
      · cases h
      · next next hnext =>
        split at h
        · next hfull =>
          cases h
          exact .inr ⟨rfl, Option.isSome_iff_exists.2 ⟨next, hnext⟩, hfull⟩
        · cases h

namespace Search

/-- Of the edges that were followed, the open ones lead to no element that is set aside and to no loaded one
that was not found. -/
def Settles (t : Topology) (e : Element) (s : Search) (edge : Edge) : Prop :=
  e.isOpen edge.side = true → t.isUnloaded edge.target = false ∧
    (t.loaded.contains edge.target = true → edge.target ∈ s.elements)

theorem Swept.followEdge (hfiled : t.Filed) (he : t.get? u = some e) (hedge : edge ∈ e.edges)
    (h : s.Swept t limit root (earlier ++ [u])) (hcovers : ∀ a ∈ earlier, s.Covers t a)
    (hfollow : Scan.followEdge t limit e s edge = .ok s') :
    s'.Swept t limit root (earlier ++ [u]) ∧ s'.Settles t e edge := by
  rcases followEdge_eq_ok hfollow with ⟨rfl, hknown⟩ | ⟨next, hopen, hnew, hunloaded, hnext, hroom, rfl⟩
  · refine ⟨h, fun hopen => ?_⟩
    by_cases hseen : edge.target ∈ s'.elements
    · exact ⟨hfiled.unloaded_eq_false (h.reached _ hseen).loaded, fun _ => hseen⟩
    · obtain ⟨hunloaded, hnone⟩ := hknown hopen hseen
      refine ⟨hunloaded, fun hloaded => ?_⟩
      rw [hnone] at hloaded
      cases hloaded
  · rw [hfiled.id_eq he]
    refine ⟨h.found hcovers ⟨e, he, edge, hedge, rfl, hopen⟩ hnext hnew hroom, fun _ => ⟨hunloaded, fun _ => ?_⟩⟩
    rw [elements_found]
    exact List.mem_append_right _ (List.mem_singleton_self _)

theorem Settles.mono (h : s.Settles t e edge) (hextends : s.Extends t s') : s'.Settles t e edge := by
  intro hopen
  obtain ⟨hunloaded, hfound⟩ := h hopen
  exact ⟨hunloaded, fun hloaded => hextends.elements (hfound hloaded)⟩

theorem Swept.followEdges (hfiled : t.Filed) (he : t.get? u = some e) {edges : List Edge}
    (hedges : ∀ edge ∈ edges, edge ∈ e.edges) (h : s.Swept t limit root (earlier ++ [u]))
    (hcovers : ∀ a ∈ earlier, s.Covers t a) (hfollow : Scan.followEdges t limit e edges s = .ok s') :
    s'.Swept t limit root (earlier ++ [u]) ∧ ∀ edge ∈ edges, s'.Settles t e edge := by
  induction edges generalizing s with
  | nil =>
    cases hfollow
    exact ⟨h, nofun⟩
  | cons edge rest ih =>
    unfold Scan.followEdges at hfollow
    split at hfollow
    · cases hfollow
    · next s₁ hfirst =>
      obtain ⟨hswept, hsettles⟩ := h.followEdge hfiled he (hedges edge List.mem_cons_self) hcovers hfirst
      have hfirstExtends : s.Extends t s₁ := followEdge_extends hfirst
      obtain ⟨hswept', hrest⟩ := ih (fun edge' hedge' => hedges edge' (List.mem_cons_of_mem _ hedge')) hswept
        (fun a ha => (hcovers a ha).mono hfirstExtends) hfollow
      refine ⟨hswept', fun edge' hedge' => ?_⟩
      rcases List.mem_cons.1 hedge' with rfl | hedge'
      · exact hsettles.mono (followEdges_extends hfollow)
      · exact hrest edge' hedge'

/-- The edges of the element that is queued first are followed. -/
theorem Swept.followAll (hfiled : t.Filed) (h : s.Swept t limit root done) (hcovers : ∀ a ∈ done, s.Covers t a)
    {queue : List ElementId} (hqueue : s.queue = u :: queue)
    (hfollow : Scan.followAll t limit u { s with queue } = .ok s') :
    s'.Swept t limit root (done ++ [u]) ∧ ∀ a ∈ done ++ [u], s'.Covers t a := by
  have hdequeue : s.Extends t { s with queue } := .of_visited_eq rfl
  have hextends := hdequeue.trans (followAll_extends hfollow)
  have hu : u ∈ s.elements := by
    rw [h.split, hqueue]
    exact List.mem_append_right _ List.mem_cons_self
  obtain ⟨e, he⟩ := Option.isSome_iff_exists.1 (h.reached u hu).loaded
  have he : t.get? u = some e := he
  unfold Scan.followAll at hfollow
  rw [he] at hfollow
  obtain ⟨hswept, hsettles⟩ := (h.dequeue hqueue).followEdges hfiled he (fun _ hedge => hedge) hcovers hfollow
  refine ⟨hswept, fun a ha => ?_⟩
  rcases List.mem_append.1 ha with ha | ha
  · exact (hcovers a ha).mono hextends
  · cases List.mem_singleton.1 ha
    rintro b ⟨e', he', edge, hedge, rfl, hopen⟩
    rw [he] at he'
    cases he'
    exact hsettles edge hedge hopen

/-- A search keeps its invariant, however many steps it takes. -/
theorem Swept.explore (hfiled : t.Filed) {steps : Nat} (h : s.Swept t limit root done)
    (hcovers : ∀ a ∈ done, s.Covers t a) (hexplore : Scan.explore t limit steps s = .ok s') :
    ∃ done', s'.Swept t limit root done' ∧ ∀ a ∈ done', s'.Covers t a := by
  induction steps generalizing s done with
  | zero =>
    cases hexplore
    exact ⟨done, h, hcovers⟩
  | succ steps ih =>
    rcases explore_cases hexplore with ⟨rfl, -⟩ | ⟨rest, id, queue, s₁, hsteps, hqueue, hfollow, hrest⟩
    · exact ⟨done, h, hcovers⟩
    · cases hsteps
      obtain ⟨hswept, hcovers'⟩ := h.followAll hfiled hcovers hqueue hfollow
      exact ih hswept hcovers' hrest

/-! ## What a search found in the end -/

/-- A search with nothing left to follow found what can be reached. -/
theorem Swept.mem_iff (h : s.Swept t limit root done) (hcovers : ∀ a ∈ done, s.Covers t a)
    (hend : s.queue = []) {id : ElementId} : id ∈ s.elements ↔ t.Reachable root id := by
  have hdone : s.elements = done := by rw [h.split, hend, List.append_nil]
  refine ⟨h.reached id, ?_⟩
  rintro ⟨n, hreaches⟩
  induction hreaches with
  | root hroot =>
    obtain ⟨rest, hrest⟩ := h.starts
    rw [elements, hrest]
    exact List.mem_cons_self
  | step _ hopens hloaded ih => exact (hcovers _ (hdone ▸ ih) _ hopens).2 hloaded

/-- Nothing is found before the root. -/
theorem Swept.not_before_root (h : s.Swept t limit root done) {x : ElementId} :
    ¬ List.Sublist [x, root] s.elements := by
  intro hsub
  obtain ⟨rest, hrest⟩ := h.starts
  have helements : s.elements = root :: rest.map Query.element := congrArg (List.map Query.element) hrest
  have hnodup : (root :: rest.map Query.element).Nodup := helements ▸ h.tidy.nodup
  refine (List.nodup_cons.1 hnodup).1 ?_
  rw [helements] at hsub
  exact hsub.tail.subset (List.mem_singleton_self root)

/-- The earlier of two elements found is at least as near to the root as the later one. -/
theorem Swept.distance (h : s.Swept t limit root done)
    (hmem : ∀ {id}, id ∈ s.elements ↔ t.Reachable root id) :
    s.elements.Pairwise fun x y => ∀ n, t.Reaches root n y → ∃ m ≤ n, t.Reaches root m x := by
  rw [List.pairwise_iff_forall_sublist]
  intro x y hbefore n hy
  induction n generalizing x y with
  | zero =>
    cases hy
    exact absurd hbefore h.not_before_root
  | succ n ih =>
    obtain ⟨p, hp, hopens⟩ : ∃ p, t.Reaches root n p ∧ t.Opens p y := by
      cases hy with
      | step hp hopens _ => exact ⟨_, hp, hopens⟩
    -- the path comes over `p`, and what was found up to there leads to `x` as well
    obtain ⟨before, after, hsplit⟩ := List.append_of_mem (hmem.2 ⟨n, hp⟩)
    have hpre : before ++ [p] <+: s.elements := ⟨after, by rw [hsplit, List.append_assoc]; rfl⟩
    have hx : t.Reachable root x := hmem.1 (hbefore.subset List.mem_cons_self)
    rcases List.pairwise_iff_forall_sublist.1 h.order hbefore (before ++ [p]) hpre
      ⟨p, List.mem_append_right _ (List.mem_singleton_self p), hopens⟩ with rfl | ⟨q, hq, hqx⟩
    · exact ⟨0, Nat.zero_le _, .root hx.loaded⟩
    · obtain ⟨m, hm, hreaches⟩ : ∃ m ≤ n, t.Reaches root m q := by
        rcases List.mem_append.1 hq with hq | hq
        · refine ih ?_ hp
          rw [hsplit]
          exact (List.singleton_sublist.2 hq).append (List.singleton_sublist.2 List.mem_cons_self)
        · cases List.mem_singleton.1 hq
          exact ⟨n, Nat.le_refl n, hp⟩
      exact ⟨m + 1, Nat.succ_le_succ hm, hreaches.step hqx hx.loaded⟩

end Search

/-! ## Walks that are given up -/

/-- Why a walk from a loaded root is given up: an element that can be reached has an open edge to one that is
set aside, or more elements than allowed can be reached. -/
def Setback.Warranted (t : Topology) (root : ElementId) (limit : Nat) : Setback → Prop
  | .deferred => ∃ a b, t.Reachable root a ∧ t.Opens a b ∧ t.isUnloaded b = true
  | .tooComplex => ∃ ids : List ElementId, ids.Nodup ∧ (∀ a ∈ ids, t.Reachable root a) ∧
      max limit 1 < ids.length

namespace Search

variable {setback : Setback}

theorem Swept.followEdge_error (he : t.get? u = some e) (hedge : edge ∈ e.edges) (hu : u ∈ s.elements)
    (h : s.Swept t limit root done) (hfollow : Scan.followEdge t limit e s edge = .error setback) :
    setback.Warranted t root limit := by
  obtain ⟨hopen, hnew, hwhy⟩ := followEdge_eq_error hfollow
  have hopens : t.Opens u edge.target := ⟨e, he, edge, hedge, rfl, hopen⟩
  rcases hwhy with ⟨rfl, hunloaded⟩ | ⟨rfl, hloaded, hfull⟩
  · exact ⟨u, edge.target, h.reached u hu, hopens, hunloaded⟩
  -- the elements found so far and the target are too many
  · refine ⟨s.elements ++ [edge.target], ?_, ?_, ?_⟩
    · rw [List.nodup_append]
      refine ⟨h.tidy.nodup, List.nodup_singleton _, ?_⟩
      rintro a ha b hb rfl
      exact hnew (List.mem_singleton.1 hb ▸ ha)
    · refine List.forall_mem_append.2 ⟨h.reached, List.forall_mem_singleton.2 ?_⟩
      exact (h.reached u hu).step hopens hloaded
    · obtain ⟨rest, hrest⟩ := h.starts
      rw [List.length_append, List.length_singleton, elements, List.length_map]
      rw [hrest, List.length_cons] at hfull ⊢
      omega

theorem Swept.followEdges_error (hfiled : t.Filed) (he : t.get? u = some e) {edges : List Edge}
    (hedges : ∀ edge ∈ edges, edge ∈ e.edges) (h : s.Swept t limit root (earlier ++ [u]))
    (hcovers : ∀ a ∈ earlier, s.Covers t a) (hfollow : Scan.followEdges t limit e edges s = .error setback) :
    setback.Warranted t root limit := by
  induction edges generalizing s with
  | nil => cases hfollow
  | cons edge rest ih =>
    unfold Scan.followEdges at hfollow
    split at hfollow
    · next hfirst =>
      cases hfollow
      refine h.followEdge_error he (hedges edge List.mem_cons_self) ?_ hfirst
      rw [h.split]
      exact List.mem_append_left _ (List.mem_append_right _ (List.mem_singleton_self u))
    · next s₁ hfirst =>
      obtain ⟨hswept, -⟩ := h.followEdge hfiled he (hedges edge List.mem_cons_self) hcovers hfirst
      refine ih (fun edge' hedge' => hedges edge' (List.mem_cons_of_mem _ hedge')) hswept ?_ hfollow
      exact fun a ha => (hcovers a ha).mono (followEdge_extends hfirst)

theorem Swept.explore_error (hfiled : t.Filed) {steps : Nat} (h : s.Swept t limit root done)
    (hcovers : ∀ a ∈ done, s.Covers t a) (hexplore : Scan.explore t limit steps s = .error setback) :
    setback.Warranted t root limit := by
  induction steps generalizing s done with
  | zero => cases hexplore
  | succ steps ih =>
    cases hqueue : s.queue with
    | nil =>
      rw [explore_nil hqueue] at hexplore
      cases hexplore
    | cons u queue =>
      rw [explore_cons hqueue] at hexplore
      have hu : u ∈ s.elements := by
        rw [h.split, hqueue]
        exact List.mem_append_right _ List.mem_cons_self
      obtain ⟨e, he⟩ := Option.isSome_iff_exists.1 (h.reached u hu).loaded
      have he : t.get? u = some e := he
      split at hexplore
      · next hfollow =>
        cases hexplore
        unfold Scan.followAll at hfollow
        rw [he] at hfollow
        exact (h.dequeue hqueue).followEdges_error hfiled he (fun _ hedge => hedge) hcovers hfollow
      · next s₁ hfollow =>
        obtain ⟨hswept, hcovers'⟩ := h.followAll hfiled hcovers hqueue hfollow
        exact ih hswept hcovers' hexplore

end Search

/-- A walk from a loaded root is given up for a reason. -/
theorem walk_error (hfiled : t.Filed) (hroot : t.loaded.contains root = true) {setback : Setback}
    (h : walk t root limit = .error setback) : setback.Warranted t root limit := by
  rw [walk_eq hroot] at h
  cases hexplore : explore t limit t.size (.start root) with
  | error setback' =>
    rw [hexplore] at h
    cases h
    exact (Search.start_swept hroot).explore_error hfiled nofun hexplore
  | ok s =>
    rw [hexplore] at h
    cases h

/-- A walk from a root that is not loaded has to wait. -/
theorem walk_of_not_loaded (hroot : t.loaded.contains root = false) :
    walk t root limit = .error .deferred := if_neg (ne_true_of_eq_false hroot)

/-! ## Walks that complete -/

/-- What it takes that a walk completes. -/
structure Traversable (t : Topology) (root : ElementId) (limit : Nat) : Prop where
  loaded : t.loaded.contains root = true
  /-- No element that can be reached has an open edge to one that is set aside. -/
  settled : ∀ a b, t.Reachable root a → t.Opens a b → t.isUnloaded b = false
  /-- No more elements than allowed can be reached, the root apart, which always may be. -/
  few : ∀ ids : List ElementId, ids.Nodup → (∀ a ∈ ids, t.Reachable root a) → ids.length ≤ max limit 1

theorem Setback.Warranted.not_traversable {setback : Setback} (h : setback.Warranted t root limit) :
    ¬ Traversable t root limit := by
  intro htraversable
  cases setback with
  | deferred =>
    obtain ⟨a, b, ha, hopens, hunloaded⟩ := h
    rw [htraversable.settled a b ha hopens] at hunloaded
    cases hunloaded
  | tooComplex =>
    obtain ⟨ids, hnodup, hids, hmany⟩ := h
    exact Nat.not_le_of_lt hmany (htraversable.few ids hnodup hids)

variable {visits : List Visit}

/-- A walk that completes followed the edges of all that it found. -/
theorem walk_swept (hfiled : t.Filed) (h : walk t root limit = .ok visits) :
    ∃ (s : Search) (done : List ElementId), s.visited = visits ∧ s.queue = [] ∧
      s.Swept t limit root done ∧ ∀ a ∈ done, s.Covers t a := by
  obtain ⟨hroot, steps, s, hexplore, hend, hvisited⟩ := walk_eq_ok_iff.1 h
  obtain ⟨done, hswept, hcovers⟩ := (Search.start_swept hroot).explore hfiled nofun hexplore
  exact ⟨s, done, hvisited, hend, hswept, hcovers⟩

/-- A walk completes exactly if nothing that it can reach is next to an element that is set aside, and no
more elements than allowed can be reached. -/
theorem walk_completes_iff (hfiled : t.Filed) :
    (∃ visits, walk t root limit = .ok visits) ↔ Traversable t root limit := by
  constructor
  · rintro ⟨visits, h⟩
    obtain ⟨s, done, -, hend, hswept, hcovers⟩ := walk_swept hfiled h
    have hmem {id : ElementId} : id ∈ s.elements ↔ _ := hswept.mem_iff hcovers hend
    refine ⟨(walk_eq_ok_iff.1 h).1, fun a b ha hopens => ?_, fun ids hnodup hids => ?_⟩
    · have hdone : s.elements = done := by rw [hswept.split, hend, List.append_nil]
      exact (hcovers a (hdone ▸ hmem.2 ha) b hopens).1
    · have hlength := (List.subperm_of_subset hnodup fun a ha => hmem.2 (hids a ha)).length_le
      rw [Search.elements, List.length_map] at hlength
      exact Nat.le_trans hlength hswept.room
  · intro h
    cases hwalk : walk t root limit with
    | ok visits => exact ⟨visits, rfl⟩
    | error setback => exact absurd h (walk_error hfiled h.loaded hwalk).not_traversable

end Scan

end DeviceBus
