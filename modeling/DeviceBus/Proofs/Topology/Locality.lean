import DeviceBus.Proofs.Listing
import DeviceBus.Proofs.Topology.Sight
import DeviceBus.Proofs.Topology.Walk
import Mathlib.Data.List.Perm.Subperm

/-!
# What a scan depends on

A walk that completes depends on the elements that it found, and on nothing else as long as their
edges lead to known elements (`Scan.walk_congr`): an edge to an element that it did not find leaves
through a blocked side.  It has found everything when its steps run out, because no element is queued
twice (`Scan.explore_ends`), so the number of loaded elements, by which its steps are counted, does
not matter.  The listing of the devices depends on the found elements, the provider, and the sizes and
draws of the devices (`Scan.enumerate_congr`).
-/

namespace DeviceBus

theorem Table.length_le_size {κ ν : Type} [Key κ] {t : Table κ ν} {ks : List κ} (hnodup : ks.Nodup)
    (h : ∀ k ∈ ks, t.contains k = true) : ks.length ≤ t.size := by
  have hsub : ks ⊆ t.keys := by
    intro k hk
    obtain ⟨v, hv⟩ := Option.isSome_iff_exists.1 (h k hk)
    exact List.mem_map.2 ⟨(k, v), Table.get?_eq_some_iff.1 hv, rfl⟩
  have hlength := (List.subperm_of_subset hnodup hsub).length_le
  unfold keys at hlength
  rwa [List.length_map] at hlength

namespace Scan

variable {t t' : Topology} {limit : Nat}

/-! ## Steps of a search -/

namespace Search

/-- What is queued was found, and nothing was found twice. -/
structure Tidy (s : Search) : Prop where
  queued : ∀ id ∈ s.queue, ∃ v ∈ s.visited, v.element = id
  nodup : (s.visited.map Query.element).Nodup

theorem Tidy.dequeue {s : Search} (h : s.Tidy) {id : ElementId} {queue : List ElementId}
    (hqueue : s.queue = id :: queue) : Tidy { s with queue } :=
  ⟨fun id' hid' => h.queued id' (hqueue ▸ List.mem_cons_of_mem _ hid'), h.nodup⟩

/-- A search with one more element found. -/
def found (s : Search) (v : Visit) : Search := ⟨s.visited ++ [v], s.queue ++ [v.element]⟩

theorem Tidy.found {s : Search} (h : s.Tidy) {v : Visit} (hnew : s.hasSeen v.element = false) :
    (s.found v).Tidy := by
  refine ⟨?_, ?_⟩
  · intro id hid
    rcases List.mem_append.1 hid with hid | hid
    · obtain ⟨v', hv', rfl⟩ := h.queued id hid
      exact ⟨v', List.mem_append_left _ hv', rfl⟩
    · cases List.mem_singleton.1 hid
      exact ⟨v, List.mem_append_right _ (List.mem_singleton_self v), rfl⟩
  · show ((s.visited ++ [v]).map Query.element).Nodup
    rw [List.map_append, List.nodup_append]
    refine ⟨h.nodup, List.nodup_singleton _, ?_⟩
    rintro id hid id' hid' rfl
    obtain ⟨v', hv', rfl⟩ := List.mem_map.1 hid
    have hseen : s.hasSeen v.element = true :=
      List.any_eq_true.2 ⟨v', hv', decide_eq_true (List.mem_singleton.1 hid')⟩
    rw [hnew] at hseen
    cases hseen

end Search

/-- Following an edge finds nothing, or a new element that is queued then. -/
theorem followEdge_cases {source : Element} {s s' : Search} {edge : Edge}
    (h : followEdge t limit source s edge = .ok s') :
    s' = s ∨ ∃ v : Visit, v.element = edge.target ∧ s.hasSeen v.element = false ∧ s' = s.found v := by
  unfold followEdge at h
  split at h
  · cases h
    exact .inl rfl
  · next hskip =>
    split at h
    · cases h
    · split at h
      · cases h
        exact .inl rfl
      · split at h
        · cases h
        · cases h
          rw [Bool.or_eq_true, not_or] at hskip
          exact .inr ⟨_, rfl, eq_false_of_ne_true hskip.2, rfl⟩

theorem followEdges_tidy {source : Element} {edges : List Edge} {s s' : Search} (hs : s.Tidy)
    (h : followEdges t limit source edges s = .ok s') :
    s'.Tidy ∧ s'.visited.length + s.queue.length = s.visited.length + s'.queue.length := by
  induction edges generalizing s with
  | nil =>
    cases h
    exact ⟨hs, rfl⟩
  | cons edge rest ih =>
    unfold followEdges at h
    split at h
    · cases h
    · next s₁ hedge =>
      rcases followEdge_cases hedge with rfl | ⟨v, -, hnew, rfl⟩
      · exact ih hs h
      · obtain ⟨htidy, hlength⟩ := ih (hs.found hnew) h
        refine ⟨htidy, ?_⟩
        simp only [Search.found, List.length_append, List.length_singleton] at hlength
        omega

/-- Follows the edges of an element, if it is loaded. -/
def followAll (t : Topology) (limit : Nat) (id : ElementId) (s : Search) : Except Setback Search :=
  match t.get? id with
  | none => .ok s
  | some e => followEdges t limit e e.edges s

theorem followAll_extends {id : ElementId} {s s' : Search} (h : followAll t limit id s = .ok s') :
    s.Extends t s' := by
  unfold followAll at h
  split at h
  · cases h
    exact .of_visited_eq rfl
  · exact followEdges_extends h

theorem followAll_tidy {id : ElementId} {s s' : Search} (hs : s.Tidy)
    (h : followAll t limit id s = .ok s') :
    s'.Tidy ∧ s'.visited.length + s.queue.length = s.visited.length + s'.queue.length := by
  unfold followAll at h
  split at h
  · cases h
    exact ⟨hs, rfl⟩
  · exact followEdges_tidy hs h

theorem explore_nil {steps : Nat} {s : Search} (h : s.queue = []) :
    explore t limit steps s = .ok s := by
  cases steps with
  | zero => rfl
  | succ steps =>
    unfold explore
    rw [h]

theorem explore_cons {steps : Nat} {s : Search} {id : ElementId} {queue : List ElementId}
    (h : s.queue = id :: queue) : explore t limit (steps + 1) s =
      match followAll t limit id { s with queue } with
      | .error setback => .error setback
      | .ok s => explore t limit steps s := by
  rw [explore, h]
  dsimp only
  unfold followAll
  cases t.get? id with
  | none => rfl
  | some e => rfl

/-- A search that ends took no step, or followed the edges of one element and went on. -/
theorem explore_cases {steps : Nat} {s s' : Search} (h : explore t limit steps s = .ok s') :
    s' = s ∧ (steps = 0 ∨ s.queue = []) ∨
      ∃ rest id queue s₁, steps = rest + 1 ∧ s.queue = id :: queue ∧
        followAll t limit id { s with queue } = .ok s₁ ∧ explore t limit rest s₁ = .ok s' := by
  cases steps with
  | zero =>
    cases h
    exact .inl ⟨rfl, .inl rfl⟩
  | succ rest =>
    cases hqueue : s.queue with
    | nil =>
      rw [explore_nil hqueue] at h
      cases h
      exact .inl ⟨rfl, .inr rfl⟩
    | cons id queue =>
      rw [explore_cons hqueue] at h
      split at h
      · cases h
      · next s₁ hfollow => exact .inr ⟨rest, id, queue, s₁, rfl, rfl, hfollow, h⟩

theorem explore_tidy {steps : Nat} {s s' : Search} (hs : s.Tidy)
    (h : explore t limit steps s = .ok s') : s'.Tidy := by
  induction steps generalizing s with
  | zero =>
    cases h
    exact hs
  | succ steps ih =>
    rcases explore_cases h with ⟨rfl, -⟩ | ⟨rest, id, queue, s₁, hsteps, hqueue, hfollow, hrest⟩
    · exact hs
    · cases hsteps
      exact ih (followAll_tidy (hs.dequeue hqueue) hfollow).1 hrest

/-! ## The end of a search -/

/-- A search follows the edges of all that it queued, unless its steps run out. -/
theorem explore_queue {steps : Nat} {s s' : Search} (hs : s.Tidy)
    (h : explore t limit steps s = .ok s') : s'.queue = [] ∨
      s'.visited.length + s.queue.length = s.visited.length + s'.queue.length + steps := by
  induction steps generalizing s with
  | zero =>
    cases h
    exact .inr rfl
  | succ steps ih =>
    rcases explore_cases h with ⟨rfl, hidle⟩ | ⟨rest, id, queue, s₁, hsteps, hqueue, hfollow, hrest⟩
    · exact .inl (hidle.resolve_left (Nat.succ_ne_zero steps))
    · cases hsteps
      obtain ⟨htidy, hcount⟩ := followAll_tidy (hs.dequeue hqueue) hfollow
      refine (ih htidy hrest).imp_right fun hrest => ?_
      rw [hqueue, List.length_cons]
      dsimp only at hcount
      omega

/-- A search with nothing left to follow ends the same with any number of steps that is not less than
what it queued. -/
theorem explore_of_queue_eq_nil {steps steps' : Nat} {s s' : Search} (hs : s.Tidy)
    (h : explore t limit steps s = .ok s') (hend : s'.queue = [])
    (henough : s'.visited.length + s.queue.length ≤ s.visited.length + steps') :
    explore t limit steps' s = .ok s' := by
  induction steps generalizing s steps' with
  | zero =>
    cases h
    exact explore_nil hend
  | succ steps ih =>
    rcases explore_cases h with ⟨rfl, -⟩ | ⟨rest, id, queue, s₁, hsteps, hqueue, hfollow, hrest⟩
    · exact explore_nil hend
    · cases hsteps
      obtain ⟨htidy, hcount⟩ := followAll_tidy (hs.dequeue hqueue) hfollow
      have hgrown := ((followAll_extends hfollow).trans (explore_extends hrest)).length_le
      rw [hqueue, List.length_cons] at henough
      dsimp only at hcount hgrown
      obtain ⟨rest', rfl⟩ : ∃ rest', steps' = rest' + 1 := ⟨steps' - 1, by omega⟩
      rw [explore_cons hqueue, hfollow]
      exact ih htidy hrest (by omega)

/-- Where a walk starts. -/
def Search.start (root : ElementId) : Search := ⟨[⟨root, none⟩], [root]⟩

theorem Search.start_tidy (root : ElementId) : (Search.start root).Tidy :=
  ⟨fun _ h => ⟨⟨root, none⟩, List.mem_singleton_self _, (List.mem_singleton.1 h).symm⟩,
    List.nodup_singleton root⟩

/-- Loaded elements that differ are no more than there are. -/
theorem length_le_size {visits : List Visit} (hnodup : (visits.map Query.element).Nodup)
    (h : ∀ v ∈ visits, t.loaded.contains v.element = true) : visits.length ≤ t.size := by
  have hsize : (visits.map Query.element).length ≤ t.loaded.size := by
    refine Table.length_le_size hnodup ?_
    intro id hid
    obtain ⟨v, hv, rfl⟩ := List.mem_map.1 hid
    exact h v hv
  rwa [List.length_map] at hsize

/-- All that a search finds from a loaded root is loaded. -/
theorem explore_loaded {root : ElementId} (hroot : t.loaded.contains root = true) {steps : Nat} {s : Search}
    (h : explore t limit steps (.start root) = .ok s) :
    ∀ v ∈ s.visited, t.loaded.contains v.element = true := by
  obtain ⟨found, hvisited, hfound⟩ := explore_extends h
  intro v hv
  rw [hvisited] at hv
  rcases List.mem_append.1 hv with hv | hv
  · cases List.mem_singleton.1 hv
    exact hroot
  · exact hfound v hv

theorem explore_length_le {root : ElementId} (hroot : t.loaded.contains root = true) {steps : Nat} {s : Search}
    (h : explore t limit steps (.start root) = .ok s) : s.visited.length ≤ t.size :=
  length_le_size (explore_tidy (Search.start_tidy root) h).nodup (explore_loaded hroot h)

/-- A search from a loaded root is over after as many steps as there are loaded elements. -/
theorem explore_ends {root : ElementId} (hroot : t.loaded.contains root = true) {s : Search}
    (h : explore t limit t.size (.start root) = .ok s) : s.queue = [] := by
  have hsize := explore_length_le hroot h
  rcases explore_queue (Search.start_tidy root) h with hqueue | hcount
  · exact hqueue
  -- every step takes one element off the queue, and there are no more elements than steps
  · simp only [Search.start, List.length_singleton] at hcount
    exact List.eq_nil_of_length_eq_zero (by omega)

theorem explore_error_of_le {steps steps' : Nat} {s : Search} {setback : Setback}
    (h : explore t limit steps s = .error setback) (hle : steps ≤ steps') :
    explore t limit steps' s = .error setback := by
  induction steps generalizing s steps' with
  | zero => cases h
  | succ steps ih =>
    obtain ⟨rest, rfl⟩ : ∃ rest, steps' = rest + 1 := ⟨steps' - 1, by omega⟩
    cases hqueue : s.queue with
    | nil =>
      rw [explore_nil hqueue] at h
      cases h
    | cons id queue =>
      rw [explore_cons hqueue] at h ⊢
      split at h
      · exact h
      · exact ih h (Nat.le_of_succ_le_succ hle)

/-- More steps than there are loaded elements change nothing. -/
theorem explore_of_size_le {root : ElementId} (hroot : t.loaded.contains root = true) {steps : Nat}
    (hsteps : t.size ≤ steps) :
    explore t limit steps (.start root) = explore t limit t.size (.start root) := by
  cases h : explore t limit t.size (.start root) with
  | error setback => exact explore_error_of_le h hsteps
  | ok s =>
    refine explore_of_queue_eq_nil (Search.start_tidy root) h (explore_ends hroot h) ?_
    have hsize := explore_length_le hroot h
    simp only [Search.start, List.length_singleton]
    omega

/-- A walk from a loaded root is a search that is over. -/
theorem walk_eq {root : ElementId} (hroot : t.loaded.contains root = true) :
    walk t root limit = (explore t limit t.size (.start root)).map Search.visited := if_pos hroot

/-- A walk that completes is a search that followed the edges of all that it found. -/
theorem walk_eq_ok_iff {root : ElementId} {visits : List Visit} :
    walk t root limit = .ok visits ↔ t.loaded.contains root = true ∧
      ∃ steps s, explore t limit steps (.start root) = .ok s ∧ s.queue = [] ∧ s.visited = visits := by
  constructor
  · intro h
    by_cases hroot : t.loaded.contains root = true
    · rw [walk_eq hroot] at h
      cases hexplore : explore t limit t.size (.start root) with
      | error setback =>
        rw [hexplore] at h
        cases h
      | ok s =>
        rw [hexplore] at h
        cases h
        exact ⟨hroot, t.size, s, hexplore, explore_ends hroot hexplore, rfl⟩
    · unfold walk at h
      rw [if_neg hroot] at h
      cases h
  · rintro ⟨hroot, steps, s, hs, hqueue, rfl⟩
    have hwalk : explore t limit t.size (.start root) = .ok s := by
      refine explore_of_queue_eq_nil (Search.start_tidy root) hs hqueue ?_
      have hsize := explore_length_le hroot hs
      simp only [Search.start, List.length_singleton]
      omega
    rw [walk_eq hroot, hwalk]
    rfl

/-- A walk visits no element twice. -/
theorem walk_nodup {root : ElementId} {visits : List Visit} (h : walk t root limit = .ok visits) :
    (visits.map Query.element).Nodup := by
  obtain ⟨-, steps, s, hexplore, -, rfl⟩ := walk_eq_ok_iff.1 h
  exact (explore_tidy (Search.start_tidy root) hexplore).nodup

/-! ## Locality of a walk -/

/-- A walk sees the same of the elements that it found, and of unknown ones that their edges lead to. -/
structure Agrees (t t' : Topology) (visits : List Visit) : Prop where
  visited : ∀ v ∈ visits, t.LooksAlike v.element t'
  beyond : ∀ v ∈ visits, ∀ e, t.get? v.element = some e → ∀ edge ∈ e.edges,
    t.knows edge.target = false → t.LooksAlike edge.target t'

theorem followEdge_congr {source : Element} {s s' : Search} {edge : Edge}
    (h : followEdge t limit source s edge = .ok s')
    (hvisited : ∀ v ∈ s'.visited, t.LooksAlike v.element t')
    (hbeyond : t.knows edge.target = false → t.LooksAlike edge.target t') :
    followEdge t' limit source s edge = .ok s' := by
  unfold followEdge at h ⊢
  split at h
  · next hskip =>
    rw [if_pos hskip]
    exact h
  · next hskip =>
    rw [if_neg hskip]
    split at h
    · cases h
    · next hunloaded =>
      have hlike : t.LooksAlike edge.target t' := by
        cases htarget : t.get? edge.target with
        | none =>
          refine hbeyond (Bool.or_eq_false_iff.2 ⟨?_, eq_false_of_ne_true hunloaded⟩)
          exact congrArg Option.isSome htarget
        | some next =>
          simp only [htarget] at h
          split at h
          · cases h
          · cases h
            exact hvisited ⟨edge.target, _⟩ (List.mem_append_right _ (List.mem_singleton_self _))
      rw [hlike.unloaded, if_neg hunloaded]
      split at h
      · next hnone =>
        rw [hlike.get?_eq_none hnone]
        exact h
      · next next hnext =>
        obtain ⟨pending, hnext'⟩ := hlike.get?_eq_some hnext
        rw [hnext']
        exact h

theorem followEdges_congr {source : Element} {edges : List Edge} {s s' : Search}
    (h : followEdges t limit source edges s = .ok s')
    (hvisited : ∀ v ∈ s'.visited, t.LooksAlike v.element t')
    (hbeyond : ∀ edge ∈ edges, t.knows edge.target = false → t.LooksAlike edge.target t') :
    followEdges t' limit source edges s = .ok s' := by
  induction edges generalizing s with
  | nil => exact h
  | cons edge rest ih =>
    unfold followEdges at h ⊢
    split at h
    · cases h
    · next s₁ hedge =>
      have hbefore : ∀ v ∈ s₁.visited, t.LooksAlike v.element t' :=
        fun v hv => hvisited v ((followEdges_extends h).subset hv)
      rw [followEdge_congr hedge hbefore (hbeyond edge List.mem_cons_self)]
      exact ih h fun edge hmem => hbeyond edge (List.mem_cons_of_mem _ hmem)

/-- A mark of a change does not lead anywhere. -/
theorem followEdges_setScanPending (source : Element) (pending : Bool) (edges : List Edge) (s : Search) :
    followEdges t limit (source.setScanPending pending) edges s =
      followEdges t limit source edges s := by
  induction edges generalizing s with
  | nil => rfl
  | cons edge rest ih =>
    unfold followEdges
    rw [show followEdge t limit (source.setScanPending pending) s edge =
      followEdge t limit source s edge from rfl]
    split
    · rfl
    · exact ih _

theorem followAll_congr {v : Visit} {s s' : Search} (h : followAll t limit v.element s = .ok s')
    {visits : List Visit} (hv : v ∈ visits) (hsub : ∀ v ∈ s'.visited, v ∈ visits)
    (hagrees : Agrees t t' visits) : followAll t' limit v.element s = .ok s' := by
  have hlike := hagrees.visited v hv
  unfold followAll at h ⊢
  split at h
  · next hnone =>
    rw [hlike.get?_eq_none hnone]
    exact h
  · next e he =>
    obtain ⟨pending, he'⟩ := hlike.get?_eq_some he
    rw [he']
    show followEdges t' limit (e.setScanPending pending) e.edges s = .ok s'
    rw [followEdges_setScanPending]
    exact followEdges_congr h (fun v hv => hagrees.visited v (hsub v hv)) (hagrees.beyond v hv e he)

theorem explore_congr {steps : Nat} {s s' : Search} (hs : s.Tidy)
    (h : explore t limit steps s = .ok s') (hagrees : Agrees t t' s'.visited) :
    explore t' limit steps s = .ok s' := by
  induction steps generalizing s with
  | zero => exact h
  | succ steps ih =>
    have hfound (v : Visit) (hv : v ∈ s.visited) := (explore_extends h).subset hv
    rcases explore_cases h with ⟨rfl, hidle⟩ | ⟨rest, id, queue, s₁, hsteps, hqueue, hfollow, hrest⟩
    · exact explore_nil (hidle.resolve_left (Nat.succ_ne_zero steps))
    · cases hsteps
      obtain ⟨v, hv, rfl⟩ := hs.queued id (hqueue ▸ List.mem_cons_self)
      rw [explore_cons hqueue, followAll_congr hfollow (hfound v hv)
        (fun v hv => (explore_extends hrest).subset hv) hagrees]
      exact ih (followAll_tidy (hs.dequeue hqueue) hfollow).1 hrest

/-- A walk that completes finds the same in every topology where what it found looks the same. -/
theorem walk_congr {root : ElementId} {visits : List Visit} (h : walk t root limit = .ok visits)
    (hagrees : Agrees t t' visits) : walk t' root limit = .ok visits := by
  obtain ⟨⟨rest, hvisits⟩, -⟩ := walk_finds h
  obtain ⟨hroot, steps, s, hs, hqueue, rfl⟩ := walk_eq_ok_iff.1 h
  refine walk_eq_ok_iff.2 ⟨?_, steps, s, explore_congr (Search.start_tidy root) hs hagrees, hqueue, rfl⟩
  have hlike := hagrees.visited ⟨root, none⟩ (hvisits ▸ List.mem_cons_self)
  rw [hlike.contains, hroot]

/-! ## Locality of a listing -/

/-- A device has the size and the draw it had. -/
def SameExtent (hw hw' : Hardware) (d : DeviceRef) : Prop :=
  (hw'.device d.handle).size = (hw.device d.handle).size ∧
    (hw'.device d.handle).draw = (hw.device d.handle).draw

variable {hw hw' : Hardware}

theorem Listing.add_congr {offer : Offer} (h : SameExtent hw hw' offer.device) (l : Listing)
    (element : ElementId) : l.add hw' element offer = l.add hw element offer := by
  unfold Listing.add
  rw [h.1]

theorem Listing.addAll_congr {element : ElementId} {offers : List Offer}
    (h : ∀ o ∈ offers, SameExtent hw hw' o.device) (l : Listing) :
    Listing.addAll hw' element offers l = Listing.addAll hw element offers l := by
  induction offers generalizing l with
  | nil => rfl
  | cons offer rest ih =>
    unfold Listing.addAll
    rw [Listing.add_congr (h offer List.mem_cons_self)]
    split
    · rfl
    · exact ih (fun o ho => h o (List.mem_cons_of_mem _ ho)) _

/-- The devices of an element that looks the same. -/
theorem ownOffers_congr {e : ElementId} (hlike : t.LooksAlike e t')
    (h : ∀ o ∈ ownOffers t hw e, SameExtent hw hw' o.device) :
    ownOffers t' hw' e = ownOffers t hw e := by
  unfold ownOffers at h ⊢
  cases he : t.get? e with
  | none => rw [hlike.get?_eq_none he]
  | some el =>
    obtain ⟨pending, he'⟩ := hlike.get?_eq_some he
    rw [he'] at *
    simp only [he] at h
    refine List.map_congr_left fun d hd => ?_
    rw [(h _ (List.mem_map_of_mem hd)).2]

theorem ownOffers_stocks {P : DeviceRef → Prop} (ht : t.Stocks P) {e : ElementId} {o : Offer}
    (h : o ∈ ownOffers t hw e) : P o.device := by
  unfold ownOffers at h
  split at h
  · cases h
  · next el hel =>
    obtain ⟨d, hd, rfl⟩ := List.mem_map.1 h
    exact ht.loaded e el hel d hd

theorem listDevices_congr {visits : List Visit} (hlike : ∀ v ∈ visits, t.LooksAlike v.element t')
    (hprovider : t'.provider = t.provider) (hextent : t.Stocks (SameExtent hw hw')) (l : Listing) :
    (listDevices t' visits l hw').1 = (listDevices t visits l hw).1 := by
  have hoffers (q : Query) : t'.offers q = t.offers q := by
    unfold Topology.offers
    rw [hprovider]
  induction visits generalizing l hw hw' with
  | nil => rfl
  | cons v rest ih =>
    -- the query that is noted changes no device
    have hextent' : t.Stocks (SameExtent
        (if t.provider.isSome then hw.record (.query v.element v.entry) else hw)
        (if t.provider.isSome then hw'.record (.query v.element v.entry) else hw')) := by
      split
      · exact hextent
      · exact hextent
    unfold listDevices
    rw [hprovider, hoffers]
    generalize (if t.provider.isSome then hw.record (.query v.element v.entry) else hw) = hw at *
    generalize (if t.provider.isSome then hw'.record (.query v.element v.entry) else hw') = hw' at *
    dsimp only
    cases hoffered : t.offers v with
    | error fault => rfl
    | ok offered =>
      have hown := ownOffers_congr (hlike v List.mem_cons_self) fun o ho => ownOffers_stocks hextent' ho
      have hlisted : ∀ o ∈ ownOffers t hw v.element ++ offered, SameExtent hw hw' o.device := by
        intro o ho
        rcases List.mem_append.1 ho with ho | ho
        · exact ownOffers_stocks hextent' ho
        · exact hextent'.offers v offered hoffered o ho
      dsimp only
      rw [hown, Listing.addAll_congr hlisted]
      split
      · rfl
      · exact ih (fun v hv => hlike v (List.mem_cons_of_mem _ hv)) hextent' _

/-- A listing that completes is the same in every topology where the elements look the same, with the
same provider and devices of the same sizes and draws. -/
theorem enumerate_congr {visits : List Visit} (hlike : ∀ v ∈ visits, t.LooksAlike v.element t')
    (hprovider : t'.provider = t.provider) (hextent : t.Stocks (SameExtent hw hw')) :
    (enumerate t' hw' visits).1 = (enumerate t hw visits).1 :=
  congrArg (Except.map Listing.devices) (listDevices_congr hlike hprovider hextent ⟨[], 0⟩)

end Scan

end DeviceBus
