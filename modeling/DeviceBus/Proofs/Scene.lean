import DeviceBus.Scene
import DeviceBus.Proofs.Topology.Neighbours

/-!
# What a scene builds

A scene can be built if its elements have different names, and its links join different declared elements,
no two of them the same pair (`Scene.Consistent`).  Three passes add the elements, make the edges and set
elements aside, and all of them extend one statement: the site holds the elements so far, joined by the
links so far, and these of them are not loaded (`Site.Holds`).

    scene.build = .ok s     →  scene.Consistent ∧ s.Holds elements links unloaded
    scene.build = .error e  →  ¬ scene.Consistent ∧ scene.Flaw e                       (build_outcome)

The error names the first thing that is wrong (`Scene.Flaw`).
-/

namespace DeviceBus

/-! ## What a scene says -/

namespace LinkSpec

/-- Two links join the same elements, in either direction. -/
def SameEnds (l m : LinkSpec) : Prop := l.a = m.a ∧ l.b = m.b ∨ l.a = m.b ∧ l.b = m.a

instance : DecidableRel SameEnds := fun l m =>
  inferInstanceAs (Decidable (l.a = m.a ∧ l.b = m.b ∨ l.a = m.b ∧ l.b = m.a))

/-- The edge that an element has from a link it takes part in. -/
def edgeAt (x : ElementId) (l : LinkSpec) : Option Edge :=
  if x = l.a then some ⟨l.aSide, l.b⟩ else if x = l.b then some ⟨l.bSide, l.a⟩ else none

/-- Links that can be made between elements of the given names. -/
def Sound (ids : List ElementId) (links : List LinkSpec) : Prop :=
  (∀ l ∈ links, l.a ≠ l.b ∧ l.a ∈ ids ∧ l.b ∈ ids) ∧ links.Pairwise fun l m => ¬ l.SameEnds m

instance (ids : List ElementId) (links : List LinkSpec) : Decidable (Sound ids links) :=
  inferInstanceAs (Decidable (_ ∧ _))

end LinkSpec

/-- An element is the one described, its devices are built as described, and it has the given edges. -/
structure ElementSpec.Describes (spec : ElementSpec) (edges : List Edge) (hw : Hardware) (e : Element) :
    Prop where
  id : e.id = spec.id
  blocked : e.blocked = spec.blocked
  edges : e.edges = edges
  devices : e.devices.map (fun r => (hw.devices[r.handle.index]?, r.id)) =
    spec.devices.map fun d => (some d.device, d.device.id)
  /-- No scan has seen it yet. -/
  pending : e.scanPending = true

namespace Scene

/-- The names of elements that are declared. -/
abbrev ids (specs : List ElementSpec) : List ElementId := specs.map ElementSpec.id

/-- Elements have names of their own, and links join different declared elements, no two of them the
same. -/
structure Consistent (scene : Scene) : Prop where
  distinct : (ids scene.elements).Nodup
  links : LinkSpec.Sound (ids scene.elements) scene.links

instance (scene : Scene) : Decidable scene.Consistent :=
  decidable_of_iff ((ids scene.elements).Nodup ∧ LinkSpec.Sound (ids scene.elements) scene.links)
    ⟨fun ⟨h, h'⟩ => ⟨h, h'⟩, fun ⟨h, h'⟩ => ⟨h, h'⟩⟩

/-- What is wrong first. -/
inductive Flaw (scene : Scene) : SceneError → Prop where
  | declaredTwice {before after : List ElementSpec} {spec : ElementSpec}
      (hsplit : scene.elements = before ++ spec :: after) (hbefore : (ids before).Nodup)
      (hspec : spec.id ∈ ids before) : Flaw scene (.declaredTwice spec.id)
  | cannotLink {before after : List LinkSpec} {l : LinkSpec} (hdistinct : (ids scene.elements).Nodup)
      (hsplit : scene.links = before ++ l :: after)
      (hbefore : LinkSpec.Sound (ids scene.elements) before)
      (hl : ¬ LinkSpec.Sound (ids scene.elements) (before ++ [l])) : Flaw scene (.cannotLink l.a l.b)

end Scene

namespace Site

/-- The device objects that stand at an element. -/
def handlesAt (s : Site) (x : ElementId) : List Handle :=
  (s.topology.known? x).elim [] fun e => e.devices.map DeviceRef.handle

/-- A site has exactly the elements described, each with the edges of the links it takes part in, and
exactly those of the given names are not loaded.  Every device is an object of its own. -/
structure Holds (s : Site) (specs : List ElementSpec) (links : List LinkSpec) (aside : List ElementId) :
    Prop where
  loaded : ∀ x, s.topology.loaded.contains x = true ↔ x ∈ Scene.ids specs ∧ x ∉ aside
  unloaded : ∀ x, s.topology.unloaded.contains x = true ↔ x ∈ Scene.ids specs ∧ x ∈ aside
  elements : ∀ spec ∈ specs, ∃ e, s.topology.known? spec.id = some e ∧
    spec.Describes (links.filterMap (LinkSpec.edgeAt spec.id)) s.hardware e
  objects : (specs.flatMap fun spec => s.handlesAt spec.id).Nodup

end Site

/-! ## Links -/

namespace LinkSpec

variable {l m : LinkSpec} {links : List LinkSpec} {ids : List ElementId}

theorem edgeAt_a (l : LinkSpec) : l.edgeAt l.a = some ⟨l.aSide, l.b⟩ := if_pos rfl

theorem edgeAt_b (hne : l.a ≠ l.b) : l.edgeAt l.b = some ⟨l.bSide, l.a⟩ := by
  rw [edgeAt, if_neg hne.symm, if_pos rfl]

/-- A link leads from one of its ends to the other. -/
theorem exists_edgeAt_iff {a b : ElementId} (hne : a ≠ b) :
    (∃ edge, m.edgeAt a = some edge ∧ edge.target = b) ↔ m.a = a ∧ m.b = b ∨ m.a = b ∧ m.b = a := by
  unfold edgeAt
  split
  · next ha =>
    constructor
    · rintro ⟨edge, hedge, rfl⟩
      cases hedge
      exact .inl ⟨ha.symm, rfl⟩
    · rintro (⟨-, hb⟩ | ⟨hb, -⟩)
      · exact ⟨_, rfl, hb⟩
      · exact absurd (ha.trans hb) hne
  · next ha =>
    split
    · next hb =>
      constructor
      · rintro ⟨edge, hedge, rfl⟩
        cases hedge
        exact .inr ⟨rfl, hb.symm⟩
      · rintro (⟨hma, -⟩ | ⟨hma, -⟩)
        · exact absurd hma.symm ha
        · exact ⟨_, rfl, hma⟩
    · next hb =>
      constructor
      · rintro ⟨_, hedge, -⟩
        cases hedge
      · rintro (⟨hma, -⟩ | ⟨-, hmb⟩)
        · exact absurd hma.symm ha
        · exact absurd hmb.symm hb

/-- An element with the edges of some links has an edge to another exactly if a link joins the two. -/
theorem hasEdge_iff {e : Element} {a b : ElementId} (hne : a ≠ b)
    (hedges : e.edges = links.filterMap (edgeAt a)) :
    e.hasEdge b = true ↔ ∃ m ∈ links, m.a = a ∧ m.b = b ∨ m.a = b ∧ m.b = a := by
  rw [Element.hasEdge_eq_true_iff, hedges]
  constructor
  · rintro ⟨edge, hedge, htarget⟩
    obtain ⟨m, hm, hat⟩ := List.mem_filterMap.1 hedge
    exact ⟨m, hm, (exists_edgeAt_iff hne).1 ⟨edge, hat, htarget⟩⟩
  · rintro ⟨m, hm, hends⟩
    obtain ⟨edge, hat, htarget⟩ := (exists_edgeAt_iff hne).2 hends
    exact ⟨edge, List.mem_filterMap.2 ⟨m, hm, hat⟩, htarget⟩

/-- One more link can be made if it joins different known elements that no link joins yet. -/
theorem sound_append_singleton : Sound ids (links ++ [l]) ↔
    Sound ids links ∧ l.a ≠ l.b ∧ l.a ∈ ids ∧ l.b ∈ ids ∧ ∀ m ∈ links, ¬ m.SameEnds l := by
  unfold Sound
  rw [List.forall_mem_append, List.forall_mem_singleton, List.pairwise_append]
  constructor
  · rintro ⟨⟨hlinks, hne, ha, hb⟩, hpairs, -, hnew⟩
    exact ⟨⟨hlinks, hpairs⟩, hne, ha, hb, fun m hm => hnew m hm l List.mem_cons_self⟩
  · rintro ⟨⟨hlinks, hpairs⟩, hne, ha, hb, hnew⟩
    refine ⟨⟨hlinks, hne, ha, hb⟩, hpairs, List.pairwise_singleton _ _, fun m hm l' hl' => ?_⟩
    rw [List.mem_singleton.1 hl']
    exact hnew m hm

theorem Sound.of_append {more : List LinkSpec} (h : Sound ids (links ++ more)) : Sound ids links :=
  ⟨fun l hl => h.1 l (List.mem_append_left _ hl), (List.pairwise_append.1 h.2).1⟩

end LinkSpec

/-- What is wrong first is wrong. -/
theorem Scene.Flaw.not_consistent {scene : Scene} {e : SceneError} (h : scene.Flaw e) :
    ¬ scene.Consistent := by
  intro hc
  cases h with
  | declaredTwice hsplit _ hspec =>
    have hdistinct := hc.distinct
    rw [hsplit, Scene.ids, List.map_append, List.map_cons] at hdistinct
    exact (List.nodup_append.1 hdistinct).2.2 _ hspec _ List.mem_cons_self rfl
  | cannotLink _ hsplit _ hl =>
    have hlinks := hc.links
    rw [hsplit, List.append_cons] at hlinks
    exact hl hlinks.of_append

/-! ## Devices -/

namespace Scene

theorem buildDevices_hardware (specs : List DeviceSpec) (hw : Hardware) :
    (buildDevices specs hw).2.devices = hw.devices ++ specs.map DeviceSpec.device := by
  induction specs generalizing hw with
  | nil => exact (List.append_nil _).symm
  | cons spec specs ih =>
    show (buildDevices specs (hw.build spec.device).2).2.devices = _
    rw [ih, List.map_cons]
    exact (List.append_cons _ _ _).symm

/-- The objects are the next ones that the hardware has room for. -/
theorem buildDevices_handles (specs : List DeviceSpec) (hw : Hardware) :
    (buildDevices specs hw).1.map (fun r => r.handle.index) = List.range' hw.devices.length specs.length := by
  induction specs generalizing hw with
  | nil => rfl
  | cons spec specs ih =>
    show hw.devices.length :: (buildDevices specs (hw.build spec.device).2).1.map _ = _
    rw [ih, List.length_cons, List.range'_succ]
    show _ :: List.range' (hw.devices ++ [spec.device]).length _ = _
    rw [List.length_append, List.length_singleton]

theorem buildDevices_devices (specs : List DeviceSpec) (hw : Hardware) :
    (buildDevices specs hw).1.map (fun r => ((buildDevices specs hw).2.devices[r.handle.index]?, r.id)) =
      specs.map fun d => (some d.device, d.device.id) := by
  induction specs generalizing hw with
  | nil => rfl
  | cons spec specs ih =>
    have hfirst : (buildDevices (spec :: specs) hw).2.devices[hw.devices.length]? = some spec.device := by
      rw [buildDevices_hardware, List.map_cons, List.getElem?_append_right (Nat.le_refl _), Nat.sub_self]
      rfl
    show (_, spec.device.id) :: _ = _
    rw [List.map_cons, ← ih (hw.build spec.device).2]
    exact congrArg (fun d => (d, spec.device.id) :: _) hfirst

theorem buildOffers_hardware (specs : List ProvidedSpec) (hw : Hardware) :
    hw.devices <+: (buildOffers specs hw).2.devices := by
  induction specs generalizing hw with
  | nil => exact List.prefix_refl _
  | cons spec specs ih => exact (List.prefix_append _ _).trans (ih (hw.build spec.device.device).2)

end Scene

namespace ElementSpec.Describes

variable {spec : ElementSpec} {edges : List Edge} {hw hw' : Hardware} {e : Element}

/-- Every object was built. -/
theorem handle_lt (h : spec.Describes edges hw e) {r : DeviceRef} (hr : r ∈ e.devices) :
    r.handle.index < hw.devices.length := by
  have hmem := List.mem_map_of_mem (f := fun r => (hw.devices[r.handle.index]?, r.id)) hr
  rw [h.devices] at hmem
  obtain ⟨d, -, hd⟩ := List.mem_map.1 hmem
  exact (List.getElem?_eq_some_iff.1 (congrArg Prod.fst hd).symm).1

/-- More devices leave the earlier ones what they are. -/
theorem grow (h : spec.Describes edges hw e) (hgrow : hw.devices <+: hw'.devices) :
    spec.Describes edges hw' e := by
  obtain ⟨more, hmore⟩ := hgrow
  refine { h with devices := (List.map_congr_left fun r hr => ?_).trans h.devices }
  rw [← hmore, List.getElem?_append_left (h.handle_lt hr)]

end ElementSpec.Describes

/-! ## What a site holds -/

namespace Site

variable {s : Site} {t t' : Topology} {hw hw' : Hardware} {specs : List ElementSpec} {links : List LinkSpec}
  {aside aside' : List ElementId} {x : ElementId}

theorem handlesAt_of_known? {e : Element} (h : s.topology.known? x = some e) :
    s.handlesAt x = e.devices.map DeviceRef.handle := by
  unfold handlesAt
  rw [h]
  rfl

theorem handlesAt_congr (h : t.known? x = s.topology.known? x) : handlesAt ⟨t, hw⟩ x = s.handlesAt x :=
  congrArg (fun e? : Option Element => e?.elim [] _) h

namespace Holds

/-- The empty site holds nothing. -/
theorem nil : (default : Site).Holds [] [] [] :=
  ⟨fun _ => by simp [default, Table.contains, Topology.empty],
    fun _ => by simp [default, Table.contains, Topology.empty], fun _ h => (nomatch h), List.nodup_nil⟩

theorem of_mem_iff (h : s.Holds specs links aside) (haside : ∀ x, x ∈ aside' ↔ x ∈ aside) :
    s.Holds specs links aside' :=
  ⟨fun x => by rw [h.loaded, haside], fun x => by rw [h.unloaded, haside], h.elements, h.objects⟩

/-- The element of a name is the one described under it. -/
theorem describes (h : s.Holds specs links aside) {e : Element} (he : s.topology.known? x = some e) :
    ∃ spec ∈ specs, spec.id = x ∧ spec.Describes (links.filterMap (LinkSpec.edgeAt x)) s.hardware e := by
  have hknows : s.topology.knows x = true := by
    rw [← Topology.known?_isSome, he]
    rfl
  have hmem : x ∈ Scene.ids specs := by
    rcases Bool.or_eq_true_iff.1 hknows with hx | hx
    · exact ((h.loaded x).1 hx).1
    · exact ((h.unloaded x).1 hx).1
  obtain ⟨spec, hspec, rfl⟩ := List.mem_map.1 hmem
  obtain ⟨e', he', hdescribes⟩ := h.elements spec hspec
  rw [he, Option.some.injEq] at he'
  exact ⟨spec, hspec, rfl, he' ▸ hdescribes⟩

/-- The elements are what they were; others of them may be loaded. -/
theorem congr (h : Holds ⟨t, hw⟩ specs links aside) (hknown : ∀ x, t'.known? x = t.known? x)
    (hloaded : ∀ x, t'.loaded.contains x = true ↔ x ∈ Scene.ids specs ∧ x ∉ aside')
    (hunloaded : ∀ x, t'.unloaded.contains x = true ↔ x ∈ Scene.ids specs ∧ x ∈ aside') :
    Holds ⟨t', hw⟩ specs links aside' := by
  refine ⟨hloaded, hunloaded, fun spec hspec => ?_, ?_⟩
  · rw [hknown]
    exact h.elements spec hspec
  · have hhandles (x : ElementId) : handlesAt ⟨t', hw⟩ x = handlesAt ⟨t, hw⟩ x := handlesAt_congr (hknown x)
    simp only [hhandles]
    exact h.objects

/-- More devices may be built. -/
theorem grow (h : Holds ⟨t, hw⟩ specs links aside) (hgrow : hw.devices <+: hw'.devices) :
    Holds ⟨t, hw'⟩ specs links aside := by
  refine ⟨h.loaded, h.unloaded, fun spec hspec => ?_, h.objects⟩
  obtain ⟨e, he, hdescribes⟩ := h.elements spec hspec
  exact ⟨e, he, hdescribes.grow hgrow⟩

/-- Nothing has been scanned, so marking an element changes nothing about it. -/
theorem markDirty (h : Holds ⟨t, hw⟩ specs links aside) (x : ElementId) :
    Holds ⟨t.markDirty x, hw⟩ specs links aside := by
  have hloaded := (Topology.markDirty_sameEdges t x).contains
  refine h.congr (fun y => ?_) (fun y => hloaded y ▸ h.loaded y) h.unloaded
  have hmark := Topology.known?_modifyLoaded t x (·.setScanPending true) y
  show Topology.known? { t with loaded := t.loaded.modify x (·.setScanPending true) } y = _
  rw [hmark]
  split
  · cases hknown : t.known? y with
    | none => rfl
    | some e =>
      obtain ⟨spec, -, -, hdescribes⟩ := h.describes hknown
      have hsame : e.setScanPending true = e := by
        rw [Element.setScanPending, ← hdescribes.pending]
      exact congrArg some hsame
  · rfl

/-- Every object was built. -/
theorem handle_lt (h : s.Holds specs links aside) {handle : Handle}
    (hmem : handle ∈ s.handlesAt x) : handle.index < s.hardware.devices.length := by
  cases hknown : s.topology.known? x with
  | none =>
    rw [handlesAt, hknown] at hmem
    exact nomatch hmem
  | some e =>
    rw [handlesAt_of_known? hknown] at hmem
    obtain ⟨r, hr, rfl⟩ := List.mem_map.1 hmem
    obtain ⟨spec, -, -, hdescribes⟩ := h.describes hknown
    exact hdescribes.handle_lt hr

/-! ### One step of each pass -/

theorem get?_eq_none_iff (h : s.Holds specs links []) : s.topology.get? x = none ↔ x ∉ Scene.ids specs := by
  have hloaded := h.loaded x
  rw [and_iff_left List.not_mem_nil] at hloaded
  rw [← hloaded]
  exact Option.not_isSome_iff_eq_none.symm

theorem mem_of_get? (h : s.Holds specs links []) {e : Element} (he : s.topology.get? x = some e) :
    x ∈ Scene.ids specs := by
  by_contra hx
  rw [h.get?_eq_none_iff.2 hx] at he
  cases he

/-- One more element is known, with objects of its own. -/
theorem add {spec : ElementSpec} {e : Element} (h : s.Holds specs [] []) (hnew : spec.id ∉ Scene.ids specs)
    (hknown : ∀ x, t.known? x = if spec.id = x then some e else s.topology.known? x)
    (hloaded : ∀ x, t.loaded.contains x = (decide (spec.id = x) || s.topology.loaded.contains x))
    (hunloaded : ∀ x, t.unloaded.contains x = (!decide (spec.id = x) && s.topology.unloaded.contains x))
    (hdescribes : spec.Describes [] hw e) (hgrow : s.hardware.devices <+: hw.devices)
    (hdistinct : (e.devices.map DeviceRef.handle).Nodup)
    (hfresh : ∀ r ∈ e.devices, s.hardware.devices.length ≤ r.handle.index) :
    Holds ⟨t, hw⟩ (specs ++ [spec]) [] [] := by
  have hother {x : ElementId} (hx : x ∈ Scene.ids specs) : t.known? x = s.topology.known? x := by
    rw [hknown, if_neg]
    rintro rfl
    exact hnew hx
  have hhere : t.known? spec.id = some e := by rw [hknown, if_pos rfl]
  refine ⟨fun x => ?_, fun x => ?_, fun spec' hspec' => ?_, ?_⟩
  · have hbefore := h.loaded x
    rw [and_iff_left List.not_mem_nil] at hbefore
    rw [and_iff_left List.not_mem_nil, Scene.ids, List.map_append, List.mem_append, List.map_singleton,
      List.mem_singleton, ← hbefore]
    show t.loaded.contains x = true ↔ _
    rw [hloaded, Bool.or_eq_true, decide_eq_true_iff, or_comm, @eq_comm _ x]
  · have hbefore := h.unloaded x
    simp only [List.not_mem_nil, and_false, iff_false] at hbefore ⊢
    show ¬ t.unloaded.contains x = true
    rw [hunloaded, Bool.and_eq_true]
    exact fun hx => hbefore hx.2
  · rcases List.mem_append.1 hspec' with hspec' | hspec'
    · obtain ⟨e', he', hdescribes'⟩ := h.elements spec' hspec'
      exact ⟨e', (hother (List.mem_map_of_mem hspec')).trans he', hdescribes'.grow hgrow⟩
    · rw [List.mem_singleton.1 hspec']
      exact ⟨e, hhere, hdescribes⟩
  · have hsame : specs.flatMap (fun spec => handlesAt ⟨t, hw⟩ spec.id) =
        specs.flatMap fun spec => s.handlesAt spec.id :=
      List.flatMap_congr fun spec' hspec' => handlesAt_congr (hother (List.mem_map_of_mem hspec'))
    rw [List.flatMap_append, hsame, List.flatMap_singleton, handlesAt_of_known? hhere, List.nodup_append]
    refine ⟨h.objects, hdistinct, fun handle hmem handle' hmem' heq => ?_⟩
    -- the objects so far were built before, and those of the new element are not among them
    obtain ⟨spec', -, hmem⟩ := List.mem_flatMap.1 hmem
    obtain ⟨r, hr, rfl⟩ := List.mem_map.1 hmem'
    have hlt := h.handle_lt hmem
    rw [heq] at hlt
    exact absurd hlt (Nat.not_lt.2 (hfresh r hr))

/-- An element under a new name is added with its devices. -/
theorem insert {spec : ElementSpec} (h : s.Holds specs [] []) (hnew : spec.id ∉ Scene.ids specs) :
    Holds ⟨(s.topology.insert (.new spec.id spec.blocked (Scene.buildDevices spec.devices s.hardware).1)).2,
      (Scene.buildDevices spec.devices s.hardware).2⟩ (specs ++ [spec]) [] [] := by
  have hhandles := Scene.buildDevices_handles spec.devices s.hardware
  refine markDirty (h.add hnew (Topology.known?_bringIn _ _ _) (fun x => ?_) (fun x => ?_)
    ⟨rfl, rfl, rfl, Scene.buildDevices_devices _ _, rfl⟩ ⟨_, (Scene.buildDevices_hardware _ _).symm⟩ ?_
    fun r hr => ?_) spec.id
  · show Table.contains (Table.insert _ spec.id _) x = _
    simp only [Table.contains_insert, ElementId.index_eq_iff]
  · show Table.contains (Table.erase _ spec.id) x = _
    simp only [Table.contains_erase, ElementId.index_eq_iff]
  · refine List.Nodup.of_map Handle.index ?_
    rw [List.map_map]
    exact hhandles ▸ List.nodup_range'
  · have hrange := List.mem_map_of_mem (f := fun r : DeviceRef => r.handle.index) hr
    rw [show List.map _ (Element.new _ _ _).devices = _ from hhandles, List.mem_range'_1] at hrange
    exact hrange.1

/-- The elements get the edges of other links, and are otherwise what they were. -/
theorem rejoin (h : Holds ⟨t, hw⟩ specs links aside) {links' : List LinkSpec}
    (hloaded : ∀ x, t'.loaded.contains x = t.loaded.contains x) (hunloaded : t'.unloaded = t.unloaded)
    (hknown : ∀ x e, t.known? x = some e →
      t'.known? x = some { e with edges := links'.filterMap (LinkSpec.edgeAt x) }) :
    Holds ⟨t', hw⟩ specs links' aside := by
  refine ⟨fun x => ?_, fun x => ?_, fun spec hspec => ?_, ?_⟩
  · rw [hloaded]
    exact h.loaded x
  · rw [hunloaded]
    exact h.unloaded x
  · obtain ⟨e, he, hdescribes⟩ := h.elements spec hspec
    exact ⟨_, hknown _ e he, { hdescribes with edges := rfl }⟩
  · have hsame : specs.flatMap (fun spec => handlesAt ⟨t', hw⟩ spec.id) =
        specs.flatMap fun spec => handlesAt ⟨t, hw⟩ spec.id := by
      refine List.flatMap_congr fun spec hspec => ?_
      obtain ⟨e, he, -⟩ := h.elements spec hspec
      rw [handlesAt_of_known? (hknown _ e he), handlesAt_of_known? he]
    rw [hsame]
    exact h.objects

theorem hasEdge_iff (h : Holds ⟨t, hw⟩ specs links aside) {a b : ElementId} {e : Element}
    (he : t.get? a = some e) (hne : a ≠ b) :
    e.hasEdge b = true ↔ ∃ m ∈ links, m.a = a ∧ m.b = b ∨ m.a = b ∧ m.b = a := by
  obtain ⟨_, _, _, hdescribes⟩ := h.describes (Topology.known?_of_loaded he)
  exact LinkSpec.hasEdge_iff hne hdescribes.edges

/-- An element that is not joined yet gets the edge of the link. -/
theorem link_eq (h : Holds ⟨t, hw⟩ specs links aside) {a b : ElementId} {side : Option Side} {e : Element}
    {l : LinkSpec} (he : t.get? a = some e) (hfree : ¬ e.hasEdge b = true)
    (hat : l.edgeAt a = some ⟨side, b⟩) :
    e.link side b = { e with edges := (links ++ [l]).filterMap (LinkSpec.edgeAt a) } := by
  obtain ⟨_, _, _, hdescribes⟩ := h.describes (Topology.known?_of_loaded he)
  rw [Element.link, if_neg hfree, List.filterMap_append, ← hdescribes.edges, List.filterMap_cons_some hat,
    List.filterMap_nil]

/-- An element that takes no part in the link has the edges that it had. -/
theorem unlinked_eq (h : Holds ⟨t, hw⟩ specs links aside) {e : Element} {l : LinkSpec}
    (he : t.known? x = some e) (hat : l.edgeAt x = none) :
    { e with edges := (links ++ [l]).filterMap (LinkSpec.edgeAt x) } = e := by
  obtain ⟨_, _, _, hdescribes⟩ := h.describes he
  rw [List.filterMap_append, List.filterMap_cons_none hat, List.filterMap_nil, List.append_nil,
    ← hdescribes.edges]

/-- A link is refused exactly if it cannot be made. -/
theorem connect_iff (h : Holds ⟨t, hw⟩ specs links []) (hlinks : LinkSpec.Sound (Scene.ids specs) links)
    (l : LinkSpec) :
    (t.connect l.a l.aSide l.b l.bSide).1 = true ↔ LinkSpec.Sound (Scene.ids specs) (links ++ [l]) := by
  rw [LinkSpec.sound_append_singleton]
  unfold Topology.connect
  cases ha : t.get? l.a with
  | none => exact iff_of_false nofun fun hsound => h.get?_eq_none_iff.1 ha hsound.2.2.1
  | some ea =>
    cases hb : t.get? l.b with
    | none => exact iff_of_false nofun fun hsound => h.get?_eq_none_iff.1 hb hsound.2.2.2.1
    | some eb =>
      dsimp only
      split
      · next hrefused =>
        refine iff_of_false nofun ?_
        rintro ⟨-, hne, -, -, hnew⟩
        rcases hrefused with heq | ⟨hedge, -⟩
        · exact hne heq
        · obtain ⟨m, hm, hends⟩ := (h.hasEdge_iff ha hne).1 hedge
          exact hnew m hm hends
      · next hmade =>
        rw [not_or] at hmade
        obtain ⟨hne, hfree⟩ := hmade
        refine iff_of_true rfl
          ⟨hlinks, hne, h.mem_of_get? ha, h.mem_of_get? hb, fun m hm hends => hfree ⟨?_, ?_⟩⟩
        · exact (h.hasEdge_iff ha hne).2 ⟨m, hm, hends⟩
        · exact (h.hasEdge_iff hb (Ne.symm hne)).2 ⟨m, hm, hends.symm⟩

/-- A link that can be made gives each of its ends an edge. -/
theorem connect (h : Holds ⟨t, hw⟩ specs links []) {l : LinkSpec}
    (hsound : LinkSpec.Sound (Scene.ids specs) (links ++ [l])) :
    Holds ⟨(t.connect l.a l.aSide l.b l.bSide).2, hw⟩ specs (links ++ [l]) [] := by
  obtain ⟨-, hne, hamem, hbmem, hnew⟩ := LinkSpec.sound_append_singleton.1 hsound
  obtain ⟨ea, ha⟩ := Option.ne_none_iff_exists'.1 fun hnone => h.get?_eq_none_iff.1 hnone hamem
  obtain ⟨eb, hb⟩ := Option.ne_none_iff_exists'.1 fun hnone => h.get?_eq_none_iff.1 hnone hbmem
  have hafree : ¬ ea.hasEdge l.b = true := fun hedge => by
    obtain ⟨m, hm, hends⟩ := (h.hasEdge_iff ha hne).1 hedge
    exact hnew m hm hends
  have hbfree : ¬ eb.hasEdge l.a = true := fun hedge => by
    obtain ⟨m, hm, hends⟩ := (h.hasEdge_iff hb hne.symm).1 hedge
    exact hnew m hm hends.symm
  have hmade : ¬ (l.a = l.b ∨ ea.hasEdge l.b = true ∧ eb.hasEdge l.a = true) := by
    rintro (heq | ⟨hedge, -⟩)
    · exact hne heq
    · exact hafree hedge
  unfold Topology.connect
  rw [show t.get? l.a = some ea from ha, show t.get? l.b = some eb from hb]
  dsimp only
  rw [if_neg hmade]
  -- marking changes nothing, so what counts are the two elements with their new edges
  suffices hraw : Holds ⟨{ t with loaded :=
      (t.loaded.insert l.a (ea.link l.aSide l.b)).insert l.b (eb.link l.bSide l.a) }, hw⟩ specs (links ++ [l]) []
    from (hraw.markDirty l.a).markDirty l.b
  rw [h.link_eq ha hafree (LinkSpec.edgeAt_a l), h.link_eq hb hbfree (LinkSpec.edgeAt_b hne)]
  refine h.rejoin (fun x => ?_) rfl fun x e he => ?_
  · have hcontains {x : ElementId} {e : Element} (hx : t.get? x = some e) : t.loaded.contains x = true := by
      rw [Table.contains, show t.loaded.get? x = some e from hx]
      rfl
    show Table.contains (Table.insert (Table.insert _ _ _) _ _) x = _
    simp only [Table.contains_insert, ElementId.index_eq_iff]
    by_cases hbx : l.b = x
    · rw [← hbx, decide_eq_true rfl, hcontains hb]
      rfl
    · by_cases hax : l.a = x
      · rw [← hax, decide_eq_true rfl, hcontains ha, Bool.true_or, Bool.or_true]
      · rw [decide_eq_false hbx, decide_eq_false hax, Bool.false_or, Bool.false_or]
  · show Topology.known? { t with loaded := Table.insert (Table.insert _ _ _) _ _ } x = _
    rw [Topology.known?_replace { t with loaded := t.loaded.insert l.a _ }, Topology.known?_replace]
    split
    · next hbx =>
      rw [← hbx, Topology.known?_of_loaded hb, Option.some.injEq] at he
      rw [← hbx, he]
    · next hbx =>
      split
      · next hax =>
        rw [← hax, Topology.known?_of_loaded ha, Option.some.injEq] at he
        rw [← hax, he]
      · next hax =>
        have hnone : l.edgeAt x = none := by
          rw [LinkSpec.edgeAt, if_neg (Ne.symm hax), if_neg (Ne.symm hbx)]
        rw [h.unlinked_eq he hnone, he]

/-- An element is set aside. -/
theorem unload (h : Holds ⟨t, hw⟩ specs links aside) (hx : x ∈ Scene.ids specs) :
    Holds ⟨(t.unload x).2, hw⟩ specs links (aside ++ [x]) := by
  unfold Topology.unload
  split
  · next hget =>
    -- what is not loaded is aside already
    refine h.of_mem_iff fun y => ?_
    rw [List.mem_append, List.mem_singleton, or_iff_left_iff_imp]
    rintro rfl
    by_contra haside
    have hloaded := (h.loaded y).2 ⟨hx, haside⟩
    rw [Table.contains, show t.loaded.get? y = none from hget] at hloaded
    exact absurd hloaded Bool.false_ne_true
  · next e hget =>
    suffices hraw : Holds ⟨{ t with loaded := t.loaded.erase x, unloaded := t.unloaded.insert x e }, hw⟩
        specs links (aside ++ [x]) from hraw.congr (fun _ => rfl) hraw.loaded hraw.unloaded
    refine h.congr (Topology.known?_setAside_of_loaded hget) (fun y => ?_) fun y => ?_
    · have hbefore := h.loaded y
      rw [List.mem_append, List.mem_singleton, not_or, ← and_assoc, ← hbefore]
      show (t.loaded.erase x).contains y = true ↔ _
      rw [Table.contains_erase, Bool.and_eq_true, Bool.not_eq_true', decide_eq_false_iff_not,
        ElementId.index_eq_iff, and_comm, @eq_comm _ x]
    · have hbefore := h.unloaded y
      rw [List.mem_append, List.mem_singleton, and_or_left, ← hbefore]
      show (t.unloaded.insert x e).contains y = true ↔ _
      rw [Table.contains_insert, Bool.or_eq_true, decide_eq_true_iff, ElementId.index_eq_iff, or_comm]
      refine or_congr_right ⟨?_, fun hy => hy.2.symm⟩
      rintro rfl
      exact ⟨hx, rfl⟩

/-- A provider changes nothing about the elements themselves. -/
theorem setProvider (h : Holds ⟨t, hw⟩ specs links aside) (provider : Provider) :
    Holds ⟨t.setProvider provider, hw⟩ specs links aside := by
  have hmarked (xs : List ElementId) (t : Topology) (h : Holds ⟨t, hw⟩ specs links aside) :
      Holds ⟨xs.foldl Topology.markDirty t, hw⟩ specs links aside := by
    induction xs generalizing t with
    | nil => exact h
    | cons x xs ih => exact ih _ (h.markDirty x)
  exact hmarked _ _ (h.congr (fun _ => rfl) h.loaded h.unloaded)

end Holds

end Site

/-! ## The passes -/

namespace Scene

open Site (Holds)

variable {s : Site} {t : Topology} {hw : Hardware} {specs : List ElementSpec} {links : List LinkSpec}

theorem insertElements_cons (spec : ElementSpec) (more : List ElementSpec) (s : Site) :
    insertElements (spec :: more) s =
      match s.topology.get? spec.id with
      | some _ => .error (.declaredTwice spec.id)
      | none => insertElements more
          ⟨(s.topology.insert (.new spec.id spec.blocked (buildDevices spec.devices s.hardware).1)).2,
            (buildDevices spec.devices s.hardware).2⟩ := by
  rw [insertElements]
  unfold Topology.insert
  dsimp only [Element.new]
  cases s.topology.get? spec.id <;> rfl

/-- The first pass holds all elements, or stops at the first whose name is taken. -/
theorem insertElements_outcome (more : List ElementSpec) (h : s.Holds specs [] [])
    (hspecs : (ids specs).Nodup) :
    match insertElements more s with
    | .ok s' => (ids (specs ++ more)).Nodup ∧ s'.Holds (specs ++ more) [] []
    | .error e => ∃ before spec after, specs ++ more = before ++ spec :: after ∧ (ids before).Nodup ∧
        spec.id ∈ ids before ∧ e = .declaredTwice spec.id := by
  induction more generalizing specs s with
  | nil =>
    rw [List.append_nil]
    exact ⟨hspecs, h⟩
  | cons spec more ih =>
    rw [insertElements_cons]
    cases hget : s.topology.get? spec.id with
    | none =>
      have hnew := h.get?_eq_none_iff.1 hget
      have hnodup : (ids (specs ++ [spec])).Nodup := by
        rw [ids, List.map_append, List.map_singleton, ← List.concat_eq_append]
        exact hspecs.concat hnew
      rw [List.append_cons]
      exact ih (h.insert hnew) hnodup
    | some e => exact ⟨specs, spec, more, rfl, hspecs, h.mem_of_get? hget, rfl⟩

/-- The second pass makes all links, or stops at the first that cannot be made. -/
theorem connectLinks_outcome (more : List LinkSpec) (h : Holds ⟨t, hw⟩ specs links [])
    (hlinks : LinkSpec.Sound (ids specs) links) :
    match connectLinks more t with
    | .ok t' => LinkSpec.Sound (ids specs) (links ++ more) ∧ Holds ⟨t', hw⟩ specs (links ++ more) []
    | .error e => ∃ before l after, links ++ more = before ++ l :: after ∧
        LinkSpec.Sound (ids specs) before ∧ ¬ LinkSpec.Sound (ids specs) (before ++ [l]) ∧
        e = .cannotLink l.a l.b := by
  induction more generalizing links t with
  | nil =>
    rw [List.append_nil]
    exact ⟨hlinks, h⟩
  | cons l more ih =>
    have hiff := h.connect_iff hlinks l
    have hconnect := h.connect (l := l)
    rw [connectLinks]
    rcases hresult : t.connect l.a l.aSide l.b l.bSide with ⟨_ | _, t'⟩
    · rw [hresult] at hiff
      exact ⟨links, l, more, rfl, hlinks, fun hsound => (nomatch hiff.2 hsound), rfl⟩
    · rw [hresult] at hiff hconnect
      have hsound := hiff.1 rfl
      rw [List.append_cons]
      exact ih (hconnect hsound) hsound

/-- The third pass sets aside what starts unloaded. -/
theorem unloadElements_holds (h : Holds ⟨t, hw⟩ specs links []) :
    Holds ⟨unloadElements specs t, hw⟩ specs links (ids (specs.filter ElementSpec.unloaded)) := by
  -- the induction is on the elements still to look at, and all names stay declared
  have hfold (more : List ElementSpec) (hmore : ∀ spec ∈ more, spec ∈ specs) (aside : List ElementId)
      (t : Topology) (h : Holds ⟨t, hw⟩ specs links aside) :
      Holds ⟨more.foldl (fun t spec => (t.unload spec.id).2) t, hw⟩ specs links (aside ++ ids more) := by
    induction more generalizing aside t with
    | nil =>
      rw [ids, List.map_nil, List.append_nil]
      exact h
    | cons spec more ih =>
      rw [ids, List.map_cons, List.append_cons]
      exact ih (fun s hs => hmore s (List.mem_cons_of_mem _ hs)) _ _
        (h.unload (List.mem_map_of_mem (hmore spec List.mem_cons_self)))
  exact hfold _ (fun spec hspec => (List.mem_filter.1 hspec).1) [] t h

theorem provide_holds {aside : List ElementId} (h : s.Holds specs links aside)
    (provided : List ProvidedSpec) : (provide provided s).Holds specs links aside := by
  unfold provide
  split
  · exact h
  · exact (h.grow (buildOffers_hardware provided s.hardware)).setProvider _

/-- A scene can be built exactly if it is consistent.  What is built holds the elements described, with
their devices, and the edges of the links, and exactly what starts unloaded is not loaded.  Otherwise the
error tells what is wrong first. -/
theorem build_outcome (scene : Scene) :
    match scene.build with
    | .ok s => scene.Consistent ∧
        s.Holds scene.elements scene.links (ids (scene.elements.filter ElementSpec.unloaded))
    | .error e => ¬ scene.Consistent ∧ scene.Flaw e := by
  have hinserted := insertElements_outcome scene.elements Holds.nil List.nodup_nil
  unfold build
  rw [List.nil_append] at hinserted
  cases hs : insertElements scene.elements default with
  | error e =>
    rw [hs] at hinserted
    obtain ⟨before, spec, after, hsplit, hbefore, hspec, rfl⟩ := hinserted
    have hflaw : scene.Flaw (.declaredTwice spec.id) := .declaredTwice hsplit hbefore hspec
    exact ⟨hflaw.not_consistent, hflaw⟩
  | ok s =>
    rw [hs] at hinserted
    obtain ⟨hdistinct, hholds⟩ := hinserted
    have hconnected := connectLinks_outcome scene.links hholds ⟨fun _ h => (nomatch h), .nil⟩
    rw [List.nil_append] at hconnected
    dsimp only
    cases ht : connectLinks scene.links s.topology with
    | error e =>
      rw [ht] at hconnected
      obtain ⟨before, l, after, hsplit, hbefore, hl, rfl⟩ := hconnected
      have hflaw : scene.Flaw (.cannotLink l.a l.b) := .cannotLink hdistinct hsplit hbefore hl
      exact ⟨hflaw.not_consistent, hflaw⟩
    | ok t =>
      rw [ht] at hconnected
      obtain ⟨hsound, hholds⟩ := hconnected
      exact ⟨⟨hdistinct, hsound⟩, provide_holds (unloadElements_holds hholds) _⟩

end Scene

end DeviceBus
