import DeviceBus.Proofs.Controller
import DeviceBus.Proofs.Network
import Mathlib.Data.List.Nodup

/-!
# What a bus lists

The devices of a bus come from the elements of the topology and from the provider.  A property of
device objects that all of those have is therefore one of every device on a bus
(`Controller.Lists`), and a scan that completes lists no name twice.
-/

namespace DeviceBus

/-! ## Tables -/

namespace Table

variable {κ ν : Type} [Key κ]

/-- Every value of a table has a property. -/
def All (P : ν → Prop) (t : Table κ ν) : Prop := ∀ k v, t.get? k = some v → P v

variable {P : ν → Prop} {t : Table κ ν}

theorem All.insert (h : t.All P) {v : ν} (hv : P v) (k : κ) : (t.insert k v).All P := by
  intro k' v' hget
  rw [get?_insert] at hget
  split at hget
  · cases hget
    exact hv
  · exact h k' v' hget

theorem All.erase (h : t.All P) (k : κ) : (t.erase k).All P := by
  intro k' v' hget
  rw [get?_erase] at hget
  split at hget
  · cases hget
  · exact h k' v' hget

theorem All.modify (h : t.All P) (f : ν → ν) (hf : ∀ v, P v → P (f v)) (k : κ) :
    (t.modify k f).All P := by
  intro k' v' hget
  rw [get?_modify] at hget
  split at hget
  · obtain ⟨v, hv, rfl⟩ := Option.map_eq_some_iff.1 hget
    exact hf v (h k' v hv)
  · exact h k' v' hget

end Table

/-! ## Elements -/

/-- Every device of an element has a property. -/
def Element.Stocks (P : DeviceRef → Prop) (e : Element) : Prop := ∀ d ∈ e.devices, P d

namespace Element

variable {P : DeviceRef → Prop} {e : Element}

theorem Stocks.link (h : e.Stocks P) (side : Option Side) (target : ElementId) :
    (e.link side target).Stocks P := by
  unfold Element.link
  split
  · exact h
  · exact h

theorem Stocks.addDevice (h : e.Stocks P) {d : DeviceRef} (hd : P d) : (e.addDevice d).Stocks P := by
  intro d' hmem
  rcases List.mem_append.1 hmem with hmem | hmem
  · exact h d' hmem
  · cases List.mem_singleton.1 hmem
    exact hd

theorem Stocks.removeDevice (h : e.Stocks P) (id : DeviceId) : (e.removeDevice id).2.Stocks P :=
  fun d hmem => h d (List.mem_of_mem_eraseP hmem)

end Element

/-! ## The topology -/

/-- Every device of an element, and every device that the provider offers, has a property. -/
structure Topology.Stocks (P : DeviceRef → Prop) (t : Topology) : Prop where
  loaded : t.loaded.All (Element.Stocks P)
  unloaded : t.unloaded.All (Element.Stocks P)
  offers : ∀ q offers, t.offers q = .ok offers → ∀ o ∈ offers, P o.device

/-- The devices that an operation brings into the topology have a property. -/
def TopologyOp.Stocks (P : DeviceRef → Prop) : TopologyOp → Prop
  | .insert _ _ devices => ∀ d ∈ devices, P d
  | .putBack element => element.Stocks P
  | .addDevice _ d => P d
  | .setProvider provider => ∀ q offers, provider q = .ok offers → ∀ o ∈ offers, P o.device
  | _ => True

namespace Topology

variable {P : DeviceRef → Prop} {t : Topology}

theorem stocks_empty (P : DeviceRef → Prop) : empty.Stocks P := by
  refine ⟨?_, ?_, ?_⟩
  · intro k v h
    cases h
  · intro k v h
    cases h
  · intro q offers h o ho
    cases h
    cases ho

theorem Stocks.requestScans (h : t.Stocks P) (ids : List ControllerId) :
    (t.requestScans ids).Stocks P := ⟨h.loaded, h.unloaded, h.offers⟩

theorem Stocks.markDirty (h : t.Stocks P) (id : ElementId) : (t.markDirty id).Stocks P :=
  ⟨h.loaded.modify (·.setScanPending true) (fun _ he => he) id, h.unloaded, h.offers⟩

theorem Stocks.withElements (h : t.Stocks P) {loaded unloaded : Table ElementId Element}
    (hloaded : loaded.All (Element.Stocks P)) (hunloaded : unloaded.All (Element.Stocks P)) :
    { t with loaded, unloaded }.Stocks P := ⟨hloaded, hunloaded, h.offers⟩

theorem Stocks.dropEdge (h : t.Stocks P) (id : ElementId) (edge : Edge) :
    (t.dropEdge id edge).Stocks P := by
  refine Stocks.markDirty ?_ edge.target
  unfold modifyKnown
  split
  · exact h.withElements (h.loaded.modify (·.unlink id) (fun _ he => he) _) h.unloaded
  · exact h.withElements h.loaded (h.unloaded.modify (·.unlink id) (fun _ he => he) _)

theorem Stocks.remove (h : t.Stocks P) (id : ElementId) : (t.remove id).2.Stocks P := by
  have hdrop (edges : List Edge) {t : Topology} (h : t.Stocks P) :
      (edges.foldl (Topology.dropEdge id) t).Stocks P := by
    induction edges generalizing t with
    | nil => exact h
    | cons edge rest ih => exact ih (h.dropEdge id edge)
  unfold Topology.remove
  split
  · exact h
  · next e _ =>
    have herased : (if t.loaded.contains id then { t with loaded := t.loaded.erase id }
        else { t with unloaded := t.unloaded.erase id }).Stocks P := by
      split
      · exact h.withElements (h.loaded.erase id) h.unloaded
      · exact h.withElements h.loaded (h.unloaded.erase id)
    have hdropped := hdrop e.edges herased
    exact ⟨hdropped.loaded, hdropped.unloaded, hdropped.offers⟩

theorem Stocks.foldl_markDirty (h : t.Stocks P) (ids : List ElementId) :
    (ids.foldl Topology.markDirty t).Stocks P := by
  induction ids generalizing t with
  | nil => exact h
  | cons id rest ih => exact ih (h.markDirty id)

/-- No operation brings other devices into the topology than its own. -/
theorem Stocks.step (h : t.Stocks P) {op : TopologyOp} (hop : op.Stocks P) : (t.step op).2.Stocks P := by
  cases op with
  | insert id blocked devices =>
    have he : (Element.new id blocked devices).Stocks P := hop
    exact (h.withElements (h.loaded.insert he id) (h.unloaded.erase id)).markDirty id
  | putBack element =>
    exact (h.withElements (h.loaded.insert hop element.id) (h.unloaded.erase element.id)).markDirty element.id
  | unload id =>
    show (t.unload id).2.Stocks P
    unfold unload
    split
    · exact h
    · next e he =>
      exact (h.withElements (h.loaded.erase id) (h.unloaded.insert (h.loaded id e he) id)).requestScans _
  | reload id =>
    show (t.reload id).2.Stocks P
    unfold reload
    split
    · exact h
    · next e he =>
      exact (h.withElements (h.loaded.insert (h.unloaded id e he) id) (h.unloaded.erase id)).markDirty id
  | remove id => exact h.remove id
  | connect a aSide b bSide =>
    show (t.connect a aSide b bSide).2.Stocks P
    unfold connect
    split
    · next ea eb ha hb =>
      split
      · exact h
      · have hea := (h.loaded a ea ha).link aSide b
        have heb := (h.loaded b eb hb).link bSide a
        exact ((h.withElements ((h.loaded.insert hea a).insert heb b) h.unloaded).markDirty a).markDirty b
    · exact h
  | disconnect a b =>
    show (t.disconnect a b).2.Stocks P
    unfold disconnect
    dsimp only
    split
    · have hloaded := (h.loaded.modify (·.unlink b) (fun _ he => he) a).modify
        (·.unlink a) (fun _ he => he) b
      exact ((h.withElements hloaded h.unloaded).markDirty a).markDirty b
    · exact h
  | addDevice id d =>
    show (t.addDevice id d).2.Stocks P
    unfold addDevice
    split
    · exact h
    · next e he =>
      exact (h.withElements (h.loaded.insert ((h.loaded id e he).addDevice hop) id)
        h.unloaded).markDirty id
  | removeDevice id device =>
    show (t.removeDevice id device).2.Stocks P
    unfold removeDevice
    split
    · exact h
    · next e he =>
      have hremoved := (h.loaded id e he).removeDevice device
      split
      · exact h
      · next d e' hd =>
        rw [hd] at hremoved
        exact (h.withElements (h.loaded.insert hremoved id) h.unloaded).markDirty id
  | markDirty id => exact h.markDirty id
  | setProvider provider =>
    have hprovider : Topology.Stocks P { t with provider := some provider } :=
      ⟨h.loaded, h.unloaded, hop⟩
    exact hprovider.foldl_markDirty _

/-! ## Claims -/

theorem Stocks.claimOne (h : t.Stocks P) (id : ControllerId) (element : ElementId) :
    (t.claimOne id element).Stocks P :=
  ⟨h.loaded.modify (·.setScanPending false) (fun _ he => he) element, h.unloaded, h.offers⟩

theorem Stocks.claim (h : t.Stocks P) (id : ControllerId) (elements : List ElementId) :
    (t.claim id elements).Stocks P := by
  have hinvalidate (ids : List ControllerId) {t : Topology} (h : t.Stocks P) :
      (ids.foldl invalidate t).Stocks P := by
    induction ids generalizing t with
    | nil => exact h
    | cons id rest ih => exact ih ⟨h.loaded, h.unloaded, h.offers⟩
  have hclaim (elements : List ElementId) {t : Topology} (h : t.Stocks P) :
      (elements.foldl (Topology.claimOne id) t).Stocks P := by
    induction elements generalizing t with
    | nil => exact h
    | cons element rest ih => exact ih (h.claimOne id element)
  have hrivals := hinvalidate (t.rivals id elements) h
  have hreleased : (((t.rivals id elements).foldl invalidate t).releaseClaims id).Stocks P :=
    ⟨hrivals.loaded, hrivals.unloaded, hrivals.offers⟩
  have hclaimed := hclaim elements hreleased
  exact ⟨hclaimed.loaded, hclaimed.unloaded, hclaimed.offers⟩

theorem Stocks.unregister (h : t.Stocks P) (id : ControllerId) : (t.unregister id).Stocks P := by
  unfold Topology.unregister
  split
  · exact ⟨h.loaded, h.unloaded, h.offers⟩
  · exact h

end Topology

/-! ## Listings -/

namespace Scan

/-- The devices listed so far have different names and a property. -/
structure Listing.Sound (P : DeviceRef → Prop) (l : Listing) : Prop where
  nodup : (l.devices.map BusDevice.id).Nodup
  stocks : ∀ d ∈ l.devices, P d.device

variable {P : DeviceRef → Prop}

theorem Listing.Sound.add {l l' : Listing} (h : l.Sound P) {hw : Hardware} {element : ElementId}
    {offer : Offer} (hoffer : P offer.device) (hl : l.add hw element offer = .ok l') : l'.Sound P := by
  unfold Listing.add at hl
  dsimp only at hl
  split at hl
  · cases hl
  · next hnew =>
    have happend (d : BusDevice) (hd : d.device = offer.device) :
        ((l.devices ++ [d]).map BusDevice.id).Nodup ∧ ∀ d' ∈ l.devices ++ [d], P d'.device := by
      constructor
      · rw [List.map_append, List.nodup_append]
        refine ⟨h.nodup, List.nodup_singleton _, ?_⟩
        rintro id hid id' hid' rfl
        obtain ⟨d', hd', rfl⟩ := List.mem_map.1 hid
        refine hnew (List.any_eq_true.2 ⟨d', hd', ?_⟩)
        have hname : d'.id = d.id := List.mem_singleton.1 hid'
        rw [decide_eq_true_iff, hname, BusDevice.id, hd]
      · intro d' hd'
        rcases List.mem_append.1 hd' with hd' | hd'
        · exact h.stocks d' hd'
        · cases List.mem_singleton.1 hd'
          rw [hd]
          exact hoffer
    split at hl
    · cases hl
      exact ⟨(happend _ rfl).1, (happend _ rfl).2⟩
    · split at hl
      · cases hl
      · cases hl
        exact ⟨(happend _ rfl).1, (happend _ rfl).2⟩

theorem Listing.Sound.addAll {hw : Hardware} {element : ElementId} {offers : List Offer}
    {l l' : Listing} (h : l.Sound P) (hoffers : ∀ o ∈ offers, P o.device)
    (hl : Listing.addAll hw element offers l = .ok l') : l'.Sound P := by
  induction offers generalizing l with
  | nil =>
    cases hl
    exact h
  | cons offer rest ih =>
    unfold Listing.addAll at hl
    split at hl
    · cases hl
    · next l'' he =>
      exact ih (h.add (hoffers offer List.mem_cons_self) he)
        (fun o ho => hoffers o (List.mem_cons_of_mem _ ho)) hl

theorem Listing.Sound.listDevices {t : Topology} (ht : t.Stocks P) {visits : List Visit}
    {l l' : Listing} {hw : Hardware} (h : l.Sound P)
    (hl : (Scan.listDevices t visits l hw).1 = .ok l') : l'.Sound P := by
  induction visits generalizing l hw with
  | nil =>
    cases hl
    exact h
  | cons visit rest ih =>
    unfold Scan.listDevices at hl
    dsimp only at hl
    split at hl
    · cases hl
    · next offered hoffered =>
      split at hl
      · cases hl
      · next l'' he =>
        refine ih (h.addAll ?_ he) hl
        intro o ho
        rcases List.mem_append.1 ho with ho | ho
        · unfold ownOffers at ho
          split at ho
          · cases ho
          · next e he =>
            obtain ⟨d, hd, rfl⟩ := List.mem_map.1 ho
            exact ht.loaded _ e he d hd
        · exact ht.offers _ offered hoffered o ho

/-- A scan that completes lists no name twice. -/
theorem enumerate_sound {t : Topology} (ht : t.Stocks P) {hw : Hardware} {visits : List Visit}
    {devices : List BusDevice} (h : (enumerate t hw visits).1 = .ok devices) :
    (devices.map BusDevice.id).Nodup ∧ ∀ d ∈ devices, P d.device := by
  unfold enumerate at h
  dsimp only at h
  cases hl : (listDevices t visits ⟨[], 0⟩ hw).1 with
  | error fault =>
    rw [hl] at h
    cases h
  | ok l =>
    rw [hl] at h
    cases h
    have hempty : (⟨[], 0⟩ : Listing).Sound P := ⟨List.nodup_nil, by simp⟩
    have hsound := hempty.listDevices ht hl
    exact ⟨hsound.nodup, hsound.stocks⟩

end Scan

/-! ## Controllers -/

/-- The devices of a controller have different names and a property. -/
structure Controller.Lists (P : DeviceRef → Prop) (c : Controller) : Prop where
  nodup : (c.devices.map BusDevice.id).Nodup
  stocks : ∀ d ∈ c.devices, P d.device

namespace Controller

variable {P : DeviceRef → Prop} {c : Controller} {s : Site}

theorem lists_of_nil (h : c.devices = []) : c.Lists P := by
  refine ⟨?_, ?_⟩
  · rw [h]
    exact List.nodup_nil
  · rw [h]
    intro d hd
    exact absurd hd List.not_mem_nil

theorem scan_lists (h : c.Lists P) (ht : s.topology.Stocks P) :
    (c.scan s).1.Lists P ∧ (c.scan s).2.topology.Stocks P := by
  rcases c.scan_cases s with he | ⟨_, _, _, he⟩ | ⟨visits, devices, _, hardware, -, henumerate, he⟩
  · rw [he]
    exact ⟨⟨h.nodup, h.stocks⟩, ht⟩
  · rw [he]
    exact ⟨lists_of_nil rfl, ht.loaded, ht.unloaded, ht.offers⟩
  · rw [he]
    have hsound := Scan.enumerate_sound ht (congrArg Prod.fst henumerate)
    exact ⟨⟨hsound.1, hsound.2⟩, ht.claim _ _⟩

theorem poll_lists (h : c.Lists P) (ht : s.topology.Stocks P) :
    (c.poll s).1.Lists P ∧ (c.poll s).2.topology.Stocks P := by
  have hrevive : (c.revive s).1.Lists P ∧ (c.revive s).2.topology.Stocks P := by
    unfold revive
    split
    · exact ⟨⟨h.nodup, h.stocks⟩, ht.loaded, ht.unloaded, ht.offers⟩
    · exact ⟨h, ht⟩
  unfold poll
  generalize c.revive s = p at hrevive
  obtain ⟨c₁, s₁⟩ := p
  have hinvalidation : (c₁.absorbInvalidation s₁).1.Lists P ∧
      (c₁.absorbInvalidation s₁).2.topology.Stocks P := by
    obtain ⟨hc, ht⟩ := hrevive
    rcases c₁.absorbInvalidation_cases s₁ with ⟨-, _, he⟩ | ⟨-, he⟩
    · rw [he]
      exact ⟨lists_of_nil rfl, ht.loaded, ht.unloaded, ht.offers⟩
    · rw [he]
      exact ⟨hc, ht.loaded, ht.unloaded, ht.offers⟩
  dsimp only
  generalize c₁.absorbInvalidation s₁ = p at hinvalidation
  obtain ⟨c₂, s₂⟩ := p
  have hrequest : (c₂.absorbScanRequest s₂).1.Lists P ∧
      (c₂.absorbScanRequest s₂).2.topology.Stocks P := by
    obtain ⟨hc, ht⟩ := hinvalidation
    rcases c₂.absorbScanRequest_cases s₂ with ⟨-, he⟩ | ⟨-, he⟩
    · rw [he]
      exact ⟨⟨hc.nodup, hc.stocks⟩, ht.loaded, ht.unloaded, ht.offers⟩
    · rw [he]
      exact ⟨hc, ht.loaded, ht.unloaded, ht.offers⟩
  dsimp only
  generalize c₂.absorbScanRequest s₂ = p at hrequest
  obtain ⟨c₃, s₃⟩ := p
  dsimp only at hrequest ⊢
  split
  · exact scan_lists hrequest.1 hrequest.2
  · exact hrequest

end Controller

/-! ## Networks -/

/-- The devices that an operation brings in have a property. -/
def Op.Stocks (P : DeviceRef → Prop) : Op → Prop
  | .topology op => op.Stocks P
  | _ => True

/-- The devices that an action brings in have a property. -/
def Network.Action.Stocks (P : DeviceRef → Prop) : Network.Action → Prop
  | .topology op => op.Stocks P
  | _ => True

/-- Every bus lists devices of different names, with a property. -/
structure Network.Lists (P : DeviceRef → Prop) (n : Network) : Prop where
  topology : n.topology.Stocks P
  controllers : ∀ seat c, n.controllers seat = some c → c.Lists P

namespace Network

variable {P : DeviceRef → Prop} {n : Network}

theorem Lists.put (h : n.Lists P) (seat : Seat) {c : Controller} {t : Topology} (hc : c.Lists P)
    (ht : t.Stocks P) : (n.put seat c t).Lists P := by
  refine ⟨ht, ?_⟩
  intro s c' hc'
  rw [put_controllers] at hc'
  split at hc'
  · cases hc'
    exact hc
  · exact h.controllers s c' hc'

theorem Lists.act (h : n.Lists P) (hw : Hardware) {a : Action} (ha : a.Stocks P) :
    (n.act hw a).Lists P := by
  cases a with
  | topology op => exact ⟨h.topology.step ha, h.controllers⟩
  | join seat root config =>
    cases hseat : n.controllers seat with
    | some c => simpa only [Network.act, hseat] using h
    | none =>
      rw [act_join hseat]
      exact h.put seat (Controller.lists_of_nil rfl)
        ⟨h.topology.loaded, h.topology.unloaded, h.topology.offers⟩
  | restore seat members =>
    cases hc : n.controllers seat with
    | none => simpa only [Network.act, hc] using h
    | some c =>
      rw [act_restore hc]
      have hlists := h.controllers seat c hc
      exact h.put seat ⟨hlists.nodup, hlists.stocks⟩ h.topology
  | control seat op =>
    cases hc : n.controllers seat with
    | none => simpa only [Network.act, hc] using h
    | some c =>
      rw [act_control hc]
      have hlists := h.controllers seat c hc
      have hsame : c.Lists P := ⟨hlists.nodup, hlists.stocks⟩
      cases op with
      | poll =>
        have hpoll := Controller.poll_lists (s := ⟨n.topology, hw⟩) hlists h.topology
        exact h.put seat hpoll.1 hpoll.2
      | scan =>
        have hscan := Controller.scan_lists (s := ⟨n.topology, hw⟩) hlists h.topology
        exact h.put seat hscan.1 hscan.2
      | scheduleScan => exact h.put seat ⟨hlists.nodup, hlists.stocks⟩ h.topology
      | takeChanges => exact h.put seat ⟨hlists.nodup, hlists.stocks⟩ h.topology
      | dispose =>
        show (n.put seat (c.dispose n.topology).1 (c.dispose n.topology).2).Lists P
        unfold Controller.dispose
        split
        · exact h.put seat hlists h.topology
        · exact h.put seat ⟨hlists.nodup, hlists.stocks⟩ (h.topology.unregister c.id)

end Network

/-- In every run the buses list devices of different names, with the property of all devices that the
run brings in. -/
theorem World.run_lists {P : DeviceRef → Prop} {ops : List Op} (hops : ∀ op ∈ ops, op.Stocks P) :
    (empty.run ops).network.Lists P := by
  refine network_induction (Q := Network.Action.Stocks P) (fun n hw a ha hn => hn.act hw ha) ?_ ops ?_
  · refine ⟨Topology.stocks_empty P, ?_⟩
    intro seat c hc
    cases seat with
    | host i => cases hc
    | machine i => cases hc
  · intro op hop w a ha
    cases a with
    | topology top =>
      have hstocks := hops op hop
      rw [eq_of_topology_mem_actions ha] at hstocks
      exact hstocks
    | _ => trivial

/-- No bus lists a name twice. -/
theorem World.devices_nodup (ops : List Op) {seat : Seat} {c : Controller}
    (hc : (empty.run ops).controllerAt seat = some c) : (c.devices.map BusDevice.id).Nodup := by
  have hops : ∀ op ∈ ops, op.Stocks fun _ => True := by
    intro op _
    cases op with
    | topology top => cases top <;> simp [Op.Stocks, TopologyOp.Stocks, Element.Stocks]
    | _ => trivial
  exact ((run_lists hops).controllers seat c hc).nodup

end DeviceBus
