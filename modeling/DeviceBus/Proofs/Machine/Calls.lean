import DeviceBus.Proofs.Machine.Charges
import DeviceBus.Proofs.Machine.Course

/-!
# What an emulator is asked

`Machine.Emulates calls a b` says which calls the emulator of a machine received between `a` and `b`:
nothing else became of the emulator than what these calls make of it, the journal has them and no call
of any other emulator, and the cycles of the slices among them were left of what the worker was granted.

Slices aside, most pieces of a machine's program ask for nothing (`Does []`).  A load gives the emulator
the devices, and resets it right before if it is a boot:

    LoadCalls (!m.resume) calls ∧ Emulates calls (m, hw) (m.load hw)                     (load_emulates)

A load that begins in `loading` is a boot and one that begins in `running` is none (`Begins`), so no
tick of a machine that is running resets its emulator (`Station.loads_running`).
-/

namespace DeviceBus

/-! ## Calls of an emulator -/

namespace EmulatorCall

/-- Whether a call runs a slice. -/
def isRun : EmulatorCall → Bool
  | .run .. => true
  | _ => false

/-- The cycles that a call runs. -/
def cycles : EmulatorCall → Nat
  | .run cycles .. => cycles
  | _ => 0

/-- The cycles that calls run. -/
def total (calls : List EmulatorCall) : Nat := (calls.map cycles).sum

/-- The calls that run no slice. -/
def requests (calls : List EmulatorCall) : List EmulatorCall := calls.filter fun call => !call.isRun

theorem total_append (calls calls' : List EmulatorCall) :
    total (calls ++ calls') = total calls + total calls' := by
  unfold total
  rw [List.map_append, List.sum_append]

theorem requests_append (calls calls' : List EmulatorCall) :
    requests (calls ++ calls') = requests calls ++ requests calls' := List.filter_append ..

theorem mem_requests {calls : List EmulatorCall} {call : EmulatorCall} :
    call ∈ requests calls ↔ call ∈ calls ∧ call.isRun = false := by
  simp [requests]

/-- Calls that come in these blocks, in their order.  In between slices are run. -/
inductive InBlocks : List (List EmulatorCall) → List EmulatorCall → Prop
  | nil {runs : List EmulatorCall} (hruns : requests runs = []) : InBlocks [] runs
  | cons {runs rest : List EmulatorCall} {blocks : List (List EmulatorCall)} (hruns : requests runs = [])
      (block : List EmulatorCall) (hrest : InBlocks blocks rest) :
      InBlocks (block :: blocks) (runs ++ block ++ rest)

section InBlocks

variable {blocks blocks' : List (List EmulatorCall)} {calls calls' runs : List EmulatorCall}

theorem InBlocks.requests_eq_nil (h : InBlocks [] calls) : requests calls = [] := by
  cases h with
  | nil hruns => exact hruns

theorem requests_append_nil (h : requests calls = []) (h' : requests calls' = []) :
    requests (calls ++ calls') = [] := by
  rw [requests_append, h, h']
  rfl

theorem InBlocks.after (h : InBlocks blocks calls) (hruns : requests runs = []) :
    InBlocks blocks (runs ++ calls) := by
  cases h with
  | nil hcalls => exact .nil (requests_append_nil hruns hcalls)
  | cons hfirst block hrest =>
    rw [← List.append_assoc, ← List.append_assoc]
    exact .cons (requests_append_nil hruns hfirst) block hrest

theorem InBlocks.append (h : InBlocks blocks calls) (h' : InBlocks blocks' calls') :
    InBlocks (blocks ++ blocks') (calls ++ calls') := by
  induction h with
  | nil hruns => exact h'.after hruns
  | cons hruns block _ ih =>
    rw [List.append_assoc]
    exact .cons hruns block ih

theorem InBlocks.single (block : List EmulatorCall) : InBlocks [block] block := by
  have hblock : InBlocks [block] ([] ++ block ++ []) := .cons rfl block (.nil rfl)
  rwa [List.nil_append, List.append_nil] at hblock

/-- A call that runs no slice is part of a block. -/
theorem InBlocks.mem (h : InBlocks blocks calls) {call : EmulatorCall} (hcall : call ∈ requests calls) :
    ∃ block ∈ blocks, call ∈ requests block := by
  induction h with
  | nil hruns =>
    rw [hruns] at hcall
    cases hcall
  | cons hruns block _ ih =>
    rw [requests_append, requests_append, hruns, List.nil_append] at hcall
    rcases List.mem_append.1 hcall with hcall | hcall
    · exact ⟨block, List.mem_cons_self, hcall⟩
    · obtain ⟨block', hblock', hmem⟩ := ih hcall
      exact ⟨block', List.mem_cons_of_mem _ hblock', hmem⟩

end InBlocks

end EmulatorCall

open EmulatorCall (requests total InBlocks)

namespace Emulator

/-- What a call makes of an emulator. -/
inductive Takes : Emulator → EmulatorCall → Emulator → Prop
  | install (e : Emulator) (map : DeviceMap) (hw : Hardware) :
      Takes e (.install (map.mappings.map (·.device.id)) (e.install map hw).1.isOk) (e.install map hw).2.1
  | run (e : Emulator) (cycles : Nat) (t : Terminal) (input : Bytes) (output : Nat) :
      Takes e (.run cycles (e.run cycles t).1 input output) (e.run cycles t).2.1
  | reset (e : Emulator) : Takes e .reset e.reset
  | save (e : Emulator) : Takes e .save e
  | restore {e e' : Emulator} {state : Bytes} (h : e.restore state = .ok e') :
      Takes e (.restore state true) e'
  | refuse {e : Emulator} {state : Bytes} {fault : Fault} (h : e.restore state = .error fault) :
      Takes e (.restore state false) e
  | releaseScratch (e : Emulator) : Takes e .releaseScratch e

/-- What calls make of an emulator, one after the other. -/
inductive Undergoes : Emulator → List EmulatorCall → Emulator → Prop
  | nil (e : Emulator) : Undergoes e [] e
  | cons {e e' e'' : Emulator} {call : EmulatorCall} {calls : List EmulatorCall}
      (first : e.Takes call e') (rest : Undergoes e' calls e'') : Undergoes e (call :: calls) e''

theorem Takes.undergoes {e e' : Emulator} {call : EmulatorCall} (h : e.Takes call e') :
    e.Undergoes [call] e' := .cons h (.nil e')

theorem Undergoes.trans {e e' e'' : Emulator} {calls calls' : List EmulatorCall}
    (h : e.Undergoes calls e') (h' : e'.Undergoes calls' e'') : e.Undergoes (calls ++ calls') e'' := by
  induction h with
  | nil => exact h'
  | cons first _ ih => exact .cons first (ih h')

end Emulator

/-! ## Calls in the journal -/

namespace Event

/-- The call that the emulator of a machine received. -/
def heard? (id : MachineId) : Event → Option EmulatorCall
  | .emulator machine call => if machine = id then some call else none
  | _ => none

/-- The calls that the emulator of a machine received, among calls. -/
def heard (id : MachineId) (es : List Event) : List EmulatorCall := es.filterMap (heard? id)

/-- A call that no emulator received. -/
def Silent (e : Event) : Prop := ∀ id, e.heard? id = none

theorem heard_append (id : MachineId) (es fs : List Event) :
    heard id (es ++ fs) = heard id es ++ heard id fs := List.filterMap_append

theorem Query.silent {e : Event} (h : e.Query) : e.Silent := by
  obtain ⟨element, entry, rfl⟩ := h
  exact fun _ => rfl

end Event

open Event (Silent heard)

namespace Hardware

/-- The calls made between two states of the devices, in their order. -/
def callsTo (hw hw' : Hardware) : List Event :=
  (hw'.journal.take (hw'.journal.length - hw.journal.length)).reverse

/-- The emulator of a machine received these calls, and no other emulator received any. -/
def Hears (id : MachineId) (calls : List EmulatorCall) (hw hw' : Hardware) : Prop :=
  ∃ es, hw'.journal = es ++ hw.journal ∧ ∀ other, heard other es.reverse = if other = id then calls else []

section Hears

variable {id : MachineId} {calls calls' : List EmulatorCall} {hw hw' hw'' : Hardware}

theorem callsTo_eq {es : List Event} (h : hw'.journal = es ++ hw.journal) :
    hw.callsTo hw' = es.reverse := by
  unfold callsTo
  rw [h, List.length_append, Nat.add_sub_cancel, List.take_left]

theorem Hears.heard (h : Hears id calls hw hw') (other : MachineId) :
    heard other (hw.callsTo hw') = if other = id then calls else [] := by
  obtain ⟨es, hes, hheard⟩ := h
  rw [callsTo_eq hes]
  exact hheard other

theorem Hears.trans (h : Hears id calls hw hw') (h' : Hears id calls' hw' hw'') :
    Hears id (calls ++ calls') hw hw'' := by
  obtain ⟨es, hes, hheard⟩ := h
  obtain ⟨fs, hfs, hheard'⟩ := h'
  refine ⟨fs ++ es, by rw [hfs, hes, List.append_assoc], fun other => ?_⟩
  rw [List.reverse_append, Event.heard_append, hheard, hheard']
  split <;> rfl

/-- No other emulator received a call. -/
theorem Hears.adds_other (h : Hears id calls hw hw') {other : MachineId} (hother : other ≠ id) :
    hw.Adds (·.heard? other = none) hw' := by
  obtain ⟨es, hes, hheard⟩ := h
  refine ⟨es, hes, fun e he => ?_⟩
  have hnone := hheard other
  rw [if_neg hother] at hnone
  exact List.filterMap_eq_nil_iff.1 hnone e (List.mem_reverse.2 he)

theorem hears_call (id : MachineId) (call : EmulatorCall) (hw : Hardware) :
    Hears id [call] hw (hw.record (.emulator id call)) := by
  refine ⟨[.emulator id call], rfl, fun other => ?_⟩
  by_cases hid : id = other
  · simp [Event.heard, Event.heard?, hid]
  · simp [Event.heard, Event.heard?, hid, Ne.symm hid]

theorem Adds.hears (h : hw.Adds Silent hw') (id : MachineId) : Hears id [] hw hw' := by
  obtain ⟨es, hes, hsilent⟩ := h
  refine ⟨es, hes, fun other => ?_⟩
  rw [ite_self]
  exact List.filterMap_eq_nil_iff.2 fun e he => hsilent e (List.mem_reverse.1 he) other

end Hears

end Hardware

/-! ## Calls that no emulator receives -/

theorem suspendAll_silent (mappings : List Mapping) (hw : Hardware) :
    hw.Adds Silent (suspendAll mappings hw) := suspendAll_adds fun _ _ => rfl

theorem Controller.poll_silent (c : Controller) (s : Site) :
    s.hardware.Adds Silent (c.poll s).2.hardware :=
  (c.poll_asks s).adds.mono fun _ => Event.Query.silent

namespace Machine

/-! ## Two relations -/

/-- The emulator received these calls, and what they make of it is all that became of it. -/
structure Emulates (calls : List EmulatorCall) (a b : Machine × Hardware) : Prop where
  id : b.1.id = a.1.id
  hears : a.2.Hears a.1.id calls b.2
  undergoes : a.1.emulator.Undergoes calls b.1.emulator
  /-- Slices are run of what the worker was granted. -/
  spends : total calls + b.1.worker.left ≤ a.1.worker.left

/-- The emulator received calls in these blocks, and only ran slices in between. -/
def Does (blocks : List (List EmulatorCall)) (a b : Machine × Hardware) : Prop :=
  ∃ calls, Emulates calls a b ∧ InBlocks blocks calls

/-- The machines differ neither in the emulator nor in the worker. -/
structure SameEngine (m m' : Machine) : Prop where
  id : m'.id = m.id
  emulator : m'.emulator = m.emulator
  worker : m'.worker = m.worker

section

variable {calls calls' : List EmulatorCall} {blocks blocks' : List (List EmulatorCall)}
  {a b c : Machine × Hardware}

theorem Emulates.trans (h : Emulates calls a b) (h' : Emulates calls' b c) :
    Emulates (calls ++ calls') a c := by
  have hhears := h'.hears
  have hspends := h'.spends
  rw [h.id] at hhears
  refine ⟨h'.id.trans h.id, h.hears.trans hhears, h.undergoes.trans h'.undergoes, ?_⟩
  rw [EmulatorCall.total_append]
  have := h.spends
  omega

/-- Calls that no emulator receives come in between. -/
theorem Emulates.silent {hw : Hardware} (h : Emulates calls a b) (hadds : b.2.Adds Silent hw) :
    Emulates calls a (b.1, hw) := by
  have hhears := h.hears.trans (hadds.hears a.1.id)
  rw [List.append_nil] at hhears
  exact ⟨h.id, hhears, h.undergoes, h.spends⟩

theorem Emulates.refl (a : Machine × Hardware) : Emulates [] a a :=
  ⟨rfl, (Hardware.Adds.refl Silent a.2).hears a.1.id, .nil _, Nat.le_of_eq (Nat.zero_add _)⟩

theorem Emulates.does (h : Emulates calls a b) : Does [calls] a b := ⟨calls, h, .single calls⟩

theorem Does.trans (h : Does blocks a b) (h' : Does blocks' b c) : Does (blocks ++ blocks') a c := by
  obtain ⟨calls, hcalls, hblocks⟩ := h
  obtain ⟨calls', hcalls', hblocks'⟩ := h'
  exact ⟨calls ++ calls', hcalls.trans hcalls', hblocks.append hblocks'⟩

/-- A piece that asks for nothing, and then one that asks. -/
theorem Does.then (h : Does [] a b) (h' : Does blocks b c) : Does blocks a c := h.trans h'

/-- A piece that asks, and then one that asks for nothing. -/
theorem Does.before (h : Does blocks a b) (h' : Does [] b c) : Does blocks a c := by
  have htrans := h.trans h'
  rwa [List.append_nil] at htrans

end

section

variable {m m' m'' : Machine} {hw hw' : Hardware}

theorem SameEngine.refl (m : Machine) : m.SameEngine m := ⟨rfl, rfl, rfl⟩

theorem SameEngine.trans (h : m.SameEngine m') (h' : m'.SameEngine m'') : m.SameEngine m'' :=
  ⟨h'.id.trans h.id, h'.emulator.trans h.emulator, h'.worker.trans h.worker⟩

theorem SameInside.sameEngine (h : m.SameInside m') : m.SameEngine m' := ⟨h.id, h.emulator, h.worker⟩

/-- The emulator is left alone. -/
theorem does_nil (hid : m'.id = m.id) (hemulator : m'.emulator = m.emulator)
    (hleft : m'.worker.left = m.worker.left) (hadds : hw.Adds Silent hw') :
    Does [] (m, hw) (m', hw') := by
  refine ⟨[], ⟨hid, hadds.hears m.id, ?_, ?_⟩, .nil rfl⟩
  · show m.emulator.Undergoes [] m'.emulator
    rw [hemulator]
    exact .nil _
  · show 0 + m'.worker.left ≤ m.worker.left
    omega

theorem SameEngine.does (h : m.SameEngine m') (hw : Hardware) : Does [] (m, hw) (m', hw) :=
  does_nil h.id h.emulator (congrArg Worker.left h.worker) (.refl _ hw)

theorem does_adds (m : Machine) (h : hw.Adds Silent hw') : Does [] (m, hw) (m, hw') :=
  does_nil rfl rfl rfl h

theorem Does.refl (a : Machine × Hardware) : Does [] a a := does_adds a.1 (.refl _ a.2)

end

/-! ## Slices -/

/-- A slice is a call for its cycles. -/
theorem runSlice_meters (id : MachineId) : Worker.Meters (runSlice id) fun n g g' =>
    ∃ calls, g.hardware.Hears id calls g'.hardware ∧ g.emulator.Undergoes calls g'.emulator ∧
      requests calls = [] ∧ total calls = n where
  refl g := ⟨[], (Hardware.Adds.refl Silent g.hardware).hears id, .nil _, rfl, rfl⟩
  trans := by
    rintro m n a b c ⟨calls, hhears, hundergoes, hrequests, rfl⟩
      ⟨calls', hhears', hundergoes', hrequests', rfl⟩
    exact ⟨calls ++ calls', hhears.trans hhears', hundergoes.trans hundergoes',
      EmulatorCall.requests_append_nil hrequests hrequests', EmulatorCall.total_append _ _⟩
  slice cycles g :=
    ⟨[_], Hardware.hears_call id _ g.hardware,
      (Emulator.Takes.run g.emulator cycles g.terminal _ _).undergoes, rfl, rfl⟩

/-- A worker only runs slices. -/
theorem stepWorker_does {step : WorkerStep}
    (hstep : ∀ {run R}, Worker.Meters run R → ∀ w g, Worker.Spends R (w, g) (step run w g))
    (m : Machine) (hw : Hardware) : Does [] (m, hw) (m.stepWorker step hw) := by
  obtain ⟨n, ⟨calls, hhears, hundergoes, hrequests, rfl⟩, hspends⟩ :=
    hstep (runSlice_meters m.id) m.worker ⟨m.emulator, m.terminal, hw⟩
  exact ⟨calls, ⟨rfl, hhears, hundergoes, hspends⟩, .nil hrequests⟩

theorem quiesce_does (m : Machine) (hw : Hardware) : Does [] (m, hw) (m.quiesce hw) :=
  stepWorker_does Worker.quiesce_spends m hw

theorem cancel_does (m : Machine) (hw : Hardware) : Does [] (m, hw) (m.cancel hw) :=
  stepWorker_does Worker.cancel_spends m hw

theorem shutdown_does (m : Machine) (hw : Hardware) : Does [] (m, hw) (m.shutdown hw) :=
  stepWorker_does Worker.shutdown_spends m hw

theorem advance_does (m : Machine) (slices : Nat) (hw : Hardware) :
    Does [] (m, hw) (m.advance slices hw) :=
  stepWorker_does (fun h w g => Worker.progress_spends h slices w g) m hw

/-! ## Pieces of a load -/

theorem noteCall_emulates (m : Machine) (call : EmulatorCall) (h : m.emulator.Takes call m.emulator)
    (hcycles : call.cycles = 0) (hw : Hardware) : Emulates [call] (m, hw) (m, m.noteCall call hw) where
  id := rfl
  hears := Hardware.hears_call m.id call hw
  undergoes := h.undergoes
  spends := by
    show call.cycles + 0 + m.worker.left ≤ m.worker.left
    omega

theorem resetEmulator_emulates (m : Machine) (hw : Hardware) :
    Emulates [.reset] (m, hw) (m.resetEmulator hw) :=
  ⟨rfl, Hardware.hears_call m.id .reset hw, (Emulator.Takes.reset m.emulator).undergoes,
    Nat.le_of_eq (Nat.zero_add _)⟩

theorem install_emulates (m : Machine) (map : DeviceMap) (hw : Hardware) :
    Emulates [.install (map.mappings.map (·.device.id)) (m.install map hw).1.isOk] (m, hw)
      (m.install map hw).2 :=
  ⟨rfl, ((m.emulator.install_adds (fun _ _ _ _ => rfl) (fun _ _ _ _ => rfl) map hw).hears m.id).trans (Hardware.hears_call m.id _ _),
    (Emulator.Takes.install m.emulator map hw).undergoes, Nat.le_of_eq (Nat.zero_add _)⟩

theorem releaseDevices_does (m : Machine) (hw : Hardware) : Does [] (m, hw) (m.releaseDevices hw) := by
  unfold releaseDevices
  split
  · exact .refl _
  · exact does_nil rfl rfl rfl (suspendAll_silent _ hw)

theorem halt_does (m : Machine) (error : BootError) (hw : Hardware) :
    Does [] (m, hw) (m.halt error hw) := by
  have hcancel := m.cancel_does hw
  unfold halt
  generalize m.cancel hw = p at hcancel
  obtain ⟨m₁, hw₁⟩ := p
  have hrelease := hcancel.then (m₁.releaseDevices_does hw₁)
  dsimp only
  generalize m₁.releaseDevices hw₁ = p at hrelease
  obtain ⟨m₂, hw₂⟩ := p
  have hresume : m₂.SameEngine { m₂ with resume := false } := ⟨rfl, rfl, rfl⟩
  have hsettle := hresume.trans (settle_sameInside _ (some error.message) .error).sameEngine
  exact hrelease.then (hsettle.does hw₂)

theorem restoreDevice_does (m : Machine) (entry : BusDevice) (hw : Hardware) :
    Does [] (m, hw) (m.restoreDevice entry hw).2 := by
  unfold restoreDevice
  split
  · exact .refl _
  · next state _ =>
    have hrestore : hw.Adds Silent (hw.restore entry.device.handle state).2 :=
      Hardware.restore_adds fun _ _ => rfl
    dsimp only
    split <;> next he => rw [he] at hrestore; exact does_nil rfl rfl rfl hrestore

theorem attachEach_does (entries : List BusDevice) (ctx : AttachContext) (m : Machine) (hw : Hardware) :
    Does [] (m, hw) (attachEach entries ctx m hw).2 := by
  induction entries generalizing ctx m hw with
  | nil => exact .refl _
  | cons entry rest ih =>
    have hrestore := m.restoreDevice_does entry hw
    unfold attachEach
    split
    · next m' hw' he =>
      rw [he] at hrestore
      exact hrestore.then (m'.does_adds (suspendAll_silent _ hw'))
    · next m' hw' he =>
      rw [he] at hrestore
      have hattach := ctx.attach_adds (P := Silent) m'.id m'.worker.isIdle entry hw'
        (fun _ _ _ _ => rfl) fun _ _ => rfl
      split
      · next hw'' he' =>
        rw [he'] at hattach
        exact hrestore.then (m'.does_adds (hattach.trans (suspendAll_silent _ hw'')))
      · next ctx' hw'' he' =>
        rw [he'] at hattach
        exact (hrestore.then (m'.does_adds hattach)).then (ih ctx' m' hw'')

theorem enter_does (m : Machine) (keepState : Bool) (map : DeviceMap) (hw : Hardware) :
    Does [] (m, hw) (m.enter keepState map hw) := by
  obtain ⟨_, worker, hstart, henter⟩ := m.enter_cases keepState map hw
  have hleft : worker.left = m.worker.left := by
    have hstarted := (if keepState then m.worker else m.worker.takeFault.2).start_left m.platform.refusal
    rw [hstart] at hstarted
    refine hstarted.trans ?_
    cases keepState <;> rfl
  have hseated : Does [] (m, hw) ({ m with map := some map, media := .empty, worker }, hw) :=
    does_nil rfl rfl hleft (.refl _ hw)
  rcases henter with ⟨-, -, he⟩ | ⟨reason, -, -, he⟩ <;> rw [he]
  · exact hseated.then ((settle_sameInside _ none .running).sameEngine.does hw)
  · exact hseated.then (halt_does _ (.io reason) hw)

/-! ## Loads -/

/-- What a load asks of the emulator: nothing if a device cannot be attached, and otherwise to take the
devices, after a reset if the load is a boot. -/
inductive LoadAsks : Bool → List EmulatorCall → Prop
  | fails (boot : Bool) : LoadAsks boot []
  | boots (devices : List DeviceId) (accepted : Bool) : LoadAsks true [.reset, .install devices accepted]
  | resumes (devices : List DeviceId) (accepted : Bool) : LoadAsks false [.install devices accepted]

/-- The calls of a load: slices come before and after what it asks, and not in between. -/
structure LoadCalls (boot : Bool) (calls : List EmulatorCall) : Prop where
  split : ∃ before asked after, calls = before ++ asked ++ after ∧ LoadAsks boot asked ∧
    requests before = [] ∧ requests after = []

theorem LoadAsks.calls {boot : Bool} {calls : List EmulatorCall} (h : LoadAsks boot calls) :
    LoadCalls boot calls := ⟨[], calls, [], (List.append_nil calls).symm, h, rfl, rfl⟩

theorem LoadCalls.after {boot : Bool} {calls before : List EmulatorCall} (h : LoadCalls boot calls)
    (hbefore : requests before = []) : LoadCalls boot (before ++ calls) := by
  obtain ⟨first, asked, after, rfl, hasked, hfirst, hafter⟩ := h.split
  exact ⟨before ++ first, asked, after, by simp, hasked,
    EmulatorCall.requests_append_nil hbefore hfirst, hafter⟩

theorem LoadCalls.before {boot : Bool} {calls after : List EmulatorCall} (h : LoadCalls boot calls)
    (hafter : requests after = []) : LoadCalls boot (calls ++ after) := by
  obtain ⟨before, asked, last, rfl, hasked, hbefore, hlast⟩ := h.split
  exact ⟨before, asked, last ++ after, by simp, hasked, hbefore,
    EmulatorCall.requests_append_nil hlast hafter⟩

theorem LoadCalls.requests {boot : Bool} {calls : List EmulatorCall} (h : LoadCalls boot calls) :
    LoadAsks boot (requests calls) := by
  obtain ⟨before, asked, after, rfl, hasked, hbefore, hafter⟩ := h.split
  have hall : EmulatorCall.requests asked = asked := by
    cases hasked <;> rfl
  rw [EmulatorCall.requests_append, EmulatorCall.requests_append, hbefore, hafter, hall,
    List.nil_append, List.append_nil]
  exact hasked

theorem installDevices_emulates (m : Machine) (keepState : Bool) (map : DeviceMap) (hw : Hardware) :
    ∃ calls, LoadCalls (!keepState) calls ∧
      Emulates calls (m, hw) (m.installDevices keepState map hw).2 := by
  have hreset : Emulates (if keepState then [] else [.reset]) (m, hw)
      (if keepState then (m, hw) else m.resetEmulator hw) := by
    cases keepState with
    | true => exact .refl _
    | false => exact m.resetEmulator_emulates hw
  unfold installDevices
  generalize (if keepState then (m, hw) else m.resetEmulator hw) = p at hreset
  obtain ⟨m₁, hw₁⟩ := p
  have hasked (devices : List DeviceId) (accepted : Bool) :
      LoadAsks (!keepState) ((if keepState then [] else [.reset]) ++ [.install devices accepted]) := by
    cases keepState with
    | true => exact .resumes devices accepted
    | false => exact .boots devices accepted
  obtain ⟨calls, hcalls, hinstall⟩ : ∃ calls, LoadCalls (!keepState) calls ∧
      Emulates calls (m, hw) (m₁.install map hw₁).2 :=
    ⟨_, (hasked _ _).calls, hreset.trans (m₁.install_emulates map hw₁)⟩
  refine ⟨calls, hcalls, ?_⟩
  dsimp only
  split
  · next he =>
    rwa [he] at hinstall
  · next m₂ hw₂ he =>
    rw [he] at hinstall
    exact hinstall.silent (suspendAll_silent _ hw₂)

theorem attachAll_emulates (m : Machine) (keepState : Bool) (hw : Hardware) :
    ∃ calls, LoadCalls (!keepState) calls ∧ Emulates calls (m, hw) (m.attachAll keepState hw).2 := by
  obtain ⟨before, hattach, hbefore⟩ := attachEach_does m.controller.devices (.new m.config) m hw
  replace hbefore := hbefore.requests_eq_nil
  unfold attachAll
  split
  · next he =>
    rw [he] at hattach
    have hcalls : LoadCalls (!keepState) before := by
      have hnone := (LoadAsks.fails (!keepState)).calls.after hbefore
      rwa [List.append_nil] at hnone
    exact ⟨before, hcalls, hattach⟩
  · next ctx m₁ hw₁ he =>
    rw [he] at hattach
    obtain ⟨calls, hcalls, hinstall⟩ := m₁.installDevices_emulates keepState ctx.finish hw₁
    exact ⟨before ++ calls, hcalls.after hbefore, hattach.trans hinstall⟩

/-- A load asks the emulator to take the devices, if they can be attached, and resets it before unless
its state is kept. -/
theorem load_emulates (m : Machine) (hw : Hardware) :
    ∃ calls, LoadCalls (!m.resume) calls ∧ Emulates calls (m, hw) (m.load hw) := by
  have hresume : m.SameEngine { m with resume := false } := ⟨rfl, rfl, rfl⟩
  obtain ⟨before, hwait, hbefore⟩ :=
    (hresume.does hw).then (({ m with resume := false } : Machine).quiesce_does hw)
  unfold load
  generalize ({ m with resume := false } : Machine).quiesce hw = p at hwait
  obtain ⟨m₁, hw₁⟩ := p
  obtain ⟨calls, hcalls, hattach⟩ := m₁.attachAll_emulates m.resume hw₁
  have hattached := hwait.trans hattach
  dsimp only
  split
  · next map m₂ hw₂ he =>
    rw [he] at hattached
    obtain ⟨after, henter, hafter⟩ := m₂.enter_does m.resume map hw₂
    exact ⟨_, (hcalls.after hbefore.requests_eq_nil).before hafter.requests_eq_nil, hattached.trans henter⟩
  · next e m₂ hw₂ he =>
    rw [he] at hattached
    obtain ⟨after, hhalt, hafter⟩ := m₂.halt_does e hw₂
    exact ⟨_, (hcalls.after hbefore.requests_eq_nil).before hafter.requests_eq_nil, hattached.trans hhalt⟩

/-- The calls that the emulator receives in a load. -/
def loadCalls (m : Machine) (hw : Hardware) : List EmulatorCall := heard m.id (hw.callsTo (m.load hw).2)

theorem loadCalls_emulates (m : Machine) (hw : Hardware) :
    LoadCalls (!m.resume) (m.loadCalls hw) ∧ Emulates (m.loadCalls hw) (m, hw) (m.load hw) := by
  obtain ⟨calls, hcalls, hload⟩ := m.load_emulates hw
  have heq : m.loadCalls hw = calls := (hload.hears.heard m.id).trans (if_pos rfl)
  rw [heq]
  exact ⟨hcalls, hload⟩

/-- The calls that the emulator receives in loads, each by itself. -/
def loadBlocks (loads : List (Machine × Hardware)) : List (List EmulatorCall) :=
  loads.map fun p => p.1.loadCalls p.2

theorem loadBlocks_append (loads loads' : List (Machine × Hardware)) :
    loadBlocks (loads ++ loads') = loadBlocks loads ++ loadBlocks loads' := List.map_append

theorem load_does (p : Machine × Hardware) : Does (loadBlocks [p]) p (p.1.load p.2) :=
  (p.1.loadCalls_emulates p.2).2.does

/-- How a load may begin: as the boot that the machine waits for, or with all to keep. -/
def Begins (m : Machine) : Prop :=
  m.runState = .loading ∧ m.resume = false ∨ m.runState = .running ∧ m.resume = true

/-- A load that begins in `loading` is a boot, and one that begins in `running` is none. -/
theorem Begins.loadCalls {m : Machine} (h : m.Begins) (hw : Hardware) :
    LoadCalls (m.runState = .loading) (m.loadCalls hw) := by
  have hload := (m.loadCalls_emulates hw).1
  rcases h with ⟨hrun, hresume⟩ | ⟨hrun, hresume⟩
  · rw [hresume] at hload
    rwa [decide_eq_true hrun]
  · rw [hresume] at hload
    rwa [hrun]

theorem resume_does (m : Machine) (resume : Bool) (hw : Hardware) :
    Does [] (m, hw) ({ m with resume }, hw) := does_nil rfl rfl rfl (.refl _ hw)

/-! ## Starting and stopping -/

theorem start_does (m : Machine) (hw : Hardware) :
    Does (loadBlocks (m.startLoad? hw).toList) (m, hw) (m.start hw).2 := by
  have hresume : m.SameEngine { m with resume := false } := ⟨rfl, rfl, rfl⟩
  have haccept : Does [] (m, hw) (m.accept, hw) :=
    (hresume.trans (setRunState_sameInside _ .loading).sameEngine).does hw
  cases hload : m.startLoad? hw with
  | some p =>
    obtain ⟨-, rfl⟩ := startLoad?_moment hload
    rw [start_of_some hload]
    exact haccept.then (load_does (m.accept, hw))
  | none =>
    rw [start_of_none hload]
    dsimp only
    split
    · exact haccept
    · exact .refl _

theorem stop_does (m : Machine) (hw : Hardware) : Does [] (m, hw) (m.stop hw) := by
  unfold stop
  split
  · have hcancel := ((m.setRunState_sameInside .stopping).sameEngine.does hw).then
      ((m.setRunState .stopping).cancel_does hw)
    generalize (m.setRunState .stopping).cancel hw = p at hcancel
    obtain ⟨m₁, hw₁⟩ := p
    have hrelease := hcancel.then (m₁.releaseDevices_does hw₁)
    dsimp only
    generalize m₁.releaseDevices hw₁ = p at hrelease
    obtain ⟨m₂, hw₂⟩ := p
    have hreset : m₂.SameEngine ({ m₂ with resume := false } : Machine).resetTerminal := ⟨rfl, rfl, rfl⟩
    exact hrelease.then ((hreset.trans (setRunState_sameInside _ .stopped).sameEngine).does hw₂)
  · exact .refl _

/-! ## Ticks -/

theorem clear_does (m : Machine) (hw : Hardware) : Does [] (m, hw) (m.clear hw) :=
  (m.quiesce_does hw).then ((m.quiesce hw).1.releaseDevices_does (m.quiesce hw).2)

theorem absorbChanges_does (m : Machine) (hw : Hardware) :
    Does (loadBlocks (m.absorbLoad? hw).toList) (m, hw) (m.absorbChanges hw) := by
  have htaken : m.SameEngine { m with controller := m.controller.takeChanges.2 } := ⟨rfl, rfl, rfl⟩
  have hclear := (htaken.does hw).then (clear_does { m with controller := m.controller.takeChanges.2 } hw)
  cases hload : m.absorbLoad? hw with
  | some p =>
    have hbegin : Does [] (m, hw) p := by
      unfold absorbLoad? swapLoad? at hload
      dsimp only at hload
      split at hload
      · split at hload
        · cases hload
          exact hclear.then (resume_does _ true _)
        · cases hload
      · cases hload
    rw [absorbChanges_of_some hload]
    exact hbegin.then (load_does p)
  | none =>
    rw [absorbChanges_of_none hload]
    dsimp only
    split
    · exact hclear
    · exact htaken.does hw

/-- Taking up the changes of the bus never leaves a machine that was running to wait for a boot. -/
theorem absorbChanges_runState (m : Machine) (h : m.runState = .running) (hw : Hardware) :
    (m.absorbChanges hw).1.runState ≠ .loading := by
  cases hload : m.absorbLoad? hw with
  | some p =>
    rw [absorbChanges_of_some hload]
    rcases (p.1.load_arrives p.2).outcome with ⟨hrun, -⟩ | ⟨hrun, -⟩ <;> rw [hrun] <;> decide
  | none =>
    have hclear := (clear_stays { m with controller := m.controller.takeChanges.2 } hw).runState
    rw [absorbChanges_of_none hload]
    dsimp only
    split
    · rw [hclear, h]
      decide
    · rw [h]
      decide

/-- The machines differ in the worker at most, which may have been granted so many cycles. -/
structure Gains (cycles : Nat) (m m' : Machine) : Prop where
  id : m'.id = m.id
  emulator : m'.emulator = m.emulator
  worker : m'.worker.left ≤ m.worker.left + cycles

theorem SameEngine.gains {m m' : Machine} (h : m.SameEngine m') (cycles : Nat) : Gains cycles m m' :=
  ⟨h.id, h.emulator, by rw [h.worker]; exact Nat.le_add_right _ _⟩

theorem Gains.trans {cycles : Nat} {m m' m'' : Machine} (h : Gains cycles m m') (h' : m'.SameEngine m'') :
    Gains cycles m m'' :=
  ⟨h'.id.trans h.id, h'.emulator.trans h.emulator, by rw [h'.worker]; exact h.worker⟩

/-- The cycles that a tick grants for a charge. -/
def granted (m : Machine) (charge : Option Nat) : Nat :=
  if charge.isSome then m.config.cyclesPerTick.toNat else 0

theorem drift_does (m : Machine) (slices : Option Nat) (hw : Hardware) :
    Does [] (m, hw) (m.drift slices hw) :=
  drift_cases (.refl _) (m.advance_does · hw) slices

/-- A machine that pays is granted the cycles of a tick. -/
theorem grantAtOnce_gains (m : Machine) (energy : EnergySource) :
    Gains (m.granted (m.price? energy)) m (m.grantAtOnce energy).1 := by
  cases hprice : m.price? energy with
  | none =>
    rw [grantAtOnce_of_price?_eq_none hprice]
    exact (SameEngine.refl m).gains _
  | some amount =>
    obtain ⟨-, -, -, he⟩ := grantAtOnce_of_price?_eq_some hprice
    rw [he]
    refine ⟨rfl, rfl, ?_⟩
    show (m.worker.grant m.config.cyclesPerTick.toNat).2.left ≤ m.worker.left + m.config.cyclesPerTick.toNat
    unfold Worker.grant
    split
    · exact Nat.le_add_left _ _
    · exact Nat.le_add_right _ _

/-- A machine that is running, and pays, is granted the cycles of a tick, once its worker got on. -/
theorem grantTick_does {m : Machine} (energy : EnergySource) (hdue : m.Due) (hw : Hardware) :
    ∃ m', Does [] (m, hw) (m', (m.grantTick energy hw).2.2) ∧
      Gains (m.granted (m.fee? energy hw)) m' (m.grantTick energy hw).1 := by
  have hconfig : (m.looked hw).config = m.config := (m.drift_acts m.platform.look hw).relays.config
  have hgains := (m.looked hw).grantAtOnce_gains energy
  unfold granted at hgains
  rw [hconfig] at hgains
  unfold fee?
  rw [grantTick_eq, if_pos hdue]
  exact ⟨m.looked hw, m.drift_does m.platform.look hw, hgains⟩

theorem step_does {m : Machine} (energy : EnergySource) (hrun : m.runState = .running)
    (hbus : m.controller.state = .ready) (hmap : m.map.isSome = true) (hw : Hardware) :
    ∃ m', Does [] (m, hw) (m', (m.step energy hw).2.2) ∧
      Gains (m.granted (m.fee? energy hw)) m' (m.step energy hw).1 := by
  unfold step
  split
  · next fault worker htake =>
    have hworker : worker = m.worker.takeFault.2 := (congrArg Prod.snd htake).symm
    have htaken : Does [] (m, hw) ({ m with worker }, hw) := by
      rw [hworker]
      exact does_nil rfl rfl rfl (.refl _ hw)
    exact ⟨_, htaken.then (halt_does { m with worker } (.emulation fault) hw), (SameEngine.refl _).gains _⟩
  · next htake =>
    exact grantTick_does energy ⟨hrun, hbus, hmap, congrArg Prod.fst htake⟩ hw

theorem proceed_does (m : Machine) (energy : EnergySource) (hw : Hardware) :
    ∃ m', Does (loadBlocks (m.proceedLoad? hw).toList) (m, hw) (m', (m.proceed energy hw).2.2) ∧
      Gains (m.granted (m.fee? energy hw)) m' (m.proceed energy hw).1 := by
  cases hload : m.proceedLoad? hw with
  | some p =>
    have hbegin : Does [] (m, hw) p := by
      rcases proceedLoad?_moment hload with ⟨-, rfl⟩ | ⟨-, rfl⟩
      · exact .refl _
      · exact m.resume_does true hw
    rw [proceed_of_some hload]
    exact ⟨_, hbegin.then (load_does p), (SameEngine.refl _).gains _⟩
  | none =>
    unfold proceedLoad? at hload
    unfold proceed
    split
    · next hrun hbus =>
      rw [hrun, hbus] at hload
      cases hload
    · next hrun hbus =>
      rw [hrun, hbus] at hload
      dsimp only at hload
      split at hload
      · cases hload
      · next hmap =>
        rw [if_neg hmap]
        rw [Bool.not_eq_true, Option.isNone_eq_false_iff] at hmap
        exact step_does energy hrun hbus hmap hw
    · exact ⟨m, .refl _, (SameEngine.refl m).gains _⟩

theorem observe_does (m : Machine) (s : Site) :
    Does [] (m, s.hardware) ((m.observe s).1, (m.observe s).2.hardware) := by
  have hpoll : Does [] (m, s.hardware) ({ m with controller := (m.controller.poll s).1 },
      (m.controller.poll s).2.hardware) := does_nil rfl rfl rfl (m.controller.poll_silent s)
  exact hpoll.then ((setBusState_sameInside _ _).sameEngine.does _)

/-- A tick asks what its loads ask, and grants cycles only for a charge. -/
theorem tick_does (m : Machine) (energy : EnergySource) (s : Site) :
    ∃ m', Does (loadBlocks (m.tickLoads s)) (m, s.hardware) (m', (m.tick energy s).2.2.hardware) ∧
      Gains (m.granted (m.charge? energy s)) m' (m.tick energy s).1 := by
  have hobserve := m.observe_does s
  have hconfig : (m.observe s).1.config = m.config := (setBusState_sameInside _ _).config
  unfold tickLoads charge?
  rw [tick_eq]
  generalize m.observe s = p at hobserve hconfig
  obtain ⟨m₁, s₁⟩ := p
  have habsorb := hobserve.then (m₁.absorbChanges_does s₁.hardware)
  have hrelays := (m₁.absorbChanges_acts s₁.hardware).relays
  dsimp only at habsorb hconfig ⊢
  generalize m₁.absorbChanges s₁.hardware = p at habsorb hrelays
  obtain ⟨m₂, hw₂⟩ := p
  have hgranted (charge : Option Nat) : m₂.granted charge = m.granted charge := by
    unfold granted
    rw [show m₂.config = m₁.config from hrelays.config, hconfig]
  obtain ⟨m', hproceed, hgains⟩ := m₂.proceed_does energy hw₂
  have hdone := habsorb.trans hproceed
  rw [← loadBlocks_append] at hdone
  rw [hgranted] at hgains
  dsimp only at hdone ⊢
  generalize m₂.proceed energy hw₂ = p at hdone hgains
  obtain ⟨m₃, energy', hw₃⟩ := p
  exact ⟨m', hdone,
    hgains.trans (m₃.flushTerminal_sameInside.trans (publishMedia_sameInside _ hw₃)).sameEngine⟩

/-! ## Suspension and records -/

theorem suspend_does (m : Machine) (s : Site) :
    Does [[.releaseScratch]] (m, s.hardware) ((m.suspend s).1, (m.suspend s).2.hardware) := by
  have hshutdown := m.shutdown_does s.hardware
  unfold suspend
  generalize m.shutdown s.hardware = p at hshutdown
  obtain ⟨m₁, hw₁⟩ := p
  have hnote := hshutdown.then (m₁.noteCall_emulates .releaseScratch (.releaseScratch _) rfl hw₁).does
  have hrelease := hnote.before (m₁.releaseDevices_does (m₁.noteCall .releaseScratch hw₁))
  dsimp only
  generalize m₁.releaseDevices (m₁.noteCall .releaseScratch hw₁) = p at hrelease
  obtain ⟨m₂, hw₂⟩ := p
  have hresume : m₂.SameEngine (if m₂.runState = .running then { m₂ with resume := true } else m₂) := by
    split <;> exact ⟨rfl, rfl, rfl⟩
  dsimp only
  generalize (if m₂.runState = .running then { m₂ with resume := true } else m₂) = m₃ at hresume
  have hdispose : m₃.SameEngine { m₃ with controller := (m₃.controller.dispose s.topology).1 } :=
    ⟨rfl, rfl, rfl⟩
  exact hrelease.before ((hresume.trans hdispose).does hw₂)

theorem finalize_does (m : Machine) (s : Site) :
    Does [[.releaseScratch], [.reset]] (m, s.hardware) ((m.finalize s).1, (m.finalize s).2.hardware) := by
  have hsuspend := m.suspend_does s
  unfold finalize
  generalize m.suspend s = p at hsuspend
  obtain ⟨m₁, s₁⟩ := p
  have hdevices : s₁.hardware.Adds Silent
      (m₁.controller.devices.foldl (fun hw d => hw.finalize d.device.handle) s₁.hardware) :=
    Hardware.foldl_adds (fun hw (d : BusDevice) => Hardware.finalize_adds fun _ => rfl) _ _
  dsimp only
  generalize m₁.controller.devices.foldl (fun hw d => hw.finalize d.device.handle) s₁.hardware = hw₁
    at hdevices
  have hreset := (hsuspend.before (m₁.does_adds hdevices)).trans (m₁.resetEmulator_emulates hw₁).does
  generalize m₁.resetEmulator hw₁ = p at hreset
  obtain ⟨m₂, hw₂⟩ := p
  have hcleared : m₂.SameEngine (({ m₂ with
      pendingStates := .empty, media := .empty, resume := false } : Machine).resetTerminal) := ⟨rfl, rfl, rfl⟩
  have hsettled := hcleared.trans (settle_sameInside _ none .stopped).sameEngine
  exact hreset.before (hsettled.does hw₂)

theorem saveRecord_does (m : Machine) (hw : Hardware) : Does [[.save]] (m, hw) (m.saveRecord hw).2 := by
  have hquiesce := m.quiesce_does hw
  unfold saveRecord
  generalize m.quiesce hw = p at hquiesce
  obtain ⟨m₁, hw₁⟩ := p
  have hsaved := foldl_saveDevice_adds (P := Silent) (fun _ _ => rfl) m₁.controller.devices
    (m₁.pendingStates, hw₁)
  dsimp only at hsaved ⊢
  exact (hquiesce.then (m₁.does_adds hsaved)).then (m₁.noteCall_emulates .save (.save _) rfl _).does

theorem restoreEmulator_does (m : Machine) (state : Bytes) (hw : Hardware) :
    ∃ accepted, Does [[.restore state accepted]] (m, hw) (m.restoreEmulator state hw).2 := by
  unfold restoreEmulator
  split
  · next emulator he =>
    have hrestore : Emulates [.restore state true] (m, hw)
        ({ m with emulator }, m.noteCall (.restore state true) hw) :=
      ⟨rfl, Hardware.hears_call m.id _ hw, (Emulator.Takes.restore he).undergoes,
        Nat.le_of_eq (Nat.zero_add _)⟩
    exact ⟨true, hrestore.does⟩
  · next fault he =>
    exact ⟨false, (m.noteCall_emulates (.restore state false) (.refuse he) rfl hw).does⟩

theorem rejectEmulation_sameEngine (m : Machine) (fault : Fault) : m.SameEngine (m.rejectEmulation fault) := by
  unfold rejectEmulation
  dsimp only
  split <;> exact ⟨rfl, rfl, rfl⟩

/-- A record that has a state of the emulator has it restored. -/
theorem loadRecord_does (m : Machine) (r : Record) (hw : Hardware) :
    ∃ asked, (if r.emulation.isEmpty then asked = [] else ∃ accepted, asked = [.restore r.emulation accepted]) ∧
      Does (asked.map ([·])) (m, hw) (m.loadRecord r hw) := by
  have hcancel := m.cancel_does hw
  unfold loadRecord
  generalize m.cancel hw = p at hcancel
  obtain ⟨m₁, hw₁⟩ := p
  have hrelease := hcancel.then (m₁.releaseDevices_does hw₁)
  dsimp only
  generalize m₁.releaseDevices hw₁ = p at hrelease
  obtain ⟨m₂, hw₂⟩ := p
  have hadopt : m₂.SameEngine (m₂.adoptRecord r) := ⟨rfl, rfl, rfl⟩
  have hadopted := hrelease.then (hadopt.does hw₂)
  dsimp only
  by_cases hempty : r.emulation.isEmpty = true
  · rw [if_pos hempty]
    exact ⟨[], by rw [if_pos hempty], hadopted⟩
  · rw [if_neg hempty]
    obtain ⟨accepted, hrestore⟩ := (m₂.adoptRecord r).restoreEmulator_does r.emulation hw₂
    have hrestored := hadopted.then hrestore
    refine ⟨[.restore r.emulation accepted], ?_, ?_⟩
    · rw [if_neg hempty]
      exact ⟨accepted, rfl⟩
    · split
      · next he =>
        rwa [he] at hrestored
      · next fault m₃ hw₃ he =>
        rw [he] at hrestored
        exact hrestored.before ((m₃.rejectEmulation_sameEngine fault).does hw₃)

end Machine

/-! ## Operations -/

/-- What an operation of a machine asks of the emulator, slices and loads aside. -/
def MachineOp.Asks : MachineOp → List EmulatorCall → Prop
  | .suspend, asked => asked = [.releaseScratch]
  | .finalize, asked => asked = [.releaseScratch, .reset]
  | .saveRecord, asked => asked = [.save]
  | .loadRecord r, asked =>
    if r.emulation.isEmpty then asked = [] else ∃ accepted, asked = [.restore r.emulation accepted]
  | _, asked => asked = []

namespace Station

/-- The emulator is called in the loads of an operation, and to do what the operation asks. -/
theorem step_does (station : Station) (s : Site) {op : MachineOp} (htick : op ≠ .tick)
    (hscript : ∀ change, op ≠ .script change) :
    ∃ asked, op.Asks asked ∧
      Machine.Does (Machine.loadBlocks (station.loads s op) ++ asked.map ([·]))
        (station.machine, s.hardware)
        ((station.step s op).2.1.machine, (station.step s op).2.2.hardware) := by
  have hcontroller (controller : Controller) :
      station.machine.SameEngine { station.machine with controller } := ⟨rfl, rfl, rfl⟩
  have hterminal (terminal : Terminal) :
      station.machine.SameEngine { station.machine with terminal } := ⟨rfl, rfl, rfl⟩
  have hsink (sink : Sink) : station.machine.SameEngine { station.machine with sink } := ⟨rfl, rfl, rfl⟩
  have hplatform (platform : Platform) :
      station.machine.SameEngine { station.machine with platform } := ⟨rfl, rfl, rfl⟩
  cases op with
  | tick => exact absurd rfl htick
  | script change => exact absurd rfl (hscript change)
  | start =>
    refine ⟨[], rfl, ?_⟩
    rw [List.map_nil, List.append_nil]
    exact station.machine.start_does s.hardware
  | stop => exact ⟨[], rfl, station.machine.stop_does s.hardware⟩
  | advance slices => exact ⟨[], rfl, station.machine.advance_does slices s.hardware⟩
  | quiesce => exact ⟨[], rfl, station.machine.quiesce_does s.hardware⟩
  | suspend => exact ⟨_, rfl, station.machine.suspend_does s⟩
  | finalize => exact ⟨_, rfl, station.machine.finalize_does s⟩
  | scheduleScan => exact ⟨[], rfl, (hcontroller _).does s.hardware⟩
  | recharge amount simulate => exact ⟨[], rfl, .refl _⟩
  | terminal call => exact ⟨[], rfl, (hterminal _).does s.hardware⟩
  | platform platform => exact ⟨[], rfl, (hplatform platform).does s.hardware⟩
  | drainUpdates => exact ⟨[], rfl, (hsink _).does s.hardware⟩
  | saveRecord => exact ⟨_, rfl, station.machine.saveRecord_does s.hardware⟩
  | loadRecord r => exact station.machine.loadRecord_does r s.hardware
  | readMemory address count =>
    refine ⟨[], rfl, ?_⟩
    show Machine.Does [] _ (readMemory station.machine address count s.hardware).2
    unfold readMemory
    split
    · exact .refl _
    · exact station.machine.does_adds (Hardware.readMemory_adds fun _ => rfl)
  | writeMemory address data =>
    refine ⟨[], rfl, ?_⟩
    show Machine.Does [] _ (writeMemory station.machine address data s.hardware).2
    unfold writeMemory
    split
    · exact .refl _
    · exact station.machine.does_adds (Hardware.writeMemory_adds fun _ => rfl)

/-- No operation calls the emulator of another machine. -/
theorem step_adds_unheard (station : Station) (s : Site) (op : MachineOp) {id : MachineId}
    (hid : station.machine.id ≠ id) :
    s.hardware.Adds (·.heard? id = none) (station.step s op).2.2.hardware := by
  by_cases htick : op = .tick
  · subst htick
    obtain ⟨m', ⟨calls, hcalls, -⟩, -⟩ := station.machine.tick_does station.energy s
    exact hcalls.hears.adds_other (Ne.symm hid)
  · by_cases hscript : ∃ change, op = .script change
    · obtain ⟨change, rfl⟩ := hscript
      exact .refl _ _
    · obtain ⟨asked, -, calls, hcalls, -⟩ :=
        station.step_does s htick fun change h => hscript ⟨change, h⟩
      exact hcalls.hears.adds_other (Ne.symm hid)

/-! ## Beginnings -/

/-- The loads of an operation begin in `loading`, as boots, or in `running`, with all to keep. -/
theorem loads_begin {station : Station} {s : Site} {op : MachineOp} (h : station.machine.Poised)
    {p : Machine × Hardware} (hp : p ∈ station.loads s op) : p.1.Begins := by
  cases op with
  | start =>
    obtain ⟨-, rfl⟩ := Machine.startLoad?_moment (Option.mem_toList.1 hp)
    exact .inl ⟨Machine.setRunState_runState _ _, (Machine.setRunState_sameInside _ _).resume⟩
  | tick =>
    have hfollows : Machine.Follows .tick station.machine (station.machine.observe s).1 :=
      (station.machine.observe_stays s).follows
    have hobserve := hfollows.poised h
    replace hp : p ∈ station.machine.tickLoads s := hp
    unfold Machine.tickLoads at hp
    generalize station.machine.observe s = q at hobserve hp
    obtain ⟨m₁, s₁⟩ := q
    have habsorb := (m₁.absorbChanges_follows .tick s₁.hardware).poised hobserve
    dsimp only at hp
    rcases List.mem_append.1 hp with hp | hp
    · obtain ⟨m', -, hrun, hm'⟩ := Machine.absorbLoad?_moment (Option.mem_toList.1 hp)
      rw [hm']
      exact .inr ⟨hrun, rfl⟩
    · rcases Machine.proceedLoad?_moment (Option.mem_toList.1 hp) with ⟨hrun, rfl⟩ | ⟨hrun, rfl⟩
      · exact .inl ⟨hrun, habsorb.resume hrun⟩
      · exact .inr ⟨hrun, rfl⟩
  | _ => cases hp

/-- A machine that is running loads in ticks only, and every such load begins in `running`. -/
theorem loads_running {station : Station} {s : Site} {op : MachineOp}
    (h : station.machine.runState = .running) {p : Machine × Hardware} (hp : p ∈ station.loads s op) :
    op = .tick ∧ p.1.runState = .running := by
  cases op with
  | start =>
    obtain ⟨hstart, -⟩ := Machine.startLoad?_moment (Option.mem_toList.1 hp)
    exact absurd h (Machine.not_running_of_startable hstart)
  | tick =>
    refine ⟨rfl, ?_⟩
    have hobserve := (station.machine.observe_stays s).runState.trans h
    replace hp : p ∈ station.machine.tickLoads s := hp
    unfold Machine.tickLoads at hp
    generalize station.machine.observe s = q at hobserve hp
    obtain ⟨m₁, s₁⟩ := q
    have habsorb := m₁.absorbChanges_runState hobserve s₁.hardware
    dsimp only at hp
    rcases List.mem_append.1 hp with hp | hp
    · obtain ⟨m', -, hrun, hm'⟩ := Machine.absorbLoad?_moment (Option.mem_toList.1 hp)
      rw [hm']
      exact hrun
    · rcases Machine.proceedLoad?_moment (Option.mem_toList.1 hp) with ⟨hrun, rfl⟩ | ⟨hrun, rfl⟩
      · exact absurd hrun habsorb
      · exact hrun
  | _ => cases hp

end Station

end DeviceBus
