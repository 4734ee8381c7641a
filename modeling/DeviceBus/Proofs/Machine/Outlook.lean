import DeviceBus.Machine

/-!
# What observers are told

The outlook of a machine is the part of it that updates are about: its two states, its boot error and
its terminal.  `Outlook.Reports o us p` says that the outlook went from `o` to `p`, one change at a
time, while the updates `us` were published.  A change of a state is published as it is made; output
is published when it is flushed, and input is not published at all.

    o.Reports us p → p.Reports vs q → o.Reports (us ++ vs) q                  (Reports.trans)
    p.Reports [] { p with terminal := what a slice of emulation leaves }      (Emulator.run_reports)
-/

namespace DeviceBus

/-- What of a machine updates are about. -/
structure Outlook where
  runState : RunState
  busState : BusState
  bootError : Option String
  terminal : Terminal

/-- The outlook of a machine. -/
def Machine.outlook (m : Machine) : Outlook := ⟨m.runState, m.busState, m.bootError, m.terminal⟩

namespace Outlook

/-- The outlook changes step by step from the first to the second, and publishes the updates. -/
inductive Reports (o : Outlook) : List Update → Outlook → Prop where
  | refl : Reports o [] o
  | runState {us p} (state : RunState) : Reports o us p → p.runState ≠ state →
      Reports o (us ++ [.runState state]) { p with runState := state }
  | busState {us p} (state : BusState) : Reports o us p → p.busState ≠ state →
      Reports o (us ++ [.busState state]) { p with busState := state }
  | bootError {us p} (error : Option String) : Reports o us p → p.bootError ≠ error →
      Reports o (us ++ [.bootError error]) { p with bootError := error }
  | write {us p} (data : Bytes) : Reports o us p →
      Reports o us { p with terminal := (p.terminal.write data).2 }
  | input {us p} (staged input : Bytes) (displayOnly : Bool) : Reports o us p →
      Reports o us { p with terminal := { p.terminal with staged, input, displayOnly } }
  | flush {us p} : Reports o us p → p.terminal.pending ≠ [] →
      Reports o (us ++ [.terminalOutput p.terminal.pending])
        { p with terminal := { p.terminal with pending := [] } }
  | reset {us p} : Reports o us p →
      Reports o (us ++ [.terminalReset]) { p with terminal := p.terminal.reset }
  | media {us p} (device : DeviceId) (present : Bool) : Reports o us p →
      Reports o (us ++ [.mediaChanged device present]) p

theorem Reports.trans {o p q : Outlook} {us vs : List Update} (h₁ : o.Reports us p)
    (h₂ : p.Reports vs q) : o.Reports (us ++ vs) q := by
  induction h₂ with
  | refl => rwa [List.append_nil]
  | runState state _ hne ih => rw [← List.append_assoc]; exact .runState state ih hne
  | busState state _ hne ih => rw [← List.append_assoc]; exact .busState state ih hne
  | bootError error _ hne ih => rw [← List.append_assoc]; exact .bootError error ih hne
  | write data _ ih => exact .write data ih
  | input staged input displayOnly _ ih => exact .input staged input displayOnly ih
  | flush _ hne ih => rw [← List.append_assoc]; exact .flush ih hne
  | reset _ ih => rw [← List.append_assoc]; exact .reset ih
  | media device present _ ih => rw [← List.append_assoc]; exact .media device present ih

theorem Reports.terminal_config {o p : Outlook} {us : List Update} (h : o.Reports us p) :
    p.terminal.config = o.terminal.config := by
  induction h with
  | refl => rfl
  | _ => assumption

end Outlook

/-! ## Emulation -/

/-- A terminal that only took output and had its input changed: nothing is published. -/
def Terminal.Serves (t t' : Terminal) : Prop :=
  ∀ p : Outlook, Outlook.Reports { p with terminal := t } [] { p with terminal := t' }

namespace Terminal

theorem Serves.refl (t : Terminal) : t.Serves t := fun _ => .refl

theorem Serves.trans {t t' t'' : Terminal} (h₁ : t.Serves t') (h₂ : t'.Serves t'') : t.Serves t'' :=
  fun p => (h₁ p).trans (h₂ p)

theorem write_serves (t : Terminal) (data : Bytes) : t.Serves (t.write data).2 :=
  fun _ => .write data .refl

theorem input_serves (t : Terminal) (staged input : Bytes) (displayOnly : Bool) :
    t.Serves { t with staged, input, displayOnly } := fun _ => .input staged input displayOnly .refl

theorem readAllInput_serves (t : Terminal) : t.Serves t.readAllInput.2 :=
  input_serves t t.staged [] t.displayOnly

theorem deliverInput_serves (t : Terminal) : t.Serves t.deliverInput :=
  input_serves t [] (t.input ++ t.staged) t.displayOnly

theorem readInput_serves (t : Terminal) : t.Serves t.readInput.2 := by
  unfold readInput
  split
  · exact .refl t
  · next b rest _ => exact input_serves t t.staged rest t.displayOnly

theorem serve_serves (t : Terminal) (call : ConsoleCall) : t.Serves (t.serve call) := by
  cases call with
  | write data => exact t.write_serves data
  | readInput => exact t.readInput_serves
  | readAllInput => exact t.readAllInput_serves

theorem serveAll_serves (t : Terminal) (calls : List ConsoleCall) : t.Serves (t.serveAll calls) := by
  induction calls generalizing t with
  | nil => exact .refl t
  | cons call calls ih => exact (t.serve_serves call).trans (ih (t.serve call))

end Terminal

theorem ScriptedEmulator.runSettings_serves (e : ScriptedEmulator) (cycles : Nat) (t : Terminal) :
    t.Serves (e.runSettings cycles t).2.2 := by
  unfold ScriptedEmulator.runSettings
  split
  · exact .refl t
  split
  · exact .refl t
  · have hecho : t.Serves (if e.echo then echoInput t else t) := by
      split
      · exact (Terminal.readAllInput_serves t).trans (Terminal.write_serves _ _)
      · exact .refl t
    exact hecho.trans (Terminal.write_serves _ e.output)

theorem ScriptedEmulator.run_serves (e : ScriptedEmulator) (cycles : Nat) (t : Terminal) :
    t.Serves (e.run cycles t).2.2 := by
  unfold ScriptedEmulator.run
  split
  · next host state _ => exact t.serveAll_serves (host.run cycles t state).2.2
  · exact e.runSettings_serves cycles t

theorem DemoMachine.run_serves (m : DemoMachine) (cycles : Nat) (t : Terminal) :
    t.Serves (m.run cycles t).2 :=
  (Terminal.readAllInput_serves t).trans (Terminal.write_serves _ _)

/-- A slice of emulation only writes output and takes input. -/
theorem Emulator.run_serves (e : Emulator) (cycles : Nat) (t : Terminal) :
    t.Serves (e.run cycles t).2.2 := by
  cases e with
  | demo m => exact m.run_serves cycles t
  | scripted s => exact s.run_serves cycles t

end DeviceBus
