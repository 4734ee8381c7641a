import DeviceBus.Device.Drive
import DeviceBus.Proofs.Stores

/-!
# Stores to media

The medium in a drive is told by the calls on the drive and the replies to them, the latest first: it is the one that
was put in last, cut to the capacity, unless it was taken out since, with all that was stored on it since:

    medium = (loaded capacity log).map (Medium.after (stores log))               (Drive.Holds)

Accesses are granted by this medium.  What a drive saves gives a drive that is large enough the same medium
(`Drive.media_kept`).
-/

namespace DeviceBus

/-- A medium after some stores to it. -/
def Medium.after (stores : List Store) (m : Medium) : Medium := { m with data := Bytes.after stores m.data }

@[simp] theorem Medium.length_after (stores : List Store) (m : Medium) :
    (m.after stores).data.length = m.data.length :=
  Bytes.length_after stores m.data

@[simp] theorem Medium.after_nil (m : Medium) : m.after [] = m := by
  rw [Medium.after, Bytes.after_nil]

namespace Drive

/-- A call on a drive.  `copy` leaves the medium in. -/
inductive Call where
  | insert (medium : Medium)
  | eject
  | copy
  | read (offset : UInt64) (count : Nat)
  | write (offset : UInt64) (data : Bytes)
  | save
  | restore (state : Bytes)
  deriving DecidableEq, Repr

/-- What a call returns. -/
inductive Reply where
  /-- The medium that was in the drive. -/
  | medium (value : Option Medium)
  | read (result : Except StorageError Bytes)
  | written (result : Except StorageError Unit)
  | saved (state : Option Bytes)
  | restored (result : Except Fault Unit)

/-- Whether a call was refused. -/
def Reply.failed : Reply → Bool
  | .read (.error _) | .written (.error _) | .restored (.error _) => true
  | _ => false

/-- The reply to a call, and the drive after it; a call that fails leaves the drive as it is. -/
def perform (d : Drive) : Call → Reply × Drive
  | .insert m => (.medium d.medium, d.insert m)
  | .eject => (.medium d.eject.1, d.eject.2)
  | .copy => (.medium d.medium, d)
  | .read offset count => (.read (d.readAt offset.toNat count), d)
  | .write offset data =>
    match d.writeAt offset.toNat data with
    | .ok d' => (.written (.ok ()), d')
    | .error e => (.written (.error e), d)
  | .save => (.saved d.save, d)
  | .restore state =>
    match d.restore state with
    | .ok d' => (.restored (.ok ()), d')
    | .error e => (.restored (.error e), d)

/-- A call and the reply to it. -/
structure Exchange where
  call : Call
  reply : Reply

/-- The calls with their replies, the latest first, and the drive after them. -/
def run (d : Drive) (calls : List Call) : List Exchange × Drive :=
  calls.foldl (fun p c => (⟨c, (p.2.perform c).1⟩ :: p.1, (p.2.perform c).2)) ([], d)

theorem run_snoc (d : Drive) (calls : List Call) (c : Call) : d.run (calls ++ [c]) =
    (⟨c, ((d.run calls).2.perform c).1⟩ :: (d.run calls).1, ((d.run calls).2.perform c).2) := by
  simp [run]

namespace Exchange

/-- The medium put in, or `none` for one taken out; nothing if the medium stays. -/
def swap? : Exchange → Option (Option Medium)
  | ⟨.insert m, _⟩ => some (some m)
  | ⟨.eject, _⟩ => some none
  | ⟨.restore state, .restored (.ok ())⟩ => some (savedMedium state).toOption
  | _ => none

/-- What was stored on the medium. -/
def store? : Exchange → Option Store
  | ⟨.write offset data, .written (.ok ())⟩ => some ⟨offset.toNat, data⟩
  | _ => none

end Exchange

/-- The medium that was put in last, as far as a drive of such a capacity takes it, if it was not taken out. -/
def loaded (capacity : Nat) (log : List Exchange) : Option Medium :=
  (log.findSome? Exchange.swap?).join.map fun m => { m with data := m.data.take capacity }

/-- What was stored on the medium since it was put in. -/
def stores (log : List Exchange) : List Store :=
  (log.takeWhile fun e => e.swap?.isNone).filterMap Exchange.store?

section

variable {capacity : Nat} {log : List Exchange} {e : Exchange} {d : Drive}

theorem loaded_cons_swap {m? : Option Medium} (h : e.swap? = some m?) :
    loaded capacity (e :: log) = m?.map fun m => { m with data := m.data.take capacity } := by
  simp [loaded, h]

theorem stores_cons_swap {m? : Option Medium} (h : e.swap? = some m?) : stores (e :: log) = [] := by
  simp [stores, h]

theorem loaded_cons (h : e.swap? = none) : loaded capacity (e :: log) = loaded capacity log := by
  simp [loaded, h]

theorem stores_cons (h : e.swap? = none) : stores (e :: log) = e.store?.toList ++ stores log := by
  simp only [stores, List.takeWhile_cons, h, Option.isNone_none, if_true, List.filterMap_cons]
  cases e.store? <;> rfl

/-- A drive, told by the exchanges that led to it. -/
structure Holds (capacity : Nat) (log : List Exchange) (d : Drive) : Prop where
  capacity_eq : d.capacity = capacity
  medium_eq : d.medium = (loaded capacity log).map (Medium.after (stores log))

theorem new_holds (id : DeviceId) (capacity : Nat) : (new id capacity).Holds capacity [] := ⟨rfl, rfl⟩

/-- The medium is another one. -/
theorem Holds.swap (h : d.Holds capacity log) {m? : Option Medium} (hswap : e.swap? = some m?) {d' : Drive}
    (hcapacity : d'.capacity = d.capacity)
    (hmedium : d'.medium = m?.map fun m => { m with data := m.data.take d.capacity }) :
    d'.Holds capacity (e :: log) where
  capacity_eq := hcapacity.trans h.capacity_eq
  medium_eq := by
    rw [loaded_cons_swap hswap, stores_cons_swap hswap, hmedium, h.capacity_eq]
    cases m? <;> simp

/-- The medium and all on it stays. -/
theorem Holds.stay (h : d.Holds capacity log) (hswap : e.swap? = none) (hstore : e.store? = none) :
    d.Holds capacity (e :: log) where
  capacity_eq := h.capacity_eq
  medium_eq := by
    rw [loaded_cons hswap, stores_cons hswap, hstore]
    exact h.medium_eq

theorem writeAt_eq_ok_iff {offset : Nat} {data : Bytes} {d' : Drive} : d.writeAt offset data = .ok d' ↔
    ∃ m, d.medium = some m ∧ m.readOnly = false ∧ offset + data.length ≤ m.data.length ∧
      d' = { d with medium := some { m with data := m.data.put ⟨offset, data⟩ } } := by
  unfold writeAt
  split
  · next hnone => simp [hnone]
  · next m hm =>
    rw [hm]
    split
    · next hro => simp [hro]
    · next hrw =>
      split
      · next hfits =>
        have hall : data.take (m.data.length - offset) = data := List.take_of_length_le (by omega)
        simp only [Bytes.put, hall, Except.ok.injEq, Option.some.injEq, exists_eq_left', hrw, hfits, true_and]
        exact eq_comm
      · next hfits => simp [hfits]

theorem readAt_eq_ok_iff {offset count : Nat} {bytes : Bytes} : d.readAt offset count = .ok bytes ↔
    ∃ m, d.medium = some m ∧ offset + count ≤ m.data.length ∧ bytes = (m.data.drop offset).take count := by
  unfold readAt
  split
  · next hnone => simp [hnone]
  · next m hm =>
    rw [hm]
    split
    · next hfits =>
      simp only [Except.ok.injEq, Option.some.injEq, exists_eq_left', hfits, true_and]
      exact eq_comm
    · next hfits => simp [hfits]

theorem Holds.perform (h : d.Holds capacity log) (c : Call) :
    (d.perform c).2.Holds capacity (⟨c, (d.perform c).1⟩ :: log) := by
  cases c with
  | insert m => exact h.swap rfl rfl rfl
  | eject => exact h.swap rfl rfl rfl
  | copy => exact h.stay rfl rfl
  | read offset count => exact h.stay rfl rfl
  | save => exact h.stay rfl rfl
  | write offset data =>
    rw [Drive.perform]
    cases hwrite : d.writeAt offset.toNat data with
    | error e => exact h.stay rfl rfl
    | ok d' =>
      -- the medium stays, and there is one more store to it
      obtain ⟨m, hm, -, -, rfl⟩ := writeAt_eq_ok_iff.mp hwrite
      refine ⟨h.capacity_eq, ?_⟩
      obtain ⟨m₀, hloaded, rfl⟩ := Option.map_eq_some_iff.mp (h.medium_eq.symm.trans hm)
      rw [loaded_cons rfl, stores_cons rfl, hloaded]
      exact congrArg (fun bs => some (Medium.mk bs m₀.readOnly)) (Bytes.after_cons _ _ _).symm
  | restore state =>
    rw [Drive.perform, Drive.restore]
    cases hsaved : savedMedium state with
    | error e => exact h.stay rfl rfl
    | ok m =>
      have hswap : (Exchange.mk (.restore state) (.restored (.ok ()))).swap? = some (some m) := by
        rw [Exchange.swap?, hsaved]
        rfl
      exact h.swap hswap rfl rfl

theorem run_holds (id : DeviceId) (capacity : Nat) (calls : List Call) :
    ((new id capacity).run calls).2.Holds capacity ((new id capacity).run calls).1 := by
  induction calls using List.reverseRecOn with
  | nil => exact new_holds id capacity
  | append_singleton calls c ih =>
    rw [run_snoc]
    exact ih.perform c

/-- A call that fails changes nothing. -/
theorem perform_of_failed {c : Call} (h : (d.perform c).1.failed = true) : (d.perform c).2 = d := by
  cases c with
  | write offset data =>
    rw [perform] at h ⊢
    cases hwrite : d.writeAt offset.toNat data with
    | error e => rfl
    | ok d' =>
      rw [hwrite] at h
      cases h
  | restore state =>
    rw [perform] at h ⊢
    cases hrestore : d.restore state with
    | error e => rfl
    | ok d' =>
      rw [hrestore] at h
      cases h
  | read offset count => rfl
  | _ => cases h

theorem savedMedium_save {m : Medium} (hm : d.medium = some m) :
    ∃ state, d.save = some state ∧ savedMedium state = .ok m := by
  obtain ⟨data, readOnly⟩ := m
  rw [save, hm]
  cases readOnly <;> exact ⟨_, rfl, rfl⟩

/-- A drive that takes the whole medium has it after it restored it. -/
theorem restore_of_savedMedium {m : Medium} {state : Bytes} (hsaved : savedMedium state = .ok m)
    (hfits : m.data.length ≤ d.capacity) : d.restore state = .ok { d with medium := some m } := by
  rw [restore, hsaved]
  show Except.ok (d.insert m) = _
  rw [insert, List.take_of_length_le hfits]

/-! What is in a drive, by the exchanges. -/

theorem Holds.length_le (h : d.Holds capacity log) {m : Medium} (hm : d.medium = some m) :
    m.data.length ≤ capacity := by
  rw [h.medium_eq] at hm
  obtain ⟨m₀, hloaded, rfl⟩ := Option.map_eq_some_iff.mp hm
  obtain ⟨m₁, -, rfl⟩ := Option.map_eq_some_iff.mp hloaded
  rw [Medium.length_after]
  exact List.length_take_le _ _

theorem Holds.exists_readAt_iff (h : d.Holds capacity log) {offset count : Nat} :
    (∃ bytes, d.readAt offset count = .ok bytes) ↔
      ∃ m, loaded capacity log = some m ∧ offset + count ≤ m.data.length := by
  simp only [readAt_eq_ok_iff, h.medium_eq, Option.map_eq_some_iff]
  constructor
  · rintro ⟨_, _, ⟨m, hm, rfl⟩, hle, -⟩
    exact ⟨m, hm, by rwa [Medium.length_after] at hle⟩
  · rintro ⟨m, hm, hle⟩
    exact ⟨_, _, ⟨m, hm, rfl⟩, by rwa [Medium.length_after], rfl⟩

theorem Holds.exists_writeAt_iff (h : d.Holds capacity log) {offset : Nat} {data : Bytes} :
    (∃ d', d.writeAt offset data = .ok d') ↔
      ∃ m, loaded capacity log = some m ∧ m.readOnly = false ∧ offset + data.length ≤ m.data.length := by
  simp only [writeAt_eq_ok_iff, h.medium_eq, Option.map_eq_some_iff]
  constructor
  · rintro ⟨_, _, ⟨m, hm, rfl⟩, hopen, hle, -⟩
    exact ⟨m, hm, hopen, by rwa [Medium.length_after] at hle⟩
  · rintro ⟨m, hm, hopen, hle⟩
    exact ⟨_, _, ⟨m, hm, rfl⟩, hopen, by rwa [Medium.length_after], rfl⟩

/-- What is read is what was stored last, or what was put in. -/
theorem Holds.getElem?_read (h : d.Holds capacity log) {offset count : Nat} {bytes : Bytes}
    (hread : d.readAt offset count = .ok bytes) : bytes.length = count ∧
      ∀ k < count, ∃ m b, loaded capacity log = some m ∧ m.data[offset + k]? = some b ∧
        bytes[k]? = some ((lastByte (stores log) (offset + k)).getD b) := by
  obtain ⟨m', hm', hle, rfl⟩ := readAt_eq_ok_iff.mp hread
  rw [h.medium_eq] at hm'
  obtain ⟨m, hm, rfl⟩ := Option.map_eq_some_iff.mp hm'
  rw [Medium.length_after] at hle
  refine ⟨?_, fun k hk => ?_⟩
  · rw [List.length_take, List.length_drop, Medium.length_after]
    omega
  · have hin : offset + k < m.data.length := by omega
    refine ⟨m, m.data[offset + k], hm, List.getElem?_eq_getElem hin, ?_⟩
    rw [List.getElem?_take_of_lt hk, List.getElem?_drop, Medium.after, Bytes.getElem?_after,
      List.getElem?_eq_getElem hin]
    rfl

end

/-- The range of an access, if its end takes no more than 64 bits and is not past the medium. -/
def span? (offset : UInt64) (count size : Nat) : Option (Nat × Nat) :=
  ((checkedAdd offset count).filter (· ≤ size)).map fun stop => (offset.toNat, stop)

theorem span?_eq {size : Nat} (hsize : size < 2 ^ 64) (offset : UInt64) (count : Nat) :
    span? offset count size =
      if offset.toNat + count ≤ size then some (offset.toNat, offset.toNat + count) else none := by
  unfold span? checkedAdd
  split
  · rw [Option.filter_some]
    split <;> simp_all
  · next hover =>
    rw [if_neg (by omega)]
    rfl

/-- A drive of such a capacity after so many exchanges: which accesses it grants, what it reads, and what becomes
of what it saves. -/
structure Serves (capacity : UInt64) (log : List Exchange) (d : Drive) : Prop where
  medium_eq : d.medium = (loaded capacity.toNat log).map (Medium.after (stores log))
  length_le : ∀ m, d.medium = some m → m.data.length ≤ capacity.toNat
  /-- Whether an end is checked to have 64 bits does not show. -/
  span_eq : ∀ m, d.medium = some m → ∀ (offset : UInt64) (count : Nat), span? offset count m.data.length =
    if offset.toNat + count ≤ m.data.length then some (offset.toNat, offset.toNat + count) else none
  readAt_iff : ∀ (offset : UInt64) (count : Nat), (∃ bytes, d.readAt offset.toNat count = .ok bytes) ↔
    ∃ m, loaded capacity.toNat log = some m ∧ offset.toNat + count ≤ m.data.length
  writeAt_iff : ∀ (offset : UInt64) (data : Bytes), (∃ d', d.writeAt offset.toNat data = .ok d') ↔
    ∃ m, loaded capacity.toNat log = some m ∧ m.readOnly = false ∧ offset.toNat + data.length ≤ m.data.length
  /-- Every byte is the one stored there last, or the one put in. -/
  getElem?_readAt : ∀ (offset : UInt64) (count : Nat) (bytes : Bytes), d.readAt offset.toNat count = .ok bytes →
    bytes.length = count ∧ ∀ k < count, ∃ m b, loaded capacity.toNat log = some m ∧
      m.data[offset.toNat + k]? = some b ∧ bytes[k]? = some ((lastByte (stores log) (offset.toNat + k)).getD b)
  failed : ∀ c, (d.perform c).1.failed = true → (d.perform c).2 = d
  /-- Another drive gets the medium with all on it. -/
  restore_save : ∀ m, d.medium = some m → ∃ state, d.save = some state ∧
    ∀ d' : Drive, capacity.toNat ≤ d'.capacity → d'.restore state = .ok { d' with medium := some m }

theorem Holds.serves {capacity : UInt64} {log : List Exchange} {d : Drive}
    (h : d.Holds capacity.toNat log) : d.Serves capacity log where
  medium_eq := h.medium_eq
  length_le m := h.length_le
  span_eq m hm := span?_eq (Nat.lt_of_le_of_lt (h.length_le hm) capacity.toNat_lt)
  readAt_iff offset count := h.exists_readAt_iff
  writeAt_iff offset data := h.exists_writeAt_iff
  getElem?_readAt offset count bytes := h.getElem?_read
  failed c := perform_of_failed
  restore_save m hm := by
    obtain ⟨state, hsave, hsaved⟩ := savedMedium_save hm
    refine ⟨state, hsave, fun d' hcapacity => ?_⟩
    exact restore_of_savedMedium hsaved (Nat.le_trans (h.length_le hm) hcapacity)

/-- After any calls a drive has the medium put in last, unless it was taken out, with all that was stored on it
since. -/
theorem media_kept (id : DeviceId) (capacity : UInt64) (calls : List Call) :
    ((new id capacity.toNat).run calls).2.Serves capacity ((new id capacity.toNat).run calls).1 :=
  (run_holds id capacity.toNat calls).serves

/-! A medium that is cut, a write, and one that reaches past the end. -/

example : ((new ⟨1⟩ 3).run [.insert ⟨[1, 2, 3, 4], false⟩, .write 1 [5, 6], .write 2 [7, 8]]).2.readAt 0 3 =
    .ok [1, 5, 6] :=
  rfl

end Drive

end DeviceBus
