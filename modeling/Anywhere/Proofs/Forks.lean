import Anywhere.Client.Interface
import Anywhere.Client.Script
import Anywhere.Proofs.Calls

/-!
# The client library in processes that fork

A process that forks hands its interface and its client library down to the child. Which library is
initialized, then, is told by a log that is handed down as well: every call with its answer, and
every attempt of a process to make the interface its own.

The library should never be finalized where it is not initialized. It is not as long as nobody tries
again after such an attempt failed, in the process where it failed or in one that was forked from it
later; and this is the only way to go wrong (`Process.finalizedInitialized_iff`). A failed attempt
has finalized the library of the parent already, the interface is stale as before, and so the next
attempt finalizes once more.
-/

namespace Anywhere

open Anywhere.Action

variable {σ κ η : Type}

/-! ## Processes and their logs -/

/-- What is put down in the log of a process: a call and its answer, or how it ended when the
process tried to make the interface its own. -/
inductive Process.Entry (κ η : Type) where
  | called (event : Event κ η)
  | adopted (succeeded : Bool)

namespace Process.Entry

/-- The library is finalized. -/
def isFini : Entry κ η → Bool
  | called ⟨.fini, _⟩ => true
  | _ => false

/-- The process tried to make the interface its own. -/
def isAdoption : Entry κ η → Bool
  | adopted _ => true
  | _ => false

end Process.Entry

/-- The log of a process, the latest entry first. It begins with the log of the process from which
this one was forked. -/
abbrev Process.Log (κ η : Type) := List (Process.Entry κ η)

/-- A process with the client library as it is there. -/
structure Process (σ κ η : Type) where
  id : Nat
  interface : Option Interface
  library : σ
  log : Process.Log κ η

/-- The client whose calls are put down in the log of a process. -/
def Client.traced (client : Client σ κ η) : Client (σ × Process.Log κ η) κ η :=
  client.observed fun e log => .called e :: log

namespace Process

/-- The library is initialized: that succeeded, and it was not finalized since. -/
def initialized : Log κ η → Bool
  | [] => false
  | .called ⟨.init, true⟩ :: _ => true
  | .called ⟨.fini, _⟩ :: _ => false
  | _ :: log => initialized log

/-- The latest attempt to make the interface the process's own failed. -/
def adoptionFailed : Log κ η → Bool
  | [] => false
  | .adopted succeeded :: _ => !succeeded
  | _ :: log => adoptionFailed log

/-- The library is finalized only where it is initialized. -/
def FinalizedInitialized (log : Log κ η) : Prop :=
  ∀ entry earlier, entry :: earlier <:+ log → entry.isFini = true → initialized earlier = true

/-- Nobody tries to make the interface his own after that failed. -/
def NeverRetried (log : Log κ η) : Prop :=
  ∀ entry earlier, entry :: earlier <:+ log → entry.isAdoption = true →
    adoptionFailed earlier = false

theorem finalizedInitialized_nil : FinalizedInitialized ([] : Log κ η) := by
  intro entry earlier h
  exact absurd (List.suffix_nil.mp h) (List.cons_ne_nil _ _)

theorem neverRetried_nil : NeverRetried ([] : Log κ η) := by
  intro entry earlier h
  exact absurd (List.suffix_nil.mp h) (List.cons_ne_nil _ _)

@[simp] theorem finalizedInitialized_cons {entry : Entry κ η} {log : Log κ η} :
    FinalizedInitialized (entry :: log) ↔
      (entry.isFini = true → initialized log = true) ∧ FinalizedInitialized log :=
  forall_suffix_cons

@[simp] theorem neverRetried_cons {entry : Entry κ η} {log : Log κ η} :
    NeverRetried (entry :: log) ↔
      (entry.isAdoption = true → adoptionFailed log = false) ∧ NeverRetried log :=
  forall_suffix_cons

/-- Whether the library is finalized only where it is initialized can be read off the log. -/
def decidableFinalizedInitialized : (log : Log κ η) → Decidable (FinalizedInitialized log)
  | [] => .isTrue finalizedInitialized_nil
  | _ :: log =>
    have := decidableFinalizedInitialized log
    decidable_of_iff _ finalizedInitialized_cons.symm

/-- So can whether somebody tried again. -/
def decidableNeverRetried : (log : Log κ η) → Decidable (NeverRetried log)
  | [] => .isTrue neverRetried_nil
  | _ :: log =>
    have := decidableNeverRetried log
    decidable_of_iff _ neverRetried_cons.symm

instance (log : Log κ η) : Decidable (FinalizedInitialized log) := decidableFinalizedInitialized log

instance (log : Log κ η) : Decidable (NeverRetried log) := decidableNeverRetried log

/-! ## What a process does -/

section Acts

variable (client : Client σ κ η)

/-- A process that initializes the library, and has an interface if that works. -/
def start (id : Nat) (s : σ) : Process σ κ η :=
  match Interface.new client.traced id (s, []) with
  | (.ok i, (library, log)) => ⟨id, some i, library, log⟩
  | (.error _, (library, log)) => ⟨id, none, library, log⟩

/-- The process tries to make the interface its own, if it has one. -/
def adopt (p : Process σ κ η) : Process σ κ η :=
  match p.interface with
  | none => p
  | some i =>
    let (result, (i, (library, log))) :=
      Interface.afterFork client.traced p.id (i, (p.library, p.log))
    ⟨p.id, some i, library, .adopted result.isOk :: log⟩

/-- The process lets go of the interface, if it has one. -/
def close (p : Process σ κ η) : Process σ κ η :=
  match p.interface with
  | none => p
  | some i =>
    let (_, (library, log)) := i.close client.traced p.id (p.library, p.log)
    ⟨p.id, none, library, log⟩

/-- A child of the process. It is up to the operating system what the library is like there. -/
def fork (p : Process σ κ η) (child : Nat) (library : σ) : Process σ κ η :=
  { p with id := child, library := library }

/-- What can happen to processes. -/
inductive Act (σ : Type) where
  | fork (parent child : Nat) (library : σ)
  | adopt (id : Nat)
  | close (id : Nat)

/-- What processes there are behind an act. A child gets a number that no process has. -/
def step (processes : List (Process σ κ η)) : Act σ → List (Process σ κ η)
  | .fork parent child library =>
    match processes.find? (·.id = parent) with
    | none => processes
    | some p =>
      if ∀ q ∈ processes, q.id ≠ child then processes ++ [p.fork child library] else processes
  | .adopt id => processes.map fun p => if p.id = id then p.adopt client else p
  | .close id => processes.map fun p => if p.id = id then p.close client else p

/-- What processes there are behind one act after the other, with one process at the start. -/
def run (id : Nat) (s : σ) (acts : List (Act σ)) : List (Process σ κ η) :=
  acts.foldl (step client) [start client id s]

end Acts

/-! ## What each act does -/

section Spec

variable (client : Client σ κ η) {p : Process σ κ η} {i : Interface}

theorem exists_start_eq (id : Nat) (s : σ) :
    ∃ succeeded library, start client id s =
      ⟨id, if succeeded then some ⟨id⟩ else none, library, [.called ⟨.init, succeeded⟩]⟩ := by
  rcases hinit : client.answer .init s with ⟨succeeded, library⟩
  refine ⟨succeeded, library, ?_⟩
  cases succeeded <;>
    simp [start, Interface.new, bind_apply, ask, Client.traced, Client.observed, hinit]

theorem adopt_of_none (h : p.interface = none) : p.adopt client = p := by
  rw [adopt, h]

/-- The owner has nothing to do. -/
theorem adopt_of_owned (h : p.interface = some i) (howner : i.owner = p.id) :
    p.adopt client = { p with log := .adopted true :: p.log } := by
  obtain ⟨id, interface, library, log⟩ := p
  cases h
  cases howner
  simp [adopt, Interface.afterFork, Interface.isStale, bind_apply, Operation.track, Except.isOk,
    Except.toBool]

/-- A process that inherited the interface finalizes the library first, whatever comes of the
attempt to initialize it again. -/
theorem adopt_of_stale (h : p.interface = some i) (howner : i.owner ≠ p.id) :
    ∃ succeeded library, p.adopt client =
      ⟨p.id, some (if succeeded then ⟨p.id⟩ else i), library,
        .adopted succeeded :: .called ⟨.init, succeeded⟩ :: .called ⟨.fini, ()⟩ :: p.log⟩ := by
  obtain ⟨id, interface, library, log⟩ := p
  cases h
  rcases hfini : client.answer .fini library with ⟨⟨⟩, finalized⟩
  rcases hinit : client.answer .init finalized with ⟨succeeded, initialized⟩
  refine ⟨succeeded, initialized, ?_⟩
  cases succeeded <;>
    simp [adopt, Interface.afterFork, Interface.isStale, howner, bind_apply, map_apply,
      Operation.track, Operation.ask, Operation.ofAction, Operation.update, ask, Client.traced,
      Client.observed, hfini, hinit, Except.map, Except.isOk, Except.toBool]

theorem close_of_none (h : p.interface = none) : p.close client = p := by
  rw [close, h]

theorem close_of_owned (h : p.interface = some i) (howner : i.owner = p.id) :
    ∃ library, p.close client = ⟨p.id, none, library, .called ⟨.fini, ()⟩ :: p.log⟩ := by
  obtain ⟨id, interface, library, log⟩ := p
  cases h
  cases howner
  refine ⟨(client.answer .fini library).2, ?_⟩
  simp [close, Interface.close, Interface.isStale, ask, Client.traced, Client.observed]

theorem close_of_stale (h : p.interface = some i) (howner : i.owner ≠ p.id) :
    p.close client = { p with interface := none } := by
  obtain ⟨id, interface, library, log⟩ := p
  cases h
  simp [close, Interface.close, Interface.isStale, howner]

theorem id_adopt (p : Process σ κ η) : (p.adopt client).id = p.id := by
  rw [adopt]
  split <;> rfl

/-- An interface changes hands only by becoming the process's own. -/
theorem owner_adopt (p : Process σ κ η) (h : (p.adopt client).interface = some i) :
    p.interface = some i ∨ i.owner = p.id := by
  cases hinterface : p.interface with
  | none =>
    rw [adopt_of_none client hinterface, hinterface] at h
    exact nomatch h
  | some j =>
    by_cases howner : j.owner = p.id
    · rw [adopt_of_owned client hinterface howner] at h
      exact .inl (hinterface.symm.trans h)
    · obtain ⟨succeeded, library, hadopt⟩ := adopt_of_stale client hinterface howner
      rw [hadopt] at h
      cases h
      cases succeeded with
      | true => exact .inr rfl
      | false => exact .inl rfl

theorem interface_close (p : Process σ κ η) : (p.close client).interface = none := by
  rw [close]
  split
  · next h => exact h
  · rfl

theorem id_close (p : Process σ κ η) : (p.close client).id = p.id := by
  rw [close]
  split <;> rfl

end Spec

/-! ## What stays true -/

/-- A process of which is true what is true of all. -/
structure Sound (p : Process σ κ η) : Prop where
  /-- Where the interface belongs the library is initialized. -/
  owned : ∀ i, p.interface = some i → i.owner = p.id → initialized p.log = true
  /-- Only a failed attempt leaves a library behind that is not initialized. -/
  initialized_iff : ∀ i, p.interface = some i →
    (initialized p.log = true ↔ adoptionFailed p.log = false)
  finalized_iff : FinalizedInitialized p.log ↔ NeverRetried p.log

section Steps

variable (client : Client σ κ η) {p : Process σ κ η}

theorem start_sound (id : Nat) (s : σ) : (start client id s).Sound := by
  obtain ⟨succeeded, library, hstart⟩ := exists_start_eq client id s
  rw [hstart]
  refine ⟨?_, ?_, ?_⟩
  · cases succeeded with
    | true => exact fun _ _ _ => rfl
    | false => exact nofun
  · cases succeeded with
    | true => exact fun _ _ => iff_of_true rfl rfl
    | false => exact nofun
  · simp [Entry.isFini, Entry.isAdoption, finalizedInitialized_nil, neverRetried_nil]

theorem Sound.adopt (h : p.Sound) : (p.adopt client).Sound := by
  cases hinterface : p.interface with
  | none => rwa [adopt_of_none client hinterface]
  | some i =>
    by_cases howner : i.owner = p.id
    · have hinitialized := h.owned i hinterface howner
      have hadopted := (h.initialized_iff i hinterface).mp hinitialized
      rw [adopt_of_owned client hinterface howner]
      refine ⟨fun _ _ _ => hinitialized, fun _ _ => iff_of_true hinitialized rfl, ?_⟩
      simp [Entry.isFini, Entry.isAdoption, hadopted, h.finalized_iff]
    · obtain ⟨succeeded, library, hadopt⟩ := adopt_of_stale client hinterface howner
      rw [hadopt]
      refine ⟨?_, ?_, ?_⟩
      · rintro _ heq howner'
        cases succeeded with
        | true => rfl
        | false =>
          cases heq
          exact absurd howner' howner
      · rintro _ -
        cases succeeded with
        | true => exact iff_of_true rfl rfl
        | false => exact iff_of_false Bool.false_ne_true (Bool.false_ne_true ∘ Eq.symm)
      · -- the library is finalized, which is right if the latest attempt did not fail
        have hlast := h.initialized_iff i hinterface
        simp [Entry.isFini, Entry.isAdoption, adoptionFailed, hlast, h.finalized_iff]

theorem Sound.close (h : p.Sound) : (p.close client).Sound := by
  cases hinterface : p.interface with
  | none => rwa [close_of_none client hinterface]
  | some i =>
    by_cases howner : i.owner = p.id
    · obtain ⟨library, hclose⟩ := close_of_owned client hinterface howner
      rw [hclose]
      refine ⟨nofun, nofun, ?_⟩
      simp [Entry.isFini, Entry.isAdoption, h.owned i hinterface howner, h.finalized_iff]
    · rw [close_of_stale client hinterface howner]
      exact ⟨nofun, nofun, h.finalized_iff⟩

/-- A child does not own the interface that it inherits. -/
theorem Sound.fork (h : p.Sound) {child : Nat}
    (hchild : ∀ i, p.interface = some i → i.owner ≠ child) (library : σ) :
    (p.fork child library).Sound :=
  ⟨fun i hi howner => absurd howner (hchild i hi), h.initialized_iff, h.finalized_iff⟩

end Steps

/-- What is true of all processes there are. -/
structure Consistent (processes : List (Process σ κ η)) : Prop where
  sound : ∀ p ∈ processes, p.Sound
  /-- An interface belongs to a process that is there, so to none that is still to come. -/
  owner : ∀ p ∈ processes, ∀ i, p.interface = some i → ∃ q ∈ processes, q.id = i.owner

section Runs

variable (client : Client σ κ η) {processes : List (Process σ κ η)}

theorem consistent_start (id : Nat) (s : σ) : Consistent [start client id s] := by
  refine ⟨List.forall_mem_singleton.mpr (start_sound client id s),
    List.forall_mem_singleton.mpr fun i hi => ⟨_, List.mem_singleton_self _, ?_⟩⟩
  obtain ⟨succeeded, library, hstart⟩ := exists_start_eq client id s
  rw [hstart] at hi ⊢
  cases succeeded with
  | true =>
    cases hi
    rfl
  | false => exact nomatch hi

/-- What a process does to itself. -/
theorem Consistent.map {f : Process σ κ η → Process σ κ η} (h : Consistent processes)
    (hid : ∀ p, (f p).id = p.id) (hsound : ∀ p, p.Sound → (f p).Sound)
    (howner : ∀ p i, (f p).interface = some i → p.interface = some i ∨ i.owner = p.id)
    (id : Nat) : Consistent (processes.map fun p => if p.id = id then f p else p) := by
  have hids : ∀ p, (if p.id = id then f p else p).id = p.id := by
    intro p
    split
    · exact hid p
    · rfl
  refine ⟨fun p' hp' => ?_, fun p' hp' i hi => ?_⟩
  · obtain ⟨p, hp, rfl⟩ := List.mem_map.mp hp'
    split
    · exact hsound p (h.sound p hp)
    · exact h.sound p hp
  · obtain ⟨p, hp, rfl⟩ := List.mem_map.mp hp'
    have hkept : p.interface = some i ∨ i.owner = p.id := by
      split at hi
      · exact howner p i hi
      · exact .inl hi
    obtain ⟨q, hq, howns⟩ : ∃ q ∈ processes, q.id = i.owner := by
      obtain hsame | hown := hkept
      · exact h.owner p hp i hsame
      · exact ⟨p, hp, hown.symm⟩
    exact ⟨_, List.mem_map_of_mem hq, (hids q).trans howns⟩

theorem Consistent.step (h : Consistent processes) (act : Act σ) :
    Consistent (step client processes act) := by
  cases act with
  | fork parent child library =>
    rw [Process.step]
    split
    · exact h
    · next p hfind =>
      have hp : p ∈ processes := List.mem_of_find?_eq_some hfind
      split
      · next hfresh =>
        have hchild : ∀ i, p.interface = some i → i.owner ≠ child := by
          intro i hi howner
          obtain ⟨q, hq, howns⟩ := h.owner p hp i hi
          exact hfresh q hq (howns.trans howner)
        refine ⟨?_, ?_⟩
        · rw [List.forall_mem_append, List.forall_mem_singleton]
          exact ⟨h.sound, (h.sound p hp).fork hchild library⟩
        · -- whoever owned the interface of the parent is still there
          have howner : ∀ q ∈ processes, ∀ i, q.interface = some i →
              ∃ r ∈ processes ++ [p.fork child library], r.id = i.owner := by
            intro q hq i hi
            obtain ⟨r, hr, howns⟩ := h.owner q hq i hi
            exact ⟨r, List.mem_append_left _ hr, howns⟩
          rw [List.forall_mem_append, List.forall_mem_singleton]
          exact ⟨howner, howner p hp⟩
      · exact h
  | adopt id =>
    exact h.map (id_adopt client) (fun _ => .adopt client) (fun p _ => owner_adopt client p) id
  | close id =>
    refine h.map (id_close client) (fun _ => .close client) (fun p i hi => ?_) id
    rw [interface_close] at hi
    exact nomatch hi

theorem Consistent.foldl (h : Consistent processes) (acts : List (Act σ)) :
    Consistent (acts.foldl (Process.step client) processes) := by
  induction acts generalizing processes with
  | nil => exact h
  | cons act acts ih => exact ih (h.step client act)

/-- **The library is finalized only where it is initialized, as long as nobody tries again after an
attempt to initialize it failed.** This is true of every process that there is after any acts. A
process that owns its interface has an initialized library, and finalizes it when it lets go of
the interface; any other process leaves the library alone then. -/
theorem finalizedInitialized_iff (id : Nat) (s : σ) (acts : List (Act σ)) {p : Process σ κ η}
    (hp : p ∈ run client id s acts) :
    (FinalizedInitialized p.log ↔ NeverRetried p.log) ∧
      ∀ i, p.interface = some i →
        (i.isStale p.id = false →
          initialized p.log = true ∧ (p.close client).log = .called ⟨.fini, ()⟩ :: p.log) ∧
        (i.isStale p.id = true → (p.close client).log = p.log) := by
  have hsound := ((consistent_start client id s).foldl client acts).sound p hp
  refine ⟨hsound.finalized_iff, fun i hi => ⟨fun hstale => ?_, fun hstale => ?_⟩⟩
  · have howner : i.owner = p.id := by simpa [Interface.isStale] using hstale
    obtain ⟨library, hclose⟩ := close_of_owned client hi howner
    exact ⟨hsound.owned i hi howner, by rw [hclose]⟩
  · have howner : i.owner ≠ p.id := by simpa [Interface.isStale] using hstale
    rw [close_of_stale client hi howner]

end Runs

/-! ### A child that fails to initialize the library -/

/-- A library whose initializations end as given. -/
def scriptedInits (inits : List Bool) : Script.State := .start [] [] inits

/-- A child fails and gives up, and another one succeeds. -/
def twoChildren : List (Act Script.State) :=
  [.fork 1 2 (scriptedInits [false]), .adopt 2, .close 2, .fork 1 3 (scriptedInits [true]),
    .adopt 3, .close 1]

theorem finalizedInitialized_twoChildren :
    ∃ p, p ∈ run Script.client 1 (scriptedInits [true]) twoChildren ∧ p.id = 3 ∧
      NeverRetried p.log ∧ FinalizedInitialized p.log ∧
      (p.close Script.client).log = .called ⟨.fini, ()⟩ :: p.log := by
  have hchild : ∃ p ∈ run Script.client 1 (scriptedInits [true]) twoChildren,
      p.id = 3 ∧ p.interface = some ⟨3⟩ ∧ NeverRetried p.log := by
    decide +kernel
  obtain ⟨p, hp, hid, hinterface, hnever⟩ := hchild
  obtain ⟨hfinalized, hclose⟩ := finalizedInitialized_iff Script.client 1 _ _ hp
  have hown : Interface.isStale ⟨3⟩ p.id = false := by rw [hid]; rfl
  exact ⟨p, hp, hid, hnever, hfinalized.mpr hnever, ((hclose _ hinterface).1 hown).2⟩

/-- The child tries again after it failed, and finalizes the library a second time. -/
theorem not_finalizedInitialized_retried :
    ∃ p ∈ run Script.client 1 (scriptedInits [true])
        [.fork 1 2 (scriptedInits [false, true]), .adopt 2, .adopt 2],
      ¬ FinalizedInitialized p.log := by
  decide +kernel

end Process

end Anywhere
