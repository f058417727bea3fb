import Gattlib.LockDiscipline

namespace Gattlib.SignalLocks

open Library.Memory Library.Locks Library.Transition Gattlib.State Gattlib.Registry
open Gattlib.Scan Gattlib.LockedCalls Gattlib.LockDiscipline

/-- The functions that take both mutexes, and the wait loop of the blocking scan. The handler of
a disconnection is the application's. -/
inductive CoreCall
  | waitScanStopped (adapter : Nat)
  | blockingScan (adapter : Nat)
  | stopScanOnTimeout (adapter : Nat)
  | scanDisable (adapter : Nat) (discovering : Bool) (stop : Option GError)
  | disconnect (connection : Nat)
  | onDisconnectedDevice (connection : Nat)

def program : CoreCall → Code
  | .waitScanStopped adapter => gattlibAdapterWaitScanStopped adapter
  | .blockingScan adapter => scanEnableWait adapter
  | .stopScanOnTimeout adapter => stopScanOnTimeout adapter
  | .scanDisable adapter discovering stop => gattlibAdapterScanDisable adapter discovering stop
  | .disconnect connection => gattlibDisconnect connection true (fun _ => .done)
  | .onDisconnectedDevice connection => gattlibOnDisconnectedDevice connection (fun _ rest => rest)

def system : System Mutex Shared CoreCall Outside where
  recursive := recursive
  program := program
  guard := .library
  outside := outside

/-- `m_gattlib_mutex` and `m_gattlib_signal.mutex`. -/
def OfTheCore (l : Mutex) : Prop := l = .library ∨ l = .signal

/-- A thread comes to hold one of the two mutexes and to be about to take the other one only
while no other thread is in the opposite place. -/
def Unopposed (s : Library.Locks.State Mutex Shared) : Event CoreCall Outside → Prop
  | .run t => (Lands recursive s t .library .signal →
        ∀ u, u ≠ t → ¬Between s u .signal .library) ∧
      (Lands recursive s t .signal .library → ∀ u, u ≠ t → ¬Between s u .library .signal)
  | .start _ _ | .wake _ | .timeout _ | .other _ => True

section

variable {s : Library.Locks.State Mutex Shared} {e : Event CoreCall Outside} {t : Nat}

theorem program_disciplined (c : CoreCall) : Disciplined (fun _ => 0) (program c) := by
  cases c with
  | waitScanStopped adapter => exact waitScanStopped_disciplined adapter
  | blockingScan adapter => exact scanEnableWait_disciplined adapter
  | stopScanOnTimeout adapter => exact stopScanOnTimeout_disciplined adapter
  | scanDisable adapter discovering stop => exact scanDisable_disciplined adapter discovering stop
  | disconnect connection =>
    have hdone : Disciplined (fun _ => 0) .done := fun _ => rfl
    exact disconnect_disciplined rfl rfl (fun _ => hdone)
  | onDisconnectedDevice connection => exact onDisconnectedDevice_disciplined (fun _ _ h => h)

theorem core_oneRecursive : OneRecursive recursive take OfTheCore .library := by
  refine ⟨.inl rfl, rfl, ?_, ?_⟩
  · rintro l (rfl | rfl)
    · exact .inl rfl
    · exact .inr rfl
  · rintro h l m _ (rfl | rfl) (rfl | rfl) hl hm hne
    · cases hl
    · cases hl
    · cases hm
    · exact absurd rfl hne

/-- The mutex of `m_gattlib_signal` is never taken twice. -/
theorem signal_once (hs : Sane recursive take s) : ¬Lands recursive s t .signal .signal := by
  rintro ⟨s', hr, hheld, k, hk⟩
  have ht := sane_run hs hr t
  rw [hk] at ht
  have hzero : held s'.owners t .signal = 0 := ht.1
  omega

theorem unopposed_orderly (hs : Sane recursive take s) :
    Orderly recursive OfTheCore .library s e ↔ Unopposed s e := by
  cases e with
  | run t =>
    constructor
    · exact fun h => (h .signal (.inr rfl) rfl).2
    · rintro h l (rfl | rfl) hl
      · cases hl
      · exact ⟨signal_once hs, h⟩
  | start | wake | timeout | other => exact Iff.rfl

end

/-- No threads wait for each other on the two mutexes in a cycle, in a run, exactly if its
steps are unopposed. -/
theorem no_signal_cycle {tr : List (Library.Locks.State Mutex Shared × Event CoreCall Outside ×
      Library.Locks.State Mutex Shared)} {s : Library.Locks.State Mutex Shared}
    (h : Run (step system) (Idle Unopened) tr s) :
    (∀ x ∈ tr, ¬Deadlocked recursive OfTheCore x.2.2) ↔ ∀ x ∈ tr, Unopposed x.1 x.2.1 := by
  have horderly := run_orderly (S := system) core_oneRecursive program_disciplined h
  have hstep : Preserves (step system) AnyStep (Sane recursive take) :=
    fun _ _ _ hs _ hst => sane_step (S := system) program_disciplined hs hst
  obtain ⟨_, hsane⟩ := run_steps (fun _ hi => sane_idle hi) hstep h (fun _ _ => trivial)
  refine horderly.trans (forall_congr' (fun x => forall_congr' (fun hx => ?_)))
  exact unopposed_orderly (hsane x hx).1

/-- No thread has started and nothing has been opened. -/
def unstarted : Library.Locks.State Mutex Shared where
  threads := fun _ => .done
  owners := fun _ => none
  data := ⟨{}, Library.Memory.empty⟩

theorem unstarted_idle : Idle Unopened unstarted := ⟨fun _ => rfl, fun _ => rfl, rfl⟩

/-- The blocking scan has been enabled, and its loop thread has started. -/
def scanning : List (Event CoreCall Outside) :=
  [.other (.library (.adapter (.openLookup hci0))),
    .other (.library (.adapter (.openAppend hci0 1))),
    .other (.library (.scan (.scanEnable 0 true
      { discoveredDeviceCb := some 1, timeout := 10, userData := 1 } ⟨none, some 2, none, none, true⟩))),
    .other (.library (.scan (.loopStart 0)))]

def stateAfter (events : List (Event CoreCall Outside)) : Library.Locks.State Mutex Shared :=
  (exec (step system) unstarted events).getD unstarted

theorem stateAfter_exec (events : List (Event CoreCall Outside))
    (h : (exec (step system) unstarted events).isSome = true) :
    exec (step system) unstarted events = some (stateAfter events) :=
  exec_getD h unstarted

/-- The timeout is about to signal, with the mutex of the library held, when a thread that waits
for the end of the scan has taken the mutex of `m_gattlib_signal`. -/
def opposed : List (Event CoreCall Outside) :=
  scanning ++ [.start 1 (.waitScanStopped 0), .start 2 (.stopScanOnTimeout 0), .run 2, .run 2,
    .run 2]

theorem lock_cycle : ¬∀ (tr : List (Library.Locks.State Mutex Shared × Event CoreCall Outside ×
    Library.Locks.State Mutex Shared)) (s : Library.Locks.State Mutex Shared),
    Run (step system) (Idle Unopened) tr s →
      ∀ x ∈ tr, ¬Deadlocked recursive OfTheCore x.2.2 := by
  intro h
  obtain ⟨tr, hrun, _⟩ := exec_run_from (.start unstarted_idle) (stateAfter_exec opposed rfl)
  have hnext := Run.next (e := .run 1) hrun rfl
  refine h _ _ hnext _ List.mem_cons_self ⟨1, .tail (b := 2) (.single ?_) ?_⟩
  · exact ⟨.library, .inl rfl, ⟨_, rfl⟩, Nat.zero_lt_one, fun he => (by cases he)⟩
  · exact ⟨.signal, .inr rfl, ⟨_, rfl⟩, Nat.zero_lt_one, fun he => (by cases he)⟩

/-- The timeout comes, and nobody waits for the end of the scan. -/
def timedOut : List (Event CoreCall Outside) :=
  scanning ++ [.start 2 (.stopScanOnTimeout 0), .run 2, .run 2, .run 2, .run 2, .run 2, .run 2,
    .run 2]

theorem timedOut_unopposed : ∃ tr s, Run (step system) (Idle Unopened) tr s ∧
    tr.length = 12 ∧ s.threads 2 = .done ∧ gattlibAdapterIsScanning s.data.core 0 = false ∧
    ∀ x ∈ tr, ¬Deadlocked recursive OfTheCore x.2.2 := by
  obtain ⟨tr, hrun, hevents⟩ := exec_run_from (.start unstarted_idle) (stateAfter_exec timedOut rfl)
  have honly : ∀ x ∈ tr ++ [], Only 2 x.2.1 := by
    intro x hx
    have hall : ∀ e ∈ timedOut, Only 2 e := by simp [timedOut, scanning, Only]
    refine hall _ ?_
    rw [← hevents, List.mem_reverse]
    rw [List.append_nil] at hx
    exact List.mem_map_of_mem hx
  refine ⟨_, _, hrun, ?_, rfl, rfl, (no_signal_cycle hrun).mpr (fun x hx => ?_)⟩
  · have hlength := congrArg List.length hevents
    rw [List.length_reverse, List.length_map] at hlength
    rw [List.append_nil, hlength]
    rfl
  · have halone := run_alone hrun honly x hx
    have honly := honly x hx
    cases he : x.2.1 with
    | run t =>
      rw [he] at honly
      cases honly
      exact ⟨fun _ u hu => alone_between halone hu, fun _ u hu => alone_between halone hu⟩
    | start | wake | timeout | other => trivial

end Gattlib.SignalLocks
