import Gattlib.ScanFacts
import Gattlib.SignalLocks

namespace Gattlib.LockedEffects

open Library.Memory Library.Locks Library.Transition Gattlib.Strings Gattlib.State Gattlib.Registry
open Gattlib.Connection Gattlib.Scan Gattlib.Events Gattlib.LockedCalls Gattlib.SignalLocks

variable {d : Shared} {adapter connection : Nat}

theorem stopScanOnTimeout_effect : effect (LockedCalls.stopScanOnTimeout adapter) d =
    onCore (fun w => Scan.stopScanOnTimeout w adapter) d := by
  simp only [LockedCalls.stopScanOnTimeout, reading, effect, onCore, Scan.stopScanOnTimeout]
  split
  · rfl
  · simp only [effect]
    split
    · rfl
    · rfl

/-- Neither the request nor the callback is part of what `is_scanning` is read from. -/
theorem scanning_kept (w : World) : (scanOf (gattlibHandlerFree (requestStop adapter w) adapter)
    adapter).isScanning = (scanOf w adapter).isScanning := by
  simp only [scanOf, gattlibHandlerFree, requestStop, modifyAdapter, modify_self, Option.map_map]
  rfl

theorem stopScanLoop_effect (h : (scanOf d.core adapter).isScanning = true) :
    effect (stopScanLoop adapter) d =
      onCore (fun w => removeScanTimer (storeScanning adapter false w) adapter) d := by
  simp only [stopScanLoop, effect, h, if_true]
  rfl

theorem scanDisable_effect (discovering : Bool) (stop : Option GError) :
    effect (LockedCalls.gattlibAdapterScanDisable adapter discovering stop) d =
      onCore (fun w => (Scan.gattlibAdapterScanDisable w adapter discovering stop).2) d := by
  simp only [LockedCalls.gattlibAdapterScanDisable, reading, effect, onCore,
    Scan.gattlibAdapterScanDisable]
  split
  · rfl
  · simp only [effect]
    split
    · rfl
    · split
      · rfl
      · split
        · rfl
        · next hscan =>
          simp only [effect]
          split
          · rfl
          · simp only [effect]
            rw [stopScanLoop_effect]
            · rfl
            · rw [onCore, onCore, scanning_kept]
              exact (Bool.not_eq_false _).mp hscan

theorem disconnect_effect (wait : Bool) :
    effect (LockedCalls.gattlibDisconnect connection wait (fun _ => .done)) d =
      onCore (fun w => (Connection.gattlibDisconnect w connection).2) d := by
  simp only [LockedCalls.gattlibDisconnect, reading, effect]
  split
  · next hconn =>
    rw [onCore, Connection.gattlibDisconnect, if_pos hconn]
    rfl
  · simp only [writing, effect]
    cases wait with
    | false => rfl
    | true => rfl

theorem onDisconnectedDevice_effect :
    effect (LockedCalls.gattlibOnDisconnectedDevice connection (fun _ rest => rest)) d =
      onCore (fun w => Connection.gattlibOnDisconnectedDevice w connection) d := by
  simp only [LockedCalls.gattlibOnDisconnectedDevice, reading, effect, onCore,
    Connection.gattlibOnDisconnectedDevice]
  split
  · rfl
  · simp only [effect]
    split
    · rfl
    · rfl

theorem registerOnDisconnect_effect (handler : Handler) :
    effect (registerOnDisconnect connection handler .done) d =
      onCore (fun w => gattlibRegisterOnDisconnect w connection handler) d :=
  rfl

theorem gattlibConnect_effect (objectPath : CString) (connectCb userData : Nat)
    (o : ConnectOutcome) :
    effect (LockedCalls.gattlibConnect adapter objectPath connectCb userData o (fun _ rest => rest)
      (fun _ => .done)) d =
      onCore (fun w => (Connection.gattlibConnect w adapter objectPath connectCb userData o).2)
        d := by
  simp only [LockedCalls.gattlibConnect, reading, effect]
  split
  · rfl
  · rfl

/-- What the critical sections of a call do in one step. -/
def inOneStep : CoreCall → World → World
  | .waitScanStopped _ | .blockingScan _ => id
  | .stopScanOnTimeout adapter => fun w => Scan.stopScanOnTimeout w adapter
  | .scanDisable adapter discovering stop =>
    fun w => (Scan.gattlibAdapterScanDisable w adapter discovering stop).2
  | .disconnect connection => fun w => (Connection.gattlibDisconnect w connection).2
  | .onDisconnectedDevice connection =>
    fun w => Connection.gattlibOnDisconnectedDevice w connection

theorem program_effect (c : CoreCall) : effect (program c) d = onCore (inOneStep c) d := by
  cases c with
  | waitScanStopped adapter => rfl
  | blockingScan adapter => rfl
  | stopScanOnTimeout adapter => exact stopScanOnTimeout_effect
  | scanDisable adapter discovering stop => exact scanDisable_effect discovering stop
  | disconnect connection => exact disconnect_effect true
  | onDisconnectedDevice connection => exact onDisconnectedDevice_effect

/-- A call whose thread runs to its end while no other one runs does what the model with one step
for each critical section says. -/
theorem call_in_one_step {s s' : Library.Locks.State Mutex Shared} {t n : Nat} {c : CoreCall}
    (ht : s.threads t = .done)
    (h : exec (step system) s (.start t c :: List.replicate n (.run t)) = some s')
    (hdone : s'.threads t = .done) : s'.data = onCore (inOneStep c) s.data :=
  (call_effect (S := system) ht h hdone).trans (program_effect c)

end Gattlib.LockedEffects
