import Gattlib.Adapters
import Mathlib.Logic.Relation

namespace Gattlib.StepOutcomes

open Library.Memory Library.Resources Gattlib.Strings Gattlib.State Gattlib.Registry Gattlib.Connection
open Gattlib.Events Gattlib.Scan Gattlib.Adapters

/-- What the steps of opening and closing adapters are made of, but for the open that
appends an adapter. -/
inductive AdapterEffect (w : World) : World → Prop
  | counted (op cl wa le ho dc : Nat → Nat) (po : List CString) (nu st : Nat) :
      AdapterEffect w { w with
        opens := op
        closes := cl
        closeWaiting := wa
        closeLeaving := le
        discoveredHolding := ho
        discoveredCreated := dc
        pendingOpens := po
        nullThreadUses := nu
        staleUnrefs := st }
  | referenced (adapter : Nat) : AdapterEffect w (gattlibAdapterRef w adapter)
  | unreferenced (adapter : Nat) : AdapterEffect w (gattlibAdapterUnref w adapter)
  | disabled (adapter : Nat) (discovering : Bool) (stop : Option GError)
      (hv : gattlibAdapterIsValid w adapter = true) :
      AdapterEffect w (gattlibAdapterScanDisable w adapter discovering stop).2

/-- A step is an open that appends an adapter, or is made of effects. -/
inductive AdapterOutcome (w : World) : AdapterEvent → World → Prop
  | appended (name : CString) (adapterProxy : Nat) :
      AdapterOutcome w (.openAppend name adapterProxy) (gattlibAdapterOpenAppend w name adapterProxy)
  | effects {e : AdapterEvent} {w' : World} (h : Relation.ReflTransGen AdapterEffect w w') :
      AdapterOutcome w e w'

/-- What a step of a scan comes to. -/
inductive ScanOutcome (w : World) : ScanEvent → World → Prop
  | stays (e : ScanEvent) : ScanOutcome w e w
  | enabled (adapter : Nat) (blocking : Bool) (request : ScanRequest) (o : EnableOutcome) :
      ScanOutcome w (.scanEnable adapter blocking request o)
        (gattlibAdapterScanEnableWithFilter w adapter blocking request o).2
  | started {thread : Nat} {th : ScanThread} (hth : threadAt w thread .created = some th) :
      ScanOutcome w (.loopStart thread) (scanLoopStart w thread th)
  | checked {thread : Nat} {th : ScanThread} (hth : threadAt w thread .waiting = some th)
      (hs : ¬gattlibAdapterIsScanning w th.adapter = true) :
      ScanOutcome w (.loopCheck thread) (setScanPc w thread th .leaving)
  | finished {thread : Nat} {th : ScanThread} (discovering : Bool) (stop : Option GError)
      (hth : threadAt w thread .leaving = some th) :
      ScanOutcome w (.loopFinish thread discovering stop)
        (scanLoopFinish w thread th discovering stop)
  | called (e : ScanEvent) (callers : Nat → Option ScanCaller) :
      ScanOutcome w e { w with scanCallers := callers }
  | fired {timer adapter : Nat} (hl : Live w.scanLedger ⟨timer, .scanTimer, adapter⟩) :
      ScanOutcome w (.timerFires timer)
        { w with scanTimersFiring := (timer, adapter) :: w.scanTimersFiring }
  | timedOut {timer adapter : Nat} {w' : World} (hs : scanTimerRuns w timer adapter = some w') :
      ScanOutcome w (.timeout timer adapter) w'
  | disabled (adapter : Nat) (discovering : Bool) (stop : Option GError) :
      ScanOutcome w (.scanDisable adapter discovering stop)
        (gattlibAdapterScanDisable w adapter discovering stop).2

section

variable {w x w' : World} {a : Nat}

theorem effect_counted (op cl wa le ho dc : Nat → Nat) (po : List CString) (nu st : Nat) :
    Relation.ReflTransGen AdapterEffect w { w with
      opens := op
      closes := cl
      closeWaiting := wa
      closeLeaving := le
      discoveredHolding := ho
      discoveredCreated := dc
      pendingOpens := po
      nullThreadUses := nu
      staleUnrefs := st } :=
  .single (.counted op cl wa le ho dc po nu st)

theorem close_effects (w : World) (a : Nat) (discovering : Bool) (stop : Option GError) :
    Relation.ReflTransGen AdapterEffect w (gattlibAdapterCloseBegin w a discovering stop).2 := by
  have hnote : Relation.ReflTransGen AdapterEffect w (noteClose w a) :=
    effect_counted _ _ _ _ _ _ _ _ _
  unfold gattlibAdapterCloseBegin
  split
  · exact .refl
  · next hv =>
    split
    · exact .refl
    · split
      · have hvalid : gattlibAdapterIsValid (noteClose w a) a = true := (Bool.not_eq_false _).mp hv
        exact (hnote.tail (.disabled a discovering stop hvalid)).trans
          (effect_counted _ _ _ _ _ _ _ _ _)
      · exact hnote.tail (.unreferenced a)

theorem adapterStep_outcome {e : AdapterEvent} (hs : adapterStep w e = some w') :
    AdapterOutcome w e w' := by
  cases e with
  | openLookup name =>
    cases hs
    apply AdapterOutcome.effects
    unfold gattlibAdapterOpenLookup
    split
    · next a _ =>
      exact .trans (.single (.referenced a)) (effect_counted _ _ _ _ _ _ _ _ _)
    · exact effect_counted _ _ _ _ _ _ _ _ _
  | openFails name =>
    simp only [adapterStep, Option.ite_none_right_eq_some, Option.some.injEq] at hs
    obtain ⟨_, rfl⟩ := hs
    exact .effects (effect_counted _ _ _ _ _ _ _ _ _)
  | openAppend name adapterProxy =>
    simp only [adapterStep, Option.ite_none_right_eq_some, Option.some.injEq] at hs
    obtain ⟨_, rfl⟩ := hs
    exact .appended name adapterProxy
  | close adapter discovering stop =>
    cases hs
    exact .effects (close_effects w adapter discovering stop)
  | closeCheck adapter =>
    simp only [adapterStep, Option.ite_none_right_eq_some, Option.some.injEq] at hs
    obtain ⟨_, rfl⟩ := hs
    apply AdapterOutcome.effects
    unfold closeCheck
    split
    · exact .refl
    · exact effect_counted _ _ _ _ _ _ _ _ _
  | closeFinish adapter =>
    simp only [adapterStep, Option.ite_none_right_eq_some, Option.some.injEq] at hs
    obtain ⟨_, rfl⟩ := hs
    exact .effects ((effect_counted _ _ _ _ _ _ _ _ _).tail (.unreferenced adapter))
  | discoveredThread adapter =>
    simp only [adapterStep, Option.ite_none_right_eq_some, Option.some.injEq] at hs
    obtain ⟨_, rfl⟩ := hs
    have hcounted : Relation.ReflTransGen AdapterEffect w { w with
        discoveredCreated := Function.update w.discoveredCreated adapter
          (w.discoveredCreated adapter - 1) } :=
      effect_counted _ _ _ _ _ _ _ _ _
    apply AdapterOutcome.effects
    unfold gattlibDiscoveredDeviceThread
    dsimp only
    split
    · exact hcounted
    · split
      · exact hcounted
      · exact (hcounted.tail (.referenced adapter)).trans (effect_counted _ _ _ _ _ _ _ _ _)
  | discoveredReturns adapter =>
    simp only [adapterStep, Option.ite_none_right_eq_some, Option.some.injEq] at hs
    obtain ⟨_, rfl⟩ := hs
    exact .effects ((effect_counted _ _ _ _ _ _ _ _ _).tail (.unreferenced adapter))

theorem timer_fires {timer : Nat} (hs : scanTimerFires w timer = some w') :
    ScanOutcome w (.timerFires timer) w' := by
  simp only [scanTimerFires, Option.ite_none_left_eq_some] at hs
  obtain ⟨_, hs⟩ := hs
  obtain ⟨⟨id, kind, owner⟩, hx, rfl⟩ := Option.map_eq_some_iff.mp hs
  obtain ⟨hfind, hkind⟩ := Option.filter_eq_some_iff.mp hx
  obtain ⟨hlive, rfl⟩ := find_live hfind
  cases of_decide_eq_true hkind
  exact .fired hlive

theorem scanStep_outcome {e : ScanEvent} (hs : scanStep w e = some w') : ScanOutcome w e w' := by
  cases e with
  | scanEnable adapter blocking request o =>
    cases hs
    exact .enabled adapter blocking request o
  | loopStart thread =>
    obtain ⟨th, hth, rfl⟩ := Option.map_eq_some_iff.mp hs
    exact .started hth
  | loopCheck thread =>
    obtain ⟨th, hth, rfl⟩ := Option.map_eq_some_iff.mp hs
    unfold scanLoopCheck
    split
    · exact .stays _
    · next hscan => exact .checked hth hscan
  | loopFinish thread discovering stop =>
    obtain ⟨th, hth, rfl⟩ := Option.map_eq_some_iff.mp hs
    exact .finished discovering stop hth
  | callerCheck caller =>
    obtain ⟨c, _, rfl⟩ := Option.map_eq_some_iff.mp hs
    split
    · exact .stays _
    · exact .called _ _
  | callerReturn caller =>
    obtain ⟨c, _, rfl⟩ := Option.map_eq_some_iff.mp hs
    exact .called _ _
  | timerFires timer => exact timer_fires hs
  | timeout timer adapter => exact .timedOut hs
  | scanDisable adapter discovering stop =>
    cases hs
    exact .disabled adapter discovering stop

end

end Gattlib.StepOutcomes
