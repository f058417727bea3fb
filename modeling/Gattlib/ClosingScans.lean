import Gattlib.ScanFacts

namespace Gattlib.ClosingScans

open Library.Memory Library.Transition Gattlib.State Gattlib.Registry Gattlib.Connection
open Gattlib.Scan Gattlib.Adapters Gattlib.StepOutcomes Gattlib.Frames Gattlib.SystemInvariants
open Gattlib.ScanFacts

/-- `gattlib_adapter_close` takes the branch of an adapter that is scanning. -/
def takesScanningBranch (w : World) (a : Nat) : Bool :=
  gattlibAdapterIsValid w a && gattlibDevicesAreDisconnected w a && (scanOf w a).isScanning

def closesScanning (w : World) : SystemEvent → Bool
  | .adapter (.close a _ _) => takesScanningBranch w a
  | _ => false

/-- `scan_loop_thread` is the handle of a thread of the adapter that has not returned. -/
def HasScanThread (w : World) (a : Nat) : Prop :=
  ∃ thread th, (scanOf w a).scanLoopThread = some thread ∧ w.scanThreads thread = some th ∧
    th.adapter = a ∧ th.pc ≠ .returned

/-- What a close passes to `g_thread_ref`, and after its wait to `g_thread_join`, is a thread. -/
def GivenThread (w : World) : SystemEvent → Prop
  | .adapter (.close a _ _) => takesScanningBranch w a = true → HasScanThread w a
  | .adapter (.closeFinish a) => (scanOf w a).scanLoopThread ≠ none
  | _ => True

/-- The handle is dropped before the mutex is, so nobody finds one. -/
def Threadless (w : World) : Prop := ∀ a, (scanOf w a).scanLoopThread = none

/-- No close is between its first and its last step. -/
structure NoCloser (w : World) : Prop where
  waiting : w.closeWaiting = fun _ => 0
  leaving : w.closeLeaving = fun _ => 0

section

variable {w w' : World} {a : Nat}

theorem threadless_adapters (h : Threadless w) (ha : w'.adapters = w.adapters) :
    Threadless w' := by
  intro a
  unfold scanOf
  rw [ha]
  exact h a

theorem threadless_outside (h : Threadless w) (ho : OutsideScans w w') : Threadless w' := by
  intro a
  obtain hnone | hsame := ho.scans a
  · rw [hnone]
  · rw [hsame]
    exact h a

theorem threadless_modify (h : Threadless w) (a : Nat) {f : Adapter → Adapter}
    (hf : ∀ ad, (f ad).backend.bleScan.scanLoopThread = ad.backend.bleScan.scanLoopThread ∨
      (f ad).backend.bleScan.scanLoopThread = none) : Threadless (modifyAdapter w a f) := by
  intro b
  have hb := h b
  unfold scanOf at hb ⊢
  rw [modifyAdapter, modify_cell]
  split
  · next heq =>
    subst heq
    cases hc : w.adapters.cell b with
    | none => rfl
    | some ad =>
      rw [hc] at hb
      obtain hsame | hnone := hf ad
      · exact hsame.trans hb
      · exact hnone
  · exact hb

theorem threadless_scanEffect (h : Threadless w) (he : ScanEffect w w') : Threadless w' := by
  cases he with
  | fields => exact threadless_adapters h rfl
  | adapter a f hf => exact threadless_modify h a (fun ad => (hf ad).thread)

theorem threadless_effect (h : Threadless w) (he : AdapterEffect w w') : Threadless w' := by
  obtain hout | ⟨a, discovering, stop, _, rfl⟩ := effect_outside he
  · exact threadless_outside h hout
  · exact effects_keep h (effects_disable w a discovering stop) threadless_scanEffect

theorem threadless_step {e : SystemEvent} (hsound : SystemSound w) (h : Threadless w)
    (hs : systemStep w e = some w') : Threadless w' := by
  cases e with
  | device e =>
    exact threadless_outside h (outside_device (deviceStep_frame hsound.sound.wellFormed hs))
  | scan e => exact effects_keep h (scanStep_effects hs) threadless_scanEffect
  | adapter e =>
    cases adapterStep_outcome hs with
    | appended name proxy => exact threadless_outside h (outside_append w name proxy)
    | effects he => exact effects_keep h he threadless_effect

theorem threadless_preserved :
    Preserves systemStep AnyStep (fun w => SystemSound w ∧ Threadless w) :=
  fun _ _ _ h _ hs => ⟨systemStep_sound h.1 hs, threadless_step h.1 h.2 hs⟩

theorem started_threadless (h : Started w) : SystemSound w ∧ Threadless w := by
  refine ⟨started_sound h, ?_⟩
  cases h
  exact fun _ => rfl

theorem unref_closers (w : World) (a : Nat) :
    (gattlibAdapterUnref w a).closeWaiting = w.closeWaiting ∧
      (gattlibAdapterUnref w a).closeLeaving = w.closeLeaving := by
  unfold gattlibAdapterUnref
  cases w.adapters.cell a with
  | none => exact ⟨rfl, rfl⟩
  | some ad =>
    dsimp only
    split
    · exact ⟨rfl, rfl⟩
    · obtain ⟨devices, he⟩ := adapterFree_frame w a
      rw [he]
      exact ⟨rfl, rfl⟩

theorem noCloser_unref (h : NoCloser w) (a : Nat) : NoCloser (gattlibAdapterUnref w a) := by
  obtain ⟨hwaiting, hleaving⟩ := unref_closers w a
  exact ⟨hwaiting.trans h.waiting, hleaving.trans h.leaving⟩

theorem noCloser_close (h : NoCloser w) (a : Nat) (discovering : Bool) (stop : Option GError)
    (hb : takesScanningBranch w a = false) :
    NoCloser (gattlibAdapterCloseBegin w a discovering stop).2 := by
  unfold gattlibAdapterCloseBegin
  split
  · exact h
  · next hvalid =>
    split
    · exact h
    · next hdisconnected =>
      rw [takesScanningBranch, (Bool.not_eq_false _).mp hvalid,
        (Bool.not_eq_false _).mp hdisconnected] at hb
      have hscan : (scanOf w a).isScanning = false := hb
      rw [hscan]
      exact noCloser_unref (NoCloser.mk (w := noteClose w a) h.waiting h.leaving) a

theorem noCloser_adapterStep {e : AdapterEvent} (h : NoCloser w)
    (hn : closesScanning w (.adapter e) = false) (hs : adapterStep w e = some w') :
    NoCloser w' := by
  cases e with
  | openLookup name =>
    cases hs
    unfold gattlibAdapterOpenLookup
    split
    · exact ⟨h.waiting, h.leaving⟩
    · exact ⟨h.waiting, h.leaving⟩
  | openFails name | openAppend name proxy =>
    simp only [adapterStep, Option.ite_none_right_eq_some, Option.some.injEq] at hs
    obtain ⟨_, rfl⟩ := hs
    exact ⟨h.waiting, h.leaving⟩
  | close a discovering stop =>
    cases hs
    exact noCloser_close h a discovering stop hn
  | closeCheck a =>
    simp only [adapterStep, h.waiting, Nat.lt_irrefl, if_false] at hs
    cases hs
  | closeFinish a =>
    simp only [adapterStep, h.leaving, Nat.lt_irrefl, if_false] at hs
    cases hs
  | discoveredThread a =>
    simp only [adapterStep, Option.ite_none_right_eq_some, Option.some.injEq] at hs
    obtain ⟨_, rfl⟩ := hs
    unfold gattlibDiscoveredDeviceThread
    dsimp only
    split
    · exact ⟨h.waiting, h.leaving⟩
    · split
      · exact ⟨h.waiting, h.leaving⟩
      · exact ⟨h.waiting, h.leaving⟩
  | discoveredReturns a =>
    simp only [adapterStep, Option.ite_none_right_eq_some, Option.some.injEq] at hs
    obtain ⟨_, rfl⟩ := hs
    exact noCloser_unref (w := { w with
      discoveredHolding := Function.update w.discoveredHolding a (w.discoveredHolding a - 1) })
      ⟨h.waiting, h.leaving⟩ a

theorem noCloser_step {e : SystemEvent} (hsound : SystemSound w) (h : NoCloser w)
    (hn : closesScanning w e = false) (hs : systemStep w e = some w') : NoCloser w' := by
  cases e with
  | device e =>
    have hf := deviceStep_frame hsound.sound.wellFormed hs
    have hwaiting := congrArg World.closeWaiting hf.outside
    have hleaving := congrArg World.closeLeaving hf.outside
    exact ⟨hwaiting.trans h.waiting, hleaving.trans h.leaving⟩
  | scan e =>
    have hf := scanStep_frame hs
    have hwaiting := congrArg World.closeWaiting hf.outside
    have hleaving := congrArg World.closeLeaving hf.outside
    exact ⟨hwaiting.trans h.waiting, hleaving.trans h.leaving⟩
  | adapter e => exact noCloser_adapterStep h hn hs

theorem noCloser_preserved : Preserves systemStep (fun w e => closesScanning w e = false)
    (fun w => SystemSound w ∧ NoCloser w) :=
  fun _ _ _ h hn hs => ⟨systemStep_sound h.1 hs, noCloser_step h.1 h.2 hn hs⟩

/-- Without a close in progress no thread is joined. -/
theorem given_of_noCloser {e : SystemEvent} (h : NoCloser w) (hn : closesScanning w e = false)
    (hs : systemStep w e = some w') : GivenThread w e := by
  cases e with
  | device e | scan e => trivial
  | adapter e =>
    cases e with
    | close a discovering stop =>
      intro hbranch
      rw [closesScanning, hbranch] at hn
      cases hn
    | closeFinish a =>
      have hstep : adapterStep w (.closeFinish a) = some w' := hs
      simp only [adapterStep, h.leaving, Nat.lt_irrefl, if_false] at hstep
      cases hstep
    | openLookup | openFails | openAppend | closeCheck | discoveredThread | discoveredReturns =>
      trivial

theorem not_given (h : Threadless w) {e : SystemEvent} (hc : closesScanning w e = true) :
    ¬GivenThread w e := by
  cases e with
  | device e | scan e => cases hc
  | adapter e =>
    cases e with
    | close a discovering stop =>
      intro hgiven
      obtain ⟨thread, th, hthread, _⟩ := hgiven hc
      rw [h a] at hthread
      cases hthread
    | openLookup | openFails | openAppend | closeCheck | closeFinish | discoveredThread
    | discoveredReturns => cases hc

end

/-- The closes of a run are given threads exactly if none of them finds its adapter scanning. -/
theorem given_threads {tr : List (World × SystemEvent × World)} {w : World}
    (h : Run systemStep Started tr w) :
    (∀ x ∈ tr, GivenThread x.1 x.2.1) ↔ ∀ x ∈ tr, closesScanning x.1 x.2.1 = false := by
  constructor
  · intro hgiven x hx
    obtain ⟨_, hsteps⟩ := run_steps (fun _ => started_threadless) threadless_preserved h
      (fun _ _ => trivial)
    by_contra hclose
    exact not_given (hsteps x hx).1.2 ((Bool.not_eq_false _).mp hclose) (hgiven x hx)
  · intro hn x hx
    have hstart : ∀ w, Started w → SystemSound w ∧ NoCloser w := by
      rintro w hw
      refine ⟨started_sound hw, ?_⟩
      cases hw
      exact ⟨rfl, rfl⟩
    obtain ⟨_, hsteps⟩ := run_steps hstart noCloser_preserved h hn
    obtain ⟨hinv, hs⟩ := hsteps x hx
    exact given_of_noCloser hinv.2 (hn x hx) hs

/-- A scan is stopped before the adapter is closed. -/
theorem given_threads_stopped : ∃ tr w, Run systemStep Started tr w ∧ w.freedAdapters = [0] ∧
    ∀ x ∈ tr, GivenThread x.1 x.2.1 := by
  have hscan := Run.next (e := .scan (.scanEnable 0 true scanRequest scanAnswer)) opened_run rfl
  have hloop := Run.next (e := .scan (.loopStart 0)) hscan rfl
  have hstop := Run.next (e := .scan (.scanDisable 0 true none)) hloop rfl
  have hrun := Run.next (e := .adapter (.close 0 false none)) hstop rfl
  exact ⟨_, _, hrun, rfl, (given_threads hrun).mpr (by decide)⟩

/-- The adapter is closed in the middle of a blocking scan. -/
theorem close_without_thread : ¬∀ (tr : List (World × SystemEvent × World)) (w : World),
    Run systemStep Started tr w → ∀ x ∈ tr, GivenThread x.1 x.2.1 := by
  intro h
  have hscan := Run.next (e := .scan (.scanEnable 0 true scanRequest scanAnswer)) opened_run rfl
  have hrun := Run.next (e := .adapter (.close 0 true none)) hscan rfl
  obtain ⟨thread, th, hthread, _⟩ := h _ _ hrun _ List.mem_cons_self (by decide)
  have hnull : (none : Option Nat) = some thread := hthread
  cases hnull

end Gattlib.ClosingScans
