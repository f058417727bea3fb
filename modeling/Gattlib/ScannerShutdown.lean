import Gattlib.ScannerExclusion

namespace Gattlib.ScannerShutdown

open Library.Maps Library.Memory Library.Transition Gattlib.State Gattlib.Scanner
open Gattlib.ScannerExclusion

/-- The functions of the library that a call of `scan` calls for its scan. -/
inductive AdapterCall
  | scanEnable | scanDisable | waitScanStopped
  deriving DecidableEq

/-- What a step calls for the call numbered `i`. -/
def adapterCalls (s : Impl) (i : Nat) : ScannerEvent → List AdapterCall
  | .enable j _ => if j = i then [.scanEnable] else []
  | .shutdown j _ =>
    if j = i then
      match (s.calls i).map Call.pc with
      | some (.shutdown .disabling _ _) => [.scanDisable, .waitScanStopped]
      | _ => []
    else []
  | _ => []

/-- What the steps of a run have called for the call numbered `i`, the first call first. -/
def callLog (i : Nat) : List (Impl × ScannerEvent × Impl) → List AdapterCall
  | [] => []
  | (s, e, _) :: tr => callLog i tr ++ adapterCalls s i e

/-- `shutdown` throws as no scan is running, or `cleanup` as the scan is not being shut down. -/
def Throws (s : Impl) (i : Nat) : ScannerEvent → Prop
  | .shutdown j _ => j = i ∧ ∃ c k inCatch, s.calls i = some c ∧
      ((c.pc = .shutdown .testing k inCatch ∧ s.scanning = false) ∨
        (c.pc = .shutdown .cleaning k inCatch ∧ stateOf s k ≠ .shuttingDown))
  | _ => False

/-- The call has called `adapterScanEnable`. -/
def ReachedEnable (s : Impl) (i : Nat) : Prop := ∃ c, s.calls i = some c ∧ c.enabled = true

/-- The call has called `adapterScanEnable` and is over, with a return code or an exception. -/
def Over (s : Impl) (i : Nat) : Prop :=
  ∃ c, s.calls i = some c ∧ c.enabled = true ∧ c.pc = .ended

/-- A call that has reached `adapterScanEnable` disables the scan once and waits for its end
once, throws neither of the two exceptions, and leaves `m_scanning` false, unless another
call has come in by the time it ends. -/
structure ShutDownOnce (tr : List (Impl × ScannerEvent × Impl)) (s : Impl) : Prop where
  once : ∀ i, Over s i → callLog i tr = [.scanEnable, .scanDisable, .waitScanStopped]
  calm : ∀ x ∈ tr, ∀ i, ReachedEnable x.1 i → ¬Throws x.1 i x.2.1
  clear : ∀ x ∈ tr, ∀ i, ¬Over x.1 i → Over x.2.2 i → x.2.2.scanning = true →
    ∃ j, j ≠ i ∧ Inside x.2.2 j

/-- The part of `shutdown` between its store of SHUTTING_DOWN and the check of `cleanup`. -/
def marked : ShutdownPc → Bool
  | .testing | .disabling | .stopping | .cleaning => true
  | .looking | .locking | .marking | .deleting | .clearing => false

/-- No call is in that part with this context. -/
def Unmarked (s : Impl) (k : Nat) : Prop :=
  ∀ i c p inCatch, s.calls i = some c → c.pc = .shutdown p k inCatch → marked p = false

/-- No callback and no monitor stores its state into a context that is being shut down,
the main loop stops without an exception, and two calls with non-zero timeouts do not race
for `m_scanning`. -/
def Undisturbed (s : Impl) : ScannerEvent → Prop
  | .monitor i => ∀ c k, s.calls i = some c → c.scanData = some k → c.monitor = .storing →
      Unmarked s k
  | .discovery j _ _ _ => ∀ k new, s.discoveries j = some (.storing k new) → Unmarked s k
  | .shutdown i o => ∀ c k inCatch, s.calls i = some c → c.pc = .shutdown .stopping k inCatch →
      o.stopThrows = false
  | .check i => ∀ c, s.calls i = some c → c.timeoutSec ≠ 0 → NoRace s (.check i)
  | _ => True

/-- Whether a call at this place has called `adapterScanEnable`. -/
def reached : CallPc → Option Bool
  | .checking | .preparing | .launching | .announcing | .enabling => some false
  | .enabled | .failing | .waiting => some true
  | .shutdown _ _ inCatch => some (!inCatch)
  | .leaving thrown => some (!thrown)
  | .ended => none

/-- Whether the scan has been disabled, for a call that has enabled it. -/
def disabled : CallPc → Bool
  | .shutdown p _ _ =>
    match p with
    | .looking | .locking | .marking | .testing | .disabling => false
    | .stopping | .cleaning | .deleting | .clearing => true
  | .leaving _ | .ended => true
  | _ => false

/-- Whether a call at this place relies on its context being marked SHUTTING_DOWN or on
its not being marked. -/
def relies : CallPc → Option Bool
  | .launching | .announcing | .enabling | .enabled | .failing | .waiting => some false
  | .shutdown p _ false =>
    match p with
    | .looking | .locking | .marking => some false
    | .testing | .disabling | .stopping | .cleaning => some true
    | .deleting | .clearing => none
  | _ => none

/-- The part of `shutdown` up to its check of `m_scanning`, which is all that is left to
a call whose exception came before `adapterScanEnable`. -/
def early : ShutdownPc → Bool
  | .looking | .locking | .marking | .testing => true
  | .disabling | .stopping | .cleaning | .deleting | .clearing => false

/-- What a call has called so far. -/
def due (c : Call) : List AdapterCall :=
  if c.enabled then
    if disabled c.pc then [.scanEnable, .scanDisable, .waitScanStopped] else [.scanEnable]
  else []

/-- A context that is there, with SHUTTING_DOWN in its state or with another one. -/
structure Holds (s : Impl) (k : Nat) (shuttingDown : Bool) : Prop where
  alive : (s.contexts.cell k).isSome = true
  state : stateOf s k = .shuttingDown ↔ shuttingDown = true

structure CallSound (s : Impl) (c : Call) : Prop where
  enabled : ∀ b, reached c.pc = some b → c.enabled = b
  announced : c.announced = (c.enabled || decide (c.pc = .enabling))
  context : ∀ b, relies c.pc = some b → ∃ k, c.scanData = some k ∧ Holds s k b
  shutdown : ∀ p k inCatch, c.pc = .shutdown p k inCatch →
    c.scanData = some k ∧ (inCatch = true → early p = true)

/-- The calls of a run, their contexts and what has been called for them. -/
structure Sequenced (tr : List (Impl × ScannerEvent × Impl)) (s : Impl) : Prop where
  sole : Sole s
  owner : s.scanning = true →
    ∃ i c, s.calls i = some c ∧ inside c = true ∧ c.announced = true
  calls : ∀ i c, s.calls i = some c → CallSound s c
  owned : ∀ i c k, s.calls i = some c → c.scanData = some k → k < s.contexts.next
  distinct : ∀ i j c d k, s.calls i = some c → s.calls j = some d → c.scanData = some k →
    d.scanData = some k → i = j
  stores : ∀ j pc k new, s.discoveries j = some pc → pc = .locking k new ∨ pc = .storing k new →
    new ≠ .shuttingDown
  log : ∀ i c, s.calls i = some c → callLog i tr = due c
  unborn : ∀ i, s.calls i = none → callLog i tr = []

/-- A context that a step leaves alone, as far as its life and its state go. -/
structure SameContext (s t : Impl) (k : Nat) : Prop where
  alive : (t.contexts.cell k).isSome = (s.contexts.cell k).isSome
  state : stateOf t k = stateOf s k

section

variable {s t x : Impl} {i j k : Nat} {c c' d : Call} {e : ScannerEvent}
  {tr : List (Impl × ScannerEvent × Impl)}

theorem sameContext_refl (s : Impl) (k : Nat) : SameContext s s k := ⟨rfl, rfl⟩

/-- A write that keeps the state of the context it writes to. -/
theorem write_same {f : ScanContext → ScanContext} (hf : ∀ ctx, (f ctx).state = ctx.state)
    (k j : Nat) : SameContext s (writeContext s k f) j := by
  constructor
  · rw [writeContext, modify_cell]
    split
    · next h => rw [h, Option.isSome_map]
    · rfl
  · rw [stateOf, writeContext, modify_map s.contexts k j hf, stateOf]

theorem store_other (hne : j ≠ k) (new : ScanState) : SameContext s (storeState s k new) j := by
  have hcell : (storeState s k new).contexts.cell j = s.contexts.cell j := modify_ne _ _ hne
  exact ⟨by rw [hcell], by rw [stateOf, hcell, stateOf]⟩

theorem store_state (hk : (s.contexts.cell k).isSome = true) (new : ScanState) :
    ((storeState s k new).contexts.cell k).isSome = true ∧
      stateOf (storeState s k new) k = new := by
  obtain ⟨ctx, hctx⟩ := Option.isSome_iff_exists.mp hk
  have hcell : (storeState s k new).contexts.cell k = some { ctx with state := new } := by
    rw [storeState, writeContext, modify_self, hctx]
    rfl
  rw [stateOf, hcell]
  exact ⟨rfl, rfl⟩

/-- A context that has been deleted is not marked. -/
theorem store_unmarked {new : ScanState} (hnew : new ≠ .shuttingDown) :
    stateOf (storeState s k new) k ≠ .shuttingDown := by
  cases hk : (s.contexts.cell k).isSome with
  | true =>
    rw [(store_state hk new).2]
    exact hnew
  | false =>
    rw [stateOf, storeState, writeContext, modify_self,
      Option.isNone_iff_eq_none.mp (Option.isSome_eq_false_iff.mp hk)]
    exact fun h : ScanState.idle = .shuttingDown => ScanState.noConfusion h

theorem holds_same {b : Bool} (h : Holds s k b) (hsame : SameContext s t k) : Holds t k b := by
  refine ⟨?_, ?_⟩
  · rw [hsame.alive]
    exact h.alive
  · rw [hsame.state]
    exact h.state

theorem holds_unmarked (hk : (s.contexts.cell k).isSome = true) (hs : stateOf s k ≠ .shuttingDown) :
    Holds s k false :=
  ⟨hk, fun h => absurd h hs, fun h => by cases h⟩

theorem holds_marked (hk : (s.contexts.cell k).isSome = true) (hs : stateOf s k = .shuttingDown) :
    Holds s k true :=
  ⟨hk, fun _ => rfl, fun _ => hs⟩

theorem callSound_same (h : CallSound s c) (hsame : ∀ k, c.scanData = some k → SameContext s t k) :
    CallSound t c := by
  refine ⟨h.enabled, h.announced, fun b hb => ?_, h.shutdown⟩
  obtain ⟨k, hk, hheld⟩ := h.context b hb
  exact ⟨k, hk, holds_same hheld (hsame k hk)⟩

/-- A step of one call. The other calls keep their contexts, and nothing is called for them. -/
theorem sequenced_moved (h : Sequenced tr s) (hc : s.calls i = some c)
    (ht : t.calls = Function.update s.calls i (some c')) (hsole : Sole t)
    (howner : t.scanning = true → (s.scanning = true ∧
      (inside c = true → c.announced = true → inside c' = true ∧ c'.announced = true)) ∨
      (inside c' = true ∧ c'.announced = true))
    (hother : ∀ k, c.scanData ≠ some k → k < s.contexts.next → SameContext s t k)
    (hnext : s.contexts.next ≤ t.contexts.next)
    (hdata : ∀ k, c'.scanData = some k → c.scanData = some k ∨
      (k = s.contexts.next ∧ k < t.contexts.next))
    (hok : CallSound t c') (hd : t.discoveries = s.discoveries)
    (hlog : due c' = due c ++ adapterCalls s i e)
    (helse : ∀ j, j ≠ i → adapterCalls s j e = []) : Sequenced ((s, e, t) :: tr) t := by
  have hne : ∀ j, j ≠ i → t.calls j = s.calls j := fun j hj => by
    rw [ht, Function.update_of_ne hj]
  have hself : t.calls i = some c' := by rw [ht, Function.update_self]
  have howned : ∀ j d k, t.calls j = some d → d.scanData = some k → k < t.contexts.next := by
    intro j d k hj hk
    rw [ht] at hj
    rcases update_some hj with ⟨_, rfl⟩ | ⟨_, hold⟩
    · rcases hdata k hk with hk | ⟨_, hk⟩
      · exact Nat.lt_of_lt_of_le (h.owned i c k hc hk) hnext
      · exact hk
    · exact Nat.lt_of_lt_of_le (h.owned j d k hold hk) hnext
  -- a call and the one that has moved have no context in common
  have hapart : ∀ j d k, j ≠ i → s.calls j = some d → d.scanData = some k →
      c'.scanData ≠ some k := by
    intro j d k hj hold hk hk'
    rcases hdata k hk' with hk' | ⟨rfl, _⟩
    · exact hj (h.distinct j i d c k hold hc hk hk')
    · exact Nat.lt_irrefl _ (h.owned j d _ hold hk)
  refine ⟨hsole, fun hs => ?_, fun j d hj => ?_, howned, fun j l d d' k hj hl hk hk' => ?_, ?_,
    fun j d hj => ?_, fun j hj => ?_⟩
  · rcases howner hs with ⟨hscan, hkeep⟩ | hown
    · obtain ⟨j, d, hj, hin, ha⟩ := h.owner hscan
      by_cases hji : j = i
      · subst j
        rw [hc] at hj
        cases hj
        exact ⟨i, c', hself, hkeep hin ha⟩
      · exact ⟨j, d, (hne j hji).trans hj, hin, ha⟩
    · exact ⟨i, c', hself, hown⟩
  · rw [ht] at hj
    rcases update_some hj with ⟨_, rfl⟩ | ⟨hji, hold⟩
    · exact hok
    · refine callSound_same (h.calls j d hold) (fun k hk => hother k (fun hk' => ?_)
        (h.owned j d k hold hk))
      exact hji (h.distinct j i d c k hold hc hk hk')
  · rw [ht] at hj hl
    rcases update_some hj with ⟨rfl, rfl⟩ | ⟨hji, hold⟩
    · rcases update_some hl with ⟨hli, _⟩ | ⟨hli, hold'⟩
      · exact hli.symm
      · exact absurd hk (hapart l d' k hli hold' hk')
    · rcases update_some hl with ⟨rfl, rfl⟩ | ⟨hli, hold'⟩
      · exact absurd hk' (hapart j d k hji hold hk)
      · exact h.distinct j l d d' k hold hold' hk hk'
  · rw [hd]
    exact h.stores
  · rw [ht] at hj
    rcases update_some hj with ⟨rfl, rfl⟩ | ⟨hji, hold⟩
    · rw [callLog, h.log _ c hc, hlog]
    · rw [callLog, h.log j d hold, helse j hji, List.append_nil]
  · by_cases hji : j = i
    · subst j
      rw [hself] at hj
      cases hj
    · rw [hne j hji] at hj
      rw [callLog, h.unborn j hj, helse j hji, List.append_nil]

/-- A step of one call that touches neither `m_scanning` nor a context. -/
theorem sequenced_on (h : Sequenced tr s) (hc : s.calls i = some c)
    (ht : t.calls = Function.update s.calls i (some c')) (hsole : Sole t)
    (hscan : t.scanning = s.scanning) (hctx : t.contexts = s.contexts)
    (hd : t.discoveries = s.discoveries)
    (hin : inside c = true → c.announced = true → inside c' = true)
    (ha : c'.announced = c.announced) (hdata : c'.scanData = c.scanData) (hok : CallSound s c')
    (hlog : due c' = due c ++ adapterCalls s i e)
    (helse : ∀ j, j ≠ i → adapterCalls s j e = []) : Sequenced ((s, e, t) :: tr) t := by
  have hsame : ∀ k, SameContext s t k := fun k => ⟨by rw [hctx], by rw [stateOf, hctx, stateOf]⟩
  refine sequenced_moved h hc ht hsole (fun hs => Or.inl ⟨hscan ▸ hs, fun hi hann => ?_⟩)
    (fun k _ _ => hsame k) (Nat.le_of_eq (congrArg Heap.next hctx).symm) (fun k hk => Or.inl (hdata ▸ hk))
    (callSound_same hok (fun k _ => hsame k)) hd hlog helse
  exact ⟨hin hi hann, ha.trans hann⟩

theorem due_same (he : c'.enabled = c.enabled)
    (hd : c.enabled = true → disabled c'.pc = disabled c.pc) : due c' = due c := by
  unfold due
  rw [he]
  split
  · next hon => rw [hd hon]
  · rfl

/-- A call that has not enabled its scan moves to another such place. -/
theorem callSound_before {pc : CallPc} (h : CallSound s c) (hr : reached c.pc = some false)
    (hne : c.pc ≠ .enabling) (hr' : reached pc = some false ∨ pc = .ended) (hne' : pc ≠ .enabling)
    (hctx : ∀ b, relies pc = some b → ∃ k, c.scanData = some k ∧ Holds s k b)
    (hshut : ∀ p k inCatch, pc = .shutdown p k inCatch →
      c.scanData = some k ∧ (inCatch = true → early p = true))
    (m : MonitorPc) (r : Option ScanResult) :
    CallSound s { c with pc := pc, monitor := m, result := r } := by
  have hoff := h.enabled false hr
  refine ⟨fun b hb => ?_, ?_, hctx, hshut⟩
  · rcases hr' with hr' | rfl
    · rw [hr'] at hb
      cases hb
      exact hoff
    · cases hb
  · rw [h.announced, hoff, decide_eq_false hne, decide_eq_false hne']

/-- A call that has enabled its scan moves to another such place. -/
theorem callSound_after {pc : CallPc} (h : CallSound s c) (hr : reached c.pc = some true)
    (hr' : reached pc = some true ∨ pc = .ended) (hne' : pc ≠ .enabling)
    (hctx : ∀ b, relies pc = some b → ∃ k, c.scanData = some k ∧ Holds s k b)
    (hshut : ∀ p k inCatch, pc = .shutdown p k inCatch →
      c.scanData = some k ∧ (inCatch = true → early p = true))
    (r : Option ScanResult) (n : Ret) :
    CallSound s { c with pc := pc, result := r, scanReturnCode := n } := by
  have hon := h.enabled true hr
  have hne : c.pc ≠ .enabling := by
    intro he
    rw [he] at hr
    cases hr
  refine ⟨fun b hb => ?_, ?_, hctx, hshut⟩
  · rcases hr' with hr' | rfl
    · rw [hr'] at hb
      cases hb
      exact hon
    · cases hb
  · rw [h.announced, hon, decide_eq_false hne, decide_eq_false hne']

/-- The same as a step: nothing is called for the call, and no scan of its is announced. -/
theorem sequenced_before {pc : CallPc} {m : MonitorPc} {r : Option ScanResult}
    (h : Sequenced tr s) (hc : s.calls i = some c)
    (ht : t.calls = Function.update s.calls i
      (some { c with pc := pc, monitor := m, result := r }))
    (hsole : Sole t) (hscan : t.scanning = s.scanning) (hsame : t.contexts = s.contexts)
    (hd : t.discoveries = s.discoveries) (hr : reached c.pc = some false)
    (hne : c.pc ≠ .enabling) (hr' : reached pc = some false ∨ pc = .ended) (hne' : pc ≠ .enabling)
    (hctx : ∀ b, relies pc = some b → ∃ k, c.scanData = some k ∧ Holds s k b)
    (hshut : ∀ p k inCatch, pc = .shutdown p k inCatch →
      c.scanData = some k ∧ (inCatch = true → early p = true))
    (hlog : ∀ j, adapterCalls s j e = []) : Sequenced ((s, e, t) :: tr) t := by
  have hok := h.calls i c hc
  have hoff := hok.enabled false hr
  refine sequenced_on h hc ht hsole hscan hsame hd (fun _ ha => ?_) rfl rfl
    (callSound_before hok hr hne hr' hne' hctx hshut m r) ?_ (fun j _ => hlog j)
  · rw [hok.announced, hoff, decide_eq_false hne] at ha
    cases ha
  · rw [hlog i, List.append_nil]
    refine due_same rfl (fun hon => ?_)
    rw [hoff] at hon
    cases hon

/-! The calls up to `adapterScanEnable` -/

theorem sequenced_begun (h : Sequenced tr s) {timeoutSec : Nat}
    {address : Option Strings.CString} {custom : Bool} :
    Sequenced ((s, .scan timeoutSec address custom, { setCall s s.nextCall
        { timeoutSec := timeoutSec, deviceAddress := address, custom := custom } with
        nextCall := s.nextCall + 1 }) :: tr)
      { setCall s s.nextCall
        { timeoutSec := timeoutSec, deviceAddress := address, custom := custom } with
        nextCall := s.nextCall + 1 } := by
  have hnone : s.calls s.nextCall = none := by
    by_contra hsome
    obtain ⟨d, hd⟩ := Option.ne_none_iff_exists'.mp hsome
    exact Nat.lt_irrefl _ (h.sole.fresh _ d hd)
  refine ⟨sole_begun h.sole, fun hs => ?_, fun j d hj => ?_, fun j d k hj hk => ?_,
    fun j l d d' k hj hl hk hk' => ?_, h.stores, fun j d hj => ?_, fun j hj => ?_⟩
  · obtain ⟨j, d, hj, hown⟩ := h.owner hs
    refine ⟨j, d, ?_, hown⟩
    exact (Function.update_of_ne (Nat.ne_of_lt (h.sole.fresh j d hj)) ..).trans hj
  · rcases update_some hj with ⟨_, rfl⟩ | ⟨_, hold⟩
    · refine ⟨fun b hb => ?_, rfl, fun b hb => ?_, fun p k inCatch hp => ?_⟩
      · cases hb
        rfl
      · cases hb
      · cases hp
    · exact callSound_same (h.calls j d hold) (fun k _ => ⟨rfl, rfl⟩)
  · rcases update_some hj with ⟨_, rfl⟩ | ⟨_, hold⟩
    · cases hk
    · exact h.owned j d k hold hk
  · rcases update_some hj with ⟨_, rfl⟩ | ⟨_, hold⟩
    · cases hk
    · rcases update_some hl with ⟨_, rfl⟩ | ⟨_, hold'⟩
      · cases hk'
      · exact h.distinct j l d d' k hold hold' hk hk'
  · rcases update_some hj with ⟨rfl, rfl⟩ | ⟨_, hold⟩
    · exact (List.append_nil _).trans (h.unborn _ hnone)
    · exact (List.append_nil _).trans (h.log j d hold)
  · refine (List.append_nil _).trans (h.unborn j ?_)
    by_cases hjn : j = s.nextCall
    · exact hjn ▸ hnone
    · exact (Function.update_of_ne hjn ..).symm.trans hj

theorem sequenced_check (h : Sequenced tr s) (hc : s.calls i = some c) (hpc : c.pc = .checking)
    (hsole : Sole (scanCheck s i c)) :
    Sequenced ((s, .check i, scanCheck s i c) :: tr) (scanCheck s i c) := by
  have hr : reached c.pc = some false := by rw [hpc, reached]
  have hne : c.pc ≠ .enabling := by
    rw [hpc]
    exact fun he => CallPc.noConfusion he
  have hend : ∀ ret, Sole (setCall s i { c with pc := .ended, result := some (.returned ret) }) →
      Sequenced ((s, .check i, setCall s i { c with pc := .ended, result := some (.returned ret) })
        :: tr) (setCall s i { c with pc := .ended, result := some (.returned ret) }) := by
    intro ret hsole
    exact sequenced_before h hc rfl hsole rfl rfl rfl hr hne (Or.inr rfl)
      (fun he => CallPc.noConfusion he) (fun b hb => by cases hb)
      (fun p k inCatch hp => CallPc.noConfusion hp) (fun _ => rfl)
  unfold scanCheck at hsole ⊢
  split at hsole
  · next hscan =>
    rw [if_pos hscan]
    exact hend _ hsole
  · next hscan =>
    rw [if_neg hscan]
    split at hsole
    · next hz =>
      rw [if_pos hz]
      exact hend _ hsole
    · next hz =>
      rw [if_neg hz]
      exact sequenced_before h hc rfl hsole rfl rfl rfl hr hne (Or.inl rfl)
        (fun he => CallPc.noConfusion he) (fun b hb => by cases hb)
        (fun p k inCatch hp => CallPc.noConfusion hp) (fun _ => rfl)

/-- A context that has just been allocated. -/
theorem sequenced_allocated {pc : CallPc} {ctx : ScanContext} (h : Sequenced tr s)
    (hc : s.calls i = some c) (hpc : c.pc = .preparing)
    (ht : t = { setCall s i { c with pc := pc, scanData := some s.contexts.next } with
      contexts := alloc s.contexts ctx })
    (hstate : ctx.state ≠ .shuttingDown) (hsole : Sole t)
    (hpc' : pc = .launching ∨ pc = .leaving true) (hlog : ∀ j, adapterCalls s j e = []) :
    Sequenced ((s, e, t) :: tr) t := by
  subst t
  have hok := h.calls i c hc
  have hoff := hok.enabled false (by rw [hpc, reached])
  have hann : c.announced = false := by
    rw [hok.announced, hoff, hpc]
    rfl
  have hheld : ∀ x : Impl, x.contexts = alloc s.contexts ctx → Holds x s.contexts.next false := by
    intro x hx
    refine holds_unmarked ?_ ?_
    · rw [hx, alloc_self]
      rfl
    · rw [stateOf, hx, alloc_self]
      exact hstate
  refine sequenced_moved h hc rfl hsole (fun hs => Or.inl ⟨hs, fun _ ha => ?_⟩) (fun k _ hk => ?_)
    (Nat.le_succ _) (fun k hk => ?_) ⟨fun b hb => ?_, ?_, fun b hb => ?_, fun p k b hp => ?_⟩ rfl
    ?_ (fun j _ => hlog j)
  · rw [hann] at ha
    cases ha
  · have hcell := alloc_ne s.contexts ctx (Nat.ne_of_lt hk)
    exact ⟨congrArg Option.isSome hcell,
      congrArg (fun o => (o.map ScanContext.state).getD .idle) hcell⟩
  · cases hk
    exact Or.inr ⟨rfl, Nat.lt_succ_self _⟩
  · rcases hpc' with rfl | rfl
    · cases hb
      exact hoff
    · cases hb
      exact hoff
  · rcases hpc' with rfl | rfl
    · exact hann.trans (by rw [hoff]; rfl)
    · exact hann.trans (by rw [hoff]; rfl)
  · rcases hpc' with rfl | rfl
    · cases hb
      exact ⟨_, rfl, hheld _ rfl⟩
    · cases hb
  · rcases hpc' with rfl | rfl
    · cases hp
    · cases hp
  · rw [hlog i, List.append_nil]
    refine due_same rfl (fun hon => ?_)
    rw [hoff] at hon
    cases hon

theorem sequenced_prepare {o : Prepared} (h : Sequenced tr s) (hc : s.calls i = some c)
    (hpc : c.pc = .preparing) (hsole : Sole (scanPrepare s i c o)) :
    Sequenced ((s, .prepare i o, scanPrepare s i c o) :: tr) (scanPrepare s i c o) := by
  cases o with
  | noMemory =>
    refine sequenced_before h hc rfl hsole rfl rfl rfl (by rw [hpc, reached]) ?_ (Or.inl rfl)
      (fun he => CallPc.noConfusion he) (fun b hb => by cases hb)
      (fun p k inCatch hp => CallPc.noConfusion hp) (fun _ => rfl)
    rw [hpc]
    exact fun he => CallPc.noConfusion he
  | noFilter =>
    exact sequenced_allocated h hc hpc rfl (fun hs => ScanState.noConfusion hs) hsole (Or.inr rfl)
      (fun _ => rfl)
  | complete =>
    exact sequenced_allocated h hc hpc rfl (fun hs => ScanState.noConfusion hs) hsole (Or.inl rfl)
      (fun _ => rfl)

theorem sequenced_launch {starts : Bool} (h : Sequenced tr s) (hc : s.calls i = some c)
    (hpc : c.pc = .launching) (hsole : Sole (scanLaunch s i c starts)) :
    Sequenced ((s, .launch i starts, scanLaunch s i c starts) :: tr) (scanLaunch s i c starts) := by
  have hr : reached c.pc = some false := by rw [hpc, reached]
  have hne : c.pc ≠ .enabling := by
    rw [hpc]
    exact fun he => CallPc.noConfusion he
  have hctx := (h.calls i c hc).context false (by rw [hpc, relies])
  cases starts with
  | true =>
    refine sequenced_before h hc rfl hsole rfl rfl rfl hr hne (Or.inl rfl)
      (fun he => CallPc.noConfusion he) (fun b hb => ?_)
      (fun p k inCatch hp => CallPc.noConfusion hp) (fun _ => rfl)
    cases hb
    exact hctx
  | false =>
    exact sequenced_before h hc rfl hsole rfl rfl rfl hr hne (Or.inl rfl)
      (fun he => CallPc.noConfusion he) (fun b hb => by cases hb)
      (fun p k inCatch hp => CallPc.noConfusion hp) (fun _ => rfl)

theorem sequenced_announce (h : Sequenced tr s) (hc : s.calls i = some c)
    (hpc : c.pc = .announcing) (hsole : Sole (scanAnnounce s i c)) :
    Sequenced ((s, .announce i, scanAnnounce s i c) :: tr) (scanAnnounce s i c) := by
  have hok := h.calls i c hc
  have hoff := hok.enabled false (by rw [hpc, reached])
  refine sequenced_moved h hc rfl hsole (fun _ => Or.inr ⟨rfl, rfl⟩) (fun k _ _ => ⟨rfl, rfl⟩)
    (Nat.le_refl _) (fun k hk => Or.inl hk)
    ⟨fun b hb => ?_, ?_, fun b hb => ?_, fun p k b hp => CallPc.noConfusion hp⟩ rfl ?_
    (fun _ _ => rfl)
  · cases hb
    exact hoff
  · exact (Bool.or_true c.enabled).symm
  · cases hb
    obtain ⟨k, hk, hheld⟩ := hok.context false (by rw [hpc, relies])
    exact ⟨k, hk, hheld.alive, hheld.state⟩
  · have hlog : adapterCalls s i (.announce i) = [] := rfl
    rw [hlog, List.append_nil]
    refine due_same rfl (fun hon => ?_)
    rw [hoff] at hon
    cases hon

theorem sequenced_enable {stores : Bool} (h : Sequenced tr s) (hc : s.calls i = some c)
    (hpc : c.pc = .enabling) (hsole : Sole (scanEnable s i c stores)) :
    Sequenced ((s, .enable i stores, scanEnable s i c stores) :: tr) (scanEnable s i c stores) := by
  have hok := h.calls i c hc
  have hoff := hok.enabled false (by rw [hpc, reached])
  have hann : c.announced = true := by
    rw [hok.announced, hoff, hpc]
    rfl
  refine sequenced_on h hc rfl hsole rfl rfl rfl (fun _ _ => rfl) rfl rfl
    ⟨fun b hb => ?_, hann, fun b hb => ?_, fun p k b hp => CallPc.noConfusion hp⟩ ?_
    (fun j hj => if_neg (Ne.symm hj))
  · cases hb
    rfl
  · cases hb
    exact hok.context false (by rw [hpc, relies])
  · have hnone : due c = [] := by
      rw [due, hoff]
      rfl
    rw [hnone, adapterCalls, if_pos rfl]
    rfl

/-! The calls after `adapterScanEnable` -/

/-- A call moves on from a place after `adapterScanEnable`, and nothing is called. -/
theorem sequenced_after {pc : CallPc} {r : Option ScanResult} {n : Ret} (h : Sequenced tr s)
    (hc : s.calls i = some c)
    (ht : t.calls = Function.update s.calls i
      (some { c with pc := pc, result := r, scanReturnCode := n }))
    (hsole : Sole t) (hscan : t.scanning = s.scanning) (hsame : t.contexts = s.contexts)
    (hd : t.discoveries = s.discoveries) (hr : reached c.pc = some true)
    (hr' : reached pc = some true ∨ pc = .ended) (hin : inside c = true →
      inside { c with pc := pc, result := r, scanReturnCode := n } = true)
    (hdis : disabled pc = disabled c.pc) (hne' : pc ≠ .enabling)
    (hctx : ∀ b, relies pc = some b → ∃ k, c.scanData = some k ∧ Holds s k b)
    (hshut : ∀ p k inCatch, pc = .shutdown p k inCatch →
      c.scanData = some k ∧ (inCatch = true → early p = true))
    (hlog : ∀ j, adapterCalls s j e = []) : Sequenced ((s, e, t) :: tr) t := by
  refine sequenced_on h hc ht hsole hscan hsame hd (fun hi _ => hin hi) rfl rfl
    (callSound_after (h.calls i c hc) hr hr' hne' hctx hshut r n) ?_ (fun j _ => hlog j)
  rw [hlog i, List.append_nil]
  exact due_same rfl (fun _ => hdis)

theorem sequenced_enabled {ret : Ret} (h : Sequenced tr s) (hc : s.calls i = some c)
    (hpc : c.pc = .enabled) (hsole : Sole (scanEnabled s i c ret)) :
    Sequenced ((s, .enabled i ret, scanEnabled s i c ret) :: tr) (scanEnabled s i c ret) := by
  have hr : reached c.pc = some true := by rw [hpc, reached]
  have hdis : disabled c.pc = false := by
    rw [hpc]
    rfl
  have hctx := (h.calls i c hc).context false (by rw [hpc, relies])
  unfold scanEnabled at hsole ⊢
  split at hsole
  · next hret =>
    rw [if_pos hret]
    refine sequenced_after h hc rfl hsole rfl rfl rfl hr (Or.inl rfl) (fun _ => rfl) hdis.symm
      (fun he => CallPc.noConfusion he) (fun b hb => ?_)
      (fun p k inCatch hp => CallPc.noConfusion hp) (fun _ => rfl)
    cases hb
    exact hctx
  · next hret =>
    rw [if_neg hret]
    refine sequenced_after h hc rfl hsole rfl rfl rfl hr (Or.inl rfl) (fun _ => rfl) hdis.symm
      (fun he => CallPc.noConfusion he) (fun b hb => ?_)
      (fun p k inCatch hp => CallPc.noConfusion hp) (fun _ => rfl)
    cases hb
    exact hctx

/-- A call stores a state into its own context. -/
theorem sequenced_stored {pc : CallPc} {new : ScanState} (h : Sequenced tr s)
    (hc : s.calls i = some c) (hk : c.scanData = some k)
    (hsole : Sole (setCall (storeState s k new) i { c with pc := pc }))
    (hr : reached pc = reached c.pc) (hin : inside c = true → inside { c with pc := pc } = true)
    (hdis : disabled pc = disabled c.pc) (hne : c.pc ≠ .enabling) (hne' : pc ≠ .enabling)
    (hctx : ∀ b, relies pc = some b → Holds (storeState s k new) k b)
    (hshut : ∀ p j inCatch, pc = .shutdown p j inCatch →
      j = k ∧ (inCatch = true → early p = true))
    (hlog : ∀ j, adapterCalls s j e = []) :
    Sequenced ((s, e, setCall (storeState s k new) i { c with pc := pc }) :: tr)
      (setCall (storeState s k new) i { c with pc := pc }) := by
  have hok := h.calls i c hc
  refine sequenced_moved h hc rfl hsole (fun hs => Or.inl ⟨hs, fun hi ha => ⟨hin hi, ha⟩⟩)
    (fun j hj _ => ?_) (Nat.le_refl _) (fun j hj => Or.inl hj)
    ⟨fun b hb => ?_, ?_, fun b hb => ?_, fun p j inCatch hp => ?_⟩ rfl ?_ (fun j _ => hlog j)
  · have hne : j ≠ k := fun he => hj (he ▸ hk)
    exact ⟨(store_other hne new).alive, (store_other hne new).state⟩
  · exact hok.enabled b (hr.symm.trans hb)
  · rw [hok.announced, decide_eq_false hne, decide_eq_false hne']
  · exact ⟨k, hk, (hctx b hb).alive, (hctx b hb).state⟩
  · obtain ⟨rfl, hearly⟩ := hshut p j inCatch hp
    exact ⟨hk, hearly⟩
  · rw [hlog i, List.append_nil]
    exact due_same rfl (fun _ => hdis)

theorem sequenced_fail (h : Sequenced tr s) (hc : s.calls i = some c) (hpc : c.pc = .failing)
    (hsole : Sole (scanFail s i c)) :
    Sequenced ((s, .fail i, scanFail s i c) :: tr) (scanFail s i c) := by
  obtain ⟨k, hk, hheld⟩ := (h.calls i c hc).context false (by rw [hpc, relies])
  have hfail : scanFail s i c =
      setCall (storeState s k .failed) i { c with pc := .shutdown .looking k false } := by
    simp only [scanFail, enterShutdown, hk]
  rw [hfail] at hsole ⊢
  refine sequenced_stored h hc hk hsole (by rw [hpc, reached, reached]; rfl) (fun _ => rfl)
    (by rw [hpc]; rfl) ?_ (fun he => CallPc.noConfusion he) (fun b hb => ?_)
    (fun p j inCatch hp => ?_) (fun _ => rfl)
  · rw [hpc]
    exact fun he => CallPc.noConfusion he
  · cases hb
    exact holds_unmarked (store_state hheld.alive _).1
      (store_unmarked (fun he => ScanState.noConfusion he))
  · cases hp
    exact ⟨rfl, fun hb => by cases hb⟩

/-- A call that has enabled its scan enters `shutdown`. -/
theorem sequenced_enter {n : Ret} (h : Sequenced tr s) (hc : s.calls i = some c)
    (hpc : c.pc = .waiting)
    (hsole : Sole (enterShutdown s i { c with scanReturnCode := n } false))
    (hlog : ∀ j, adapterCalls s j e = []) :
    Sequenced ((s, e, enterShutdown s i { c with scanReturnCode := n } false) :: tr)
      (enterShutdown s i { c with scanReturnCode := n } false) := by
  obtain ⟨k, hk, hheld⟩ := (h.calls i c hc).context false (by rw [hpc, relies])
  have henter : enterShutdown s i { c with scanReturnCode := n } false =
      setCall s i { c with pc := .shutdown .looking k false, scanReturnCode := n } := by
    simp only [enterShutdown, hk]
  rw [henter] at hsole ⊢
  refine sequenced_after h hc rfl hsole rfl rfl rfl (by rw [hpc, reached]) (Or.inl rfl)
    (fun _ => rfl) (by rw [hpc]; rfl) (fun he => CallPc.noConfusion he) (fun b hb => ?_)
    (fun p j inCatch hp => ?_) hlog
  · cases hb
    exact ⟨k, hk, hheld⟩
  · cases hp
    exact ⟨hk, fun hb => by cases hb⟩

theorem sequenced_wait {expired : Bool} (h : Sequenced tr s) (hc : s.calls i = some c)
    (hpc : c.pc = .waiting) (hs : scanWait s i c expired = some t) (hsole : Sole t) :
    Sequenced ((s, .wait i expired, t) :: tr) t := by
  unfold scanWait at hs
  split at hs
  · cases hs
  · simp only [Option.ite_none_right_eq_some] at hs
    obtain ⟨_, hs⟩ := hs
    split at hs
    · cases hs
      exact sequenced_enter h hc hpc hsole (fun _ => rfl)
    · simp only [Option.ite_none_right_eq_some] at hs
      obtain ⟨_, hs⟩ := hs
      cases hs
      exact sequenced_enter h hc hpc hsole (fun _ => rfl)

theorem sequenced_leave {thrown : Bool} (h : Sequenced tr s) (hc : s.calls i = some c)
    (hpc : c.pc = .leaving thrown) (hs : scanLeave s i c thrown = some t) (hsole : Sole t) :
    Sequenced ((s, .leave i, t) :: tr) t := by
  simp only [scanLeave, Option.ite_none_right_eq_some] at hs
  obtain ⟨_, hs⟩ := hs
  have hne : c.pc ≠ .enabling := by
    rw [hpc]
    exact fun he => CallPc.noConfusion he
  cases thrown with
  | true =>
    have hr : reached c.pc = some false := by rw [hpc]; rfl
    cases hs
    unfold enterShutdown at hsole ⊢
    split at hsole
    · exact sequenced_before h hc rfl hsole rfl rfl rfl hr hne (Or.inr rfl)
        (fun he => CallPc.noConfusion he) (fun b hb => by cases hb)
        (fun p k inCatch hp => CallPc.noConfusion hp) (fun _ => rfl)
    · next k hk =>
      refine sequenced_before h hc rfl hsole rfl rfl rfl hr hne (Or.inl rfl)
        (fun he => CallPc.noConfusion he) (fun b hb => by cases hb) (fun p j inCatch hp => ?_)
        (fun _ => rfl)
      cases hp
      exact ⟨hk, fun _ => rfl⟩
  | false =>
    cases hs
    refine sequenced_after h hc rfl hsole rfl rfl rfl (by rw [hpc]; rfl) (Or.inr rfl)
      (fun hi => ?_) (by rw [hpc]; rfl) (fun he => CallPc.noConfusion he) (fun b hb => by cases hb)
      (fun p k inCatch hp => CallPc.noConfusion hp) (fun _ => rfl)
    rw [inside, hpc] at hi
    cases hi

/-! `shutdown` -/

theorem adapterCalls_part {p : ShutdownPc} {inCatch : Bool} (hc : s.calls i = some c)
    (hpc : c.pc = .shutdown p k inCatch) (hp : p ≠ .disabling) (o : ShutdownOutcome) (j : Nat) :
    adapterCalls s j (.shutdown i o) = [] := by
  rw [adapterCalls]
  split
  · next he =>
    subst he
    rw [hc, Option.map_some, hpc]
    cases p with
    | disabling => exact absurd rfl hp
    | looking | locking | marking | testing | stopping | cleaning | deleting | clearing => rfl
  · rfl

/-- A part of `shutdown` that leads to the next one. -/
theorem sequenced_part {p q : ShutdownPc} {inCatch : Bool} {o : ShutdownOutcome}
    (h : Sequenced tr s) (hc : s.calls i = some c) (hpc : c.pc = .shutdown p k inCatch)
    (ht : t.calls = Function.update s.calls i (some { c with pc := .shutdown q k inCatch }))
    (hsole : Sole t) (hscan : t.scanning = s.scanning) (hsame : t.contexts = s.contexts)
    (hd : t.discoveries = s.discoveries) (hp : p ≠ .disabling)
    (hdis : disabled (.shutdown q k inCatch) = disabled (.shutdown p k inCatch))
    (hctx : ∀ b, relies (.shutdown q k inCatch) = some b → Holds s k b)
    (hearly : inCatch = true → early q = true) : Sequenced ((s, .shutdown i o, t) :: tr) t := by
  obtain ⟨hk, _⟩ := (h.calls i c hc).shutdown p k inCatch hpc
  have hlog := adapterCalls_part hc hpc hp o
  have hshut : ∀ p' j b, CallPc.shutdown q k inCatch = .shutdown p' j b →
      c.scanData = some j ∧ (b = true → early p' = true) := by
    intro p' j b hq
    cases hq
    exact ⟨hk, hearly⟩
  have hheld : ∀ b, relies (.shutdown q k inCatch) = some b →
      ∃ k, c.scanData = some k ∧ Holds s k b := fun b hb => ⟨k, hk, hctx b hb⟩
  cases inCatch with
  | true =>
    refine sequenced_before h hc ht hsole hscan hsame hd (by rw [hpc]; rfl) ?_ (Or.inl rfl)
      (fun he => CallPc.noConfusion he) hheld hshut hlog
    rw [hpc]
    exact fun he => CallPc.noConfusion he
  | false =>
    exact sequenced_after h hc ht hsole hscan hsame hd (by rw [hpc]; rfl) (Or.inl rfl)
      (fun _ => rfl) (by rw [hpc]; exact hdis) (fun he => CallPc.noConfusion he) hheld hshut hlog

/-- `shutdown` is left in the handler, with an exception from before `adapterScanEnable`. -/
theorem sequenced_caught {p : ShutdownPc} {o : ShutdownOutcome} (h : Sequenced tr s)
    (hc : s.calls i = some c) (hpc : c.pc = .shutdown p k true) (hp : p ≠ .disabling)
    (ht : t.calls = Function.update s.calls i
      (some { c with pc := .ended, result := some .thrown }))
    (hsole : Sole t) (hscan : t.scanning = s.scanning) (hsame : t.contexts = s.contexts)
    (hd : t.discoveries = s.discoveries) : Sequenced ((s, .shutdown i o, t) :: tr) t := by
  refine sequenced_before h hc ht hsole hscan hsame hd (by rw [hpc]; rfl) ?_ (Or.inr rfl)
    (fun he => CallPc.noConfusion he) (fun b hb => by cases hb)
    (fun p k inCatch hp => CallPc.noConfusion hp) (adapterCalls_part hc hpc hp o)
  rw [hpc]
  exact fun he => CallPc.noConfusion he

/-- `m_scanning` is set for a call that has enabled its scan, and only for such a call. -/
theorem scanning_reached {p : ShutdownPc} {inCatch : Bool} (h : Sequenced tr s)
    (hc : s.calls i = some c) (hpc : c.pc = .shutdown p k inCatch) : s.scanning = !inCatch := by
  have hok := h.calls i c hc
  have hin : inside c = true := by rw [inside, hpc]
  have hann : c.announced = !inCatch := by
    rw [hok.announced, hok.enabled _ (by rw [hpc, reached]), hpc]
    exact Bool.or_false _
  cases inCatch with
  | false => exact h.sole.announced i c hc hin hann
  | true =>
    by_contra hon
    obtain ⟨j, d, hj, hind, ha⟩ := h.owner ((Bool.not_eq_false _).mp hon)
    have hji := h.sole.exclusive j i ⟨d, hj, hind⟩ ⟨c, hc, hin⟩
    subst j
    rw [hc] at hj
    cases hj
    rw [hann] at ha
    cases ha

theorem sequenced_disabling {o : ShutdownOutcome} (h : Sequenced tr s) (hc : s.calls i = some c)
    (hpc : c.pc = .shutdown .disabling k false)
    (ht : t = { setCall s i { c with pc := .shutdown .stopping k false } with
      handler := if o.resets then none else s.handler }) (hsole : Sole t) :
    Sequenced ((s, .shutdown i o, t) :: tr) t := by
  subst t
  have hok := h.calls i c hc
  have hon := hok.enabled true (by rw [hpc]; rfl)
  obtain ⟨k', hk', hheld⟩ := hok.context true (by rw [hpc]; rfl)
  refine sequenced_on h hc rfl hsole rfl rfl rfl (fun _ _ => rfl) rfl rfl
    ⟨fun b hb => ?_, ?_, fun b hb => ?_, fun p j b hp => ?_⟩ ?_
    (fun j hj => if_neg (Ne.symm hj))
  · cases hb
    exact hon
  · rw [hok.announced, hon]
    rfl
  · cases hb
    exact ⟨k', hk', hheld⟩
  · cases hp
    exact ⟨(hok.shutdown _ _ _ hpc).1, fun hb => by cases hb⟩
  · have hlog : adapterCalls s i (.shutdown i o) = [.scanDisable, .waitScanStopped] := by
      rw [adapterCalls, if_pos rfl, hc, Option.map_some, hpc]
    have hbefore : due c = [.scanEnable] := by
      rw [due, hon, hpc]
      rfl
    rw [hlog, hbefore, due, hon]
    rfl

theorem sequenced_deleting {o : ShutdownOutcome} (h : Sequenced tr s) (hc : s.calls i = some c)
    (hpc : c.pc = .shutdown .deleting k false)
    (ht : t = { setCall s i { c with pc := .shutdown .clearing k false } with
      contexts := free s.contexts k
      deletes := Function.update s.deletes k (s.deletes k + 1) }) (hsole : Sole t) :
    Sequenced ((s, .shutdown i o, t) :: tr) t := by
  subst t
  have hok := h.calls i c hc
  have hk := (hok.shutdown _ _ _ hpc).1
  have hlog := adapterCalls_part hc hpc (fun he => ShutdownPc.noConfusion he) o
  refine sequenced_moved h hc rfl hsole (fun hs => Or.inl ⟨hs, fun _ ha => ⟨rfl, ha⟩⟩)
    (fun j hj _ => ?_) (Nat.le_refl _) (fun j hj => Or.inl hj)
    ⟨fun b hb => ?_, ?_, (fun b hb => by cases hb), fun p j b hp => ?_⟩ rfl ?_ (fun j _ => hlog j)
  · have hcell := free_ne s.contexts (fun he : j = k => hj (he ▸ hk))
    exact ⟨congrArg Option.isSome hcell,
      congrArg (fun o => (o.map ScanContext.state).getD .idle) hcell⟩
  · cases hb
    exact hok.enabled true (by rw [hpc]; rfl)
  · rw [hok.announced, hpc]
    rfl
  · cases hp
    exact ⟨hk, fun hb => by cases hb⟩
  · rw [hlog i, List.append_nil]
    exact due_same rfl (fun _ => by rw [hpc]; rfl)

theorem sequenced_clearing {o : ShutdownOutcome} (h : Sequenced tr s) (hc : s.calls i = some c)
    (hpc : c.pc = .shutdown .clearing k false)
    (ht : t = { setCall s i { c with pc := .leaving false } with
      scanning := false, shutdownMutex := false }) (hsole : Sole t) :
    Sequenced ((s, .shutdown i o, t) :: tr) t := by
  subst t
  have hok := h.calls i c hc
  have hlog := adapterCalls_part hc hpc (fun he => ShutdownPc.noConfusion he) o
  refine sequenced_moved h hc rfl hsole (fun hs => by cases hs) (fun j _ _ => ⟨rfl, rfl⟩)
    (Nat.le_refl _) (fun j hj => Or.inl hj)
    ⟨fun b hb => ?_, ?_, (fun b hb => by cases hb), fun p j b hp => CallPc.noConfusion hp⟩ rfl ?_
    (fun j _ => hlog j)
  · cases hb
    exact hok.enabled true (by rw [hpc]; rfl)
  · rw [hok.announced, hpc]
    rfl
  · rw [hlog i, List.append_nil]
    exact due_same rfl (fun _ => by rw [hpc]; rfl)

theorem sequenced_shutdown {o : ShutdownOutcome} {p : ShutdownPc} {inCatch : Bool}
    (h : Sequenced tr s) (hc : s.calls i = some c) (hpc : c.pc = .shutdown p k inCatch)
    (hstop : p = .stopping → o.stopThrows = false)
    (hs : shutdownStep s i c k inCatch o p = some t) (hsole : Sole t) :
    Sequenced ((s, .shutdown i o, t) :: tr) t := by
  have hok := h.calls i c hc
  obtain ⟨hk, hearly⟩ := hok.shutdown p k inCatch hpc
  have hheld : ∀ b, relies (.shutdown p k inCatch) = some b → Holds s k b := by
    intro b hb
    obtain ⟨k', hk', hheld⟩ := hok.context b (by rw [hpc]; exact hb)
    rw [hk] at hk'
    cases hk'
    exact hheld
  -- in the handler there is no more to come than the check of `m_scanning`
  have htry : early p = false → inCatch = false := by
    intro hp
    cases inCatch with
    | false => rfl
    | true =>
      rw [hearly rfl] at hp
      cases hp
  cases p with
  | looking =>
    simp only [shutdownStep, Option.ite_none_right_eq_some] at hs
    obtain ⟨_, hs⟩ := hs
    split at hs
    · next hmarked =>
      cases hs
      cases inCatch with
      | true =>
        exact sequenced_caught h hc hpc (fun he => ShutdownPc.noConfusion he) rfl hsole rfl rfl rfl
      | false => cases (hheld false rfl).state.mp hmarked
    · cases hs
      exact sequenced_part h hc hpc rfl hsole rfl rfl rfl (fun he => ShutdownPc.noConfusion he) rfl
        (fun b hb => hheld b (by cases inCatch <;> exact hb)) (fun _ => rfl)
  | locking =>
    simp only [shutdownStep, Option.ite_none_left_eq_some] at hs
    obtain ⟨_, hs⟩ := hs
    cases hs
    exact sequenced_part h hc hpc rfl hsole rfl rfl rfl (fun he => ShutdownPc.noConfusion he) rfl
      (fun b hb => hheld b (by cases inCatch <;> exact hb)) (fun _ => rfl)
  | marking =>
    cases hs
    refine sequenced_stored h hc hk hsole (by rw [hpc]; rfl) (fun _ => rfl) (by rw [hpc]; rfl) ?_
      (fun he => CallPc.noConfusion he) (fun b hb => ?_) (fun p j b hp => ?_)
      (adapterCalls_part hc hpc (fun he => ShutdownPc.noConfusion he) o)
    · rw [hpc]
      exact fun he => CallPc.noConfusion he
    · cases inCatch with
      | true => cases hb
      | false =>
        cases hb
        have halive := (hheld false rfl).alive
        exact holds_marked (store_state halive _).1 (store_state halive _).2
    · cases hp
      exact ⟨rfl, fun _ => rfl⟩
  | testing =>
    have hscan := scanning_reached h hc hpc
    cases inCatch with
    | true =>
      rw [shutdownStep, hscan] at hs
      cases hs
      exact sequenced_caught h hc hpc (fun he => ShutdownPc.noConfusion he) rfl hsole rfl rfl rfl
    | false =>
      rw [shutdownStep, hscan] at hs
      cases hs
      exact sequenced_part h hc hpc rfl hsole rfl rfl rfl (fun he => ShutdownPc.noConfusion he) rfl
        (fun b hb => hheld b hb) (fun hb => by cases hb)
  | disabling =>
    cases htry rfl
    cases hs
    exact sequenced_disabling h hc hpc rfl hsole
  | stopping =>
    cases htry rfl
    rw [shutdownStep, hstop rfl] at hs
    cases hs
    exact sequenced_part h hc hpc rfl hsole rfl rfl rfl (fun he => ShutdownPc.noConfusion he) rfl
      (fun b hb => hheld b hb) (fun hb => by cases hb)
  | cleaning =>
    cases htry rfl
    rw [shutdownStep, if_pos ((hheld true rfl).state.mpr rfl)] at hs
    cases hs
    exact sequenced_part h hc hpc rfl hsole rfl rfl rfl (fun he => ShutdownPc.noConfusion he) rfl
      (fun b hb => by cases hb) (fun hb => by cases hb)
  | deleting =>
    cases htry rfl
    cases hs
    exact sequenced_deleting h hc hpc rfl hsole
  | clearing =>
    cases htry rfl
    cases hs
    exact sequenced_clearing h hc hpc rfl hsole

/-! The threads that store their own state -/

/-- A call keeps what it relies on when another thread stores a state that is not
SHUTTING_DOWN into a context that no shutdown has marked. -/
theorem callSound_stored {new : ScanState} (h : CallSound s c) (hc : s.calls i = some c)
    (hun : Unmarked s k) (hnew : new ≠ .shuttingDown) : CallSound (storeState s k new) c := by
  refine ⟨h.enabled, h.announced, fun b hb => ?_, h.shutdown⟩
  obtain ⟨j, hj, hheld⟩ := h.context b hb
  refine ⟨j, hj, ?_⟩
  by_cases hjk : j = k
  · subst j
    cases b with
    | false => exact holds_unmarked (store_state hheld.alive _).1 (store_unmarked hnew)
    | true =>
      unfold relies at hb
      split at hb
      all_goals try cases hb
      next p l hpc =>
      obtain ⟨hl, _⟩ := h.shutdown p l false hpc
      rw [hj] at hl
      cases hl
      have hp := hun i c p false hc hpc
      cases p with
      | looking | locking | marking | deleting | clearing => cases hb
      | testing | disabling | stopping | cleaning => cases hp
  · exact holds_same hheld (store_other hjk new)

/-- The monitor of a call moves on, and may have written to the context of the call. -/
theorem sequenced_watched {x : Impl} {m : MonitorPc} (h : Sequenced tr s) (hc : s.calls i = some c)
    (hk : c.scanData = some k) (hx : x.calls = s.calls) (hn : x.contexts.next = s.contexts.next)
    (hd : x.discoveries = s.discoveries) (hscan : x.scanning = s.scanning)
    (hother : ∀ j, j ≠ k → SameContext s x j) (hok : CallSound x c)
    (hsole : Sole (setCall x i { c with monitor := m })) (hlog : ∀ j, adapterCalls s j e = []) :
    Sequenced ((s, e, setCall x i { c with monitor := m }) :: tr)
      (setCall x i { c with monitor := m }) := by
  refine sequenced_moved h hc (set_calls hx i _) hsole (fun hs => Or.inl ⟨hscan ▸ hs, ?_⟩)
    (fun j hj _ => ?_) (Nat.le_of_eq hn.symm) (fun j hj => Or.inl hj)
    ⟨hok.enabled, hok.announced, fun b hb => ?_, hok.shutdown⟩ hd ?_ (fun j _ => hlog j)
  · exact fun hi ha => ⟨hi, ha⟩
  · have hsame := hother j (fun he => hj (he ▸ hk))
    exact ⟨hsame.alive, hsame.state⟩
  · obtain ⟨j, hj, hheld⟩ := hok.context b hb
    exact ⟨j, hj, hheld.alive, hheld.state⟩
  · rw [hlog i, List.append_nil]
    rfl

theorem sequenced_monitor (h : Sequenced tr s) (hc : s.calls i = some c)
    (hk : c.scanData = some k) (hun : c.monitor = .storing → Unmarked s k)
    (hs : monitorStep s i c k c.monitor = some t) (hsole : Sole t) :
    Sequenced ((s, .monitor i, t) :: tr) t := by
  have hok := h.calls i c hc
  have hplain : ∀ m, Sole (setCall s i { c with monitor := m }) →
      Sequenced ((s, .monitor i, setCall s i { c with monitor := m }) :: tr)
        (setCall s i { c with monitor := m }) := fun m hsole =>
    sequenced_watched h hc hk rfl rfl rfl rfl (fun j _ => sameContext_refl s j) hok hsole
      (fun _ => rfl)
  cases hm : c.monitor with
  | absent =>
    rw [hm] at hs
    cases hs
  | polling =>
    rw [hm, monitorStep] at hs
    split at hs
    · cases hs
      exact hplain _ hsole
    · cases hs
      exact hplain _ hsole
  | loaded =>
    rw [hm, monitorStep] at hs
    split at hs
    · cases hs
      exact hplain _ hsole
    · cases hs
      exact hplain _ hsole
  | locking =>
    rw [hm] at hs
    simp only [monitorStep, Option.ite_none_right_eq_some] at hs
    obtain ⟨_, hs⟩ := hs
    cases hs
    have hsame := fun j => write_same (s := s) (f := fun ctx => { ctx with locked := true })
      (fun _ => rfl) k j
    exact sequenced_watched h hc hk rfl rfl rfl rfl (fun j _ => hsame j)
      (callSound_same hok (fun j _ => hsame j)) hsole (fun _ => rfl)
  | storing =>
    rw [hm] at hs
    cases hs
    exact sequenced_watched h hc hk rfl rfl rfl rfl (fun j hj => store_other hj _)
      (callSound_stored hok hc (hun hm) (fun he => ScanState.noConfusion he)) hsole (fun _ => rfl)
  | unlocking =>
    rw [hm] at hs
    cases hs
    have hsame := fun j => write_same (s := s) (f := fun ctx => { ctx with locked := false })
      (fun _ => rfl) k j
    exact sequenced_watched h hc hk rfl rfl rfl rfl (fun j _ => hsame j)
      (callSound_same hok (fun j _ => hsame j)) hsole (fun _ => rfl)
  | done =>
    rw [hm] at hs
    cases hs

/-- No call moves, and nothing is called. -/
theorem sequenced_still (h : Sequenced tr s) (hc : t.calls = s.calls) (hsole : Sole t)
    (hscan : t.scanning = s.scanning) (hn : t.contexts.next = s.contexts.next)
    (hok : ∀ i c, s.calls i = some c → CallSound t c)
    (hstores : ∀ j pc k new, t.discoveries j = some pc → pc = .locking k new ∨ pc = .storing k new →
      new ≠ .shuttingDown) (hlog : ∀ j, adapterCalls s j e = []) :
    Sequenced ((s, e, t) :: tr) t := by
  have hkeep : ∀ j, callLog j ((s, e, t) :: tr) = callLog j tr := by
    intro j
    rw [callLog, hlog j, List.append_nil]
  refine ⟨hsole, fun hs => ?_, fun i c hi => ?_, ?_, ?_, hstores, fun i c hi => ?_, fun i hi => ?_⟩
  · rw [hc]
    exact h.owner (hscan ▸ hs)
  · exact hok i c (hc ▸ hi)
  · rw [hc, hn]
    exact h.owned
  · rw [hc]
    exact h.distinct
  · rw [hkeep]
    exact h.log i c (hc ▸ hi)
  · rw [hkeep]
    exact h.unborn i (hc ▸ hi)

/-- A discovered-device thread moves on, and may have written to a context. -/
theorem sequenced_thread {x : Impl} {pc : DiscoveryPc} (h : Sequenced tr s) (hx : x.calls = s.calls)
    (hscan : x.scanning = s.scanning) (hn : x.contexts.next = s.contexts.next)
    (hd : x.discoveries = s.discoveries) (hok : ∀ i c, s.calls i = some c → CallSound x c)
    (hpc : ∀ k new, pc = .locking k new ∨ pc = .storing k new → new ≠ .shuttingDown)
    (hsole : Sole (setDiscovery x j pc)) (hlog : ∀ j, adapterCalls s j e = []) :
    Sequenced ((s, e, setDiscovery x j pc) :: tr) (setDiscovery x j pc) := by
  refine sequenced_still h hx hsole hscan hn (fun i c hi => ?_) (fun l q k new hl hq => ?_) hlog
  · exact callSound_same (hok i c hi) (fun k _ => ⟨rfl, rfl⟩)
  · have hl : Function.update x.discoveries j (some pc) l = some q := hl
    rw [hd] at hl
    rcases update_some hl with ⟨_, rfl⟩ | ⟨_, hold⟩
    · exact hpc k new hq
    · exact h.stores l q k new hold hq

theorem sequenced_discovery {pc : DiscoveryPc} {adapterNull garbage : Bool}
    {addr : Strings.CString} (h : Sequenced tr s) (hpc : s.discoveries j = some pc)
    (hun : ∀ k new, pc = .storing k new → Unmarked s k)
    (hs : discoveryStep s j adapterNull addr garbage pc = some t) (hsole : Sole t) :
    Sequenced ((s, .discovery j adapterNull addr garbage, t) :: tr) t := by
  have hlog : ∀ i, adapterCalls s i (.discovery j adapterNull addr garbage) = [] := fun _ => rfl
  have hsame : ∀ x : Impl, x.contexts = s.contexts → ∀ i c, s.calls i = some c → CallSound x c :=
    fun x hx i c hi => callSound_same (h.calls i c hi)
      (fun k _ => ⟨by rw [hx], by rw [stateOf, hx, stateOf]⟩)
  have hlocked : ∀ (f : ScanContext → ScanContext) k, (∀ ctx, (f ctx).state = ctx.state) →
      ∀ i c, s.calls i = some c → CallSound (writeContext s k f) c :=
    fun f k hf i c hi => callSound_same (h.calls i c hi) (fun l _ => write_same hf k l)
  cases pc with
  | checked =>
    cases hs
    unfold callHandler at hsole ⊢
    split at hsole
    · refine sequenced_thread h rfl rfl rfl rfl (hsame s rfl) (fun k new hq => ?_) hsole hlog
      rcases hq with hq | hq <;> cases hq
    · refine sequenced_thread h rfl rfl rfl rfl (hsame s rfl) (fun k new hq => ?_) hsole hlog
      rcases hq with hq | hq <;> cases hq
  | called x =>
    cases hs
    obtain ⟨pc, he, hset⟩ := onScanDiscovery_sets s j x adapterNull addr garbage
    rw [he] at hsole ⊢
    refine sequenced_thread h rfl rfl rfl rfl (hsame s rfl) (fun l n hq => ?_) hsole hlog
    rcases hset with rfl | ⟨_, new, rfl, hnew⟩
    · rcases hq with hq | hq <;> cases hq
    · rcases hq with hq | hq
      · cases hq
        exact hnew
      · cases hq
  | locking k new =>
    have hn := h.stores j _ k new hpc (Or.inl rfl)
    simp only [discoveryStep, Option.ite_none_right_eq_some] at hs
    obtain ⟨_, hs⟩ := hs
    cases hs
    refine sequenced_thread h rfl rfl rfl rfl (hlocked _ k (fun _ => rfl)) (fun l n hq => ?_)
      hsole hlog
    rcases hq with hq | hq
    · cases hq
    · cases hq
      exact hn
  | storing k new =>
    have hn := h.stores j _ k new hpc (Or.inr rfl)
    cases hs
    refine sequenced_thread h rfl rfl rfl rfl (fun i c hi => ?_) (fun l n hq => ?_) hsole hlog
    · exact callSound_stored (h.calls i c hi) hi (hun k new rfl) hn
    · rcases hq with hq | hq <;> cases hq
  | unlocking k =>
    cases hs
    refine sequenced_thread h rfl rfl rfl rfl (hlocked _ k (fun _ => rfl)) (fun l n hq => ?_)
      hsole hlog
    rcases hq with hq | hq <;> cases hq
  | done => cases hs

theorem sequenced_discover (h : Sequenced tr s) (hs : scannerStep s .discover = some t)
    (hsole : Sole t) : Sequenced ((s, .discover, t) :: tr) t := by
  simp only [scannerStep, Option.ite_none_right_eq_some] at hs
  obtain ⟨_, hs⟩ := hs
  cases hs
  refine sequenced_still h rfl hsole rfl rfl (fun i c hi => ?_) (fun j pc k new hj hq => ?_)
    (fun _ => rfl)
  · exact callSound_same (h.calls i c hi) (fun k _ => ⟨rfl, rfl⟩)
  · rcases update_some hj with ⟨_, rfl⟩ | ⟨_, hold⟩
    · rcases hq with hq | hq <;> cases hq
    · exact h.stores j pc k new hold hq

/-! Runs -/

theorem undisturbed_sole (h : Sole s) (hok : Undisturbed s e) (hs : scannerStep s e = some t) :
    Sole t := by
  cases e with
  | check i =>
    obtain ⟨c, hc, rfl⟩ := Option.map_eq_some_iff.mp hs
    obtain ⟨hc, hpc⟩ := callAt_iff.mp hc
    exact sole_checked h hc hpc (hok c hc)
  | scan | prepare | launch | announce | enable | enabled | fail | wait | shutdown | leave
  | monitor | abortCheck | abortStore | discover | discovery =>
    refine sole_step h ?_ hs
    trivial

theorem sequenced_step (h : Sequenced tr s) (hok : Undisturbed s e)
    (hs : scannerStep s e = some t) : Sequenced ((s, e, t) :: tr) t := by
  have hsole := undisturbed_sole h.sole hok hs
  cases e with
  | scan timeoutSec address custom =>
    cases hs
    exact sequenced_begun h
  | check i =>
    obtain ⟨c, hc, rfl⟩ := Option.map_eq_some_iff.mp hs
    obtain ⟨hc, hpc⟩ := callAt_iff.mp hc
    exact sequenced_check h hc hpc hsole
  | prepare i o =>
    obtain ⟨c, hc, rfl⟩ := Option.map_eq_some_iff.mp hs
    obtain ⟨hc, hpc⟩ := callAt_iff.mp hc
    exact sequenced_prepare h hc hpc hsole
  | launch i starts =>
    obtain ⟨c, hc, rfl⟩ := Option.map_eq_some_iff.mp hs
    obtain ⟨hc, hpc⟩ := callAt_iff.mp hc
    exact sequenced_launch h hc hpc hsole
  | announce i =>
    obtain ⟨c, hc, rfl⟩ := Option.map_eq_some_iff.mp hs
    obtain ⟨hc, hpc⟩ := callAt_iff.mp hc
    exact sequenced_announce h hc hpc hsole
  | enable i stores =>
    obtain ⟨c, hc, rfl⟩ := Option.map_eq_some_iff.mp hs
    obtain ⟨hc, hpc⟩ := callAt_iff.mp hc
    exact sequenced_enable h hc hpc hsole
  | enabled i ret =>
    obtain ⟨c, hc, rfl⟩ := Option.map_eq_some_iff.mp hs
    obtain ⟨hc, hpc⟩ := callAt_iff.mp hc
    exact sequenced_enabled h hc hpc hsole
  | fail i =>
    obtain ⟨c, hc, rfl⟩ := Option.map_eq_some_iff.mp hs
    obtain ⟨hc, hpc⟩ := callAt_iff.mp hc
    exact sequenced_fail h hc hpc hsole
  | wait i expired =>
    obtain ⟨c, hc, hs⟩ := Option.bind_eq_some_iff.mp hs
    obtain ⟨hc, hpc⟩ := callAt_iff.mp hc
    exact sequenced_wait h hc hpc hs hsole
  | shutdown i o =>
    obtain ⟨c, hc, hs⟩ := Option.bind_eq_some_iff.mp hs
    split at hs
    · next p k inCatch hpc =>
      refine sequenced_shutdown h hc hpc (fun hp => ?_) hs hsole
      subst hp
      exact hok c k inCatch hc hpc
    · cases hs
  | leave i =>
    obtain ⟨c, hc, hs⟩ := Option.bind_eq_some_iff.mp hs
    split at hs
    · next thrown hpc => exact sequenced_leave h hc hpc hs hsole
    · cases hs
  | monitor i =>
    obtain ⟨c, hc, hs⟩ := Option.bind_eq_some_iff.mp hs
    obtain ⟨k, hk, hs⟩ := Option.bind_eq_some_iff.mp hs
    exact sequenced_monitor h hc hk (hok c k hc hk) hs hsole
  | abortCheck =>
    cases hs
    refine sequenced_still h ?_ hsole ?_ ?_ (fun i c hi => callSound_same (h.calls i c hi) ?_)
      (fun j => ?_) (fun _ => rfl)
    · split <;> rfl
    · split <;> rfl
    · split <;> rfl
    · intro k _
      split <;> exact ⟨rfl, rfl⟩
    · split <;> exact h.stores j
  | abortStore =>
    simp only [scannerStep, Option.ite_none_right_eq_some] at hs
    obtain ⟨_, hs⟩ := hs
    cases hs
    exact sequenced_still h rfl hsole rfl rfl
      (fun i c hi => callSound_same (h.calls i c hi) (fun k _ => ⟨rfl, rfl⟩)) h.stores (fun _ => rfl)
  | discover => exact sequenced_discover h hs hsole
  | discovery j adapterNull addr garbage =>
    obtain ⟨pc, hpc, hs⟩ := Option.bind_eq_some_iff.mp hs
    exact sequenced_discovery h hpc (fun k new hq => hok k new (hq ▸ hpc)) hs hsole

theorem constructed_sequenced (h : Constructed s) : Sequenced [] s := by
  refine ⟨orderly_sole (constructed_orderly h), ?_, ?_, ?_, ?_, ?_, ?_, fun _ _ => rfl⟩
  all_goals cases h
  · exact fun hs => by cases hs
  · exact fun i c hc => by cases hc
  · exact fun i c k hc => by cases hc
  · exact fun i j c d k hc => by cases hc
  · exact fun j pc k new hj => by cases hj
  · exact fun i c hc => by cases hc

/-- No call of a run that has been sequenced throws after its `adapterScanEnable`. -/
theorem sequenced_calm (h : Sequenced tr s) (hi : ReachedEnable s i) : ¬Throws s i e := by
  intro hthrow
  cases e with
  | shutdown j o =>
    obtain ⟨rfl, c, k, inCatch, hc, hpart⟩ := hthrow
    obtain ⟨d, hd, hon⟩ := hi
    rw [hc] at hd
    cases hd
    have hok := h.calls j c hc
    rcases hpart with ⟨hpc, hoff⟩ | ⟨hpc, hstate⟩
    · have henabled := hok.enabled (!inCatch) (by rw [hpc, reached])
      rw [scanning_reached h hc hpc] at hoff
      rw [hoff, hon] at henabled
      cases henabled
    · obtain ⟨hk, hearly⟩ := hok.shutdown _ _ _ hpc
      cases inCatch with
      | true => cases hearly rfl
      | false =>
        obtain ⟨k', hk', hheld⟩ := hok.context true (by rw [hpc]; rfl)
        rw [hk] at hk'
        cases hk'
        exact hstate (hheld.state.mpr rfl)
  | scan | check | prepare | launch | announce | enable | enabled | fail | wait | leave
  | monitor | abortCheck | abortStore | discover | discovery => exact hthrow

/-- A call that is over has not left `m_scanning` set: another call has set it. -/
theorem sequenced_clear (h : Sequenced tr s) (hi : Over s i) (hs : s.scanning = true) :
    ∃ j, j ≠ i ∧ Inside s j := by
  obtain ⟨j, d, hj, hin, _⟩ := h.owner hs
  refine ⟨j, ?_, d, hj, hin⟩
  rintro rfl
  obtain ⟨c, hc, _, hpc⟩ := hi
  rw [hc] at hj
  cases hj
  rw [inside, hpc] at hin
  cases hin

theorem sequenced_once (h : Sequenced tr s) (hi : Over s i) :
    callLog i tr = [.scanEnable, .scanDisable, .waitScanStopped] := by
  obtain ⟨c, hc, hon, hpc⟩ := hi
  rw [h.log i c hc, due, hon, hpc]
  rfl

theorem run_sequenced (h : Run scannerStep Constructed tr s)
    (hok : ∀ x ∈ tr, Undisturbed x.1 x.2.1) :
    Sequenced tr s ∧ ∀ x ∈ tr, (∃ tr', Sequenced tr' x.1) ∧ ∃ tr', Sequenced tr' x.2.2 := by
  induction h with
  | start h => exact ⟨constructed_sequenced h, fun x hx => absurd hx List.not_mem_nil⟩
  | next _ hs ih =>
    obtain ⟨hseq, hall⟩ := ih (fun x hx => hok x (List.mem_cons_of_mem _ hx))
    have hnext := sequenced_step hseq (hok _ List.mem_cons_self) hs
    refine ⟨hnext, fun x hx => ?_⟩
    rcases List.mem_cons.mp hx with rfl | hx
    · exact ⟨⟨_, hseq⟩, _, hnext⟩
    · exact hall x hx

end

/-- In every run in which nothing is stored into a context that is being shut down, the
main loop stops and no two calls race for `m_scanning`, every scan is shut down once. -/
theorem shut_down_once {tr : List (Impl × ScannerEvent × Impl)} {s : Impl}
    (h : Run scannerStep Constructed tr s) (hok : ∀ x ∈ tr, Undisturbed x.1 x.2.1) :
    ShutDownOnce tr s := by
  obtain ⟨hseq, hall⟩ := run_sequenced h hok
  refine ⟨fun i => sequenced_once hseq, fun x hx i hi => ?_, fun x hx i _ hi => ?_⟩
  · obtain ⟨⟨_, hbefore⟩, _⟩ := hall x hx
    exact sequenced_calm hbefore hi
  · obtain ⟨_, _, hafter⟩ := hall x hx
    exact sequenced_clear hafter hi

def found : Strings.CString := ⟨[70, 49], by decide⟩

/-- The time expires as a device that matches the filter is reported: its thread stores
SUCCEEDED over SHUTTING_DOWN. -/
def overtakenEvents : List ScannerEvent :=
  [.scan 10 (some found) false, .check 0, .prepare 0 .complete, .launch 0 true, .announce 0,
    .enable 0 true, .enabled 0 gattlibSuccess, .discover, .discovery 0 false found false,
    .discovery 0 false found false, .wait 0 true, .shutdown 0 {}, .shutdown 0 {}, .shutdown 0 {},
    .discovery 0 false found false, .discovery 0 false found false, .shutdown 0 {}, .shutdown 0 {},
    .shutdown 0 {}]

/-- `cleanup` throws, as the context is not marked any more. -/
theorem shutdown_overtaken : ¬∀ (tr : List (Impl × ScannerEvent × Impl)) (s : Impl),
    Run scannerStep Constructed tr s → ShutDownOnce tr s := by
  intro h
  have hsome : (exec scannerStep {} overtakenEvents).isSome = true := rfl
  have hstart : Run scannerStep Constructed [] {} := .start rfl
  obtain ⟨tr, hrun, _⟩ := run_exec hstart overtakenEvents hsome
  have hnext := Run.next (e := .shutdown 0 {}) hrun rfl
  have hcalm := (h _ _ hnext).calm _ List.mem_cons_self 0
    ⟨((exec scannerStep {} overtakenEvents).get hsome).calls 0 |>.get rfl, rfl, rfl⟩
  exact hcalm ⟨rfl, _, _, _, rfl, Or.inr ⟨rfl, (by decide : ScanState.succeeded ≠ .shuttingDown)⟩⟩

/-- A device that matches the filter ends the scan before its shutdown begins. -/
theorem shut_down_once_found : ∃ tr s, Run scannerStep Constructed tr s ∧ ShutDownOnce tr s ∧
    Over s 0 ∧ callLog 0 tr = [.scanEnable, .scanDisable, .waitScanStopped] ∧
    s.scanning = false := by
  have hstart : Run scannerStep Constructed [] {} ∧ ∀ x ∈ ([] : List (Impl × ScannerEvent × Impl)),
      Undisturbed x.1 x.2.1 :=
    ⟨.start rfl, fun x hx => absurd hx List.not_mem_nil⟩
  have hscan := run_next (e := ScannerEvent.scan 10 (some found) false) hstart trivial rfl
  have hcheck := run_next (e := ScannerEvent.check 0) hscan (fun c hc _ _ _ j d hd hin => by
    rcases update_some hd with ⟨_, rfl⟩ | ⟨_, hd⟩
    · cases hin
    · cases hd) rfl
  have hprepare := run_next (e := ScannerEvent.prepare 0 .complete) hcheck trivial rfl
  have hlaunch := run_next (e := ScannerEvent.launch 0 true) hprepare trivial rfl
  have hannounce := run_next (e := ScannerEvent.announce 0) hlaunch trivial rfl
  have henable := run_next (e := ScannerEvent.enable 0 true) hannounce trivial rfl
  have henabled := run_next (e := ScannerEvent.enabled 0 gattlibSuccess) henable trivial rfl
  have hdiscover := run_next (e := ScannerEvent.discover) henabled trivial rfl
  have hplain : ∀ {s : Impl} {pc : DiscoveryPc}, s.discoveries 0 = some pc →
      (∀ k new, pc ≠ .storing k new) → Undisturbed s (.discovery 0 false found false) := by
    intro s pc hpc hne k new hst
    rw [hpc] at hst
    cases hst
    exact absurd rfl (hne k new)
  have hcalled := run_next (e := ScannerEvent.discovery 0 false found false) hdiscover
    (hplain rfl (fun _ _ he => DiscoveryPc.noConfusion he)) rfl
  have hmatched := run_next (e := ScannerEvent.discovery 0 false found false) hcalled
    (hplain rfl (fun _ _ he => DiscoveryPc.noConfusion he)) rfl
  have hlocked := run_next (e := ScannerEvent.discovery 0 false found false) hmatched
    (hplain rfl (fun _ _ he => DiscoveryPc.noConfusion he)) rfl
  have hstored := run_next (e := ScannerEvent.discovery 0 false found false) hlocked
    (fun k new hst i c p inCatch hc hpc => by
      cases i with
      | zero =>
        cases hc
        cases hpc
      | succ i => cases hc) rfl
  have hunlocked := run_next (e := ScannerEvent.discovery 0 false found false) hstored
    (hplain rfl (fun _ _ he => DiscoveryPc.noConfusion he)) rfl
  have hwait := run_next (e := ScannerEvent.wait 0 false) hunlocked trivial rfl
  have hlooking := run_next (e := ScannerEvent.shutdown 0 {}) hwait (fun _ _ _ _ _ => rfl) rfl
  have hlocking := run_next (e := ScannerEvent.shutdown 0 {}) hlooking (fun _ _ _ _ _ => rfl) rfl
  have hmarking := run_next (e := ScannerEvent.shutdown 0 {}) hlocking (fun _ _ _ _ _ => rfl) rfl
  have htesting := run_next (e := ScannerEvent.shutdown 0 {}) hmarking (fun _ _ _ _ _ => rfl) rfl
  have hdisabling := run_next (e := ScannerEvent.shutdown 0 {}) htesting (fun _ _ _ _ _ => rfl) rfl
  have hstopping := run_next (e := ScannerEvent.shutdown 0 {}) hdisabling (fun _ _ _ _ _ => rfl) rfl
  have hcleaning := run_next (e := ScannerEvent.shutdown 0 {}) hstopping (fun _ _ _ _ _ => rfl) rfl
  have hdeleting := run_next (e := ScannerEvent.shutdown 0 {}) hcleaning (fun _ _ _ _ _ => rfl) rfl
  have hclearing := run_next (e := ScannerEvent.shutdown 0 {}) hdeleting (fun _ _ _ _ _ => rfl) rfl
  have hmonitor := run_next (e := ScannerEvent.monitor 0) hclearing (fun c k hc _ hm => by
    cases hc
    cases hm) rfl
  have hrun := run_next (e := ScannerEvent.leave 0) hmonitor trivial rfl
  have honce := shut_down_once hrun.1 hrun.2
  exact ⟨_, _, hrun.1, honce, ⟨_, rfl, rfl, rfl⟩, honce.once 0 ⟨_, rfl, rfl, rfl⟩, rfl⟩

end Gattlib.ScannerShutdown
