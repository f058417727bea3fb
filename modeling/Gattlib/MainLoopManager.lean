import Gattlib.Library.Transition
import Mathlib.Data.Nat.Notation

namespace Gattlib.MainLoopManager

open Library.Transition

/-- What a call does to a loop, which is known by its number, or to a thread. -/
inductive Effect
  | newLoop (loop : ℕ)
  | quitLoop (loop : ℕ)
  | unrefLoop (loop : ℕ)
  /-- `m_glibThread = std::thread(...)`, and whether `m_glibThread` was joinable before that -/
  | assignThread (joinable : Bool)
  | detachThread
  | joinThread
  | detachJoiner
  deriving DecidableEq

/-- A `GMainLoopManager`, with the number of loops that have been created and the effects of
its calls, the last one first. -/
structure Manager where
  mainLoop : Option ℕ := none
  joinable : Bool := false
  isRunning : Bool := false
  loops : ℕ := 0
  log : List Effect := []
  /-- `std::terminate` has been called. -/
  terminated : Bool := false
  deriving DecidableEq

namespace Manager

def record (m : Manager) (effect : Effect) : Manager := { m with log := effect :: m.log }

def quitLoop (m : Manager) : Manager :=
  match m.mainLoop with
  | some loop => m.record (.quitLoop loop)
  | none => m

def unrefLoop (m : Manager) : Manager :=
  match m.mainLoop with
  | some loop => m.record (.unrefLoop loop)
  | none => m

def clearLoop (m : Manager) : Manager := { m with mainLoop := none }

def newLoop (m : Manager) : Manager :=
  { m.record (.newLoop m.loops) with mainLoop := some m.loops, loops := m.loops + 1 }

/-- To assign a thread to one that is joinable ends the program. -/
def assignThread (m : Manager) : Manager :=
  { m.record (.assignThread m.joinable) with joinable := true, terminated := m.joinable }

def detachThread (m : Manager) : Manager :=
  if m.joinable then { m.record .detachThread with joinable := false } else m

end Manager

/-- What comes of the calls that `start` makes: a loop, a thread, and the loop seen running
before THREAD_START_TIMEOUT and once more after that. -/
structure StartOutcome where
  created : Bool
  launched : Bool
  inTime : Bool
  running : Bool
  deriving DecidableEq

/-- What comes of the calls that `stop` makes: the loop seen running, a second thread that joins
the first one, and the end of it before THREAD_JOIN_TIMEOUT. The wait for the loop to stop makes
no difference, as it is left at THREAD_STOP_TIMEOUT. -/
structure StopOutcome where
  running : Bool
  joiner : Bool
  joined : Bool
  deriving DecidableEq

/-- What `start` does if the loop is not seen running. -/
def abandon (m : Manager) : Manager := m.quitLoop.unrefLoop.clearLoop.detachThread

def start (o : StartOutcome) (m : Manager) : Manager × Bool :=
  if m.isRunning then (m, true)
  else
    let m := m.unrefLoop.clearLoop
    if ¬o.created then (m, false)
    else
      let m := m.newLoop
      if ¬o.launched then (m.unrefLoop.clearLoop, false)
      else
        let m := m.assignThread
        if ¬o.inTime then (abandon m, false)
        else if ¬o.running then (abandon m, false)
        else ({ m with isRunning := true }, true)

def stop (o : StopOutcome) (m : Manager) : Manager :=
  if m.isRunning then
    let m := { m with isRunning := false }
    let m := if o.running then m.quitLoop else m
    if m.joinable then
      let m := { m with joinable := false }
      -- without the second thread the first one is destroyed while it is joinable
      if ¬o.joiner then { m with terminated := true }
      else if o.joined then (m.record .joinThread).unrefLoop
      else (m.record .detachJoiner).unrefLoop
    else m.unrefLoop
  else m

inductive Call
  | start (o : StartOutcome)
  | stop (o : StopOutcome)
  deriving DecidableEq

/-- A call of a thread. It has m_startStopMutex from its beginning to its end. -/
structure Event where
  thread : ℕ
  call : Call
  deriving DecidableEq

def step (m : Manager) (e : Event) : Option Manager :=
  if m.terminated then none
  else match e.call with
    | .start o => some (start o m).1
    | .stop o => some (stop o m)

def unrefs (m : Manager) (loop : ℕ) : ℕ := m.log.count (.unrefLoop loop)

/-- A start that is no no-op succeeds. -/
def succeeds (e : Event) : Bool :=
  match e.call with
  | .start o => o.created && o.launched && o.inTime && o.running
  | .stop _ => false

def isStart (e : Event) : Bool :=
  match e.call with
  | .start _ => true
  | .stop _ => false

/-- The last of the operations is a successful start. -/
def started (es : List Event) : Bool := es.head?.any succeeds

/-- The operations without the idempotent no-ops, the last one first. -/
def effective : List Event → List Event
  | [] => []
  | e :: es => if started (effective es) = isStart e then effective es else e :: effective es

/-- Whenever a loop is created, each one before it has been unreferenced once. -/
def InTurn : List Effect → Prop
  | [] => True
  | .newLoop loop :: log => (∀ k < loop, log.count (.unrefLoop k) = 1) ∧ InTurn log
  | _ :: log => InTurn log

/-- The operations of a history, the last one first. -/
def operations (tr : List (Manager × Event × Manager)) : List Event :=
  effective (tr.map (fun x => x.2.1))

/-- A call of a history leaves every resource as it should be. -/
structure Managed (tr : List (Manager × Event × Manager)) (x : Manager × Event × Manager) : Prop where
  never_twice : ∀ loop, unrefs x.2.2 loop ≤ 1
  before_next : InTurn x.2.2.log
  after_stop : isStart x.2.1 = false → x.2.2.terminated = false →
    ∀ loop < x.2.2.loops, unrefs x.2.2 loop = 1
  not_joinable : .assignThread true ∉ x.2.2.log
  running : x.2.2.terminated = false → x.2.2.isRunning = started (operations (x :: tr))

/-- Nothing is started again after it has been stopped. -/
def NotAgain (tr : List (Manager × Event × Manager)) (x : Manager × Event × Manager) : Prop :=
  isStart x.2.1 = true → ∀ e ∈ operations tr, isStart e = true

/-- What the thread handle and the flag are after some operations. -/
structure Handles (es : List Event) (m : Manager) : Prop where
  not_joinable : .assignThread true ∉ m.log
  flags : m.terminated = false → m.isRunning = started es ∧ m.joinable = started es

/-- What the loops are after some operations, if nothing was started again. -/
structure Kept (es : List Event) (m : Manager) : Prop where
  turn : InTurn m.log
  unused : ∀ loop, m.loops ≤ loop → unrefs m loop = 0
  never_twice : ∀ loop, unrefs m loop ≤ 1
  up : m.terminated = false → started es = true → (∀ e ∈ es, isStart e = true) ∧
    ∃ loop, m.mainLoop = some loop ∧ m.loops = loop + 1 ∧ unrefs m loop = 0 ∧
      ∀ k < loop, unrefs m k = 1
  down : m.terminated = false → started es = false → (∀ k < m.loops, unrefs m k = 1) ∧
    ((∀ e ∈ es, isStart e = true) ∧ m.mainLoop = none ∨
      (∃ e ∈ es, isStart e = false) ∧ ∃ loop < m.loops, m.mainLoop = some loop)

section

variable {m t : Manager} {es : List Event} {e : Event} {tr : List (Manager × Event × Manager)}

theorem handles_init : Handles [] {} := ⟨by simp, fun _ => ⟨rfl, rfl⟩⟩

theorem kept_init : Kept [] {} := by
  constructor <;> simp [InTurn, unrefs, started]

theorem operations_cons (x : Manager × Event × Manager) : operations (x :: tr) =
    if started (operations tr) = isStart x.2.1 then operations tr else x.2.1 :: operations tr := rfl

theorem step_running (hs : step m e = some t) : m.terminated = false := by
  cases hm : m.terminated with
  | false => rfl
  | true => simp [step, hm] at hs

/-- A call that has nothing to do changes nothing. -/
theorem step_same (h : Handles es m) (hn : started es = isStart e) (hs : step m e = some t) :
    t = m := by
  have ht := step_running hs
  obtain ⟨hrun, -⟩ := h.flags ht
  rw [hn] at hrun
  obtain ⟨thread, call⟩ := e
  cases call with
  | start o => simpa [step, ht, start, hrun, isStart, eq_comm] using hs
  | stop o => simpa [step, ht, stop, hrun, isStart, eq_comm] using hs

/-- A start unreferences the loop it finds, and the one it makes if that is not seen running. -/
theorem start_unrefs {o : StartOutcome} (hr : m.isRunning = false) (k : ℕ) :
    unrefs (start o m).1 k = unrefs m k + (if m.mainLoop = some k then 1 else 0) +
      if (o.created && !(o.launched && o.inTime && o.running)) = true ∧ k = m.loops then 1
      else 0 := by
  obtain ⟨mainLoop, joinable, isRunning, loops, log, terminated⟩ := m
  obtain rfl : isRunning = false := hr
  obtain ⟨created, launched, inTime, running⟩ := o
  cases mainLoop <;> cases joinable <;> cases created <;> cases launched <;> cases inTime <;>
    cases running <;>
    simp [unrefs, start, abandon, Manager.quitLoop, Manager.unrefLoop, Manager.clearLoop,
      Manager.newLoop, Manager.assignThread, Manager.detachThread, Manager.record,
      List.count_cons, eq_comm (a := k), Nat.add_assoc]

/-- A stop unreferences the loop once the first thread has been joined or given up. -/
theorem stop_unrefs {o : StopOutcome} (hr : m.isRunning = true) (hj : m.joinable = true) (k : ℕ) :
    unrefs (stop o m) k =
      unrefs m k + if o.joiner = true ∧ m.mainLoop = some k then 1 else 0 := by
  obtain ⟨mainLoop, joinable, isRunning, loops, log, terminated⟩ := m
  obtain rfl : isRunning = true := hr
  obtain rfl : joinable = true := hj
  obtain ⟨running, joiner, joined⟩ := o
  cases mainLoop <;> cases running <;> cases joiner <;> cases joined <;>
    simp [unrefs, stop, Manager.quitLoop, Manager.unrefLoop, Manager.record, List.count_cons]

theorem handles_start {o : StartOutcome} {thread : ℕ} (h : Handles es m) (ht : m.terminated = false)
    (hd : started es = false) : Handles (⟨thread, .start o⟩ :: es) (start o m).1 := by
  obtain ⟨hrun, hjoin⟩ := h.flags ht
  rw [hd] at hrun hjoin
  have hnot := h.not_joinable
  obtain ⟨mainLoop, joinable, isRunning, loops, log, terminated⟩ := m
  obtain rfl : joinable = false := hjoin
  obtain rfl : isRunning = false := hrun
  obtain rfl : terminated = false := ht
  obtain ⟨created, launched, inTime, running⟩ := o
  constructor
  · cases mainLoop <;> cases created <;> cases launched <;> cases inTime <;> cases running <;>
      simpa [start, abandon, Manager.quitLoop, Manager.unrefLoop, Manager.clearLoop, Manager.newLoop,
        Manager.assignThread, Manager.detachThread, Manager.record] using hnot
  · intro _
    cases mainLoop <;> cases created <;> cases launched <;> cases inTime <;> cases running <;>
      exact ⟨rfl, rfl⟩

theorem handles_stop {o : StopOutcome} {thread : ℕ} (h : Handles es m) (ht : m.terminated = false)
    (hu : started es = true) : Handles (⟨thread, .stop o⟩ :: es) (stop o m) := by
  obtain ⟨hrun, hjoin⟩ := h.flags ht
  rw [hu] at hrun hjoin
  have hnot := h.not_joinable
  obtain ⟨mainLoop, joinable, isRunning, loops, log, terminated⟩ := m
  obtain rfl : joinable = true := hjoin
  obtain rfl : isRunning = true := hrun
  obtain rfl : terminated = false := ht
  obtain ⟨running, joiner, joined⟩ := o
  constructor
  · cases mainLoop <;> cases running <;> cases joiner <;> cases joined <;>
      simpa [stop, Manager.quitLoop, Manager.unrefLoop, Manager.record] using hnot
  · intro _
    cases mainLoop <;> cases running <;> cases joiner <;> cases joined <;> exact ⟨rfl, rfl⟩

theorem handles_step (h : Handles (operations tr) m) (hs : step m e = some t) :
    Handles (operations ((m, e, t) :: tr)) t := by
  have ht := step_running hs
  rw [operations_cons]
  split
  · next hn =>
    rw [step_same h hn hs]
    exact h
  · next hn =>
    obtain ⟨thread, call⟩ := e
    cases call with
    | start o =>
      obtain rfl : (start o m).1 = t := by simpa [step, ht] using hs
      exact handles_start h ht (by simpa [isStart] using hn)
    | stop o =>
      obtain rfl : stop o m = t := by simpa [step, ht] using hs
      exact handles_stop h ht (by simpa [isStart] using hn)

/-- A start that fails has unreferenced the loop that it has made. -/
theorem kept_failed (h : Kept es m) (hm : m.terminated = false) (hd : started es = false)
    (hes : ∀ x ∈ es, isStart x = true) (he : isStart e = true) (hf : succeeds e = false)
    (hturn : InTurn t.log) (hloops : t.loops = m.loops + 1)
    (hcount : ∀ k, unrefs t k = unrefs m k + if k = m.loops then 1 else 0)
    (hnone : t.mainLoop = none) :
    Kept (e :: es) t := by
  obtain ⟨hreleased, -⟩ := h.down hm hd
  have hzero := h.unused m.loops (Nat.le_refl _)
  have hstarted : started (e :: es) = false := by simpa [started] using hf
  refine ⟨hturn, fun k hk => ?_, fun k => ?_, fun _ hs => ?_, fun _ _ => ?_⟩
  · rw [hcount, h.unused k (by omega), if_neg (by omega)]
  · rw [hcount]
    by_cases hk : k = m.loops
    · simp [hk, hzero]
    · simpa [hk] using h.never_twice k
  · simp [hstarted] at hs
  · refine ⟨fun k hk => ?_, Or.inl ⟨List.forall_mem_cons.mpr ⟨he, hes⟩, hnone⟩⟩
    rw [hcount]
    by_cases hk' : k = m.loops
    · simp [hk', hzero]
    · simpa [hk'] using hreleased k (by omega)

/-- A start of a manager that is not running and has no loop. -/
theorem kept_start {o : StartOutcome} {thread : ℕ} (hh : Handles es m) (h : Kept es m)
    (ht : m.terminated = false) (hd : started es = false) (hes : ∀ x ∈ es, isStart x = true)
    (hm : m.mainLoop = none) : Kept (⟨thread, .start o⟩ :: es) (start o m).1 := by
  obtain ⟨hrun, hjoin⟩ := hh.flags ht
  rw [hd] at hrun hjoin
  obtain ⟨hreleased, -⟩ := h.down ht hd
  have hzero := h.unused m.loops (Nat.le_refl _)
  have hturn := h.turn
  obtain ⟨mainLoop, joinable, isRunning, loops, log, terminated⟩ := m
  obtain rfl : mainLoop = none := hm
  obtain rfl : joinable = false := hjoin
  obtain rfl : isRunning = false := hrun
  obtain rfl : terminated = false := ht
  have hnew : InTurn (.newLoop loops :: log) := ⟨hreleased, hturn⟩
  obtain ⟨created, launched, inTime, running⟩ := o
  have hcount : ∀ k, unrefs (start ⟨created, launched, inTime, running⟩
      ⟨none, false, false, loops, log, false⟩).1 k = unrefs ⟨none, false, false, loops, log, false⟩ k +
        if (created && !(launched && inTime && running)) = true ∧ k = loops then 1 else 0 := by
    intro k
    rw [start_unrefs rfl, if_neg nofun, Nat.add_zero]
  cases created with
  | false =>
    refine ⟨hturn, h.unused, h.never_twice, fun _ hs => ?_, fun _ _ => ?_⟩
    · simp [started, succeeds] at hs
    · exact ⟨hreleased, Or.inl ⟨List.forall_mem_cons.mpr ⟨rfl, hes⟩, rfl⟩⟩
  | true =>
    cases launched with
    | false => exact kept_failed h rfl hd hes rfl rfl hnew rfl (by simpa using hcount) rfl
    | true =>
      cases inTime with
      | false => exact kept_failed h rfl hd hes rfl rfl hnew rfl (by simpa using hcount) rfl
      | true =>
        cases running with
        | false => exact kept_failed h rfl hd hes rfl rfl hnew rfl (by simpa using hcount) rfl
        | true =>
          have hcount : ∀ k, unrefs (start ⟨true, true, true, true⟩
              ⟨none, false, false, loops, log, false⟩).1 k =
                unrefs ⟨none, false, false, loops, log, false⟩ k := by
            simpa using hcount
          refine ⟨hnew, fun k hk => ?_, fun k => ?_, fun _ _ => ?_, fun _ hs => ?_⟩
          · rw [hcount]
            exact h.unused k (Nat.le_of_succ_le hk)
          · rw [hcount]
            exact h.never_twice k
          · refine ⟨List.forall_mem_cons.mpr ⟨rfl, hes⟩, loops, rfl, rfl, ?_, fun k hk => ?_⟩
            · rw [hcount]
              exact hzero
            · rw [hcount]
              exact hreleased k hk
          · simp [started, succeeds] at hs

/-- A stop of a manager that is running. -/
theorem kept_stop {o : StopOutcome} {thread : ℕ} (hh : Handles es m) (h : Kept es m)
    (ht : m.terminated = false) (hu : started es = true) :
    Kept (⟨thread, .stop o⟩ :: es) (stop o m) := by
  obtain ⟨hrun, hjoin⟩ := hh.flags ht
  rw [hu] at hrun hjoin
  obtain ⟨-, loop, hloop, hloops, hzero, hreleased⟩ := h.up ht hu
  have hturn := h.turn
  obtain ⟨mainLoop, joinable, isRunning, loops, log, terminated⟩ := m
  obtain rfl : mainLoop = some loop := hloop
  obtain rfl : joinable = true := hjoin
  obtain rfl : isRunning = true := hrun
  obtain rfl : terminated = false := ht
  obtain rfl : loops = loop + 1 := hloops
  obtain ⟨running, joiner, joined⟩ := o
  have hstopped : started (⟨thread, .stop ⟨running, joiner, joined⟩⟩ :: es) = false := rfl
  have hturn' : InTurn (stop ⟨running, joiner, joined⟩ ⟨some loop, true, true, loop + 1, log, false⟩).log := by
    cases running <;> cases joiner <;> cases joined <;> exact hturn
  have hloops : (stop ⟨running, joiner, joined⟩
      ⟨some loop, true, true, loop + 1, log, false⟩).loops = loop + 1 := by
    cases running <;> cases joiner <;> cases joined <;> rfl
  have hcount : ∀ k, unrefs (stop ⟨running, joiner, joined⟩
      ⟨some loop, true, true, loop + 1, log, false⟩) k =
        log.count (.unrefLoop k) + if joiner = true ∧ k = loop then 1 else 0 := by
    intro k
    rw [stop_unrefs rfl rfl]
    simp [unrefs, eq_comm (a := loop)]
  unfold unrefs at hreleased hzero
  refine ⟨hturn', fun k hk => ?_, fun k => ?_, fun _ hs => ?_, fun hterm _ => ?_⟩
  · rw [hloops] at hk
    have hunused : log.count (.unrefLoop k) = 0 := h.unused k hk
    rw [hcount, hunused, if_neg (by omega)]
  · rw [hcount]
    by_cases hk : k = loop
    · simp only [hk, hzero]
      split <;> omega
    · have hle : log.count (.unrefLoop k) ≤ 1 := h.never_twice k
      simpa [hk] using hle
  · simp [hstopped] at hs
  · cases joiner with
    | false => cases running <;> cases hterm
    | true =>
      refine ⟨fun k hk => ?_, Or.inr ⟨⟨_, List.mem_cons_self, rfl⟩, loop, ?_, ?_⟩⟩
      · rw [hcount]
        by_cases hk' : k = loop
        · simp [hk', hzero]
        · have hlt : k < loop := by
            rw [hloops] at hk
            omega
          simp [hk', hreleased k hlt]
      · rw [hloops]
        omega
      · cases running <;> cases joined <;> rfl

theorem kept_step (hh : Handles (operations tr) m) (h : Kept (operations tr) m)
    (hq : NotAgain tr (m, e, t)) (hs : step m e = some t) :
    Kept (operations ((m, e, t) :: tr)) t := by
  have ht := step_running hs
  rw [operations_cons]
  split
  · next hn =>
    rw [step_same hh hn hs]
    exact h
  · next hn =>
    obtain ⟨thread, call⟩ := e
    cases call with
    | start o =>
      have hd : started (operations tr) = false := by simpa [isStart] using hn
      have hes := hq rfl
      obtain rfl : (start o m).1 = t := by simpa [step, ht] using hs
      rcases (h.down ht hd).2 with ⟨_, hm⟩ | ⟨⟨x, hx, hstop⟩, _⟩
      · exact kept_start hh h ht hd hes hm
      · simp [hes x hx] at hstop
    | stop o =>
      have hu : started (operations tr) = true := by simpa [isStart] using hn
      obtain rfl : stop o m = t := by simpa [step, ht] using hs
      exact kept_stop hh h ht hu

theorem managed_of_kept (hh : Handles (operations ((m, e, t) :: tr)) t)
    (h : Kept (operations ((m, e, t) :: tr)) t) : Managed tr (m, e, t) := by
  refine ⟨h.never_twice, h.turn, fun he hterm => ?_, hh.not_joinable, fun hterm => (hh.flags hterm).1⟩
  have hstopped : started (operations ((m, e, t) :: tr)) = false := by
    rw [operations_cons]
    split
    · next hn => rw [hn, he]
    · obtain ⟨thread, call⟩ := e
      cases call with
      | start o => cases he
      | stop o => rfl
  exact (h.down hterm hstopped).1

theorem notAgain_of_managed (hh : Handles (operations tr) m) (h : Kept (operations tr) m)
    (hm : Managed tr (m, e, t)) (hs : step m e = some t) : NotAgain tr (m, e, t) := by
  have ht := step_running hs
  intro he
  by_contra hstop
  have hd : started (operations tr) = false := by
    rw [← Bool.not_eq_true]
    exact fun hu => hstop (h.up ht hu).1
  obtain ⟨hreleased, ⟨hes, _⟩ | ⟨_, loop, hlt, hloop⟩⟩ := h.down ht hd
  · exact hstop hes
  · obtain ⟨thread, call⟩ := e
    cases call with
    | stop o => cases he
    | start o =>
      obtain rfl : (start o m).1 = t := by simpa [step, ht] using hs
      have hrun := (hh.flags ht).1
      rw [hd] at hrun
      have hone := hreleased loop hlt
      have htwice : unrefs (start o m).1 loop ≤ 1 := hm.never_twice loop
      rw [start_unrefs hrun, hone, if_pos hloop] at htwice
      omega

/-- The thread handle and the flag are right in every history. -/
theorem handles_run (h : Run step (· = {}) tr m) : Handles (operations tr) m := by
  induction h with
  | start h =>
    subst h
    exact handles_init
  | next _ hs ih => exact handles_step ih hs

end

/-- The resources are as they should be throughout exactly those histories in which nothing is
started again after an effective stop. -/
theorem managed_iff {tr : List (Manager × Event × Manager)} {m : Manager}
    (h : Run step (· = {}) tr m) : Throughout Managed tr ↔ Throughout NotAgain tr := by
  refine (throughout_iff (I := fun tr m => Handles (operations tr) m ∧ Kept (operations tr) m)
    ?_ ?_ ?_ h).1
  · rintro m rfl
    exact ⟨handles_init, kept_init⟩
  · exact fun tr m e t hi hq hs => ⟨handles_step hi.1 hs, kept_step hi.1 hi.2 hq hs⟩
  · intro tr m e t hi hs
    constructor
    · exact fun hm => notAgain_of_managed hi.1 hi.2 hm hs
    · exact fun hq => managed_of_kept (handles_step hi.1 hs) (kept_step hi.1 hi.2 hq hs)

/-- One start and one stop. -/
theorem managed_iff_once : ∃ tr m, Run step (· = {}) tr m ∧
    (tr.map (fun x => x.2.1)).reverse =
      [⟨0, .start ⟨true, true, true, true⟩⟩, ⟨0, .stop ⟨true, true, true⟩⟩] ∧
    Throughout Managed tr := by
  have hinit : Run step (· = {}) [] {} := .start rfl
  have hstarted := hinit.next (e := ⟨0, .start ⟨true, true, true, true⟩⟩) rfl
  have hstopped := hstarted.next (e := ⟨0, .stop ⟨true, true, true⟩⟩) rfl
  exact ⟨_, _, hstopped, rfl, (managed_iff hstopped).mpr ⟨nofun, fun _ => nofun, trivial⟩⟩

/-- One thread starts and stops the manager, and a second one starts it again. The reference
that the stop has dropped is dropped once more. -/
theorem restart_unrefs_twice : ∃ tr m, Run step (· = {}) tr m ∧
    (tr.map (fun x => x.2.1)).reverse =
      [⟨0, .start ⟨true, true, true, true⟩⟩, ⟨0, .stop ⟨true, true, true⟩⟩,
        ⟨1, .start ⟨true, true, true, true⟩⟩] ∧
    unrefs m 0 = 2 ∧ ¬Throughout Managed tr := by
  have hinit : Run step (· = {}) [] {} := .start rfl
  have hstarted := hinit.next (e := ⟨0, .start ⟨true, true, true, true⟩⟩) rfl
  have hstopped := hstarted.next (e := ⟨0, .stop ⟨true, true, true⟩⟩) rfl
  have hagain := hstopped.next (e := ⟨1, .start ⟨true, true, true, true⟩⟩) rfl
  exact ⟨_, _, hagain, rfl, by decide, fun hm => absurd (hm.1.never_twice 0) (by decide)⟩

end Gattlib.MainLoopManager
