import Gattlib.Library.Transition
import Gattlib.State

namespace Gattlib.MainLoop

open Library.Transition Gattlib.State

/-- What the call of `gattlib_mainloop` has done last. -/
inductive Caller
  | idle
  | checked
  /-- `g_main_loop_new` -/
  | created
  /-- `g_thread_try_new` -/
  | launched
  /-- in `g_main_loop_run` -/
  | inside
  | left
  /-- `g_main_loop_unref` -/
  | unreferenced
  /-- `g_thread_join` -/
  | joined
  deriving DecidableEq

/-- The thread of `_execute_task`: there is none, the task is running, it has returned, and
`g_main_loop_quit` has been called, too. -/
inductive Task
  | none | working | returned | finished
  deriving DecidableEq

structure System where
  caller : Caller := .idle
  task : Task := .none
  /-- `m_main_loop` -/
  mainLoop : Option ℕ := none
  loops : ℕ := 0
  /-- the flag of the loop that `m_main_loop` points to -/
  isRunning : Bool := false
  /-- what the last call has returned -/
  ret : Option Ret := none
  deriving DecidableEq

inductive Event
  | call
  | newLoop
  | newThread (created : Bool)
  | run
  | runReturns
  | unref
  | join
  | clear
  /-- a call of the task or of another thread during a call -/
  | otherCall
  | taskReturns
  | quit
  deriving DecidableEq

/-- `g_main_loop_run` sets the flag when it starts and returns when it finds the flag cleared.
`g_main_loop_quit` clears it. -/
def step (s : System) : Event → Option System
  | .call =>
    if s.caller ≠ .idle then none
    else if s.mainLoop ≠ none then some { s with ret := some gattlibBusy }
    else some { s with caller := .checked }
  | .newLoop =>
    if s.caller = .checked then
      some { s with caller := .created, mainLoop := some s.loops, loops := s.loops + 1, isRunning := false }
    else none
  | .newThread created =>
    if s.caller ≠ .created then none
    else if created then some { s with caller := .launched, task := .working }
    else some { s with caller := .idle, ret := some gattlibUnexpected }
  | .run => if s.caller = .launched then some { s with caller := .inside, isRunning := true } else none
  | .runReturns =>
    if s.caller = .inside ∧ s.isRunning = false then some { s with caller := .left } else none
  | .unref => if s.caller = .left then some { s with caller := .unreferenced } else none
  | .join =>
    if s.caller = .unreferenced ∧ s.task = .finished then
      some { s with caller := .joined, task := .none }
    else none
  | .clear =>
    if s.caller = .joined then
      some { s with caller := .idle, mainLoop := none, ret := some gattlibSuccess }
    else none
  | .otherCall => if s.caller ≠ .idle ∧ s.mainLoop ≠ none then some s else none
  | .taskReturns => if s.task = .working then some { s with task := .returned } else none
  | .quit => if s.task = .returned then some { s with task := .finished, isRunning := false } else none

/-- The loop is run, and no one is left to quit it. -/
def Stuck (s : System) : Prop := s.caller = .inside ∧ s.isRunning = true ∧ s.task = .finished

/-- No step leaves the caller stuck, and a call that returns leaves no loop behind, so that the
next one is accepted. -/
structure GivesBack (_ : List (System × Event × System)) (x : System × Event × System) : Prop where
  not_stuck : ¬Stuck x.2.2
  accepted : x.1.caller ≠ .idle → x.2.2.caller = .idle → x.2.2.mainLoop = none ∧
    step x.2.2 .call = some { x.2.2 with caller := .checked }

/-- The thread is created, and the loop is run before the task has asked it to quit. -/
def InTime (_ : List (System × Event × System)) (x : System × Event × System) : Prop :=
  match x.2.1 with
  | .newThread created => created = true
  | .run => x.1.task ≠ .finished
  | _ => True

structure Kept (s : System) : Prop where
  not_stuck : ¬Stuck s
  idle : s.caller = .idle → s.mainLoop = none
  created : s.caller = .created → s.mainLoop ≠ none

section

variable {s t : System} {e : Event} {tr : List (System × Event × System)}

theorem kept_init : Kept {} := by
  constructor <;> simp [Stuck]

theorem kept_step (h : Kept s) (hq : InTime tr (s, e, t)) (hs : step s e = some t) : Kept t := by
  obtain ⟨hstuck, hidle, hcreated⟩ := h
  rw [Stuck] at hstuck
  cases e with
  | newThread created =>
    obtain rfl : created = true := hq
    simp only [step] at hs
    split_ifs at hs
    all_goals
      cases hs
      constructor <;> simp_all [Stuck]
  | run =>
    have htask : s.task ≠ .finished := hq
    simp only [step] at hs
    split_ifs at hs
    all_goals
      cases hs
      constructor <;> simp_all [Stuck]
  | _ =>
    simp only [step] at hs
    split_ifs at hs
    all_goals
      cases hs
      constructor <;> simp_all [Stuck]

theorem givesBack_of_kept (h : Kept t) : GivesBack tr (s, e, t) := by
  refine ⟨h.not_stuck, fun _ ht => ⟨h.idle ht, ?_⟩⟩
  have hidle : t.caller = .idle := ht
  simp [step, hidle, h.idle ht]

theorem inTime_of_givesBack (h : Kept s) (hg : GivesBack tr (s, e, t)) (hs : step s e = some t) :
    InTime tr (s, e, t) := by
  obtain ⟨hstuck, haccepted⟩ := hg
  cases e with
  | newThread created =>
    cases created with
    | true => rfl
    | false =>
      simp only [step] at hs
      split_ifs at hs with hc
      · cases hs
        simp_all
      · cases hs
        have hcreated : s.caller = .created := by simpa using hc
        have hnone := (haccepted (by simp [hcreated]) rfl).1
        exact absurd hnone (h.created hcreated)
  | run =>
    intro htask
    simp only [step] at hs
    split_ifs at hs with hc
    · cases hs
      exact hstuck ⟨rfl, rfl, htask⟩
  | _ => trivial

/-- Once the task has returned, the caller gets out of the loop and returns. -/
theorem call_returns (h : Kept s) (hc : s.caller = .inside) (ht : s.task = .returned ∨ s.task = .finished) :
    ∃ es t, exec step s es = some t ∧ t.caller = .idle ∧ t.mainLoop = none ∧
      t.ret = some gattlibSuccess := by
  have hfinished : ∀ u : System, u.caller = .inside → u.task = .finished → u.isRunning = false →
      ∃ t, exec step u [.runReturns, .unref, .join, .clear] = some t ∧ t.caller = .idle ∧
        t.mainLoop = none ∧ t.ret = some gattlibSuccess := by
    intro u hcaller htask hflag
    simp [exec, step, hcaller, htask, hflag]
  rcases ht with ht | ht
  · obtain ⟨t, hexec, hend⟩ := hfinished { s with task := .finished, isRunning := false } hc rfl rfl
    refine ⟨.quit :: [.runReturns, .unref, .join, .clear], t, ?_, hend⟩
    simpa [exec, step, ht] using hexec
  · have hflag : s.isRunning = false := by
      rw [← Bool.not_eq_true]
      exact fun hr => h.not_stuck ⟨hc, hr, ht⟩
    obtain ⟨t, hexec, hend⟩ := hfinished s hc ht hflag
    exact ⟨_, t, hexec, hend⟩

end

/-- The loop is given back throughout exactly those runs in which every thread is created and
every loop is run before its task has asked it to quit. -/
theorem gives_back_iff {tr : List (System × Event × System)} {s : System}
    (h : Run step (· = {}) tr s) : Throughout GivesBack tr ↔ Throughout InTime tr := by
  refine (throughout_iff (I := fun _ s => Kept s) ?_ ?_ ?_ h).1
  · rintro s rfl
    exact kept_init
  · exact fun tr s e t hk hq hs => kept_step hk hq hs
  · intro tr s e t hk hs
    constructor
    · exact fun hg => inTime_of_givesBack hk hg hs
    · exact fun hq => givesBack_of_kept (kept_step hk hq hs)

/-- One call whose task returns while the loop is running. -/
theorem gives_back_iff_one : ∃ tr s, Run step (· = {}) tr s ∧
    (tr.map (fun x => x.2.1)).reverse = [.call, .newLoop, .newThread true, .run, .taskReturns, .quit,
      .runReturns, .unref, .join, .clear] ∧ Throughout GivesBack tr := by
  have hinit : Run step (· = {}) [] {} := .start rfl
  have hcreated := (hinit.next (e := .call) rfl).next (e := .newLoop) rfl
  have hinside := (hcreated.next (e := .newThread true) rfl).next (e := .run) rfl
  have hquit := (hinside.next (e := .taskReturns) rfl).next (e := .quit) rfl
  have hleft := (hquit.next (e := .runReturns) rfl).next (e := .unref) rfl
  have hcleared := (hleft.next (e := .join) rfl).next (e := .clear) rfl
  refine ⟨_, _, hcleared, rfl, (gives_back_iff hcleared).mpr ?_⟩
  simp [Throughout, InTime]

/-- A task that returns before the loop is run leaves the caller in the loop for ever, and a
thread that is not created leaves m_main_loop set, so that every later call is refused. -/
theorem loop_not_given_back :
    (∃ tr s, Run step (· = {}) tr s ∧ (tr.map (fun x => x.2.1)).reverse =
      [.call, .newLoop, .newThread true, .taskReturns, .quit, .run] ∧
      Stuck s ∧ (∀ e t, step s e = some t → t = s) ∧ ¬Throughout GivesBack tr) ∧
    ∃ tr s, Run step (· = {}) tr s ∧ (tr.map (fun x => x.2.1)).reverse =
      [.call, .newLoop, .newThread false, .call] ∧
      s.caller = .idle ∧ s.ret = some gattlibBusy ∧ ¬Throughout GivesBack tr := by
  have hinit : Run step (· = {}) [] {} := .start rfl
  have hcreated := (hinit.next (e := .call) rfl).next (e := .newLoop) rfl
  constructor
  · have hlost := ((hcreated.next (e := .newThread true) rfl).next (e := .taskReturns) rfl).next
      (e := .quit) rfl
    have hinside := hlost.next (e := .run) rfl
    refine ⟨_, _, hinside, rfl, ⟨rfl, rfl, rfl⟩, ?_, fun hg => hg.1.not_stuck ⟨rfl, rfl, rfl⟩⟩
    intro e t hs
    cases e <;> simp_all [step]
  · have hfailed := hcreated.next (e := .newThread false) rfl
    have hagain := hfailed.next (e := .call) rfl
    refine ⟨_, _, hagain, rfl, rfl, rfl, fun hg => ?_⟩
    have hnone := (hg.2.1.accepted (by decide) rfl).1
    cases hnone

end Gattlib.MainLoop
