import Gattlib.Library.Transition
import Mathlib.Logic.Relation

namespace Library.Locks

open Library.Transition

/-- What is left of a thread's code. The locks of a thread are taken and given back
one operation at a time, and every lock has one condition variable. -/
inductive Cmd (L D : Type)
  | done
  | acquire (l : L) (k : Cmd L D)
  | release (l : L) (k : Cmd L D)
  | update (f : D → D) (k : Cmd L D)
  | ask (k : D → Cmd L D)
  | broadcast (l : L) (k : Cmd L D)
  /-- give `l` back and sleep, then go on with `k`, or with `k'` after a timeout -/
  | wait (l : L) (timed : Bool) (k k' : Cmd L D)
  | asleep (l : L) (timed : Bool) (k k' : Cmd L D)
  /-- sleep as long as `p` holds, read with the lock `inner`, and go on with `k` -/
  | await (l : L) (inner : Option L) (p : D → Bool) (timed : Bool) (k k' : Cmd L D)

variable {L D C E : Type}

/-- A thread has read `p` with the lock `m`, which it gives back. -/
def checked (l m : L) (p : D → Bool) (timed : Bool) (k k' : Cmd L D) (d : D) : Cmd L D :=
  if p d then .release m (.wait l timed (.await l (some m) p timed k k') k') else .release m k

/-- Run a command to its next lock operation. -/
def settle (d : D) : Cmd L D → D × Cmd L D
  | .update f k => settle (f d) k
  | .ask k => settle d (k d)
  | .await l (some m) p timed k k' =>
    (d, .acquire m (.ask (checked l m p timed k k')))
  | .await l none p timed k k' =>
    if p d then (d, .wait l timed (.await l none p timed k k') k') else settle d k
  | .done => (d, .done)
  | .acquire l k => (d, .acquire l k)
  | .release l k => (d, .release l k)
  | .broadcast l k => (d, .broadcast l k)
  | .wait l timed k k' => (d, .wait l timed k k')
  | .asleep l timed k k' => (d, .asleep l timed k k')

/-- What a command does to the data when no other thread runs and no wait times out. -/
def effect : Cmd L D → D → D
  | .done, d => d
  | .acquire _ k, d | .release _ k, d | .broadcast _ k, d => effect k d
  | .update f k, d => effect k (f d)
  | .ask k, d => effect (k d) d
  | .wait _ _ k _, d | .asleep _ _ k _, d | .await _ _ _ _ k _, d => effect k d

section

variable {l m : L} {p : D → Bool} {timed : Bool} {k k' : Cmd L D}

theorem checked_effect (d : D) : effect (checked l m p timed k k' d) d = effect k d := by
  rw [checked]
  split
  · rfl
  · rfl

theorem settle_effect (c : Cmd L D) (d : D) :
    effect (settle d c).2 (settle d c).1 = effect c d := by
  induction c generalizing d with
  | update f k ih => exact ih (f d)
  | ask k ih => exact ih d d
  | await l inner p timed k k' ihk ihk' =>
    cases inner with
    | none =>
      rw [settle]
      split
      · rfl
      · exact ihk d
    | some m => exact checked_effect d
  | done | acquire | release | broadcast | wait | asleep => rfl

end

/-- Who holds a lock, and how often the holder has taken it again. -/
abbrev Owners (L : Type) := L → Option (Nat × Nat)

def share (t : Nat) : Option (Nat × Nat) → Nat
  | none => 0
  | some (u, n) => if u = t then n + 1 else 0

/-- How often a thread holds a lock. -/
def held (o : Owners L) (t : Nat) (l : L) : Nat := share t (o l)

theorem share_self (t n : Nat) : share t (some (t, n)) = n + 1 := if_pos rfl

theorem share_other {t u : Nat} (hu : t ≠ u) (n : Nat) : share u (some (t, n)) = 0 := if_neg hu

section

variable {o : Owners L} {l : L} {t u n : Nat}

theorem held_none (ho : o l = none) (t : Nat) : held o t l = 0 := by
  rw [held, ho]
  rfl

theorem held_owner (ho : o l = some (t, n)) : held o t l = n + 1 := by
  rw [held, ho, share_self]

theorem held_other (ho : o l = some (t, n)) (hu : t ≠ u) : held o u l = 0 := by
  rw [held, ho, share_other hu]

theorem owner_of_held (hh : 0 < held o t l) : ∃ n, o l = some (t, n) := by
  cases ho : o l with
  | none =>
    rw [held_none ho] at hh
    omega
  | some x =>
    obtain ⟨u, n⟩ := x
    by_cases hu : u = t
    · exact ⟨n, by rw [hu]⟩
    · rw [held_other ho hu] at hh
      omega

end

structure State (L D : Type) where
  threads : Nat → Cmd L D
  owners : Owners L
  data : D

/-- The programs that threads may run, and what happens to the data besides, with
the lock `guard` held. -/
structure System (L D C E : Type) where
  recursive : L → Bool
  program : C → Cmd L D
  guard : L
  outside : D → E → Option D

section

variable [DecidableEq L]

def enter (recursive : L → Bool) (o : Owners L) (t : Nat) (l : L) : Option (Owners L) :=
  match o l with
  | none => some (Function.update o l (some (t, 0)))
  | some (u, n) =>
    if u = t ∧ recursive l = true then some (Function.update o l (some (t, n + 1))) else none

def leave (o : Owners L) (t : Nat) (l : L) : Option (Owners L) :=
  match o l with
  | none => none
  | some (u, 0) => if u = t then some (Function.update o l none) else none
  | some (u, n + 1) => if u = t then some (Function.update o l (some (t, n))) else none

def wakened (l : L) : Cmd L D → Cmd L D
  | .asleep m timed k k' => if m = l then .acquire m k else .asleep m timed k k'
  | c => c

def wakeAll (s : State L D) (l : L) : State L D :=
  { s with threads := fun t => wakened l (s.threads t) }

/-- A thread has done a lock operation and goes on to the next one. -/
def proceed (s : State L D) (t : Nat) (o : Owners L) (k : Cmd L D) : State L D where
  threads := Function.update s.threads t (settle s.data k).2
  owners := o
  data := (settle s.data k).1

/-- One lock operation of a thread. -/
def runThread (recursive : L → Bool) (s : State L D) (t : Nat) : Option (State L D) :=
  match s.threads t with
  | .acquire l k => (enter recursive s.owners t l).map (fun o => proceed s t o k)
  | .release l k => (leave s.owners t l).map (fun o => proceed s t o k)
  | .broadcast l k => some (proceed (wakeAll s l) t s.owners k)
  | .wait l timed k k' =>
    (leave s.owners t l).map (fun o => proceed s t o (.asleep l timed k k'))
  | .done | .update _ _ | .ask _ | .asleep _ _ _ _ | .await _ _ _ _ _ _ => none

inductive Event (C E : Type)
  | start (thread : Nat) (call : C)
  | run (thread : Nat)
  /-- a sleeping thread wakes of itself -/
  | wake (thread : Nat)
  | timeout (thread : Nat)
  | other (e : E)

def step (S : System L D C E) (s : State L D) : Event C E → Option (State L D)
  | .start t c =>
    match s.threads t with
    | .done => some (proceed s t s.owners (S.program c))
    | _ => none
  | .run t => runThread S.recursive s t
  | .wake t =>
    match s.threads t with
    | .asleep l _ k _ => some (proceed s t s.owners (.acquire l k))
    | _ => none
  | .timeout t =>
    match s.threads t with
    | .asleep l true _ k' => some (proceed s t s.owners (.acquire l k'))
    | _ => none
  | .other e =>
    match s.owners S.guard with
    | none => (S.outside s.data e).map (fun d => { s with data := d })
    | some _ => none

/-- No thread has started and no lock is held. -/
structure Idle (data : D → Prop) (s : State L D) : Prop where
  threads : ∀ t, s.threads t = .done
  owners : ∀ l, s.owners l = none
  data : data s.data

/-- The thread is about to take a lock that another thread holds, or that it holds
itself and cannot take again. -/
structure WaitsOn (recursive : L → Bool) (locks : L → Prop) (s : State L D) (t u : Nat)
    (l : L) : Prop where
  among : locks l
  wants : ∃ k, s.threads t = .acquire l k
  owner : 0 < held s.owners u l
  again : u = t → recursive l = false

def Waits (recursive : L → Bool) (locks : L → Prop) (s : State L D) (t u : Nat) : Prop :=
  ∃ l, WaitsOn recursive locks s t u l

/-- Threads wait for each other in a cycle. -/
def Deadlocked (recursive : L → Bool) (locks : L → Prop) (s : State L D) : Prop :=
  ∃ t, Relation.TransGen (Waits recursive locks s) t t

/-- The thread holds `l` and is about to take `m`. -/
def Between (s : State L D) (t : Nat) (l m : L) : Prop :=
  0 < held s.owners t l ∧ ∃ k, s.threads t = .acquire m k

/-- The next operation of the thread leaves it holding `l` and about to take `m`. -/
def Lands (recursive : L → Bool) (s : State L D) (t : Nat) (l m : L) : Prop :=
  ∃ s', runThread recursive s t = some s' ∧ Between s' t l m

def bump (h : L → Nat) (l : L) : L → Nat := Function.update h l (h l + 1)

def drop (h : L → Nat) (l : L) : L → Nat := Function.update h l (h l - 1)

/-- A sleeping thread holds no recursive lock, and may take its own lock again. -/
structure Sleepable (recursive : L → Bool) (take : (L → Nat) → L → Prop) (h : L → Nat)
    (l : L) : Prop where
  free : h l = 0
  take : take h l
  plain : recursive l = false
  outer : ∀ m, recursive m = true → h m = 0

/-- The code gives back what it takes, and takes a lock only as `take` allows, given
what it holds. -/
def Respects (recursive : L → Bool) (take : (L → Nat) → L → Prop) : (L → Nat) → Cmd L D → Prop
  | h, .done => ∀ l, h l = 0
  | h, .acquire l k => take h l ∧ Respects recursive take (bump h l) k
  | h, .release l k => 0 < h l ∧ Respects recursive take (drop h l) k
  | h, .update _ k => Respects recursive take h k
  | h, .ask k => ∀ d, Respects recursive take h (k d)
  | h, .broadcast _ k => Respects recursive take h k
  | h, .wait l _ k k' => h l = 1 ∧ Sleepable recursive take (drop h l) l ∧
      Respects recursive take h k ∧ Respects recursive take h k'
  | h, .asleep l _ k k' => Sleepable recursive take h l ∧
      Respects recursive take (bump h l) k ∧ Respects recursive take (bump h l) k'
  | h, .await l inner _ _ k k' => h l = 1 ∧ Sleepable recursive take (drop h l) l ∧
      (∀ m ∈ inner, take h m) ∧ Respects recursive take h k ∧ Respects recursive take h k'

/-- Every thread is in code that respects the rules, given what it holds. -/
def Sane (recursive : L → Bool) (take : (L → Nat) → L → Prop) (s : State L D) : Prop :=
  ∀ t, Respects recursive take (held s.owners t) (s.threads t)

section

variable {recursive : L → Bool} {take : (L → Nat) → L → Prop} {h : L → Nat} {l m : L}
  {o o' : Owners L} {t u : Nat} {c k : Cmd L D} {s s' : State L D}

theorem drop_bump (h : L → Nat) (l : L) : drop (bump h l) l = h := by
  funext m
  by_cases hm : m = l
  · subst m
    rw [drop, bump, Function.update_self, Function.update_self, Nat.add_sub_cancel]
  · rw [drop, Function.update_of_ne hm, bump, Function.update_of_ne hm]

theorem bump_drop (h : L → Nat) (hl : h l = 1) : bump (drop h l) l = h := by
  funext m
  by_cases hm : m = l
  · subst m
    rw [bump, drop, Function.update_self, Function.update_self, hl]
  · rw [bump, Function.update_of_ne hm, drop, Function.update_of_ne hm]

theorem held_update (o : Owners L) (l : L) (x : Option (Nat × Nat)) (t : Nat) :
    held (Function.update o l x) t = Function.update (held o t) l (share t x) := by
  funext m
  by_cases hm : m = l
  · subst m
    rw [Function.update_self, held, Function.update_self]
  · rw [Function.update_of_ne hm, held, Function.update_of_ne hm, held]

theorem held_same {x : Option (Nat × Nat)} (hx : share t x = held o t l) :
    held (Function.update o l x) t = held o t := by
  rw [held_update, hx]
  exact Function.update_eq_self l (held o t)

theorem held_enter (he : enter recursive o t l = some o') (u : Nat) :
    held o' u = if u = t then bump (held o t) l else held o u := by
  unfold enter at he
  cases ho : o l with
  | none =>
    rw [ho, Option.some.injEq] at he
    subst he
    by_cases hu : u = t
    · subst u
      rw [if_pos rfl, held_update, share_self, bump, held_none ho]
    · rw [if_neg hu]
      apply held_same
      rw [share_other (Ne.symm hu), held_none ho]
  | some x =>
    obtain ⟨v, n⟩ := x
    rw [ho] at he
    simp only [Option.ite_none_right_eq_some, Option.some.injEq] at he
    obtain ⟨⟨rfl, _⟩, rfl⟩ := he
    by_cases hu : u = v
    · subst u
      rw [if_pos rfl, held_update, share_self, bump, held_owner ho]
    · rw [if_neg hu]
      apply held_same
      rw [share_other (Ne.symm hu), held_other ho (Ne.symm hu)]

theorem held_leave (he : leave o t l = some o') (u : Nat) :
    held o' u = if u = t then drop (held o t) l else held o u := by
  unfold leave at he
  cases ho : o l with
  | none =>
    rw [ho] at he
    cases he
  | some x =>
    obtain ⟨v, n⟩ := x
    rw [ho] at he
    have hother : u ≠ v → held o u l = 0 := fun hu => held_other ho (Ne.symm hu)
    cases n with
    | zero =>
      simp only [Option.ite_none_right_eq_some, Option.some.injEq] at he
      obtain ⟨rfl, rfl⟩ := he
      by_cases hu : u = v
      · subst u
        rw [if_pos rfl, held_update, drop, held_owner ho]
        rfl
      · rw [if_neg hu]
        exact held_same (hother hu).symm
    | succ n =>
      simp only [Option.ite_none_right_eq_some, Option.some.injEq] at he
      obtain ⟨rfl, rfl⟩ := he
      by_cases hu : u = v
      · subst u
        rw [if_pos rfl, held_update, drop, held_owner ho, share_self, Nat.add_sub_cancel]
      · rw [if_neg hu]
        apply held_same
        rw [share_other (Ne.symm hu), hother hu]

/-- A lock that has been taken is given back. -/
theorem release_respects (hk : Respects recursive take h k) :
    Respects recursive take (bump h l) (.release l k) := by
  refine ⟨?_, ?_⟩
  · rw [bump, Function.update_self]
    exact Nat.succ_pos _
  · rw [drop_bump]
    exact hk

/-- A thread that has taken a plain lock, and holds no recursive one, may sleep on it. -/
theorem await_respects {inner : Option L} {p : D → Bool} {timed : Bool} {k' : Cmd L D}
    (hfree : h l = 0) (htake : take h l) (hplain : recursive l = false)
    (houter : ∀ m, recursive m = true → h m = 0) (hinner : ∀ m ∈ inner, take (bump h l) m)
    (hk : Respects recursive take h k) (hk' : Respects recursive take h k') :
    Respects recursive take (bump h l)
      (.await l inner p timed (.release l k) (.release l k')) := by
  refine ⟨?_, ?_, hinner, release_respects hk, release_respects hk'⟩
  · rw [bump, Function.update_self, hfree]
  · rw [drop_bump]
    exact ⟨hfree, htake, hplain, houter⟩

/-- What comes before the next lock operation keeps to the rules. -/
theorem settle_respects (hc : Respects recursive take h c) (d : D) :
    Respects recursive take h (settle d c).2 := by
  induction c generalizing d with
  | update f k ih => exact ih hc (f d)
  | ask k ih => exact ih d (hc d) d
  | await l inner p timed k k' ihk ihk' =>
    obtain ⟨hl, hsleep, htake, hk, hk'⟩ := hc
    have hwait : Respects recursive take h (.wait l timed (.await l inner p timed k k') k') :=
      ⟨hl, hsleep, ⟨hl, hsleep, htake, hk, hk'⟩, hk'⟩
    cases inner with
    | none =>
      rw [settle]
      split
      · exact hwait
      · exact ihk hk d
    | some m =>
      refine ⟨htake m rfl, fun d => ?_⟩
      have hpos : 0 < bump h m m := by
        rw [bump, Function.update_self]
        exact Nat.succ_pos _
      unfold checked
      split
      · refine ⟨hpos, ?_⟩
        rw [drop_bump]
        exact hwait
      · refine ⟨hpos, ?_⟩
        rw [drop_bump]
        exact hk
  | done | acquire | release | broadcast | wait | asleep => exact hc

/-- A lock operation leaves the effect of the thread's code what it is. -/
theorem run_effect (hr : runThread recursive s t = some s') :
    effect (s'.threads t) s'.data = effect (s.threads t) s.data := by
  have hproceed : ∀ (s : State L D) (o : Owners L) (k : Cmd L D),
      effect ((proceed s t o k).threads t) (proceed s t o k).data = effect k s.data := by
    intro s o k
    simp only [proceed, Function.update_self]
    exact settle_effect k s.data
  unfold runThread at hr
  split at hr
  · next l k hc =>
    obtain ⟨o, _, rfl⟩ := Option.map_eq_some_iff.mp hr
    rw [hproceed, hc, effect]
  · next l k hc =>
    obtain ⟨o, _, rfl⟩ := Option.map_eq_some_iff.mp hr
    rw [hproceed, hc, effect]
  · next l k hc =>
    cases hr
    rw [hproceed, hc, effect, wakeAll]
  · next l timed k k' hc =>
    obtain ⟨o, _, rfl⟩ := Option.map_eq_some_iff.mp hr
    rw [hproceed, hc, effect, effect]
  all_goals cases hr

theorem runs_effect {S : System L D C E} {n : Nat}
    (h : exec (step S) s (List.replicate n (.run t)) = some s') :
    effect (s'.threads t) s'.data = effect (s.threads t) s.data := by
  induction n generalizing s with
  | zero =>
    cases h
    rfl
  | succ n ih =>
    obtain ⟨u, hu, h⟩ := Option.bind_eq_some_iff.mp h
    exact (ih h).trans (run_effect hu)

/-- A thread that is started and runs to its end, while no other one runs, leaves the data as the
effect of its program says. -/
theorem call_effect {S : System L D C E} {c : C} {n : Nat} (ht : s.threads t = .done)
    (h : exec (step S) s (.start t c :: List.replicate n (.run t)) = some s')
    (hdone : s'.threads t = .done) : s'.data = effect (S.program c) s.data := by
  obtain ⟨u, hu, h⟩ := Option.bind_eq_some_iff.mp h
  simp only [step, ht, Option.some.injEq] at hu
  have hstart : effect (u.threads t) u.data = effect (S.program c) s.data := by
    subst hu
    simp only [proceed, Function.update_self]
    exact settle_effect (S.program c) s.data
  have hruns := runs_effect h
  rw [hdone, hstart, effect] at hruns
  exact hruns

theorem wakened_respects (hc : Respects recursive take h c) :
    Respects recursive take h (wakened l c) := by
  cases c with
  | asleep m timed k k' =>
    have ⟨hsleep, hk, _⟩ := hc
    rw [wakened]
    split
    · next hm =>
      subst hm
      exact ⟨hsleep.take, hk⟩
    · exact hc
  | done | acquire | release | update | ask | broadcast | wait | await => exact hc

/-- A lock operation of one thread leaves the others what they hold. -/
theorem sane_proceed (hs : Sane recursive take s) (hk : Respects recursive take (held o t) k)
    (ho : ∀ u, u ≠ t → held o u = held s.owners u) : Sane recursive take (proceed s t o k) := by
  intro u
  by_cases hu : u = t
  · subst u
    simp only [proceed, Function.update_self]
    exact settle_respects hk s.data
  · simp only [proceed, Function.update_of_ne hu]
    rw [ho u hu]
    exact hs u

theorem sane_wakeAll (hs : Sane recursive take s) (l : L) : Sane recursive take (wakeAll s l) :=
  fun t => wakened_respects (hs t)

theorem sane_run (hs : Sane recursive take s) (hr : runThread recursive s t = some s') :
    Sane recursive take s' := by
  have ht := hs t
  unfold runThread at hr
  split at hr
  · next l k hc =>
    rw [hc] at ht
    obtain ⟨o, ho, rfl⟩ := Option.map_eq_some_iff.mp hr
    have hheld := held_enter ho
    refine sane_proceed hs ?_ (fun u hu => by rw [hheld, if_neg hu])
    rw [hheld, if_pos rfl]
    exact ht.2
  · next l k hc =>
    rw [hc] at ht
    obtain ⟨o, ho, rfl⟩ := Option.map_eq_some_iff.mp hr
    have hheld := held_leave ho
    refine sane_proceed hs ?_ (fun u hu => by rw [hheld, if_neg hu])
    rw [hheld, if_pos rfl]
    exact ht.2
  · next l k hc =>
    rw [hc] at ht
    cases hr
    exact sane_proceed (sane_wakeAll hs l) ht (fun _ _ => rfl)
  · next l timed k k' hc =>
    rw [hc] at ht
    obtain ⟨hl, hsleep, hk, hk'⟩ := ht
    obtain ⟨o, ho, rfl⟩ := Option.map_eq_some_iff.mp hr
    have hheld := held_leave ho
    refine sane_proceed hs ?_ (fun u hu => by rw [hheld, if_neg hu])
    rw [hheld, if_pos rfl]
    refine ⟨hsleep, ?_, ?_⟩
    · rw [bump_drop _ hl]
      exact hk
    · rw [bump_drop _ hl]
      exact hk'
  all_goals cases hr

theorem sane_step {S : System L D C E} {e : Event C E}
    (hprogram : ∀ c, Respects S.recursive take (fun _ => 0) (S.program c))
    (hs : Sane S.recursive take s) (hstep : step S s e = some s') :
    Sane S.recursive take s' := by
  cases e with
  | start t c =>
    have ht := hs t
    simp only [step] at hstep
    split at hstep
    · next hc =>
      cases hstep
      rw [hc] at ht
      have hzero : held s.owners t = fun _ => 0 := funext ht
      refine sane_proceed hs ?_ (fun _ _ => rfl)
      rw [hzero]
      exact hprogram c
    · cases hstep
  | run t => exact sane_run hs hstep
  | wake t =>
    have ht := hs t
    simp only [step] at hstep
    split at hstep
    · next hc =>
      cases hstep
      rw [hc] at ht
      obtain ⟨hsleep, hk, _⟩ := ht
      exact sane_proceed hs ⟨hsleep.take, hk⟩ (fun _ _ => rfl)
    · cases hstep
  | timeout t =>
    have ht := hs t
    simp only [step] at hstep
    split at hstep
    · next hc =>
      cases hstep
      rw [hc] at ht
      obtain ⟨hsleep, _, hk'⟩ := ht
      exact sane_proceed hs ⟨hsleep.take, hk'⟩ (fun _ _ => rfl)
    · cases hstep
  | other e =>
    simp only [step] at hstep
    split at hstep
    · obtain ⟨d, _, rfl⟩ := Option.map_eq_some_iff.mp hstep
      exact hs
    · cases hstep

theorem sane_idle {data : D → Prop} (hi : Idle data s) : Sane recursive take s := by
  intro t
  rw [hi.threads]
  exact fun l => held_none (hi.owners l) t

end

end

end Library.Locks
