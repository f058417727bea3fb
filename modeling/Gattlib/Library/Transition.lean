import Mathlib.Logic.Function.Basic
import Mathlib.Logic.Relation

namespace Library.Transition

variable {S E : Type}

/-- The states a system reaches from an initial state by steps that all meet
`ok`, a condition on the state before the step and on the step's label. -/
inductive Reach (step : S → E → Option S) (ok : S → E → Prop) (init : S → Prop) : S → Prop
  | start {s : S} (h : init s) : Reach step ok init s
  | next {s t : S} {e : E} (h : Reach step ok init s) (hok : ok s e)
      (hs : step s e = some t) : Reach step ok init t

/-- The condition met by every step. -/
def AnyStep (_ : S) (_ : E) : Prop := True

instance (s : S) (e : E) : Decidable (AnyStep s e) := inferInstanceAs (Decidable True)

/-- What one step has to preserve for a property to hold along every run. -/
def Preserves (step : S → E → Option S) (ok : S → E → Prop) (inv : S → Prop) : Prop :=
  ∀ s e t, inv s → ok s e → step s e = some t → inv t

variable {step : S → E → Option S} {ok ok' : S → E → Prop} {init inv : S → Prop} {s t : S}

theorem reach_invariant (inv : S → Prop) (hinit : ∀ s, init s → inv s)
    (hstep : Preserves step ok inv) (h : Reach step ok init s) : inv s := by
  induction h with
  | start h => exact hinit _ h
  | next _ hok hs ih => exact hstep _ _ _ ih hok hs

theorem reach_trans (h : Reach step ok init s) (ht : Reach step ok (· = s) t) :
    Reach step ok init t := by
  induction ht with
  | start he => exact he ▸ h
  | next _ ho hs ih => exact .next ih ho hs

/-- A run with its steps, the last one first: the state before, the label, the state after. -/
inductive Run (step : S → E → Option S) (init : S → Prop) : List (S × E × S) → S → Prop
  | start {s : S} (h : init s) : Run step init [] s
  | next {s t : S} {e : E} {tr : List (S × E × S)} (h : Run step init tr s)
      (hs : step s e = some t) : Run step init ((s, e, t) :: tr) t

theorem run_reach {tr : List (S × E × S)} (h : Run step init tr s)
    (hok : ∀ x ∈ tr, ok x.1 x.2.1) : Reach step ok init s := by
  induction h with
  | start h => exact .start h
  | next _ hs ih =>
    exact .next (ih (fun x hx => hok x (List.mem_cons_of_mem _ hx)))
      (hok _ List.mem_cons_self) hs

theorem run_next {e : E} {tr : List (S × E × S)}
    (h : Run step init tr s ∧ ∀ x ∈ tr, ok x.1 x.2.1) (hok : ok s e) (hs : step s e = some t) :
    Run step init ((s, e, t) :: tr) t ∧ ∀ x ∈ (s, e, t) :: tr, ok x.1 x.2.1 :=
  ⟨.next h.1 hs, List.forall_mem_cons.mpr ⟨hok, h.2⟩⟩

/-- Every step of a run is taken from a state that has the invariant. -/
theorem run_steps (hinit : ∀ s, init s → inv s) (hstep : Preserves step ok inv)
    {tr : List (S × E × S)} (h : Run step init tr s) (hok : ∀ x ∈ tr, ok x.1 x.2.1) :
    inv s ∧ ∀ x ∈ tr, inv x.1 ∧ step x.1 x.2.1 = some x.2.2 := by
  induction h with
  | start h => exact ⟨hinit _ h, by simp⟩
  | next _ hs ih =>
    obtain ⟨hi, hall⟩ := ih (fun x hx => hok x (List.mem_cons_of_mem _ hx))
    refine ⟨hstep _ _ _ hi (hok _ List.mem_cons_self) hs, fun x hx => ?_⟩
    rcases List.mem_cons.mp hx with rfl | hx
    · exact ⟨hi, hs⟩
    · exact hall x hx

/-- What holds of every step of a run, given the steps before it. -/
def Throughout (P : List (S × E × S) → S × E × S → Prop) : List (S × E × S) → Prop
  | [] => True
  | x :: tr => P tr x ∧ Throughout P tr

theorem throughout_all {P : List (S × E × S) → S × E × S → Prop} {tr : List (S × E × S)}
    (h : ∀ x ∈ tr, ∀ before, P before x) : Throughout P tr := by
  induction tr with
  | nil => trivial
  | cons x tr ih =>
    obtain ⟨hx, htr⟩ := List.forall_mem_cons.mp h
    exact ⟨hx tr, ih htr⟩

/-- Two properties hold throughout the same runs if they agree on the steps from a state that
has an invariant of the run so far, and the second one keeps that invariant. -/
theorem throughout_iff {P Q : List (S × E × S) → S × E × S → Prop}
    {I : List (S × E × S) → S → Prop} (hinit : ∀ s, init s → I [] s)
    (hkeep : ∀ tr s e t, I tr s → Q tr (s, e, t) → step s e = some t → I ((s, e, t) :: tr) t)
    (hagree : ∀ tr s e t, I tr s → step s e = some t → (P tr (s, e, t) ↔ Q tr (s, e, t)))
    {tr : List (S × E × S)} (h : Run step init tr s) :
    (Throughout P tr ↔ Throughout Q tr) ∧ (Throughout Q tr → I tr s) := by
  induction h with
  | start h => exact ⟨Iff.rfl, fun _ => hinit _ h⟩
  | next _ hs ih =>
    obtain ⟨hiff, hheld⟩ := ih
    refine ⟨⟨fun hP => ?_, fun hQ => ?_⟩, fun hQ => hkeep _ _ _ _ (hheld hQ.2) hQ.1 hs⟩
    · have hQ := hiff.mp hP.2
      exact ⟨(hagree _ _ _ _ (hheld hQ) hs).mp hP.1, hQ⟩
    · exact ⟨(hagree _ _ _ _ (hheld hQ.2) hs).mpr hQ.1, hiff.mpr hQ.2⟩

/-- Where only one direction is at hand: a condition on every step that keeps an invariant of the
run so far, and is enough for the property. -/
theorem throughout_imp {P Q : List (S × E × S) → S × E × S → Prop}
    {I : List (S × E × S) → S → Prop} (hinit : ∀ s, init s → I [] s)
    (hkeep : ∀ tr s e t, I tr s → Q tr (s, e, t) → step s e = some t → I ((s, e, t) :: tr) t)
    (henough : ∀ tr s e t, I tr s → Q tr (s, e, t) → step s e = some t → P tr (s, e, t))
    {tr : List (S × E × S)} (h : Run step init tr s) (hQ : Throughout Q tr) :
    Throughout P tr ∧ I tr s := by
  induction h with
  | start h => exact ⟨trivial, hinit _ h⟩
  | next _ hs ih =>
    obtain ⟨hP, hheld⟩ := ih hQ.2
    exact ⟨⟨henough _ _ _ _ hheld hQ.1 hs, hP⟩, hkeep _ _ _ _ hheld hQ.1 hs⟩

theorem throughout_next {P : List (S × E × S) → S × E × S → Prop} {e : E}
    {tr : List (S × E × S)} (h : Run step init tr s ∧ Throughout P tr) (hP : P tr (s, e, t))
    (hs : step s e = some t) :
    Run step init ((s, e, t) :: tr) t ∧ Throughout P ((s, e, t) :: tr) :=
  ⟨.next h.1 hs, hP, h.2⟩

/-- A step may be made of several effects. What relates the states around one effect, and
composes, relates the states around all of them. -/
theorem effects_related {effect related : S → S → Prop} (hs : inv s)
    (h : Relation.ReflTransGen effect s t) (hkeep : ∀ {x y}, inv x → effect x y → inv y)
    (hrefl : ∀ x, related x x) (htrans : ∀ {x y z}, related x y → related y z → related x z)
    (heffect : ∀ {x y}, inv x → effect x y → related x y) : inv t ∧ related s t := by
  induction h with
  | refl => exact ⟨hs, hrefl s⟩
  | tail _ he ih =>
    obtain ⟨hi, hr⟩ := ih
    exact ⟨hkeep hi he, htrans hr (heffect hi he)⟩

theorem effects_keep {effect : S → S → Prop} (hs : inv s)
    (h : Relation.ReflTransGen effect s t) (hkeep : ∀ {x y}, inv x → effect x y → inv y) :
    inv t := by
  induction h with
  | refl => exact hs
  | tail _ he ih => exact hkeep ih he

/-- Run a list of labels, giving up at a label that is not enabled. -/
def exec (step : S → E → Option S) (s : S) : List E → Option S
  | [] => some s
  | e :: es => (step s e).bind (fun t => exec step t es)

theorem exec_getD {step : S → E → Option S} {s : S} {es : List E}
    (h : (exec step s es).isSome = true) (u : S) :
    exec step s es = some ((exec step s es).getD u) := by
  obtain ⟨t, ht⟩ := Option.isSome_iff_exists.mp h
  rw [ht, Option.getD_some]

theorem exec_append (step : S → E → Option S) (s : S) (es fs : List E) :
    exec step s (es ++ fs) = (exec step s es).bind (fun t => exec step t fs) := by
  induction es generalizing s with
  | nil => rfl
  | cons e es ih =>
    rw [List.cons_append, exec, exec, Option.bind_assoc]
    congr
    funext t
    exact ih t

theorem exec_run_from {tr : List (S × E × S)} (h : Run step init tr s) {es : List E}
    (he : exec step s es = some t) :
    ∃ tr', Run step init (tr' ++ tr) t ∧ (tr'.map (fun x => x.2.1)).reverse = es := by
  induction es generalizing s tr with
  | nil =>
    cases he
    exact ⟨[], h, rfl⟩
  | cons e es ih =>
    obtain ⟨u, hu, ht⟩ := Option.bind_eq_some_iff.mp he
    obtain ⟨tr', hrun, hes⟩ := ih (.next h hu) ht
    refine ⟨tr' ++ [(s, e, u)], ?_, ?_⟩
    · rw [List.append_assoc]
      exact hrun
    · rw [List.map_append, List.reverse_append, hes]
      rfl

/-- The steps of a list of labels, the last one first, up to a label that is not enabled. -/
def traceOf (step : S → E → Option S) (s : S) : List E → List (S × E × S)
  | [] => []
  | e :: es =>
    match step s e with
    | none => []
    | some t => traceOf step t es ++ [(s, e, t)]

theorem exec_trace {tr : List (S × E × S)} (h : Run step init tr s) {es : List E}
    (he : exec step s es = some t) : Run step init (traceOf step s es ++ tr) t := by
  induction es generalizing s tr with
  | nil =>
    cases he
    exact h
  | cons e es ih =>
    obtain ⟨u, hu, ht⟩ := Option.bind_eq_some_iff.mp he
    rw [traceOf, hu, List.append_assoc]
    exact ih (.next h hu) ht

/-- A run goes on with labels that are all enabled. -/
theorem run_exec {tr : List (S × E × S)} (h : Run step init tr s) (es : List E)
    (he : (exec step s es).isSome = true) :
    ∃ tr', Run step init (tr' ++ tr) ((exec step s es).get he) ∧
      (tr'.map (fun x => x.2.1)).reverse = es :=
  exec_run_from h (Option.some_get he).symm

theorem exec_reach (h : init s) (es : List E) (he : exec step s es = some t) :
    Reach step AnyStep init t := by
  obtain ⟨tr, hrun, _⟩ := exec_run_from (.start h) he
  exact run_reach hrun (fun _ _ => trivial)

/-- The same step function with the steps that miss `ok` taken out. -/
def guarded (step : S → E → Option S) (ok : S → E → Prop) [∀ s e, Decidable (ok s e)]
    (s : S) (e : E) : Option S :=
  if ok s e then step s e else none

theorem guarded_reach [∀ s e, Decidable (ok s e)] (h : Reach (guarded step ok) ok' init s) :
    Reach step ok init s := by
  induction h with
  | start h => exact .start h
  | next _ _ hs ih =>
    obtain ⟨ho, hs⟩ := Option.ite_none_right_eq_some.mp hs
    exact .next ih ho hs

theorem guarded_run [∀ s e, Decidable (ok s e)] {tr : List (S × E × S)}
    (h : Run (guarded step ok) init tr s) :
    Run step init tr s ∧ ∀ x ∈ tr, ok x.1 x.2.1 := by
  induction h with
  | start h => exact ⟨.start h, by simp⟩
  | next _ hs ih =>
    obtain ⟨ho, hs⟩ := Option.ite_none_right_eq_some.mp hs
    exact ⟨.next ih.1 hs, List.forall_mem_cons.mpr ⟨ho, ih.2⟩⟩

end Library.Transition
