import Mathlib.Data.List.Basic
import Mathlib.Data.Nat.Notation

namespace Library.Dialogue

/-! A client that sends one request at a time and decides on each answer how to go on -/

variable {σ τ Req Resp R : Type}

/-- The client goes on with a request, or ends. -/
inductive Next (σ Req R : Type)
  | send (s : σ) (req : Req)
  | stop (r : R)

/-- How a dialogue stands: it has ended, the peer has not answered, or another answer is awaited. -/
inductive Outcome (τ R : Type)
  | ended (peer : τ) (r : R)
  | unanswered (peer : τ)
  | running

def Outcome.Over : Outcome τ R → Prop
  | .running => False
  | _ => True

/-- The dialogue up to a number of requests. -/
def converse (client : σ → Resp → Next σ Req R) (peer : τ → Req → τ × Option Resp) :
    ℕ → τ → Next σ Req R → Outcome τ R
  | _, t, .stop r => .ended t r
  | 0, _, .send _ _ => .running
  | n + 1, t, .send s req =>
    match peer t req with
    | (t', none) => .unanswered t'
    | (t', some resp) => converse client peer n t' (client s resp)

variable {client : σ → Resp → Next σ Req R} {peer : τ → Req → τ × Option Resp} {n : ℕ} {t t' : τ}
  {s : σ} {req : Req}

@[simp] theorem converse_stop (n : ℕ) (t : τ) (r : R) :
    converse client peer n t (.stop r) = .ended t r := by
  cases n <;> rfl

theorem converse_answered {resp : Resp} (h : peer t req = (t', some resp)) :
    converse client peer (n + 1) t (.send s req) = converse client peer n t' (client s resp) := by
  rw [converse, h]

/-- What goes down with every answer bounds the number of requests, whatever the peer answers. The
answers may be ones of which the peer is known to give no others. -/
theorem converse_over (measure : σ → ℕ) (Answers : τ → Prop) (Given : Resp → Prop)
    (hpeer : ∀ t req, Answers t → Answers (peer t req).1 ∧ ∀ resp ∈ (peer t req).2, Given resp)
    (hdown : ∀ s resp s' req, Given resp → client s resp = .send s' req → measure s' < measure s)
    (ht : Answers t) (hn : measure s < n) : (converse client peer n t (.send s req)).Over := by
  induction n generalizing s t req with
  | zero => exact absurd hn (Nat.not_lt_zero _)
  | succ n ih =>
    obtain ⟨ht', hgiven⟩ := hpeer t req ht
    rw [converse]
    split
    · trivial
    · rename_i t' resp hp
      rw [hp] at ht' hgiven
      cases hc : client s resp with
      | stop r =>
        rw [converse_stop]
        trivial
      | send s' req' =>
        have hlt := hdown s resp s' req' (hgiven resp rfl) hc
        exact ih ht' (by omega)

/-- The rule for a dialogue with a peer that is known: as long as an invariant of the two parties and of
the request under way holds, the dialogue is about to end as it should, or goes on, which it does a
bounded number of times. -/
theorem converse_leads (measure : σ → ℕ) (Inv : σ → τ → Req → Prop) (Goal : Outcome τ R → Prop)
    (hstep : ∀ s t req, Inv s t req →
      (∀ n, Goal (converse client peer (n + 1) t (.send s req))) ∨
        ∃ t' resp s' req', peer t req = (t', some resp) ∧ client s resp = .send s' req' ∧
          Inv s' t' req' ∧ measure s' < measure s)
    (h : Inv s t req) (hn : measure s < n) : Goal (converse client peer n t (.send s req)) := by
  induction n generalizing s t req with
  | zero => exact absurd hn (Nat.not_lt_zero _)
  | succ n ih =>
    rcases hstep s t req h with hgoal | ⟨t', resp, s', req', hp, hc, hinv, hlt⟩
    · exact hgoal n
    · rw [converse_answered hp, hc]
      exact ih hinv (by omega)

/-- A client that certain answers keep going never ends the dialogue with a peer that gives no others. -/
theorem converse_forever {Stays : σ → Prop} {Given : Resp → Prop}
    (hstays : ∀ s resp, Stays s → Given resp → ∃ s' req, client s resp = .send s' req ∧ Stays s')
    (hpeer : ∀ t req, ∃ resp, (peer t req).2 = some resp ∧ Given resp) (hs : Stays s) :
    converse client peer n t (.send s req) = .running := by
  induction n generalizing s t req with
  | zero => rfl
  | succ n ih =>
    obtain ⟨resp, hresp, hgiven⟩ := hpeer t req
    obtain ⟨s', req', hc, hs'⟩ := hstays s resp hs hgiven
    have hp : peer t req = ((peer t req).1, some resp) := Prod.ext rfl hresp
    rw [converse_answered hp, hc]
    exact ih hs'

/-- What the client makes of the answers from a state on, whatever they are. -/
theorem converse_result {Inv : σ → Prop} {Post : R → Prop}
    (hstop : ∀ s resp r, Inv s → client s resp = .stop r → Post r)
    (hsend : ∀ s resp s' req, Inv s → client s resp = .send s' req → Inv s') {r : R} (hs : Inv s)
    (h : converse client peer n t (.send s req) = .ended t' r) : Post r := by
  induction n generalizing s t req with
  | zero => cases h
  | succ n ih =>
    rw [converse] at h
    split at h
    · cases h
    · rename_i t₁ resp _
      cases hc : client s resp with
      | stop r' =>
        rw [hc, converse_stop] at h
        cases h
        exact hstop s resp _ hs hc
      | send s' req' =>
        rw [hc] at h
        exact ih (hsend s resp s' req' hs hc) h

/-- A list that the client asks for in parts. As long as every answer to a request that `Asks` brings
the next items or says that there are none, the client has the whole list in the end, after one request
more than there are items at most. -/
theorem pages_complete {α : Type} {items : List α} {Asks : List α → Prop} {collected : List α → σ}
    {request : List α → Req} {result : R}
    (hpage : ∀ done rest, items = done ++ rest → Asks done →
      ∃ resp, peer t (request done) = (t, some resp) ∧
        ((rest = [] ∧ client (collected done) resp = .stop result) ∨
          ∃ page more, page ≠ [] ∧ rest = page ++ more ∧
            ((more = [] ∧ client (collected done) resp = .stop result) ∨
              Asks (done ++ page) ∧ client (collected done) resp =
                .send (collected (done ++ page)) (request (done ++ page)))))
    {done rest : List α} (hitems : items = done ++ rest) (hasks : Asks done) (hn : rest.length < n) :
    converse client peer n t (.send (collected done) (request done)) = .ended t result := by
  induction n generalizing done rest with
  | zero => exact absurd hn (Nat.not_lt_zero _)
  | succ n ih =>
    obtain ⟨resp, hp, hnext⟩ := hpage done rest hitems hasks
    rw [converse_answered hp]
    rcases hnext with ⟨-, hc⟩ | ⟨page, more, hpos, hrest, ⟨-, hc⟩ | ⟨hasks', hc⟩⟩
    · rw [hc, converse_stop]
    · rw [hc, converse_stop]
    · rw [hc]
      have hitems' : items = (done ++ page) ++ more := by rw [hitems, hrest, List.append_assoc]
      refine ih hitems' hasks' ?_
      have hlen := List.length_pos_iff.mpr hpos
      rw [hrest, List.length_append] at hn
      omega

end Library.Dialogue
