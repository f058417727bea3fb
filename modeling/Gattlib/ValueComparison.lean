import Gattlib.DatabaseQueries
import Gattlib.GattServer

namespace Gattlib.ValueComparison

open Uuids (BtUuid)
open AttPdus GattDatabase GattServer ServiceOrder DatabaseLayout DatabaseQueries
open Library.Buffers Library.Records Library.Transition

/-- The request that asks for one attribute whether its value begins with some bytes. -/
def guessRequest (a : GattDbAttribute) (uuid : BitVec 16) (guess : List UInt8) : Pdu :=
  ⟨attOpFindByTypeReq, putLe16 a.handle ++ putLe16 a.handle ++ putLe16 uuid ++ guess⟩

section

variable {db : GattDb} {s t : GattDbService} {a : GattDbAttribute} {uuid : BitVec 16} {guess : List UInt8}
  {server : BtGattServer}

theorem btUuidSame_refl (uuid : BtUuid) : btUuidSame uuid uuid = true := beq_self_eq_true _

/-- One attribute of a service has the handle. -/
theorem sought_one (h : LaidOut s) (ha : a ∈ present s) (hu : a.uuid = .u16 uuid) :
    ((s.attributes.filterMap id).filter fun b =>
      !(b.handle < a.handle || b.handle > a.handle) && btUuidSame (.u16 uuid) b.uuid) = [a] := by
  obtain ⟨before, behind, hsplit⟩ := List.append_of_mem ha
  have hasc := h.ascending
  rw [hsplit] at hasc
  obtain ⟨-, hrest, hbefore⟩ := List.pairwise_append.mp hasc
  have hbehind := (List.pairwise_cons.mp hrest).1
  have hself : (!(a.handle < a.handle || a.handle > a.handle) && btUuidSame (.u16 uuid) a.uuid) = true := by
    have hirr : ¬a.handle < a.handle := Nat.lt_irrefl _
    rw [hu, btUuidSame_refl]
    simp [hirr]
  show (present s).filter _ = [a]
  rw [hsplit, List.filter_append, List.filter_cons, if_pos hself]
  have hnone : ∀ bs : List GattDbAttribute, (∀ b ∈ bs, b.handle.toNat ≠ a.handle.toNat) →
      (bs.filter fun b => !(b.handle < a.handle || b.handle > a.handle) && btUuidSame (.u16 uuid) b.uuid) = [] := by
    intro bs hbs
    rw [List.filter_eq_nil_iff]
    intro b hb
    have hne := hbs b hb
    have hlt : b.handle < a.handle ∨ b.handle > a.handle := Nat.lt_or_gt_of_ne hne
    rcases hlt with hlt | hgt
    · simp [hlt]
    · simp [hgt]
  rw [hnone before fun b hb => Nat.ne_of_lt (hbefore b hb a List.mem_cons_self),
    hnone behind fun b hb => Nat.ne_of_gt (hbehind b hb)]
  rfl

theorem sought_none (h : ∀ b ∈ present t, handleOf b ≠ handleOf a) :
    findByType a.handle a.handle (.u16 uuid) guess t = .ok [] := by
  have hnone : ((t.attributes.filterMap id).filter fun b =>
      !(b.handle < a.handle || b.handle > a.handle) && btUuidSame (.u16 uuid) b.uuid) = [] := by
    rw [List.filter_eq_nil_iff]
    intro b hb
    have hlt : b.handle < a.handle ∨ b.handle > a.handle := Nat.lt_or_gt_of_ne (h b hb)
    rcases hlt with hlt | hgt
    · simp [hlt]
    · simp [hgt]
  rw [findByType, hnone]
  split <;> rfl

/-- The attribute's service is found if the value begins with the bytes, which may fail. -/
theorem findByTypeValue_one (h : Regular db) (hs : s ∈ db.services) (hactive : s.active = true)
    (ha : a ∈ present s) (hu : a.uuid = .u16 uuid) :
    gattDbFindByTypeValue db a.handle a.handle (.u16 uuid) guess =
      (startsWith a.value guess).map fun found => if found then [s] else [] := by
  obtain ⟨pre, post, hsplit⟩ := List.append_of_mem hs
  have hapart := h.apart
  rw [hsplit] at hapart
  obtain ⟨-, hrest, hbefore⟩ := List.pairwise_append.mp hapart
  have hbehind := (List.pairwise_cons.mp hrest).1
  have hlaid : ∀ t ∈ pre ++ s :: post, LaidOut t := fun t ht => h.laidOut t (hsplit ▸ ht)
  have hin : handleOf a ≤ lastOf s := (h.laidOut s hs).inside a ha
  have hfirst := first_le_present (h.laidOut s hs) ha
  have hpre : ∀ t ∈ pre, (findByType a.handle a.handle (.u16 uuid) guess t).map (·.map fun _ => t) = .ok [] := by
    intro t ht
    rw [sought_none fun b hb => ?_]
    · rfl
    · have hle : handleOf b ≤ lastOf t := (hlaid t (List.mem_append_left _ ht)).inside b hb
      have hlt := hbefore t ht s List.mem_cons_self
      omega
  have hpost : ∀ t ∈ post, (findByType a.handle a.handle (.u16 uuid) guess t).map (·.map fun _ => t) = .ok [] := by
    intro t ht
    rw [sought_none fun b hb => ?_]
    · rfl
    · have hge := first_le_present (hlaid t (List.mem_append_right _ (List.mem_cons_of_mem _ ht))) hb
      have hlt := hbehind t ht
      omega
  rw [gattDbFindByTypeValue, hsplit, mapM_one hpre hpost, findByType, if_neg (by simp [hactive]),
    sought_one (h.laidOut s hs) ha hu, filterM_one]
  cases startsWith a.value guess with
  | error f => rfl
  | ok found => cases found <;> rfl

/-- What the server answers to a guess, whoever asks. -/
theorem guess_answer (h : Regular server.db) (hmtu : 5 ≤ server.attMtu.toNat) (hs : s ∈ server.db.services)
    (hactive : s.active = true) (ha : a ∈ present s) (hu : a.uuid = .u16 uuid) (junk : ℕ → UInt8) (guess : List UInt8) :
    handleRequest junk server (guessRequest a uuid guess) = (server, match startsWith a.value guess with
      | .error f => .fault f
      | .ok true => .sent ⟨attOpFindByTypeResp, putLe16 s.startHandle ++ putLe16 s.endHandle⟩
      | .ok false => errorRsp attOpFindByTypeReq a.handle btAttErrorAttributeNotFound) := by
  have hpayload : (guessRequest a uuid guess).payload =
      putLe16 a.handle ++ (putLe16 a.handle ++ (putLe16 uuid ++ guess)) := by
    simp only [guessRequest, List.append_assoc]
  have hlong : ¬(guessRequest a uuid guess).payload.length < 6 := by
    simp only [hpayload, List.length_append, putLe16_length]
    omega
  have hstart : getLe16 (guessRequest a uuid guess).payload = a.handle := by rw [hpayload, getLe16_putLe16]
  have hend : getLe16 ((guessRequest a uuid guess).payload.drop 2) = a.handle := by
    rw [hpayload, drop_putLe16, List.drop_zero, getLe16_putLe16]
  have htype : getLe16 ((guessRequest a uuid guess).payload.drop 4) = uuid := by
    rw [hpayload, drop_putLe16, drop_putLe16, List.drop_zero, getLe16_putLe16]
  have hguess : (guessRequest a uuid guess).payload.drop 6 = guess := by
    rw [hpayload, drop_putLe16, drop_putLe16, drop_putLe16, List.drop_zero]
  have horder : ¬a.handle > a.handle := Nat.lt_irrefl _
  have hfirst : 0 < firstOf s := h.handles s hs
  have hle := first_le_last s
  have hhandles : ¬(s.startHandle = 0 ∨ s.endHandle = 0) := by
    rintro (hzero | hzero)
    · rw [firstOf, hzero] at hfirst
      exact Nat.lt_irrefl _ hfirst
    · rw [lastOf, hzero] at hle
      exact absurd hle (Nat.not_le.mpr hfirst)
  have hplace : ¬0 + 4 > server.attMtu.toNat - 1 := by omega
  show (server, findByTypeValCb server (guessRequest a uuid guess).payload) = _
  congr 1
  simp only [findByTypeValCb, if_neg hlong, hstart, hend, htype, hguess, if_neg horder,
    findByTypeValue_one h hs hactive ha hu]
  cases startsWith a.value guess with
  | error f => rfl
  | ok found =>
    cases found with
    | false => rfl
    | true =>
      have hnil : putLe16 s.startHandle ++ putLe16 s.endHandle ≠ [] := fun hnil => by
        have hlen := congrArg List.length hnil
        simp at hlen
      simp only [Except.map, if_true, List.foldl_cons, List.foldl_nil, findByTypeValAttCb, Bool.false_eq_true,
        if_false, List.length_nil, if_neg hplace, if_neg hhandles, List.nil_append, if_neg hnil]

theorem startsWith_cases (value guess : List UInt8) :
    (startsWith value guess = .ok true ↔ guess <+: value) ∧
      ((∃ f, startsWith value guess = .error f) ↔ value.length < guess.length) := by
  rw [startsWith, List.prefix_iff_eq_take]
  by_cases hend : value.length < guess.length
  · rw [if_pos hend]
    refine ⟨⟨fun h => ?_, fun h => ?_⟩, fun _ => hend, fun _ => ⟨_, rfl⟩⟩
    · cases h
    · have hlen := congrArg List.length h
      rw [List.length_take] at hlen
      omega
  · rw [if_neg hend]
    refine ⟨⟨fun h => ?_, fun h => ?_⟩, ?_, fun h => absurd h hend⟩
    · have htrue := Except.ok.inj h
      exact (beq_iff_eq.mp htrue).symm
    · rw [← h, beq_self_eq_true]
    · rintro ⟨f, hf⟩
      cases hf

/-- Whoever may read an attribute: by guesses each client is told what its value begins with, and where
a guess is longer than the value, the server reads behind the value. -/
theorem value_guessed (junk : ℕ → UInt8) (server : BtGattServer)
    (h : Reach dbStep RegularCall (· = gattDbNew) server.db) (hmtu : 5 ≤ server.attMtu.toNat)
    (s : GattDbService) (hs : s ∈ server.db.services) (hactive : s.active = true) (a : GattDbAttribute)
    (ha : a ∈ present s) (uuid : BitVec 16) (hu : a.uuid = .u16 uuid) (guess : List UInt8) :
    (handleRequest junk server (guessRequest a uuid guess) =
        (server, .sent ⟨attOpFindByTypeResp, putLe16 s.startHandle ++ putLe16 s.endHandle⟩) ↔
      guess <+: a.value) ∧
    ((∃ f, handleRequest junk server (guessRequest a uuid guess) = (server, .fault f)) ↔
      a.value.length < guess.length) := by
  have hanswer := guess_answer (reach_regular h) hmtu hs hactive ha hu junk guess
  obtain ⟨htrue, hfault⟩ := startsWith_cases a.value guess
  rw [hanswer, ← htrue, ← hfault]
  cases startsWith a.value guess with
  | error f => simp
  | ok found => cases found <;> simp [errorRsp, encErrorResp, attOpError, attOpFindByTypeResp]

def batteryService : GattDbService := batteryDb.services.head (by decide)

theorem value_guessed_battery :
    (handleRequest (fun _ => 0) (btGattServerNew batteryDb 23 23 1)
        (guessRequest batteryService.decl 0x2800 [0x0F]) = (btGattServerNew batteryDb 23 23 1,
          .sent ⟨attOpFindByTypeResp, putLe16 batteryService.startHandle ++ putLe16 batteryService.endHandle⟩) ↔
      [0x0F] <+: batteryService.decl.value) ∧
    ((∃ f, handleRequest (fun _ => 0) (btGattServerNew batteryDb 23 23 1)
        (guessRequest batteryService.decl 0x2800 [0x0F]) = (btGattServerNew batteryDb 23 23 1, .fault f)) ↔
      batteryService.decl.value.length < [(0x0F : UInt8)].length) :=
  value_guessed (fun _ => 0) (btGattServerNew batteryDb 23 23 1) batteryDb_reached (by decide) batteryService
    (List.head_mem _) (by decide) batteryService.decl List.mem_cons_self 0x2800 (by decide) [0x0F]

end

end Gattlib.ValueComparison
