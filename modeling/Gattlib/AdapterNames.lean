import Gattlib.SystemInvariants
import Mathlib.Data.List.Pairwise

namespace Gattlib.AdapterNames

open Library.Memory Library.Transition Gattlib.Strings Gattlib.State Gattlib.Registry
open Gattlib.RegistryFacts Gattlib.Connection Gattlib.Events Gattlib.Effects Gattlib.Changes
open Gattlib.Invariants Gattlib.Scan Gattlib.Adapters Gattlib.StepOutcomes Gattlib.Frames
open Gattlib.SystemInvariants

/-- The id and the name of an adapter. -/
def label (ad : Adapter) : CString × CString := (ad.id, ad.name)

def labelOf (w : World) (adapter : Nat) : Option (CString × CString) :=
  (w.adapters.cell adapter).map label

/-- No two listed adapters have the same id, up to case. -/
def OnePerName (w : World) : Prop :=
  w.adapterList.Pairwise (fun a b => ∀ x y, labelOf w a = some x → labelOf w b = some y →
    fold x.1 ≠ fold y.1)

/-- A step is the end of a `gattlib_adapter_open` that hands out an adapter. -/
def OpenReturns (w : World) : SystemEvent → CString → Nat → Prop
  | .adapter (.openLookup name), n, a =>
      n = name ∧ gattlibAdapterFromId w (adapterObjectPath name) = some a
  | .adapter (.openAppend name _), n, a => n = name ∧ a = w.adapters.next
  | _, _, _ => False

/-- What an open hands out is a listed adapter of the name it was called with. -/
def Yields (w : World) (e : SystemEvent) (w' : World) : Prop :=
  ∀ n a, OpenReturns w e n a → a ∈ w'.adapterList ∧
    ∃ id m, labelOf w' a = some (id, m) ∧ fold m = fold n

/-- Two names whose object paths fit the buffer with the same result. -/
def SamePath (m n : CString) : Prop := (fold m).take 8 = (fold n).take 8

/-- A name is looked up while no listed adapter shares its path only, and an
adapter is appended while none shares its path. -/
def Distinguished (w : World) : SystemEvent → Prop
  | .adapter (.openLookup n) =>
      ∀ a ∈ w.adapterList, ∀ x ∈ labelOf w a, SamePath x.2 n → fold x.2 = fold n
  | .adapter (.openAppend n _) => ∀ a ∈ w.adapterList, ∀ x ∈ labelOf w a, ¬SamePath x.2 n
  | _ => True

instance (m n : CString) : Decidable (SamePath m n) :=
  inferInstanceAs (Decidable ((fold m).take 8 = (fold n).take 8))

instance (w : World) : (e : SystemEvent) → Decidable (Distinguished w e)
  | .adapter (.openLookup _) | .adapter (.openAppend _ _) =>
      inferInstanceAs (Decidable (∀ a ∈ w.adapterList, ∀ x ∈ labelOf w a, _))
  | .device _ | .scan _ | .adapter (.openFails _) | .adapter (.close _ _ _)
  | .adapter (.closeCheck _) | .adapter (.closeFinish _) | .adapter (.discoveredThread _)
  | .adapter (.discoveredReturns _) => inferInstanceAs (Decidable True)

/-- The id of a listed adapter is the object path of its name. -/
def Named (w : World) : Prop :=
  ∀ a ∈ w.adapterList, ∃ name, labelOf w a = some (adapterObjectPath name, name)

/-- A step adds no adapter and changes the labels of none. -/
structure Kept (w w' : World) : Prop where
  list : w'.adapterList.Sublist w.adapterList
  labels : ∀ a ∈ w'.adapterList, labelOf w' a = labelOf w a

section

variable {w w' w'' : World} {a b : Nat} {m n : CString}

theorem fold_path (n : CString) : fold (adapterObjectPath n) = orgBluez ++ (fold n).take 8 := by
  have hlower : orgBluez.map toLower = orgBluez := by decide
  have hlength : orgBluez.length = 11 := rfl
  unfold fold adapterObjectPath
  rw [List.map_take, List.map_append, hlower, List.take_append, hlength, List.take_of_length_le]
  exact Nat.le_of_ble_eq_true rfl

theorem samePath_iff : fold (adapterObjectPath m) = fold (adapterObjectPath n) ↔ SamePath m n := by
  rw [fold_path, fold_path, List.append_cancel_left_eq, SamePath]

/-! Lookup -/

theorem fromId_some (hn : Named w) (h : gattlibAdapterFromId w (adapterObjectPath n) = some a) :
    a ∈ w.adapterList ∧ ∃ m, labelOf w a = some (adapterObjectPath m, m) ∧ SamePath m n := by
  have hmem := List.mem_of_find?_eq_some h
  obtain ⟨m, hm⟩ := hn a hmem
  refine ⟨hmem, m, hm, ?_⟩
  have hp := List.find?_some h
  cases hc : w.adapters.cell a with
  | none =>
    rw [hc] at hp
    cases hp
  | some ad =>
    rw [labelOf, hc, Option.map_some, Option.some.injEq, label, Prod.mk.injEq] at hm
    rw [hc, Option.any_some, beq_iff_eq, hm.1,
      stricmp_zero _ _ (adapterObjectPath m).nul_free (adapterObjectPath n).nul_free] at hp
    exact samePath_iff.mp hp

theorem fromId_found {id : CString} (ha : a ∈ w.adapterList) (hl : labelOf w a = some (id, m))
    (hid : fold id = fold (adapterObjectPath n)) :
    ∃ b, gattlibAdapterFromId w (adapterObjectPath n) = some b := by
  cases hf : gattlibAdapterFromId w (adapterObjectPath n) with
  | some b => exact ⟨b, rfl⟩
  | none =>
    have hnone := List.find?_eq_none.mp hf a ha
    cases hc : w.adapters.cell a with
    | none =>
      rw [labelOf, hc] at hl
      cases hl
    | some ad =>
      rw [labelOf, hc, Option.map_some, Option.some.injEq, label, Prod.mk.injEq] at hl
      rw [hc, Option.any_some, beq_iff_eq, hl.1,
        stricmp_zero _ _ id.nul_free (adapterObjectPath n).nul_free] at hnone
      exact absurd hid hnone

/-! Steps that append nothing -/

theorem kept_refl (w : World) : Kept w w := ⟨List.Sublist.refl _, fun _ _ => rfl⟩

theorem kept_of (hl : w'.adapterList = w.adapterList) (h : ∀ a, labelOf w' a = labelOf w a) :
    Kept w w' :=
  ⟨hl ▸ List.Sublist.refl _, fun a _ => h a⟩

theorem label_modify (w : World) (a b : Nat) {f : Adapter → Adapter}
    (hf : ∀ ad, label (f ad) = label ad) : labelOf (modifyAdapter w a f) b = labelOf w b :=
  modify_map w.adapters a b hf

theorem label_congr (h : w'.adapters = w.adapters) (b : Nat) : labelOf w' b = labelOf w b := by
  rw [labelOf, h, labelOf]

theorem kept_scan (h : ScanFrame w w') : Kept w w' := by
  have hlist : w'.adapterList = w.adapterList :=
    have h := congrArg World.adapterList h.outside
    h
  refine kept_of hlist (fun a => ?_)
  have hpart := congrArg (Option.map (fun x => (x.1, x.2.1))) (h.adapters a)
  rw [Option.map_map, Option.map_map] at hpart
  exact hpart

theorem label_managed (w : World) (a : Nat) (created : Option Nat) (b : Nat) :
    labelOf (managed w a created) b = labelOf w b := by
  unfold managed getDeviceManagerFromAdapter
  cases w.adapters.cell a with
  | none => rfl
  | some ad =>
    dsimp only
    cases ad.backend.deviceManager with
    | some m => rfl
    | none =>
      cases created with
      | none => rfl
      | some m => exact label_modify w a b (fun _ => rfl)

theorem label_change {e : DeviceEvent} (h : Change w e w') (b : Nat) :
    labelOf w' b = labelOf w b := by
  cases h with
  | appended he ha hf => exact label_modify _ _ b (fun _ => rfl)
  | @removed c d id hk hid hs =>
    rw [label_congr (unref_adapters _ c) b]
    exact label_modify _ _ b (fun _ => rfl)
  | @attempted c d id cb data o hk hid hs => cases o <;> rfl
  | @resolved c d rest o hk he hm => exact label_managed w d.adapter o.manager b
  | @dereferenced c hrun => exact label_congr (unref_adapters w c) b
  | _ => rfl

theorem kept_device {e : DeviceEvent} (h : WellFormed w) (hs : deviceStep w e = some w') :
    Kept w w' := by
  obtain ⟨x, em, cc, dc, hx, rfl⟩ := deviceStep_outcome h hs
  have hlist : x.adapterList = w.adapterList :=
    have h := congrArg World.adapterList (change_frame hx).outside
    h
  exact ⟨hlist ▸ List.Sublist.refl _, fun a _ => label_change hx a⟩

theorem kept_unref (h : WellFormed w) (a : Nat) : Kept w (gattlibAdapterUnref w a) := by
  unfold gattlibAdapterUnref
  cases ha : w.adapters.cell a with
  | none => exact kept_of rfl (fun _ => rfl)
  | some ad =>
    dsimp only
    split
    · exact kept_of rfl (fun b => label_modify w a b (fun _ => rfl))
    · refine ⟨?_, fun b hb => ?_⟩
      · rw [adapterFree_list]
        exact List.erase_sublist
      · rw [adapterFree_list] at hb
        have hne : b ≠ a := fun he => h.nodup.not_mem_erase (he ▸ hb)
        rw [labelOf, adapterFree_cell, if_neg hne, labelOf]

theorem kept_trans (h : Kept w w') (h' : Kept w' w'') : Kept w w'' := by
  refine ⟨h'.list.trans h.list, fun a ha => ?_⟩
  rw [h'.labels a ha]
  exact h.labels a (h'.list.subset ha)

theorem kept_effect (h : SystemSound w) (he : AdapterEffect w w') : Kept w w' := by
  cases he with
  | counted op cl wa le ho dc po nu st => exact kept_of rfl (fun _ => rfl)
  | referenced a => exact kept_of rfl (fun b => label_modify w a b (fun _ => rfl))
  | unreferenced a => exact kept_unref h.sound.wellFormed a
  | disabled a discovering stop hv =>
    exact kept_scan (scanFrame_disable (scanFrame_refl w) a discovering stop)

theorem kept_adapter {e : AdapterEvent} (h : SystemSound w) (hs : adapterStep w e = some w')
    (he : ∀ name proxy, e ≠ .openAppend name proxy) : Kept w w' := by
  cases adapterStep_outcome hs with
  | appended name proxy => exact absurd rfl (he name proxy)
  | effects hs =>
    exact (effects_related h hs systemSound_effect kept_refl kept_trans kept_effect).2

/-- Every step but the appending one. -/
theorem kept_step {e : SystemEvent} (h : SystemSound w) (hs : systemStep w e = some w')
    (he : ∀ name proxy, e ≠ .adapter (.openAppend name proxy)) : Kept w w' := by
  cases e with
  | device e => exact kept_device h.sound.wellFormed hs
  | scan e => exact kept_scan (scanStep_frame hs)
  | adapter e => exact kept_adapter h hs (fun name proxy hne => he name proxy (congrArg _ hne))

/-! The appending step -/

theorem append_new {name : CString} {proxy : Nat} :
    labelOf (gattlibAdapterOpenAppend w name proxy) w.adapters.next =
      some (adapterObjectPath name, name) :=
  congrArg (Option.map label) (alloc_self w.adapters _)

theorem append_old {name : CString} {proxy : Nat} (ha : a ≠ w.adapters.next) :
    labelOf (gattlibAdapterOpenAppend w name proxy) a = labelOf w a :=
  congrArg (Option.map label) (alloc_ne w.adapters _ ha)

theorem append_list (name : CString) (proxy : Nat) :
    (gattlibAdapterOpenAppend w name proxy).adapterList = w.adapterList ++ [w.adapters.next] := rfl

/-! Invariants -/

theorem named_kept (h : Named w) (hk : Kept w w') : Named w' := by
  intro a ha
  rw [hk.labels a ha]
  exact h a (hk.list.subset ha)

theorem named_append {name : CString} {proxy : Nat} (h : Named w) :
    Named (gattlibAdapterOpenAppend w name proxy) := by
  intro a ha
  rw [append_list] at ha
  by_cases he : a = w.adapters.next
  · exact ⟨name, he ▸ append_new⟩
  · rw [append_old he]
    exact h a ((List.mem_append.mp ha).resolve_right (fun hn => he (List.mem_singleton.mp hn)))

/-- Adapters are listed, live and named after their ids. -/
structure Labelled (w : World) : Prop where
  sound : SystemSound w
  named : Named w

theorem labelled_step {e : SystemEvent} (h : Labelled w) (hs : systemStep w e = some w') :
    Labelled w' := by
  refine ⟨systemStep_sound h.sound hs, ?_⟩
  by_cases he : ∃ name proxy, e = .adapter (.openAppend name proxy)
  · obtain ⟨name, proxy, rfl⟩ := he
    simp only [systemStep, adapterStep, Option.ite_none_right_eq_some, Option.some.injEq] at hs
    obtain ⟨_, rfl⟩ := hs
    exact named_append h.named
  · exact named_kept h.named (kept_step h.sound hs (fun name proxy hn => he ⟨name, proxy, hn⟩))

theorem onePerName_kept (h : OnePerName w) (hk : Kept w w') : OnePerName w' := by
  refine (h.sublist hk.list).imp_of_mem ?_
  intro a b ha hb hne
  rw [hk.labels a ha, hk.labels b hb]
  exact hne

theorem onePerName_append {name : CString} {proxy : Nat} (hl : Labelled w) :
    OnePerName (gattlibAdapterOpenAppend w name proxy) ↔
      OnePerName w ∧ Distinguished w (.adapter (.openAppend name proxy)) := by
  have hfresh := next_not_listed hl.sound.sound.wellFormed
  have hold : ∀ a ∈ w.adapterList,
      labelOf (gattlibAdapterOpenAppend w name proxy) a = labelOf w a :=
    fun a ha => append_old (fun he => hfresh (he ▸ ha))
  unfold OnePerName
  rw [append_list, List.pairwise_append]
  constructor
  · rintro ⟨hpair, _, hcross⟩
    refine ⟨hpair.imp_of_mem ?_, ?_⟩
    · intro a b ha hb hne
      rw [hold a ha, hold b hb] at hne
      exact hne
    · rintro a ha ⟨id, m⟩ hlabel hsame
      obtain ⟨k, hk⟩ := hl.named a ha
      rw [Option.mem_def.mp hlabel, Option.some.injEq, Prod.mk.injEq] at hk
      have hne := hcross a ha _ (List.mem_singleton_self _) _ _ ((hold a ha).trans hlabel) append_new
      rw [hk.1, ← hk.2] at hne
      exact hne (samePath_iff.mpr hsame)
  · rintro ⟨hpair, hdist⟩
    refine ⟨hpair.imp_of_mem ?_, List.pairwise_singleton _ _, ?_⟩
    · intro a b ha hb hne
      rw [hold a ha, hold b hb]
      exact hne
    · intro a ha b hb x y hx hy
      rw [List.mem_singleton.mp hb, append_new, Option.some.injEq] at hy
      obtain ⟨k, hk⟩ := hl.named a ha
      rw [hold a ha, hk, Option.some.injEq] at hx
      rw [← hx, ← hy]
      exact fun hid => hdist a ha _ hk (samePath_iff.mp hid)

/-- In a list without two adapters of one id, an id has one name. -/
theorem name_unique (h : OnePerName w) {x y : CString × CString} (ha : a ∈ w.adapterList)
    (hb : b ∈ w.adapterList) (hx : labelOf w a = some x) (hy : labelOf w b = some y)
    (hid : fold x.1 = fold y.1) : a = b := by
  have hsymm : Std.Symm (fun a b => ∀ x y, labelOf w a = some x → labelOf w b = some y →
      fold x.1 ≠ fold y.1) := ⟨fun a b hne x y hx hy => (hne y x hy hx).symm⟩
  by_contra hab
  exact h.forall ha hb hab x y hx hy hid

theorem lookup_yields (hl : Labelled w) (h : OnePerName w) :
    Distinguished w (.adapter (.openLookup n)) ↔
      Yields w (.adapter (.openLookup n)) (gattlibAdapterOpenLookup w n) := by
  have hkept : Kept w (gattlibAdapterOpenLookup w n) :=
    kept_adapter (e := .openLookup n) hl.sound rfl (fun _ _ he => by cases he)
  have hlist : ∀ b, gattlibAdapterFromId w (adapterObjectPath n) = some b →
      b ∈ (gattlibAdapterOpenLookup w n).adapterList := by
    intro b hb
    rw [gattlibAdapterOpenLookup, hb]
    exact (fromId_some hl.named hb).1
  constructor
  · rintro hd k b ⟨rfl, hb⟩
    obtain ⟨hmem, m, hm, hsame⟩ := fromId_some hl.named hb
    refine ⟨hlist b hb, _, m, (hkept.labels b (hlist b hb)).trans hm, hd b hmem _ hm hsame⟩
  · rintro hy a ha ⟨id, m⟩ hlabel hsame
    obtain ⟨k, hk⟩ := hl.named a ha
    rw [Option.mem_def.mp hlabel, Option.some.injEq, Prod.mk.injEq] at hk
    obtain ⟨hid, rfl⟩ := hk
    have hpath := samePath_iff.mpr hsame
    dsimp only at hpath
    obtain ⟨b, hb⟩ := fromId_found ha hlabel (hid ▸ hpath)
    obtain ⟨hmem, j, hj, hsame'⟩ := fromId_some hl.named hb
    obtain ⟨_, _, i, hi, hfold⟩ := hy n b ⟨rfl, hb⟩
    have hpaths : fold id = fold (adapterObjectPath j) :=
      hid ▸ samePath_iff.mpr (hsame.trans hsame'.symm)
    have hab := name_unique h ha hmem hlabel hj hpaths
    rw [hkept.labels b (hlist b hb), ← hab, Option.mem_def.mp hlabel, Option.some.injEq, Prod.mk.injEq] at hi
    rw [hi.2]
    exact hfold

theorem append_yields {name : CString} {proxy : Nat} :
    Yields w (.adapter (.openAppend name proxy)) (gattlibAdapterOpenAppend w name proxy) := by
  rintro n a ⟨rfl, rfl⟩
  refine ⟨?_, _, n, append_new, rfl⟩
  rw [append_list]
  exact List.mem_append_right _ (List.mem_singleton_self _)

/-- One step, from a state without two adapters of one id. -/
theorem distinguished_iff {e : SystemEvent} (hl : Labelled w) (h : OnePerName w)
    (hs : systemStep w e = some w') : Distinguished w e ↔ OnePerName w' ∧ Yields w e w' := by
  by_cases he : ∃ name proxy, e = .adapter (.openAppend name proxy)
  · obtain ⟨name, proxy, rfl⟩ := he
    simp only [systemStep, adapterStep, Option.ite_none_right_eq_some, Option.some.injEq] at hs
    obtain ⟨_, rfl⟩ := hs
    rw [onePerName_append hl]
    exact ⟨fun hd => ⟨⟨h, hd⟩, append_yields⟩, fun hp => hp.1.2⟩
  · have hone := onePerName_kept h
      (kept_step hl.sound hs (fun name proxy hn => he ⟨name, proxy, hn⟩))
    by_cases he' : ∃ n, e = .adapter (.openLookup n)
    · obtain ⟨n, rfl⟩ := he'
      cases hs
      rw [lookup_yields hl h]
      exact ⟨fun hy => ⟨hone, hy⟩, And.right⟩
    · refine iff_of_true ?_ ⟨hone, fun n a hr => ?_⟩
      · unfold Distinguished
        split
        · exact absurd ⟨_, rfl⟩ he'
        · exact absurd ⟨_, _, rfl⟩ he
        · trivial
      · unfold OpenReturns at hr
        split at hr
        · exact absurd ⟨_, rfl⟩ he'
        · exact absurd ⟨_, _, rfl⟩ he
        · exact hr.elim

theorem started_labelled (h : Started w) : Labelled w := by
  refine ⟨started_sound h, ?_⟩
  cases h
  exact fun a ha => by cases ha

theorem labelled_preserved : Preserves systemStep AnyStep Labelled :=
  fun _ _ _ h _ hs => labelled_step h hs

/-- The last state of a run whose steps have all kept the ids apart. -/
theorem run_onePerName {tr : List (World × SystemEvent × World)} (h : Run systemStep Started tr w)
    (hall : ∀ x ∈ tr, OnePerName x.2.2 ∧ Yields x.1 x.2.1 x.2.2) : OnePerName w := by
  cases h with
  | start h =>
    cases h
    exact List.Pairwise.nil
  | next h hs => exact (hall _ List.mem_cons_self).1

end

/-- There is one adapter for each name in a run exactly when no lookup meets an
adapter that shares only its path and no adapter is appended to one of its path. -/
theorem one_adapter_per_name {tr : List (World × SystemEvent × World)} {w : World}
    (h : Run systemStep Started tr w) :
    (∀ x ∈ tr, Distinguished x.1 x.2.1) ↔ ∀ x ∈ tr, OnePerName x.2.2 ∧ Yields x.1 x.2.1 x.2.2 := by
  induction h with
  | start _ => simp
  | next h hs ih =>
    have hl := reach_invariant Labelled (fun _ => started_labelled) labelled_preserved
      (run_reach h (fun _ _ => trivial))
    rw [List.forall_mem_cons, List.forall_mem_cons, ih]
    exact and_congr_left (fun hall => distinguished_iff hl (run_onePerName h hall) hs)

/-- Two threads open the default adapter and both append it. -/
theorem adapter_opened_twice : ¬∀ (tr : List (World × SystemEvent × World)) (w : World),
    Run systemStep Started tr w →
      ∀ x ∈ tr, OnePerName x.2.2 ∧ Yields x.1 x.2.1 x.2.2 := by
  intro h
  have hstart : Run systemStep Started [] {} := .start rfl
  have hfirst := Run.next (e := .adapter (.openLookup hci0)) hstart rfl
  have hsecond := Run.next (e := .adapter (.openLookup hci0)) hfirst rfl
  have happend := Run.next (e := .adapter (.openAppend hci0 1)) hsecond rfl
  have hrun := Run.next (e := .adapter (.openAppend hci0 2)) happend rfl
  have hone := (h _ _ hrun _ List.mem_cons_self).1
  have hids := List.pairwise_cons.mp hone
  exact hids.1 1 (by decide) _ _ rfl rfl rfl

/-- `HCI0` -/
def capitalHci0 : CString := ⟨[72, 67, 73, 48], by decide⟩

/-- The default adapter is found again under its name in capitals. -/
theorem one_adapter_per_name_hci0 :
    ∃ w, OnePerName w ∧ w.adapterList = [0] ∧ ∃ x, labelOf w 0 = some x ∧ fold x.2 = fold capitalHci0 := by
  have hrun := Run.next (e := .adapter (.openLookup capitalHci0)) opened_run rfl
  have hall := (one_adapter_per_name hrun).mp (by decide)
  obtain ⟨hone, hy⟩ := hall _ List.mem_cons_self
  obtain ⟨_, id, m, hlabel, hfold⟩ := hy capitalHci0 0 ⟨rfl, by decide⟩
  exact ⟨_, hone, rfl, _, hlabel, hfold⟩

end Gattlib.AdapterNames
