import Gattlib.GattServer
import Gattlib.Library.FirstMatch
import Gattlib.ServiceOrder

namespace Gattlib.AttributeUpdates

open AttPdus GattDatabase GattServer ServiceOrder Library.FirstMatch

/-- The attribute with a handle, in a service that has it. -/
def attributeIn (handle : BitVec 16) (s : GattDbService) : Option GattDbAttribute :=
  (s.attributes.find? (fun a => a.any (·.handle == handle))).join

/-- The change to one service that `updateAttribute` makes. -/
def updateService (handle : BitVec 16) (f : GattDbAttribute → GattDbAttribute)
    (hf : ∀ a, (f a).handle = a.handle) (s : GattDbService) : GattDbService :=
  match s.attributes.findIdx? (fun a => a.any (·.handle == handle)) with
  | none => s
  | some k => modifyAttribute s k f hf

section

variable {db : GattDb} {s : GattDbService} {handle handle' : BitVec 16}
  {f : GattDbAttribute → GattDbAttribute} {hf : ∀ a, (f a).handle = a.handle}

theorem getAttribute_eq (db : GattDb) (handle : BitVec 16) : gattDbGetAttribute db handle =
    if handle = 0 then none
    else (db.services.find? (findServiceForHandle handle)).bind (attributeIn handle) := rfl

theorem attributes_modify (s : GattDbService) (k : ℕ) :
    (modifyAttribute s k f hf).attributes = s.attributes.modify k (Option.map f) := by
  cases k <;> rfl

theorem sought_map (hf : ∀ a, (f a).handle = a.handle) (handle : BitVec 16) (a : Option GattDbAttribute) :
    (a.map f).any (·.handle == handle) = a.any (·.handle == handle) := by
  cases a with
  | none => rfl
  | some a => simp [hf]

theorem sameHandles_sought {s' : GattDbService} (h : SameHandles s s') (handle : BitVec 16) :
    findServiceForHandle handle s' = findServiceForHandle handle s := by
  have hend : s'.endHandle = s.endHandle := by
    have hnum : s'.numHandles = s.numHandles := congrArg (· + 1) h.2
    show s'.startHandle + BitVec.ofNat 16 s'.numHandles - 1 = _
    rw [h.1, hnum]
    rfl
  rw [findServiceForHandle, h.1, hend]
  rfl

theorem updateService_handles (handle : BitVec 16) (hf : ∀ a, (f a).handle = a.handle) (s : GattDbService) :
    SameHandles s (updateService handle f hf s) := by
  rw [updateService]
  split
  · exact ⟨rfl, rfl⟩
  · exact modify_handles s _ f hf

/-- In the service only the attribute with the handle changes. -/
theorem attributeIn_update (s : GattDbService) :
    attributeIn handle' (updateService handle f hf s) =
      if handle' = handle then (attributeIn handle' s).map f else attributeIn handle' s := by
  rw [updateService]
  cases hk : s.attributes.findIdx? (fun a => a.any (·.handle == handle)) with
  | none =>
    by_cases he : handle' = handle
    · subst he
      rw [if_pos rfl, attributeIn, find_none hk]
      rfl
    · rw [if_neg he]
  | some k =>
    obtain ⟨a, hat, hfind, ha⟩ := find_getElem hk
    show (List.find? _ (modifyAttribute s k f hf).attributes).join = _
    rw [attributes_modify, find_modify (sought_map hf handle')]
    by_cases he : handle' = handle
    · subst he
      rw [if_pos rfl, hk, attributeIn, hfind]
      simp
    · rw [if_neg he, attributeIn]
      have hne : s.attributes.findIdx? (fun a => a.any (·.handle == handle')) ≠ some k := by
        intro hk'
        obtain ⟨a', hat', -, ha'⟩ := find_getElem hk'
        obtain rfl : a = a' := Option.some.inj (hat.symm.trans hat')
        cases a with
        | none => cases ha
        | some a =>
          simp only [Option.any_some, beq_iff_eq] at ha ha'
          exact he (ha'.symm.trans ha)
      simp only [hne, if_false]
      rw [Option.map_id']

/-- A change to the attribute of one handle is seen behind that handle, and behind no other. -/
theorem getAttribute_update (db : GattDb) (handle handle' : BitVec 16) :
    gattDbGetAttribute (updateAttribute db handle f hf) handle' =
      if handle' = handle then (gattDbGetAttribute db handle').map f
      else gattDbGetAttribute db handle' := by
  rw [updateAttribute]
  cases hi : db.services.findIdx? (findServiceForHandle handle) with
  | none =>
    by_cases he : handle' = handle
    · subst he
      rw [if_pos rfl, getAttribute_eq, find_none hi]
      simp
    · rw [if_neg he]
  | some i =>
    have hsame : ∀ s, findServiceForHandle handle' (updateService handle f hf s) =
        findServiceForHandle handle' s := fun s => sameHandles_sought (updateService_handles handle hf s) handle'
    show (if handle' = 0 then none else ((db.services.modify i (updateService handle f hf)).find?
      (findServiceForHandle handle')).bind (attributeIn handle')) = _
    rw [find_modify hsame, getAttribute_eq]
    by_cases hzero : handle' = 0
    · simp [hzero]
    rw [if_neg hzero, if_neg hzero]
    by_cases hat : db.services.findIdx? (findServiceForHandle handle') = some i
    · cases hfound : db.services.find? (findServiceForHandle handle') with
      | none => simp
      | some s => simp [hat, attributeIn_update]
    · have he : handle' ≠ handle := fun he => hat (he ▸ hi)
      simp only [hat, if_false, if_neg he]
      rw [Option.map_id']

end

end Gattlib.AttributeUpdates
