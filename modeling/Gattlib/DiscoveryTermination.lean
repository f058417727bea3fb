import Gattlib.GattDiscovery

namespace Gattlib.DiscoveryTermination

open Uuids (BtUuid)
open AttPdus GattDiscovery Library.Dialogue Library.Records

/-- The handles that are left behind the one a search starts from. -/
def left (start : BitVec 16) : ℕ := 65535 - start.toNat

section

variable {room : ℕ} {p req : Pdu} {τ : Type} {peer : τ → Pdu → τ × Option Pdu} {t : τ}

/-- The next search starts behind a handle that is not below the last start, and is no other than
the last handle there is. -/
theorem left_next {start last : BitVec 16} (hge : ¬last < start) (hne : last ≠ 0xFFFF) :
    left (last + 1) < left start := by
  have hge' : ¬last.toNat < start.toNat := hge
  have hne' : last.toNat ≠ 65535 := fun h => hne (BitVec.eq_of_toNat_eq h)
  have hlt := last.isLt
  have hone : BitVec.toNat (1 : BitVec 16) = 1 := rfl
  rw [left, left, BitVec.toNat_add, hone]
  omega

theorem primaryAll_down {dp dp' : DiscoverPrimary} (h : primaryAllCb room dp p = .send dp' req) :
    left dp'.start < left dp.start := by
  simp only [primaryAllCb] at h
  split at h
  · cases h
  · split at h
    · cases h
    · split at h
      · cases h
      · split at h
        · cases h
        · split at h
          · cases h
          · rename_i hge
            split at h
            · rename_i hne
              split at h
              · cases h
                exact left_next hge hne
              · cases h
            · cases h

theorem primaryByUuid_down {dp dp' : DiscoverByUuid} (h : primaryByUuidCb room dp p = .send dp' req) :
    left dp'.start < left dp.start := by
  simp only [primaryByUuidCb] at h
  split at h
  · cases h
  · split at h
    · cases h
    · split at h
      · cases h
      · rename_i hne
        split at h
        · cases h
        · rename_i hge
          split at h
          · cases h
            exact left_next hge hne
          · cases h

theorem descDiscovered_down {dd dd' : DiscoverDesc} (h : descDiscoveredCb dd p = .send dd' req) :
    left dd'.start < left dd.start := by
  simp only [descDiscoveredCb] at h
  split at h
  · cases h
  · split at h
    · cases h
    · split at h
      · cases h
      · cases h
      · split at h
        · cases h
        · split at h
          · cases h
          · rename_i hge
            split at h
            · rename_i hlast
              cases h
              refine left_next hge fun heq => ?_
              have hlt := BitVec.lt_def.mp hlast.1
              rw [heq] at hlt
              have := dd.end_.isLt
              have hmax : BitVec.toNat (0xFFFF : BitVec 16) = 65535 := rfl
              omega
            · cases h

/-- A search that moves on with every answer is over after one request for each handle. -/
theorem over_down {σ R : Type} {client : σ → Pdu → Next σ Pdu R} (start : σ → BitVec 16)
    (hdown : ∀ s p s' req, client s p = .send s' req → left (start s') < left (start s))
    (peer : τ → Pdu → τ × Option Pdu) (t : τ) (s : σ) (req : Pdu) :
    (converse client peer 65536 t (.send s req)).Over := by
  refine converse_over (fun s => left (start s)) (fun _ => True) (fun _ => True)
    (fun _ _ _ => ⟨trivial, fun _ _ => trivial⟩) (fun s p s' req _ => hdown s p s' req) trivial ?_
  show left (start s) < 65536
  rw [left]
  omega

/-- Whatever a peer answers, the searches for primary services, for those of one UUID and for
descriptors are over after at most as many requests as there are handles. -/
theorem searches_end (peer : τ → Pdu → τ × Option Pdu) (t : τ) (room : ℕ) :
    (∀ next, discoverPrimaryAll room = some next →
      (converse (primaryAllCb room) peer 65536 t next).Over) ∧
    (∀ uuid next, discoverPrimaryByUuid uuid room = some next →
      (converse (primaryByUuidCb room) peer 65536 t next).Over) ∧
    (∀ start end_ uuid, (converse descDiscoveredCb peer 65536 t (gattDiscoverDesc start end_ uuid)).Over) := by
  refine ⟨fun next h => ?_, fun uuid next h => ?_, fun start end_ uuid => ?_⟩
  · rw [discoverPrimaryAll, Option.map_eq_some_iff] at h
    obtain ⟨req, -, rfl⟩ := h
    exact over_down DiscoverPrimary.start (fun _ _ _ _ => primaryAll_down) peer t _ req
  · rw [discoverPrimaryByUuid, Option.map_eq_some_iff] at h
    obtain ⟨req, -, rfl⟩ := h
    exact over_down DiscoverByUuid.start (fun _ _ _ _ => primaryByUuid_down) peer t _ req
  · exact over_down DiscoverDesc.start (fun _ _ _ _ => descDiscovered_down) peer t _ _

theorem searches_end_refused : (converse (primaryAllCb 23)
    (fun (_ : Unit) (_ : Pdu) => ((), some (encErrorResp attOpReadByGroupReq 1 attEcodeAttrNotFound)))
    65536 () (.send ⟨1, []⟩ ⟨attOpReadByGroupReq, [1, 0, 0xFF, 0xFF, 0, 0x28]⟩)).Over :=
  (searches_end (fun (_ : Unit) (_ : Pdu) =>
    ((), some (encErrorResp attOpReadByGroupReq 1 attEcodeAttrNotFound))) () 23).1 _ rfl

/-! The search for characteristics -/

/-- The response does not end with the last handle there is. -/
def EndsBefore (p : Pdu) : Prop :=
  ∀ list, decReadByTypeResp p = some list → ∀ d ∈ list.data, getLe16 d ≠ 0xFFFF

theorem charOf_handle {wanted : Option BtUuid} {short : Bool} {value : List UInt8}
    {found : BitVec 16 × Option GattChar} (hsize : 2 ≤ value.length)
    (h : charOf wanted short value = .ok found) : found.1 = getLe16 value := by
  by_cases hall : 5 + uuidSize short ≤ value.length
  · rw [charOf_ok hall] at h
    obtain rfl := Except.ok.inj h
    rfl
  · rw [charOf_fault hsize hall] at h
    cases h

theorem charDiscovered_down {dc dc' : DiscoverChar} (hp : EndsBefore p)
    (h : charDiscoveredCb dc p = .send dc' req) : left dc'.start < left dc.start := by
  simp only [charDiscoveredCb] at h
  split at h
  · cases h
  · split at h
    · cases h
    · split at h
      · cases h
      · rename_i list hlist
        split at h
        · cases h
        · rename_i found hfound
          split at h
          · cases h
          · rename_i hge
            split at h
            · split at h
              · cases h
                refine left_next hge ?_
                cases hlast : found.getLast? with
                | none => simp
                | some last =>
                  obtain ⟨d, hd, hof⟩ := mapM_mem hfound last (List.mem_of_getLast? hlast)
                  have hsize := decReadByType_size hlist
                  have hhandle := charOf_handle (by rw [list.uniform d hd]; omega) hof
                  simpa [hhandle] using hp list hlist d hd
              · cases h
            · cases h

/-- One entry, for the last handle there is. -/
def lastHandle : Pdu := ⟨attOpReadByTypeResp, [7, 0xFF, 0xFF, 0x02, 0, 0, 0, 0]⟩

theorem lastHandle_continues (dc : DiscoverChar) (h : dc.end_ ≠ 0) :
    ∃ dc' req, charDiscoveredCb dc lastHandle = .send dc' req ∧ dc'.end_ ≠ 0 := by
  have hstatus : statusOf lastHandle = 0 := rfl
  have hdec : decReadByTypeResp lastHandle = some (entriesOf 7 [0xFF, 0xFF, 0x02, 0, 0, 0, 0]) := rfl
  have hdata : (entriesOf 7 [0xFF, 0xFF, 0x02, 0, 0, 0, 0]).data = [[0xFF, 0xFF, 0x02, 0, 0, 0, 0]] := rfl
  have hread : [[0xFF, 0xFF, 0x02, 0, 0, 0, 0]].mapM (charOf dc.uuid true) =
      .ok [charAt dc.uuid true [0xFF, 0xFF, 0x02, 0, 0, 0, 0]] := by
    refine mapM_ok (g := charAt dc.uuid true) fun d hd => ?_
    rw [List.mem_singleton] at hd
    subst hd
    exact charOf_ok (by decide)
  have hlast : (charAt dc.uuid true [0xFF, 0xFF, 0x02, 0, 0, 0, 0]).1 = 0xFFFF := by
    simp only [charAt]
    decide
  have hge : ¬(0xFFFF : BitVec 16) < dc.start := by
    rw [BitVec.lt_def]
    have := dc.start.isLt
    have hmax : BitVec.toNat (0xFFFF : BitVec 16) = 65535 := rfl
    omega
  have hpos : (0 : BitVec 16) < dc.end_ := by
    rw [BitVec.lt_def]
    have hne : dc.end_.toNat ≠ 0 := fun he => h (BitVec.eq_of_toNat_eq he)
    have hzero : BitVec.toNat (0 : BitVec 16) = 0 := rfl
    omega
  have hlen : ((entriesOf 7 [0xFF, 0xFF, 0x02, 0, 0, 0, 0]).len == 7) = true := rfl
  obtain ⟨req, hreq⟩ : ∃ req, encReadByTypeReq 0 dc.end_ gattCharacUuid = some req := ⟨_, rfl⟩
  refine ⟨{ dc with
    characteristics := dc.characteristics ++
      [charAt dc.uuid true [0xFF, 0xFF, 0x02, 0, 0, 0, 0]].filterMap Prod.snd
    start := 0 }, req, ?_, h⟩
  have hwrap : (0xFFFF : BitVec 16) + 1 = 0 := by decide
  have hnot : (0xFFFF : BitVec 16) ≠ 0 := by decide
  have hfound : (0 : UInt8) ≠ attEcodeAttrNotFound := by decide
  simp only [charDiscoveredCb, hstatus, hdec, hdata, hlen, hread, if_neg hfound, ne_eq,
    not_true_eq_false, if_false, List.getLast?_singleton, Option.map_some, Option.getD_some, hlast, if_neg hge,
    hwrap, hnot, not_false_eq_true, hpos, and_self, if_true, hreq]

/-- The search for characteristics ends as long as no answer names the last handle there is: one
that does sets the start back to 0, and a peer that keeps to it keeps the search going. -/
theorem char_search_ends (start end_ : BitVec 16) (uuid : Option BtUuid)
    (next : Next DiscoverChar Pdu (Ended GattChar)) (h : gattDiscoverChar start end_ uuid = some next) :
    (∀ (τ : Type) (peer : τ → Pdu → τ × Option Pdu) (t : τ),
      (∀ t req, ∀ p ∈ (peer t req).2, EndsBefore p) →
        (converse charDiscoveredCb peer 65536 t next).Over) ∧
    (end_ ≠ 0 → ∃ peer : Unit → Pdu → Unit × Option Pdu,
      ∀ n, ¬(converse charDiscoveredCb peer n () next).Over) := by
  rw [gattDiscoverChar, Option.map_eq_some_iff] at h
  obtain ⟨req, -, rfl⟩ := h
  constructor
  · intro τ peer t hpeer
    refine converse_over (fun dc => left dc.start) (fun _ => True) EndsBefore
      (fun t req _ => ⟨trivial, hpeer t req⟩) (fun dc p dc' req hp => charDiscovered_down hp) trivial ?_
    show 65535 - start.toNat < 65536
    omega
  · intro hend
    refine ⟨fun _ _ => ((), some lastHandle), fun n => ?_⟩
    have hrun : converse charDiscoveredCb (fun (_ : Unit) (_ : Pdu) => ((), some lastHandle)) n ()
        (.send ⟨uuid, start, end_, []⟩ req) = .running :=
      converse_forever (fun dc _ hdc hresp => hresp ▸ lastHandle_continues dc hdc)
        (fun _ _ => ⟨_, rfl, rfl⟩) hend
    rw [hrun]
    exact id

theorem char_search_ends_all : ∃ peer : Unit → Pdu → Unit × Option Pdu, ∀ n,
    ¬(converse charDiscoveredCb peer n ()
      (.send ⟨none, 1, 0xFFFF, []⟩ ⟨attOpReadByTypeReq, [1, 0, 0xFF, 0xFF, 3, 0x28]⟩)).Over :=
  (char_search_ends 1 0xFFFF none _ rfl).2 (by decide)

end

end Gattlib.DiscoveryTermination
