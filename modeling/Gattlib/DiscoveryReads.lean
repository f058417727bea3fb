import Gattlib.GattDiscovery

namespace Gattlib.DiscoveryReads

open AttPdus GattDiscovery Library.Buffers Library.Dialogue Library.Records

/-- The response has entries of characteristics that are too short for their UUID: every size but 7
is taken for that of a long one. -/
def CharsCut (p : Pdu) : Prop :=
  ∃ list, decReadByTypeResp p = some list ∧ list.data ≠ [] ∧ list.len ≠ 7 ∧ list.len < 21

/-- The response has no format, or has one that nobody knows, with the entries of two bytes that it
is then split into. -/
def DescsCut (p : Pdu) : Prop :=
  p.opcode = attOpFindInfoResp ∧ (p.payload = [] ∨ ∃ format data, p.payload = format :: data ∧
    format ≠ 1 ∧ format ≠ 2 ∧ data.length / 2 % 65536 ≠ 0)

section

variable {p : Pdu} {list : AttDataList} {dc : DiscoverChar} {dd : DiscoverDesc} {wanted : Option Uuids.BtUuid}
  {short : Bool} {last : BitVec 16} {entries : List (List UInt8)} {room : ℕ}

theorem statusOf_response (h : p.opcode ≠ attOpError) : statusOf p = 0 := if_neg h

theorem statusOf_list {opcode : UInt8} {leastLen leastEntry : ℕ} (hop : opcode ≠ attOpError)
    (h : decList opcode leastLen leastEntry p = some list) : statusOf p = 0 := by
  rw [decList] at h
  split at h
  · cases h
  · rename_i hopcode
    exact statusOf_response (by rwa [Decidable.of_not_not hopcode])

/-! Characteristics -/

theorem chars_fault (hne : entries ≠ []) (hsize : ∀ d ∈ entries, 2 ≤ d.length ∧ d.length < 5 + uuidSize short) :
    ∃ f, entries.mapM (charOf wanted short) = .error f := by
  cases entries with
  | nil => exact absurd rfl hne
  | cons d rest =>
    obtain ⟨hhandle, hcut⟩ := hsize d (by simp)
    refine ⟨.read d.length, ?_⟩
    rw [List.mapM_cons, charOf_fault hhandle (Nat.not_le.mpr hcut)]
    rfl

theorem charDiscovered_fault (hlist : decReadByTypeResp p = some list) :
    (∃ f, charDiscoveredCb dc p = .stop (.fault f)) ↔
      ∃ f, list.data.mapM (charOf dc.uuid (list.len == 7)) = .error f := by
  have hstatus : statusOf p = 0 := statusOf_list (by decide) hlist
  have hfound : (0 : UInt8) ≠ attEcodeAttrNotFound := by decide
  constructor
  · rintro ⟨f, h⟩
    simp only [charDiscoveredCb, hstatus, hlist, if_neg hfound, ne_eq, not_true_eq_false, if_false] at h
    split at h
    · rename_i g hg
      exact ⟨g, hg⟩
    · split at h
      · cases h
      · split at h
        · split at h <;> cases h
        · cases h
  · rintro ⟨f, h⟩
    refine ⟨f, ?_⟩
    simp only [charDiscoveredCb, hstatus, hlist, h, if_neg hfound, ne_eq, not_true_eq_false, if_false]

theorem charDiscovered_refused (h : decReadByTypeResp p = none) (f : Fault) :
    charDiscoveredCb dc p ≠ .stop (.fault f) := by
  intro hf
  simp only [charDiscoveredCb, h] at hf
  split at hf
  · cases hf
  · split at hf <;> cases hf

theorem charDiscovered_reads (dc : DiscoverChar) (p : Pdu) :
    (∃ f, charDiscoveredCb dc p = .stop (.fault f)) ↔ CharsCut p := by
  cases hlist : decReadByTypeResp p with
  | none =>
    constructor
    · rintro ⟨f, h⟩
      exact absurd h (charDiscovered_refused hlist f)
    · rintro ⟨list, h, -⟩
      rw [hlist] at h
      cases h
  | some list =>
    have hentry := decReadByType_size hlist
    have hsize : uuidSize (list.len == 7) = if list.len = 7 then 2 else 16 := by
      rw [uuidSize]
      by_cases h7 : list.len = 7 <;> simp [h7]
    rw [charDiscovered_fault hlist]
    constructor
    · rintro ⟨f, hf⟩
      by_cases hcut : list.data ≠ [] ∧ list.len ≠ 7 ∧ list.len < 21
      · exact ⟨list, hlist, hcut⟩
      · rw [mapM_ok (g := charAt dc.uuid (list.len == 7)) fun d hd => ?_] at hf
        · cases hf
        · have hne : list.data ≠ [] := List.ne_nil_of_mem hd
          refine charOf_ok ?_
          rw [hsize, list.uniform d hd]
          split
          · omega
          · by_contra hlt
            exact hcut ⟨hne, ‹_›, by omega⟩
    · rintro ⟨list', hlist', hne, h7, hlt⟩
      rw [hlist] at hlist'
      obtain rfl := Option.some.inj hlist'
      refine chars_fault hne fun d hd => ?_
      rw [hsize, if_neg h7, list.uniform d hd]
      omega

/-! Descriptors -/

theorem descsOf_whole (h : ∀ d ∈ entries, 2 + uuidSize short ≤ d.length) :
    ∃ r, descsOf wanted short last entries = .ok r := by
  induction entries generalizing last with
  | nil => exact ⟨_, rfl⟩
  | cons d rest ih =>
    have hd := h d (by simp)
    obtain ⟨⟨last', descs, found⟩, hr⟩ :
        ∃ r, descsOf wanted short (getLe16 ((d.drop 0).take 2)) rest = .ok r :=
      ih (fun e he => h e (by simp [he]))
    simp only [descsOf, readBytes_ok (show 0 + 2 ≤ d.length by omega), getUuid128_ok hd, bind, Except.bind,
      hr, pure, Except.pure]
    split
    · exact ⟨_, rfl⟩
    · split <;> exact ⟨_, rfl⟩

theorem descsOf_fault (hne : entries ≠ [])
    (h : ∀ d ∈ entries, 2 ≤ d.length ∧ d.length < 2 + uuidSize short) :
    ∃ f, descsOf wanted short last entries = .error f := by
  cases entries with
  | nil => exact absurd rfl hne
  | cons d rest =>
    obtain ⟨hhandle, hcut⟩ := h d (by simp)
    refine ⟨.read d.length, ?_⟩
    rw [descsOf, readBytes_ok (by omega), getUuid128_fault (Nat.not_le.mpr hcut)]
    rfl

theorem descDiscovered_refused (h : p.opcode ≠ attOpFindInfoResp) (f : Fault) :
    descDiscoveredCb dd p ≠ .stop (.fault f) := by
  intro hf
  have hdec : decFindInfoResp p = .ok none := if_pos h
  simp only [descDiscoveredCb, hdec] at hf
  split at hf
  · cases hf
  · split at hf <;> cases hf

theorem descDiscovered_fault {format : UInt8} (hop : p.opcode = attOpFindInfoResp)
    (hdec : decFindInfoResp p = .ok (some (format, list))) :
    (∃ f, descDiscoveredCb dd p = .stop (.fault f)) ↔
      ∃ f, descsOf dd.uuid (format == 1) 0xFFFF list.data = .error f := by
  have hstatus : statusOf p = 0 := statusOf_response (by rw [hop]; decide)
  have hfound : (0 : UInt8) ≠ attEcodeAttrNotFound := by decide
  constructor
  · rintro ⟨f, h⟩
    simp only [descDiscoveredCb, hstatus, hdec, if_neg hfound, ne_eq, not_true_eq_false, if_false] at h
    split at h
    · rename_i g hg
      exact ⟨g, hg⟩
    · split at h
      · cases h
      · split at h <;> cases h
  · rintro ⟨f, h⟩
    refine ⟨f, ?_⟩
    simp only [descDiscoveredCb, hstatus, hdec, h, if_neg hfound, ne_eq, not_true_eq_false, if_false]

theorem findInfo_size (format : UInt8) (data : List UInt8) :
    ∀ d ∈ (entriesOf (findInfoEntry format) data).data,
      d.length = if format = 1 then 4 else if format = 2 then 18 else 2 := by
  intro d hd
  rw [(entriesOf (findInfoEntry format) data).uniform d hd]
  show (findInfoEntry format).toNat = _
  rw [findInfoEntry]
  split
  · rfl
  · split <;> rfl

theorem descDiscovered_reads (dd : DiscoverDesc) (p : Pdu) :
    (∃ f, descDiscoveredCb dd p = .stop (.fault f)) ↔ DescsCut p := by
  by_cases hop : p.opcode = attOpFindInfoResp
  · obtain ⟨op, payload⟩ := p
    obtain rfl : op = attOpFindInfoResp := hop
    cases payload with
    | nil => exact ⟨fun _ => ⟨rfl, .inl rfl⟩, fun _ => ⟨_, rfl⟩⟩
    | cons format data =>
      rw [descDiscovered_fault rfl rfl]
      have hsize := findInfo_size format data
      constructor
      · rintro ⟨f, hf⟩
        refine ⟨rfl, .inr ⟨format, data, rfl, ?_⟩⟩
        by_contra hcut
        have hwhole : ∀ d ∈ (entriesOf (findInfoEntry format) data).data,
            2 + uuidSize (format == 1) ≤ d.length := by
          intro d hd
          rw [hsize d hd, uuidSize]
          by_cases h1 : format = 1
          · simp [h1]
          · by_cases h2 : format = 2
            · simp [h2]
            · have hnone : data.length / 2 % 65536 = 0 := by
                by_contra hne
                exact hcut ⟨h1, h2, hne⟩
              simp [entriesOf, findInfoEntry, h1, h2, hnone, splitRecords] at hd
        obtain ⟨r, hr⟩ : ∃ r, descsOf dd.uuid (format == 1) 0xFFFF _ = .ok r := descsOf_whole hwhole
        rw [hr] at hf
        cases hf
      · rintro ⟨-, hnil | ⟨format', data', heq, h1, h2, hsome⟩⟩
        · cases hnil
        · obtain ⟨rfl, rfl⟩ := List.cons.inj heq
          refine descsOf_fault (fun hnil => hsome ?_) fun d hd => ?_
          · have hlen := congrArg List.length hnil
            simpa [entriesOf, findInfoEntry, h1, h2] using hlen
          · rw [hsize d hd, if_neg h1, if_neg h2, uuidSize]
            simp [h1]
  · constructor
    · rintro ⟨f, h⟩
      exact absurd h (descDiscovered_refused hop f)
    · intro h
      exact absurd h.1 hop

/-! Primary services -/

theorem primaryAll_reads (room : ℕ) (dp : DiscoverPrimary) (p : Pdu) (f : Fault) :
    primaryAllCb room dp p ≠ .stop (.fault f) := by
  intro h
  simp only [primaryAllCb] at h
  split at h
  · cases h
  · split at h
    · cases h
    · rename_i list hlist
      split at h
      · cases h
      · rename_i hlen
        split at h
        · rename_i g hg
          have hsize : uuidSize (list.len == 6) + 4 = list.len := by
            rw [uuidSize]
            by_cases h6 : list.len = 6
            · simp [h6]
            · have h20 : list.len = 20 := by
                by_contra h20
                exact hlen ⟨h6, h20⟩
              simp [h20]
          rw [mapM_ok (g := primaryAt (list.len == 6))
            fun d hd => primaryOf_ok (by rw [list.uniform d hd]; omega)] at hg
          cases hg
        · split at h
          · cases h
          · split at h
            · split at h <;> cases h
            · cases h

/-- Every response is read inside of its entries by the search for primary services. The other two
read behind them exactly when an entry is too short for the UUID that its size or format stands for. -/
theorem reads_inside (p : Pdu) :
    (∀ room dp f, primaryAllCb room dp p ≠ .stop (.fault f)) ∧
    (∀ dc, (∃ f, charDiscoveredCb dc p = .stop (.fault f)) ↔ CharsCut p) ∧
    ∀ dd, (∃ f, descDiscoveredCb dd p = .stop (.fault f)) ↔ DescsCut p :=
  ⟨fun room dp f => primaryAll_reads room dp p f, fun dc => charDiscovered_reads dc p,
    fun dd => descDiscovered_reads dd p⟩

end

end Gattlib.DiscoveryReads
